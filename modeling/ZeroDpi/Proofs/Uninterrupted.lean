/-
The two models of the client's requests.

`Helper.Client` takes a `request` up to its wait in one step, and a frame,
a timeout or a disconnect in one step each; `Helper.Exchange` takes them
statement by statement. The first is the second without interruptions:
each of its operations is a run of `Exchange.step` that nothing else gets
into, with the same identifiers, the same `pending` map, the same frames
and the same error texts (`request_uninterrupted`, `Shows.disconnect`,
`receive_uninterrupted`, `timeOut_uninterrupted`).
-/
import ZeroDpi.Proofs.Exchange

namespace ZeroDpi.Helper

open Lib

namespace Exchange

variable {s : Exchange} {c : RemoteHelperClient}

/-- The shared data is the client's. -/
structure Shows (s : Exchange) (c : RemoteHelperClient) : Prop where
  nextRequestId : s.nextRequestId = c.nextRequestId
  pending : s.pending.map Prod.fst = c.pending
  disconnected : s.disconnected = c.disconnected
  settled : s.draining = none

/-- Steps one after another. -/
def Steps : Exchange → List Act → Exchange → Prop :=
  Run fun s act s' => s.step act = some s'

-- ============================================================ one call

/-- A state with one more call. -/
def withCall (s : Exchange) (call : Call) : Exchange :=
  { s with calls := s.calls ++ [call] }

theorem withCall_get (s : Exchange) (call : Call) :
    (s.withCall call).calls[s.calls.length]? = some call := by
  show (s.calls ++ [call])[s.calls.length]? = some call
  simp

theorem moveTo_withCall (s : Exchange) (call : Call) (point : Point) :
    (s.withCall call).moveTo s.calls.length point
      = s.withCall { call with point := point } := by
  unfold moveTo withCall
  simp [List.modify_eq_take_drop]

section Statements

variable {message : Message} {io : Bool}

theorem step_disconnected (h : s.disconnected = true) :
    (s.withCall ⟨message, .entered, none⟩).step (.advance s.calls.length io)
      = some (s.withCall ⟨message,
        .returned none (.error "root helper is disconnected"), none⟩) := by
  have hflag : (s.withCall ⟨message, .entered, none⟩).disconnected
      = true := h
  simp only [step, advance, withCall_get, Option.bind_eq_bind,
    Option.bind_some, hflag, if_true, moveTo_withCall]
  rfl

theorem step_entered (h : s.disconnected = false) :
    (s.withCall ⟨message, .entered, none⟩).step (.advance s.calls.length io)
      = some (s.withCall ⟨message, .checked, none⟩) := by
  have hflag : (s.withCall ⟨message, .entered, none⟩).disconnected
      = false := h
  simp only [step, advance, withCall_get, Option.bind_eq_bind,
    Option.bind_some, hflag, moveTo_withCall]
  rfl

theorem step_exhausted (h : s.nextRequestId = 0xFFFFFFFF) :
    (s.withCall ⟨message, .checked, none⟩).step (.advance s.calls.length io)
      = some (s.withCall ⟨message, .returned none
        (.error "helper request identifier space exhausted"), none⟩) := by
  have hcounter : (s.withCall ⟨message, .checked, none⟩).nextRequestId
      = 0xFFFFFFFF := h
  simp only [step, advance, withCall_get, Option.bind_eq_bind,
    Option.bind_some, hcounter, if_true, moveTo_withCall]
  rfl

theorem step_checked (h : s.nextRequestId ≠ 0xFFFFFFFF) :
    (s.withCall ⟨message, .checked, none⟩).step (.advance s.calls.length io)
      = some ({ s with nextRequestId := s.nextRequestId + 1 }.withCall
        ⟨message, .allocated s.nextRequestId, none⟩) := by
  have hcounter : (s.withCall ⟨message, .checked, none⟩).nextRequestId
      ≠ 0xFFFFFFFF := h
  simp only [step, advance, withCall_get, Option.bind_eq_bind,
    Option.bind_some, if_neg hcounter, moveTo_withCall]
  rfl

theorem step_full {id : UInt32}
    (h : maxPendingRequests ≤ s.pending.length) :
    (s.withCall ⟨message, .allocated id, none⟩).step
        (.advance s.calls.length io)
      = some (s.withCall ⟨message, .returned (some id)
        (.error "too many outstanding root-helper requests"), none⟩) := by
  have hfull : maxPendingRequests
      ≤ (s.withCall ⟨message, .allocated id, none⟩).pending.length := h
  simp only [step, advance, withCall_get, Option.bind_eq_bind,
    Option.bind_some, if_pos hfull, moveTo_withCall]
  rfl

theorem step_allocated {id : UInt32}
    (h : ¬ maxPendingRequests ≤ s.pending.length) :
    (s.withCall ⟨message, .allocated id, none⟩).step
        (.advance s.calls.length io)
      = some ({ s with
          pending := s.pending.insert id s.calls.length }.withCall
        ⟨message, .inserted id, none⟩) := by
  have hroom : ¬ maxPendingRequests
      ≤ (s.withCall ⟨message, .allocated id, none⟩).pending.length := h
  simp only [step, advance, withCall_get, Option.bind_eq_bind,
    Option.bind_some, if_neg hroom, moveTo_withCall]
  rfl

theorem step_unsent {id : UInt32}
    (h : RemoteHelperClient.write io id message = []) :
    (s.withCall ⟨message, .inserted id, none⟩).step
        (.advance s.calls.length io)
      = some (s.withCall ⟨message, .unwritten id, none⟩) := by
  simp only [step, advance, withCall_get, Option.bind_eq_bind,
    Option.bind_some, h, moveTo_withCall]
  rfl

theorem step_sent {id : UInt32}
    (h : RemoteHelperClient.write io id message = [⟨id, message⟩]) :
    (s.withCall ⟨message, .inserted id, none⟩).step
        (.advance s.calls.length io)
      = some ({ s with wire := s.wire ++ [Frame.mk id message] }.withCall
        ⟨message, .waiting id, none⟩) := by
  simp only [step, advance, withCall_get, Option.bind_eq_bind,
    Option.bind_some, h, moveTo_withCall]
  rfl

theorem step_unwritten {id : UInt32} :
    (s.withCall ⟨message, .unwritten id, none⟩).step
        (.advance s.calls.length io)
      = some ({ s with pending := s.pending.remove id }.withCall
        ⟨message, .returned (some id) (.error "write root-helper request"),
          none⟩) := by
  simp only [step, advance, withCall_get, Option.bind_eq_bind,
    Option.bind_some, moveTo_withCall]
  rfl

end Statements

/-- Where a call is that waits, or has failed before its wait. -/
def Ends : Except String UInt32 → Point → Prop
  | .ok requestId, point => point = .waiting requestId
  | .error e, point => ∃ requestId, point = .returned requestId (.error e)

/-- The next identifier is not in the map. -/
theorem Inv.next_fresh (h : s.Inv) :
    s.pending.get? s.nextRequestId = none := by
  cases hget : s.pending.get? s.nextRequestId with
  | none => rfl
  | some i =>
      have hlt := (h.allocated (h.senders hget).1.requestId?).2
      exact absurd hlt (Nat.lt_irrefl _)

/-- `beginRequest` is a call that runs to its wait, or to its error, by
itself. -/
theorem request_uninterrupted (h : s.Shows c) (hinv : s.Inv) (io : Bool)
    (message : Message) :
    ∃ n s' point,
      s.Steps (.call message
        :: List.replicate n (.advance s.calls.length io)) s'
      ∧ s'.Shows (c.beginRequest io message).client
      ∧ s'.wire = s.wire ++ (c.beginRequest io message).wrote
      ∧ s'.calls = s.calls ++ [⟨message, point, none⟩]
      ∧ Ends (c.beginRequest io message).waits point := by
  have hcall : s.step (.call message)
      = some (s.withCall ⟨message, .entered, none⟩) := rfl
  unfold RemoteHelperClient.beginRequest
  by_cases hdisc : c.disconnected = true
  · rw [if_pos hdisc]
    have hflag : s.disconnected = true := h.disconnected.trans hdisc
    exact ⟨1, _, _, .cons hcall (.cons (step_disconnected hflag) (.nil _)),
      ⟨h.nextRequestId, h.pending, h.disconnected, h.settled⟩,
      (List.append_nil _).symm, rfl, none, rfl⟩
  rw [if_neg hdisc]
  have hentered : (s.withCall ⟨message, .entered, none⟩).step
      (.advance s.calls.length io)
        = some (s.withCall ⟨message, .checked, none⟩) :=
    step_entered (h.disconnected.trans (by simpa using hdisc))
  by_cases hids : c.nextRequestId = 0xFFFFFFFF
  · rw [if_pos hids]
    have hcounter := h.nextRequestId.trans hids
    exact ⟨2, _, _, .cons hcall (.cons hentered
        (.cons (step_exhausted hcounter) (.nil _))),
      ⟨h.nextRequestId, h.pending, h.disconnected, h.settled⟩,
      (List.append_nil _).symm, rfl, none, rfl⟩
  rw [if_neg hids]
  -- from here on the call has an identifier
  have hchecked : (s.withCall ⟨message, .checked, none⟩).step
      (.advance s.calls.length io)
        = some ({ s with nextRequestId := s.nextRequestId + 1 }.withCall
          ⟨message, .allocated s.nextRequestId, none⟩) :=
    step_checked fun hcounter => hids (h.nextRequestId.symm.trans hcounter)
  have hcounter : s.nextRequestId + 1 = c.nextRequestId + 1 :=
    congrArg (· + 1) h.nextRequestId
  have hlength : s.pending.length = c.pending.length := by
    rw [← h.pending, List.length_map]
  simp only
  by_cases hfull : maxPendingRequests ≤ c.pending.length
  · rw [if_pos hfull]
    exact ⟨3, _, _, .cons hcall (.cons hentered (.cons hchecked
        (.cons (step_full (hlength ▸ hfull)) (.nil _)))),
      ⟨hcounter, h.pending, h.disconnected, h.settled⟩,
      (List.append_nil _).symm, rfl, some s.nextRequestId, rfl⟩
  rw [if_neg hfull]
  have hallocated : ({ s with
      nextRequestId := s.nextRequestId + 1 }.withCall
        ⟨message, .allocated s.nextRequestId, none⟩).step
      (.advance s.calls.length io)
        = some ({ s with
            nextRequestId := s.nextRequestId + 1
            pending := s.pending.insert s.nextRequestId
              s.calls.length }.withCall
          ⟨message, .inserted s.nextRequestId, none⟩) :=
    step_allocated (s := { s with nextRequestId := s.nextRequestId + 1 })
      fun hle => hfull (hlength ▸ hle)
  have hgone : s.pending.remove s.nextRequestId = s.pending :=
    Table.remove_eq_self hinv.next_fresh
  rcases RemoteHelperClient.write_cases io s.nextRequestId message
    with hwrite | hwrite
  · rw [← h.nextRequestId, hwrite]
    refine ⟨5, _, _, .cons hcall (.cons hentered (.cons hchecked
      (.cons hallocated (.cons (step_unsent hwrite)
        (.cons step_unwritten (.nil _)))))), ⟨?_, ?_, h.disconnected,
      h.settled⟩, (List.append_nil _).symm, rfl, some s.nextRequestId, rfl⟩
    · rfl
    · show ((s.pending.insert s.nextRequestId s.calls.length).remove
        s.nextRequestId).map Prod.fst = c.pending
      rw [Table.remove_insert_self, hgone]
      exact h.pending
  · rw [← h.nextRequestId, hwrite]
    refine ⟨4, _, _, .cons hcall (.cons hentered (.cons hchecked
      (.cons hallocated (.cons (step_sent hwrite) (.nil _))))),
      ⟨rfl, ?_, h.disconnected, h.settled⟩, rfl, rfl, rfl⟩
    show ((s.nextRequestId, s.calls.length)
      :: s.pending.remove s.nextRequestId).map Prod.fst
        = s.nextRequestId :: c.pending
    rw [hgone, List.map_cons, h.pending]

-- ===================================================== the other threads

/-- The end of a connection is its flag, and then its drain if the flag
was not up. -/
theorem Shows.disconnect (h : s.Shows c) (reason : String) :
    ∃ acts s', (s.disconnect reason).Steps acts s'
      ∧ (acts = [] ∨ acts = [.drain])
      ∧ s'.Shows (c.disconnect reason) := by
  unfold RemoteHelperClient.disconnect
  by_cases hdisc : c.disconnected = true
  · have hsame : s.disconnect reason = s := by
      unfold Exchange.disconnect
      rw [if_pos (h.disconnected.trans hdisc)]
    rw [if_pos hdisc, hsame]
    exact ⟨[], s, .nil _, .inl rfl, h⟩
  · have hflagged : s.disconnect reason
        = { s with disconnected := true, draining := some reason } := by
      unfold Exchange.disconnect
      rw [if_neg fun hflag => hdisc (h.disconnected.symm.trans hflag)]
    rw [if_neg hdisc, hflagged]
    exact ⟨[.drain], _, .cons rfl (.nil _), .inr rfl,
      h.nextRequestId, rfl, rfl, rfl⟩

theorem handleFrame_of_response {frame : Frame}
    (h : IsResponse frame.message) :
    c.handleFrame frame = if c.pending.contains frame.requestId then
      { c with
        pending := c.pending.filter (· ≠ frame.requestId)
        answers := c.answers.insert frame.requestId (.ok frame.message) }
      else c := by
  obtain ⟨requestId, message⟩ := frame
  cases message with
  | flowProgress flowId progress => exact h.elim
  | helperWarning code text => exact h.elim
  | helperFatal code text => exact h.elim
  | _ => rfl

theorem Shows.contains (h : s.Shows c) (requestId : UInt32) :
    c.pending.contains requestId
      = (s.pending.get? requestId).isSome := by
  rw [← h.pending, ← Table.containsKey_eq_isSome, Bool.eq_iff_iff]
  unfold Table.containsKey
  simp

theorem Shows.response (h : s.Shows c) {frame : Frame}
    (hm : IsResponse frame.message) :
    (s.receive frame).Shows (c.handleFrame frame) := by
  rw [handleFrame_of_response hm, h.contains]
  rcases receive_response hm with ⟨hget, hsame⟩ | ⟨i, hget, hsent⟩
  · rw [hget, hsame]
    exact h
  · rw [hget, hsent]
    refine ⟨h.nextRequestId, ?_, h.disconnected, h.settled⟩
    show (s.pending.remove frame.requestId).map Prod.fst = _
    rw [Table.map_fst_remove, h.pending]
    rfl

/-- A frame is one step, and a fatal one ends the connection. -/
theorem receive_uninterrupted (h : s.Shows c) (frame : Frame) :
    ∃ acts s', s.Steps (.receive frame :: acts) s'
      ∧ (acts = [] ∨ acts = [.drain])
      ∧ s'.Shows (c.handleFrame frame) := by
  obtain ⟨requestId, message⟩ := frame
  cases message with
  | flowProgress flowId progress =>
      exact ⟨[], s, .cons rfl (.nil _), .inl rfl,
        h.nextRequestId, h.pending, h.disconnected, h.settled⟩
  | helperWarning code text =>
      exact ⟨[], s, .cons rfl (.nil _), .inl rfl, h⟩
  | helperFatal code text =>
      obtain ⟨acts, s', hrun, hacts, hshows⟩ := h.disconnect text
      exact ⟨acts, s', .cons rfl hrun, hacts, hshows⟩
  | _ => exact ⟨[], _, .cons rfl (.nil _), .inl rfl, h.response trivial⟩

/-- A timeout is the timer and the statement after it. -/
theorem timeOut_uninterrupted (h : s.Shows c) {i : Nat} {message : Message}
    {id : UInt32} (hi : s.calls[i]? = some ⟨message, .waiting id, none⟩)
    (io : Bool) :
    ∃ s', s.Steps [.expire i, .advance i io] s'
      ∧ s'.Shows (c.timeOut id) := by
  have hexpire : s.step (.expire i) = some (s.moveTo i (.expired id)) := by
    simp only [step, hi, Option.bind_eq_bind, Option.bind_some]
    rfl
  have hget : (s.moveTo i (.expired id)).calls[i]?
      = some ⟨message, .expired id, none⟩ := by
    show (s.calls.modify i _)[i]? = _
    rw [List.getElem?_modify_eq, hi]
    rfl
  have hadvance : (s.moveTo i (.expired id)).step (.advance i io)
      = some { (s.moveTo i (.expired id)).moveTo i (.returned (some id)
          (.error "root helper request timed out")) with
        pending := s.pending.remove id } := by
    simp only [step, advance, hget, Option.bind_eq_bind, Option.bind_some]
    rfl
  refine ⟨_, .cons hexpire (.cons hadvance (.nil _)), h.nextRequestId, ?_,
    h.disconnected, h.settled⟩
  show (s.pending.remove id).map Prod.fst = c.pending.filter (· ≠ id)
  rw [Table.map_fst_remove, h.pending]

end Exchange

end ZeroDpi.Helper
