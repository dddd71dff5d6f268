/-
Every request gets its own answer.

The identifiers in the `pending` map belong to calls that hold them, no
two calls hold the same, and a sender leaves the map when it is used:
that is `Inv`, and it holds after any interleaving of any number of calls
with timeouts, dropped futures, messages without an answer, frames of any
content and a disconnect (`Inv.step`). Allocation fails at the end of the
identifier space, so the counter never wraps; it starts past the
identifier of the handshake, so no call ever has the identifier 0.
-/
import ZeroDpi.Helper.Exchange
import ZeroDpi.Lib.Run

namespace ZeroDpi.Helper

open Lib

namespace Exchange

-- =============================================================== points

/-- The sender of the call has been in the map. -/
def Point.Registered : Point → Prop
  | .entered | .checked | .allocated _ => False
  | _ => True

/-- The call is past its write. -/
def Point.Wrote : Point → Prop
  | .entered | .checked | .allocated _ | .inserted _ => False
  | _ => True

/-- The call has been given a message. -/
def Call.Holds (c : Call) (message : Message) : Prop :=
  c.channel = some (.ok message)
    ∨ ∃ requestId, c.point = .returned requestId (.ok message)

/-- The identifier of call `i`. -/
def requestId? (s : Exchange) (i : Nat) : Option UInt32 :=
  s.calls[i]?.bind fun c => c.point.requestId?

/-- Call `i` has an identifier, and its sender has been in the map. -/
def RegisteredAs (s : Exchange) (i : Nat) (id : UInt32) : Prop :=
  ∃ c : Call, s.calls[i]? = some c ∧ c.point.requestId? = some id
    ∧ c.point.Registered

/-- A frame with this message was sent to call `i`. -/
def SentTo (s : Exchange) (i : Nat) (message : Message) : Prop :=
  ∃ frame, (i, frame) ∈ s.sends ∧ frame.message = message

/-- The request identifiers on the wire. -/
def wireIds (s : Exchange) : List UInt32 :=
  s.wire.filterMap fun f =>
    if f.requestId = 0 then none else some f.requestId

theorem Call.send_point (answer : Except String Message) (c : Call) :
    (c.send answer).point = c.point := by
  unfold Call.send
  split <;> rfl

theorem Call.send_holds {answer : Except String Message} {c : Call}
    {message : Message} (h : (c.send answer).Holds message) :
    c.Holds message ∨ answer = .ok message := by
  rcases h with hchannel | ⟨requestId, hpoint⟩
  · unfold Call.send at hchannel
    split at hchannel
    · exact .inr (Option.some.inj hchannel)
    · exact .inr (Option.some.inj hchannel)
    · exact .inr (Option.some.inj hchannel)
    · exact .inl (.inl hchannel)
  · rw [Call.send_point] at hpoint
    exact .inl (.inr ⟨requestId, hpoint⟩)

-- ========================================================= the invariant

/-- What the shared data and the calls agree on. -/
structure Inv (s : Exchange) : Prop where
  counter : 2 ≤ s.nextRequestId.toNat
  allocated : ∀ {i id}, s.requestId? i = some id →
    2 ≤ id.toNat ∧ id.toNat < s.nextRequestId.toNat
  distinct : ∀ {i j id}, s.requestId? i = some id →
    s.requestId? j = some id → i = j
  keys : s.pending.NodupKeys
  bounded : s.pending.length ≤ maxPendingRequests
  /-- A sender in the map is that of the call with the key's identifier,
  and has not been used. -/
  senders : ∀ {id i}, s.pending.get? id = some i →
    s.RegisteredAs i id ∧ i ∉ s.sends.map Prod.fst
  /-- A used sender was that of a registered call, under its key. -/
  sent : ∀ {i frame}, (i, frame) ∈ s.sends →
    s.RegisteredAs i frame.requestId
  once : (s.sends.map Prod.fst).Nodup
  /-- Messages come from frames that were sent to the call. -/
  holds : ∀ {i : Nat} {c : Call} {message}, s.calls[i]? = some c → c.Holds message →
    s.SentTo i message
  wireOnce : s.wireIds.Nodup
  /-- A frame on the wire is the handshake, a message without an answer,
  or the request of a call past its write. -/
  written : ∀ {id}, id ∈ s.wireIds → id = 1 ∨ ∃ (i : Nat) (c : Call),
    s.calls[i]? = some c ∧ c.point.requestId? = some id ∧ c.point.Wrote

theorem inv_start (hello : Hello) : (start hello).Inv where
  counter := Nat.le_refl 2
  allocated h := by cases h
  distinct h := by cases h
  keys := List.nodup_nil
  bounded := Nat.zero_le _
  senders h := by cases h
  sent h := by cases h
  once := List.nodup_nil
  holds h := by cases h
  wireOnce := List.nodup_cons.mpr ⟨fun h => (by cases h), List.nodup_nil⟩
  written h := .inl (List.mem_singleton.mp h)

-- ============================================================ the pieces

/-- What a step leaves of a call whose sender and write it does not
touch: the identifier stays, the call gets on, and a message it has been
given was sent to it. -/
structure Keeps (s : Exchange) (i : Nat) (c c' : Call) : Prop where
  requestId : c'.point.requestId? = c.point.requestId?
  registered : c.point.Registered → c'.point.Registered
  wrote : c.point.Wrote → c'.point.Wrote
  holds : ∀ {message}, c'.Holds message →
    c.Holds message ∨ s.SentTo i message

theorem RegisteredAs.requestId? {s : Exchange} {i : Nat} {id : UInt32}
    (h : s.RegisteredAs i id) : s.requestId? i = some id := by
  obtain ⟨c, hc, hid, -⟩ := h
  unfold Exchange.requestId?
  rw [hc]
  exact hid

theorem Keeps.refl {s : Exchange} {i : Nat} {c : Call} : s.Keeps i c c :=
  ⟨rfl, id, id, .inl⟩

/-- A call that is sent something; a message comes from a frame. -/
theorem Keeps.send {s : Exchange} {i : Nat} {c : Call}
    {answer : Except String Message}
    (h : ∀ {message}, answer = .ok message → s.SentTo i message) :
    s.Keeps i c (c.send answer) := by
  have hpoint := Call.send_point answer c
  refine ⟨by rw [hpoint], ?_, ?_, fun hholds => ?_⟩
  · rw [hpoint]
    exact id
  · rw [hpoint]
    exact id
  · rcases Call.send_holds hholds with hold | hnew
    · exact .inl hold
    · exact .inr (h hnew)

variable {s : Exchange}

/-- A step that touches the calls and the counter only: what it has to
keep. -/
theorem Inv.recall (h : s.Inv) {s' : Exchange}
    (hpending : s'.pending = s.pending) (hsends : s'.sends = s.sends)
    (hwire : s'.wire = s.wire) (hcounter : 2 ≤ s'.nextRequestId.toNat)
    (hallocated : ∀ {i id}, s'.requestId? i = some id →
      2 ≤ id.toNat ∧ id.toNat < s'.nextRequestId.toNat)
    (hdistinct : ∀ {i j id}, s'.requestId? i = some id →
      s'.requestId? j = some id → i = j)
    (hregistered : ∀ {i id}, s.RegisteredAs i id → s'.RegisteredAs i id)
    (hwrote : ∀ {i : Nat} {c : Call} {id : UInt32}, s.calls[i]? = some c →
      c.point.requestId? = some id → c.point.Wrote →
      ∃ c' : Call, s'.calls[i]? = some c' ∧ c'.point.requestId? = some id
        ∧ c'.point.Wrote)
    (hholds : ∀ {i : Nat} {c' : Call} {message}, s'.calls[i]? = some c' →
      c'.Holds message → s.SentTo i message) : s'.Inv where
  counter := hcounter
  allocated := hallocated
  distinct := hdistinct
  keys := by
    rw [hpending]
    exact h.keys
  bounded := by
    rw [hpending]
    exact h.bounded
  senders hget := by
    rw [hpending] at hget
    rw [hsends]
    exact ⟨hregistered (h.senders hget).1, (h.senders hget).2⟩
  sent hmem := by
    rw [hsends] at hmem
    exact hregistered (h.sent hmem)
  once := by
    rw [hsends]
    exact h.once
  holds hc hhas := by
    unfold SentTo
    rw [hsends]
    exact hholds hc hhas
  wireOnce := by
    unfold wireIds
    rw [hwire]
    exact h.wireOnce
  written hid := by
    unfold wireIds at hid
    rw [hwire] at hid
    rcases h.written hid with hone | ⟨i, c, hc, hid, hpast⟩
    · exact .inl hone
    · exact .inr ⟨i, hwrote hc hid hpast⟩

/-- Calls that get on keep the invariant. -/
theorem Inv.calls (h : s.Inv) {calls : List Call}
    (hlen : calls.length = s.calls.length)
    (hkeeps : ∀ {i : Nat} {c c' : Call}, s.calls[i]? = some c →
      calls[i]? = some c' → s.Keeps i c c') :
    { s with calls := calls }.Inv := by
  have hforth : ∀ {i : Nat} {c : Call}, s.calls[i]? = some c →
      ∃ c', calls[i]? = some c' := by
    intro i c hc
    obtain ⟨hi, -⟩ := List.getElem?_eq_some_iff.mp hc
    exact ⟨_, List.getElem?_eq_getElem (hlen ▸ hi)⟩
  have hback : ∀ {i : Nat} {c' : Call}, calls[i]? = some c' →
      ∃ c, s.calls[i]? = some c := by
    intro i c' hc
    obtain ⟨hi, -⟩ := List.getElem?_eq_some_iff.mp hc
    exact ⟨_, List.getElem?_eq_getElem (hlen ▸ hi)⟩
  have hids : ∀ i, { s with calls := calls }.requestId? i
      = s.requestId? i := by
    intro i
    unfold requestId?
    cases hc : s.calls[i]? with
    | none =>
        cases hc' : calls[i]? with
        | none => rfl
        | some c' =>
            obtain ⟨c, hback⟩ := hback hc'
            rw [hc] at hback
            cases hback
    | some c =>
        obtain ⟨c', hc'⟩ := hforth hc
        show calls[i]?.bind _ = _
        rw [hc']
        exact (hkeeps hc hc').requestId
  have hregistered : ∀ {i id}, s.RegisteredAs i id →
      { s with calls := calls }.RegisteredAs i id := by
    intro i id hgiven
    obtain ⟨c, hc, hid, hreg⟩ := hgiven
    obtain ⟨c', hc'⟩ := hforth hc
    have hk := hkeeps hc hc'
    exact ⟨c', hc', hk.requestId.trans hid, hk.registered hreg⟩
  refine h.recall rfl rfl rfl h.counter
    (fun hid => h.allocated ((hids _).symm.trans hid))
    (fun hi hj => h.distinct ((hids _).symm.trans hi)
      ((hids _).symm.trans hj)) hregistered ?_ ?_
  · intro i c id hc hid hwrote
    obtain ⟨c', hc'⟩ := hforth hc
    have hk := hkeeps hc hc'
    exact ⟨c', hc', hk.requestId.trans hid, hk.wrote hwrote⟩
  · intro i c' message hc' hholds
    obtain ⟨c, hc⟩ := hback hc'
    rcases (hkeeps hc hc').holds hholds with hold | hsent
    · exact h.holds hc hold
    · exact hsent

/-- One call gets on. -/
theorem Inv.modify (h : s.Inv) {i : Nat} {f : Call → Call}
    (hkeeps : ∀ {c : Call}, s.calls[i]? = some c → s.Keeps i c (f c)) :
    { s with calls := s.calls.modify i f }.Inv := by
  refine h.calls (List.length_modify ..) fun {j c c'} hc hc' => ?_
  rw [List.getElem?_modify, hc] at hc'
  split at hc'
  · next hij =>
      subst hij
      cases hc'
      exact hkeeps hc
  · cases hc'
    exact .refl

/-- A call moves on; it returns a message only out of its channel. -/
theorem Inv.moveTo (h : s.Inv) {i : Nat} {c : Call} {point : Point}
    (hc : s.calls[i]? = some c)
    (hid : point.requestId? = c.point.requestId?)
    (hreg : c.point.Registered → point.Registered)
    (hwrote : c.point.Wrote → point.Wrote)
    (hok : ∀ {requestId message},
      point = .returned requestId (.ok message) →
        c.channel = some (.ok message)) :
    (s.moveTo i point).Inv := by
  refine h.modify fun {c'} hc' => ?_
  obtain rfl : c = c' := Option.some.inj (hc.symm.trans hc')
  refine ⟨hid, hreg, hwrote, fun hholds => .inl ?_⟩
  rcases hholds with hchannel | ⟨requestId, hpoint⟩
  · exact .inl hchannel
  · exact .inl (hok hpoint)

/-- A call fails. -/
theorem Inv.fails (h : s.Inv) {i : Nat} {c : Call}
    (hc : s.calls[i]? = some c) (error : String) :
    (s.moveTo i (.returned c.point.requestId? (.error error))).Inv := by
  refine h.moveTo hc rfl (fun _ => trivial) (fun _ => trivial) ?_
  intro requestId message hok
  cases hok

/-- A sender taken out of the map. -/
theorem Inv.remove (h : s.Inv) (id : UInt32) :
    { s with pending := s.pending.remove id }.Inv :=
  { h with
    keys := h.keys.remove
    bounded := Nat.le_trans (List.length_filter_le ..) h.bounded
    senders := fun {id' i} hget => by
      by_cases hid : id' = id
      · rw [hid, Table.get?_remove_self] at hget
        cases hget
      · rw [Table.get?_remove_ne hid] at hget
        exact h.senders hget }

/-- A call fails and takes its sender back. -/
theorem Inv.failsAndRemoves (h : s.Inv) {i : Nat} {c : Call}
    (hc : s.calls[i]? = some c) (error : String) (id : UInt32) :
    { s.moveTo i (.returned c.point.requestId? (.error error)) with
      pending := s.pending.remove id }.Inv :=
  (h.fails hc error).remove id

/-- A sender put into the map. -/
theorem Inv.insert (h : s.Inv) {id : UInt32} {i : Nat}
    (hid : s.RegisteredAs i id) (hunsent : i ∉ s.sends.map Prod.fst)
    (hroom : s.pending.length < maxPendingRequests) :
    { s with pending := s.pending.insert id i }.Inv :=
  { h with
    keys := h.keys.insert
    bounded := by
      have hlen : (s.pending.remove id).length ≤ s.pending.length :=
        List.length_filter_le ..
      show (s.pending.remove id).length + 1 ≤ maxPendingRequests
      omega
    senders := fun {id' j} hget => by
      by_cases heq : id' = id
      · rw [heq, Table.get?_insert_self] at hget
        cases hget
        rw [heq]
        exact ⟨hid, hunsent⟩
      · rw [Table.get?_insert_ne heq] at hget
        exact h.senders hget }

/-- Frames on the wire that expect no answer. -/
theorem Inv.notify (h : s.Inv) (io : Bool) (message : Message) :
    (s.notify io message).Inv := by
  have hids : (s.notify io message).wireIds = s.wireIds := by
    have hnone : (RemoteHelperClient.write io 0 message).filterMap (fun f =>
        if f.requestId = 0 then none else some f.requestId) = [] := by
      unfold RemoteHelperClient.write
      split
      · cases io <;> rfl
      · rfl
    unfold wireIds Exchange.notify
    rw [List.filterMap_append, hnone, List.append_nil]
  exact { h with
    wireOnce := by
      rw [hids]
      exact h.wireOnce
    written := fun hid => by
      rw [hids] at hid
      exact h.written hid }

/-- A request on the wire. -/
theorem Inv.wrote (h : s.Inv) {i : Nat} {c : Call} {id : UInt32}
    (hc : s.calls[i]? = some c) (hid : c.point.requestId? = some id)
    (hwrote : c.point.Wrote) (hnew : id ∉ s.wireIds) (message : Message) :
    { s with wire := s.wire ++ [Frame.mk id message] }.Inv := by
  have hzero : id ≠ 0 := by
    intro heq
    subst heq
    have hlow := (h.allocated (i := i) (by
      unfold Exchange.requestId?
      rw [hc]
      exact hid)).1
    exact absurd hlow (by decide)
  have hids : { s with wire := s.wire ++ [Frame.mk id message] }.wireIds
      = s.wireIds ++ [id] := by
    unfold wireIds
    rw [List.filterMap_append, List.filterMap_cons_some (b := id),
      List.filterMap_nil]
    rw [if_neg hzero]
  exact { h with
    wireOnce := by
      rw [hids]
      have hone : [id].Nodup :=
        List.nodup_cons.mpr ⟨List.not_mem_nil, List.nodup_nil⟩
      refine List.nodup_append.mpr ⟨h.wireOnce, hone, ?_⟩
      intro a ha b hb heq
      subst heq
      rw [List.mem_singleton.mp hb] at ha
      exact hnew ha
    written := fun {a} ha => by
      rw [hids] at ha
      rcases List.mem_append.mp ha with ha | ha
      · exact h.written ha
      · rw [List.mem_singleton.mp ha]
        exact .inr ⟨i, c, hc, hid, hwrote⟩ }

/-- A sender used: it is no longer in the map. -/
theorem Inv.use (h : s.Inv) {frame : Frame} {i : Nat}
    (hid : s.RegisteredAs i frame.requestId)
    (hunsent : i ∉ s.sends.map Prod.fst)
    (hgone : s.pending.get? frame.requestId = none) :
    { s with sends := s.sends ++ [(i, frame)] }.Inv := by
  have hfst : (s.sends ++ [(i, frame)]).map Prod.fst
      = s.sends.map Prod.fst ++ [i] := List.map_append
  exact { h with
    senders := fun {id j} hget => by
      obtain ⟨hreg, hnot⟩ := h.senders hget
      refine ⟨hreg, fun hmem => ?_⟩
      rw [hfst] at hmem
      rcases List.mem_append.mp hmem with hmem | hmem
      · exact hnot hmem
      · -- the sender of `i` is the one that was used
        rw [List.mem_singleton.mp hmem] at hreg
        have heq := hreg.requestId?.symm.trans hid.requestId?
        rw [Option.some.inj heq, hgone] at hget
        cases hget
    sent := fun {j f} hmem => by
      rcases List.mem_append.mp hmem with hmem | hmem
      · exact h.sent hmem
      · cases List.mem_singleton.mp hmem
        exact hid
    once := by
      show ((s.sends ++ [(i, frame)]).map Prod.fst).Nodup
      rw [hfst]
      have hone : [i].Nodup :=
        List.nodup_cons.mpr ⟨List.not_mem_nil, List.nodup_nil⟩
      refine List.nodup_append.mpr ⟨h.once, hone, ?_⟩
      intro a ha b hb heq
      subst heq
      rw [List.mem_singleton.mp hb] at ha
      exact hunsent ha
    holds := fun hc hholds => by
      obtain ⟨f, hf, hmessage⟩ := h.holds hc hholds
      exact ⟨f, List.mem_append_left _ hf, hmessage⟩ }

theorem Inv.disconnect (h : s.Inv) (reason : String) :
    (s.disconnect reason).Inv := by
  unfold Exchange.disconnect
  split
  · exact h
  · exact { h with }

/-- A frame's message sent to the call its identifier belongs to. -/
theorem Inv.answered (h : s.Inv) {frame : Frame} {i : Nat}
    (hget : s.pending.get? frame.requestId = some i) :
    { s with
      pending := s.pending.remove frame.requestId
      calls := s.calls.modify i (Call.send (.ok frame.message))
      sends := s.sends ++ [(i, frame)] }.Inv := by
  obtain ⟨hid, hunsent⟩ := h.senders hget
  have hused := (h.remove frame.requestId).use hid hunsent
    Table.get?_remove_self
  refine hused.modify fun _ => .send fun hanswer => ?_
  exact ⟨frame, List.mem_append_right _ List.mem_cons_self,
    Except.ok.inj hanswer⟩

theorem Inv.receive (h : s.Inv) (frame : Frame) :
    (s.receive frame).Inv := by
  unfold Exchange.receive
  split
  · exact h
  · exact h
  · exact h.disconnect _
  · split
    · exact h
    · next hget => exact h.answered hget

theorem Inv.drain (h : s.Inv) (reason : String) :
    (s.drain reason).Inv := by
  have hcalls : { s with calls := (s.drain reason).calls }.Inv := by
    refine h.calls List.length_mapIdx fun {i c c'} hc hc' => ?_
    unfold Exchange.drain at hc'
    rw [List.getElem?_mapIdx, hc] at hc'
    obtain rfl := Option.some.inj hc'
    split
    · exact .send fun hanswer => by cases hanswer
    · exact .refl
  exact { hcalls with
    keys := List.nodup_nil
    bounded := Nat.zero_le _
    senders := fun hget => by cases hget }

-- ========================================================= the identifiers

theorem requestId?_of_get {i : Nat} {c : Call}
    (hc : s.calls[i]? = some c) : s.requestId? i = c.point.requestId? := by
  unfold requestId?
  rw [hc]
  rfl

/-- A call allocates the next identifier. -/
theorem Inv.allocate (h : s.Inv) {i : Nat} {c : Call}
    (hc : s.calls[i]? = some c) (hpoint : c.point = .checked)
    (hroom : s.nextRequestId ≠ 0xFFFFFFFF) :
    { s.moveTo i (.allocated s.nextRequestId) with
      nextRequestId := s.nextRequestId + 1 }.Inv := by
  have hnext : (s.nextRequestId + 1).toNat = s.nextRequestId.toNat + 1 := by
    have hne : s.nextRequestId.toNat ≠ 0xFFFFFFFF := fun heq =>
      hroom (UInt32.toNat_inj.mp heq)
    have hlt := s.nextRequestId.toNat_lt
    rw [UInt32.toNat_add]
    exact Nat.mod_eq_of_lt (show _ + 1 < _ by omega)
  let s' : Exchange := { s.moveTo i (.allocated s.nextRequestId) with
    nextRequestId := s.nextRequestId + 1 }
  have hself : s'.calls[i]?
      = some { c with point := .allocated s.nextRequestId } := by
    show (s.calls.modify i _)[i]? = _
    rw [List.getElem?_modify_eq, hc]
    rfl
  have hother : ∀ {j : Nat}, j ≠ i → s'.calls[j]? = s.calls[j]? := by
    intro j hj
    exact List.getElem?_modify_ne _ _ fun heq => hj heq.symm
  have hold : ∀ {j : Nat} {id : UInt32}, s'.requestId? j = some id →
      j = i ∧ id = s.nextRequestId ∨ j ≠ i ∧ s.requestId? j = some id := by
    intro j id hid
    by_cases hj : j = i
    · subst hj
      rw [requestId?_of_get hself] at hid
      exact .inl ⟨rfl, (Option.some.inj hid).symm⟩
    · refine .inr ⟨hj, ?_⟩
      unfold requestId? at hid ⊢
      rw [← hother hj]
      exact hid
  -- the call had no sender and had written nothing before
  have hregistered : ∀ {j : Nat} {id : UInt32}, s.RegisteredAs j id →
      s'.RegisteredAs j id := by
    intro j id hgiven
    obtain ⟨c', hc', hid, hreg⟩ := hgiven
    have hj : j ≠ i := by
      intro heq
      subst heq
      rw [← Option.some.inj (hc.symm.trans hc'), hpoint] at hreg
      exact hreg
    exact ⟨c', (hother hj).trans hc', hid, hreg⟩
  refine h.recall rfl rfl rfl ?_ ?_ ?_ hregistered ?_ ?_
  · exact Nat.le_trans h.counter (by rw [hnext]; exact Nat.le_succ _)
  · intro j id hid
    show 2 ≤ id.toNat ∧ id.toNat < (s.nextRequestId + 1).toNat
    rw [hnext]
    rcases hold hid with ⟨-, rfl⟩ | ⟨-, hid⟩
    · exact ⟨h.counter, Nat.lt_succ_self _⟩
    · have hlt := (h.allocated hid).2
      exact ⟨(h.allocated hid).1, Nat.lt_succ_of_lt hlt⟩
  · intro j k id hj hk
    rcases hold hj with ⟨rfl, hidj⟩ | ⟨hji, hidj⟩
    · rcases hold hk with ⟨rfl, -⟩ | ⟨-, hidk⟩
      · rfl
      · have hlt := (h.allocated hidk).2
        rw [hidj] at hlt
        exact absurd hlt (Nat.lt_irrefl _)
    · rcases hold hk with ⟨-, hidk⟩ | ⟨-, hidk⟩
      · have hlt := (h.allocated hidj).2
        rw [hidk] at hlt
        exact absurd hlt (Nat.lt_irrefl _)
      · exact h.distinct hidj hidk
  · intro j c' id hc' hid hwrote
    have hj : j ≠ i := by
      intro heq
      subst heq
      rw [← Option.some.inj (hc.symm.trans hc'), hpoint] at hwrote
      exact hwrote
    exact ⟨c', (hother hj).trans hc', hid, hwrote⟩
  · intro j c' message hc' hholds
    by_cases hj : j = i
    · subst hj
      obtain rfl := Option.some.inj (hself.symm.trans hc')
      rcases hholds with hchannel | ⟨requestId, hreturned⟩
      · exact h.holds hc (.inl hchannel)
      · cases hreturned
    · exact h.holds ((hother hj).symm.trans hc') hholds

/-- A new call has done nothing yet. -/
theorem Inv.call (h : s.Inv) (message : Message) :
    { s with calls := s.calls ++ [Call.mk message .entered none] }.Inv := by
  let s' : Exchange :=
    { s with calls := s.calls ++ [⟨message, .entered, none⟩] }
  have hforth : ∀ {i : Nat} {c : Call}, s.calls[i]? = some c →
      s'.calls[i]? = some c := by
    intro i c hc
    obtain ⟨hi, -⟩ := List.getElem?_eq_some_iff.mp hc
    exact (List.getElem?_append_left hi).trans hc
  have hback : ∀ {i : Nat} {c : Call}, s'.calls[i]? = some c →
      s.calls[i]? = some c ∨ c = ⟨message, .entered, none⟩ := by
    intro i c hc
    by_cases hi : i < s.calls.length
    · exact .inl ((List.getElem?_append_left hi).symm.trans hc)
    · refine .inr (List.mem_singleton.mp ?_)
      have hc : (s.calls ++ [⟨message, .entered, none⟩])[i]? = some c := hc
      rw [List.getElem?_append_right (Nat.le_of_not_lt hi)] at hc
      exact List.mem_of_getElem? hc
  have hids : ∀ {i id}, s'.requestId? i = some id →
      s.requestId? i = some id := by
    intro i id hid
    obtain ⟨c, hc, hpoint⟩ := Option.bind_eq_some_iff.mp hid
    rcases hback hc with hc | rfl
    · exact (requestId?_of_get hc).trans hpoint
    · cases hpoint
  have hregistered : ∀ {i id}, s.RegisteredAs i id →
      s'.RegisteredAs i id := by
    intro i id hgiven
    obtain ⟨c, hc, hid, hreg⟩ := hgiven
    exact ⟨c, hforth hc, hid, hreg⟩
  refine h.recall rfl rfl rfl h.counter (fun hid => h.allocated (hids hid))
    (fun hi hj => h.distinct (hids hi) (hids hj)) hregistered ?_ ?_
  · intro i c id hc hid hwrote
    exact ⟨c, hforth hc, hid, hwrote⟩
  · intro i c message' hc hholds
    rcases hback hc with hc | rfl
    · exact h.holds hc hholds
    · rcases hholds with hchannel | ⟨requestId, hreturned⟩
      · cases hchannel
      · cases hreturned

-- ============================================================== one step

/-- The statements of `request`. -/
theorem Inv.advance (h : s.Inv) {i : Nat} {io : Bool} {s' : Exchange}
    (hs : s.advance i io = some s') : s'.Inv := by
  obtain ⟨⟨message, point, channel⟩, hc, hs⟩ :=
    Option.bind_eq_some_iff.mp hs
  cases point with
  | entered =>
      simp only at hs
      split at hs
      · cases hs
        exact h.fails hc _
      · cases hs
        exact h.moveTo hc rfl id id fun hok => by cases hok
  | checked =>
      simp only at hs
      split at hs
      · cases hs
        exact h.fails hc _
      · next hroom =>
          cases hs
          exact h.allocate hc rfl hroom
  | allocated requestId =>
      simp only at hs
      split at hs
      · cases hs
        exact h.fails hc _
      · next hroom =>
          cases hs
          have hmoved : (s.moveTo i (.inserted requestId)).Inv :=
            h.moveTo hc rfl (fun hreg => hreg.elim) id
              fun hok => by cases hok
          refine hmoved.insert ?_ ?_ (Nat.lt_of_not_le hroom)
          · refine ⟨⟨message, .inserted requestId, channel⟩, ?_, rfl, trivial⟩
            show (s.calls.modify i _)[i]? = _
            rw [List.getElem?_modify_eq, hc]
            rfl
          · -- nothing was sent before there was a sender
            intro hmem
            obtain ⟨⟨j, frame⟩, hsent, rfl⟩ := List.mem_map.mp hmem
            obtain ⟨c', hc', -, hreg⟩ := h.sent hsent
            rw [← Option.some.inj (hc.symm.trans hc')] at hreg
            exact hreg
  | inserted requestId =>
      have hunwritten : requestId ∉ s.wireIds := by
        intro hmem
        have hid : s.requestId? i = some requestId := requestId?_of_get hc
        rcases h.written hmem with rfl | ⟨j, c', hc', hid', hwrote⟩
        · have hlow := (h.allocated hid).1
          exact absurd hlow (by decide)
        · obtain rfl : j = i :=
            h.distinct ((requestId?_of_get hc').trans hid') hid
          rw [← Option.some.inj (hc.symm.trans hc')] at hwrote
          exact hwrote
      simp only at hs
      rcases RemoteHelperClient.write_cases io requestId message with hnone | hone
      · rw [hnone] at hs
        cases hs
        exact h.moveTo hc rfl id (fun hwrote => hwrote.elim)
          fun hok => by cases hok
      · rw [hone] at hs
        cases hs
        have hmoved : (s.moveTo i (.waiting requestId)).Inv :=
          h.moveTo hc rfl id (fun hwrote => hwrote.elim)
            fun hok => by cases hok
        have hcalls : (s.moveTo i (.waiting requestId)).calls[i]?
            = some ⟨message, .waiting requestId, channel⟩ := by
          show (s.calls.modify i _)[i]? = _
          rw [List.getElem?_modify_eq, hc]
          rfl
        exact hmoved.wrote hcalls rfl trivial hunwritten message
  | unwritten requestId =>
      cases hs
      exact h.failsAndRemoves hc _ requestId
  | waiting requestId =>
      cases channel with
      | some answer =>
          cases hs
          refine h.moveTo hc rfl id id fun hok => ?_
          cases hok
          rfl
      | none =>
          simp only at hs
          split at hs
          · cases hs
          · cases hs
            exact h.fails hc _
  | expired requestId =>
      cases hs
      exact h.failsAndRemoves hc _ requestId
  | abandoned requestId => cases hs
  | returned requestId result => cases hs

/-- Every step keeps the invariant. -/
theorem Inv.step (h : s.Inv) {act : Act} {s' : Exchange}
    (hs : s.step act = some s') : s'.Inv := by
  cases act with
  | call message =>
      cases hs
      exact h.call message
  | advance i io => exact h.advance hs
  | expire i =>
      obtain ⟨⟨message, point, channel⟩, hc, hs⟩ :=
        Option.bind_eq_some_iff.mp hs
      split at hs
      · next heq =>
          cases heq
          cases hs
          exact h.moveTo hc rfl id id fun hok => by cases hok
      · cases hs
  | abandon i =>
      obtain ⟨⟨message, point, channel⟩, hc, hs⟩ :=
        Option.bind_eq_some_iff.mp hs
      split at hs
      · next heq =>
          cases heq
          cases hs
          exact h.moveTo hc rfl id id fun hok => by cases hok
      · cases hs
  | ping io =>
      cases hs
      exact h.notify io .ping
  | removeFlow flowId io =>
      cases hs
      exact h.notify io (.removeFlow flowId)
  | receive frame =>
      cases hs
      exact h.receive frame
  | disconnect reason =>
      cases hs
      exact h.disconnect reason
  | drain =>
      obtain ⟨reason, -, rfl⟩ := Option.map_eq_some_iff.mp hs
      exact h.drain reason

-- ============================================================== matching

/-- The messages `handle_frame` looks a request up for. -/
def IsResponse : Message → Prop
  | .flowProgress _ _ | .helperWarning _ _ | .helperFatal _ _ => False
  | _ => True

/-- The timer of call `i` has fired. -/
def TimedOut (s : Exchange) (i : Nat) (id : UInt32) : Prop :=
  ∃ c : Call, s.calls[i]? = some c ∧ (c.point = .expired id
    ∨ c.point = .returned (some id)
      (.error "root helper request timed out"))

/-- Requests and responses match. -/
structure Matched (s : Exchange) : Prop where
  /-- No two frames are sent to one call. -/
  once : (s.sends.map Prod.fst).Nodup
  /-- A frame is sent to the call whose identifier it carries. -/
  own : ∀ {i frame}, (i, frame) ∈ s.sends →
    s.requestId? i = some frame.requestId
  /-- A call that succeeds returns the message of such a frame. -/
  result : ∀ {i : Nat} {c : Call} {requestId message},
    s.calls[i]? = some c → c.point = .returned requestId (.ok message) →
      s.SentTo i message
  /-- No identifier is allocated twice. -/
  distinct : ∀ {i j id}, s.requestId? i = some id →
    s.requestId? j = some id → i = j
  /-- None is written twice in the session, handshake included. -/
  wire : s.wireIds.Nodup
  /-- A frame without an identifier is sent to nobody. -/
  zero : ∀ {i frame}, (i, frame) ∈ s.sends → frame.requestId ≠ 0
  bounded : s.pending.length ≤ maxPendingRequests
  /-- The response to a request that timed out changes no call. -/
  late : ∀ {i : Nat} {frame : Frame}, IsResponse frame.message →
    s.TimedOut i frame.requestId → (s.receive frame).calls = s.calls

/-- A response does nothing, or is sent to the call the map names. -/
theorem receive_response {frame : Frame} (h : IsResponse frame.message) :
    (s.pending.get? frame.requestId = none ∧ s.receive frame = s)
      ∨ ∃ i, s.pending.get? frame.requestId = some i
        ∧ s.receive frame = { s with
          pending := s.pending.remove frame.requestId
          calls := s.calls.modify i (Call.send (.ok frame.message))
          sends := s.sends ++ [(i, frame)] } := by
  unfold receive
  split
  · next hm =>
      rw [hm] at h
      exact h.elim
  · next hm =>
      rw [hm] at h
      exact h.elim
  · next hm =>
      rw [hm] at h
      exact h.elim
  · split
    · next hget => exact .inl ⟨hget, rfl⟩
    · next i hget => exact .inr ⟨i, hget, rfl⟩

/-- Sending to a call whose timer has fired changes nothing. -/
theorem TimedOut.send {i : Nat} {id : UInt32} (h : s.TimedOut i id)
    (answer : Except String Message) :
    s.calls.modify i (Call.send answer) = s.calls := by
  obtain ⟨c, hc, hpoint⟩ := h
  have hsend : c.send answer = c := by
    unfold Call.send
    rcases hpoint with hpoint | hpoint
    · rw [hpoint]
    · rw [hpoint]
  refine List.ext_getElem? fun j => ?_
  by_cases hj : i = j
  · rw [← hj, List.getElem?_modify_eq, hc]
    exact congrArg some hsend
  · exact List.getElem?_modify_ne _ _ hj

theorem Inv.matched (h : s.Inv) : s.Matched where
  once := h.once
  own hmem := (h.sent hmem).requestId?
  result hc hpoint := h.holds hc (.inr ⟨_, hpoint⟩)
  distinct := h.distinct
  wire := h.wireOnce
  zero hmem hzero := by
    have hlow := (h.allocated (h.sent hmem).requestId?).1
    rw [hzero] at hlow
    exact absurd hlow (by decide)
  bounded := h.bounded
  late {i frame} hresponse htimed := by
    rcases receive_response hresponse with ⟨-, hsame⟩ | ⟨j, hget, hsent⟩
    · rw [hsame]
    · -- the map can only name the call that timed out
      have hid : s.requestId? i = some frame.requestId := by
        obtain ⟨c, hc, hpoint⟩ := htimed
        rw [requestId?_of_get hc]
        rcases hpoint with hpoint | hpoint
        · rw [hpoint]
          rfl
        · rw [hpoint]
          rfl
      obtain rfl : j = i :=
        h.distinct (h.senders hget).1.requestId? hid
      rw [hsent]
      exact htimed.send _

/-- After any interleaving of any number of calls with timeouts, dropped
futures, messages without an answer, frames of any content in any order
and a disconnect, requests and responses match. -/
theorem requests_matched (hello : Hello) (acts : List Act) (s : Exchange)
    (hrun : Run (fun s act s' => s.step act = some s') (start hello) acts
      s) : s.Matched := by
  have hinv : s.Inv := hrun.invariant
    (fun {_ _ _} h hs => Inv.step h hs) (inv_start hello)
  exact hinv.matched

/-- Two requests at once: the second is answered first, the first times
out, and its answer comes too late. -/
def sampleActs : List Act :=
  [.call .openInterceptor, .call .closeInterceptor, .advance 0 true,
   .advance 1 true, .advance 0 true, .advance 1 true, .advance 1 true,
   .advance 0 true, .advance 0 true, .ping true, .advance 1 true,
   .receive ⟨3, .interceptorClosed⟩, .expire 0, .advance 0 true,
   .receive ⟨2, .interceptorReady⟩, .advance 1 true]

theorem sample_requests_matched :
    ∃ s, Run (fun s act s' => s.step act = some s')
        (start ⟨[], 7, "1"⟩) sampleActs s
      ∧ s.sends = [(1, ⟨3, .interceptorClosed⟩)] ∧ s.Matched := by
  have hrun : ∃ s, Run (fun s act s' => s.step act = some s')
      (start ⟨[], 7, "1"⟩) sampleActs s
        ∧ s.sends = [(1, ⟨3, .interceptorClosed⟩)] :=
    ⟨_, .cons rfl <| .cons rfl <| .cons rfl <| .cons rfl <|
      .cons rfl <| .cons rfl <| .cons rfl <| .cons rfl <| .cons rfl <|
      .cons rfl <| .cons rfl <| .cons rfl <| .cons rfl <| .cons rfl <|
      .cons rfl <| .cons rfl <| .nil _, rfl⟩
  obtain ⟨s, hrun, hsends⟩ := hrun
  exact ⟨s, hrun, hsends, requests_matched ⟨[], 7, "1"⟩ sampleActs s hrun⟩

end Exchange
end ZeroDpi.Helper
