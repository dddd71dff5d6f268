/-
One spec per hook.

Under known sequence numbers a handshake hook never panics, leaves the
captured half of the packet alone, and answers with an action that only
depends on the captured packet (`Member.handshakeAction`): what the
members before it staged does not reach it. The composite's answer is
then a function of the captured packet too (`handshakeAnswer`), and the
proofs above this file work with that function.

The data hooks never panic either, for the members `buildMethod` puts in
the data stage (`Member.DataReady`); `urg_sni_split`, whose data hook can,
is not one of them.
-/
import ZeroDpi.Methods.Composite
import ZeroDpi.Proofs.Config

namespace ZeroDpi

open Lib

/-- Both initial sequence numbers have been seen. -/
def FlowState.SeqsKnown (s : FlowState) : Prop :=
  s.synSeq.isSome = true ∧ s.synAckSeq.isSome = true

/-- An emission is not an abort. -/
theorem MethodAction.emit_ne_abort (immediate more : Bool) :
    emitFakeAndAccept immediate more ≠ abortAndAccept := by
  intro h
  cases h

/-- Nor is what the shapers answer. -/
theorem MethodAction.emitShaped_ne_abort (onlyFirstPacket : Bool) :
    emitShaped onlyFirstPacket ≠ abortAndAccept := by
  cases onlyFirstPacket with
  | true => exact emit_ne_abort true false
  | false => exact emit_ne_abort false true

-- ============================================================= members

namespace Member

/-- The action a member answers the handshake ACK with. -/
def handshakeAction (m : Member) (c : CapturedPacket) : MethodAction :=
  match m with
  | .wrongSeq _ => .emitAndWaitForAck
  | .wrongAck m => .emitUnless m.completeImmediately
  | .wrongChecksum m => .emitUnless m.completeImmediately
  | .wrongMd5 m => .emitUnless m.completeImmediately
  | .wrongTimestamp m =>
      if (backdateTcpTimestamp c.tcpOptions m.offset).isNone then
        .abortAndAccept
      else .emitUnless m.completeImmediately
  | .lowTtl m => .emitUnless m.completeImmediately
  | _ => .passThrough

/-- The handshake hook, in full: the action, and a view that still shows
the captured packet. -/
theorem handshake_spec (m : Member) (env : HookEnv) {s : FlowState}
    (hs : s.SeqsKnown) (pkt : PacketView) :
    ∃ v, BypassMethod.onHandshakeCompleteAck m env s pkt
        = .ok (m.handshakeAction pkt.toCapturedPacket, v)
      ∧ v.toCapturedPacket = pkt.toCapturedPacket := by
  obtain ⟨synSeq, hsyn⟩ := Option.isSome_iff_exists.mp hs.1
  obtain ⟨synAckSeq, hsynAck⟩ := Option.isSome_iff_exists.mp hs.2
  cases m with
  | wrongSeq m =>
      show ∃ v, m.onHandshakeCompleteAck s pkt = _ ∧ _
      simp only [WrongSeq.onHandshakeCompleteAck, hsyn]
      exact ⟨_, rfl, rfl⟩
  | wrongAck m =>
      show ∃ v, m.onHandshakeCompleteAck s pkt = _ ∧ _
      simp only [WrongAck.onHandshakeCompleteAck, hsynAck]
      exact ⟨_, rfl, rfl⟩
  | wrongTimestamp m =>
      show ∃ v, m.onHandshakeCompleteAck s pkt = _ ∧ _
      simp only [WrongTimestamp.onHandshakeCompleteAck, handshakeAction]
      cases backdateTcpTimestamp pkt.tcpOptions m.offset with
      | none => exact ⟨pkt, rfl, rfl⟩
      | some options => exact ⟨_, rfl, rfl⟩
  | wrongChecksum m => exact ⟨_, rfl, rfl⟩
  | wrongMd5 m => exact ⟨_, rfl, rfl⟩
  | lowTtl m => exact ⟨_, rfl, rfl⟩
  | urgSniSplit m => exact ⟨_, rfl, rfl⟩
  | tlsRecordFrag m => exact ⟨_, rfl, rfl⟩
  | fakeTls m => exact ⟨_, rfl, rfl⟩
  | ipFrag m => exact ⟨_, rfl, rfl⟩
  | disorder m => exact ⟨_, rfl, rfl⟩
  | seqovl m => exact ⟨_, rfl, rfl⟩

/-- The members the builder may put in the data stage. -/
def DataReady : Member → Prop
  | .tlsRecordFrag m => 0 < m.fragSize
  | .fakeTls _ | .ipFrag _ | .disorder _ | .seqovl _ => True
  | _ => False

/-- The data hook of a data-stage member answers, with a view that still
shows the captured packet, and never with an abort. -/
theorem data_spec {m : Member} (hm : m.DataReady) (env : HookEnv)
    {s : FlowState} (hs : s.SeqsKnown) (pkt : PacketView) :
    ∃ action v, BypassMethod.onFirstDataPacket m env s pkt
        = .ok (action, v)
      ∧ v.toCapturedPacket = pkt.toCapturedPacket
      ∧ action ≠ .abortAndAccept := by
  obtain ⟨synSeq, hsyn⟩ := Option.isSome_iff_exists.mp hs.1
  cases m with
  | tlsRecordFrag m =>
      have hsize : m.fragSize ≠ 0 := Nat.pos_iff_ne_zero.mp hm
      show ∃ a v, m.onFirstDataPacket pkt = _ ∧ _
      simp only [TlsRecordFrag.onFirstDataPacket, fragmentPayload, hsize,
        if_false]
      cases fragmentRecords m.fragSize pkt.payload.length pkt.payload with
      | none => exact ⟨_, _, rfl, rfl, by decide⟩
      | some out => exact ⟨_, _, rfl, rfl, by decide⟩
  | fakeTls m =>
      show ∃ a v, m.onFirstDataPacket env s pkt = _ ∧ _
      simp only [FakeTls.onFirstDataPacket, hsyn]
      split
      · exact ⟨_, _, rfl, rfl, by decide⟩
      · split
        · exact ⟨_, _, rfl, rfl, MethodAction.emit_ne_abort _ _⟩
        · exact ⟨_, _, rfl, rfl, MethodAction.emit_ne_abort _ _⟩
  | ipFrag m =>
      refine ⟨_, _, rfl, ?_, ?_⟩
      · show (if _ then _ else _ : PacketView).toCapturedPacket = _
        split <;> rfl
      · exact MethodAction.emitShaped_ne_abort m.onlyFirstPacket
  | disorder m =>
      refine ⟨_, _, rfl, ?_, ?_⟩
      · show (pkt.stageSegments m.spec).toCapturedPacket = _
        unfold PacketView.stageSegments
        split <;> rfl
      · exact MethodAction.emitShaped_ne_abort m.onlyFirstPacket
  | seqovl m =>
      refine ⟨_, _, rfl, ?_, by decide⟩
      show (pkt.stageSegments m.spec).toCapturedPacket = _
      unfold PacketView.stageSegments
      split <;> rfl
  | _ => cases hm

end Member

-- ======================================================= handshake stage

/-- The actions the handshake-stage members return, in order, each on the
view its predecessors left. -/
def handshakeActions {μ : Type} [BypassMethod μ] (env : HookEnv)
    (flow : FlowState) : List μ → PacketView → Except Panic (List MethodAction)
  | [], _ => .ok []
  | m :: rest, pkt => do
      let (action, v) ← BypassMethod.onHandshakeCompleteAck m env flow pkt
      return action :: (← handshakeActions env flow rest v)

/-- With members of the closed sum, each action is the member's own. -/
theorem handshakeActions_eq (env : HookEnv) {s : FlowState}
    (hs : s.SeqsKnown) (ms : List Member) (pkt : PacketView) :
    handshakeActions env s ms pkt
      = .ok (ms.map fun m => m.handshakeAction pkt.toCapturedPacket) := by
  induction ms generalizing pkt with
  | nil => rfl
  | cons m rest ih =>
      obtain ⟨v, hhook, hv⟩ := m.handshake_spec env hs pkt
      refine bind_eq_ok.mpr ⟨_, hhook, ?_⟩
      rw [← hv]
      exact bind_eq_ok.mpr ⟨_, ih v, rfl⟩

/-- The loop's locals after the last member, in terms of the actions. -/
theorem handshake_fold (env : HookEnv) {s : FlowState} (hs : s.SeqsKnown)
    (ms : List Member) (acc : HandshakeAcc) :
    ∃ acc' : HandshakeAcc,
      ms.foldlM (HandshakeAcc.turn env s) acc = .ok acc'
      ∧ acc'.pkt.toCapturedPacket = acc.pkt.toCapturedPacket
      ∧ acc'.stagedAny = (acc.stagedAny
          || ms.any fun m =>
            (m.handshakeAction acc.pkt.toCapturedPacket).isEmit)
      ∧ acc'.lastAction = ((ms.getLast?.map fun m =>
            m.handshakeAction acc.pkt.toCapturedPacket).or
          acc.lastAction) := by
  induction ms generalizing acc with
  | nil => exact ⟨acc, rfl, rfl, by simp, by simp⟩
  | cons m rest ih =>
      obtain ⟨v, hhook, hv⟩ := m.handshake_spec env hs acc.pkt
      obtain ⟨acc', hrun, hpkt, hstaged, hlast⟩ := ih {
        pkt := v
        stagedAny := acc.stagedAny
          || (m.handshakeAction acc.pkt.toCapturedPacket).isEmit
        firstFlags :=
          if acc.pkt.newFlags.isNone && v.newFlags.isSome then v.newFlags
          else acc.firstFlags
        firstBumpIdent := acc.firstBumpIdent
          || (!acc.pkt.bumpIpv4Ident && v.bumpIpv4Ident)
        lastAction := some (m.handshakeAction acc.pkt.toCapturedPacket) }
      simp only [hv] at hpkt hstaged hlast
      refine ⟨acc', ?_, hpkt, ?_, ?_⟩
      · rw [List.foldlM_cons]
        exact bind_eq_ok.mpr ⟨_, bind_eq_ok.mpr ⟨_, hhook, rfl⟩, hrun⟩
      · rw [hstaged, List.any_cons, Bool.or_assoc]
      · rw [hlast]
        cases rest with
        | nil => rfl
        | cons m' rest =>
            obtain ⟨last, hl⟩ : ∃ last, (m' :: rest).getLast? = some last :=
              ⟨_, List.getLast?_eq_some_getLast (List.cons_ne_nil m' rest)⟩
            rw [List.getLast?_cons_cons, hl]
            rfl

namespace CompositeMethod

/-- The composite's answer to a handshake ACK. -/
def handshakeAnswer (m : CompositeMethod Member) (c : CapturedPacket) :
    MethodAction :=
  if m.waitsForData then .emitAndWaitForData
  else lastWord
    (m.handshakeMethods.any fun x => (x.handshakeAction c).isEmit)
    (m.handshakeMethods.getLast?.map fun x => x.handshakeAction c)

/-- The composite's handshake hook, in full. -/
theorem handshake_spec (m : CompositeMethod Member) (env : HookEnv)
    {s : FlowState} (hs : s.SeqsKnown) (pkt : PacketView) :
    ∃ v, BypassMethod.onHandshakeCompleteAck m env s pkt
        = .ok (m.handshakeAnswer pkt.toCapturedPacket, v)
      ∧ v.toCapturedPacket = pkt.toCapturedPacket := by
  obtain ⟨acc, hrun, hpkt, hstaged, hlast⟩ :=
    handshake_fold env hs m.handshakeMethods { pkt := pkt }
  refine ⟨{ acc.pkt with
    newFlags := acc.firstFlags
    bumpIpv4Ident := acc.firstBumpIdent }, ?_, hpkt⟩
  refine bind_eq_ok.mpr ⟨acc, hrun, ?_⟩
  simp only [Bool.false_or, Option.or_none] at hstaged hlast
  simp only [handshakeAnswer, hstaged, hlast]
  split <;> rfl

/-- Without a data stage the answer emits for good, completes or
aborts. -/
theorem lastWord_cases (stagedAny : Bool) (last : Option MethodAction) :
    (∃ immediate,
      lastWord stagedAny last = .emitFakeAndAccept immediate false)
    ∨ lastWord stagedAny last = .completeAndAccept
    ∨ lastWord stagedAny last = .abortAndAccept := by
  unfold lastWord
  split
  case h_1 immediate _ =>
    cases immediate with
    | true => exact .inl ⟨true, rfl⟩
    | false => exact .inl ⟨false, rfl⟩
  · split
    · exact .inr (.inr rfl)
    · exact .inr (.inl rfl)
  · exact .inr (.inl rfl)
  · exact .inr (.inl rfl)
  · exact .inr (.inl rfl)

/-- The handshake stage never answers with a pass-through: with or
without a data stage to come, it emits, completes or aborts. -/
theorem handshakeAnswer_ne_passThrough (m : CompositeMethod Member)
    (c : CapturedPacket) : m.handshakeAnswer c ≠ .passThrough := by
  unfold handshakeAnswer
  split
  · nofun
  · intro h
    rcases lastWord_cases _ _ with ⟨immediate, hl⟩ | hl | hl
    · rw [hl] at h
      cases h
    · rw [hl] at h
      cases h
    · rw [hl] at h
      cases h

-- ============================================================ data stage

/-- One turn of the data-stage loop, inverted. -/
theorem dataLoop_cons {env : HookEnv} {s : FlowState} {x : Member}
    {rest : List Member} {acc : DataAcc} {pkt v : PacketView}
    {action : MethodAction}
    (h : dataLoop env s (x :: rest) acc pkt = .ok (action, v)) :
    ∃ a w, BypassMethod.onFirstDataPacket x env s pkt = .ok (a, w)
      ∧ (v = w ∨ ∃ acc', dataLoop env s rest acc' w = .ok (action, v)) := by
  obtain ⟨⟨a, w⟩, hhook, hrest⟩ := bind_eq_ok.mp h
  refine ⟨a, w, hhook, ?_⟩
  cases a with
  | emitFakeAndAccept immediate more => exact .inr ⟨_, hrest⟩
  | completeAndAccept => exact .inr ⟨acc, hrest⟩
  | passThrough => exact .inr ⟨acc, hrest⟩
  | abortAndAccept =>
      cases hrest
      exact .inl rfl

/-- What every member keeps, the loop keeps. -/
theorem dataLoop_invariant {P : PacketView → Prop} {env : HookEnv}
    {s : FlowState} {ms : List Member}
    (hstep : ∀ x ∈ ms, ∀ {pkt v : PacketView} {a : MethodAction}, P pkt →
      BypassMethod.onFirstDataPacket x env s pkt = .ok (a, v) → P v)
    {acc : DataAcc} {pkt v : PacketView} {action : MethodAction}
    (h : dataLoop env s ms acc pkt = .ok (action, v)) (hp : P pkt) :
    P v := by
  induction ms generalizing acc pkt with
  | nil =>
      cases h
      exact hp
  | cons x rest ih =>
      obtain ⟨a, w, hhook, hend⟩ := dataLoop_cons h
      have hw := hstep x List.mem_cons_self hp hhook
      rcases hend with rfl | ⟨acc', hrest⟩
      · exact hw
      · exact ih (fun y hy => hstep y (List.mem_cons_of_mem x hy)) hrest hw

/-- The data-stage loop over data-stage members answers, with a view that
still shows the captured packet, and with neither an abort nor a
pass-through. -/
theorem dataLoop_spec (env : HookEnv) {s : FlowState} (hs : s.SeqsKnown) :
    ∀ {ms : List Member}, (∀ m ∈ ms, m.DataReady) →
      ∀ (acc : DataAcc) (pkt : PacketView),
        ∃ action v, dataLoop env s ms acc pkt = .ok (action, v)
          ∧ v.toCapturedPacket = pkt.toCapturedPacket
          ∧ action ≠ .abortAndAccept ∧ action ≠ .passThrough := by
  intro ms
  induction ms with
  | nil =>
      intro _ acc pkt
      refine ⟨acc.action, pkt, rfl, rfl, ?_, ?_⟩
      · unfold DataAcc.action
        split <;> nofun
      · unfold DataAcc.action
        split <;> nofun
  | cons m rest ih =>
      intro hready acc pkt
      have hm := hready m List.mem_cons_self
      have hrest := fun x hx => hready x (List.mem_cons_of_mem m hx)
      obtain ⟨a, v, hhook, hv, ha⟩ := Member.data_spec hm env hs pkt
      simp only [← hv]
      cases a with
      | emitFakeAndAccept immediate more =>
          obtain ⟨action, w, hrun, hw, h⟩ := ih hrest {
            sawEmit := true
            completeImmediately := acc.completeImmediately && immediate
            continueWithData := acc.continueWithData || more } v
          exact ⟨action, w, bind_eq_ok.mpr ⟨_, hhook, hrun⟩, hw, h⟩
      | completeAndAccept =>
          obtain ⟨action, w, hrun, hw, h⟩ := ih hrest acc v
          exact ⟨action, w, bind_eq_ok.mpr ⟨_, hhook, hrun⟩, hw, h⟩
      | passThrough =>
          obtain ⟨action, w, hrun, hw, h⟩ := ih hrest acc v
          exact ⟨action, w, bind_eq_ok.mpr ⟨_, hhook, hrun⟩, hw, h⟩
      | abortAndAccept => exact absurd rfl ha

/-- The composite's data hook, for data-stage members. -/
theorem data_spec {m : CompositeMethod Member}
    (hm : ∀ x ∈ m.dataMethods, x.DataReady) (env : HookEnv)
    {s : FlowState} (hs : s.SeqsKnown) (pkt : PacketView) :
    ∃ action v, BypassMethod.onFirstDataPacket m env s pkt
        = .ok (action, v)
      ∧ v.toCapturedPacket = pkt.toCapturedPacket
      ∧ action ≠ .abortAndAccept ∧ action ≠ .passThrough := by
  show ∃ action v, m.onFirstDataPacket env s pkt = _ ∧ _
  unfold onFirstDataPacket
  split
  · exact ⟨_, _, rfl, rfl, nofun, nofun⟩
  · exact dataLoop_spec env hs hm {} pkt

end CompositeMethod

end ZeroDpi
