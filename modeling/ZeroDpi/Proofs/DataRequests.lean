/-
What the data stage leaves on the view of a fresh flow.

Three fields of the view are requests to the backend: the decoy, the
fragment size and the segmentation. Each member sets at most one of them
and reads none, so after the loop a field holds the request of the last
member that had one (`lastRequest`). The two flags of the answer are a
conjunction and a disjunction over the members.
-/
import ZeroDpi.Proofs.Build

namespace ZeroDpi

open Lib

-- =========================================================== one member

/-- A flow whose handshake is through and whose first data packet is
still to come. -/
structure FreshFlow (s : FlowState) (synSeq : UInt32) : Prop where
  syn : s.synSeq = some synSeq
  unmodified : s.firstDataModified = false

/-- The decoy a member stages. -/
def decoyOf (env : HookEnv) (s : FlowState) (synSeq : UInt32)
    (flags : TcpFlags) : Member → Option DecoyPacket
  | .fakeTls f =>
      if f.chained then
        some (f.decoy env (seqBehindWindow synSeq
          s.fakeData.length.toUInt32 f.extraOffset) s.fakeData flags)
      else none
  | _ => none

/-- The fragment size a member asks for. -/
def fragmentsOf (c : CapturedPacket) : Member → Option Nat
  | .ipFrag f =>
      if 20 + c.tcpOptions.length + c.payloadLen > f.fragSize then
        some f.fragSize
      else none
  | _ => none

/-- The segmentation a member asks for. -/
def segmentsOf (c : CapturedPacket) : Member → Option DisorderSpec
  | .disorder { spec, .. } | .seqovl { spec } =>
      if c.payloadLen ≥ spec.segments then some spec else none
  | _ => none

/-- The flags a member puts in its emission. -/
def emitFlags : Member → Bool × Bool
  | .fakeTls f => (f.completeImmediately, false)
  | .ipFrag { onlyFirstPacket, .. } | .disorder { onlyFirstPacket, .. } =>
      (onlyFirstPacket, !onlyFirstPacket)
  | _ => (true, false)

/-- Only `tls_record_frag` may have nothing to emit. -/
def IsRecordFrag : Member → Prop
  | .tlsRecordFrag _ => True
  | _ => False

/-- What the data hook of a member does to the three request fields, and
what it answers. -/
structure DataAnswers (env : HookEnv) (s : FlowState) (synSeq : UInt32)
    (pkt : PacketView) (x : Member) (action : MethodAction)
    (v : PacketView) : Prop where
  captured : v.toCapturedPacket = pkt.toCapturedPacket
  decoy : v.decoy = (decoyOf env s synSeq pkt.flags x).or pkt.decoy
  fragments : v.ipFragPayloadSize
    = (fragmentsOf pkt.toCapturedPacket x).or pkt.ipFragPayloadSize
  segments : v.disorderSpec
    = (segmentsOf pkt.toCapturedPacket x).or pkt.disorderSpec
  action : action = .emitFakeAndAccept (emitFlags x).1 (emitFlags x).2
    ∨ action = .completeAndAccept ∧ IsRecordFrag x

theorem stageSegments_disorderSpec (pkt : PacketView)
    (spec : DisorderSpec) :
    (pkt.stageSegments spec).disorderSpec
      = (if pkt.payloadLen ≥ spec.segments then some spec else none).or
        pkt.disorderSpec := by
  unfold PacketView.stageSegments
  split <;> rfl

theorem emitShaped_eq (onlyFirstPacket : Bool) :
    MethodAction.emitShaped onlyFirstPacket
      = .emitFakeAndAccept onlyFirstPacket (!onlyFirstPacket) := by
  cases onlyFirstPacket <;> rfl

/-- Every data-stage member answers a fresh flow so. -/
theorem dataHook_answers {x : Member} (hx : x.DataReady) (env : HookEnv)
    {s : FlowState} {synSeq : UInt32} (hs : FreshFlow s synSeq)
    (pkt : PacketView) :
    ∃ action v, BypassMethod.onFirstDataPacket x env s pkt
        = .ok (action, v) ∧ DataAnswers env s synSeq pkt x action v := by
  cases x with
  | tlsRecordFrag f =>
      have hsize : f.fragSize ≠ 0 := Nat.pos_iff_ne_zero.mp hx
      show ∃ a v, f.onFirstDataPacket pkt = _ ∧ _
      simp only [TlsRecordFrag.onFirstDataPacket, fragmentPayload, hsize,
        if_false]
      cases fragmentRecords f.fragSize pkt.payload.length pkt.payload with
      | none =>
          exact ⟨_, _, rfl, ⟨rfl, rfl, rfl, rfl, .inr ⟨rfl, trivial⟩⟩⟩
      | some out => exact ⟨_, _, rfl, ⟨rfl, rfl, rfl, rfl, .inl rfl⟩⟩
  | fakeTls f =>
      show ∃ a v, f.onFirstDataPacket env s pkt = _ ∧ _
      simp only [FakeTls.onFirstDataPacket, hs.syn, hs.unmodified,
        Bool.and_false, Bool.false_eq_true, if_false]
      cases hc : f.chained with
      | true =>
          refine ⟨_, _, rfl, ⟨rfl, ?_, rfl, rfl, .inl rfl⟩⟩
          simp [decoyOf, hc]
      | false =>
          refine ⟨_, _, rfl, ⟨rfl, ?_, rfl, rfl, .inl rfl⟩⟩
          simp [decoyOf, hc, PacketView.stageFake]
  | ipFrag f =>
      refine ⟨_, _, rfl, ?_⟩
      show DataAnswers env s synSeq pkt (.ipFrag f) (.emitShaped _)
        (if _ then _ else _)
      rw [emitShaped_eq]
      split
      · next h => exact ⟨rfl, rfl, by simp [fragmentsOf, h], rfl, .inl rfl⟩
      · next h => exact ⟨rfl, rfl, by simp [fragmentsOf, h], rfl, .inl rfl⟩
  | disorder f =>
      refine ⟨_, _, rfl, ?_⟩
      show DataAnswers env s synSeq pkt (.disorder f) (.emitShaped _)
        (pkt.stageSegments f.spec)
      rw [emitShaped_eq]
      refine ⟨?_, ?_, ?_, stageSegments_disorderSpec pkt f.spec, .inl rfl⟩
      all_goals
        unfold PacketView.stageSegments
        split <;> rfl
  | seqovl f =>
      refine ⟨_, _, rfl, ?_⟩
      show DataAnswers env s synSeq pkt (.seqovl f) .emitAndComplete
        (pkt.stageSegments f.spec)
      refine ⟨?_, ?_, ?_, stageSegments_disorderSpec pkt f.spec, .inl rfl⟩
      all_goals
        unfold PacketView.stageSegments
        split <;> rfl
  | _ => cases hx

-- ============================================================= the loop

/-- The later request wins. -/
def lastRequest {γ : Type} (f : Member → Option γ) (ms : List Member)
    (first : Option γ) : Option γ :=
  ms.foldl (fun r x => (f x).or r) first

/-- A request field that belongs to one member holds that member's
request. -/
theorem lastRequest_of_owner {γ : Type} {f : Member → Option γ}
    {ms : List Member} {x : Member} (hx : x ∈ ms)
    (hothers : ∀ y ∈ ms, y ≠ x → f y = none) :
    lastRequest f ms none = f x := by
  -- once the owner has spoken, nobody says anything else
  have hsettled : ∀ {l : List Member}, (∀ y ∈ l, y ≠ x → f y = none) →
      lastRequest f l (f x) = f x := by
    intro l
    induction l with
    | nil =>
        intro _
        rfl
    | cons y l ih =>
        intro hl
        have ih := ih fun z hz => hl z (List.mem_cons_of_mem y hz)
        show lastRequest f l ((f y).or (f x)) = f x
        by_cases hy : y = x
        · rw [hy, Option.or_self]
          exact ih
        · rw [hl y List.mem_cons_self hy]
          exact ih
  induction ms with
  | nil => cases hx
  | cons y ms ih =>
      have hrest := fun z hz => hothers z (List.mem_cons_of_mem y hz)
      show lastRequest f ms ((f y).or none) = f x
      rw [Option.or_none]
      by_cases hy : y = x
      · rw [hy]
        exact hsettled hrest
      · rw [hothers y List.mem_cons_self hy]
        rcases List.mem_cons.mp hx with hxy | hx
        · exact absurd hxy.symm hy
        · exact ih hx hrest

theorem emitFlags_recordFrag {x : Member} (h : IsRecordFrag x) :
    emitFlags x = (true, false) := by
  cases x with
  | tlsRecordFrag f => rfl
  | _ => cases h

/-- Members with those flags change nothing in the loop's answer. -/
theorem emitFlags_neutral {ms : List Member}
    (h : ∀ x ∈ ms, emitFlags x = (true, false)) :
    (ms.all fun x => (emitFlags x).1) = true
      ∧ (ms.any fun x => (emitFlags x).2) = false := by
  constructor
  · rw [List.all_eq_true]
    intro x hx
    rw [h x hx]
  · rw [List.any_eq_false]
    intro x hx
    rw [h x hx]
    exact Bool.false_ne_true

/-- What the data stage answers, in terms of its members. -/
structure DataStageAnswers (env : HookEnv) (s : FlowState) (synSeq : UInt32)
    (ms : List Member) (acc : CompositeMethod.DataAcc) (pkt : PacketView)
    (action : MethodAction) (v : PacketView) : Prop where
  decoy : v.decoy
    = lastRequest (decoyOf env s synSeq pkt.flags) ms pkt.decoy
  fragments : v.ipFragPayloadSize = lastRequest
    (fragmentsOf pkt.toCapturedPacket) ms pkt.ipFragPayloadSize
  segments : v.disorderSpec = lastRequest
    (segmentsOf pkt.toCapturedPacket) ms pkt.disorderSpec
  action : action = acc.action ∧ (∀ x ∈ ms, IsRecordFrag x)
    ∨ action = .emitFakeAndAccept
        (acc.completeImmediately && ms.all fun x => (emitFlags x).1)
        (acc.continueWithData || ms.any fun x => (emitFlags x).2)

/-- A member in front of the others asks first. -/
theorem DataAnswers.cons {env : HookEnv} {s : FlowState} {synSeq : UInt32}
    {x : Member} {ms : List Member} {acc acc' : CompositeMethod.DataAcc}
    {pkt w v : PacketView} {a action : MethodAction}
    (hw : DataAnswers env s synSeq pkt x a w)
    (hv : DataStageAnswers env s synSeq ms acc' w action v)
    (haction : action = acc.action ∧ (∀ y ∈ x :: ms, IsRecordFrag y)
      ∨ action = .emitFakeAndAccept
        (acc.completeImmediately
          && (x :: ms).all fun y => (emitFlags y).1)
        (acc.continueWithData
          || (x :: ms).any fun y => (emitFlags y).2)) :
    DataStageAnswers env s synSeq (x :: ms) acc pkt action v where
  decoy := by
    rw [hv.decoy, hw.decoy, hw.captured]
    rfl
  fragments := by
    rw [hv.fragments, hw.fragments, hw.captured]
    rfl
  segments := by
    rw [hv.segments, hw.segments, hw.captured]
    rfl
  action := haction

/-- The loop, by induction on the members. -/
theorem dataLoop_answers (env : HookEnv) {s : FlowState}
    {synSeq : UInt32} (hs : FreshFlow s synSeq) :
    ∀ {ms : List Member}, (∀ x ∈ ms, x.DataReady) →
      ∀ (acc : CompositeMethod.DataAcc) (pkt : PacketView),
        ∃ action v,
          CompositeMethod.dataLoop env s ms acc pkt = .ok (action, v)
            ∧ DataStageAnswers env s synSeq ms acc pkt action v := by
  intro ms
  induction ms with
  | nil =>
      intro _ acc pkt
      refine ⟨_, _, rfl, ⟨rfl, rfl, rfl, .inl ⟨rfl, ?_⟩⟩⟩
      intro x hx
      cases hx
  | cons x ms ih =>
      intro hready acc pkt
      have hrest := fun y hy => hready y (List.mem_cons_of_mem x hy)
      obtain ⟨a, w, hhook, hw⟩ :=
        dataHook_answers (hready x List.mem_cons_self) env hs pkt
      rcases hw.action with rfl | ⟨rfl, hrecord⟩
      · obtain ⟨action, v, hrun, hv⟩ := ih hrest {
          sawEmit := true
          completeImmediately := acc.completeImmediately && (emitFlags x).1
          continueWithData := acc.continueWithData || (emitFlags x).2 } w
        refine ⟨action, v, bind_eq_ok.mpr ⟨_, hhook, hrun⟩,
          hw.cons hv (.inr ?_)⟩
        rw [List.all_cons, List.any_cons, ← Bool.and_assoc, ← Bool.or_assoc]
        rcases hv.action with ⟨haction, hall⟩ | haction
        · -- the rest are record fragmenters
          obtain ⟨hnow, hmore⟩ :=
            emitFlags_neutral fun y hy => emitFlags_recordFrag (hall y hy)
          rw [hnow, hmore, Bool.and_true, Bool.or_false, haction]
          rfl
        · exact haction
      · obtain ⟨action, v, hrun, hv⟩ := ih hrest acc w
        refine ⟨action, v, bind_eq_ok.mpr ⟨_, hhook, hrun⟩, hw.cons hv ?_⟩
        rcases hv.action with ⟨haction, hall⟩ | haction
        · refine .inl ⟨haction, fun y hy => ?_⟩
          rcases List.mem_cons.mp hy with rfl | hy
          · exact hrecord
          · exact hall y hy
        · refine .inr ?_
          rw [List.all_cons, List.any_cons, emitFlags_recordFrag hrecord]
          exact haction

end ZeroDpi
