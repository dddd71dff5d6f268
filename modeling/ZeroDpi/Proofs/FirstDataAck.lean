/-
Waiting for the acknowledgment of the first data packet.

A data-stage method may ask the handler to hold the bypass open until the
server acknowledges the modified first data packet
(`FAKE_TLS_COMPLETE_IMMEDIATELY = false`). The handler has an arm for it,
tested with a data method plugged in directly. Through the composite the
arm is dead: the handshake stage has raised `fakeSent`, the post-fake arm
stands before it, and that arm has the two kinds of ACK the other way
round. An ACK that advances closes the flow as unexpected, a duplicate
completes it.
-/
import ZeroDpi.Proofs.Composed

namespace ZeroDpi

open Lib Handler

/-- A bare ACK from the server with the next sequence number. -/
structure ServerAck (s : FlowState) (pkt : CapturedPacket) : Prop where
  inbound : pkt.direction = .inbound
  bareAck : pkt.isBareAck = true
  nextSeq : s.synAckSeq.map (· + 1) = some pkt.seq

/-- The ACK acknowledges data: it is past `syn_seq + 1`. -/
def Advances (s : FlowState) (pkt : CapturedPacket) : Prop :=
  ∃ synSeq, s.synSeq = some synSeq ∧ 0 < pkt.ack - (synSeq + 1)

/-- The ACK acknowledges nothing new: it is `syn_seq + 1` again. -/
def Duplicates (s : FlowState) (pkt : CapturedPacket) : Prop :=
  s.synSeq.map (· + 1) = some pkt.ack

/-- What waiting for the first-data ACK is to mean in a state that waits:
after any number of duplicate ACKs the flow is still open, and then an
advancing ACK completes the bypass. -/
def AckWaitWorks (m : CompositeMethod Member) (s : FlowState) : Prop :=
  ∀ dups : List (HookEnv × CapturedPacket),
    (∀ x ∈ dups, ServerAck s x.2 ∧ Duplicates s x.2) →
    ∃ s₁, feedAll m s dups = .ok s₁ ∧ s₁.outcome = none ∧
      ∀ env pkt, ServerAck s pkt → Advances s pkt →
        ∃ s₂, feed m s₁ (env, pkt) = .ok s₂
          ∧ s₂.outcome = some .fakeDataAcked

-- ================================================ the wait, packet by packet

/-- Waiting, or settled. -/
def WaitsOrSettled (s : FlowState) : Prop :=
  s.waitingForFirstDataAck = true ∨ s.outcome.isSome = true

theorem WaitsOrSettled.settle {l : Locked}
    (h : WaitsOrSettled l.state) : WaitsOrSettled (settled l) := by
  unfold settled
  split
  · exact h
  case h_2 d _ =>
    obtain ⟨o, mon, hd⟩ := d.run_frame l.state
    rcases h with hw | hs
    · rw [hd]
      exact .inl hw
    · obtain ⟨o', ho'⟩ := Option.isSome_iff_exists.mp hs
      rw [d.run_of_some ho']
      exact .inr hs

/-- A packet ends the wait only by settling the flow. -/
theorem onPacket_waitsOrSettled {m : CompositeMethod Member}
    {env : HookEnv} {s : FlowState} {pkt : PacketView} {r : Handled}
    (hr : onPacket m env s pkt = .ok r) (h : WaitsOrSettled s) :
    WaitsOrSettled r.state := by
  obtain ⟨l, hl, hr⟩ := bind_eq_ok.mp hr
  cases hr
  show WaitsOrSettled (settled l)
  have hcase := locked_cases hl
  rcases h with hw | hs
  · cases hcase with
    | closed _ =>
        obtain ⟨o, mon, hs⟩ := unexpected_frame s pkt
        refine WaitsOrSettled.settle (.inl ?_)
        rw [hs]
        exact hw
    | @handshake action v _ _ =>
        refine WaitsOrSettled.settle (.inl ?_)
        cases action with
        | emitFakeAndAccept immediate more => cases more <;> exact hw
        | _ => exact hw
    | @data action v _ _ =>
        refine WaitsOrSettled.settle (.inl ?_)
        cases action with
        | emitFakeAndAccept immediate more =>
            cases more <;> cases immediate <;> first | exact hw | rfl
        | abortAndAccept =>
            simp only [onDataAction]
            split <;> exact hw
        | _ => exact hw
    | firstDataAck _ _ _ _ =>
        -- the flag goes down, and the owed call settles the flow
        refine .inr ?_
        cases s.outcome <;> simp [settled, Handler.pass, Deferred.run,
          FlowState.finish]
    | _ => exact WaitsOrSettled.settle (.inl hw)
  · obtain ⟨o, ho⟩ := Option.isSome_iff_exists.mp hs
    refine WaitsOrSettled.settle (.inr ?_)
    rw [hcase.outcome_stable ho]
    rfl

theorem feedAll_waitsOrSettled {m : CompositeMethod Member}
    {s s' : FlowState} {inputs : List (HookEnv × CapturedPacket)}
    (hrun : feedAll m s inputs = .ok s') (h : WaitsOrSettled s) :
    WaitsOrSettled s' := by
  refine foldlM_invariant hrun h fun t input t' _ ht hfeed => ?_
  obtain ⟨r, hr, ht'⟩ := bind_eq_ok.mp hfeed
  cases ht'
  exact onPacket_waitsOrSettled hr ht

-- ================================================== what an ACK really does

variable {s : FlowState} {pkt : CapturedPacket}

/-- A server ACK on a waiting flow lands in the post-fake arm. -/
theorem serverAck_locked (m : CompositeMethod Member) (env : HookEnv)
    (h : FlowInv s) (ho : s.outcome = none)
    (hw : s.waitingForFirstDataAck = true) (hack : ServerAck s pkt)
    {synSeq : UInt32} (hsyn : s.synSeq = some synSeq) :
    onPacketLocked m env s pkt.view
      = .ok (if pkt.ack ≠ synSeq + 1 then unexpected s pkt.view
        else { Handler.pass s pkt.view with
               deferred := some (.finish .fakeDataAcked) }) := by
  have hmon := h.openMonitored ho
  have hall := h.not_all_of_open ho
  have hfake := h.fakeFirst (.inr (.inr (.inl hw)))
  have hdone := h.doneWaiting hw
  obtain ⟨synAckSeq, hsynAck, hseq⟩ := Option.map_eq_some_iff.mp hack.nextSeq
  have hnotSyn := (CapturedPacket.not_syn_of_isBareAck hack.bareAck).2
  simp only [onPacketLocked, hmon, Bool.not_true, Bool.false_eq_true,
    if_false, CapturedPacket.view, hack.inbound, onInbound, hsyn, hall,
    hnotSyn, hack.bareAck, hfake, Bool.and_self, if_true, onPostFakeAck,
    hsynAck, ← hseq, ne_eq, not_true_eq_false, hdone]
  split <;> rfl

/-- An advancing ACK closes the flow as unexpected. -/
theorem advancing_ack_closes (m : CompositeMethod Member) (env : HookEnv)
    (h : FlowInv s) (ho : s.outcome = none)
    (hw : s.waitingForFirstDataAck = true) (hack : ServerAck s pkt)
    (hadv : Advances s pkt) :
    ∃ s', feed m s (env, pkt) = .ok s'
      ∧ s'.outcome = some .unexpectedClose := by
  obtain ⟨synSeq, hsyn, hpos⟩ := hadv
  have hne : pkt.ack ≠ synSeq + 1 := by
    intro heq
    rw [heq, UInt32.sub_self] at hpos
    exact absurd hpos (by decide)
  have hl := serverAck_locked m env h ho hw hack hsyn
  rw [if_pos hne] at hl
  refine ⟨(unexpected s pkt.view).state, ?_, ?_⟩
  · exact bind_eq_ok.mpr ⟨_, onPacket_of_locked hl, rfl⟩
  · rw [unexpected_state, FlowState.finish_of_none ho]

/-- A duplicate ACK completes the flow. -/
theorem duplicate_ack_completes (m : CompositeMethod Member)
    (env : HookEnv) (h : FlowInv s) (ho : s.outcome = none)
    (hw : s.waitingForFirstDataAck = true) (hack : ServerAck s pkt)
    (hdup : Duplicates s pkt) :
    ∃ s', feed m s (env, pkt) = .ok s'
      ∧ s'.outcome = some .fakeDataAcked := by
  obtain ⟨synSeq, hsyn, heq⟩ := Option.map_eq_some_iff.mp hdup
  have hl := serverAck_locked m env h ho hw hack hsyn
  rw [if_neg (by simp [heq])] at hl
  refine ⟨s.finish .fakeDataAcked, ?_, ?_⟩
  · exact bind_eq_ok.mpr ⟨_, onPacket_of_locked hl, rfl⟩
  · rw [FlowState.finish_of_none ho]

-- ============================================================= every run

/-- The data stage answered a packet with an emission that wants the
first-data ACK: not complete, and no more data to shape. -/
structure AsksForDataAck (m : CompositeMethod Member) (s : FlowState)
    (env : HookEnv) (pkt : CapturedPacket) : Prop where
  data : DataPacket s pkt
  emits : ∃ v, BypassMethod.onFirstDataPacket m env s pkt.view
    = .ok (.emitFakeAndAccept false false, v)

/-- Such a packet leaves the flow waiting. -/
theorem AsksForDataAck.waits {m : CompositeMethod Member} {env : HookEnv}
    (h : AsksForDataAck m s env pkt) {s' : FlowState}
    (hfeed : feed m s (env, pkt) = .ok s') :
    s'.waitingForFirstDataAck = true := by
  obtain ⟨v, hv⟩ := h.emits
  have hr := onPacket_of_locked (locked_of_dataPacket h.data hv)
  obtain ⟨r, hr', hs'⟩ := bind_eq_ok.mp hfeed
  rw [hr] at hr'
  cases hr'
  cases hs'
  rfl

/-- An advancing server ACK exists for every flow that knows its sequence
numbers. -/
theorem exists_advancing_ack (h : s.SeqsKnown) :
    ∃ pkt, ServerAck s pkt ∧ Advances s pkt := by
  obtain ⟨synSeq, hsyn⟩ := Option.isSome_iff_exists.mp h.1
  obtain ⟨synAckSeq, hack⟩ := Option.isSome_iff_exists.mp h.2
  refine ⟨samplePacket .inbound (synAckSeq + 1) (1 + (synSeq + 1))
    { ack := true } [], ⟨rfl, rfl, by rw [hack]; rfl⟩, synSeq, hsyn, ?_⟩
  show 0 < 1 + (synSeq + 1) - (synSeq + 1)
  rw [UInt32.add_sub_cancel]
  decide

/-- Through the method `build_method` returns, the wait never works: in
every run in which the data stage asked for it and the flow is still
open, an advancing ACK closes the flow as unexpected and a single
duplicate completes it. -/
theorem first_data_ack_wait_never_works (cfg : Config)
    (freshSeed : MethodName → UInt64) (m : CompositeMethod Member)
    (fakeData : Bytes) (ttl : Option UInt8)
    (pre post : List (HookEnv × CapturedPacket)) (env : HookEnv)
    (pkt : CapturedPacket) (s₀ s : FlowState) :
    cfg.validate = .ok () → .fakeTls ∈ cfg.bypassMethod →
    cfg.fakeTlsCompleteImmediately = false →
    buildMethod cfg freshSeed = some m →
    feedAll m (.new fakeData ttl) pre = .ok s₀ →
    AsksForDataAck m s₀ env pkt →
    feedAll m s₀ ((env, pkt) :: post) = .ok s → s.outcome = none →
    ¬ AckWaitWorks m s
    ∧ (∀ env' ack, ServerAck s ack → Advances s ack →
        ∃ s', feed m s (env', ack) = .ok s'
          ∧ s'.outcome = some .unexpectedClose)
    ∧ (∀ env' ack, ServerAck s ack → Duplicates s ack →
        ∃ s', feed m s (env', ack) = .ok s'
          ∧ s'.outcome = some .fakeDataAcked) := by
  intro _ _ _ _ hpre hask hpost hopen
  have h₀ : FlowInv s₀ := feedAll_flowInv hpre (flowInv_new fakeData ttl)
  have h : FlowInv s := feedAll_flowInv hpost h₀
  have hw : s.waitingForFirstDataAck = true := by
    simp only [feedAll, List.foldlM_cons] at hpost
    obtain ⟨s₁, hfeed, hrest⟩ := bind_eq_ok.mp hpost
    have hkept := feedAll_waitsOrSettled hrest (.inl (hask.waits hfeed))
    rcases hkept with hw | hsettled
    · exact hw
    · rw [hopen] at hsettled
      cases hsettled
  refine ⟨?_, ?_, ?_⟩
  · intro hworks
    have hknown : s.SeqsKnown :=
      h.seqs (by simp [FlowState.pastHandshake, hw])
    obtain ⟨ack, hack, hadv⟩ := exists_advancing_ack hknown
    -- with no duplicates in between, the advancing ACK would complete
    obtain ⟨s₁, hs₁, -, hcompletes⟩ := hworks [] (fun a ha => by cases ha)
    cases hs₁
    obtain ⟨s₂, hs₂, hdone⟩ := hcompletes env ack hack hadv
    obtain ⟨s₃, hs₃, hclosed⟩ :=
      advancing_ack_closes m env h hopen hw hack hadv
    rw [hs₂] at hs₃
    cases hs₃
    rw [hdone] at hclosed
    cases hclosed
  · exact fun env' ack hack hadv =>
      advancing_ack_closes m env' h hopen hw hack hadv
  · exact fun env' ack hack hdup =>
      duplicate_ack_completes m env' h hopen hw hack hdup

/-- `fake_tls` alone, told to wait for the server. -/
def waitingFakeTls : Config :=
  { bypassMethod := [.fakeTls], fakeTlsCompleteImmediately := false }

/-- The sample connection through it: the wait it starts does not
work. -/
theorem sample_first_data_ack_wait :
    ∃ m s, buildMethod waitingFakeTls (fun _ => 0) = some m
      ∧ feedAll m (.new [0x16] none) (sampleRun [0x16, 3, 1]) = .ok s
      ∧ s.outcome = none ∧ ¬ AckWaitWorks m s := by
  refine ⟨_, _, rfl, rfl, rfl, ?_⟩
  refine (first_data_ack_wait_never_works waitingFakeTls (fun _ => 0) _
    [0x16] none (sampleOpening ++ [(sampleEnv, sampleAck)]) [] sampleEnv
    (sampleData [0x16, 3, 1]) _ _ rfl (by decide) rfl rfl rfl
    ⟨by decide, _, rfl⟩ rfl rfl).1

/-- The server's acknowledgment of the first data packet, the very packet
the flow waits for, is answered with `unexpectedClose`. -/
theorem waiting_fake_tls_closed_by_data_ack :
    waitingFakeTls.validate = .ok () ∧
    ∃ m s s', buildMethod waitingFakeTls (fun _ => 0) = some m
      ∧ feedAll m (.new [0x16] none) (sampleRun [0x16, 3, 1]) = .ok s
      ∧ s.waitingForFirstDataAck = true ∧ s.outcome = none
      ∧ ServerAck s (sampleServerAck 104) ∧ Advances s (sampleServerAck 104)
      ∧ feed m s (sampleEnv, sampleServerAck 104) = .ok s'
      ∧ s'.outcome = some .unexpectedClose := by
  refine ⟨rfl, _, _, _, rfl, rfl, rfl, rfl, ⟨rfl, rfl, rfl⟩,
    ⟨100, rfl, by decide⟩, rfl, rfl⟩

end ZeroDpi
