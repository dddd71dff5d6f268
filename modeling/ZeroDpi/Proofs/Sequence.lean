/-
Sequence numbers are known wherever the handler needs them.

Once a flow has moved past the handshake in any of its five flags, both
initial sequence numbers have been recorded (`SeqInv`). Every step keeps
it, and under it neither the handler's own `expect`s nor those of the
method hooks are reached with `None`, so a whole run of packets, in any
order and of any shape, ends in a state and not in a panic.
-/
import ZeroDpi.Proofs.Steps
import ZeroDpi.Proofs.Build

namespace ZeroDpi

open Lib Handler

/-- One of the flags that a flow raises after the handshake. -/
def FlowState.pastHandshake (s : FlowState) : Bool :=
  s.fakeSent || s.waitingForData || s.firstDataModified
    || s.waitingForFirstDataAck || s.fragmentAllData

/-- Past the handshake, both sequence numbers are known. -/
def SeqInv (s : FlowState) : Prop :=
  s.pastHandshake = true → s.SeqsKnown

theorem seqInv_new (fakeData : Bytes) (ttl : Option UInt8) :
    SeqInv (.new fakeData ttl) := nofun

-- ================================================================ frames

/-- The owed call only touches outcome and monitoring. -/
theorem Deferred.run_frame (d : Deferred) (s : FlowState) :
    ∃ outcome monitor,
      d.run s = { s with outcome := outcome, monitor := monitor } := by
  cases d with
  | finish o =>
      cases h : s.outcome with
      | none => exact ⟨_, _, FlowState.finish_of_none h o⟩
      | some o' => exact ⟨s.outcome, s.monitor, FlowState.finish_of_some h o⟩
  | signalOutcome o =>
      cases h : s.outcome with
      | none => exact ⟨_, s.monitor, FlowState.signalOutcome_of_none h o⟩
      | some o' =>
          exact ⟨s.outcome, s.monitor, FlowState.signalOutcome_of_some h o⟩

/-- So does closing the flow. -/
theorem unexpected_frame (s : FlowState) (pkt : PacketView) :
    ∃ outcome monitor, (unexpected s pkt).state
      = { s with outcome := outcome, monitor := monitor } := by
  simp only [unexpected]
  split
  · exact ⟨_, _, rfl⟩
  · exact ⟨s.outcome, s.monitor, rfl⟩

/-- The handler's reactions to an action leave the sequence numbers
alone. -/
theorem onHandshakeAction_seqs (s : FlowState) (action : MethodAction)
    (v : PacketView) :
    (onHandshakeAction s action v).state.synSeq = s.synSeq
      ∧ (onHandshakeAction s action v).state.synAckSeq = s.synAckSeq := by
  cases action with
  | emitFakeAndAccept immediate more => cases more <;> exact ⟨rfl, rfl⟩
  | _ => exact ⟨rfl, rfl⟩

theorem onDataAction_seqs (s : FlowState) (action : MethodAction)
    (v : PacketView) :
    (onDataAction s action v).state.synSeq = s.synSeq
      ∧ (onDataAction s action v).state.synAckSeq = s.synAckSeq := by
  cases action with
  | emitFakeAndAccept immediate more =>
      cases more <;> cases immediate <;> exact ⟨rfl, rfl⟩
  | abortAndAccept =>
      simp only [onDataAction]
      split <;> exact ⟨rfl, rfl⟩
  | _ => exact ⟨rfl, rfl⟩

/-- The data stage hands its view on as it is. -/
theorem onDataAction_pkt (s : FlowState) (action : MethodAction)
    (v : PacketView) : (onDataAction s action v).pkt = v := by
  cases action with
  | emitFakeAndAccept immediate more =>
      cases more <;> cases immediate <;> rfl
  | abortAndAccept =>
      simp only [onDataAction]
      split <;> rfl
  | _ => rfl

-- ============================================================== one step

/-- An ACK that completes the handshake knows both numbers. -/
theorem seqsKnown_of_completes {s : FlowState} {pkt : CapturedPacket}
    (h : completesHandshake s pkt = true) : s.SeqsKnown := by
  unfold completesHandshake at h
  split at h
  case h_1 synSeq synAckSeq hsyn hack =>
    simp [FlowState.SeqsKnown, hsyn, hack]
  · cases h

/-- A packet in the data stage is past the handshake. -/
theorem Handler.DataPacket.pastHandshake {s : FlowState} {pkt : CapturedPacket}
    (h : DataPacket s pkt) : s.pastHandshake = true := by
  rcases h.staged with ⟨hwait, -⟩ | hall
  · simp [FlowState.pastHandshake, hwait]
  · simp [FlowState.pastHandshake, hall]

variable {μ : Type} [BypassMethod μ] {method : μ} {env : HookEnv}

/-- The critical section keeps the invariant. -/
theorem Handler.LockedCase.seqInv {s : FlowState} {pkt : PacketView} {l : Locked}
    (h : LockedCase method env s pkt l) (hinv : SeqInv s) :
    SeqInv l.state := by
  cases h with
  | passed => exact hinv
  | closed _ =>
      obtain ⟨o, mon, hs⟩ := unexpected_frame s pkt
      rw [hs]
      exact hinv
  | syn _ _ => exact fun hpast => ⟨rfl, (hinv hpast).2⟩
  | synAck _ hsyn _ => exact fun _ => ⟨hsyn, rfl⟩
  | handshake hack _ =>
      intro _
      obtain ⟨h1, h2⟩ := onHandshakeAction_seqs s _ _
      rw [FlowState.SeqsKnown, h1, h2]
      exact seqsKnown_of_completes hack.matchesSyn
  | data hdata _ =>
      intro _
      obtain ⟨h1, h2⟩ := onDataAction_seqs s _ _
      rw [FlowState.SeqsKnown, h1, h2]
      exact hinv hdata.pastHandshake
  | fragmentAllClose _ _ => exact hinv
  | postFakeAck _ _ _ _ => exact hinv
  | firstDataAck _ hwait _ _ =>
      intro _
      exact hinv (by simp [FlowState.pastHandshake, hwait])

/-- So does the whole call. -/
theorem onPacket_seqInv {s : FlowState} {pkt : PacketView} {r : Handled}
    (h : onPacket method env s pkt = .ok r) (hinv : SeqInv s) :
    SeqInv r.state := by
  obtain ⟨l, hl, hr⟩ := bind_eq_ok.mp h
  have hlocked := (locked_cases hl).seqInv hinv
  cases hr
  show SeqInv (settled l)
  unfold settled
  split
  · exact hlocked
  case h_2 d _ =>
    obtain ⟨o, mon, hd⟩ := d.run_frame l.state
    rw [hd]
    exact hlocked

-- ============================================================= no panics

/-- The hooks answer whenever both sequence numbers are known. -/
structure HooksTotal (method : μ) : Prop where
  ack : ∀ (env : HookEnv) (s : FlowState) (pkt : PacketView), s.SeqsKnown →
    ∃ r, BypassMethod.onHandshakeCompleteAck method env s pkt = .ok r
  data : ∀ (env : HookEnv) (s : FlowState) (pkt : PacketView), s.SeqsKnown →
    ∃ r, BypassMethod.onFirstDataPacket method env s pkt = .ok r

theorem onBareAck_total (hm : HooksTotal method) (s : FlowState)
    (pkt : PacketView) : ∃ l, onBareAck method env s pkt = .ok l := by
  unfold onBareAck
  split
  · exact ⟨_, rfl⟩
  · split
    · exact ⟨_, rfl⟩
    · split
      · exact ⟨_, rfl⟩
      case isFalse hmatch =>
        have hmatch : completesHandshake s pkt.toCapturedPacket = true := by
          simpa using hmatch
        obtain ⟨r, hr⟩ :=
          hm.ack env s pkt (seqsKnown_of_completes hmatch)
        exact ⟨_, bind_eq_ok.mpr ⟨r, hr, rfl⟩⟩

theorem onOutbound_total (hm : HooksTotal method) {s : FlowState}
    (hinv : SeqInv s) (pkt : PacketView) :
    ∃ l, onOutbound method env s pkt = .ok l := by
  unfold onOutbound
  split
  · exact ⟨_, rfl⟩
  · split
    · exact onBareAck_total hm s pkt
    · split
      case isTrue hstage =>
        have hpast : s.pastHandshake = true := by
          simp only [inDataStage, Bool.and_eq_true, Bool.or_eq_true] at hstage
          simp only [FlowState.pastHandshake, Bool.or_eq_true]
          rcases hstage.2 with hw | hall
          · exact .inl (.inl (.inl (.inr hw.1)))
          · exact .inr hall
        obtain ⟨r, hr⟩ := hm.data env s pkt (hinv hpast)
        exact ⟨_, bind_eq_ok.mpr ⟨r, hr, rfl⟩⟩
      · exact ⟨_, rfl⟩

theorem onPostFakeAck_total {s : FlowState} (hs : s.SeqsKnown)
    (synSeq : UInt32) (pkt : PacketView) :
    ∃ l, onPostFakeAck s synSeq pkt = .ok l := by
  obtain ⟨synAckSeq, hack⟩ := Option.isSome_iff_exists.mp hs.2
  simp only [onPostFakeAck, hack]
  split
  · exact ⟨_, rfl⟩
  · split
    · exact ⟨_, rfl⟩
    · split <;> exact ⟨_, rfl⟩

theorem onFirstDataAck_total {s : FlowState} (hs : s.SeqsKnown)
    (synSeq : UInt32) (pkt : PacketView) :
    ∃ l, onFirstDataAck s synSeq pkt = .ok l := by
  obtain ⟨synAckSeq, hack⟩ := Option.isSome_iff_exists.mp hs.2
  simp only [onFirstDataAck, hack]
  split
  · exact ⟨_, rfl⟩
  · split <;> exact ⟨_, rfl⟩

theorem onInbound_total {s : FlowState} (hinv : SeqInv s)
    (pkt : PacketView) : ∃ l, onInbound s pkt = .ok l := by
  unfold onInbound
  split
  · exact ⟨_, rfl⟩
  · split
    · exact ⟨_, rfl⟩
    · split
      · exact ⟨_, rfl⟩
      · split
        case isTrue hfake =>
          refine onPostFakeAck_total (hinv ?_) _ pkt
          simp only [Bool.and_eq_true] at hfake
          simp [FlowState.pastHandshake, hfake.2]
        · split
          case isTrue hwait =>
            refine onFirstDataAck_total (hinv ?_) _ pkt
            simp only [Bool.and_eq_true] at hwait
            simp [FlowState.pastHandshake, hwait.1]
          · exact ⟨_, rfl⟩

/-- Under the invariant no packet makes the handler panic. -/
theorem onPacket_total (hm : HooksTotal method) {s : FlowState}
    (hinv : SeqInv s) (pkt : PacketView) :
    ∃ r, onPacket method env s pkt = .ok r := by
  have hlocked : ∃ l, onPacketLocked method env s pkt = .ok l := by
    unfold onPacketLocked
    split
    · exact ⟨_, rfl⟩
    · split
      · exact onOutbound_total hm hinv pkt
      · exact onInbound_total hinv pkt
  obtain ⟨l, hl⟩ := hlocked
  exact ⟨_, bind_eq_ok.mpr ⟨l, hl, rfl⟩⟩

/-- A whole run of packets keeps the invariant and does not panic. -/
theorem feedAll_total (hm : HooksTotal method) {s : FlowState}
    (hinv : SeqInv s) (inputs : List (HookEnv × CapturedPacket)) :
    ∃ s', feedAll method s inputs = .ok s' ∧ SeqInv s' := by
  refine foldlM_total hinv fun t input _ ht => ?_
  obtain ⟨r, hr⟩ : ∃ r, onPacket method input.1 t input.2.view = .ok r :=
    onPacket_total hm ht input.2.view
  exact ⟨r.state, bind_eq_ok.mpr ⟨r, hr, rfl⟩, onPacket_seqInv hr ht⟩

-- ===================================================== the built method

/-- The composite of a validated configuration has total hooks. -/
theorem hooksTotal_of_build {cfg : Config} (hv : cfg.validate = .ok ())
    {freshSeed : MethodName → UInt64} {m : CompositeMethod Member}
    (hb : BuiltFrom cfg freshSeed m) : HooksTotal m where
  ack env s pkt hs := by
    obtain ⟨v, hhook, -⟩ := m.handshake_spec env hs pkt
    exact ⟨_, hhook⟩
  data env s pkt hs := by
    obtain ⟨a, v, hhook, -⟩ := CompositeMethod.data_spec
      (hb.dataReady (Config.validParams hv).recordFragSize) env hs pkt
    exact ⟨_, hhook⟩

/-- For every validated configuration with an interceptor method, every
registered flow and every sequence of packets: the run ends in a state,
no `expect` is reached with `None` on the way, and past the handshake
both sequence numbers are known. -/
theorem validated_run_seqs_known (cfg : Config)
    (hv : cfg.validate = .ok ())
    (hreq : cfg.bypassMethod.requiresInterceptor = true)
    (freshSeed : MethodName → UInt64) :
    ∃ m, buildMethod cfg freshSeed = some m ∧
      ∀ (fakeData : Bytes) (ttl : Option UInt8)
        (inputs : List (HookEnv × CapturedPacket)),
        ∃ s, feedAll m (.new fakeData ttl) inputs = .ok s ∧
          ((s.fakeSent = true ∨ s.waitingForData = true
              ∨ s.firstDataModified = true ∨ s.waitingForFirstDataAck = true
              ∨ s.fragmentAllData = true) →
            s.synSeq.isSome = true ∧ s.synAckSeq.isSome = true) := by
  obtain ⟨m, hm⟩ := build_isSome (Config.validList hv) hreq freshSeed
  refine ⟨m, hm, fun fakeData ttl inputs => ?_⟩
  obtain ⟨s, hrun, hinv⟩ := feedAll_total
    (hooksTotal_of_build hv (build_spec hm)) (seqInv_new fakeData ttl) inputs
  refine ⟨s, hrun, fun hpast => hinv ?_⟩
  simp only [FlowState.pastHandshake, Bool.or_eq_true]
  rcases hpast with h | h | h | h | h
  · exact .inl (.inl (.inl (.inl h)))
  · exact .inl (.inl (.inl (.inr h)))
  · exact .inl (.inl (.inr h))
  · exact .inl (.inr h)
  · exact .inr h

/-- The normal opening of a connection, through a list that injects at
the handshake and at the first data packet. -/
theorem sample_run_seqs_known :
    ∃ m, buildMethod { bypassMethod := [.wrongSeq, .fakeTls] } (fun _ => 0)
        = some m ∧
      ∃ s, feedAll m (.new [0x16] none) (sampleRun [0x16, 3, 1]) = .ok s ∧
        ((s.fakeSent = true ∨ s.waitingForData = true
            ∨ s.firstDataModified = true ∨ s.waitingForFirstDataAck = true
            ∨ s.fragmentAllData = true) →
          s.synSeq.isSome = true ∧ s.synAckSeq.isSome = true) := by
  obtain ⟨m, hm, hrun⟩ := validated_run_seqs_known
    { bypassMethod := [.wrongSeq, .fakeTls] } rfl rfl (fun _ => 0)
  exact ⟨m, hm, hrun [0x16] none (sampleRun [0x16, 3, 1])⟩

end ZeroDpi
