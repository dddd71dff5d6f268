/-
Which probes TTL discovery accepts.

`bypass_progress` takes every outcome for progress. So a flow that the
handler closed goes on to the TLS handshake, which then runs untreated
and decides alone, where the proxy's `finish_bypass_or_error` gives up.
`BeginsBypassed` and the outcome at the end are what an accepted probe
should have behind it; `Tolerable` says which steps keep it so.

With `low_ttl` in the list an ACK that completes the handshake leaves a
decoy with the override of its flow, unless the composite loses it, and no
method aborts. All else follows from one invariant (`ProbeInv`): past the
handshake, or with an outcome there or owed, the decoy has been answered.
-/
import ZeroDpi.LowTtlDiscover
import ZeroDpi.Proofs.HandshakeStage
import ZeroDpi.Proofs.LowTtl

namespace ZeroDpi

open Lib Handler

variable {cfg : Config} {freshSeed : MethodName → UInt64}
  {m : CompositeMethod Member} {env : HookEnv} {s : FlowState}

-- ======================================================= refused packets

namespace Handler

/-- The outbound packets of a monitored flow that `on_packet` closes it
on. -/
def refusesOutbound (s : FlowState) (pkt : PacketView) : Bool :=
  if pkt.isBareSyn then
    pkt.ack ≠ 0 || (s.synSeq.isSome && s.synSeq ≠ some pkt.seq)
  else if pkt.isBareAck then
    !s.fragmentAllData && (s.fakeSent || s.waitingForData
      || !completesHandshake s pkt.toCapturedPacket)
  else
    !inDataStage s pkt && !s.waitingForFirstDataAck && !s.fragmentAllData

/-- The inbound ones. -/
def refusesInbound (s : FlowState) (pkt : PacketView) : Bool :=
  match s.synSeq with
  | none => true
  | some synSeq =>
      let follows := s.synAckSeq.map (· + 1) == some pkt.seq
      if s.fragmentAllData then false
      else if pkt.isSynAck then
        pkt.ack ≠ synSeq + 1
          || (s.synAckSeq.isSome && s.synAckSeq ≠ some pkt.seq)
      else if pkt.isBareAck && s.fakeSent then
        !follows || pkt.ack ≠ synSeq + 1
      else if s.waitingForFirstDataAck && pkt.isBareAck then !follows
      else true

/-- The packets `unexpected` is called on. -/
def refuses (s : FlowState) (pkt : PacketView) : Bool :=
  s.monitor && match pkt.direction with
    | .outbound => refusesOutbound s pkt
    | .inbound => refusesInbound s pkt

variable {μ : Type} [BypassMethod μ] {method : μ} {pkt : PacketView}
  {l : Locked}

theorem onBareAck_keeps_outcome
    (hno : (!s.fragmentAllData && (s.fakeSent || s.waitingForData
      || !completesHandshake s pkt.toCapturedPacket)) = false)
    (h : onBareAck method env s pkt = .ok l) :
    l.state.outcome = s.outcome := by
  unfold onBareAck at h
  split at h
  · cases h
    rfl
  case isFalse hall =>
  have hall : s.fragmentAllData = false := by simpa using hall
  rw [hall] at hno
  simp only [Bool.not_false, Bool.true_and, Bool.or_eq_false_iff] at hno
  obtain ⟨⟨hfake, hwait⟩, hmatch⟩ := hno
  rw [if_neg (by simp [hfake, hwait]), if_neg (by simp [hmatch])] at h
  obtain ⟨⟨action, v⟩, -, hl⟩ := bind_eq_ok.mp h
  cases hl
  exact onHandshakeAction_outcome s action v

theorem onOutbound_keeps_outcome (hno : refusesOutbound s pkt = false)
    (h : onOutbound method env s pkt = .ok l) :
    l.state.outcome = s.outcome := by
  unfold onOutbound at h
  unfold refusesOutbound at hno
  by_cases hsyn : pkt.isBareSyn = true
  · rw [if_pos hsyn] at h hno
    obtain ⟨hack, hseq⟩ := Bool.or_eq_false_iff.mp hno
    unfold onBareSyn at h
    rw [if_neg (of_decide_eq_false hack), if_neg (Bool.eq_false_iff.mp hseq)] at h
    cases h
    rfl
  rw [if_neg hsyn] at h hno
  by_cases hack : pkt.isBareAck = true
  · rw [if_pos hack] at h hno
    exact onBareAck_keeps_outcome hno h
  rw [if_neg hack] at h hno
  by_cases hstage : inDataStage s pkt = true
  · rw [if_pos hstage] at h
    obtain ⟨⟨action, v⟩, -, hl⟩ := bind_eq_ok.mp h
    cases hl
    exact onDataAction_outcome s action v
  rw [if_neg hstage] at h
  cases h
  unfold onOutboundRest
  split
  · rfl
  case isFalse hfirst =>
  split
  · split
    · rfl
    · rfl
  · simp_all

theorem onSynAck_keeps_outcome {synSeq : UInt32}
    (hno : (decide (pkt.ack ≠ synSeq + 1)
      || (s.synAckSeq.isSome && s.synAckSeq ≠ some pkt.seq)) = false) :
    (onSynAck s synSeq pkt).state.outcome = s.outcome := by
  obtain ⟨hack, hseq⟩ := Bool.or_eq_false_iff.mp hno
  unfold onSynAck
  rw [if_neg (of_decide_eq_false hack), if_neg (Bool.eq_false_iff.mp hseq)]
  rfl

theorem onPostFakeAck_keeps_outcome {synSeq : UInt32}
    (hno : (!(s.synAckSeq.map (· + 1) == some pkt.seq)
      || decide (pkt.ack ≠ synSeq + 1)) = false)
    (h : onPostFakeAck s synSeq pkt = .ok l) :
    l.state.outcome = s.outcome := by
  obtain ⟨hfollows, hack⟩ := Bool.or_eq_false_iff.mp hno
  unfold onPostFakeAck at h
  split at h
  · cases h
  case h_2 synAckSeq hsynAck =>
  have hseq : synAckSeq + 1 = pkt.seq := by simpa [hsynAck] using hfollows
  rw [if_neg (fun hne => hne hseq.symm),
    if_neg (of_decide_eq_false hack)] at h
  split at h
  · cases h
    rfl
  · cases h
    rfl

theorem onFirstDataAck_keeps_outcome {synSeq : UInt32}
    (hno : (!(s.synAckSeq.map (· + 1) == some pkt.seq)) = false)
    (h : onFirstDataAck s synSeq pkt = .ok l) :
    l.state.outcome = s.outcome := by
  unfold onFirstDataAck at h
  split at h
  · cases h
  case h_2 synAckSeq hsynAck =>
  have hseq : synAckSeq + 1 = pkt.seq := by simpa [hsynAck] using hno
  rw [if_neg fun hne => hne hseq.symm] at h
  split at h
  · cases h
    rfl
  · cases h
    rfl

theorem onInbound_keeps_outcome (hno : refusesInbound s pkt = false)
    (h : onInbound s pkt = .ok l) : l.state.outcome = s.outcome := by
  unfold onInbound at h
  unfold refusesInbound at hno
  cases hsyn : s.synSeq with
  | none =>
      rw [hsyn] at hno
      cases hno
  | some synSeq =>
  rw [hsyn] at h hno
  simp only at h hno
  by_cases hall : s.fragmentAllData = true
  · rw [if_pos hall] at h
    cases h
    rfl
  rw [if_neg hall] at h hno
  by_cases hsynAck : pkt.isSynAck = true
  · rw [if_pos hsynAck] at h hno
    cases h
    exact onSynAck_keeps_outcome hno
  rw [if_neg hsynAck] at h hno
  by_cases hfake : (pkt.isBareAck && s.fakeSent) = true
  · rw [if_pos hfake] at h hno
    exact onPostFakeAck_keeps_outcome hno h
  rw [if_neg hfake] at h hno
  by_cases hfirst : (s.waitingForFirstDataAck && pkt.isBareAck) = true
  · rw [if_pos hfirst] at h hno
    exact onFirstDataAck_keeps_outcome hno h
  · rw [if_neg hfirst] at hno
    cases hno

/-- The critical section of a packet that is not refused leaves the
outcome alone. -/
theorem locked_keeps_outcome (hno : refuses s pkt = false)
    (h : onPacketLocked method env s pkt = .ok l) :
    l.state.outcome = s.outcome := by
  unfold onPacketLocked at h
  by_cases hmon : s.monitor = true
  · rw [if_neg (by simp [hmon])] at h
    unfold refuses at hno
    rw [hmon, Bool.true_and] at hno
    cases hdir : pkt.direction with
    | outbound =>
        rw [hdir] at h hno
        exact onOutbound_keeps_outcome hno h
    | inbound =>
        rw [hdir] at h hno
        exact onInbound_keeps_outcome hno h
  · rw [if_pos (by simp [hmon])] at h
    cases h
    rfl

end Handler

-- ============================================================== the decoy

/-- The view carries the fake of its flow and the candidate TTL. -/
def PacketView.CarriesDecoy (v : PacketView) (fakeData : Bytes)
    (ttl : UInt8) : Prop :=
  v.newPayload = some fakeData ∧ v.newIpv4Ttl = some ttl

variable {ttl : UInt8} {v v' : PacketView} {action : MethodAction}

/-- What a handshake member stages leaves the decoy there. -/
theorem Member.carriesDecoy {x : Member}
    (h : BypassMethod.onHandshakeCompleteAck x env s v = .ok (action, v'))
    (hv : v.CarriesDecoy s.fakeData ttl) (hs : s.lowTtlOverride = some ttl) :
    v'.CarriesDecoy s.fakeData ttl := by
  cases x with
  | wrongSeq x =>
      replace h : x.onHandshakeCompleteAck s v = _ := h
      unfold WrongSeq.onHandshakeCompleteAck at h
      split at h
      · cases h
      · cases h
        exact ⟨rfl, hv.2⟩
  | wrongAck x =>
      replace h : x.onHandshakeCompleteAck s v = _ := h
      unfold WrongAck.onHandshakeCompleteAck at h
      split at h
      · cases h
      · cases h
        exact ⟨rfl, hv.2⟩
  | wrongTimestamp x =>
      replace h : x.onHandshakeCompleteAck s v = _ := h
      unfold WrongTimestamp.onHandshakeCompleteAck at h
      split at h
      · cases h
        exact hv
      · cases h
        exact ⟨rfl, hv.2⟩
  | wrongChecksum x =>
      cases h
      exact ⟨rfl, hv.2⟩
  | wrongMd5 x =>
      cases h
      exact ⟨rfl, hv.2⟩
  | lowTtl x =>
      cases h
      exact ⟨rfl, by rw [hs]; rfl⟩
  | _ =>
      cases h
      exact hv

theorem LowTtl.carriesDecoy {x : LowTtl}
    (h : BypassMethod.onHandshakeCompleteAck (Member.lowTtl x) env s v
      = .ok (action, v'))
    (hs : s.lowTtlOverride = some ttl) :
    v'.CarriesDecoy s.fakeData ttl := by
  cases h
  exact ⟨rfl, by rw [hs]; rfl⟩

/-- So it is there after the last member, once `low_ttl` is among them. -/
theorem carriesDecoy_fold {ms : List Member} {acc acc' : HandshakeAcc}
    (hrun : ms.foldlM (HandshakeAcc.turn env s) acc = .ok acc')
    (hs : s.lowTtlOverride = some ttl)
    (h : acc.pkt.CarriesDecoy s.fakeData ttl ∨ ∃ x, .lowTtl x ∈ ms) :
    acc'.pkt.CarriesDecoy s.fakeData ttl := by
  induction ms generalizing acc with
  | nil =>
      cases hrun
      rcases h with h | ⟨x, hx⟩
      · exact h
      · cases hx
  | cons y rest ih =>
      rw [List.foldlM_cons] at hrun
      obtain ⟨mid, hturn, hrest⟩ := bind_eq_ok.mp hrun
      obtain ⟨⟨action, v⟩, hhook, hmid⟩ := bind_eq_ok.mp hturn
      cases hmid
      refine ih hrest ?_
      rcases h with h | ⟨x, hx⟩
      · exact .inl (Member.carriesDecoy hhook h hs)
      · rcases List.mem_cons.mp hx with rfl | hx
        · exact .inl (LowTtl.carriesDecoy hhook hs)
        · exact .inr ⟨x, hx⟩

/-- The composite hands it on. -/
theorem CompositeMethod.carriesDecoy (hm : Runtime.StampsTtl m)
    (h : BypassMethod.onHandshakeCompleteAck m env s v = .ok (action, v'))
    (hs : s.lowTtlOverride = some ttl) :
    v'.CarriesDecoy s.fakeData ttl := by
  obtain ⟨acc, hrun, hrest⟩ := bind_eq_ok.mp h
  have hacc := carriesDecoy_fold hrun hs (.inr hm)
  split at hrest
  · cases hrest
    exact hacc
  · cases hrest
    exact hacc

-- ======================================================== one packet more

/-- No critical section changes what the flow was registered with. -/
theorem Handler.LockedCase.registered {pkt : PacketView} {l : Locked}
    (h : LockedCase m env s pkt l) :
    l.state.fakeData = s.fakeData
      ∧ l.state.lowTtlOverride = s.lowTtlOverride := by
  cases h with
  | closed _ =>
      obtain ⟨o, mon, hs⟩ := unexpected_frame s pkt
      rw [hs]
      exact ⟨rfl, rfl⟩
  | @handshake action v _ _ =>
      cases action with
      | emitFakeAndAccept immediate more => cases more <;> exact ⟨rfl, rfl⟩
      | _ => exact ⟨rfl, rfl⟩
  | @data action v _ _ =>
      cases action with
      | emitFakeAndAccept immediate more =>
          cases more <;> cases immediate <;> exact ⟨rfl, rfl⟩
      | abortAndAccept =>
          simp only [onDataAction]
          split <;> exact ⟨rfl, rfl⟩
      | _ => exact ⟨rfl, rfl⟩
  | _ => exact ⟨rfl, rfl⟩

theorem Deferred.run_registered (d : Deferred) (s : FlowState) :
    (d.run s).fakeData = s.fakeData
      ∧ (d.run s).lowTtlOverride = s.lowTtlOverride
      ∧ (d.run s).pastHandshake = s.pastHandshake
      ∧ (SeqInv s → SeqInv (d.run s)) := by
  obtain ⟨o, mon, hs⟩ := d.run_frame s
  rw [hs]
  exact ⟨rfl, rfl, rfl, id⟩

namespace ConnectionTask

/-- The handler has answered with the decoy. -/
def ProbeFlow.DecoyOut (f : ProbeFlow) (fakeData : Bytes) (ttl : UInt8) :
    Prop :=
  ∃ answer ∈ f.answered, IsDecoy fakeData ttl answer

/-- A bypass that succeeds. -/
def Succeeds : Deferred → Prop
  | .finish outcome | .signalOutcome outcome => outcome = .fakeDataAcked

/-- The flow of a probe whose steps were all tolerable. -/
structure ProbeInv (fakeData : Bytes) (ttl : UInt8) (f : ProbeFlow) :
    Prop where
  seqs : SeqInv f.entry
  fake : f.entry.fakeData = fakeData
  override : f.entry.lowTtlOverride = some ttl
  open_ : f.entry.outcome ≠ some .unexpectedClose
  owes : ∀ d, f.owed = some d → Succeeds d
  treated : f.entry.pastHandshake = true ∨ f.entry.outcome.isSome = true
    ∨ f.owed.isSome = true → f.DecoyOut fakeData ttl

/-- The steps that keep a probe's flow as its decoy leaves it: no packet
is refused and no `reset` comes while the outcome is open, and no ACK
loses the decoy that was staged on it. -/
def ProbeFlow.Tolerates (cfg : Config) (f : ProbeFlow) : FlowEvent → Prop
  | .packet _ pkt =>
      (f.entry.outcome = none → refuses f.entry pkt.view = false)
        ∧ (HandshakeAck f.entry pkt → ¬ LosesFake cfg pkt)
  | .owed => True
  | .resetFinishes => f.entry.outcome ≠ none
  | .resetClears => True

variable {fakeData : Bytes} {f f' : ProbeFlow} {pkt : CapturedPacket}
  {l : Locked}

/-- The composite emits on an ACK that does not lose the decoy. -/
theorem answer_isEmit (hv : cfg.validate = .ok ())
    (hb : BuiltFrom cfg freshSeed m) (hm : Runtime.StampsTtl m)
    (hl : ¬ LosesFake cfg pkt) : (m.handshakeAnswer pkt).isEmit = true := by
  obtain ⟨x, hx⟩ := hm
  refine answer_isEmit_of_not_loses (Config.validList hv) hb hl
    ⟨.lowTtl x, hx, ?_⟩
  simp [Member.handshakeAction, MethodAction.isEmit]

/-- What a tolerated packet has the handler owe. -/
theorem tolerated_owes (hv : cfg.validate = .ok ())
    (hb : BuiltFrom cfg freshSeed m) (hm : Runtime.StampsTtl m)
    (hseqs : SeqInv s) (hl : HandshakeAck s pkt → ¬ LosesFake cfg pkt)
    (h : LockedCase m env s pkt.view l) {d : Deferred}
    (hd : l.deferred = some d) : Succeeds d := by
  cases h with
  | passed => cases hd
  | closed _ => cases hd
  | syn _ _ => cases hd
  | synAck _ _ _ => cases hd
  | fragmentAllClose _ _ => cases hd
  | postFakeAck _ _ _ _ =>
      cases hd
      rfl
  | firstDataAck _ _ _ _ =>
      cases hd
      rfl
  | @handshake action v hack hhook =>
      obtain ⟨w, hspec, -⟩ := m.handshake_spec env
        (seqsKnown_of_completes hack.matchesSyn) pkt.view
      rw [hhook] at hspec
      cases hspec
      have hemit := answer_isEmit hv hb hm (hl hack)
      simp only [CapturedPacket.view_toCapturedPacket] at hd
      cases hanswer : m.handshakeAnswer pkt with
      | emitFakeAndAccept immediate more =>
          rw [hanswer] at hd
          cases more with
          | true => cases hd
          | false =>
              cases immediate with
              | true =>
                  cases hd
                  rfl
              | false => cases hd
      | _ =>
          rw [hanswer] at hemit
          cases hemit
  | @data action v hdata hhook =>
      obtain ⟨action', w, hspec, -, hne, -⟩ := CompositeMethod.data_spec
        (hb.dataReady (Config.validParams hv).recordFragSize) env
        (hseqs hdata.pastHandshake) pkt.view
      rw [hhook] at hspec
      cases hspec
      cases action with
      | emitFakeAndAccept immediate more =>
          cases more with
          | true =>
              cases hd
              rfl
          | false =>
              cases immediate with
              | true =>
                  cases hd
                  rfl
              | false => cases hd
      | completeAndAccept =>
          simp only [onDataAction] at hd
          split at hd
          · cases hd
          · cases hd
            rfl
      | passThrough => cases hd
      | abortAndAccept => exact absurd rfl hne

/-- Past the handshake, or with a call owed, the flow was past it before or
the packet has just been made the decoy. -/
theorem tolerated_treats (hv : cfg.validate = .ok ())
    (hb : BuiltFrom cfg freshSeed m) (hm : Runtime.StampsTtl m)
    (hs : s.lowTtlOverride = some ttl)
    (hl : HandshakeAck s pkt → ¬ LosesFake cfg pkt)
    (h : LockedCase m env s pkt.view l)
    (hpast : l.state.pastHandshake = true ∨ l.deferred.isSome = true) :
    s.pastHandshake = true ∨ IsDecoy s.fakeData ttl (l.pkt, l.verdict) := by
  cases h with
  | passed => exact .inl (hpast.resolve_right nofun)
  | closed _ =>
      obtain ⟨o, mon, hclosed⟩ := unexpected_frame s pkt.view
      rw [hclosed] at hpast
      exact .inl (hpast.resolve_right nofun)
  | syn _ _ => exact .inl (hpast.resolve_right nofun)
  | synAck _ _ _ => exact .inl (hpast.resolve_right nofun)
  | fragmentAllClose _ _ => exact .inl (hpast.resolve_right nofun)
  | postFakeAck _ hfake _ _ =>
      exact .inl (by simp [FlowState.pastHandshake, hfake])
  | firstDataAck _ hwait _ _ =>
      exact .inl (by simp [FlowState.pastHandshake, hwait])
  | data hdata _ => exact .inl hdata.pastHandshake
  | @handshake action v hack hhook =>
      obtain ⟨w, hspec, -⟩ := m.handshake_spec env
        (seqsKnown_of_completes hack.matchesSyn) pkt.view
      have hcarries := CompositeMethod.carriesDecoy hm hhook hs
      rw [hhook] at hspec
      cases hspec
      have hemit := answer_isEmit hv hb hm (hl hack)
      simp only [CapturedPacket.view_toCapturedPacket]
      cases hanswer : m.handshakeAnswer pkt with
      | emitFakeAndAccept immediate more =>
          exact .inr ⟨rfl, hcarries.1, hcarries.2⟩
      | _ =>
          rw [hanswer] at hemit
          cases hemit

/-- A tolerated packet keeps the invariant. -/
theorem ProbeInv.packet (hv : cfg.validate = .ok ())
    (hb : BuiltFrom cfg freshSeed m) (hm : Runtime.StampsTtl m)
    (h : ProbeInv fakeData ttl f)
    (htolerates : f.Tolerates cfg (.packet env pkt))
    (hlocked : onPacketLocked m env f.entry pkt.view = .ok l) :
    ProbeInv fakeData ttl (f.handled l) := by
  obtain ⟨hrefuses, hloses⟩ := htolerates
  have hcase := locked_cases hlocked
  obtain ⟨hfake, hoverride⟩ := hcase.registered
  have houtcome : l.state.outcome = f.entry.outcome := by
    cases ho : f.entry.outcome with
    | none => exact (locked_keeps_outcome (hrefuses ho) hlocked).trans ho
    | some o => exact hcase.outcome_stable ho
  have hbefore : f.DecoyOut fakeData ttl →
      (f.handled l).DecoyOut fakeData ttl := by
    rintro ⟨answer, hmem, hdecoy⟩
    exact ⟨answer, List.mem_append_left _ hmem, hdecoy⟩
  constructor
  · exact hcase.seqInv h.seqs
  · exact hfake.trans h.fake
  · exact hoverride.trans h.override
  · show l.state.outcome ≠ _
    rw [houtcome]
    exact h.open_
  · intro d hd
    exact tolerated_owes hv hb hm h.seqs hloses hcase hd
  · intro hpast
    have hpast : f.entry.outcome.isSome = true
        ∨ l.state.pastHandshake = true ∨ l.deferred.isSome = true := by
      rcases hpast with hpast | hsome | howed
      · exact .inr (.inl hpast)
      · exact .inl (by rw [← houtcome]; exact hsome)
      · exact .inr (.inr howed)
    rcases hpast with hsome | hpast
    · exact hbefore (h.treated (.inr (.inl hsome)))
    rcases tolerated_treats hv hb hm h.override hloses hcase hpast with
      hpast | hdecoy
    · exact hbefore (h.treated (.inl hpast))
    · rw [h.fake] at hdecoy
      exact ⟨_, List.mem_append_right _ (List.mem_singleton_self _), hdecoy⟩

/-- A successful call leaves no other outcome. -/
theorem Succeeds.run {d : Deferred} (h : Succeeds d)
    (hs : s.outcome ≠ some .unexpectedClose) :
    (d.run s).outcome ≠ some .unexpectedClose := by
  cases ho : s.outcome with
  | some o =>
      rw [Deferred.run_of_some ho]
      exact hs
  | none =>
      cases d with
      | finish outcome =>
          cases h
          show (s.finish _).outcome ≠ _
          rw [FlowState.finish_of_none ho]
          nofun
      | signalOutcome outcome =>
          cases h
          show (s.signalOutcome _).outcome ≠ _
          rw [FlowState.signalOutcome_of_none ho]
          nofun

/-- So does every step that is tolerated. -/
theorem ProbeInv.step {event : FlowEvent} (hv : cfg.validate = .ok ())
    (hb : BuiltFrom cfg freshSeed m) (hm : Runtime.StampsTtl m)
    (h : ProbeInv fakeData ttl f) (htolerates : f.Tolerates cfg event)
    (hstep : ProbeFlow.Step m f event f') : ProbeInv fakeData ttl f' := by
  cases hstep with
  | packet _ _ hlocked => exact h.packet hv hb hm htolerates hlocked
  | @owed call howed =>
      obtain ⟨hfake, hoverride, hpast, hseqs⟩ :=
        Deferred.run_registered call f.entry
      constructor
      · exact hseqs h.seqs
      · exact hfake.trans h.fake
      · exact hoverride.trans h.override
      · exact (h.owes call howed).run h.open_
      · nofun
      · intro _
        exact h.treated (.inr (.inr (by rw [howed]; rfl)))
  | resetFinishes _ =>
      obtain ⟨o, ho⟩ := Option.ne_none_iff_exists'.mp htolerates
      rw [FlowState.finish_of_some ho]
      exact h
  | resetClears =>
      exact ⟨h.seqs, h.fake, h.override, h.open_, h.owes, h.treated⟩

-- ======================================================== a whole probe

/-- The TLS handshake begins on a flow that is bypassed or waits for data,
and the handler has answered with the decoy. -/
def BeginsBypassed (fakeData : Bytes) (ttl : UInt8) (w : World ProbeFlow) :
    Task.Item Wait Wait.Reply FlowEvent → Prop
  | .reply .bypassProgress (some _) =>
      (w.controller.entry.outcome = some .fakeDataAcked
          ∨ w.controller.entry.waitingForData = true)
        ∧ w.controller.DecoyOut fakeData ttl
  | _ => True

/-- What the others do is tolerated. -/
def Tolerated (cfg : Config) (w : World ProbeFlow) :
    Task.Item Wait Wait.Reply FlowEvent → Prop
  | .other event => w.controller.Tolerates cfg event
  | _ => True

/-- A run of a probe that is accepted only if its TLS handshake began
bypassed and its flow did not end unexpectedly. -/
def AcceptsBypassed (m : CompositeMethod Member) (c : Connection)
    (connectIp : Ipv4Addr) (ttl : UInt8) (w : World ProbeFlow)
    (l : List (Task.Item Wait Wait.Reply FlowEvent)) (r : Option Bool)
    (w' : World ProbeFlow) : Prop :=
  r = some true →
    Task.Runs (probeEnv m)
        (fun w i => ReadsProgress w i
          ∧ BeginsBypassed c.fakeClientHello ttl w i)
        (probeTtl probeRegistry c connectIp ttl) w l r w'
      ∧ w'.controller.entry.outcome ≠ some .unexpectedClose

/-- Progress that is read off the flow of a tolerated probe. -/
theorem ProbeInv.progress (h : ProbeInv fakeData ttl f)
    {progress : BypassProgress} (hread : f.entry.progress = some progress) :
    (f.entry.outcome = some .fakeDataAcked ∨ f.entry.waitingForData = true)
      ∧ f.DecoyOut fakeData ttl := by
  unfold FlowState.progress at hread
  cases ho : f.entry.outcome with
  | some outcome =>
      cases outcome with
      | fakeDataAcked =>
          exact ⟨.inl rfl, h.treated (.inr (.inl (by rw [ho]; rfl)))⟩
      | unexpectedClose => exact absurd ho h.open_
  | none =>
      rw [ho] at hread
      simp only at hread
      split at hread
      case isTrue hwait =>
        refine ⟨.inr hwait, h.treated (.inl ?_)⟩
        simp [FlowState.pastHandshake, hwait]
      · cases hread

section

variable (cfg : Config) (m : CompositeMethod Member) (fakeData : Bytes)
  (ttl : UInt8)

/-- A piece of a probe, from a flow whose steps were tolerated. -/
def Treats (t : ConnTask ProbeFlow Bool) : Prop :=
  Task.Ensures (probeEnv m) (fun w i => ReadsProgress w i ∧ Tolerated cfg w i)
    (fun w i => ReadsProgress w i ∧ BeginsBypassed fakeData ttl w i)
    (fun w => ProbeInv fakeData ttl w.controller) t
    fun _ w => w.controller.entry.outcome ≠ some .unexpectedClose

end

theorem treats_removed (key : FlowKey) (ok : Bool) :
    Treats cfg m fakeData ttl
      ((removeFlow probeRegistry key).bind fun _ => .done ok) := by
  apply Task.ensures_act
  intro w hinv
  apply Task.ensures_done
  intro w' heq
  subst heq
  exact hinv.open_

theorem treats_wait (hv : cfg.validate = .ok ())
    (hb : BuiltFrom cfg freshSeed m) (hm : Runtime.StampsTtl m) {wait : Wait}
    {next : wait.Reply → ConnTask ProbeFlow Bool}
    (hreply : ∀ w x, ProbeInv fakeData ttl w.controller →
      ReadsProgress w (.reply wait x) →
      BeginsBypassed fakeData ttl w (.reply wait x))
    (hnext : ∀ x, Treats cfg m fakeData ttl (next x)) :
    Treats cfg m fakeData ttl ((ask wait).bind next) := by
  apply Task.ensures_await
  · rintro w event w' hinv ⟨-, htolerated⟩ ⟨f, hstep, rfl⟩
    exact ⟨hinv.step hv hb hm htolerated hstep, trivial, trivial⟩
  · intro w hinv _
    exact ⟨⟨trivial, trivial⟩, hinv.open_⟩
  · rintro w x hinv ⟨hread, -⟩
    exact ⟨hread, hreply w x hinv hread⟩
  · exact hnext

theorem treats_probeRegistered (hv : cfg.validate = .ok ())
    (hb : BuiltFrom cfg freshSeed m) (hm : Runtime.StampsTtl m)
    (key : FlowKey) :
    Treats cfg m fakeData ttl (probeRegistered probeRegistry key) := by
  refine treats_wait hv hb hm (fun _ _ _ _ => trivial) fun connected => ?_
  cases connected with
  | error error => exact treats_removed key false
  | ok _ =>
  refine treats_wait hv hb hm ?_ fun progress => ?_
  · intro w progress hinv hread
    cases progress with
    | none => trivial
    | some progress => exact hinv.progress hread
  cases progress with
  | none => exact treats_removed key false
  | some progress =>
      exact treats_wait hv hb hm (fun _ _ _ _ => trivial)
        fun ok => treats_removed key ok

theorem probeInv_new (fakeData : Bytes) (ttl : UInt8) :
    ProbeInv fakeData ttl ⟨true, .new fakeData (some ttl), none, []⟩ where
  seqs := seqInv_new fakeData (some ttl)
  fake := rfl
  override := rfl
  open_ := nofun
  owes := nofun
  treated := by simp [FlowState.new, FlowState.pastHandshake]

/-- The whole probe, from any state of its key. -/
theorem ensures_probeTtl (hv : cfg.validate = .ok ())
    (hb : BuiltFrom cfg freshSeed m) (hm : Runtime.StampsTtl m)
    (c : Connection) (connectIp : Ipv4Addr) :
    Task.Ensures (probeEnv m) (fun w i => ReadsProgress w i ∧ Tolerated cfg w i)
      (fun w i => ReadsProgress w i ∧ BeginsBypassed c.fakeClientHello ttl w i)
      (fun _ => True) (probeTtl probeRegistry c connectIp ttl)
      fun r w => r = some true →
        w.controller.entry.outcome ≠ some .unexpectedClose := by
  unfold probeTtl
  split
  · exact Task.ensures_done fun _ _ => nofun
  case h_2 srcPort _ =>
  apply Task.ensures_act
  intro w _
  cases htaken : w.controller.taken with
  | true =>
      simp only [probeRegistry, htaken]
      exact Task.ensures_done fun _ _ => nofun
  | false =>
      simp only [probeRegistry, htaken]
      apply Task.ensures_act
      intro w₀ heq
      replace heq : w₀ = w := heq
      rw [heq]
      simp only [htaken]
      intro w₁ l r w' heq hrun
      have hinv : ProbeInv c.fakeClientHello ttl w₁.controller := by
        rw [heq]
        show ProbeInv _ _ (if w.controller.taken then _ else _)
        rw [htaken]
        exact probeInv_new c.fakeClientHello ttl
      obtain ⟨hrun', hlast⟩ :=
        treats_probeRegistered hv hb hm _ w₁ l r w' hinv hrun
      exact ⟨hrun', fun _ => hlast⟩

/-- With `low_ttl` in a validated list: in every run of a probe and its
packet handler in which no packet is refused and no `reset` comes while the
outcome is open, and no ACK loses its decoy, the probe is accepted only if
its TLS handshake began bypassed and its flow did not end unexpectedly. -/
theorem probe_accepts_bypassed (hv : cfg.validate = .ok ())
    (hbuilt : buildMethod cfg freshSeed = some m)
    (hlow : .lowTtl ∈ cfg.bypassMethod) {c : Connection}
    {connectIp : Ipv4Addr} {w w' : World ProbeFlow}
    {l : List (Task.Item Wait Wait.Reply FlowEvent)} {r : Option Bool}
    (hrun : Task.Runs (probeEnv m)
      (fun w i => ReadsProgress w i ∧ Tolerated cfg w i)
      (probeTtl probeRegistry c connectIp ttl) w l r w') :
    AcceptsBypassed m c connectIp ttl w l r w' := by
  intro hr
  obtain ⟨hrun', hlast⟩ := ensures_probeTtl hv (build_spec hbuilt)
    (Runtime.stampsTtl_of_built hbuilt hlow) c connectIp w l r w' trivial hrun
  exact ⟨hrun', hlast hr⟩

-- -------------------------------------------------- one probe, and another

/-- `low_ttl` alone. -/
def lowTtlMethod : CompositeMethod Member where
  handshakeMethods := [.lowTtl (.new Runtime.Plane.lowTtlConfig)]
  dataMethods := []
  segmentsFirstClientHello := false
  padsFirstClientHello := false
  mixedCaseSniFirstHello := false
  splitsFirstClientHello := false
  ccsPrefixFirstHello := false
  recordSplitsFirstClientHello := false

/-- A connection of the probe. -/
def sampleProbe : Connection where
  peer := (.v4 0x7F000001, 50000)
  interfaceIp := 0x0A000001
  connectIp := .v4 0x01010101
  connectPort := 443
  targetSni := none
  fakeClientHello := [0x16]
  lowTtlOverride := none
  socket := .ok 40000
  env := ⟨0, 0, 0⟩

/-- Nothing under its key yet. -/
def vacant : World ProbeFlow := ⟨[], none, ⟨false, .new [] none, none, []⟩⟩

/-- Its SYN. -/
def sampleSyn : FlowEvent :=
  .packet sampleEnv (samplePacket .outbound 100 0 { syn := true } [])

/-- And the answer. -/
def sampleSynAck (seq : UInt32) : FlowEvent :=
  .packet sampleEnv
    (samplePacket .inbound seq 101 { syn := true, ack := true } [])

/-- SYN, SYN-ACK and ACK, and the call the handler owes for the ACK. -/
def bypassedProbe : List (Task.Item Wait Wait.Reply FlowEvent) :=
  [.other sampleSyn, .other (sampleSynAck 500),
    .other (.packet sampleEnv sampleAck), .other .owed,
    .reply .connect (.ok ()),
    .reply .bypassProgress (some (.complete .fakeDataAcked)),
    .reply .tlsHandshake true]

/-- The decoy goes out with the candidate TTL, and the probe is accepted. -/
theorem sample_probe_accepts_bypassed :
    ∃ w', AcceptsBypassed lowTtlMethod sampleProbe 0x01010101 3 vacant
      bypassedProbe (some true) w' := by
  have hkeeps : ∀ pkt, ¬ LosesFake Runtime.Plane.lowTtlConfig pkt :=
    fun pkt h => absurd h.timestampLast (by decide)
  have hbuilt : buildMethod Runtime.Plane.lowTtlConfig (fun _ => 0)
      = some lowTtlMethod := rfl
  exact ⟨_, probe_accepts_bypassed rfl hbuilt List.mem_cons_self (.act (.act
      (.other ⟨trivial, fun _ => rfl, fun _ => hkeeps _⟩
        ⟨_, .packet rfl rfl rfl, rfl⟩
      (.other ⟨trivial, fun _ => rfl, fun _ => hkeeps _⟩
        ⟨_, .packet rfl rfl rfl, rfl⟩
      (.other ⟨trivial, fun _ => rfl, fun _ => hkeeps _⟩
        ⟨_, .packet rfl rfl rfl, rfl⟩
      (.other ⟨trivial, trivial⟩ ⟨_, .owed rfl, rfl⟩
      (.reply ⟨trivial, trivial⟩
      (.reply ⟨rfl, trivial⟩
      (.reply ⟨trivial, trivial⟩ (.act .done))))))))))⟩

/-- The server answers the SYN twice, with two sequence numbers. -/
def closedProbe : List (Task.Item Wait Wait.Reply FlowEvent) :=
  [.other sampleSyn, .other (sampleSynAck 500), .other (sampleSynAck 900),
    .reply .connect (.ok ()),
    .reply .bypassProgress (some (.complete .unexpectedClose)),
    .reply .tlsHandshake true]

/-- The flow is closed before its ACK, no packet of it is touched, and the
probe is accepted. -/
theorem closed_probe_is_accepted :
    ∃ w', Task.Runs (probeEnv lowTtlMethod) ReadsProgress
        (probeTtl probeRegistry sampleProbe 0x01010101 3) vacant closedProbe
        (some true) w'
      ∧ w'.controller.answered.all (·.2 == .accept) = true
      ∧ ¬ AcceptsBypassed lowTtlMethod sampleProbe 0x01010101 3 vacant
        closedProbe (some true) w' := by
  refine ⟨_, .act (.act
    (.other trivial ⟨_, .packet rfl rfl rfl, rfl⟩
    (.other trivial ⟨_, .packet rfl rfl rfl, rfl⟩
    (.other trivial ⟨_, .packet rfl rfl rfl, rfl⟩
    (.reply trivial (.reply rfl (.reply trivial (.act .done)))))))), ?_, ?_⟩
  · rfl
  · intro h
    exact (h rfl).2 rfl

end ConnectionTask
end ZeroDpi
