/-
Flows driven by a built method.

`FlowInv` collects what holds of a flow after any run of packets through
the composite: which flags imply which, and how they relate to outcome
and monitoring once every owed call has run. It rests on one property of
the composite, that its handshake stage never answers with a pass-through
(`handshakeAnswer_ne_passThrough`): a flow gets into the data stage only
with `fakeSent` raised.
-/
import ZeroDpi.Proofs.Sequence
import ZeroDpi.Proofs.Outcome

namespace ZeroDpi

open Lib Handler

/-- The invariant of a flow between two packets. -/
structure FlowInv (s : FlowState) : Prop where
  seqs : SeqInv s
  /-- The data stage is entered with the fake flag up. -/
  fakeFirst : s.waitingForData = true ∨ s.firstDataModified = true
    ∨ s.waitingForFirstDataAck = true ∨ s.fragmentAllData = true →
    s.fakeSent = true
  /-- Fragment-all mode starts with the first data packet. -/
  allModified : s.fragmentAllData = true → s.firstDataModified = true
  /-- The first data packet ends the wait for data. -/
  doneWaiting : s.waitingForFirstDataAck = true → s.waitingForData = false
  fresh : s.waitingForData = true → s.firstDataModified = false
  /-- Fragment-all mode has its outcome. -/
  allSettled : s.fragmentAllData = true → s.outcome.isSome = true
  openMonitored : s.outcome = none → s.monitor = true
  settledAll : s.outcome.isSome = true → s.monitor = true →
    s.fragmentAllData = true

theorem flowInv_new (fakeData : Bytes) (ttl : Option UInt8) :
    FlowInv (.new fakeData ttl) where
  seqs := seqInv_new fakeData ttl
  fakeFirst := by simp [FlowState.new]
  allModified := nofun
  doneWaiting := nofun
  fresh := nofun
  allSettled := nofun
  openMonitored _ := rfl
  settledAll := nofun

namespace FlowInv

variable {s : FlowState}

/-- Finishing keeps the invariant, whatever it finds. -/
theorem finish (h : FlowInv s) (o : BypassOutcome) :
    FlowInv (s.finish o) := by
  cases ho : s.outcome with
  | some o' =>
      rw [FlowState.finish_of_some ho]
      exact h
  | none =>
      rw [FlowState.finish_of_none ho]
      exact {
        seqs := h.seqs
        fakeFirst := h.fakeFirst
        allModified := h.allModified
        doneWaiting := h.doneWaiting
        fresh := h.fresh
        allSettled := fun _ => rfl
        openMonitored := nofun
        settledAll := nofun }

/-- Signalling supplies an outcome where none is, and otherwise leaves the
one that is there. -/
theorem signal (h : ∀ o, FlowInv { s with outcome := some o })
    (o : BypassOutcome) : FlowInv (s.signalOutcome o) := by
  cases ho : s.outcome with
  | none =>
      rw [FlowState.signalOutcome_of_none ho]
      exact h o
  | some o' =>
      rw [FlowState.signalOutcome_of_some ho]
      have hs := h o'
      rw [← ho] at hs
      exact hs

/-- A monitored flow outside fragment-all mode is open. -/
theorem open_of_monitored (h : FlowInv s) (hmon : s.monitor = true)
    (hall : s.fragmentAllData = false) : s.outcome = none := by
  cases ho : s.outcome with
  | none => rfl
  | some o =>
      have := h.settledAll (by rw [ho]; rfl) hmon
      rw [hall] at this
      cases this

/-- An open flow is not in fragment-all mode. -/
theorem not_all_of_open (h : FlowInv s) (ho : s.outcome = none) :
    s.fragmentAllData = false := by
  cases hall : s.fragmentAllData with
  | false => rfl
  | true =>
      have := h.allSettled hall
      rw [ho] at this
      cases this

/-- The reactions to a handshake-stage action. -/
theorem handshake {pkt : CapturedPacket} (h : FlowInv s)
    (hack : HandshakeAck s pkt) {action : MethodAction}
    (ha : action ≠ .passThrough) (v : PacketView) :
    FlowInv (settled (onHandshakeAction s action v)) := by
  have hknown := seqsKnown_of_completes hack.matchesSyn
  have hopen := h.open_of_monitored hack.monitored hack.notAll
  -- nothing past the handshake has happened yet
  have hnot : ¬ (s.waitingForData = true ∨ s.firstDataModified = true
      ∨ s.waitingForFirstDataAck = true ∨ s.fragmentAllData = true) := by
    intro hpast
    have hfake := h.fakeFirst hpast
    rw [hack.noFake] at hfake
    cases hfake
  have hwaitAck : s.waitingForFirstDataAck = false :=
    Bool.eq_false_iff.mpr fun hw => hnot (.inr (.inr (.inl hw)))
  have hunmodified : s.firstDataModified = false :=
    Bool.eq_false_iff.mpr fun hmod => hnot (.inr (.inl hmod))
  cases action with
  | passThrough => exact absurd rfl ha
  | completeAndAccept => exact h.finish .fakeDataAcked
  | abortAndAccept => exact h.finish .unexpectedClose
  | emitFakeAndAccept immediate more =>
      have hsent : FlowInv { s with fakeSent := true } := {
        seqs := fun _ => hknown
        fakeFirst := fun _ => rfl
        allModified := h.allModified
        doneWaiting := h.doneWaiting
        fresh := h.fresh
        allSettled := h.allSettled
        openMonitored := h.openMonitored
        settledAll := h.settledAll }
      cases more with
      | true =>
          exact {
            seqs := fun _ => hknown
            fakeFirst := fun _ => rfl
            allModified := h.allModified
            doneWaiting := fun hw => by
              have hw : s.waitingForFirstDataAck = true := hw
              rw [hwaitAck] at hw
              cases hw
            fresh := fun _ => hunmodified
            allSettled := h.allSettled
            openMonitored := h.openMonitored
            settledAll := h.settledAll }
      | false =>
          cases immediate with
          | true => exact hsent.finish .fakeDataAcked
          | false => exact hsent

/-- The reactions to a data-stage action. -/
theorem data {pkt : CapturedPacket} (h : FlowInv s)
    (hdata : DataPacket s pkt) (action : MethodAction) (v : PacketView) :
    FlowInv (settled (onDataAction s action v)) := by
  have hknown := h.seqs hdata.pastHandshake
  have hfake : s.fakeSent = true := by
    rcases hdata.staged with ⟨hwait, -⟩ | hall
    · exact h.fakeFirst (.inl hwait)
    · exact h.fakeFirst (.inr (.inr (.inr hall)))
  have hmodified : FlowInv
      { s with firstDataModified := true, waitingForData := false } := {
    seqs := fun _ => hknown
    fakeFirst := fun _ => hfake
    allModified := fun _ => rfl
    doneWaiting := fun _ => rfl
    fresh := fun hs => by cases hs
    allSettled := h.allSettled
    openMonitored := h.openMonitored
    settledAll := h.settledAll }
  cases action with
  | passThrough => exact h
  | completeAndAccept =>
      simp only [onDataAction, settled]
      by_cases hall : s.fragmentAllData = true
      · rw [if_pos hall]
        exact hmodified
      · rw [if_neg hall]
        exact hmodified.finish .fakeDataAcked
  | abortAndAccept =>
      simp only [onDataAction, settled]
      by_cases hall : s.fragmentAllData = true
      · obtain ⟨o, ho⟩ := Option.isSome_iff_exists.mp (h.allSettled hall)
        rw [if_pos hall]
        exact {
          seqs := fun _ => hknown
          fakeFirst := fun _ => hfake
          allModified := fun hs => by cases hs
          doneWaiting := fun _ => rfl
          fresh := fun hs => by cases hs
          allSettled := fun hs => by cases hs
          openMonitored := fun hnone => by
            rw [show s.outcome = none from hnone] at ho
            cases ho
          settledAll := fun _ hmon => by cases hmon }
      · rw [if_neg hall]
        exact hmodified.finish .unexpectedClose
  | emitFakeAndAccept immediate more =>
      cases more with
      | true =>
          refine signal (fun o => ?_) .fakeDataAcked
          exact {
            seqs := fun _ => hknown
            fakeFirst := fun _ => hfake
            allModified := fun _ => rfl
            doneWaiting := fun _ => rfl
            fresh := fun hs => by cases hs
            allSettled := fun _ => rfl
            openMonitored := fun hs => by cases hs
            settledAll := fun _ _ => rfl }
      | false =>
          cases immediate with
          | true => exact hmodified.finish .fakeDataAcked
          | false =>
              exact {
                seqs := fun _ => hknown
                fakeFirst := fun _ => hfake
                allModified := fun _ => rfl
                doneWaiting := fun _ => rfl
                fresh := fun hs => by cases hs
                allSettled := h.allSettled
                openMonitored := h.openMonitored
                settledAll := h.settledAll }

end FlowInv

-- ============================================================= one packet

/-- One packet through a composite keeps the invariant. -/
theorem onPacket_flowInv {m : CompositeMethod Member} {env : HookEnv}
    {s : FlowState} {pkt : PacketView} {r : Handled}
    (hr : onPacket m env s pkt = .ok r) (h : FlowInv s) :
    FlowInv r.state := by
  obtain ⟨l, hl, hr⟩ := bind_eq_ok.mp hr
  cases hr
  show FlowInv (settled l)
  cases locked_cases hl with
  | passed => exact h
  | closed _ =>
      show FlowInv (unexpected s pkt).state
      rw [unexpected_state]
      exact h.finish .unexpectedClose
  | syn _ _ =>
      exact { h with seqs := fun hpast => ⟨rfl, (h.seqs hpast).2⟩ }
  | synAck _ hsyn _ => exact { h with seqs := fun _ => ⟨hsyn, rfl⟩ }
  | handshake hack hhook =>
      have hknown := seqsKnown_of_completes hack.matchesSyn
      obtain ⟨v, hspec, -⟩ := m.handshake_spec env hknown pkt
      rw [hspec] at hhook
      cases hhook
      exact h.handshake hack (m.handshakeAnswer_ne_passThrough _) _
  | data hdata _ => exact h.data hdata _ _
  | fragmentAllClose _ hall =>
      exact { h with
        openMonitored := fun ho =>
          absurd (h.allSettled hall) (by simp [show s.outcome = none from ho])
        settledAll := nofun }
  | postFakeAck _ _ _ _ => exact h.finish .fakeDataAcked
  | firstDataAck _ hwait hfake _ =>
      have := h.fakeFirst (.inr (.inr (.inl hwait)))
      rw [hfake] at this
      cases this

/-- So does a whole run of packets. -/
theorem feedAll_flowInv {m : CompositeMethod Member} {s s' : FlowState}
    {inputs : List (HookEnv × CapturedPacket)}
    (hrun : feedAll m s inputs = .ok s') (h : FlowInv s) : FlowInv s' := by
  refine foldlM_invariant hrun h fun t input t' _ ht hfeed => ?_
  obtain ⟨r, hr, ht'⟩ := bind_eq_ok.mp hfeed
  cases ht'
  exact onPacket_flowInv hr ht

end ZeroDpi
