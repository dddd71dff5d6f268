/-
Whether a network change reaches the coordinator.

The monitor emits when its own probe changes, and the coordinator acts on
its own probe when it gets round to the event. Once all events are
handled the coordinator is where its latest probe left it, wherever the
monitor is by then (`WatchInv`); the monitor will not say again what it
already knows. Only a coordinator that has never probed is sure to agree
with the monitor, because then nothing was ever emitted.
-/
import ZeroDpi.Runtime.Netmon
import ZeroDpi.Proofs.Coordinator

namespace ZeroDpi.Runtime

open Lib

-- ============================================================ the property

/-- The status published last. -/
def lastStatus : List (Nat × Call) → Option NetworkStatus
  | [] => none
  | (_, .publish status) :: _ => some status
  | _ :: older => lastStatus older

/-- The coordinator runs at `binding`, and its last word is `Online` or
`Recovered` there. -/
def RecoveryCoordinator.CaughtUp (c : RecoveryCoordinator)
    (binding : InterfaceBinding) : Prop :=
  c.current = some binding
    ∧ (lastStatus c.trace).bind NetworkStatus.announced = some binding.ip

/-- What a turn of `handle_change` read from its environment. -/
structure Decision where
  disconnected : Bool
  target : Ipv4Addr
  probe : Except String InterfaceBinding

/-- It got as far as the probe, and the probe returned `binding`. -/
structure Decision.Reads (d : Decision) (binding : InterfaceBinding) :
    Prop where
  connected : d.disconnected = false
  targeted : d.target ≠ 0
  probed : d.probe = .ok binding

/-- The latest decision of the coordinator after another act. -/
def WatchAct.decision (latest : Option Decision) :
    WatchAct → Option Decision
  | .coordinator _ (.decide disconnected target probe) =>
      some ⟨disconnected, target, probe⟩
  | _ => latest

/-- The latest decision of a run. -/
def lastDecision (labels : List WatchAct) : Option Decision :=
  labels.foldl WatchAct.decision none

/-- Every probe of these acts returns `binding`. -/
def Stable (binding : InterfaceBinding) (labels : List WatchAct) : Prop :=
  (∀ event now probe, .monitor event now probe ∈ labels →
      probe = some binding)
    ∧ ∀ elapsed disconnected target probe,
      .coordinator elapsed (.decide disconnected target probe) ∈ labels →
        probe = .ok binding

/-- No rebuild fails. -/
def WatchAct.RebuildsSucceed : WatchAct → Prop
  | .coordinator _ (.rebuilt (.error _)) => False
  | _ => True

/-- The steps of monitor and coordinator, with rebuilds that succeed. -/
def NetworkWatch.Steps (w : NetworkWatch) (act : WatchAct)
    (w' : NetworkWatch) : Prop :=
  w.step act = some w' ∧ act.RebuildsSucceed

-- =========================================================== the monitor

/-- The monitor's view only changes with an event. -/
theorem NetworkMonitor.observe_last (m : NetworkMonitor)
    (kind : NetworkChangeSource) (probe : Option InterfaceBinding) :
    (m.observe kind probe).1.filter.last = m.filter.last
      ∨ (m.observe kind probe).2 = [kind] := by
  by_cases hchanged : probe ≠ m.filter.last
  · right
    simp [NetworkMonitor.observe, ChangeFilter.observe, hchanged]
  · left
    simp [NetworkMonitor.observe, ChangeFilter.observe, hchanged]

theorem NetworkMonitor.turn_last {m m' : NetworkMonitor}
    {event : SourceEvent} {now : Nat} {probe : Option InterfaceBinding}
    {emitted : List NetworkChangeSource}
    (h : m.turn event now probe = some (m', emitted)) :
    m'.filter.last = m.filter.last ∨ ∃ source, emitted = [source] := by
  cases event with
  | change kind =>
      cases h
      exact .inl rfl
  | shutdown => cases h
  | timeout =>
      unfold NetworkMonitor.turn at h
      simp only at h
      split at h
      case h_1 kind settleState _ =>
        cases h
        exact (observe_last { m with settleState := settleState } kind
          probe).imp_right fun hemitted => ⟨kind, hemitted⟩
      case h_2 settleState _ =>
        cases h
        exact (observe_last { m with settleState := settleState } .poll
          probe).imp_right fun hemitted => ⟨.poll, hemitted⟩

/-- A turn either leaves the monitor's view or puts one event on the
channel. -/
theorem NetworkWatch.step_view {w w' : NetworkWatch} {act : WatchAct}
    (h : w.step act = some w') :
    w'.monitor.filter.last = w.monitor.filter.last
      ∨ ∃ source, w'.channel = w.channel ++ [source] := by
  cases act with
  | monitor event now probe =>
      obtain ⟨⟨monitor, emitted⟩, hturn, hw'⟩ :=
        Option.bind_eq_some_iff.mp h
      cases hw'
      refine (NetworkMonitor.turn_last hturn).imp_right fun hemitted => ?_
      obtain ⟨source, rfl⟩ := hemitted
      exact ⟨source, rfl⟩
  | coordinator elapsed act =>
      obtain ⟨channel, -, h⟩ := Option.bind_eq_some_iff.mp h
      obtain ⟨c', -, hw'⟩ := Option.bind_eq_some_iff.mp h
      cases hw'
      exact .inl rfl

-- ========================================================= the invariant

/-- What the coordinator has made of its latest decision, stage by
stage; without one it is where it started. -/
def DecidedAt (initial : InterfaceBinding) (latest : Option Decision)
    (c : RecoveryCoordinator) : Stage → Prop
  | .starting => latest = none ∧ c.current = some initial
  | .listening | .deciding _ => ∀ binding, c.CaughtUp binding
      ↔ match latest with
        | none => binding = initial
        | some d => d.Reads binding
  | .rebuilding _ binding _ _ => ∃ d, latest = some d ∧ d.Reads binding
  | .backingOff _ _ _ _ _ => False
  | .verifying binding | .rescanning binding =>
      c.current = some binding ∧ ∃ d, latest = some d ∧ d.Reads binding
  | .stopped => True

/-- An event is on its way to a decision, or has been followed by one. -/
def OnItsWay (latest : Option Decision) (w : NetworkWatch) : Prop :=
  latest ≠ none ∨ w.channel ≠ []
    ∨ ∃ source, w.coordinator.stage = .deciding source

/-- What the coordinator has decided on, and what it has read. -/
structure WatchInv (initial : InterfaceBinding) (latest : Option Decision)
    (w : NetworkWatch) : Prop where
  decided : DecidedAt initial latest w.coordinator w.coordinator.stage
  /-- A view of the monitor that has changed is on its way. -/
  onItsWay : w.monitor.filter.last ≠ some initial → OnItsWay latest w

theorem watchInv_start (autoSelect : Bool) (settle clock : Nat)
    (initial : InterfaceBinding) :
    WatchInv initial none
      (.start autoSelect settle clock initial) where
  decided := ⟨rfl, rfl⟩
  onItsWay h := absurd rfl h

variable {initial : InterfaceBinding} {latest : Option Decision}

/-- A decision reads one binding. -/
theorem Decision.Reads.unique {d : Decision}
    {binding binding' : InterfaceBinding} (h : d.Reads binding) :
    d.Reads binding' ↔ binding' = binding := by
  constructor
  · intro h'
    exact Except.ok.inj (h'.probed.symm.trans h.probed)
  · intro heq
    rw [heq]
    exact h

/-- A coordinator that announces its current binding has caught up with
that one. -/
theorem caughtUp_iff {c : RecoveryCoordinator} {binding : InterfaceBinding}
    (hcurrent : c.current = some binding)
    (hlast : (lastStatus c.trace).bind NetworkStatus.announced
      = some binding.ip) (binding' : InterfaceBinding) :
    c.CaughtUp binding' ↔ binding' = binding := by
  constructor
  · intro h
    exact Option.some.inj (h.1.symm.trans hcurrent)
  · intro heq
    rw [heq]
    exact ⟨hcurrent, hlast⟩

namespace RecoveryCoordinator

variable {c : RecoveryCoordinator}

/-- The coordinator without a change of address or last word. -/
theorem DecidedAt.keep {c' : RecoveryCoordinator} {stage : Stage}
    (h : DecidedAt initial latest c stage)
    (hcurrent : c'.current = c.current) (htrace : c'.trace = c.trace) :
    DecidedAt initial latest c' stage := by
  cases stage with
  | listening =>
      simp only [DecidedAt, CaughtUp, hcurrent, htrace]
      exact h
  | deciding source =>
      simp only [DecidedAt, CaughtUp, hcurrent, htrace]
      exact h
  | starting => exact ⟨h.1, hcurrent.trans h.2⟩
  | rebuilding source binding attempt delay => exact h
  | backingOff source binding attempt delay since => exact h
  | verifying binding => exact ⟨hcurrent.trans h.1, h.2⟩
  | rescanning binding => exact ⟨hcurrent.trans h.1, h.2⟩
  | stopped => trivial

/-- The head of the loop makes of a decision what it reads. -/
theorem decidedAt_decide (source : NetworkChangeSource) (d : Decision) :
    DecidedAt initial (some d)
      (c.decide source d.disconnected d.target d.probe)
      (c.decide source d.disconnected d.target d.probe).stage := by
  obtain ⟨disconnected, target, probe⟩ := d
  unfold RecoveryCoordinator.decide
  split
  case isTrue hgone =>
    intro binding
    constructor
    · intro h
      cases h.1
    · intro h
      rw [h.connected] at hgone
      cases hgone
  case isFalse hconnected =>
    split
    case isTrue hzero =>
      intro binding
      constructor
      · intro h
        cases h.2
      · intro h
        exact absurd hzero h.targeted
    case isFalse htarget =>
      cases probe with
      | error error =>
          intro binding
          constructor
          · intro h
            cases h.1
          · intro h
            cases h.probed
      | ok found =>
          have hreads : Decision.Reads ⟨disconnected, target, .ok found⟩
              found :=
            ⟨Bool.eq_false_iff.mpr hconnected, htarget, rfl⟩
          simp only
          split
          case isTrue hsame =>
            intro binding
            refine Iff.trans (caughtUp_iff ?_ ?_ binding) hreads.unique.symm
            · exact hsame
            · rfl
          case isFalse => exact ⟨_, rfl, hreads⟩

/-- The end of a recovery. -/
theorem decidedAt_recovered (initial : InterfaceBinding) {d : Decision}
    {binding : InterfaceBinding}
    (hcurrent : c.current = some binding) (hreads : d.Reads binding)
    (verified switched : Bool) :
    DecidedAt initial (some d)
      ((c.publish (.recovered binding.ip verified switched)).goto .listening)
      .listening := by
  intro binding'
  refine Iff.trans (caughtUp_iff ?_ ?_ binding') hreads.unique.symm
  · exact hcurrent
  · rfl

/-- Every other reaction brings the latest decision further. -/
theorem Reaction.decidedAt {act : Act} {c' : RecoveryCoordinator}
    (h : Reaction c act c') (hd : DecidedAt initial latest c c.stage)
    {elapsed : Nat}
    (hsucceeds : WatchAct.RebuildsSucceed (.coordinator elapsed act)) :
    DecidedAt initial (WatchAct.decision latest (.coordinator elapsed act))
      c' c'.stage := by
  cases h with
  | start hs =>
      rw [hs] at hd
      obtain ⟨hnone, hcurrent⟩ := hd
      subst hnone
      unfold RecoveryCoordinator.start
      rw [hcurrent]
      exact caughtUp_iff hcurrent rfl
  | @received r hs =>
      rw [hs] at hd
      cases r with
      | changed source => exact hd
      | lagged => exact hd
      | closed => trivial
  | @decide source disconnected target probe hs =>
      exact decidedAt_decide source ⟨disconnected, target, probe⟩
  | @rebuilt _ binding _ _ result hs =>
      rw [hs] at hd
      cases result with
      | ok u => exact ⟨rfl, hd⟩
      | error error => cases hsucceeds
  | slept hs hdue =>
      rw [hs] at hd
      cases hd
  | interrupted hs =>
      rw [hs] at hd
      cases hd
  | @verified binding verified hs =>
      rw [hs] at hd
      obtain ⟨hcurrent, d, rfl, hreads⟩ := hd
      unfold RecoveryCoordinator.onVerified
      simp only
      split
      · exact ⟨hcurrent, d, rfl, hreads⟩
      · exact decidedAt_recovered initial hcurrent hreads
          verified false
  | @rescanned binding outcome hs =>
      rw [hs] at hd
      obtain ⟨hcurrent, d, rfl, hreads⟩ := hd
      unfold RecoveryCoordinator.onRescanned
      simp only
      split
      · exact decidedAt_recovered initial hcurrent hreads
          false outcome.switched
      · exact decidedAt_recovered initial hcurrent hreads
          false outcome.switched

end RecoveryCoordinator

namespace NetworkWatch

open RecoveryCoordinator (sampleWifi sampleMobile)

variable {w w' : NetworkWatch}

/-- A turn of the coordinator leaves a change on its way, handles it, or
has handled one. -/
theorem onItsWay_coordinator {elapsed : Nat}
    {act : RecoveryCoordinator.Act} {channel : List NetworkChangeSource}
    {c' : RecoveryCoordinator} (htake : take w.channel act = some channel)
    (hreact : RecoveryCoordinator.Reaction
      { w.coordinator with clock := w.coordinator.clock + elapsed } act c')
    (h : OnItsWay latest w) :
    WatchAct.decision latest (.coordinator elapsed act) ≠ none
      ∨ channel ≠ [] ∨ ∃ source, c'.stage = .deciding source := by
  -- at any other wait nothing is handled and nothing is taken
  have hkeep : (∀ source, w.coordinator.stage ≠ .deciding source) →
      some w.channel = some channel →
      latest ≠ none ∨ channel ≠ [] ∨ ∃ source, c'.stage = .deciding source := by
    intro hnot hsame
    cases hsame
    rcases h with hdecided | hpending | ⟨source, hs⟩
    · exact .inl hdecided
    · exact .inr (.inl hpending)
    · exact absurd hs (hnot source)
  cases hreact with
  | @decide source disconnected target probe hs => exact .inl nofun
  | @received r hs =>
      cases r with
      | changed source => exact .inr (.inr ⟨source, rfl⟩)
      | lagged => cases htake
      | closed => cases htake
  | @interrupted source binding attempt delay since r hs =>
      cases r with
      | changed source' => exact .inr (.inr ⟨source, rfl⟩)
      | lagged => cases htake
      | closed => cases htake
  | start hs => exact hkeep (fun _ hs' => by cases hs.symm.trans hs') htake
  | rebuilt hs => exact hkeep (fun _ hs' => by cases hs.symm.trans hs') htake
  | slept hs hdue =>
      exact hkeep (fun _ hs' => by cases hs.symm.trans hs') htake
  | verified hs => exact hkeep (fun _ hs' => by cases hs.symm.trans hs') htake
  | rescanned hs =>
      exact hkeep (fun _ hs' => by cases hs.symm.trans hs') htake

/-- No step loses an event that is on its way. -/
theorem onItsWay_step {act : WatchAct} (h : OnItsWay latest w)
    (hstep : w.step act = some w') :
    OnItsWay (WatchAct.decision latest act) w' := by
  cases act with
  | monitor event now probe =>
      obtain ⟨⟨monitor, emitted⟩, -, hw'⟩ := Option.bind_eq_some_iff.mp hstep
      cases hw'
      refine h.imp_right (Or.imp_left fun hpending => ?_)
      simp [hpending]
  | coordinator elapsed act =>
      obtain ⟨channel, htake, hstep⟩ := Option.bind_eq_some_iff.mp hstep
      obtain ⟨c', hreact, hw'⟩ := Option.bind_eq_some_iff.mp hstep
      cases hw'
      exact onItsWay_coordinator htake
        (RecoveryCoordinator.react_cases hreact) h

theorem watchInv_step {act : WatchAct} (h : WatchInv initial latest w)
    (hstep : w.Steps act w') :
    WatchInv initial (WatchAct.decision latest act) w' := by
  obtain ⟨hstep, hsucceeds⟩ := hstep
  refine ⟨?_, fun hchanged => ?_⟩
  · cases act with
    | monitor event now probe =>
        obtain ⟨⟨monitor, emitted⟩, -, hw'⟩ :=
          Option.bind_eq_some_iff.mp hstep
        cases hw'
        exact h.decided
    | coordinator elapsed act =>
        obtain ⟨channel, -, hstep⟩ := Option.bind_eq_some_iff.mp hstep
        obtain ⟨c', hreact, hw'⟩ := Option.bind_eq_some_iff.mp hstep
        cases hw'
        have hlater : DecidedAt initial latest { w.coordinator with
            clock := w.coordinator.clock + elapsed } w.coordinator.stage :=
          RecoveryCoordinator.DecidedAt.keep h.decided rfl rfl
        exact (RecoveryCoordinator.react_cases hreact).decidedAt hlater
          hsucceeds
  · rcases step_view hstep with hsame | ⟨source, hchannel⟩
    · exact onItsWay_step (h.onItsWay (hsame ▸ hchanged)) hstep
    · exact .inr (.inl (by simp [hchannel]))

/-- A change of the monitor's view in a run, with the states before it and
behind it and what comes after it. -/
structure ViewChange (start w : NetworkWatch) (labels after : List WatchAct)
    (before behind : NetworkWatch) : Prop where
  cut : ∃ earlier act, labels = earlier ++ act :: after
    ∧ Run Steps start earlier before ∧ before.Steps act behind
  rest : Run Steps behind after w
  changed : behind.monitor.filter.last ≠ before.monitor.filter.last

/-- A change of the monitor's view is emitted, and once all events are
handled the coordinator has taken a decision after it. -/
theorem ViewChange.decided {start : NetworkWatch}
    {labels after : List WatchAct} {before behind : NetworkWatch}
    (h : ViewChange start w labels after before behind)
    (hidle : w.coordinator.stage = .listening) (hhandled : w.channel = []) :
    (∃ source, behind.channel = before.channel ++ [source])
      ∧ ∃ d, lastDecision after = some d := by
  obtain ⟨earlier, act, -, -, hstep, -⟩ := h.cut
  rcases step_view hstep with hsame | ⟨source, hchannel⟩
  · exact absurd hsame h.changed
  · refine ⟨⟨source, hchannel⟩, ?_⟩
    have hway : OnItsWay (lastDecision after) w := by
      refine h.rest.invariant_fold ?_
        (show OnItsWay none behind from .inr (.inl (by simp [hchannel])))
      intro latest x act x' hx hx'
      exact onItsWay_step hx hx'.1
    rcases hway with hdecided | hpending | ⟨source, hs⟩
    · exact Option.ne_none_iff_exists'.mp hdecided
    · exact absurd hhandled hpending
    · cases hidle.symm.trans hs

/-- In every interleaving of monitor and coordinator whose rebuilds
succeed and whose channel neither lags nor closes: when the monitor's
view is `binding` and all its events are handled, the coordinator has
caught up with `binding` exactly if the latest decision it took, if any,
was over a connected plane and an active target, and its probe returned
`binding`. Every change of the monitor's view was emitted, and there is a
decision behind the latest of them. -/
theorem change_reaches_coordinator_iff (autoSelect : Bool)
    (settle clock : Nat) (initial : InterfaceBinding)
    (labels : List WatchAct) (w : NetworkWatch)
    (hrun : Run Steps (.start autoSelect settle clock initial) labels w)
    (hidle : w.coordinator.stage = .listening) (hhandled : w.channel = [])
    (binding : InterfaceBinding)
    (hseen : w.monitor.filter.last = some binding) :
    (w.coordinator.CaughtUp binding
      ↔ ∀ d, lastDecision labels = some d → d.Reads binding)
    ∧ ∀ after before behind,
      ViewChange (.start autoSelect settle clock initial) w labels after
        before behind →
      (∃ source, behind.channel = before.channel ++ [source])
        ∧ ∃ d, lastDecision after = some d := by
  refine ⟨?_, fun after before behind hchange =>
    hchange.decided hidle hhandled⟩
  have hinv : WatchInv initial (lastDecision labels) w := by
    refine hrun.invariant_fold ?_
      (watchInv_start autoSelect settle clock initial)
    intro latest x act x' hx hstep
    exact watchInv_step hx hstep
  have hdecided := hinv.decided
  rw [hidle] at hdecided
  refine (hdecided binding).trans ?_
  cases hlatest : lastDecision labels with
  | some d =>
      constructor
      · intro hreads d' hd'
        cases hd'
        exact hreads
      · intro hreads
        exact hreads d rfl
  | none =>
      constructor
      · intro _ d hd
        cases hd
      · intro _
        -- nothing was decided, so nothing was ever emitted
        by_cases hsame : w.monitor.filter.last = some initial
        · exact Option.some.inj (hseen.symm.trans hsame)
        · rcases hinv.onItsWay hsame with hdecided | hpending | ⟨source, hs⟩
          · exact absurd hlatest hdecided
          · exact absurd hhandled hpending
          · cases hidle.symm.trans hs

/-- A change both sides see. -/
def sampleChange : List WatchAct :=
  [.coordinator 0 .start, .monitor (.change .address) 10 none,
   .monitor .timeout 1010 (some sampleMobile),
   .coordinator 1020 (.received (.changed .address)),
   .coordinator 0 (.decide false 0x01010101 (.ok sampleMobile)),
   .coordinator 20 (.rebuilt (.ok ())), .coordinator 300 (.verified true)]

/-- The event of the change is received, and the decision behind it reads
what the monitor saw. -/
theorem sample_change_reaches :
    ∃ w before behind, Run Steps (.start true 1000 0 sampleWifi) sampleChange w
      ∧ ViewChange (.start true 1000 0 sampleWifi) w sampleChange
        (sampleChange.drop 3) before behind
      ∧ w.coordinator.CaughtUp sampleMobile
      ∧ ∃ d, lastDecision (sampleChange.drop 3) = some d := by
  have hruns : ∃ w before behind,
      Run Steps (.start true 1000 0 sampleWifi) sampleChange w
      ∧ ViewChange (.start true 1000 0 sampleWifi) w sampleChange
        (sampleChange.drop 3) before behind
      ∧ w.coordinator.stage = .listening ∧ w.channel = []
      ∧ w.monitor.filter.last = some sampleMobile := by
    refine ⟨_, _, _, .cons ⟨rfl, trivial⟩ <| .cons ⟨rfl, trivial⟩ <|
      .cons ⟨rfl, trivial⟩ <| .cons ⟨rfl, trivial⟩ <|
      .cons ⟨rfl, trivial⟩ <| .cons ⟨rfl, trivial⟩ <|
      .cons ⟨rfl, trivial⟩ <| .nil _, ⟨⟨sampleChange.take 2, _, rfl,
        .cons ⟨rfl, trivial⟩ <| .cons ⟨rfl, trivial⟩ <| .nil _,
        rfl, trivial⟩, ?_, by decide⟩, rfl, rfl, rfl⟩
    exact .cons ⟨rfl, trivial⟩ <| .cons ⟨rfl, trivial⟩ <|
      .cons ⟨rfl, trivial⟩ <| .cons ⟨rfl, trivial⟩ <| .nil _
  obtain ⟨w, before, behind, hrun, hchange, hidle, hhandled, hseen⟩ := hruns
  obtain ⟨hcaught, hchanges⟩ := change_reaches_coordinator_iff true 1000 0
    sampleWifi _ w hrun hidle hhandled sampleMobile hseen
  refine ⟨w, before, behind, hrun, hchange, hcaught.mpr ?_,
    (hchanges _ before behind hchange).2⟩
  intro d hd
  cases hd
  exact ⟨rfl, by decide, rfl⟩

/-- A change the coordinator's probe misses, and what comes after it. -/
def sampleMissed : List WatchAct :=
  [.coordinator 0 .start, .monitor (.change .address) 10 none,
   .monitor .timeout 1010 (some sampleMobile),
   .coordinator 1020 (.received (.changed .address)),
   .coordinator 0 (.decide false 0x01010101 (.error "no route to host"))]

/-- A monitor that hears nothing and polls. -/
def sampleQuiet : List WatchAct :=
  [.monitor .timeout 11010 (some sampleMobile),
   .monitor .timeout 21010 (some sampleMobile)]

/-- The network is stable at mobile, the monitor has observed it and every
event is handled; the coordinator is nowhere, and there is no event left
to tell it. -/
theorem missed_probe_is_final :
    ∃ w, Run Steps (.start true 1000 0 sampleWifi)
        (sampleMissed ++ sampleQuiet) w
      ∧ Stable sampleMobile sampleQuiet
      ∧ w.coordinator.stage = .listening ∧ w.channel = []
      ∧ w.monitor.filter.last = some sampleMobile
      ∧ w.coordinator.current = none
      ∧ lastStatus w.coordinator.trace
        = some (.unavailable "no route to host")
      ∧ ¬ w.coordinator.CaughtUp sampleMobile := by
  refine ⟨_, .cons ⟨rfl, trivial⟩ <| .cons ⟨rfl, trivial⟩ <|
    .cons ⟨rfl, trivial⟩ <| .cons ⟨rfl, trivial⟩ <| .cons ⟨rfl, trivial⟩ <|
    .cons ⟨rfl, trivial⟩ <| .cons ⟨rfl, trivial⟩ <| .nil _, ?_,
    rfl, rfl, rfl, rfl, rfl, ?_⟩
  · constructor
    · intro event now probe hmem
      rcases List.mem_cons.mp hmem with heq | hmem
      · cases heq
        rfl
      · cases List.mem_singleton.mp hmem
        rfl
    · intro elapsed disconnected target probe hmem
      rcases List.mem_cons.mp hmem with heq | hmem
      · cases heq
      · cases List.mem_singleton.mp hmem
  · intro hcaught
    cases hcaught.1

end NetworkWatch

end ZeroDpi.Runtime
