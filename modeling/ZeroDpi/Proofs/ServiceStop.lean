/-
What a stop of the service reaches.

A stop cancels the jobs that the fields hold and raises
`userStopRequested`. The paths that would start a new run look at the flag;
the coroutines that are on their way to `runner.start` do not. So a stop is
final just when each of these is cancelled by it, at a point where that
ends it.

# Main results

`Service.stop_is_final_iff`: from a state in which the service was stopped,
no run calls `runner.start` before the next `startZeroDpi` or
`requestTargetPick`, if and only if every coroutine that has the call ahead
was cancelled or is held in a field, and none is where a cancellation is
swallowed.
-/
import ZeroDpi.Android.Service
import ZeroDpi.Lib.Run

namespace ZeroDpi.Android

open Lib ProcessRunner

/-- The coroutine has a call of `runner.start` ahead. -/
def Point.launches : Point → Bool
  | newLogSession _ | readAll _ | readPin _ | prepareRunConfig _
  | loadIndex _ _ | readGatePin _ _ | requestRoot _ | pickReadAll _
  | pickPrepare _ _ | pickDelete _ _ _ => true
  | _ => false

/-- A `CancellationException` is caught here, and the coroutine goes on. -/
def Point.swallows : Point → Bool
  | loadIndex _ _ | readGatePin _ _ => true
  | _ => false

/-- The calls that ask for a start. -/
def ServiceLabel.asksStart : ServiceLabel → Bool
  | .startZeroDpi _ _ | .requestTargetPick _ => true
  | _ => false

namespace Service

/-- The transition, as a relation. -/
def Steps (s : Service) (l : ServiceLabel) (t : Service) : Prop :=
  s.step l = some t

/-- The jobs that a stop cancels. -/
def Stored (s : Service) (job : Nat) : Prop :=
  s.launchJob = some job ∨ s.errorRestartJob = some job
    ∨ s.startupWatchdogJob = some job

/-- A stop ends every coroutine that has a start ahead. -/
def StopReaches (s : Service) : Prop :=
  ∀ c ∈ s.coroutines, c.point.launches = true →
    (c.cancelled = true ∨ Stored s c.job) ∧ c.point.swallows = false

-- ==================================================== a stopped service

/-- The coroutine makes no start, as long as the service is stopped. -/
def Quiet (c : Coroutine) : Prop :=
  c.point.launches = true → c.cancelled = true ∧ c.point.swallows = false

/-- Nothing is ahead that could start a run. -/
structure Final (s : Service) : Prop where
  requested : s.userStopRequested = true
  session : s.pickSession = none
  stage : s.pickStage = none
  quiet : ∀ c ∈ s.coroutines, Quiet c

/-- A stopped service stays stopped, and starts nothing. -/
def Still (s t : Service) : Prop :=
  Final s → Final t ∧ t.starts = s.starts

/-- A service is as still as itself. -/
theorem Still.refl (s : Service) : Still s s := fun h => ⟨h, rfl⟩

/-- Along a chain of steps. -/
theorem Still.trans {s t u : Service} (h₁ : Still s t) (h₂ : Still t u) :
    Still s u := by
  intro hs
  obtain ⟨ht, hst⟩ := h₁ hs
  obtain ⟨hu, htu⟩ := h₂ ht
  exact ⟨hu, htu.trans hst⟩

/-- The fields that count. -/
theorem Still.of_eq {s t : Service}
    (hrequested : t.userStopRequested = s.userStopRequested)
    (hsession : t.pickSession = s.pickSession)
    (hstage : t.pickStage = s.pickStage)
    (hcoroutines : t.coroutines = s.coroutines)
    (hstarts : t.starts = s.starts) : Still s t := by
  intro h
  refine ⟨⟨?_, ?_, ?_, ?_⟩, hstarts⟩
  · rw [hrequested]
    exact h.requested
  · rw [hsession]
    exact h.session
  · rw [hstage]
    exact h.stage
  · rw [hcoroutines]
    exact h.quiet

/-- A coroutine that waits where it is quiet; below, function by function,
what a final service stays final under. -/
theorem still_wait {me : Me} {point : Point} (h : Quiet ⟨me, point⟩)
    (s : Service) : Still s (wait me point s) := by
  intro hs
  refine ⟨⟨hs.requested, hs.session, hs.stage, ?_⟩, rfl⟩
  intro c hc
  rcases List.mem_append.mp hc with hc | hc
  · exact hs.quiet c hc
  · rw [List.mem_singleton.mp hc]
    exact h

/-- A coroutine that is new and launches nothing. -/
theorem still_launchAt {point : Point} (h : point.launches = false)
    (s : Service) : Still s (launchAt point s) := by
  have hquiet : Quiet ⟨⟨s.nextJob, false⟩, point⟩ := by
    intro hlaunches
    rw [h] at hlaunches
    cases hlaunches
  exact (still_wait hquiet s).trans (.of_eq rfl rfl rfl rfl rfl)

/-- Cancelling makes coroutines quieter. -/
theorem still_cancel (job : Option Nat) (s : Service) :
    Still s (cancel job s) := by
  intro hs
  refine ⟨⟨hs.requested, hs.session, hs.stage, ?_⟩, rfl⟩
  intro c hc
  obtain ⟨d, hd, rfl⟩ := List.mem_map.mp hc
  intro hlaunches
  obtain ⟨hcancelled, hswallows⟩ := hs.quiet d hd hlaunches
  exact ⟨by simp [Coroutine.cancelledBy, hcancelled], hswallows⟩

/-- So does their end. -/
theorem still_complete (signal : Option Nat) (s : Service) :
    Still s (complete signal s) := by
  cases signal with
  | none => exact .refl s
  | some signal => exact .of_eq rfl rfl rfl rfl rfl

/-- A pick that is dropped. -/
theorem still_clearPickSession (s : Service) : Still s (clearPickSession s) :=
  fun h => ⟨⟨h.requested, rfl, rfl, h.quiet⟩, rfl⟩

theorem still_cancelStartupWatchdog (s : Service) :
    Still s (cancelStartupWatchdog s) :=
  (still_cancel _ s).trans (.of_eq rfl rfl rfl rfl rfl)

theorem still_cancelErrorRestart (s : Service) :
    Still s (cancelErrorRestart s) :=
  (still_cancel _ s).trans (.of_eq rfl rfl rfl rfl rfl)

/-- The end of a run, in its steps. -/
theorem still_finishForegroundRun (s : Service) :
    Still s (finishForegroundRun s) := by
  apply (still_clearPickSession s).trans
  apply (still_cancelStartupWatchdog _).trans
  refine Still.trans ?_ (Still.trans (still_cancelErrorRestart
    { cancelStartupWatchdog (clearPickSession s) with
      superviseSession := false }) ?_)
  · exact .of_eq rfl rfl rfl rfl rfl
  · exact .of_eq rfl rfl rfl rfl rfl

theorem still_finishAfterExit (exitCode : Int) (s : Service) :
    Still s (finishAfterExit exitCode s) := by
  apply (still_clearPickSession s).trans
  apply (still_cancelStartupWatchdog _).trans
  refine Still.trans ?_ (still_finishForegroundRun _)
  exact .of_eq rfl rfl rfl rfl rfl

/-- Its failure. -/
theorem still_failRun (message : String) (s : Service) :
    Still s (failRun message s) := by
  refine Still.trans ?_ (still_finishForegroundRun _)
  exact .of_eq rfl rfl rfl rfl rfl

-- --------------------------------------------------------- its guards

/-- A final service is not supervised. -/
theorem Final.unsupervised {s : Service} (h : Final s) :
    s.isSessionSupervised = false := by
  simp [isSessionSupervised, h.requested]

/-- Nor watched. -/
theorem Final.unwatched {s : Service} (h : Final s) :
    s.isStartupWatchdogRelevant = false := by
  simp [isStartupWatchdogRelevant, h.requested]

/-- No pick goes on. -/
theorem Final.not_resumes {s : Service} (h : Final s)
    (session : PickSession) : resumes session s = false := by
  simp [resumes, h.requested]

theorem still_noteRunActivity (s : Service) :
    Still s (noteRunActivity s) := by
  intro h
  have hnoted : Still s { s with lastRunEventMs := s.elapsedRealtimeMs } :=
    .of_eq rfl rfl rfl rfl rfl
  have hunwatched := (hnoted h).1.unwatched
  simp only [noteRunActivity, hunwatched]
  exact hnoted.trans (still_cancelStartupWatchdog _) h

/-- A launch that failed. -/
theorem still_launchFailed (message : String) (s : Service) :
    Still s (launchFailed message s) := by
  intro h
  rw [launchFailed, h.unsupervised]
  exact still_failRun message s h

/-- A start that has returned. -/
theorem still_afterStart (reply : Reply) (s : Service) :
    Still s (afterStart reply s) := by
  cases reply
  case cancelled => exact .refl s
  case thrown message => exact still_launchFailed _ s
  all_goals exact still_noteRunActivity s

/-- A pick that failed. -/
theorem still_failPickSession (message : String) (session : PickSession)
    (s : Service) : Still s (failPickSession message session s) := by
  intro h
  have hcleared := (still_clearPickSession s h).1
  simp only [failPickSession, hcleared.not_resumes session]
  exact (still_clearPickSession s).trans (still_failRun message _) h

/-- A run that was abandoned. -/
theorem still_afterAbandon (reason : String) (session : Option PickSession)
    (s : Service) : Still s (afterAbandon reason session s) := by
  cases session with
  | some session => exact still_failPickSession reason session s
  | none =>
      intro h
      simp only [afterAbandon, h.unsupervised]
      refine Still.trans ?_ (still_failRun reason _) h
      exact .of_eq rfl rfl rfl rfl rfl

/-- A restart is refused after a stop. -/
theorem still_requestAutomaticRestart (s : Service) :
    Still s (requestAutomaticRestart s) := by
  intro h
  rw [requestAutomaticRestart, if_pos (by simp [h.requested])]
  exact ⟨h, rfl⟩

/-- One that was waiting, too. -/
theorem still_restartDelayOver (s : Service) :
    Still s (restartDelayOver s) := by
  intro h
  rw [restartDelayOver, if_pos (by simp [h.unsupervised])]
  exact ⟨h, rfl⟩

theorem still_watchdogWoke (me : Me) (s : Service) :
    Still s (watchdogWoke me s) := by
  intro h
  rw [watchdogWoke, if_pos (by simp [h.unwatched])]
  exact Still.of_eq rfl rfl rfl rfl rfl h

/-- And one on its way. -/
theorem still_relaunch (s : Service) : Still s (relaunch s) := by
  intro h
  rw [relaunch, if_pos (by simp [h.requested])]
  exact ⟨h, rfl⟩

theorem still_afterSelect (me : Me) (exitSignal : Nat) (timedOut : Bool)
    (s : Service) : Still s (afterSelect me exitSignal timedOut s) := by
  intro h
  rw [afterSelect, if_neg (by simp [h.requested])]
  exact still_relaunch s h

/-- What launches nothing is quiet, cancelled or not. -/
theorem quiet_of_not_launches {me : Me} {point : Point}
    (h : point.launches = false) : Quiet ⟨me, point⟩ := by
  intro hlaunches
  rw [h] at hlaunches
  cases hlaunches

/-- The signal of an exit. -/
theorem still_signalExited (result : RunnerStopResult) (s : Service) :
    Still s (signalExited result s) := by
  cases result
  case alreadyExited => exact still_complete _ s
  all_goals exact .refl s

/-- The restart behind a `stop`. -/
theorem still_afterRestartStop (me : Me) (result : RunnerStopResult)
    (s : Service) : Still s (afterRestartStop me result s) := by
  apply (still_signalExited result s).trans
  unfold afterRestartStop
  generalize signalExited result s = t
  dsimp only
  split
  · split
    · exact still_afterSelect me _ _ t
    · split
      · exact still_afterSelect me _ _ t
      · exact still_wait (quiet_of_not_launches rfl) t
  · exact .refl t

/-- Behind a `forceStop`. -/
theorem still_afterRestartForceStop (me : Me) (exitSignal : Nat)
    (result : RunnerStopResult) (s : Service) :
    Still s (afterRestartForceStop me exitSignal result s) := by
  apply (still_signalExited result s).trans
  unfold afterRestartForceStop
  generalize signalExited result s = t
  dsimp only
  split
  · exact still_relaunch t
  · exact still_wait (quiet_of_not_launches rfl) t

-- --------------------------------------------------------- its events

/-- A failure goes on with what is still. -/
theorem still_handleFailure (message : String) {rest : Service → Service}
    (hrest : ∀ s, Still s (rest s)) (s : Service) :
    Still s (handleFailure message rest s) := by
  intro h
  simp only [handleFailure, h.session, h.unsupervised]
  by_cases hrestart : s.restartStopInProgress = true
  · rw [if_pos hrestart]
    exact ⟨h, rfl⟩
  · rw [if_neg hrestart]
    exact (still_cancelStartupWatchdog s).trans (hrest _) h

/-- An exit. -/
theorem still_handleRunExit (exitCode : Int) (s : Service) :
    Still s (handleRunExit exitCode s) := by
  intro h
  simp only [handleRunExit, h.unsupervised]
  by_cases hrestart : s.restartStopInProgress = true
  · rw [if_pos hrestart]
    have hcompleted := still_complete s.restartExitSignal s
    rw [if_pos (hcompleted h).1.requested]
    exact hcompleted.trans (still_finishAfterExit exitCode _) h
  · rw [if_neg hrestart]
    exact still_finishAfterExit exitCode s h

/-- Its event. -/
theorem still_handleExited (exitCode : Int) (s : Service) :
    Still s (handleExited exitCode s) := by
  intro h
  have hcancelled := still_cancelStartupWatchdog s
  have hstage := (hcancelled h).1.stage
  simp only [handleExited, hstage]
  exact hcancelled.trans (still_handleRunExit exitCode _) h

theorem still_handleStopTimedOut (s : Service) :
    Still s (handleStopTimedOut s) := by
  have hsignalled : Still s (signalTimedOut s) := by
    unfold signalTimedOut
    split
    · exact still_complete _ s
    · exact .refl s
  apply hsignalled.trans
  unfold handleStopTimedOut
  generalize signalTimedOut s = t
  dsimp only
  split
  · exact .of_eq rfl rfl rfl rfl rfl
  · exact .of_eq rfl rfl rfl rfl rfl

/-- Every event of the runner. -/
theorem still_handleRunnerEvent (event : ZeroDpiRunnerEvent) (s : Service) :
    Still s (handleRunnerEvent event s) := by
  apply (still_noteRunActivity s).trans
  unfold handleRunnerEvent
  generalize noteRunActivity s = t
  cases event
  case fatalError message =>
    refine still_handleFailure message ?_ t
    intro u
    exact .of_eq rfl rfl rfl rfl rfl
  case failed message =>
    exact still_handleFailure message (still_failRun message) t
  case exited exitCode => exact still_handleExited exitCode t
  case stopTimedOut => exact still_handleStopTimedOut t
  case listenerStarted mode listenAddress =>
    refine Still.trans ?_ ((still_cancelStartupWatchdog
      { t with errorRestartAttempt := 0 }).trans ?_)
    · exact .of_eq rfl rfl rfl rfl rfl
    · exact .of_eq rfl rfl rfl rfl rfl
  all_goals
    dsimp only
    first
      | exact .refl t
      | exact .of_eq rfl rfl rfl rfl rfl
      | (split <;> first | exact .refl t | exact .of_eq rfl rfl rfl rfl rfl)

-- ---------------------------------------------------------- its coroutines

/-- A step with a guard. -/
theorem onlyIf_eq_some {ok : Bool} {s t : Service}
    (h : onlyIf ok s = some t) : ok = true ∧ s = t := by
  cases ok with
  | false => cases h
  | true => exact ⟨rfl, Option.some.inj h⟩

/-- A coroutine that was cancelled with a start ahead ends. -/
theorem resume_of_cancelled {me : Me} {point : Point} {reply : Reply}
    {s t : Service} (hlaunches : point.launches = true)
    (hswallows : point.swallows = false) (hcancelled : me.cancelled = true)
    (hanswers : answers ⟨me, point⟩ reply = true)
    (h : resume me point reply s = some t) : t = s := by
  have hreply : reply = .cancelled := by
    cases point <;> first
      | (simp only [Point.launches, Bool.false_eq_true] at hlaunches; done)
      | simpa [answers, hcancelled] using hanswers
  subst hreply
  cases point <;> first
    | (simp only [Point.launches, Bool.false_eq_true] at hlaunches; done)
    | (simp only [Point.swallows, Bool.true_eq_false] at hswallows; done)
    | simpa [resume, prepare, hcancelled] using h.symm

/-- What the rest of a coroutine does. -/
inductive Resumed (me : Me) (s : Service) : Point → Reply → Service → Prop where
  /-- Cancelled, or with a result that asks for nothing. -/
  | same (point : Point) (reply : Reply) : Resumed me s point reply s
  | newLogSession (runSpec : ActiveRunSpec) (reply : Reply) :
      Resumed me s (.newLogSession runSpec) reply (startSession runSpec s)
  | readAll (run : LaunchRun) (config : EditorState) :
      Resumed me s (.readAll run) (.contents config)
        (wait me (.readPin run) s)
  | prepare {point : Point} (run : LaunchRun) (reply : Reply) :
      point.launches = true →
      Resumed me s point reply (prepare me run s)
  | loadIndex (run : LaunchRun) (runConfig : RunConfig) :
      Resumed me s (.prepareRunConfig run) (.prepared runConfig)
        (loadIndex me run runConfig s)
  | unprepared (run : LaunchRun) (error : Option String) (message : String) :
      Resumed me s (.prepareRunConfig run) (.thrown error)
        (launchFailed message s)
  | afterIndex (run : LaunchRun) (runConfig : RunConfig) (reply : Reply) :
      Resumed me s (.loadIndex run runConfig) reply
        (afterIndex me run runConfig s)
  | afterGate (run : LaunchRun) (runConfig : RunConfig)
      (pin : Option PinKind) :
      Resumed me s (.readGatePin run runConfig) (.pin pin)
        (afterGate me run runConfig
          (TargetPickPolicy.isGateEligible runConfig.config pin) s)
  | ungated (run : LaunchRun) (runConfig : RunConfig) (reply : Reply) :
      Resumed me s (.readGatePin run runConfig) reply
        (afterGate me run runConfig false s)
  | granted (request : RunRequest) (message : String) :
      Resumed me s (.requestRoot request) (.root .granted message)
        (afterRoot me request .granted message { s with rootGranted := true })
  | refused (request : RunRequest) {state : RootAccessState}
      (message : String) : state ≠ .granted →
      Resumed me s (.requestRoot request) (.root state message)
        (afterRoot me request state message s)
  | afterStart (request : RunRequest) (reply : Reply) :
      Resumed me s (.runnerStart request) reply (afterStart reply s)
  | pickReadAll (session : PickSession) (config : EditorState) :
      Resumed me s (.pickReadAll session) (.contents config)
        (preparePickScan me session config.mode s)
  | pickUnread (session : PickSession) (reply : Reply) :
      Resumed me s (.pickReadAll session) reply
        (preparePickScan me session TargetPickPolicy.sniSpoof s)
  | pickPrepared (session : PickSession) (scanMode : List Char)
      (runConfig : RunConfig) :
      Resumed me s (.pickPrepare session scanMode) (.prepared runConfig)
        (wait me (.pickDelete session scanMode runConfig) s)
  | pickUnprepared (session : PickSession) (scanMode : List Char)
      (error : Option String) (message : String) :
      Resumed me s (.pickPrepare session scanMode) (.thrown error)
        (failPickSession message session s)
  | pickDeleted (session : PickSession) (scanMode : List Char)
      (runConfig : RunConfig) (reply : Reply) :
      Resumed me s (.pickDelete session scanMode runConfig) reply
        (startPickScan me session scanMode runConfig s)
  | restartDelay (attempt wakeAt : Nat) :
      Resumed me s (.restartDelay attempt wakeAt) .done (restartDelayOver s)
  | watchdogDelay (wakeAt : Nat) :
      Resumed me s (.watchdogDelay wakeAt) .done (watchdogWoke me s)
  /-- There was no process to stop. -/
  | finished {point : Point} (exitCode : Int) :
      point = .stop ∨ point = .forceStop →
      Resumed me s point (.stopped .alreadyExited)
        (finishAfterExit exitCode s)
  | abandon (reason : String) (session : Option PickSession) :
      Resumed me s (.abandon reason session) .done
        (afterAbandon reason session s)
  | restartStop (result : RunnerStopResult) :
      Resumed me s .restartStop (.stopped result)
        (afterRestartStop me result s)
  | restartSelect (exitSignal timeoutSignal : Nat) (timedOut : Bool) :
      Resumed me s (.restartSelect exitSignal timeoutSignal)
        (.signalled timedOut) (afterSelect me exitSignal timedOut s)
  | restartForceStop (exitSignal : Nat) (result : RunnerStopResult) :
      Resumed me s (.restartForceStop exitSignal) (.stopped result)
        (afterRestartForceStop me exitSignal result s)
  | restartExit (exitSignal : Nat) :
      Resumed me s (.restartExit exitSignal) .done (relaunch s)
  | diagnosticsLog (reply : Reply) :
      Resumed me s .diagnosticsLog reply (wait me .diagnostics s)
  | diagnostics (reply : Reply) (rootStatus : RootStatus)
      (rootGranted : Bool) (lastError : Option String) :
      Resumed me s .diagnostics reply
        { s with rootStatus, rootGranted, lastError }

/-- What a coroutine does that goes on, by its point. -/
theorem resumed {me : Me} {point : Point} {reply : Reply} {s t : Service}
    (h : resume me point reply s = some t) : Resumed me s point reply t := by
  cases point
  case newLogSession runSpec =>
    cases reply <;> cases h <;> exact .newLogSession runSpec _
  case readAll run =>
    cases reply
    case contents config =>
      simp only [resume] at h
      split at h <;> cases h
      · exact .readAll run config
      · exact .prepare run _ rfl
    all_goals cases h <;> exact .prepare run _ rfl
  case readPin run => cases reply <;> cases h <;> exact .prepare run _ rfl
  case prepareRunConfig run =>
    cases reply <;> cases h
    case cancelled => exact .same _ _
    case thrown message => exact .unprepared run message _
    case prepared runConfig => exact .loadIndex run runConfig
  case loadIndex run runConfig =>
    cases reply <;> cases h <;> exact .afterIndex run runConfig _
  case readGatePin run runConfig =>
    cases reply <;> cases h
    case pin pin => exact .afterGate run runConfig pin
    all_goals exact .ungated run runConfig _
  case requestRoot request =>
    cases reply
    case root state message =>
      cases state <;> cases h
      case granted => exact .granted request message
      all_goals exact .refused request message (by decide)
    all_goals cases h <;> exact .same _ _
  case runnerStart request =>
    cases reply <;> cases h <;> exact .afterStart request _
  case pickReadAll session =>
    cases reply <;> cases h
    case contents config => exact .pickReadAll session config
    case thrown message => exact .pickUnread session _
  case pickPrepare session scanMode =>
    cases reply <;> cases h
    case prepared runConfig => exact .pickPrepared session scanMode runConfig
    case thrown message => exact .pickUnprepared session scanMode message _
  case pickDelete session scanMode runConfig =>
    cases reply <;> cases h <;>
      exact .pickDeleted session scanMode runConfig _
  case restartDelay attempt wakeAt =>
    cases reply
    case done =>
      obtain ⟨-, rfl⟩ := onlyIf_eq_some h
      exact .restartDelay attempt wakeAt
    all_goals cases h <;> exact .same _ _
  case watchdogDelay wakeAt =>
    cases reply
    case done =>
      obtain ⟨-, rfl⟩ := onlyIf_eq_some h
      exact .watchdogDelay wakeAt
    all_goals cases h <;> exact .same _ _
  case stop =>
    cases reply
    case stopped result =>
      cases result <;> cases h
      case alreadyExited => exact .finished 0 (.inl rfl)
      all_goals exact .same _ _
    all_goals cases h
  case forceStop =>
    cases reply
    case stopped result =>
      cases result <;> cases h
      case alreadyExited => exact .finished (-1) (.inr rfl)
      all_goals exact .same _ _
    all_goals cases h
  case stopForPick => cases reply <;> cases h <;> exact .same _ _
  case abandon reason session =>
    cases reply <;> cases h <;> exact .abandon reason session
  case restartStop => cases reply <;> cases h <;> exact .restartStop _
  case restartSelect exitSignal timeoutSignal =>
    cases reply
    case signalled timedOut =>
      obtain ⟨-, rfl⟩ := onlyIf_eq_some h
      exact .restartSelect exitSignal timeoutSignal timedOut
    all_goals cases h
  case restartForceStop exitSignal =>
    cases reply <;> cases h <;> exact .restartForceStop exitSignal _
  case restartExit exitSignal =>
    cases reply
    case done =>
      obtain ⟨-, rfl⟩ := onlyIf_eq_some h
      exact .restartExit exitSignal
    all_goals cases h
  case diagnosticsLog => cases reply <;> cases h <;> exact .diagnosticsLog _
  case diagnostics =>
    cases reply
    case root state message =>
      cases state <;> cases h <;> exact .diagnostics _ _ _ _
    all_goals cases h

/-- A quiet one keeps the service still. -/
theorem still_resume {me : Me} {point : Point} {reply : Reply}
    {s t : Service} (hquiet : Quiet ⟨me, point⟩)
    (hanswers : answers ⟨me, point⟩ reply = true)
    (h : resume me point reply s = some t) : Still s t := by
  by_cases hlaunches : point.launches = true
  · obtain ⟨hcancelled, hswallows⟩ := hquiet hlaunches
    rw [resume_of_cancelled hlaunches hswallows hcancelled hanswers h]
    exact .refl s
  · cases resumed h
    case same => exact .refl s
    case afterStart request => exact still_afterStart reply s
    case restartDelay attempt wakeAt => exact still_restartDelayOver s
    case watchdogDelay wakeAt => exact still_watchdogWoke me s
    case finished exitCode hpoint => exact still_finishAfterExit exitCode s
    case abandon reason session => exact still_afterAbandon reason session s
    case restartStop result => exact still_afterRestartStop me result s
    case restartSelect exitSignal timeoutSignal timedOut =>
      exact still_afterSelect me exitSignal timedOut s
    case restartForceStop exitSignal result =>
      exact still_afterRestartForceStop me exitSignal result s
    case restartExit exitSignal => exact still_relaunch s
    case diagnosticsLog =>
      exact still_wait (quiet_of_not_launches rfl) s
    case diagnostics => exact .of_eq rfl rfl rfl rfl rfl
    case prepare run hprepares => exact absurd hprepares hlaunches
    all_goals exact absurd rfl hlaunches

/-- Another stop. -/
theorem still_requestStop (s : Service) : Still s (requestStop s) := by
  have hraised : Still s { s with
      userStopRequested := true, superviseSession := false } :=
    fun h => ⟨⟨rfl, h.session, h.stage, h.quiet⟩, rfl⟩
  apply hraised.trans
  apply (still_cancelErrorRestart _).trans
  apply (still_cancelStartupWatchdog _).trans
  apply (still_clearPickSession _).trans
  apply (still_cancel _ _).trans
  exact .of_eq rfl rfl rfl rfl rfl

/-- Likewise, with its coroutine. -/
theorem still_stopZeroDpi (s : Service) : Still s (stopZeroDpi s) := by
  apply (still_requestStop s).trans
  unfold stopZeroDpi
  generalize requestStop s = t
  dsimp only
  split
  · exact .refl t
  · exact still_launchAt rfl t

/-- Every step that does not ask for a start. -/
theorem still_step {s t : Service} {l : ServiceLabel}
    (hl : l.asksStart = false) (h : s.step l = some t) : Still s t := by
  intro hs
  cases l with
  | startZeroDpi profileId modeOverride => cases hl
  | requestTargetPick profileId => cases hl
  | stopZeroDpi => cases h; exact still_stopZeroDpi s hs
  | forceStopZeroDpi =>
      cases h
      exact (still_requestStop s).trans (still_launchAt rfl _) hs
  | applyTargetPick =>
      cases h
      rw [applyTargetPick, hs.stage]
      exact ⟨hs, rfl⟩
  | cancelTargetPick =>
      cases h
      rw [cancelTargetPick, hs.stage]
      exact ⟨hs, rfl⟩
  | requestAutomaticRestart =>
      cases h
      exact still_requestAutomaticRestart s hs
  | runRootDiagnostics => cases h; exact still_launchAt rfl s hs
  | event event => cases h; exact still_handleRunnerEvent event s hs
  | resume i reply =>
      simp only [step] at h
      split at h
      case h_2 => cases h
      case h_1 c hc =>
        split at h
        case isFalse => cases h
        case isTrue hanswers =>
          have hrest : Final { s with
              coroutines := s.coroutines.eraseIdx i } :=
            ⟨hs.requested, hs.session, hs.stage, fun d hd =>
              hs.quiet d (List.mem_of_mem_eraseIdx hd)⟩
          have hstill := still_resume (hs.quiet c (List.mem_of_getElem? hc))
            hanswers h
          exact hstill hrest
  | launched i =>
      simp only [step] at h
      split at h
      · cases h
        exact Still.of_eq rfl rfl rfl rfl rfl hs
      · cases h
  | died i => cases h; exact Still.of_eq rfl rfl rfl rfl rfl hs
  | clock elapsedMs epochMs =>
      cases h
      exact Still.of_eq rfl rfl rfl rfl rfl hs

/-- And every run of such steps. -/
theorem still_run {s t : Service} {l : List ServiceLabel}
    (h : Run Steps s l t)
    (hl : ∀ x ∈ l, x.asksStart = false) : Still s t := by
  induction h with
  | nil s => exact .refl s
  | cons hst _ ih =>
      apply (still_step (hl _ List.mem_cons_self) hst).trans
      exact ih fun x hx => hl x (List.mem_cons_of_mem _ hx)

-- ======================================================= what a stop ends

/-- A coroutine behind a stop. -/
def stoppedAs (s : Service) (c : Coroutine) : Coroutine :=
  ((c.cancelledBy s.errorRestartJob).cancelledBy s.startupWatchdogJob)
    |>.cancelledBy s.launchJob

/-- A stop cancels the jobs that are stored. -/
theorem coroutines_requestStop (s : Service) :
    (requestStop s).coroutines = s.coroutines.map (stoppedAs s) := by
  simp [requestStop, markRuntimeActive, clearPickSession,
    cancelStartupWatchdog, cancelErrorRestart, cancel, stoppedAs,
    Function.comp_def]

/-- It is noted. -/
theorem requested_requestStop (s : Service) :
    (requestStop s).userStopRequested = true := by
  simp [requestStop, markRuntimeActive, clearPickSession,
    cancelStartupWatchdog, cancelErrorRestart, cancel]

/-- It starts nothing itself. -/
theorem starts_requestStop (s : Service) :
    (requestStop s).starts = s.starts := by
  simp [requestStop, markRuntimeActive, clearPickSession,
    cancelStartupWatchdog, cancelErrorRestart, cancel]

/-- What is cancelled behind it. -/
theorem cancelled_stoppedAs (s : Service) (c : Coroutine) :
    (stoppedAs s c).cancelled = true ↔ c.cancelled = true ∨ Stored s c.job := by
  simp [stoppedAs, Coroutine.cancelledBy, Stored]
  grind

/-- A stop leaves the service final exactly if it reaches everything. -/
theorem final_requestStop_iff (s : Service) :
    Final (requestStop s) ↔ StopReaches s := by
  constructor
  · intro h c hc hlaunches
    have hstopped : stoppedAs s c ∈ (requestStop s).coroutines := by
      rw [coroutines_requestStop]
      exact List.mem_map_of_mem hc
    obtain ⟨hcancelled, hswallows⟩ := h.quiet _ hstopped hlaunches
    exact ⟨(cancelled_stoppedAs s c).mp hcancelled, hswallows⟩
  · intro h
    refine ⟨rfl, rfl, rfl, ?_⟩
    intro c hc
    rw [coroutines_requestStop] at hc
    obtain ⟨d, hd, rfl⟩ := List.mem_map.mp hc
    intro hlaunches
    obtain ⟨hcancelled, hswallows⟩ := h d hd hlaunches
    exact ⟨(cancelled_stoppedAs s d).mpr hcancelled, hswallows⟩

-- ================================================ what a stop leaves behind

/-- A run without a call that asks for it comes to a start. -/
def Leads (s : Service) : Prop :=
  ∃ l t, Run Steps s l t
    ∧ (∀ x ∈ l, x.asksStart = false) ∧ t.starts ≠ s.starts

/-- A start is one step away. -/
theorem Leads.now {s t : Service} {l : ServiceLabel}
    (hl : l.asksStart = false) (h : s.step l = some t)
    (hstarts : t.starts ≠ s.starts) : Leads s := by
  refine ⟨[l], t, .cons h (.nil t), ?_, hstarts⟩
  intro x hx
  rw [List.mem_singleton.mp hx]
  exact hl

/-- Or more. -/
theorem Leads.step {s t : Service} {l : ServiceLabel}
    (hl : l.asksStart = false) (h : s.step l = some t)
    (hstarts : t.starts = s.starts) (ht : Leads t) : Leads s := by
  obtain ⟨rest, u, hrun, hrest, hu⟩ := ht
  refine ⟨l :: rest, u, .cons h hrun, ?_, by rwa [← hstarts]⟩
  intro x hx
  rcases List.mem_cons.mp hx with rfl | hx
  · exact hl
  · exact hrest x hx

/-- The state that the rest of the `i`-th coroutine finds. -/
def without (i : Nat) (s : Service) : Service :=
  { s with coroutines := s.coroutines.eraseIdx i }

/-- The step of a coroutine, by its place in the list. -/
theorem step_resume {s : Service} {c : Coroutine} {i : Nat} {reply : Reply}
    (hc : s.coroutines[i]? = some c) (hanswers : answers c reply = true) :
    s.step (.resume i reply)
      = resume c.toMe c.point reply (without i s) := by
  simp only [Service.step, hc, if_pos hanswers]
  rfl

/-- Stopped, and a grant of root is at hand. -/
def Ready (s : Service) : Prop :=
  s.userStopRequested = true ∧ s.rootGranted = true

/-- This is where a run starts. -/
theorem starts_callStart (me : Me) (request : RunRequest) (s : Service) :
    (callStart me request s).starts ≠ s.starts := by
  intro h
  have hlength := congrArg List.length h
  rw [callStart, wait, List.length_append] at hlength
  exact absurd hlength (Nat.succ_ne_self _)

/-- With root granted, straight on. -/
theorem starts_proceed (me : Me) (run : LaunchRun) (runConfig : RunConfig)
    {s : Service} (h : s.rootGranted = true) :
    (proceed me run runConfig s).starts ≠ s.starts := by
  unfold proceed
  dsimp only
  split
  · rw [requestRoot, if_pos h]
    exact starts_callStart me _ _
  · exact starts_callStart me _ _

/-- Where a cancellation is swallowed, the coroutine comes to its start
with it and without. -/
theorem leads_swallows {s : Service} {c : Coroutine} (hs : Ready s)
    (hc : c ∈ s.coroutines) (h : c.point.swallows = true) : Leads s := by
  obtain ⟨i, hi⟩ := List.getElem?_of_mem hc
  obtain ⟨me, point⟩ := c
  have hrequested : (without i s).userStopRequested = true := hs.1
  have hgranted : (without i s).rootGranted = true := hs.2
  have hproceed : ∀ run runConfig, afterIndex me run runConfig (without i s)
      = proceed me run runConfig (without i s) := by
    intro run runConfig
    rw [afterIndex, if_neg (by simp [hrequested])]
  have hgate : ∀ run runConfig, afterGate me run runConfig false (without i s)
      = proceed me run runConfig (without i s) := fun _ _ => rfl
  have hnow : ∀ run runConfig reply, answers ⟨me, point⟩ reply = true →
      resume me point reply (without i s)
        = some (proceed me run runConfig (without i s)) → Leads s := by
    intro run runConfig reply hanswers hresume
    refine Leads.now (l := .resume i reply) rfl
      ((step_resume hi hanswers).trans hresume) ?_
    exact starts_proceed me run runConfig hgranted
  cases point
  case loadIndex run runConfig =>
    cases hcancelled : me.cancelled with
    | false =>
        apply hnow run runConfig .done (by simp [answers, hcancelled])
        exact congrArg some (hproceed run runConfig)
    | true =>
        apply hnow run runConfig .cancelled (by simp [answers, hcancelled])
        exact congrArg some (hproceed run runConfig)
  case readGatePin run runConfig =>
    cases hcancelled : me.cancelled with
    | false =>
        apply hnow run runConfig (.thrown none)
          (by simp [answers, hcancelled])
        exact congrArg some (hgate run runConfig)
    | true =>
        apply hnow run runConfig .cancelled (by simp [answers, hcancelled])
        exact congrArg some (hgate run runConfig)
  all_goals cases h

/-- A coroutine goes on to a state that leads to a start. -/
theorem leads_of_next {s : Service} {job : Nat} {point : Point}
    {reply : Reply} (hs : Ready s)
    (hc : ⟨⟨job, false⟩, point⟩ ∈ s.coroutines)
    (hanswers : answers ⟨⟨job, false⟩, point⟩ reply = true)
    (hnext : ∀ u, Ready u → ∃ t, resume ⟨job, false⟩ point reply u = some t
      ∧ t.starts = u.starts ∧ Leads t) : Leads s := by
  obtain ⟨i, hi⟩ := List.getElem?_of_mem hc
  obtain ⟨t, hresume, hstarts, ht⟩ := hnext (without i s) hs
  exact Leads.step (l := .resume i reply) rfl
    ((step_resume hi hanswers).trans hresume) hstarts ht

/-- A coroutine that waits is there. -/
theorem mem_wait (me : Me) (point : Point) (s : Service) :
    (⟨me, point⟩ : Coroutine) ∈ (wait me point s).coroutines :=
  List.mem_append_right _ List.mem_cons_self

/-- A configuration. -/
def anyConfig : RunConfig := ⟨⟨[], [], [], [], false⟩, none⟩

/-- A launch that prepares its config goes on to its start. -/
theorem leads_prepareRunConfig {s : Service} {job : Nat} {run : LaunchRun}
    (hs : Ready s)
    (hc : ⟨⟨job, false⟩, .prepareRunConfig run⟩ ∈ s.coroutines) :
    Leads s := by
  apply @leads_of_next _ _ _ (.prepared anyConfig) hs hc rfl
  intro u hu
  exact ⟨_, rfl, rfl, leads_swallows hu (mem_wait _ _ u) rfl⟩

/-- One that reads the profiles. -/
theorem leads_readAll {s : Service} {job : Nat} {run : LaunchRun}
    (hs : Ready s) (hc : ⟨⟨job, false⟩, .readAll run⟩ ∈ s.coroutines) :
    Leads s := by
  apply @leads_of_next _ _ _ (.thrown none) hs hc rfl
  intro u hu
  exact ⟨_, rfl, rfl, leads_prepareRunConfig hu (mem_wait _ _ u)⟩

/-- One that opens its log. -/
theorem leads_newLogSession {s : Service} {job : Nat}
    {runSpec : ActiveRunSpec} (hs : Ready s)
    (hc : ⟨⟨job, false⟩, .newLogSession runSpec⟩ ∈ s.coroutines) :
    Leads s := by
  apply @leads_of_next _ _ _ .done hs hc rfl
  intro u hu
  refine ⟨startSession runSpec u, rfl, ?_⟩
  obtain ⟨profileId, modeOverride⟩ := runSpec
  cases modeOverride with
  | none =>
      have hc' := mem_wait ⟨u.nextJob, false⟩
        (.readAll ⟨⟨profileId, none⟩, false⟩) u
      exact ⟨rfl, leads_readAll hu hc'⟩
  | some mode =>
      have hc' := mem_wait ⟨u.nextJob, false⟩
        (.prepareRunConfig ⟨⟨profileId, some mode⟩, false⟩) u
      exact ⟨rfl, leads_prepareRunConfig hu hc'⟩

/-- A pick that clears its result. -/
theorem leads_pickDelete {s : Service} {job : Nat} {session : PickSession}
    {scanMode : List Char} {runConfig : RunConfig} (hs : Ready s)
    (hc : ⟨⟨job, false⟩, .pickDelete session scanMode runConfig⟩
      ∈ s.coroutines) : Leads s := by
  apply @leads_of_next _ _ _ .done hs hc rfl
  intro u hu
  refine ⟨startPickScan ⟨job, false⟩ session scanMode runConfig u, rfl, rfl,
    ?_⟩
  exact leads_swallows (c := ⟨⟨job, false⟩, .loadIndex
    ⟨⟨session.profileId, some scanMode⟩, false⟩ runConfig⟩) hu
    (mem_wait _ _ u) rfl

/-- A pick that prepares its scan. -/
theorem leads_pickPrepare {s : Service} {job : Nat} {session : PickSession}
    {scanMode : List Char} (hs : Ready s)
    (hc : ⟨⟨job, false⟩, .pickPrepare session scanMode⟩ ∈ s.coroutines) :
    Leads s := by
  apply @leads_of_next _ _ _ (.prepared anyConfig) hs hc rfl
  intro u hu
  exact ⟨_, rfl, rfl, leads_pickDelete hu (mem_wait _ _ u)⟩

/-- A pick that reads the profiles. -/
theorem leads_pickReadAll {s : Service} {job : Nat} {session : PickSession}
    (hs : Ready s)
    (hc : ⟨⟨job, false⟩, .pickReadAll session⟩ ∈ s.coroutines) :
    Leads s := by
  apply @leads_of_next _ _ _ (.thrown none) hs hc rfl
  intro u hu
  exact ⟨_, rfl, rfl, leads_pickPrepare hu (mem_wait _ _ u)⟩

/-- A coroutine that nothing cancelled comes to its start. -/
theorem leads_uncancelled {s : Service} {job : Nat} {point : Point}
    (hs : Ready s) (hc : ⟨⟨job, false⟩, point⟩ ∈ s.coroutines)
    (h : point.launches = true) : Leads s := by
  cases point
  case newLogSession => exact leads_newLogSession hs hc
  case readAll => exact leads_readAll hs hc
  case readPin =>
    apply @leads_of_next _ _ _ (.thrown none) hs hc rfl
    intro u hu
    exact ⟨_, rfl, rfl, leads_prepareRunConfig hu (mem_wait _ _ u)⟩
  case prepareRunConfig => exact leads_prepareRunConfig hs hc
  case loadIndex => exact leads_swallows hs hc rfl
  case readGatePin => exact leads_swallows hs hc rfl
  case requestRoot request =>
    obtain ⟨i, hi⟩ := List.getElem?_of_mem hc
    apply Leads.now (l := .resume i (.root .granted "")) rfl
      (step_resume hi rfl)
    exact starts_callStart ⟨job, false⟩ request _
  case pickReadAll => exact leads_pickReadAll hs hc
  case pickPrepare => exact leads_pickPrepare hs hc
  case pickDelete => exact leads_pickDelete hs hc
  all_goals cases h

/-- The user's diagnostics bring a grant of root. -/
theorem leads_of_granted {s : Service} (hs : s.userStopRequested = true)
    (h : ∀ t, Ready t → t.coroutines = s.coroutines → Leads t) :
    Leads s := by
  have hlast : ∀ c : Coroutine,
      (s.coroutines ++ [c])[s.coroutines.length]? = some c := by
    intro c
    simp
  have herase : ∀ c : Coroutine,
      (s.coroutines ++ [c]).eraseIdx s.coroutines.length = s.coroutines := by
    intro c
    simp [List.eraseIdx_append_of_length_le]
  let asked := launchAt .diagnosticsLog s
  let running := wait ⟨s.nextJob, false⟩ .diagnostics
    (without s.coroutines.length asked)
  have hasked : asked.step (.resume s.coroutines.length .done)
      = some running :=
    step_resume (c := ⟨⟨s.nextJob, false⟩, .diagnosticsLog⟩) (hlast _) rfl
  have hrunning : running.coroutines
      = s.coroutines ++ [⟨⟨s.nextJob, false⟩, .diagnostics⟩] :=
    congrArg (· ++ _) (herase _)
  have hmine := (congrArg (·[s.coroutines.length]?) hrunning).trans (hlast _)
  apply Leads.step (l := .runRootDiagnostics) rfl (t := asked) rfl rfl
  apply Leads.step (l := .resume s.coroutines.length .done) rfl hasked rfl
  let granted : Service := { without s.coroutines.length running with
    rootStatus := .granted
    rootGranted := true
    lastError := none }
  have hgranted : running.step (.resume s.coroutines.length
      (.root .granted "")) = some granted := step_resume hmine rfl
  apply Leads.step (l := .resume s.coroutines.length (.root .granted "")) rfl
    hgranted rfl
  apply h granted
  · constructor
    · simpa [granted, running, asked, without, wait, launchAt] using hs
    · simp [granted]
  · exact (congrArg (·.eraseIdx s.coroutines.length) hrunning).trans
      (herase _)

/-- A coroutine that a stop leaves its start comes to it. -/
theorem leads_of_not_quiet {s : Service} (hs : s.userStopRequested = true)
    {c : Coroutine} (hc : c ∈ s.coroutines) (h : ¬ Quiet c) : Leads s := by
  apply leads_of_granted hs
  intro t ht hcoroutines
  rw [← hcoroutines] at hc
  by_cases hswallows : c.point.swallows = true
  · exact leads_swallows ht hc hswallows
  · obtain ⟨⟨job, cancelled⟩, point⟩ := c
    cases cancelled with
    | false =>
        apply leads_uncancelled ht hc
        by_cases hlaunches : point.launches = true
        · exact hlaunches
        · exact absurd (fun hl => absurd hl hlaunches) h
    | true =>
        exact absurd (fun _ => ⟨rfl, Bool.not_eq_true _ ▸ hswallows⟩) h

-- ============================================ no start behind a user's stop

/-- What either call leaves behind. -/
theorem stop_requested {s t : Service} {stop : ServiceLabel}
    (hstop : stop = .stopZeroDpi ∨ stop = .forceStopZeroDpi)
    (h : s.step stop = some t) :
    (∀ c ∈ (requestStop s).coroutines, c ∈ t.coroutines)
      ∧ Still (requestStop s) t ∧ t.userStopRequested = true
      ∧ t.starts = s.starts := by
  have hlaunched : ∀ point : Point, point.launches = false →
      (∀ c ∈ (requestStop s).coroutines,
        c ∈ (launchAt point (requestStop s)).coroutines)
      ∧ Still (requestStop s) (launchAt point (requestStop s)) :=
    fun point hpoint =>
      ⟨fun _ => List.mem_append_left _, still_launchAt hpoint _⟩
  have hrequested := requested_requestStop s
  have hstarts := starts_requestStop s
  rcases hstop with rfl | rfl
  · obtain rfl : stopZeroDpi s = t := Option.some.inj h
    unfold stopZeroDpi
    generalize requestStop s = u at *
    dsimp only
    split
    · exact ⟨fun _ => id, .refl u, hrequested, hstarts⟩
    · obtain ⟨hmem, hstill⟩ := hlaunched .stop rfl
      exact ⟨hmem, hstill, hrequested, hstarts⟩
  · obtain rfl : forceStopZeroDpi s = t := Option.some.inj h
    unfold forceStopZeroDpi
    generalize requestStop s = u at *
    obtain ⟨hmem, hstill⟩ := hlaunched .forceStop rfl
    exact ⟨hmem, hstill, hrequested, hstarts⟩

/-- After a stop, no run calls `runner.start` until it is asked for again,
if and only if the stop reaches every coroutine that has the call ahead. -/
theorem stop_is_final_iff {s t : Service} {stop : ServiceLabel}
    (hstop : stop = .stopZeroDpi ∨ stop = .forceStopZeroDpi)
    (h : s.step stop = some t) :
    (∀ l u, Run Steps t l u →
        (∀ x ∈ l, x.asksStart = false) → u.starts = s.starts)
      ↔ StopReaches s := by
  obtain ⟨hmem, hstill, hrequested, hstarts⟩ := stop_requested hstop h
  rw [← final_requestStop_iff]
  constructor
  · intro hfinal
    refine ⟨rfl, rfl, rfl, ?_⟩
    intro c hc
    apply Classical.byContradiction
    intro hquiet
    obtain ⟨l, u, hrun, hl, hne⟩ :=
      leads_of_not_quiet hrequested (hmem c hc) hquiet
    rw [hstarts] at hne
    exact hne (hfinal l u hrun hl)
  · intro hfinal l u hrun hl
    have ht := (hstill hfinal).1
    exact (still_run hrun hl ht).2.trans hstarts

-- ------------------------------------------- a stop in time, and one before

/-- A configuration with a target, for which no root is needed. -/
def plainConfig : EditorState :=
  ⟨"sni_spoof".toList, "true".toList, [], [], false⟩

/-- Up to the preparation of the run. -/
def preparing : List ServiceLabel :=
  [.startZeroDpi "default" none, .resume 0 .done,
    .resume 0 (.contents plainConfig)]

/-- A stop that finds its launch and cancels it. -/
theorem stop_while_preparing :
    ∃ s t, Run Steps {} preparing s
      ∧ s.step .stopZeroDpi = some t ∧ s.starts = []
      ∧ ∀ l u, Run Steps t l u →
        (∀ x ∈ l, x.asksStart = false) → u.starts = [] := by
  obtain ⟨s, hs⟩ : ∃ s, preparing.foldlM Service.step {} = some s := ⟨_, rfl⟩
  have hstarts : s.starts = [] := by
    cases hs
    rfl
  refine ⟨s, s.stopZeroDpi, .of_foldlM hs, rfl, hstarts, ?_⟩
  rw [← hstarts]
  apply (stop_is_final_iff (.inl rfl) rfl).mpr
  cases hs
  intro c hc _
  rw [List.mem_singleton.mp hc]
  exact ⟨.inr (.inl rfl), rfl⟩

/-- A stop while the log session is opened: the process starts behind it. -/
theorem start_survives_stop :
    ∃ s t u, Run Steps {}
        [.startZeroDpi "default" none] s
      ∧ s.step .stopZeroDpi = some t
      ∧ Run Steps t
        [.resume 1 (.stopped .alreadyExited), .resume 0 .done,
          .resume 0 (.contents plainConfig),
          .resume 0 (.prepared ⟨plainConfig, none⟩), .resume 0 .done] u
      ∧ s.starts = [] ∧ u.status = .starting
      ∧ u.starts = [⟨"default", false, "sni_spoof".toList⟩] :=
  ⟨_, _, _, .of_foldlM rfl, rfl, .of_foldlM rfl, rfl, rfl, rfl⟩

end Service
end ZeroDpi.Android
