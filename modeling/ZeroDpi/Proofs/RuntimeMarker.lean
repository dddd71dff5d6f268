/-
The marker that others see of a run (service/ZeroDpiRuntimeStateStore.kt).

Starting a run raises the marker and the end of the foreground run lowers
it. In between it stays, whatever restarts, pick sessions and failures
there are. Two things are missing: a standalone pick session launches its
scan without raising the marker, and an end of the run does not look
whether a process is still alive, or a coroutine still on its way to
launch one.

# Main results

`Service.Safe.step`: a step that opens no standalone session, and that ends
the run only where no process and no such coroutine is left, keeps the
invariant that the marker is up, or nothing runs and nothing is about to.
-/
import ZeroDpi.Proofs.ServiceStop

namespace ZeroDpi.Android

open Lib ProcessRunner

-- ========================================================== the condition

/-- The coroutine may come to a call of `runner.start`, or is in one. -/
def Coroutine.mayStart (c : Coroutine) : Bool :=
  match c.point with
  | .runnerStart _ => true
  | .abandon _ stalledPickSession => stalledPickSession.any fun session =>
      session.origin = .midRun && session.resumeRunSpec.isSome
  | point => point.launches && (!c.cancelled || point.swallows)

namespace Service

/-- `resolvePickSession` ends the run. -/
def resolveEnds (startAfterPick : Bool) (s : Service) : Bool :=
  match s.pickSession with
  | none => false
  | some session =>
      match session.origin with
      | .midRun => !resumes session s
      | .startGate => !(startAfterPick && !s.userStopRequested)
      | .standalone => true

/-- An error of the runner ends the run; `rest` is whether it does outside
of pick scans, restarts and supervision. -/
def failureEnds (rest : Bool) (s : Service) : Bool :=
  match s.pickSession, s.pickStage with
  | some session, some .scanning => !resumes session s
  | _, _ => !s.restartStopInProgress && !s.isSessionSupervised && rest

/-- An exit of the runner's process ends the run here. -/
def runExitEnds (s : Service) : Bool :=
  if s.restartStopInProgress then s.userStopRequested
  else !s.isSessionSupervised

/-- The exit of a process ends the run. -/
def exitEnds (exitCode : Int) (s : Service) : Bool :=
  if s.pickStage = some .stoppingForRescan && !s.userStopRequested then
    if exitCode = 0 then s.pickSession.isNone else resolveEnds false s
  else if s.pickStage = some .scanning && exitCode = 0
      && !s.pickCancelRequested && !s.userStopRequested then false
  else if s.pickStage = some .scanning && s.pickCancelRequested then
    match s.pickSession with
    | some session =>
        !(session.origin = .midRun && session.resumeRunSpec.isSome)
    | none => true
  else runExitEnds s

/-- The events that end a run. -/
def eventEnds (event : ZeroDpiRunnerEvent) (s : Service) : Bool :=
  match event with
  | .fatalError _ => failureEnds false s
  | .failed _ => failureEnds true s
  | .exited exitCode => exitEnds exitCode s
  | _ => false

/-- A restart finds no run to restart. -/
def relaunchEnds (s : Service) : Bool :=
  !s.userStopRequested && s.restartStopInProgress && s.activeRunSpec.isNone

/-- The rest of a coroutine ends the run. -/
def replyEnds (point : Point) (reply : Reply) (s : Service) : Bool :=
  match point, reply with
  | .prepareRunConfig _, .thrown _ => !s.isSessionSupervised
  | .readGatePin run runConfig, .pin pin =>
      TargetPickPolicy.isGateEligible runConfig.config pin
        && run.isAutomaticRestart
  | .requestRoot _, .root state _ => state ≠ .granted
  | .runnerStart _, .thrown _ => !s.isSessionSupervised
  | .pickReadAll session, .contents config =>
      (TargetPickPolicy.scanModeFor config.mode).isNone
        && !resumes session s
  | .pickPrepare session _, .thrown _ => !resumes session s
  | .stop, .stopped result => result = .alreadyExited
  | .forceStop, .stopped result => result = .alreadyExited
  | .abandon _ (some session), .done => !resumes session s
  | .abandon _ none, .done => !s.isSessionSupervised
  | .restartStop, .stopped _ => relaunchEnds s
  | .restartSelect _ _, .signalled _ => relaunchEnds s
  | .restartForceStop _, .stopped _ => relaunchEnds s
  | .restartExit _, .done => relaunchEnds s
  | _, _ => false

/-- The step ends the foreground run. -/
def endsRun (s : Service) : ServiceLabel → Bool
  | .applyTargetPick => s.pickStage = some .choosing && resolveEnds true s
  | .cancelTargetPick => s.pickStage = some .choosing && resolveEnds false s
  | .event event => eventEnds event s
  | .resume i reply =>
      match s.coroutines[i]? with
      | some c => replyEnds c.point reply s
      | none => false
  | _ => false

/-- The step opens a pick session of its own, outside of any run. -/
def opensStandalone (s : Service) : ServiceLabel → Bool
  | .requestTargetPick _ =>
      s.pickSession.isNone && !s.restartStopInProgress
        && (s.status = .stopped || s.status = .failed)
  | _ => false

/-- The coroutines but the one that takes the step. -/
def others (s : Service) : ServiceLabel → List Coroutine
  | .resume i _ => s.coroutines.eraseIdx i
  | _ => s.coroutines

/-- No process of the service runs, and no coroutine may launch one. -/
structure Clear (children : List String) (coroutines : List Coroutine) :
    Prop where
  children : children = []
  coroutines : ∀ c ∈ coroutines, c.mayStart = false

instance (children : List String) (coroutines : List Coroutine) :
    Decidable (Clear children coroutines) :=
  decidable_of_iff
    (children = [] ∧ ∀ c ∈ coroutines, c.mayStart = false)
    ⟨fun h => ⟨h.1, h.2⟩, fun h => ⟨h.children, h.coroutines⟩⟩

/-- The step is one that the marker is made for. -/
structure Marked (s : Service) (l : ServiceLabel) : Prop where
  session : s.opensStandalone l = false
  ends : s.endsRun l = true → Clear s.children (s.others l)

-- ============================================================== the marker

/-- What `isRuntimeActive` looks at. -/
def marks (s : Service) : RuntimeMarker × Bool := (s.marker, s.foreground)

/-- The marker is up, and stays up when it gets old. -/
structure Backed (s : Service) : Prop where
  active : s.marker.active = true
  expected : s.marker.foregroundServiceExpected = true
  foreground : s.foreground = true

/-- What `Backed` speaks about is in the marks. -/
theorem Backed.of_marks {s t : Service} (h : Backed s)
    (hmarks : marks t = marks s) : Backed t := by
  obtain ⟨hmarker, hforeground⟩ := Prod.mk.inj hmarks
  exact ⟨hmarker ▸ h.active, hmarker ▸ h.expected,
    hforeground ▸ h.foreground⟩

/-- A backed marker is active, at any time. -/
theorem Backed.isRuntimeActive {s : Service} (h : Backed s)
    (nowEpochMs : Int) :
    s.marker.isRuntimeActive s.foreground nowEpochMs = (true, s.marker) := by
  simp [RuntimeMarker.isRuntimeActive, h.active, h.expected, h.foreground]

/-- Nothing runs, and nothing is about to. -/
structure Idle (s : Service) : Prop where
  clear : Clear s.children s.coroutines
  run : s.activeRunSpec = none
  session : s.pickSession = none

/-- The invariant. -/
def Safe (s : Service) : Prop := Idle s ∨ Backed s

-- ------------------------------------------------------ it stays where it is

/-- A coroutine that waits changes no mark; so does each of the next, down
to the exit's signal. -/
@[simp] theorem marks_wait (me : Me) (point : Point) (s : Service) :
    marks (wait me point s) = marks s := rfl

/-- Nor one that has ended. -/
@[simp] theorem marks_complete (signal : Option Nat) (s : Service) :
    marks (complete signal s) = marks s := by
  cases signal with
  | none => rfl
  | some signal => rfl

@[simp] theorem marks_noteRunActivity (s : Service) :
    marks (noteRunActivity s) = marks s := by
  unfold noteRunActivity
  dsimp only
  split
  · rfl
  · split
    · rfl
    · rfl

@[simp] theorem marks_proceed (me : Me) (run : LaunchRun)
    (runConfig : RunConfig) (s : Service) :
    marks (proceed me run runConfig s) = marks s := by
  unfold proceed
  dsimp only
  split
  · unfold requestRoot
    split
    · rfl
    · split
      · rfl
      · rfl
  · rfl

@[simp] theorem marks_afterIndex (me : Me) (run : LaunchRun)
    (runConfig : RunConfig) (s : Service) :
    marks (afterIndex me run runConfig s) = marks s := by
  unfold afterIndex
  split
  · split
    · exact marks_proceed me run runConfig s
    · rfl
  · exact marks_proceed me run runConfig s

@[simp] theorem marks_loadIndex (me : Me) (run : LaunchRun)
    (runConfig : RunConfig) (s : Service) :
    marks (loadIndex me run runConfig s) = marks s := by
  unfold loadIndex
  split
  · exact marks_afterIndex me run runConfig s
  · rfl

@[simp] theorem marks_prepare (me : Me) (run : LaunchRun) (s : Service) :
    marks (prepare me run s) = marks s := by
  unfold prepare
  split
  · rfl
  · rfl

/-- The way of a run to its start, step by step, leaves the marks alone. -/
@[simp] theorem marks_launchRun (me : Me) (run : LaunchRun)
    (preparedConfigOverride : Option RunConfig) (s : Service) :
    marks (launchRun me run preparedConfigOverride s) = marks s := by
  cases preparedConfigOverride with
  | some runConfig => exact marks_loadIndex me run runConfig s
  | none =>
      simp only [launchRun]
      split
      · split
        · exact marks_prepare me run s
        · rfl
      · exact marks_prepare me run s

@[simp] theorem marks_launchRunJob (run : LaunchRun) (s : Service) :
    marks (launchRunJob run s) = marks s :=
  marks_launchRun ⟨s.nextJob, false⟩ run none
    { s with nextJob := s.nextJob + 1 }

@[simp] theorem marks_resumeRun (session : PickSession) (s : Service) :
    marks (resumeRun session s) = marks s := by
  unfold resumeRun
  split
  · exact marks_launchRunJob _ s
  · rfl

/-- Nor does a restart that is only asked for. -/
@[simp] theorem marks_requestAutomaticRestart (s : Service) :
    marks (requestAutomaticRestart s) = marks s := by
  unfold requestAutomaticRestart
  split
  · rfl
  · split
    · rfl
    · rfl

@[simp] theorem marks_signalExited (result : RunnerStopResult) (s : Service) :
    marks (signalExited result s) = marks s := by
  cases result
  case alreadyExited => exact marks_complete _ s
  all_goals rfl

-- ==================================================== the end of the run

/-- Cancelling makes no start possible. -/
theorem mayStart_cancelledBy {c : Coroutine} (job : Option Nat)
    (h : c.mayStart = false) : (c.cancelledBy job).mayStart = false := by
  obtain ⟨me, point⟩ := c
  cases point <;>
    simp_all [Coroutine.mayStart, Coroutine.cancelledBy, Point.launches,
      Point.swallows]

/-- Nor does it in a list of coroutines. -/
theorem Clear.cancel {children : List String} {coroutines : List Coroutine}
    (h : Clear children coroutines) (job : Option Nat) :
    Clear children (coroutines.map (Coroutine.cancelledBy job)) := by
  refine ⟨h.children, ?_⟩
  intro c hc
  obtain ⟨d, hd, rfl⟩ := List.mem_map.mp hc
  exact mayStart_cancelledBy job (h.coroutines d hd)

/-- The coroutines behind the end of the run. -/
theorem coroutines_finishForegroundRun (s : Service) :
    (finishForegroundRun s).coroutines
      = (s.coroutines.map (Coroutine.cancelledBy s.startupWatchdogJob)).map
          (Coroutine.cancelledBy s.errorRestartJob) := by
  simp only [finishForegroundRun, markRuntimeInactive, clearRestart,
    cancelErrorRestart, cancelStartupWatchdog, clearPickSession, cancel]

/-- The children are none of the end's business. -/
theorem children_finishForegroundRun (s : Service) :
    (finishForegroundRun s).children = s.children := by
  simp only [finishForegroundRun, markRuntimeInactive, clearRestart,
    cancelErrorRestart, cancelStartupWatchdog, clearPickSession, cancel]

/-- Behind an end of the run that finds nothing alive, nothing is. -/
theorem Clear.finishForegroundRun {s : Service}
    (h : Clear s.children s.coroutines) : Idle (finishForegroundRun s) := by
  refine ⟨?_, rfl, rfl⟩
  rw [coroutines_finishForegroundRun, children_finishForegroundRun]
  exact (h.cancel s.startupWatchdogJob).cancel s.errorRestartJob

/-- With nothing that could start, the end of a run leaves the service idle.
-/
theorem Clear.finishAfterExit {s : Service}
    (h : Clear s.children s.coroutines) (exitCode : Int) :
    Idle (finishAfterExit exitCode s) :=
  Clear.finishForegroundRun (h.cancel s.startupWatchdogJob)

/-- Likewise its failure. -/
theorem Clear.failRun {s : Service} (h : Clear s.children s.coroutines)
    (message : String) : Idle (failRun message s) :=
  Clear.finishForegroundRun h

/-- A coroutine less. -/
theorem Clear.complete {s : Service} (h : Clear s.children s.coroutines)
    (signal : Option Nat) :
    Clear (complete signal s).children (complete signal s).coroutines := by
  cases signal with
  | none => exact h
  | some signal => exact h

-- ====================================================== the marker is up

section Up

variable {s : Service}

/-- A failed launch is backed or ends the run, on its condition; the
handlers below likewise. -/
theorem Backed.launchFailed (h : Backed s) (message : String)
    (hend : (!s.isSessionSupervised) = true
      → Clear s.children s.coroutines) :
    Safe (launchFailed message s) := by
  unfold Service.launchFailed
  by_cases hsupervised : s.isSessionSupervised = true
  · rw [if_pos hsupervised]
    exact .inr (h.of_marks rfl)
  · rw [if_neg hsupervised]
    exact .inl ((hend (by simp [hsupervised])).failRun message)

/-- A pick that fails resumes the run, or ends it. -/
theorem Backed.failPickSession (h : Backed s) (message : String)
    (session : PickSession)
    (hend : (!resumes session s) = true → Clear s.children s.coroutines) :
    Safe (failPickSession message session s) := by
  have hsame : resumes session (clearPickSession s) = resumes session s := rfl
  unfold Service.failPickSession
  dsimp only
  rw [hsame]
  by_cases hresumes : resumes session s = true
  · rw [if_pos hresumes]
    exact .inr (h.of_marks (marks_resumeRun session _))
  · rw [if_neg hresumes]
    have hclear := hend (by simp [hresumes])
    exact .inl (Clear.failRun (s := clearPickSession s) hclear message)

/-- A start marks what it starts. -/
theorem Safe.startZeroDpi (profileId : String)
    (modeOverride : Option (List Char)) (h : Safe s) :
    Safe (startZeroDpi profileId modeOverride s) := by
  unfold Service.startZeroDpi
  dsimp only
  split
  · rcases h with hidle | hbacked
    · exact .inl ⟨hidle.clear, hidle.run, hidle.session⟩
    · exact .inr ⟨hbacked.active, hbacked.expected, rfl⟩
  · exact .inr ⟨rfl, rfl, rfl⟩

/-- A pick that is resolved, likewise. -/
theorem Backed.resolvePickSession (h : Backed s) (startAfterPick : Bool)
    (hend : s.resolveEnds startAfterPick = true
      → Clear s.children s.coroutines) :
    Safe (resolvePickSession startAfterPick s) := by
  unfold resolveEnds at hend
  unfold Service.resolvePickSession
  cases hsession : s.pickSession with
  | none => exact .inr h
  | some session =>
      rw [hsession] at hend
      dsimp only at hend ⊢
      cases horigin : session.origin with
      | midRun =>
          rw [horigin] at hend
          have hsame : resumes session (clearPickSession s)
              = resumes session s := rfl
          dsimp only at hend ⊢
          rw [hsame]
          by_cases hresumes : resumes session s = true
          · rw [if_pos hresumes]
            exact .inr (h.of_marks (marks_resumeRun session _))
          · rw [if_neg hresumes]
            have hclear := hend (by simp [hresumes])
            exact .inl
              (Clear.finishAfterExit (s := clearPickSession s) hclear 0)
      | startGate =>
          rw [horigin] at hend
          have hsame : (clearPickSession s).userStopRequested
              = s.userStopRequested := rfl
          dsimp only at hend ⊢
          rw [hsame]
          by_cases hstart : (startAfterPick && !s.userStopRequested) = true
          · rw [if_pos hstart]
            exact Safe.startZeroDpi _ _ (.inr (h.of_marks rfl))
          · rw [if_neg hstart]
            have hclear := hend (by simp [hstart])
            exact .inl
              (Clear.finishAfterExit (s := clearPickSession s) hclear 0)
      | standalone =>
          rw [horigin] at hend
          exact .inl (Clear.finishAfterExit (s := clearPickSession s)
            (hend rfl) 0)

/-- A failure, whatever it goes on with. -/
theorem Backed.handleFailure (h : Backed s) (message : String)
    {rest : Service → Service} {ends : Bool}
    (hrest : ends = false → ∀ t, Backed t → Backed (rest t))
    (hrestEnds : ends = true → ∀ t, Clear t.children t.coroutines →
      Idle (rest t))
    (hend : s.failureEnds ends = true → Clear s.children s.coroutines) :
    Safe (handleFailure message rest s) := by
  unfold failureEnds at hend
  unfold Service.handleFailure
  split
  · rename_i session hsession hstage
    rw [hsession, hstage] at hend
    exact h.failPickSession message session hend
  · rename_i hscan
    have hend : (!s.restartStopInProgress && !s.isSessionSupervised && ends)
        = true → Clear s.children s.coroutines := by
      intro hends
      refine hend ?_
      split
      · rename_i session hsession hstage
        exact (hscan session hsession hstage).elim
      · exact hends
    by_cases hrestart : s.restartStopInProgress = true
    · rw [if_pos hrestart]
      exact .inr h
    · rw [if_neg hrestart]
      by_cases hsupervised : s.isSessionSupervised = true
      · rw [if_pos hsupervised]
        exact .inr (h.of_marks rfl)
      · rw [if_neg hsupervised]
        cases ends with
        | false => exact .inr (hrest rfl _ (h.of_marks rfl))
        | true =>
            have hclear := hend (by simp [hrestart, hsupervised])
            exact .inl (hrestEnds rfl _ (hclear.cancel s.startupWatchdogJob))

/-- An exit is restarted or ends the run. -/
theorem Backed.handleRunExit (h : Backed s) (exitCode : Int)
    (hend : s.runExitEnds = true → Clear s.children s.coroutines) :
    Safe (handleRunExit exitCode s) := by
  unfold runExitEnds at hend
  unfold Service.handleRunExit
  by_cases hrestart : s.restartStopInProgress = true
  · rw [if_pos hrestart] at hend ⊢
    have hsame : (complete s.restartExitSignal s).userStopRequested
        = s.userStopRequested := by
      cases s.restartExitSignal with
      | none => rfl
      | some signal => rfl
    dsimp only
    rw [hsame]
    by_cases hstop : s.userStopRequested = true
    · rw [if_pos hstop]
      exact .inl (Clear.finishAfterExit
        ((hend hstop).complete s.restartExitSignal) exitCode)
    · rw [if_neg hstop]
      exact .inr (h.of_marks (marks_complete _ s))
  · rw [if_neg hrestart] at hend ⊢
    by_cases hsupervised : s.isSessionSupervised = true
    · rw [if_pos hsupervised]
      exact .inr (h.of_marks rfl)
    · rw [if_neg hsupervised]
      exact .inl ((hend (by simp [hsupervised])).finishAfterExit exitCode)

/-- The event of an exit. -/
theorem Backed.handleExited (h : Backed s) (exitCode : Int)
    (hend : s.exitEnds exitCode = true → Clear s.children s.coroutines) :
    Safe (handleExited exitCode s) := by
  have hup : Backed (cancelStartupWatchdog s) := h.of_marks rfl
  have hclear : Clear s.children s.coroutines →
      Clear (cancelStartupWatchdog s).children
        (cancelStartupWatchdog s).coroutines :=
    fun hs => hs.cancel s.startupWatchdogJob
  have hend : (cancelStartupWatchdog s).exitEnds exitCode = true →
      Clear (cancelStartupWatchdog s).children
        (cancelStartupWatchdog s).coroutines :=
    fun hends => hclear (hend hends)
  unfold Service.handleExited
  generalize cancelStartupWatchdog s = t at hup hend
  unfold exitEnds at hend
  dsimp only
  split
  · rename_i hrescan
    rw [if_pos hrescan] at hend
    by_cases hzero : exitCode = 0
    · rw [if_pos hzero] at hend ⊢
      cases hsession : t.pickSession with
      | none => exact .inl ((hend (by simp [hsession])).finishAfterExit _)
      | some session => exact .inr (hup.of_marks rfl)
    · rw [if_neg hzero] at hend ⊢
      exact hup.resolvePickSession false hend
  · rename_i hrescan
    rw [if_neg hrescan] at hend
    split
    · exact .inr (hup.of_marks rfl)
    · rename_i hscanned
      rw [if_neg hscanned] at hend
      split
      · rename_i hcancelled
        rw [if_pos hcancelled] at hend
        cases hsession : t.pickSession with
        | none =>
            rw [hsession] at hend
            exact .inl (Clear.finishAfterExit (s := clearPickSession t)
              (hend rfl) exitCode)
        | some session =>
            rw [hsession] at hend
            dsimp only at hend ⊢
            by_cases hresumes : (session.origin = .midRun
                && session.resumeRunSpec.isSome) = true
            · rw [if_pos hresumes]
              exact .inr (hup.of_marks (marks_resumeRun session _))
            · rw [if_neg hresumes]
              have hclear := hend (by simp [hresumes])
              exact .inl (Clear.finishAfterExit (s := clearPickSession t)
                hclear exitCode)
      · rename_i hcancelled
        rw [if_neg hcancelled] at hend
        exact hup.handleRunExit exitCode hend

/-- A stop that timed out is only reported. -/
theorem marks_handleStopTimedOut (s : Service) :
    marks (handleStopTimedOut s) = marks s := by
  have hsignalled : marks (signalTimedOut s) = marks s := by
    unfold signalTimedOut
    split
    · exact marks_complete _ s
    · rfl
  rw [← hsignalled]
  unfold handleStopTimedOut
  dsimp only
  split
  · rfl
  · rfl

/-- The fields that decide about an end of the run. -/
theorem Clear.noteRunActivity (h : Clear s.children s.coroutines) :
    Clear (noteRunActivity s).children (noteRunActivity s).coroutines := by
  unfold Service.noteRunActivity
  dsimp only
  split
  · exact h.cancel s.startupWatchdogJob
  · split
    · exact h
    · refine ⟨h.children, ?_⟩
      intro c hc
      rcases List.mem_append.mp hc with hc | hc
      · exact h.coroutines c hc
      · rw [List.mem_singleton.mp hc]
        rfl

/-- Activity does not change what an event ends. -/
theorem eventEnds_noteRunActivity (event : ZeroDpiRunnerEvent) (s : Service) :
    (noteRunActivity s).eventEnds event = s.eventEnds event := by
  unfold noteRunActivity
  dsimp only
  split
  · rfl
  · split
    · rfl
    · rfl

/-- Every event of the runner, by cases. -/
theorem Backed.handleRunnerEvent (h : Backed s) (event : ZeroDpiRunnerEvent)
    (hend : s.eventEnds event = true → Clear s.children s.coroutines) :
    Safe (handleRunnerEvent event s) := by
  have hup : Backed (Service.noteRunActivity s) :=
    h.of_marks (marks_noteRunActivity s)
  replace hend : (Service.noteRunActivity s).eventEnds event = true →
      Clear (Service.noteRunActivity s).children
        (Service.noteRunActivity s).coroutines := by
    rw [eventEnds_noteRunActivity]
    exact fun hends => (hend hends).noteRunActivity
  unfold Service.handleRunnerEvent
  generalize Service.noteRunActivity s = t at hup hend
  cases event
  case fatalError message =>
    refine hup.handleFailure message ?_ ?_ hend
    · intro _ u hu
      exact hu.of_marks rfl
    · intro hno
      cases hno
  case failed message =>
    refine hup.handleFailure message ?_ ?_ hend
    · intro hno
      cases hno
    · intro _ u hu
      exact hu.failRun message
  case exited exitCode => exact hup.handleExited exitCode hend
  case stopTimedOut =>
    exact .inr (hup.of_marks (marks_handleStopTimedOut t))
  all_goals
    dsimp only
    first
      | exact .inr hup
      | exact .inr (hup.of_marks rfl)
      | (split <;> first | exact .inr hup | exact .inr (hup.of_marks rfl))

/-- A restart goes on or fails. -/
theorem Backed.relaunch (h : Backed s)
    (hend : s.relaunchEnds = true → Clear s.children s.coroutines) :
    Safe (relaunch s) := by
  unfold Service.relaunch
  by_cases hgone : (s.userStopRequested || !s.restartStopInProgress) = true
  · rw [if_pos hgone]
    exact .inr h
  · rw [if_neg hgone]
    have hsame : (clearRestart s).activeRunSpec = s.activeRunSpec := rfl
    dsimp only
    rw [hsame]
    cases hrun : s.activeRunSpec with
    | none =>
        have hclear := hend (by simp [relaunchEnds, hrun]; simpa using hgone)
        exact .inl (Clear.failRun (s := clearRestart s) hclear _)
    | some runSpec =>
        exact .inr (h.of_marks (marks_launchRunJob ⟨runSpec, true⟩ _))

/-- The restart behind its wait for the exit. -/
theorem Backed.afterSelect (h : Backed s) (me : Me) (exitSignal : Nat)
    (timedOut : Bool)
    (hend : s.relaunchEnds = true → Clear s.children s.coroutines) :
    Safe (afterSelect me exitSignal timedOut s) := by
  unfold Service.afterSelect
  split
  · exact .inr (h.of_marks rfl)
  · exact h.relaunch hend

/-- An exit that is signalled decides nothing about the end. -/
theorem signalExited_kept (result : RunnerStopResult) (s : Service) :
    (signalExited result s).relaunchEnds = s.relaunchEnds
      ∧ (signalExited result s).children = s.children
      ∧ (signalExited result s).coroutines = s.coroutines := by
  have hcomplete : ∀ signal, (complete signal s).relaunchEnds = s.relaunchEnds
      ∧ (complete signal s).children = s.children
      ∧ (complete signal s).coroutines = s.coroutines := by
    intro signal
    cases signal with
    | none => exact ⟨rfl, rfl, rfl⟩
    | some signal => exact ⟨rfl, rfl, rfl⟩
  cases result
  case alreadyExited => exact hcomplete s.restartExitSignal
  all_goals exact ⟨rfl, rfl, rfl⟩

/-- The restart behind its `stop`. -/
theorem Backed.afterRestartStop (h : Backed s) (me : Me)
    (result : RunnerStopResult)
    (hend : s.relaunchEnds = true → Clear s.children s.coroutines) :
    Safe (afterRestartStop me result s) := by
  obtain ⟨hends, hchildren, hcoroutines⟩ := signalExited_kept result s
  have hup : Backed (signalExited result s) :=
    h.of_marks (marks_signalExited result s)
  rw [← hends, ← hchildren, ← hcoroutines] at hend
  unfold Service.afterRestartStop
  generalize signalExited result s = t at hup hend
  dsimp only
  split
  · split
    · exact hup.afterSelect me _ _ hend
    · split
      · exact hup.afterSelect me _ _ hend
      · exact .inr (hup.of_marks rfl)
  · exact .inr hup

/-- The restart behind its `forceStop`. -/
theorem Backed.afterRestartForceStop (h : Backed s) (me : Me)
    (exitSignal : Nat) (result : RunnerStopResult)
    (hend : s.relaunchEnds = true → Clear s.children s.coroutines) :
    Safe (afterRestartForceStop me exitSignal result s) := by
  obtain ⟨hends, hchildren, hcoroutines⟩ := signalExited_kept result s
  have hup : Backed (signalExited result s) :=
    h.of_marks (marks_signalExited result s)
  rw [← hends, ← hchildren, ← hcoroutines] at hend
  unfold Service.afterRestartForceStop
  generalize signalExited result s = t at hup hend
  dsimp only
  split
  · exact hup.relaunch hend
  · exact .inr (hup.of_marks rfl)

/-- The watchdog only launches coroutines. -/
theorem marks_watchdogWoke (me : Me) (s : Service) :
    marks (watchdogWoke me s) = marks s := by
  unfold watchdogWoke
  split
  · rfl
  · split
    · exact marks_wait me _ s
    · simp only [marks, handleRunStartupStall, launchAt, wait,
        cancelStartupWatchdog, cancel]

/-- So does the delay of a restart. -/
theorem marks_restartDelayOver (s : Service) :
    marks (restartDelayOver s) = marks s := by
  unfold restartDelayOver
  split
  · rfl
  · exact marks_requestAutomaticRestart _

/-- An abandoned run is restarted or has failed. -/
theorem Backed.afterAbandon (h : Backed s) (reason : String)
    (stalledPickSession : Option PickSession)
    (hend : s.replyEnds (.abandon reason stalledPickSession) .done = true
      → Clear s.children s.coroutines) :
    Safe (afterAbandon reason stalledPickSession s) := by
  cases stalledPickSession with
  | some session => exact h.failPickSession reason session hend
  | none =>
      have hend : (!s.isSessionSupervised) = true →
          Clear s.children s.coroutines := hend
      simp only [Service.afterAbandon]
      by_cases hsupervised : s.isSessionSupervised = true
      · rw [if_pos hsupervised]
        exact .inr (h.of_marks rfl)
      · rw [if_neg hsupervised]
        have hclear := hend (by simp [hsupervised])
        exact .inl (Clear.failRun (s := { s with
          scanProgress := none, forceStopAvailable := false }) hclear reason)

/-- The gate stops an automatic restart at most. -/
theorem Backed.afterGate (h : Backed s) (me : Me) (run : LaunchRun)
    (runConfig : RunConfig) (gateEligible : Bool)
    (hend : (gateEligible && run.isAutomaticRestart) = true
      → Clear s.children s.coroutines) :
    Safe (afterGate me run runConfig gateEligible s) := by
  unfold Service.afterGate
  cases gateEligible with
  | false => exact .inr (h.of_marks (marks_proceed me run runConfig s))
  | true =>
      rw [if_pos rfl]
      by_cases hrestart : run.isAutomaticRestart = true
      · rw [if_pos hrestart]
        exact .inl ((hend hrestart).finishAfterExit 0)
      · rw [if_neg hrestart]
        exact .inr (h.of_marks rfl)

/-- Root that is refused ends the run. -/
theorem Backed.afterRoot (h : Backed s) (me : Me) (request : RunRequest)
    (state : RootAccessState) (message : String)
    (hend : state ≠ .granted → Clear s.children s.coroutines) :
    Safe (afterRoot me request state message s) := by
  cases state
  case granted => exact .inr (h.of_marks rfl)
  all_goals
    refine .inl (Clear.failRun ?_ message)
    exact hend nofun

/-- A scan that has no mode ends the pick. -/
theorem Backed.preparePickScan (h : Backed s) (me : Me)
    (session : PickSession) (userMode : List Char)
    (hend : ((TargetPickPolicy.scanModeFor userMode).isNone
        && !resumes session s) = true → Clear s.children s.coroutines) :
    Safe (preparePickScan me session userMode s) := by
  unfold Service.preparePickScan
  cases hmode : TargetPickPolicy.scanModeFor userMode with
  | none =>
      refine h.failPickSession _ session ?_
      intro hends
      exact hend (by simpa [hmode] using hends)
  | some scanMode => exact .inr (h.of_marks rfl)

/-- The rest of a coroutine, while the marker is up. -/
theorem Backed.resume {t : Service} (h : Backed s) (me : Me) (point : Point)
    (reply : Reply)
    (hend : s.replyEnds point reply = true → Clear s.children s.coroutines)
    (hresume : resume me point reply s = some t) : Safe t := by
  cases resumed hresume
  case same => exact .inr h
  case newLogSession runSpec =>
    exact .inr (h.of_marks (marks_launchRunJob ..))
  case readAll run config => exact .inr (h.of_marks rfl)
  case prepare run hlaunches => exact .inr (h.of_marks (marks_prepare me run s))
  case loadIndex run runConfig =>
    exact .inr (h.of_marks (marks_loadIndex me run runConfig s))
  case unprepared run error message => exact h.launchFailed message hend
  case afterIndex run runConfig =>
    exact .inr (h.of_marks (marks_afterIndex me run runConfig s))
  case afterGate run runConfig pin => exact h.afterGate me run runConfig _ hend
  case ungated run runConfig =>
    exact .inr (h.of_marks (marks_proceed me run runConfig s))
  case granted request message => exact .inr (h.of_marks rfl)
  case refused request state message hstate =>
    refine h.afterRoot me request state message fun _ => hend ?_
    simp [replyEnds, hstate]
  case afterStart request =>
    cases reply
    case cancelled => exact .inr h
    case thrown message => exact h.launchFailed _ hend
    all_goals exact .inr (h.of_marks (marks_noteRunActivity s))
  case pickReadAll session config =>
    exact h.preparePickScan me session config.mode hend
  case pickUnread session => exact .inr (h.of_marks rfl)
  case pickPrepared session scanMode runConfig => exact .inr (h.of_marks rfl)
  case pickUnprepared session scanMode error message =>
    exact h.failPickSession message session hend
  case pickDeleted session scanMode runConfig =>
    exact .inr (h.of_marks (marks_loadIndex ..))
  case restartDelay attempt wakeAt =>
    exact .inr (h.of_marks (marks_restartDelayOver s))
  case watchdogDelay wakeAt => exact .inr (h.of_marks (marks_watchdogWoke me s))
  case finished exitCode hpoint =>
    rcases hpoint with rfl | rfl
    · exact .inl ((hend rfl).finishAfterExit exitCode)
    · exact .inl ((hend rfl).finishAfterExit exitCode)
  case abandon reason session => exact h.afterAbandon reason session hend
  case restartStop result => exact h.afterRestartStop me result hend
  case restartSelect exitSignal timeoutSignal timedOut =>
    exact h.afterSelect me exitSignal timedOut hend
  case restartForceStop exitSignal result =>
    exact h.afterRestartForceStop me exitSignal result hend
  case restartExit exitSignal => exact h.relaunch hend
  case diagnosticsLog => exact .inr (h.of_marks rfl)
  case diagnostics => exact .inr (h.of_marks rfl)

end Up

-- ========================================================= nothing to mark

namespace Idle

variable {s : Service}

/-- An idle service supervises nothing. -/
theorem unsupervised (h : Idle s) : s.isSessionSupervised = false := by
  simp [isSessionSupervised, h.run]

/-- Its watchdog has nothing to watch. -/
theorem unwatched (h : Idle s) : s.isStartupWatchdogRelevant = false := by
  simp [isStartupWatchdogRelevant, h.run, h.session]

/-- Idle coroutines may wait, and be launched, where no start is ahead; the
handlers below keep a service idle. -/
theorem wait (h : Idle s) {me : Me} {point : Point}
    (hpoint : Coroutine.mayStart ⟨me, point⟩ = false) :
    Idle (wait me point s) := by
  refine ⟨⟨h.clear.children, ?_⟩, h.run, h.session⟩
  intro c hc
  rcases List.mem_append.mp hc with hc | hc
  · exact h.clear.coroutines c hc
  · rw [List.mem_singleton.mp hc]
    exact hpoint

theorem launchAt (h : Idle s) {point : Point}
    (hpoint : Coroutine.mayStart ⟨⟨s.nextJob, false⟩, point⟩ = false) :
    Idle (launchAt point s) := by
  obtain ⟨hclear, hrun, hsession⟩ := h.wait hpoint
  exact ⟨hclear, hrun, hsession⟩

/-- And end. -/
theorem complete (h : Idle s) (signal : Option Nat) :
    Idle (complete signal s) := by
  cases signal with
  | none => exact h
  | some signal => exact ⟨h.clear, h.run, h.session⟩

theorem finishAfterExit (h : Idle s) (exitCode : Int) :
    Idle (finishAfterExit exitCode s) := h.clear.finishAfterExit exitCode

theorem failRun (h : Idle s) (message : String) : Idle (failRun message s) :=
  h.clear.failRun message

theorem noteRunActivity (h : Idle s) : Idle (noteRunActivity s) := by
  have hunwatched : Service.isStartupWatchdogRelevant
      { s with lastRunEventMs := s.elapsedRealtimeMs } = false :=
    unwatched ⟨h.clear, h.run, h.session⟩
  simp only [Service.noteRunActivity, hunwatched]
  exact ⟨h.clear.cancel s.startupWatchdogJob, h.run, h.session⟩

/-- A pick of no run fails without one. -/
theorem failPickSession (h : Idle s) (message : String)
    {session : PickSession} (hresumes : resumes session s = false) :
    Idle (failPickSession message session s) := by
  have hsame : resumes session (clearPickSession s) = false := hresumes
  unfold Service.failPickSession
  dsimp only
  rw [hsame]
  exact Clear.failRun (s := clearPickSession s) h.clear message

/-- The coroutine that abandoned goes on to nothing. -/
theorem afterAbandon (h : Idle s) {me : Me} {reason : String}
    {stalledPickSession : Option PickSession}
    (hpoint : Coroutine.mayStart ⟨me, .abandon reason stalledPickSession⟩
      = false) :
    Idle (afterAbandon reason stalledPickSession s) := by
  cases stalledPickSession with
  | none =>
      simp only [Service.afterAbandon, h.unsupervised]
      exact Clear.failRun (s := { s with
        scanProgress := none, forceStopAvailable := false }) h.clear reason
  | some session =>
      refine h.failPickSession reason ?_
      have hnone : (session.origin = .midRun
          && session.resumeRunSpec.isSome) = false := hpoint
      rw [resumes, hnone]
      rfl

theorem requestAutomaticRestart (h : Idle s) :
    Idle (requestAutomaticRestart s) := by
  rw [Service.requestAutomaticRestart, if_pos (by simp [h.run])]
  exact h

theorem restartDelayOver (h : Idle s) : Idle (restartDelayOver s) := by
  rw [Service.restartDelayOver, if_pos (by simp [h.unsupervised])]
  exact h

theorem watchdogWoke (h : Idle s) (me : Me) : Idle (watchdogWoke me s) := by
  rw [Service.watchdogWoke, if_pos (by simp [h.unwatched])]
  exact ⟨h.clear, h.run, h.session⟩

theorem relaunch (h : Idle s) : Idle (relaunch s) := by
  unfold Service.relaunch
  split
  · exact h
  · have hrun : (clearRestart s).activeRunSpec = none := h.run
    dsimp only
    rw [hrun]
    exact Clear.failRun (s := clearRestart s) h.clear _

theorem afterSelect (h : Idle s) (me : Me) (exitSignal : Nat)
    (timedOut : Bool) : Idle (afterSelect me exitSignal timedOut s) := by
  unfold Service.afterSelect
  split
  · exact h.wait rfl
  · exact h.relaunch

theorem signalExited (h : Idle s) (result : RunnerStopResult) :
    Idle (signalExited result s) := by
  cases result
  case alreadyExited => exact h.complete _
  all_goals exact h

theorem afterRestartStop (h : Idle s) (me : Me) (result : RunnerStopResult) :
    Idle (afterRestartStop me result s) := by
  have hsignalled := h.signalExited result
  unfold Service.afterRestartStop
  generalize Service.signalExited result s = t at hsignalled
  dsimp only
  split
  · split
    · exact hsignalled.afterSelect me _ _
    · split
      · exact hsignalled.afterSelect me _ _
      · exact hsignalled.wait rfl
  · exact hsignalled

theorem afterRestartForceStop (h : Idle s) (me : Me) (exitSignal : Nat)
    (result : RunnerStopResult) :
    Idle (afterRestartForceStop me exitSignal result s) := by
  have hsignalled := h.signalExited result
  unfold Service.afterRestartForceStop
  generalize Service.signalExited result s = t at hsignalled
  dsimp only
  split
  · exact hsignalled.relaunch
  · exact hsignalled.wait rfl

theorem handleFailure (h : Idle s) (message : String)
    {rest : Service → Service} (hrest : ∀ t, Idle t → Idle (rest t)) :
    Idle (handleFailure message rest s) := by
  simp only [Service.handleFailure, h.session, h.unsupervised]
  split
  · exact h
  · exact hrest _ ⟨h.clear.cancel s.startupWatchdogJob, h.run, h.session⟩

theorem handleRunExit (h : Idle s) (exitCode : Int) :
    Idle (handleRunExit exitCode s) := by
  simp only [Service.handleRunExit, h.unsupervised]
  split
  · have hcompleted := h.complete s.restartExitSignal
    split
    · exact hcompleted.finishAfterExit exitCode
    · exact hcompleted
  · exact h.finishAfterExit exitCode

theorem resolvePickSession (h : Idle s) (startAfterPick : Bool) :
    Idle (resolvePickSession startAfterPick s) := by
  rw [Service.resolvePickSession, h.session]
  exact h

theorem handleExited (h : Idle s) (exitCode : Int) :
    Idle (handleExited exitCode s) := by
  have hcancelled : Idle (cancelStartupWatchdog s) :=
    ⟨h.clear.cancel s.startupWatchdogJob, h.run, h.session⟩
  unfold Service.handleExited
  generalize cancelStartupWatchdog s = t at hcancelled
  simp only [hcancelled.session]
  split
  · split
    · exact hcancelled.finishAfterExit exitCode
    · exact hcancelled.resolvePickSession false
  · split
    · exact ⟨hcancelled.clear, hcancelled.run, rfl⟩
    · split
      · exact Clear.finishAfterExit (s := clearPickSession t)
          hcancelled.clear exitCode
      · exact hcancelled.handleRunExit exitCode

theorem handleStopTimedOut (h : Idle s) : Idle (handleStopTimedOut s) := by
  have hsignalled : Idle (signalTimedOut s) := by
    unfold signalTimedOut
    split
    · exact h.complete _
    · exact h
  unfold Service.handleStopTimedOut
  dsimp only
  split
  · exact ⟨hsignalled.clear, hsignalled.run, hsignalled.session⟩
  · exact ⟨hsignalled.clear, hsignalled.run, hsignalled.session⟩

/-- Events of a runner that is gone. -/
theorem handleRunnerEvent (h : Idle s) (event : ZeroDpiRunnerEvent) :
    Idle (handleRunnerEvent event s) := by
  have hnoted := h.noteRunActivity
  unfold Service.handleRunnerEvent
  generalize Service.noteRunActivity s = t at hnoted
  cases event
  case fatalError message =>
    refine hnoted.handleFailure message ?_
    intro u hu
    exact ⟨hu.clear, hu.run, hu.session⟩
  case failed message =>
    refine hnoted.handleFailure message ?_
    intro u hu
    exact hu.failRun message
  case exited exitCode => exact hnoted.handleExited exitCode
  case stopTimedOut => exact hnoted.handleStopTimedOut
  case listenerStarted mode listenAddress =>
    exact ⟨hnoted.clear.cancel t.startupWatchdogJob, hnoted.run,
      hnoted.session⟩
  all_goals
    dsimp only
    first
      | exact hnoted
      | exact ⟨hnoted.clear, hnoted.run, hnoted.session⟩
      | (split <;> first
          | exact hnoted
          | exact ⟨hnoted.clear, hnoted.run, hnoted.session⟩)

/-- The rest of a coroutine that launches nothing. -/
theorem resume {t : Service} (h : Idle s) {me : Me} {point : Point}
    {reply : Reply} (hpoint : Coroutine.mayStart ⟨me, point⟩ = false)
    (hanswers : answers ⟨me, point⟩ reply = true)
    (hresume : resume me point reply s = some t) : Idle t := by
  by_cases hlaunches : point.launches = true
  · have hended : me.cancelled = true ∧ point.swallows = false := by
      cases point <;>
        simp_all [Coroutine.mayStart, Point.launches, Point.swallows]
    rw [resume_of_cancelled hlaunches hended.2 hended.1 hanswers hresume]
    exact h
  · cases resumed hresume
    case same => exact h
    case afterStart request => cases hpoint
    case restartDelay attempt wakeAt => exact h.restartDelayOver
    case watchdogDelay wakeAt => exact h.watchdogWoke me
    case finished exitCode hstop => exact h.finishAfterExit exitCode
    case abandon reason session => exact h.afterAbandon hpoint
    case restartStop result => exact h.afterRestartStop me result
    case restartSelect exitSignal timeoutSignal timedOut =>
      exact h.afterSelect me exitSignal timedOut
    case restartForceStop exitSignal result =>
      exact h.afterRestartForceStop me exitSignal result
    case restartExit exitSignal => exact h.relaunch
    case diagnosticsLog => exact h.wait rfl
    case diagnostics => exact ⟨h.clear, h.run, h.session⟩
    case prepare run hprepares => exact absurd hprepares hlaunches
    all_goals exact absurd rfl hlaunches

/-- A stop of nothing. -/
theorem requestStop (h : Idle s) : Idle (requestStop s) := by
  have hclear := ((h.clear.cancel s.errorRestartJob).cancel
    s.startupWatchdogJob).cancel s.launchJob
  have hkept : (Service.requestStop s).children = s.children
      ∧ (Service.requestStop s).activeRunSpec = s.activeRunSpec
      ∧ (Service.requestStop s).pickSession = none := by
    simp [Service.requestStop, markRuntimeActive, clearPickSession,
      cancelStartupWatchdog, cancelErrorRestart, Service.cancel]
  obtain ⟨hchildren, hrun, hsession⟩ := hkept
  refine ⟨⟨hchildren.trans h.clear.children, ?_⟩, hrun.trans h.run, hsession⟩
  rw [coroutines_requestStop]
  intro c hc
  obtain ⟨d, hd, rfl⟩ := List.mem_map.mp hc
  refine hclear.coroutines _ ?_
  exact List.mem_map_of_mem (List.mem_map_of_mem (List.mem_map_of_mem hd))

/-- A pick without a run. -/
theorem requestTargetPick (h : Idle s) (profileId : String)
    (hrun : s.opensStandalone (.requestTargetPick profileId) = false) :
    Idle (requestTargetPick profileId s) := by
  simp only [opensStandalone, h.session, Option.isNone_none,
    Bool.true_and] at hrun
  unfold Service.requestTargetPick
  split
  · exact h
  · rename_i hfree
    have hrestart : s.restartStopInProgress = false := by
      simpa [h.session] using hfree
    split
    · have hnone : (cancelErrorRestart s).activeRunSpec = none := h.run
      dsimp only
      rw [hnone]
      exact ⟨h.clear.cancel s.errorRestartJob, h.run, h.session⟩
    · rw [hrestart] at hrun
      rw [if_neg (by simpa using hrun)]
      exact h

end Idle

-- ================================================================ one step

/-- A stop is asked for; the marker stands until it is done. -/
theorem Backed.requestStop {s : Service} (h : Backed s) :
    Backed (requestStop s) := by
  have hforeground : (Service.requestStop s).foreground = s.foreground := by
    simp [Service.requestStop, markRuntimeActive, clearPickSession,
      cancelStartupWatchdog, cancelErrorRestart, cancel]
  exact ⟨rfl, rfl, hforeground.trans h.foreground⟩

/-- In any state. -/
theorem Safe.requestStop {s : Service} (h : Safe s) : Safe (requestStop s) := by
  rcases h with hidle | hbacked
  · exact .inl hidle.requestStop
  · exact .inr hbacked.requestStop

/-- A coroutine that launches nothing is added. -/
theorem Safe.launchAt {s : Service} (h : Safe s) {point : Point}
    (hpoint : Coroutine.mayStart ⟨⟨s.nextJob, false⟩, point⟩ = false) :
    Safe (launchAt point s) := by
  rcases h with hidle | hbacked
  · exact .inl (hidle.launchAt hpoint)
  · exact .inr (hbacked.of_marks rfl)

/-- A pick on top of a run. -/
theorem Backed.requestTargetPick {s : Service} (h : Backed s)
    (profileId : String) : Backed (requestTargetPick profileId s) := by
  unfold Service.requestTargetPick
  split
  · exact h
  · split
    · dsimp only
      split
      · exact h.of_marks rfl
      · exact h.of_marks rfl
    · split
      · exact ⟨h.active, h.expected, rfl⟩
      · exact h

/-- Its result, applied. -/
theorem Safe.applyTargetPick {s : Service} (h : Safe s)
    (hend : s.endsRun .applyTargetPick = true
      → Clear s.children s.coroutines) : Safe (applyTargetPick s) := by
  unfold Service.applyTargetPick
  split
  · rename_i hstage
    rcases h with hidle | hbacked
    · exact .inl (hidle.resolvePickSession true)
    · refine hbacked.resolvePickSession true ?_
      intro hends
      exact hend (by simp [endsRun, hstage, hends])
  · exact h

/-- Or dropped. -/
theorem Safe.cancelTargetPick {s : Service} (h : Safe s)
    (hend : s.endsRun .cancelTargetPick = true
      → Clear s.children s.coroutines) : Safe (cancelTargetPick s) := by
  unfold Service.cancelTargetPick
  split
  · rename_i hstage
    rcases h with hidle | hbacked
    · exact .inl (hidle.resolvePickSession false)
    · refine hbacked.resolvePickSession false ?_
      intro hends
      exact hend (by simp [endsRun, hstage, hends])
  · have hcancelled : Safe { s with pickCancelRequested := true } := by
      rcases h with hidle | hbacked
      · exact .inl ⟨hidle.clear, hidle.run, hidle.session⟩
      · exact .inr (hbacked.of_marks rfl)
    exact hcancelled.launchAt rfl
  · exact h
  · exact h

/-- A coroutine that launches something is one the marker is up for. -/
theorem Safe.backed_of_mem {s : Service} (h : Safe s) {c : Coroutine}
    (hc : c ∈ s.coroutines) (hstart : c.mayStart = true) : Backed s := by
  rcases h with hidle | hbacked
  · rw [hidle.clear.coroutines c hc] at hstart
    cases hstart
  · exact hbacked

/-- Every coroutine that goes on, by its point. -/
theorem Safe.resume {s t : Service} (h : Safe s) {i : Nat} {reply : Reply}
    (hend : s.endsRun (.resume i reply) = true
      → Clear s.children (s.others (.resume i reply)))
    (hstep : s.step (.resume i reply) = some t) : Safe t := by
  simp only [step] at hstep
  split at hstep
  case h_2 => cases hstep
  case h_1 c hc =>
    split at hstep
    case isFalse => cases hstep
    case isTrue hanswers =>
      have hmem := List.mem_of_getElem? hc
      have hend : (without i s).replyEnds c.point reply = true →
          Clear (without i s).children (without i s).coroutines := by
        intro hends
        refine hend ?_
        simp only [endsRun, hc]
        exact hends
      rcases h with hidle | hbacked
      · have hrest : Idle (without i s) :=
          ⟨⟨hidle.clear.children, fun d hd =>
            hidle.clear.coroutines d (List.mem_of_mem_eraseIdx hd)⟩,
            hidle.run, hidle.session⟩
        exact .inl (hrest.resume (hidle.clear.coroutines c hmem) hanswers
          hstep)
      · have hrest : Backed (without i s) := hbacked.of_marks rfl
        exact hrest.resume c.toMe c.point reply hend hstep

/-- Every step that meets the condition keeps the invariant. -/
theorem Safe.step {s t : Service} {l : ServiceLabel} (h : Safe s)
    (hl : Marked s l) (hstep : s.step l = some t) : Safe t := by
  obtain ⟨hsession, hend⟩ := hl
  cases l with
  | startZeroDpi profileId modeOverride =>
      cases hstep
      exact h.startZeroDpi profileId modeOverride
  | stopZeroDpi =>
      cases hstep
      have hstopped := h.requestStop
      unfold stopZeroDpi
      generalize Service.requestStop s = u at hstopped
      dsimp only
      split
      · exact hstopped
      · exact hstopped.launchAt rfl
  | forceStopZeroDpi =>
      cases hstep
      exact h.requestStop.launchAt rfl
  | requestTargetPick profileId =>
      cases hstep
      rcases h with hidle | hbacked
      · exact .inl (hidle.requestTargetPick profileId hsession)
      · exact .inr (hbacked.requestTargetPick profileId)
  | applyTargetPick => cases hstep; exact h.applyTargetPick hend
  | cancelTargetPick => cases hstep; exact h.cancelTargetPick hend
  | requestAutomaticRestart =>
      cases hstep
      rcases h with hidle | hbacked
      · exact .inl hidle.requestAutomaticRestart
      · exact .inr (hbacked.of_marks (marks_requestAutomaticRestart s))
  | runRootDiagnostics => cases hstep; exact h.launchAt rfl
  | event event =>
      cases hstep
      rcases h with hidle | hbacked
      · exact .inl (hidle.handleRunnerEvent event)
      · exact hbacked.handleRunnerEvent event hend
  | resume i reply => exact h.resume hend hstep
  | launched i =>
      simp only [Service.step] at hstep
      split at hstep
      · rename_i me request hc
        cases hstep
        have hbacked := h.backed_of_mem (List.mem_of_getElem? hc) rfl
        exact .inr (hbacked.of_marks rfl)
      · cases hstep
  | died i =>
      cases hstep
      rcases h with hidle | hbacked
      · refine .inl ⟨⟨?_, hidle.clear.coroutines⟩, hidle.run,
          hidle.session⟩
        rw [hidle.clear.children]
        rfl
      · exact .inr (hbacked.of_marks rfl)
  | clock elapsedMs epochMs =>
      cases hstep
      rcases h with hidle | hbacked
      · exact .inl ⟨hidle.clear, hidle.run, hidle.session⟩
      · exact .inr (hbacked.of_marks rfl)

/-- A process of the service may be running: it is, or a call of
`runner.start` may have launched it. -/
def MayRun (s : Service) : Prop :=
  s.children ≠ []
    ∨ ∃ c ∈ s.coroutines, ∃ request, c.point = .runnerStart request

/-- A service that may run is backed. -/
theorem Safe.backed_of_mayRun {s : Service} (h : Safe s) (hrun : s.MayRun) :
    Backed s := by
  rcases hrun with hchildren | ⟨c, hc, request, hpoint⟩
  · rcases h with hidle | hbacked
    · exact absurd hidle.clear.children hchildren
    · exact hbacked
  · refine h.backed_of_mem hc ?_
    rw [Coroutine.mayStart, hpoint]

/-- A new service is idle, whatever the marker says. -/
theorem safe_onCreate (marker : RuntimeMarker) (epochMs : Int) :
    Safe (onCreate marker epochMs) := by
  refine .inl ?_
  unfold onCreate
  dsimp only
  split
  · exact ⟨⟨rfl, nofun⟩, rfl, rfl⟩
  · exact ⟨⟨rfl, nofun⟩, rfl, rfl⟩

end Service

end ZeroDpi.Android
