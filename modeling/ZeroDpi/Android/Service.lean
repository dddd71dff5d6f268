/-
The service of the app (service/ZeroDpiService.kt), with the marker that it
keeps for others (service/ZeroDpiRuntimeStateStore.kt) and the two policies
of its timers.

# Coroutines

Everything runs on the main thread, so that a coroutine runs without
interruption from one suspension to the next and a launched coroutine runs
at once up to its first. A suspended coroutine is the point where it
stands, with the values that the rest of it uses; a function of the source
that suspends is one definition up to its first suspension and one for each
part behind another.

A cancelled coroutine gets a `CancellationException` at the point where it
stands and at every later one. Where the source catches it
(`runCatching` without a rethrow) the coroutine goes on; elsewhere it ends.

# Left out

The log, and the fields of the state that are only shown. The text of a
configuration stands as what `ZeroDpiConfigToml.analyze` makes of it. An
exception that nothing catches ends the process of the app, and with it
the run. The model is one service, from `onCreate` to `onDestroy`.
-/
import ZeroDpi.Android.ProcessRunner

namespace ZeroDpi.Android

open ProcessRunner (RunnerStopResult)

/-- `RuntimeStatus`. -/
inductive RuntimeStatus where
  | stopped | starting | scanning | running | restarting | choosing | stopping
  | failed
  deriving DecidableEq

/-- `RootStatus`. -/
inductive RootStatus where
  | notNeeded | needed | granted | denied | unsupported
  deriving DecidableEq

/-- What asking for root gives. -/
inductive RootAccessState where
  | granted | denied | unsupported
  deriving DecidableEq

/-- Where a target pick was asked for. -/
inductive PickOrigin where
  | startGate | midRun | standalone
  deriving DecidableEq

/-- How far it is. -/
inductive PickStage where
  | stoppingForRescan | scanning | choosing
  deriving DecidableEq

/-- What the user asked to run. -/
structure ActiveRunSpec where
  profileId : String
  modeOverride : Option (List Char)
  deriving DecidableEq

/-- A target pick, and the run it goes back to. -/
structure PickSession where
  profileId : String
  origin : PickOrigin
  resumeRunSpec : Option ActiveRunSpec
  deriving DecidableEq

-- ============================================================ the policies

/-- What a mode pins. -/
inductive PinKind where
  | sni | ip
  deriving DecidableEq

/-- What `ZeroDpiConfigToml.analyze` reads in a configuration. -/
structure EditorState where
  mode : List Char
  autoSelect : List Char
  selectedSni : List Char
  selectedIp : List Char
  requiresRoot : Bool
  deriving DecidableEq

/-- A `RuntimeRunConfig`. -/
structure RunConfig where
  config : EditorState
  modeOverride : Option (List Char)
  deriving DecidableEq

namespace TargetPickPolicy

/-- The modes that pin a target. -/
def sniSpoof : List Char := "sni_spoof".toList

/-- Likewise. -/
def ipBypass : List Char := "ip_bypass".toList

/-- Likewise. -/
def ipBypassPlus : List Char := "ip_bypass_plus".toList

/-- `TargetPickPolicy.scanModeFor`. -/
def scanModeFor (mode : List Char) : Option (List Char) :=
  if mode = sniSpoof then some "sni_scan".toList
  else if mode = ipBypass ∨ mode = ipBypassPlus then some "ip_scan".toList
  else none

/-- What the mode needs to be selected. -/
def pinKindForMode (mode : List Char) : Option PinKind :=
  if mode = sniSpoof then some .sni
  else if mode = ipBypass ∨ mode = ipBypassPlus then some .ip
  else none

/-- A manual selection that is still open. -/
def isGateEligible (config : EditorState) (pin : Option PinKind) : Bool :=
  match pinKindForMode config.mode with
  | none => false
  | some expectedKind =>
      let manualSelected :=
        match expectedKind with
        | .sni => config.selectedSni
        | .ip => config.selectedIp
      decide (config.autoSelect ≠ "true".toList)
        && manualSelected.all Lib.Kotlin.isWhitespace
        && decide (pin ≠ some expectedKind)

end TargetPickPolicy

/-- `LaunchTargetPolicy.consumesPin`, of a run without a mode override. -/
def consumesPin (config : EditorState) : Bool :=
  decide (config.autoSelect ≠ "true".toList)

namespace RunStartupWatchdogPolicy

/-- How long a start may be silent. -/
def silenceTimeoutMs (scanActive : Bool) : Nat :=
  if scanActive then 120000 else 240000

/-- The time that is left of it, never zero. -/
def waitMs (nowMs lastEventMs : Nat) (scanActive : Bool) : Nat :=
  max 1 (silenceTimeoutMs scanActive - (nowMs - lastEventMs))

/-- What is said about a start that is stalled. -/
def stallMessage (nowMs lastEventMs : Nat) (scan : Option String) :
    Option String :=
  let elapsedMs := nowMs - lastEventMs
  if elapsedMs < silenceTimeoutMs scan.isSome then none
  else
    let phase :=
      match scan with
      | some name =>
          if name.toList.all Lib.Kotlin.isWhitespace then "The target scan"
          else s!"The {name} scan"
      | none => "The ZeroDPI startup"
    some s!"{phase} made no progress for {elapsedMs / 1000}s."

end RunStartupWatchdogPolicy

namespace AutoRestartPolicy

/-- `MAX_DELAY_MS`. -/
def maxDelayMs : Nat := 60000

/-- The delay after a number of doublings. -/
def doubled : Nat → Nat
  | 0 => 1000
  | n + 1 => min (doubled n * 2) maxDelayMs

/-- Doubled for each attempt, up to the maximum. -/
def delayMsForAttempt (attempt : Nat) : Nat := doubled (max attempt 1 - 1)

end AutoRestartPolicy

-- ============================================================== the marker

/-- The marker in the preferences. -/
structure RuntimeMarker where
  active : Bool := false
  foregroundServiceExpected : Bool := false
  profileId : Option String := none
  updatedAtEpochMs : Int := 0
  deriving DecidableEq

namespace RuntimeMarker

/-- `STALE_TIMEOUT_MS`. -/
def staleTimeoutMs : Int := 30 * 60 * 1000

/-- A marker that nobody has renewed. -/
def isStale (m : RuntimeMarker) (nowEpochMs : Int) : Bool :=
  m.active && decide (staleTimeoutMs < nowEpochMs - m.updatedAtEpochMs)

/-- `write`: without a profile the old one stays, unless the marker goes. -/
def write (m : RuntimeMarker) (active : Bool) (profileId : Option String)
    (nowEpochMs : Int) : RuntimeMarker where
  active := active
  foregroundServiceExpected := active
  profileId :=
    match profileId with
    | some id => some id
    | none => if active then m.profileId else none
  updatedAtEpochMs := nowEpochMs

/-- `isRuntimeActive`, and the marker that it leaves. -/
def isRuntimeActive (m : RuntimeMarker) (foreground : Bool)
    (nowEpochMs : Int) : Bool × RuntimeMarker :=
  if !m.active then (false, m)
  else if !m.isStale nowEpochMs then (true, m)
  else if m.foregroundServiceExpected && foreground then (true, m)
  else (false, m.write false none nowEpochMs)

end RuntimeMarker

-- =============================================================== the state

/-- The parameters of `launchRun`, but for its `preparedConfigOverride`. -/
structure LaunchRun where
  runSpec : ActiveRunSpec
  isAutomaticRestart : Bool
  deriving DecidableEq

/-- A `ZeroDpiRunRequest`, with the profile that it is for. -/
structure RunRequest where
  profileId : String
  useRoot : Bool
  mode : List Char
  deriving DecidableEq

/-- Where a coroutine is suspended. -/
inductive Point where
  /-- `startZeroDpi`, in `startNewLogSession`. -/
  | newLogSession (runSpec : ActiveRunSpec)
  -- `launchRun`
  | readAll (run : LaunchRun)
  | readPin (run : LaunchRun)
  | prepareRunConfig (run : LaunchRun)
  | loadIndex (run : LaunchRun) (runConfig : RunConfig)
  | readGatePin (run : LaunchRun) (runConfig : RunConfig)
  | requestRoot (request : RunRequest)
  | runnerStart (request : RunRequest)
  -- `launchPickScan`
  | pickReadAll (session : PickSession)
  | pickPrepare (session : PickSession) (scanMode : List Char)
  | pickDelete (session : PickSession) (scanMode : List Char)
      (runConfig : RunConfig)
  -- the timers
  | restartDelay (attempt wakeAt : Nat)
  | watchdogDelay (wakeAt : Nat)
  -- the calls of the runner
  | stop
  | forceStop
  | stopForPick
  | abandon (reason : String) (stalledPickSession : Option PickSession)
  -- `performAutomaticRestartShutdown`
  | restartStop
  | restartSelect (exitSignal timeoutSignal : Nat)
  | restartForceStop (exitSignal : Nat)
  | restartExit (exitSignal : Nat)
  -- `runRootDiagnostics`
  | diagnosticsLog
  | diagnostics
  deriving DecidableEq

/-- How a suspension ends. -/
inductive Reply where
  | cancelled
  | thrown (message : Option String)
  /-- With a result that nothing reads. -/
  | done
  | contents (config : EditorState)
  | pin (pin : Option PinKind)
  | prepared (runConfig : RunConfig)
  | root (state : RootAccessState) (message : String)
  | stopped (result : RunnerStopResult)
  | signalled (timedOut : Bool)
  deriving DecidableEq

/-- A coroutine: its job, and whether that was cancelled. -/
structure Me where
  job : Nat
  cancelled : Bool
  deriving DecidableEq

/-- A coroutine at a suspension. -/
structure Coroutine extends Me where
  point : Point
  deriving DecidableEq

/-- The coroutine when the job was cancelled. -/
def Coroutine.cancelledBy (job : Option Nat) (c : Coroutine) : Coroutine :=
  { c with cancelled := c.cancelled || job == some c.job }

/-- The service: what it shows, its fields, its coroutines and its clocks.
-/
structure Service where
  -- of `ZeroDpiServiceState`
  status : RuntimeStatus := .stopped
  rootStatus : RootStatus := .needed
  scanProgress : Option String := none
  lastError : Option String := none
  lastExitCode : Option Int := none
  forceStopAvailable : Bool := false
  -- the fields of the service
  activeRunSpec : Option ActiveRunSpec := none
  launchJob : Option Nat := none
  restartStopInProgress : Bool := false
  automaticForceStopRequested : Bool := false
  userStopRequested : Bool := false
  restartExitSignal : Option Nat := none
  restartStopTimeoutSignal : Option Nat := none
  pickSession : Option PickSession := none
  pickStage : Option PickStage := none
  pickScanMode : Option (List Char) := none
  pickCancelRequested : Bool := false
  startupWatchdogJob : Option Nat := none
  lastRunEventMs : Nat := 0
  superviseSession : Bool := false
  errorRestartJob : Option Nat := none
  errorRestartAttempt : Nat := 0
  -- `grantedForSession` of the root manager
  rootGranted : Bool := false
  coroutines : List Coroutine := []
  nextJob : Nat := 0
  /-- The deferreds that were completed. -/
  completed : List Nat := []
  nextSignal : Nat := 0
  elapsedRealtimeMs : Nat := 0
  epochMs : Int := 0
  marker : RuntimeMarker := {}
  foreground : Bool := false
  /-- The profiles of the processes that run. -/
  children : List String := []
  /-- The calls of `runner.start` so far. -/
  starts : List RunRequest := []
  deriving DecidableEq

/-- With these a start is refused. -/
def activeStatuses : List RuntimeStatus :=
  [.starting, .scanning, .running, .restarting, .choosing, .stopping]

/-- With these a run is restarted. -/
def networkRestartableStatuses : List RuntimeStatus :=
  [.starting, .scanning, .running, .restarting]

namespace Service

/-- The coroutine waits. -/
def wait (me : Me) (point : Point) (s : Service) : Service :=
  { s with coroutines := s.coroutines ++ [⟨me, point⟩] }

/-- `scope.launch`, of a coroutine that suspends at once. -/
def launchAt (point : Point) (s : Service) : Service :=
  { wait ⟨s.nextJob, false⟩ point s with nextJob := s.nextJob + 1 }

/-- `job?.cancel()`. -/
def cancel (job : Option Nat) (s : Service) : Service :=
  { s with coroutines := s.coroutines.map (Coroutine.cancelledBy job) }

/-- `Deferred.complete`. -/
def complete (signal : Option Nat) (s : Service) : Service :=
  match signal with
  | some signal => { s with completed := signal :: s.completed }
  | none => s

/-- `startForeground`. -/
def ensureForeground (s : Service) : Service := { s with foreground := true }

/-- The marker of a run. -/
def markRuntimeActive (profileId : Option String) (s : Service) : Service :=
  { s with marker := s.marker.write true profileId s.epochMs }

/-- The marker of none. -/
def markRuntimeInactive (s : Service) : Service :=
  { s with marker := s.marker.write false none s.epochMs }

/-- `onCreate`, with the marker that it finds. -/
def onCreate (marker : RuntimeMarker) (epochMs : Int) : Service :=
  let (active, marker) := marker.isRuntimeActive false epochMs
  let s : Service := { marker := marker, epochMs := epochMs }
  if active then s else markRuntimeInactive s

-- ==================================================== the end of a session

/-- All fields of a pick. -/
def clearPickSession (s : Service) : Service :=
  { s with
    pickSession := none
    pickStage := none
    pickScanMode := none
    pickCancelRequested := false }

/-- The watchdog's job. -/
def cancelStartupWatchdog (s : Service) : Service :=
  { cancel s.startupWatchdogJob s with startupWatchdogJob := none }

/-- The delayed restart's job. -/
def cancelErrorRestart (s : Service) : Service :=
  { cancel s.errorRestartJob s with errorRestartJob := none }

/-- The fields of an automatic restart, as `finishAfterExit` and
`finishForegroundRun` leave them. -/
def clearRestart (s : Service) : Service :=
  { s with
    restartStopInProgress := false
    automaticForceStopRequested := false
    restartExitSignal := none
    restartStopTimeoutSignal := none }

/-- The last thing a run does. -/
def finishForegroundRun (s : Service) : Service :=
  let s := cancelStartupWatchdog (clearPickSession s)
  let s := cancelErrorRestart { s with superviseSession := false }
  let s := clearRestart { s with
    errorRestartAttempt := 0
    launchJob := none
    activeRunSpec := none }
  { markRuntimeInactive s with foreground := false }

/-- The end with an exit code. -/
def finishAfterExit (exitCode : Int) (s : Service) : Service :=
  let s := clearRestart (cancelStartupWatchdog (clearPickSession s))
  finishForegroundRun { s with
    status := if exitCode = 0 then .stopped else .failed
    lastExitCode := some exitCode
    forceStopAvailable := false
    lastError :=
      if exitCode = 0 then none
      else some s!"ZeroDPI exited with code {exitCode}." }

/-- The end of a run with an error, as the failure paths write it. -/
def failRun (message : String) (s : Service) : Service :=
  finishForegroundRun { s with
    status := .failed
    lastError := some message }

/-- A run that never starts. -/
def failBeforeLaunch (rootStatus : RootStatus) (message : String)
    (s : Service) : Service :=
  failRun message { s with
    rootStatus := rootStatus
    forceStopAvailable := false }

-- ============================================================= supervision

/-- A session that is restarted on errors. -/
def isSessionSupervised (s : Service) : Bool :=
  s.superviseSession && s.activeRunSpec.isSome && s.pickSession.isNone
    && s.pickStage.isNone && !s.userStopRequested

/-- A restart after a delay that grows. -/
def scheduleErrorRestart (reason : String) (exitCode : Option Int)
    (s : Service) : Service :=
  let s := cancelStartupWatchdog (cancelErrorRestart s)
  let attempt := s.errorRestartAttempt + 1
  let s := { s with
    errorRestartAttempt := attempt
    status := .restarting
    scanProgress := none
    lastError := some reason
    lastExitCode := exitCode
    forceStopAvailable := false }
  { launchAt (.restartDelay attempt (s.elapsedRealtimeMs
      + AutoRestartPolicy.delayMsForAttempt attempt)) s with
    errorRestartJob := some s.nextJob }

/-- What `launchRun` does about a run that could not be started. -/
def launchFailed (message : String) (s : Service) : Service :=
  if s.isSessionSupervised then scheduleErrorRestart message none s
  else failRun message s

/-- The watchdog is for starts only. -/
def isStartupWatchdogRelevant (s : Service) : Bool :=
  !s.userStopRequested && !(s.activeRunSpec.isNone && s.pickSession.isNone)
    && (s.status = .starting || s.status = .scanning)

/-- The wait of the watchdog. -/
def watchdogWakeAt (s : Service) : Nat :=
  s.elapsedRealtimeMs + RunStartupWatchdogPolicy.waitMs s.elapsedRealtimeMs
    s.lastRunEventMs s.scanProgress.isSome

/-- Any event feeds the watchdog, or ends it. -/
def noteRunActivity (s : Service) : Service :=
  let s := { s with lastRunEventMs := s.elapsedRealtimeMs }
  if !s.isStartupWatchdogRelevant then cancelStartupWatchdog s
  else if s.startupWatchdogJob.isSome then s
  else
    { launchAt (.watchdogDelay s.watchdogWakeAt) s with
      startupWatchdogJob := some s.nextJob }

-- ============================================================== launchRun

/-- Behind `runner.start`. -/
def afterStart (reply : Reply) (s : Service) : Service :=
  match reply with
  | .cancelled => s
  | .thrown message => launchFailed (message.getD "Failed to launch ZeroDPI.") s
  | _ => noteRunActivity s

/-- `runner.start`. -/
def callStart (me : Me) (request : RunRequest) (s : Service) : Service :=
  wait me (.runnerStart request) { s with starts := s.starts ++ [request] }

/-- Behind `requestRootFor`. -/
def afterRoot (me : Me) (request : RunRequest) (state : RootAccessState)
    (message : String) (s : Service) : Service :=
  match state with
  | .granted => callStart me request { s with rootStatus := .granted }
  | .denied => failBeforeLaunch .denied message s
  | .unsupported => failBeforeLaunch .unsupported message s

/-- `requestRootFor`: a grant of this session is answered at once. -/
def requestRoot (me : Me) (request : RunRequest) (s : Service) : Service :=
  if s.rootGranted then
    afterRoot me request .granted "Root already granted" s
  else if me.cancelled then s
  else wait me (.requestRoot request) s

/-- Behind the gate: the rest of `launchRun`. -/
def proceed (me : Me) (run : LaunchRun) (runConfig : RunConfig)
    (s : Service) : Service :=
  let rootRequired := runConfig.config.requiresRoot
  let mode :=
    runConfig.modeOverride.getD
      (if runConfig.config.mode.all Lib.Kotlin.isWhitespace
        then "unknown".toList else runConfig.config.mode)
  let request : RunRequest := ⟨run.runSpec.profileId, rootRequired, mode⟩
  let s := { s with
    status := .starting
    rootStatus := if rootRequired then .needed else .notNeeded
    scanProgress := none
    lastError := none
    lastExitCode := none
    forceStopAvailable := false }
  if rootRequired then requestRoot me request s else callStart me request s

/-- The coroutine of `launchPickScan`, up to its first suspension. -/
def launchPickScan (session : PickSession) (s : Service) : Service :=
  launchAt (.pickReadAll session) s

/-- Behind the gate's `pinStore.read`. -/
def afterGate (me : Me) (run : LaunchRun) (runConfig : RunConfig)
    (gateEligible : Bool) (s : Service) : Service :=
  if gateEligible then
    if run.isAutomaticRestart then finishAfterExit 0 s
    else
      let session : PickSession := ⟨run.runSpec.profileId, .startGate, none⟩
      launchPickScan session { s with pickSession := some session }
  else proceed me run runConfig s

/-- Behind `loadIndex`: the gate. -/
def afterIndex (me : Me) (run : LaunchRun) (runConfig : RunConfig)
    (s : Service) : Service :=
  if run.runSpec.modeOverride.isNone && s.pickSession.isNone
      && !s.userStopRequested then
    -- a `runCatching` with a default
    if me.cancelled then afterGate me run runConfig false s
    else wait me (.readGatePin run runConfig) s
  else proceed me run runConfig s

/-- A cancelled coroutine throws here, and goes on in its handler. -/
def loadIndex (me : Me) (run : LaunchRun) (runConfig : RunConfig)
    (s : Service) : Service :=
  if me.cancelled then afterIndex me run runConfig s
  else wait me (.loadIndex run runConfig) s

/-- Behind the pin: the configuration. -/
def prepare (me : Me) (run : LaunchRun) (s : Service) : Service :=
  if me.cancelled then s else wait me (.prepareRunConfig run) s

/-- `launchRun`, as far as its first wait. -/
def launchRun (me : Me) (run : LaunchRun)
    (preparedConfigOverride : Option RunConfig) (s : Service) : Service :=
  match preparedConfigOverride with
  | some runConfig => loadIndex me run runConfig s
  | none =>
      if run.runSpec.modeOverride.isNone then
        if me.cancelled then prepare me run s else wait me (.readAll run) s
      else prepare me run s

/-- A coroutine for `launchRun`, kept in `launchJob`. -/
def launchRunJob (run : LaunchRun) (s : Service) : Service :=
  { launchRun ⟨s.nextJob, false⟩ run none
      { s with nextJob := s.nextJob + 1 } with
    launchJob := some s.nextJob }

-- ========================================================== pick sessions

/-- Whether the session has a run to go back to, and may. -/
def resumes (session : PickSession) (s : Service) : Bool :=
  session.origin = .midRun && session.resumeRunSpec.isSome
    && !s.userStopRequested

/-- The run before the session. -/
def resumeRun (session : PickSession) (s : Service) : Service :=
  match session.resumeRunSpec with
  | some resume => launchRunJob ⟨resume, true⟩ s
  | none => s

/-- A pick that fails. -/
def failPickSession (message : String) (session : PickSession)
    (s : Service) : Service :=
  let s := clearPickSession s
  if resumes session s then resumeRun session s else failRun message s

/-- Behind `readAll` in `launchPickScan`. -/
def preparePickScan (me : Me) (session : PickSession) (userMode : List Char)
    (s : Service) : Service :=
  match TargetPickPolicy.scanModeFor userMode with
  | none =>
      failPickSession
        s!"MODE '{String.ofList userMode}' does not support target picking."
        session s
  | some scanMode =>
      wait me (.pickPrepare session scanMode)
        { s with pickScanMode := some scanMode }

/-- Behind `deletePickScanResults`. -/
def startPickScan (me : Me) (session : PickSession) (scanMode : List Char)
    (runConfig : RunConfig) (s : Service) : Service :=
  launchRun me ⟨⟨session.profileId, some scanMode⟩, false⟩ (some runConfig)
    { s with pickStage := some .scanning }

-- ========================================================= start and stop

/-- `startZeroDpi`. -/
def startZeroDpi (profileId : String) (modeOverride : Option (List Char))
    (s : Service) : Service :=
  let s := ensureForeground s
  if activeStatuses.contains s.status then s
  else
    let runSpec : ActiveRunSpec := ⟨profileId, modeOverride⟩
    let s := { s with
      activeRunSpec := some runSpec
      userStopRequested := false
      restartStopInProgress := false
      automaticForceStopRequested := false
      superviseSession := modeOverride.isNone }
    let s := { cancelErrorRestart s with errorRestartAttempt := 0 }
    launchAt (.newLogSession runSpec) (markRuntimeActive (some profileId) s)

/-- Behind `startNewLogSession`. -/
def startSession (runSpec : ActiveRunSpec) (s : Service) : Service :=
  launchRunJob ⟨runSpec, false⟩ { s with
    status := .starting
    scanProgress := none
    lastError := none
    lastExitCode := none
    forceStopAvailable := false }

/-- What `stopZeroDpi` and `forceStopZeroDpi` do before their coroutine. -/
def requestStop (s : Service) : Service :=
  let s := { s with userStopRequested := true, superviseSession := false }
  let s := clearPickSession (cancelStartupWatchdog (cancelErrorRestart s))
  let s := cancel s.launchJob s
  { markRuntimeActive (s.activeRunSpec.map (·.profileId)) s with
    status := .stopping
    forceStopAvailable := false }

/-- `stopZeroDpi`. A restart that is on its way stops the runner itself. -/
def stopZeroDpi (s : Service) : Service :=
  let s := requestStop s
  if s.restartStopInProgress then s else launchAt .stop s

/-- `forceStopZeroDpi`. -/
def forceStopZeroDpi (s : Service) : Service :=
  launchAt .forceStop (requestStop s)

/-- `requestTargetPick`: on top of a run, or without one. -/
def requestTargetPick (profileId : String) (s : Service) : Service :=
  if s.pickSession.isSome || s.restartStopInProgress then s
  else if networkRestartableStatuses.contains s.status then
    let s := cancelErrorRestart s
    match s.activeRunSpec with
    | none => s
    | some resume =>
        launchAt .stopForPick { s with
          pickSession := some ⟨profileId, .midRun, some resume⟩
          pickStage := some .stoppingForRescan
          status := .restarting
          scanProgress := none }
  else if s.status = .stopped || s.status = .failed then
    let session : PickSession := ⟨profileId, .standalone, none⟩
    launchPickScan session { ensureForeground s with
      pickSession := some session }
  else s

/-- A pick that is over, applied or not. -/
def resolvePickSession (startAfterPick : Bool) (s : Service) : Service :=
  match s.pickSession with
  | none => s
  | some session =>
      let s := clearPickSession s
      match session.origin with
      | .midRun =>
          if resumes session s then resumeRun session s
          else finishAfterExit 0 s
      | .startGate =>
          if startAfterPick && !s.userStopRequested then
            startZeroDpi session.profileId none { s with status := .stopped }
          else finishAfterExit 0 s
      | .standalone => finishAfterExit 0 s

/-- `applyTargetPick`. -/
def applyTargetPick (s : Service) : Service :=
  if s.pickStage = some .choosing then resolvePickSession true s else s

/-- `cancelTargetPick`. -/
def cancelTargetPick (s : Service) : Service :=
  match s.pickStage with
  | some .choosing => resolvePickSession false s
  | some .scanning =>
      launchAt .stopForPick { s with pickCancelRequested := true }
  | some .stoppingForRescan => s
  | none => s

-- ================================================= the startup watchdog

/-- The watchdog's verdict. -/
def handleRunStartupStall (reason : String) (s : Service) : Service :=
  let s := cancelStartupWatchdog s
  launchAt (.abandon reason s.pickSession) s

/-- Behind the watchdog's `delay`. -/
def watchdogWoke (me : Me) (s : Service) : Service :=
  if !s.isStartupWatchdogRelevant then { s with startupWatchdogJob := none }
  else
    match RunStartupWatchdogPolicy.stallMessage s.elapsedRealtimeMs
        s.lastRunEventMs s.scanProgress with
    | none => wait me (.watchdogDelay s.watchdogWakeAt) s
    | some message =>
        { handleRunStartupStall message s with startupWatchdogJob := none }

/-- Behind `runner.abandon`. -/
def afterAbandon (reason : String) (stalledPickSession : Option PickSession)
    (s : Service) : Service :=
  match stalledPickSession with
  | some session => failPickSession reason session s
  | none =>
      if s.isSessionSupervised then scheduleErrorRestart reason none s
      else failRun reason { s with
        scanProgress := none
        forceStopAvailable := false }

-- ==================================================== automatic restarts

/-- A restart on a change of the network. -/
def requestAutomaticRestart (s : Service) : Service :=
  if s.userStopRequested || s.activeRunSpec.isNone
      || !networkRestartableStatuses.contains s.status then s
  else if s.restartStopInProgress then s
  else
    let s := { s with
      restartStopInProgress := true
      automaticForceStopRequested := false
      restartExitSignal := some s.nextSignal
      restartStopTimeoutSignal := some (s.nextSignal + 1)
      nextSignal := s.nextSignal + 2 }
    let s := cancelStartupWatchdog (cancelErrorRestart s)
    let s := cancel s.launchJob s
    launchAt .restartStop { s with
      status := .restarting
      scanProgress := none
      lastError := none
      lastExitCode := none
      forceStopAvailable := false }

/-- Behind the delay of `scheduleErrorRestart`. -/
def restartDelayOver (s : Service) : Service :=
  if !s.isSessionSupervised then s
  else requestAutomaticRestart { s with errorRestartJob := none }

/-- The end of `performAutomaticRestartShutdown`. -/
def relaunch (s : Service) : Service :=
  if s.userStopRequested || !s.restartStopInProgress then s
  else
    let s := clearRestart s
    match s.activeRunSpec with
    | none =>
        failRun
          "Could not restore the active run after a network change." s
    | some runSpec => launchRunJob ⟨runSpec, true⟩ s

/-- Behind the `select`. -/
def afterSelect (me : Me) (exitSignal : Nat) (timedOut : Bool)
    (s : Service) : Service :=
  if timedOut && !s.userStopRequested then
    wait me (.restartForceStop exitSignal) s
  else relaunch s

/-- A run that was gone already reports no exit. -/
def signalExited (result : RunnerStopResult) (s : Service) : Service :=
  match result with
  | .alreadyExited => complete s.restartExitSignal s
  | _ => s

/-- Behind the first `runner.stop`. -/
def afterRestartStop (me : Me) (result : RunnerStopResult) (s : Service) :
    Service :=
  let s := signalExited result s
  match s.restartExitSignal, s.restartStopTimeoutSignal with
  | some exitSignal, some timeoutSignal =>
      if s.completed.contains exitSignal then
        afterSelect me exitSignal false s
      else if s.completed.contains timeoutSignal then
        afterSelect me exitSignal true s
      else wait me (.restartSelect exitSignal timeoutSignal) s
  | _, _ => s

/-- Behind `runner.forceStop`. -/
def afterRestartForceStop (me : Me) (exitSignal : Nat)
    (result : RunnerStopResult) (s : Service) : Service :=
  let s := signalExited result s
  if s.completed.contains exitSignal then relaunch s
  else wait me (.restartExit exitSignal) s

-- ====================================================== the runner's events

/-- `FatalError` and `Failed`, up to the state that they end in. -/
def handleFailure (message : String) (rest : Service → Service)
    (s : Service) : Service :=
  match s.pickSession, s.pickStage with
  | some session, some .scanning => failPickSession message session s
  | _, _ =>
      if s.restartStopInProgress then s
      else if s.isSessionSupervised then scheduleErrorRestart message none s
      else rest (cancelStartupWatchdog s)

/-- The end of an exit that no pick session waits for. -/
def handleRunExit (exitCode : Int) (s : Service) : Service :=
  if s.restartStopInProgress then
    let s := complete s.restartExitSignal s
    if s.userStopRequested then finishAfterExit exitCode s else s
  else if s.isSessionSupervised then
    scheduleErrorRestart s!"ZeroDPI exited with code {exitCode}."
      (some exitCode) s
  else finishAfterExit exitCode s

/-- The runner's process is gone. -/
def handleExited (exitCode : Int) (s : Service) : Service :=
  let s := cancelStartupWatchdog s
  if s.pickStage = some .stoppingForRescan && !s.userStopRequested then
    if exitCode = 0 then
      match s.pickSession with
      | some session => launchPickScan session s
      | none => finishAfterExit exitCode s
    else resolvePickSession false s
  else if s.pickStage = some .scanning && exitCode = 0
      && !s.pickCancelRequested && !s.userStopRequested then
    { s with
      pickStage := some .choosing
      status := .choosing
      scanProgress := none }
  else if s.pickStage = some .scanning && s.pickCancelRequested then
    match s.pickSession with
    | some session =>
        let s := clearPickSession s
        if session.origin = .midRun && session.resumeRunSpec.isSome then
          resumeRun session s
        else finishAfterExit exitCode s
    | none => finishAfterExit exitCode (clearPickSession s)
  else handleRunExit exitCode s

/-- The restart that waits is told. -/
def signalTimedOut (s : Service) : Service :=
  if s.restartStopInProgress then complete s.restartStopTimeoutSignal s else s

/-- A restart goes on by force, a user's stop does not. -/
def handleStopTimedOut (s : Service) : Service :=
  let s := signalTimedOut s
  if s.restartStopInProgress && !s.userStopRequested then
    { s with automaticForceStopRequested := true }
  else
    { s with
      status := .stopping
      forceStopAvailable := true
      lastError := some "Graceful stop timed out. Force stop is available." }

/-- `handleRunnerEvent`. -/
def handleRunnerEvent (event : ZeroDpiRunnerEvent) (s : Service) : Service :=
  let s := noteRunActivity s
  match event with
  | .starting =>
      { s with status := .starting, lastError := none
               forceStopAvailable := false }
  | .configLoaded _ _ _ _ rootRequired =>
      { s with rootStatus :=
          if rootRequired then
            if s.rootStatus = .granted then .granted else .needed
          else .notNeeded }
  | .scanStarted scan _ | .scanProgress scan _ _ _ _ _ _ =>
      if s.status = .running then s
      else { s with status := .scanning, scanProgress := some scan }
  | .scanCompleted _ _ =>
      if s.status = .running then s else { s with scanProgress := none }
  | .listenerStarted _ _ =>
      { cancelStartupWatchdog { s with errorRestartAttempt := 0 } with
        status := .running }
  | .networkRecoveryFailed _ _ message => { s with lastError := some message }
  | .rootRequired message _ =>
      { s with
        status := .failed
        rootStatus :=
          if s.rootStatus = .granted then .unsupported else .needed
        lastError := some message }
  | .fatalError message =>
      handleFailure message (fun s => { s with
        status := .failed
        lastError := some message }) s
  | .failed message => handleFailure message (failRun message) s
  | .exited exitCode => handleExited exitCode s
  | .stopTimedOut => handleStopTimedOut s
  | _ => s

-- ================================================================ the steps

/-- A suspension that ends only under a condition. -/
def onlyIf (ok : Bool) (s : Service) : Option Service :=
  if ok then some s else none

/-- What the rest of a coroutine does, when its suspension ends. A reply
that the point does not have is none. -/
def resume (me : Me) (point : Point) (reply : Reply) (s : Service) :
    Option Service :=
  match point, reply with
  -- `runCatching`, and nothing reads the result
  | .newLogSession runSpec, .done => some (startSession runSpec s)
  | .newLogSession runSpec, .thrown _ => some (startSession runSpec s)
  | .readAll run, .contents config =>
      if consumesPin config then some (wait me (.readPin run) s)
      else some (prepare me run s)
  -- without a pin
  | .readAll run, .thrown _ => some (prepare me run s)
  | .readAll run, .cancelled => some (prepare me run s)
  | .readPin run, .pin _ => some (prepare me run s)
  | .readPin run, .thrown _ => some (prepare me run s)
  | .readPin run, .cancelled => some (prepare me run s)
  | .prepareRunConfig run, .prepared runConfig =>
      some (loadIndex me run runConfig s)
  | .prepareRunConfig _, .thrown message =>
      some (launchFailed
        (message.getD "Failed to prepare runtime storage.") s)
  | .prepareRunConfig _, .cancelled => some s
  -- without the profile's name
  | .loadIndex run runConfig, .done => some (afterIndex me run runConfig s)
  | .loadIndex run runConfig, .thrown _ => some (afterIndex me run runConfig s)
  | .loadIndex run runConfig, .cancelled =>
      some (afterIndex me run runConfig s)
  | .readGatePin run runConfig, .pin pin =>
      some (afterGate me run runConfig
        (TargetPickPolicy.isGateEligible runConfig.config pin) s)
  | .readGatePin run runConfig, .thrown _ =>
      some (afterGate me run runConfig false s)
  | .readGatePin run runConfig, .cancelled =>
      some (afterGate me run runConfig false s)
  | .requestRoot request, .root .granted message =>
      some (afterRoot me request .granted message { s with rootGranted := true })
  | .requestRoot request, .root state message =>
      some (afterRoot me request state message s)
  | .requestRoot _, .cancelled => some s
  | .runnerStart _, .done => some (afterStart .done s)
  | .runnerStart _, .thrown message => some (afterStart (.thrown message) s)
  | .runnerStart _, .cancelled => some s
  | .pickReadAll session, .contents config =>
      some (preparePickScan me session config.mode s)
  | .pickReadAll session, .thrown _ =>
      some (preparePickScan me session TargetPickPolicy.sniSpoof s)
  | .pickPrepare session scanMode, .prepared runConfig =>
      some (wait me (.pickDelete session scanMode runConfig) s)
  | .pickPrepare session _, .thrown message =>
      some (failPickSession
        (message.getD "Could not prepare the pick scan config.") session s)
  | .pickDelete session scanMode runConfig, .done =>
      some (startPickScan me session scanMode runConfig s)
  | .restartDelay _ wakeAt, .done =>
      onlyIf (wakeAt ≤ s.elapsedRealtimeMs) (restartDelayOver s)
  | .restartDelay _ _, .cancelled => some s
  | .watchdogDelay wakeAt, .done =>
      onlyIf (wakeAt ≤ s.elapsedRealtimeMs) (watchdogWoke me s)
  | .watchdogDelay _, .cancelled => some s
  | .stop, .stopped .alreadyExited => some (finishAfterExit 0 s)
  | .stop, .stopped _ => some s
  | .forceStop, .stopped .alreadyExited => some (finishAfterExit (-1) s)
  | .forceStop, .stopped _ => some s
  | .stopForPick, .stopped _ => some s
  | .abandon reason session, .done => some (afterAbandon reason session s)
  | .restartStop, .stopped result => some (afterRestartStop me result s)
  | .restartSelect exitSignal timeoutSignal, .signalled timedOut =>
      onlyIf
        (s.completed.contains (if timedOut then timeoutSignal else exitSignal))
        (afterSelect me exitSignal timedOut s)
  | .restartForceStop exitSignal, .stopped result =>
      some (afterRestartForceStop me exitSignal result s)
  | .restartExit exitSignal, .done =>
      onlyIf (s.completed.contains exitSignal) (relaunch s)
  | .diagnosticsLog, .done => some (wait me .diagnostics s)
  | .diagnosticsLog, .thrown _ => some (wait me .diagnostics s)
  | .diagnostics, .root .granted _ =>
      some { s with rootStatus := .granted, rootGranted := true
                    lastError := none }
  | .diagnostics, .root .denied message =>
      some { s with rootStatus := .denied, lastError := some message }
  | .diagnostics, .root .unsupported message =>
      some { s with rootStatus := .unsupported, lastError := some message }
  | _, _ => none

/-- Whether the suspension of a coroutine may end in that way: where it was
cancelled only so, other than in a call of the runner. -/
def answers (c : Coroutine) (reply : Reply) : Bool :=
  match c.point with
  | .runnerStart _ => c.cancelled || decide (reply ≠ .cancelled)
  | _ => c.cancelled == decide (reply = .cancelled)

end Service

/-- The user's calls, the runner's events, the suspensions that end, and the
processes and the clocks. -/
inductive ServiceLabel where
  | startZeroDpi (profileId : String) (modeOverride : Option (List Char))
  | stopZeroDpi
  | forceStopZeroDpi
  | requestTargetPick (profileId : String)
  | applyTargetPick
  | cancelTargetPick
  | requestAutomaticRestart
  | runRootDiagnostics
  | event (event : ZeroDpiRunnerEvent)
  | resume (i : Nat) (reply : Reply)
  /-- A call of `runner.start` has launched the process. -/
  | launched (i : Nat)
  | died (i : Nat)
  | clock (elapsedMs : Nat) (epochMs : Int)
  deriving DecidableEq

/-- One label: a call, an event of the runner, or a coroutine that goes on.
-/
def Service.step (s : Service) : ServiceLabel → Option Service
  | .startZeroDpi profileId modeOverride =>
      some (s.startZeroDpi profileId modeOverride)
  | .stopZeroDpi => some s.stopZeroDpi
  | .forceStopZeroDpi => some s.forceStopZeroDpi
  | .requestTargetPick profileId => some (s.requestTargetPick profileId)
  | .applyTargetPick => some s.applyTargetPick
  | .cancelTargetPick => some s.cancelTargetPick
  | .requestAutomaticRestart => some s.requestAutomaticRestart
  | .runRootDiagnostics => some (s.launchAt .diagnosticsLog)
  | .event event => some (s.handleRunnerEvent event)
  | .resume i reply =>
      match s.coroutines[i]? with
      | some c =>
          if Service.answers c reply then
            Service.resume c.toMe c.point reply
              { s with coroutines := s.coroutines.eraseIdx i }
          else none
      | none => none
  | .launched i =>
      match s.coroutines[i]? with
      | some ⟨_, .runnerStart request⟩ =>
          some { s with children := s.children ++ [request.profileId] }
      | _ => none
  | .died i => some { s with children := s.children.eraseIdx i }
  | .clock elapsedMs epochMs =>
      some { s with
        elapsedRealtimeMs := s.elapsedRealtimeMs + elapsedMs
        epochMs := epochMs }

end ZeroDpi.Android
