/-
The runner of the native processes (runtime/ProcessZeroDpiRunner.kt).

# Threads

A call of the runner is a thread, and so is every job that `start` launches;
jobs run on threads of their own, so that every access to a field is a step.
Calls are made one at a time. A job that is cancelled ends at its next
suspension: `withContext` throws if the job is cancelled, `emit` only if the
buffer is full, and `waitFor` and the reading of a line are no suspensions.

# Processes

A process dies at any time, or never; signals make no difference to what is
possible. How a launch ends, what a process prints and what `su` says is
given. The files of a bootstrap directory are left out.

`run`, `abandoned` and the runs in `events` are history variables: the
number of the last start, the runs that were abandoned, and the run that
caused an event.
-/
import ZeroDpi.Lib.Threads
import ZeroDpi.Android.RunnerEvent

namespace ZeroDpi.Android.ProcessRunner

open Lib

/-- The coroutines of `scope.launch`, with what they were launched on. -/
inductive Job where
  | output (process : Nat) (useRoot : Bool)
  | wait (process : Nat)
  | helperOutput
  | helperWait (helper : Nat)
  deriving DecidableEq

/-- The calls of the runner that are modelled. -/
inductive Call where
  | start (useRoot : Bool)
  | stop
  | forceStop
  | abandon
  deriving DecidableEq

/-- What a thread runs. A job knows its handle and the run that launched it.
-/
inductive Name where
  | call (call : Call)
  | job (id run : Nat) (job : Job)
  deriving DecidableEq

/-- The fields of the runner, and the world around it. -/
structure State where
  dataPlaneProcess : Option Nat := none
  helperProcess : Option Nat := none
  helperProcessPid : Option Int := none
  nativeProcessPid : Option Int := none
  outputJob : Option Nat := none
  waitJob : Option Nat := none
  helperOutputJob : Option Nat := none
  helperWaitJob : Option Nat := none
  sessionDirectory : Option String := none
  exitEmitted : Bool := false
  stopRequested : Bool := false
  /-- The processes that are alive. -/
  alive : List Nat := []
  nextProcess : Nat := 0
  nextJob : Nat := 0
  /-- Jobs that were launched and have not started. -/
  launched : List Name := []
  cancelled : List Nat := []
  events : List (Nat × ZeroDpiRunnerEvent) := []
  run : Nat := 0
  abandoned : List Nat := []
  deriving DecidableEq

/-- `isAliveCompat` of a process. -/
def State.isAlive (s : State) (process : Nat) : Bool :=
  s.alive.contains process

/-- `dataPlaneProcess?.isAliveCompat() == true`. -/
def State.dataPlaneAlive (s : State) : Bool := s.dataPlaneProcess.any s.isAlive

/-- `helperProcess?.isAliveCompat() == true`. -/
def State.helperAlive (s : State) : Bool := s.helperProcess.any s.isAlive

-- ============================================================== the waits

/-- Where a thread waits, or asks the world. -/
inductive Query where
  /-- A job is dispatched. -/
  | begin
  /-- `executableProvider().isFile`: the path of a file that is missing. -/
  | executable
  | helperExecutable
  | createBootstrap
  | launchHelper
  | helperReady
  | launchProcess
  /-- All that a process will print, and one line of it. -/
  | lines
  | line
  | waitFor (process : Nat)
  | waitForCompat (process : Nat)
  | pidOrNull
  /-- `rootManager.stopRootProcess`: the diagnostic line of a failure. -/
  | stopRootProcess
  | emit
  deriving DecidableEq

/-- What a wait returns; errors come with their message. -/
def Reply : Query → Type
  | .begin | .line | .emit => Unit
  | .executable | .helperExecutable | .stopRootProcess => Option String
  | .createBootstrap => Except (Option String) String
  | .launchHelper => Except String (Option Int)
  | .helperReady => List String × Except (Option String) (Int × Int)
  | .launchProcess => Except (Option String) Unit
  | .lines => List (List Char)
  | .waitFor _ => Int
  | .waitForCompat _ => Bool
  | .pidOrNull => Option Int

/-- Code of the runner; every access to the state is a step of it. -/
abbrev Prog (α : Type) := Task State Query Reply α

/-- A wait. -/
def ask (q : Query) : Prog (Reply q) := Task.ask q

/-- A read of the fields, in one step. -/
def look {α : Type} (f : State → α) : Prog α := Task.look f

/-- A write, in one step. -/
def set (f : State → State) : Prog Unit := Task.modify f

/-- `events.emit`, by the given run or the last one. -/
def emit (owner : Option Nat) (event : ZeroDpiRunnerEvent) : Prog Unit := do
  ask .emit
  set fun s => { s with events := (owner.getD s.run, event) :: s.events }

/-- `emitExited`: the flag is set in one step, and then the event follows. -/
def emitExited (owner : Option Nat) (exitCode : Int) : Prog Bool :=
  .act (fun s => if s.exitEmitted then s else { s with exitEmitted := true })
    fun s => if s.exitEmitted then pure false
      else do
        emit (some (owner.getD s.run)) (.exited exitCode)
        pure true

-- ============================================================== cleaning up

/-- The session directory is forgotten, if there is one. -/
def cleanupBootstrap : Prog Unit := do
  if ← look fun s => s.sessionDirectory.isSome then
    set fun s => { s with sessionDirectory := none }
  else pure ()

/-- Both fields of the helper, one after the other. -/
def forgetHelper : Prog Unit := do
  set fun s => { s with helperProcess := none }
  set fun s => { s with helperProcessPid := none }

/-- The `su` command, if there is a process id. -/
def requestTerm (owner : Option Nat) (pid : Option Int) : Prog Bool :=
  match pid with
  | none => pure false
  | some _ => do
      match ← ask .stopRootProcess with
      | none => pure true
      | some line => do
          emit owner (.log line)
          pure false

/-- `waitForCompat`, where the code waits at all. -/
def waitIf (needed : Bool) (process : Nat) : Prog Bool :=
  if needed then ask (.waitForCompat process) else pure false

/-- The helper that is alive: TERM, a wait, KILL, a wait. The result is
whether TERM was enough. -/
def stopHelper (owner : Option Nat) (helper : Nat) : Prog Bool := do
  let known ← look (·.helperProcessPid)
  let found ← ask .pidOrNull
  let termRequested ← requestTerm owner (known.or found)
  let exitedAfterTerm ← waitIf termRequested helper
  let stillAlive ← look (·.isAlive helper)
  let _ ← waitIf stillAlive helper
  forgetHelper
  pure exitedAfterTerm

/-- `stopHelperProcess`; `true` if the cleanup is confirmed. -/
def stopHelperProcess (owner : Option Nat) : Prog Bool := do
  match ← look (·.helperProcess) with
  | none => pure true
  | some helper => do
      if ← look (·.isAlive helper) then stopHelper owner helper
      else do
        forgetHelper
        pure true

/-- A handle of a job: cancelled, and forgotten. -/
def cancelJob (get : State → Option Nat) (clear : State → State) :
    Prog Unit := do
  set fun s => { s with cancelled := (get s).toList ++ s.cancelled }
  set clear

/-- All four handles. -/
def cancelJobs : Prog Unit := do
  cancelJob (·.outputJob) fun s => { s with outputJob := none }
  cancelJob (·.waitJob) fun s => { s with waitJob := none }
  cancelJob (·.helperOutputJob) fun s => { s with helperOutputJob := none }
  cancelJob (·.helperWaitJob) fun s => { s with helperWaitJob := none }

/-- Jobs are cancelled, and the fields of both processes cleared. -/
def cleanupProcesses : Prog Unit := do
  cancelJobs
  set fun s => { s with dataPlaneProcess := none }
  forgetHelper
  set fun s => { s with nativeProcessPid := none }

-- ================================================================ the jobs

variable (appUid : Int)

/-- What the helper prints, line by line. -/
def emitLines (owner : Option Nat) : List (List Char) → Prog Unit
  | [] => pure ()
  | line :: rest => do
      ask .line
      emit owner (.log (String.ofList line))
      emitLines owner rest

/-- The job that reads the helper. -/
def helperOutputJob (run : Nat) : Prog Unit := do
  ask .begin
  let lines ← ask .lines
  emitLines (some run) lines

/-- A line with the identity of the process. -/
def checkIdentity (run : Nat) (useRoot : Bool) (pid uid : Int) :
    Prog Unit := do
  set fun s => { s with nativeProcessPid := some pid }
  if useRoot && uid ≠ appUid then do
    emit (some run) (.failed ("Data-plane UID verification failed: expected "
      ++ toString appUid ++ ", got " ++ toString uid ++ "."))
    set fun s => { s with stopRequested := true }
    let _ ← stopHelperProcess (some run)
    pure ()
  else emit (some run) (.dataPlaneStarted pid uid)

/-- A line that may state the identity of the process. -/
def checkLine (run : Nat) (useRoot : Bool) (line : List Char) : Prog Unit :=
  match RuntimeEventLineParser.startupIdentity line with
  | none => pure ()
  | some (pid, uid) => checkIdentity appUid run useRoot pid uid

/-- What the data plane prints: parsed as an event, or else a log line. -/
def outputLines (run : Nat) (useRoot : Bool) : List (List Char) → Prog Unit
  | [] => pure ()
  | line :: rest => do
      ask .line
      checkLine appUid run useRoot line
      emit (some run) ((RuntimeEventLineParser.parse line).getD
        (.log (String.ofList line)))
      outputLines run useRoot rest

/-- The job that reads the data plane. -/
def outputJob (run : Nat) (useRoot : Bool) : Prog Unit := do
  ask .begin
  let lines ← ask .lines
  outputLines appUid run useRoot lines

/-- The helper of a process that is gone. -/
def stopLiveHelper (run : Nat) : Prog Unit := do
  if ← look (·.helperAlive) then do
    let cleanupConfirmed ← stopHelperProcess (some run)
    emit (some run) (.firewallCleanup cleanupConfirmed)
  else pure ()

/-- The job that waits for the data plane's end and reports it. -/
def waitJob (run process : Nat) : Prog Unit := do
  ask .begin
  let exitCode ← ask (.waitFor process)
  set fun s => { s with stopRequested := true }
  set fun s => { s with dataPlaneProcess := none }
  set fun s => { s with nativeProcessPid := none }
  stopLiveHelper run
  cleanupBootstrap
  let _ ← emitExited (some run) exitCode
  pure ()

/-- What the death of a helper means to the data plane. -/
def reportHelper (run : Nat) (exitCode : Int) : Prog Unit := do
  let requested ← look (·.stopRequested)
  let dataPlaneAlive ← look (·.dataPlaneAlive)
  if exitCode ≠ 0 && !requested && dataPlaneAlive then do
    emit (some run) (.failed ("Root helper exited unexpectedly with code "
      ++ toString exitCode ++ "."))
    emit (some run) (.firewallCleanup false)
  else pure ()

/-- The job that waits for the helper's end. -/
def helperWaitJob (run helper : Nat) : Prog Unit := do
  ask .begin
  let exitCode ← ask (.waitFor helper)
  forgetHelper
  reportHelper run exitCode

-- =============================================================== the calls

/-- `scope.launch`. -/
def launch (job : Job) (keep : Nat → State → State) : Prog Unit :=
  set fun s => keep s.nextJob { s with
    launched := s.launched ++ [.job s.nextJob s.run job]
    nextJob := s.nextJob + 1 }

/-- `outputJob = scope.launch { .. }`. -/
def keepOutputJob (id : Nat) (s : State) : State := { s with outputJob := some id }

/-- `waitJob = ..`. -/
def keepWaitJob (id : Nat) (s : State) : State := { s with waitJob := some id }

/-- `helperOutputJob = ..`. -/
def keepHelperOutputJob (id : Nat) (s : State) : State :=
  { s with helperOutputJob := some id }

/-- `helperWaitJob = ..`. -/
def keepHelperWaitJob (id : Nat) (s : State) : State :=
  { s with helperWaitJob := some id }

/-- A process that was started. -/
def register : Prog Nat :=
  .act (fun s => { s with
    alive := s.nextProcess :: s.alive, nextProcess := s.nextProcess + 1 })
    fun s => pure s.nextProcess

/-- The job is launched for the helper that is known by then. -/
def launchHelperWait : Prog Unit := do
  match ← look (·.helperProcess) with
  | none => pure ()
  | some helper => launch (.helperWait helper) keepHelperWaitJob

/-- `start` from the launch of the data plane on. -/
def startDataPlane (useRoot : Bool) : Prog Unit := do
  match ← ask .launchProcess with
  | .error message => do
      let _ ← stopHelperProcess none
      cleanupBootstrap
      emit none (.failed (message.getD "Failed to start ZeroDPI data plane."))
  | .ok _ => do
      let process ← register
      set fun s => { s with dataPlaneProcess := some process }
      launch (.output process useRoot) keepOutputJob
      launch (.wait process) keepWaitJob
      launchHelperWait

/-- A helper that did not become ready. -/
def refuseHelper (message : String) : Prog Unit := do
  let _ ← stopHelperProcess none
  cleanupBootstrap
  emit none (.failed message)

/-- A helper that is ready as root; the data plane starts behind it. -/
def acceptHelper (pid uid : Int) : Prog Unit := do
  set fun s => { s with helperProcessPid := some pid }
  emit none (.log ("Root helper listener ready with pid " ++ toString pid
    ++ " and uid " ++ toString uid ++ "."))
  launch .helperOutput keepHelperOutputJob
  startDataPlane true

/-- What the helper printed before it was ready. -/
def logAll : List String → Prog Unit
  | [] => pure ()
  | line :: rest => do
      emit none (.log line)
      logAll rest

/-- The wait for the helper's line, and the check of its identity. -/
def awaitHelper : Prog Unit := do
  let ready ← ask .helperReady
  logAll ready.1
  match ready.2 with
  | .error message =>
      refuseHelper (message.getD "Root helper did not become ready.")
  | .ok (pid, uid) =>
      if uid ≠ 0 then
        refuseHelper "Root helper readiness identity was not UID 0."
      else acceptHelper pid uid

/-- The helper's process, and the wait for it. -/
def launchHelper : Prog Unit := do
  match ← ask .launchHelper with
  | .error message => do
      cleanupBootstrap
      emit none (.failed message)
  | .ok pid => do
      let process ← register
      set fun s => { s with helperProcess := some process }
      set fun s => { s with helperProcessPid := pid }
      if ← look fun s => s.helperProcess.isSome then awaitHelper
      else do
        cleanupBootstrap
        emit none (.failed "Failed to retain root-helper process handle.")

/-- The root half of `start`. -/
def startHelper : Prog Unit := do
  match ← ask .helperExecutable with
  | some path =>
      emit none (.failed ("Missing native root-helper artifact: " ++ path))
  | none => do
      match ← ask .createBootstrap with
      | .error message => emit none (.failed
          (message.getD "Failed to create root-helper bootstrap state."))
      | .ok directory => do
          set fun s => { s with sessionDirectory := some directory }
          emit none .rootHelperStarting
          launchHelper

/-- `start` from the reset of the flags on: here the run begins. -/
def startRun (useRoot : Bool) : Prog Unit := do
  set fun s => { s with exitEmitted := false, run := s.run + 1 }
  set fun s => { s with stopRequested := false }
  set fun s => { s with nativeProcessPid := none }
  if useRoot then startHelper else startDataPlane false

/-- `start`. It refuses while a process of an earlier run is alive. -/
def start (useRoot : Bool) : Prog Unit := do
  let dataPlaneAlive ← look (·.dataPlaneAlive)
  let helperAlive ← look (·.helperAlive)
  if dataPlaneAlive || helperAlive then
    emit none (.failed "A ZeroDPI process from a previous run is still active.")
  else do
    match ← ask .executable with
    | some path =>
        emit none (.failed ("Missing native runtime artifact: " ++ path))
    | none => do
        emit none .starting
        startRun useRoot

/-- What a stop reports. -/
inductive RunnerStopResult where
  | exited
  | alreadyExited
  | timedOut
  deriving DecidableEq

/-- `stop` and `forceStop` behind their waits. -/
def finishStop (exitCode : Int) : Prog RunnerStopResult := do
  let cleanupConfirmed ← stopHelperProcess none
  cleanupProcesses
  cleanupBootstrap
  emit none (.firewallCleanup cleanupConfirmed)
  let emitted ← emitExited none exitCode
  pure (if emitted then .exited else .alreadyExited)

/-- `stop`: the data plane has its grace, and is left alone if it survives.
-/
def stop : Prog RunnerStopResult := do
  set fun s => { s with stopRequested := true }
  match ← look (·.dataPlaneProcess) with
  | none => finishStop 0
  | some current => do
      let stopped : Bool ← ask (.waitForCompat current)
      if stopped then finishStop 0
      else do
        emit none .stopTimedOut
        pure .timedOut

/-- The kill and the wait of it, if there is a process. -/
def waitForDataPlane (process : Option Nat) : Prog Unit :=
  match process with
  | none => pure ()
  | some current => do
      let _ ← ask (.waitForCompat current)
      pure ()

/-- `forceStop`: it cleans up whether the process is gone or not. -/
def forceStop : Prog RunnerStopResult := do
  set fun s => { s with stopRequested := true }
  let current ← look (·.dataPlaneProcess)
  waitForDataPlane current
  finishStop (-1)

/-- `abandon`: no exit of this run will be emitted. -/
def abandon : Prog Unit := do
  set fun s => { s with stopRequested := true }
  set fun s => { s with exitEmitted := true, abandoned := s.run :: s.abandoned }
  cancelJobs
  let dataPlane ← look (·.dataPlaneProcess)
  set fun s => { s with dataPlaneProcess := none }
  set fun s => { s with nativeProcessPid := none }
  waitForDataPlane dataPlane
  let _ ← stopHelperProcess none
  cleanupBootstrap

-- ============================================================== the system

/-- What a thread runs, by its name. -/
def program : Name → Prog Unit
  | .call (.start useRoot) => start useRoot
  | .call .stop => do
      let _ ← stop
      pure ()
  | .call .forceStop => do
      let _ ← forceStop
      pure ()
  | .call .abandon => abandon
  | .job _ run (.output _ useRoot) => outputJob appUid run useRoot
  | .job _ run (.wait process) => waitJob run process
  | .job _ run .helperOutput => helperOutputJob run
  | .job _ run (.helperWait helper) => helperWaitJob run helper

/-- A job whose handle was cancelled. -/
def isCancelled (s : State) : Name → Bool
  | .call _ => false
  | .job id _ _ => s.cancelled.contains id

/-- The replies that are possible: a wait for a process ends with it. -/
def answers (name : Name) (s : State) : (q : Query) → Reply q → Bool
  | .waitFor process, _ => !s.isAlive process
  | .waitForCompat process, (dead : Bool) =>
      !isCancelled s name && dead = !s.isAlive process
  | .begin, _ | .stopRootProcess, _ => !isCancelled s name
  | _, _ => true

/-- The suspensions at which a cancelled job ends. -/
def drops (name : Name) (s : State) : Query → Bool
  | .begin | .stopRootProcess | .waitForCompat _ | .emit => isCancelled s name
  | _ => false

/-- The runner on its threads. -/
def platform : Platform State Query Reply Name where
  program := program appUid
  forks := State.launched
  forked s := { s with launched := [] }
  answers := answers
  drops := drops

/-- The fields and all threads. -/
abbrev System := Pool State Query Reply Name

/-- A thread goes on, a process dies, or a call is made. -/
inductive Action where
  | thread (move : Move Query Reply)
  | exits (process : Nat)
  | call (call : Call)

/-- Threads that are calls. -/
def isCall : Name → Bool
  | .call _ => true
  | .job .. => false

/-- One action; a call waits until the one before it has returned. -/
def step (P : System) : Action → Option System
  | .thread move => P.step (platform appUid) move
  | .exits process =>
      if P.shared.isAlive process then
        some { P with shared := { P.shared with
          alive := P.shared.alive.erase process } }
      else none
  | .call call =>
      if P.threads.any fun th => isCall th.name then none
      else some { P with
        threads := P.threads ++ [(platform appUid).start (.call call)] }

/-- No run yet. -/
def initial : System := ⟨{}, []⟩

end ZeroDpi.Android.ProcessRunner
