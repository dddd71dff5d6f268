/-
In-place network recovery: `RecoveryCoordinator`
(zerodpi/src/network_recovery.rs).

# The coordinator as a machine

`run`, `handle_change` and `rebuild_with_retry` are one task with five
places where it waits: for an event, for a rebuild, in the backoff after
a failed one, for a verification and for a rescan. These places are the
`Stage`s; what a wait ends with is an `Act`, and so is everything the
coordinator reads from its environment in between. `step` is `none` when
the coordinator is not at that wait.

# What it did

`trace` is a history variable, latest first: every call on the
environment with its answer and the clock reading at which it was made.
No step reads it. The clock is the one of `tokio::time`, in milliseconds;
every step says how far it moved.
-/
import ZeroDpi.Interceptor

namespace ZeroDpi.Runtime

/-- `zerodpi_core::net::InterfaceBinding`. -/
structure InterfaceBinding where
  ip : Ipv4Addr
  ifIndex : UInt32
  ifName : String
  deriving DecidableEq

/-- Which kind of platform event produced a network change. -/
inductive NetworkChangeSource where
  | address
  | route
  | link
  | poll
  deriving DecidableEq

/-- What the coordinator publishes. -/
inductive NetworkStatus where
  | online (interfaceIp : Ipv4Addr)
  | unavailable (message : String)
  | changing (interfaceIp : Ipv4Addr) (source : NetworkChangeSource)
  | recovering (attempt : UInt32) (nextRetryMs : Nat) (message : String)
  | recovered (interfaceIp : Ipv4Addr) (targetVerified : Bool)
      (targetSwitched : Bool)
  deriving DecidableEq

/-- What a rescan has found. -/
structure RescanOutcome where
  found : Nat
  switched : Bool
  deriving DecidableEq

/-- What `rx.recv()` returns. -/
inductive Received where
  | changed (source : NetworkChangeSource)
  | lagged
  | closed
  deriving DecidableEq

/-- `BACKOFF_INITIAL`, in milliseconds. -/
def backoffInitial : Nat := 1000

/-- `BACKOFF_MAX`. -/
def backoffMax : Nat := 60000

/-- `RECOVERY_RESCAN_MIN_INTERVAL`. -/
def recoveryRescanMinInterval : Nat := 60000

-- =============================================================== the state

/-- A call of the coordinator on its `RecoveryEnv`, with its answer. -/
inductive Call where
  | probe (target : Ipv4Addr) (result : Except String InterfaceBinding)
  | rebuild (binding : InterfaceBinding) (result : Except String Unit)
  | verify (verified : Bool)
  | rescan (outcome : RescanOutcome)
  | applyInterfaceBinding (binding : InterfaceBinding)
  | publish (status : NetworkStatus)

/-- Where the coordinator waits. -/
inductive Stage where
  /-- `run` has not published the initial status yet. -/
  | starting
  /-- `run`, at `rx.recv()`. -/
  | listening
  /-- The head of the loop of `handle_change`. -/
  | deciding (source : NetworkChangeSource)
  /-- `rebuild_with_retry`, at the rebuild. -/
  | rebuilding (source : NetworkChangeSource) (binding : InterfaceBinding)
      (attempt : UInt32) (delay : Nat)
  /-- `rebuild_with_retry`, at the `select!` entered at `since`. -/
  | backingOff (source : NetworkChangeSource) (binding : InterfaceBinding)
      (attempt : UInt32) (delay : Nat) (since : Nat)
  | verifying (binding : InterfaceBinding)
  | rescanning (binding : InterfaceBinding)
  /-- `run` has returned. -/
  | stopped
  deriving DecidableEq

/-- The coordinator, where it is, and what it has called. -/
structure RecoveryCoordinator where
  autoSelect : Bool
  current : Option InterfaceBinding
  lastRescan : Option Nat
  stage : Stage
  clock : Nat
  trace : List (Nat × Call)

namespace RecoveryCoordinator

/-- Before its first step. -/
def new (autoSelect : Bool) (initial : Option InterfaceBinding)
    (clock : Nat) : RecoveryCoordinator where
  autoSelect := autoSelect
  current := initial
  lastRescan := none
  stage := .starting
  clock := clock
  trace := []

/-- A call, with its time. -/
def log (c : RecoveryCoordinator) (call : Call) : RecoveryCoordinator :=
  { c with trace := (c.clock, call) :: c.trace }

/-- A status is sent out. -/
def publish (c : RecoveryCoordinator) (status : NetworkStatus) :
    RecoveryCoordinator :=
  c.log (.publish status)

/-- The next place. -/
def goto (c : RecoveryCoordinator) (stage : Stage) : RecoveryCoordinator :=
  { c with stage := stage }

/-- `rescan_allowed`. -/
def rescanAllowed (c : RecoveryCoordinator) : Bool :=
  match c.lastRescan with
  | none => true
  | some at_ => recoveryRescanMinInterval ≤ c.clock - at_

-- =============================================================== the steps

/-- `run` up to its first `recv`. -/
def start (c : RecoveryCoordinator) : RecoveryCoordinator :=
  (match c.current with
    | some binding => c.publish (.online binding.ip)
    | none => c).goto .listening

/-- `run` at an event. -/
def onReceived (c : RecoveryCoordinator) : Received → RecoveryCoordinator
  | .changed source => c.goto (.deciding source)
  | .lagged => c.goto (.deciding .poll)
  | .closed => c.goto .stopped

/-- One turn of the loop of `handle_change` up to its first wait.
`disconnected` is `remote_disconnected()`, `target` the probe target and
`probe` what `env.probe(target)` returns, if it is called. -/
def decide (c : RecoveryCoordinator) (source : NetworkChangeSource)
    (disconnected : Bool) (target : Ipv4Addr)
    (probe : Except String InterfaceBinding) : RecoveryCoordinator :=
  if disconnected then
    ({ c with current := none }.publish
      (.unavailable "root helper disconnected")).goto .listening
  else if target = 0 then
    (c.publish (.unavailable "no active target to probe")).goto .listening
  else
    let c := c.log (.probe target probe)
    match probe with
    | .error error =>
        ({ c with current := none }.publish (.unavailable error)).goto
          .listening
    | .ok binding =>
        if c.current = some binding then
          (c.publish (.online binding.ip)).goto .listening
        else
          (c.publish (.changing binding.ip source)).goto
            (.rebuilding source binding 1 backoffInitial)

/-- The rebuild has returned. -/
def onRebuilt (c : RecoveryCoordinator) (source : NetworkChangeSource)
    (binding : InterfaceBinding) (attempt : UInt32) (delay : Nat)
    (result : Except String Unit) : RecoveryCoordinator :=
  let c := c.log (.rebuild binding result)
  match result with
  | .ok _ =>
      ({ c with current := some binding }.log
        (.applyInterfaceBinding binding)).goto (.verifying binding)
  | .error error =>
      (c.publish (.recovering attempt delay error)).goto
        (.backingOff source binding attempt delay c.clock)

/-- The next attempt, with the delay doubled up to its maximum. -/
def retry (c : RecoveryCoordinator) (source : NetworkChangeSource)
    (binding : InterfaceBinding) (attempt : UInt32) (delay : Nat) :
    RecoveryCoordinator :=
  c.goto (.rebuilding source binding (attempt + 1)
    (min (delay * 2) backoffMax))

/-- The backoff is cut short by the event channel: a closed channel is no
newer event, anything else makes `handle_change` decide again. -/
def onInterrupted (c : RecoveryCoordinator) (source : NetworkChangeSource)
    (binding : InterfaceBinding) (attempt : UInt32) (delay : Nat) :
    Received → RecoveryCoordinator
  | .closed => c.retry source binding attempt delay
  | _ => c.goto (.deciding source)

/-- `verify` has returned. -/
def onVerified (c : RecoveryCoordinator) (binding : InterfaceBinding)
    (verified : Bool) : RecoveryCoordinator :=
  let c := c.log (.verify verified)
  if !verified && c.autoSelect && c.rescanAllowed then
    c.goto (.rescanning binding)
  else
    (c.publish (.recovered binding.ip verified false)).goto .listening

/-- `rescan` has returned; it is only called after a failed
verification. -/
def onRescanned (c : RecoveryCoordinator) (binding : InterfaceBinding)
    (outcome : RescanOutcome) : RecoveryCoordinator :=
  let c := { c.log (.rescan outcome) with lastRescan := some c.clock }
  let c :=
    if outcome.found = 0 then
      c.publish (.unavailable "recovery rescan found no reachable target")
    else c
  (c.publish (.recovered binding.ip false outcome.switched)).goto .listening

/-- What a wait of the coordinator ends with. -/
inductive Act where
  | start
  | received (received : Received)
  | decide (disconnected : Bool) (target : Ipv4Addr)
      (probe : Except String InterfaceBinding)
  | rebuilt (result : Except String Unit)
  /-- The sleep of the backoff is over. -/
  | slept
  /-- The event channel wins the `select!` of the backoff. -/
  | interrupted (received : Received)
  | verified (verified : Bool)
  | rescanned (outcome : RescanOutcome)

/-- The end of a wait, with the clock as it then stands. -/
def react (c : RecoveryCoordinator) (act : Act) :
    Option RecoveryCoordinator :=
  match c.stage, act with
  | .starting, .start => some c.start
  | .listening, .received received => some (c.onReceived received)
  | .deciding source, .decide disconnected target probe =>
      some (c.decide source disconnected target probe)
  | .rebuilding source binding attempt delay, .rebuilt result =>
      some (c.onRebuilt source binding attempt delay result)
  | .backingOff source binding attempt delay since, .slept =>
      if since + delay ≤ c.clock then
        some (c.retry source binding attempt delay)
      else none
  | .backingOff source binding attempt delay _, .interrupted received =>
      some (c.onInterrupted source binding attempt delay received)
  | .verifying binding, .verified verified =>
      some (c.onVerified binding verified)
  | .rescanning binding, .rescanned outcome =>
      some (c.onRescanned binding outcome)
  | _, _ => none

/-- One step: `elapsed` milliseconds pass, then the wait ends. -/
def step (c : RecoveryCoordinator) (elapsed : Nat) (act : Act) :
    Option RecoveryCoordinator :=
  { c with clock := c.clock + elapsed }.react act

end RecoveryCoordinator
end ZeroDpi.Runtime
