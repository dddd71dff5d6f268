/-
Network change detection (zerodpi-platform/src/netmon/mod.rs) and the
monitor beside the coordinator it feeds.

# The monitor

`run_loop` waits, and acts on what the wait ends with: a raw tick is
recorded, a timeout probes and emits if the probe differs from the last
one. How long a wait may take is handed to the platform source and read
nowhere else, so the turn of the loop takes the event and the clock as
they come.

# The two together

`start` gives both sides the binding found at startup. From there on each
probes for itself; the event channel is all that connects them. An event
carries its source and no binding.
-/
import ZeroDpi.Runtime.Coordinator

namespace ZeroDpi.Runtime

-- ============================================================ the monitor

/-- Coalesces raw platform ticks into settled change notifications; times
in milliseconds. -/
structure SettleState where
  settle : Nat
  pending : Option (NetworkChangeSource × Nat)
  deriving DecidableEq

namespace SettleState

/-- No change is pending. -/
def new (settle : Nat) : SettleState where
  settle := settle
  pending := none

/-- A newer tick replaces the pending deadline. -/
def record (s : SettleState) (source : NetworkChangeSource) (now : Nat) :
    SettleState :=
  { s with pending := some (source, now + s.settle) }

/-- Take the settled tick when its deadline has passed. -/
def due (s : SettleState) (now : Nat) :
    Option NetworkChangeSource × SettleState :=
  match s.pending with
  | some (source, deadline) =>
      if deadline ≤ now then (some source, { s with pending := none })
      else (none, s)
  | none => (none, s)

end SettleState

/-- Emits `true` once per transition. -/
structure ChangeFilter where
  last : Option InterfaceBinding
  deriving DecidableEq

/-- The filter starts from `value`. -/
def ChangeFilter.seed (value : Option InterfaceBinding) : ChangeFilter where
  last := value

/-- A value is let through when it differs from the last. -/
def ChangeFilter.observe (f : ChangeFilter)
    (value : Option InterfaceBinding) : Bool × ChangeFilter :=
  if value ≠ f.last then (true, { f with last := value }) else (false, f)

/-- What a platform source reports while the monitor waits. -/
inductive SourceEvent where
  | change (kind : NetworkChangeSource)
  | timeout
  | shutdown
  deriving DecidableEq

/-- The locals of `run_loop`. -/
structure NetworkMonitor where
  settleState : SettleState
  filter : ChangeFilter
  deriving DecidableEq

namespace NetworkMonitor

/-- The locals before the first turn. -/
def start (settle : Nat) (seed : Option InterfaceBinding) :
    NetworkMonitor where
  settleState := .new settle
  filter := .seed seed

/-- The probe after a timeout, and the event it gives rise to. -/
def observe (m : NetworkMonitor) (kind : NetworkChangeSource)
    (probe : Option InterfaceBinding) :
    NetworkMonitor × List NetworkChangeSource :=
  let (changed, filter) := m.filter.observe probe
  ({ m with filter := filter }, if changed then [kind] else [])

/-- One turn of `run_loop`: the locals after it and what it emitted;
`none` leaves the loop. `probe` is what `probe()` returns, if it is
called. -/
def turn (m : NetworkMonitor) (event : SourceEvent) (now : Nat)
    (probe : Option InterfaceBinding) :
    Option (NetworkMonitor × List NetworkChangeSource) :=
  match event with
  | .change kind =>
      some ({ m with settleState := m.settleState.record kind now }, [])
  | .shutdown => none
  | .timeout =>
      match m.settleState.due now with
      | (some kind, settleState) =>
          some ({ m with settleState := settleState }.observe kind probe)
      | (none, settleState) =>
          some ({ m with settleState := settleState }.observe .poll probe)

end NetworkMonitor

-- ========================================================== both together

/-- Monitor, event channel (oldest first) and coordinator. -/
structure NetworkWatch where
  monitor : NetworkMonitor
  channel : List NetworkChangeSource
  coordinator : RecoveryCoordinator

/-- A turn of one of the two. -/
inductive WatchAct where
  | monitor (event : SourceEvent) (now : Nat)
      (probe : Option InterfaceBinding)
  | coordinator (elapsed : Nat) (act : RecoveryCoordinator.Act)

namespace NetworkWatch

/-- Both sides start from the binding found at startup. -/
def start (autoSelect : Bool) (settle clock : Nat)
    (initial : InterfaceBinding) : NetworkWatch where
  monitor := .start settle (some initial)
  channel := []
  coordinator := .new autoSelect (some initial) clock

/-- What the coordinator takes from the channel with an act: the oldest
event with an event, nothing otherwise. The channel neither lags nor
closes. -/
def take (channel : List NetworkChangeSource) :
    RecoveryCoordinator.Act → Option (List NetworkChangeSource)
  | .received (.changed source) | .interrupted (.changed source) =>
      match channel with
      | oldest :: rest => if oldest = source then some rest else none
      | [] => none
  | .received _ | .interrupted _ => none
  | _ => some channel

/-- One turn. -/
def step (w : NetworkWatch) : WatchAct → Option NetworkWatch
  | .monitor event now probe => do
      let (monitor, emitted) ← w.monitor.turn event now probe
      return { w with
        monitor := monitor
        channel := w.channel ++ emitted }
  | .coordinator elapsed act => do
      let channel ← take w.channel act
      let coordinator ← w.coordinator.step elapsed act
      return { w with
        channel := channel
        coordinator := coordinator }

end NetworkWatch

end ZeroDpi.Runtime
