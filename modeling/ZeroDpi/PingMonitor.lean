/-
The latency monitor of a pool (zerodpi-core/src/target_pool/ping.rs), and
the binding it watches (zerodpi-core/src/net.rs).

# Steps

A step ends at the next use of something shared: a call on the pool, a look
at the binding, a spawn, a join. Probes end in any order, and anybody may
use the pool or set the binding in between. While the monitor holds the
guard that `unchanged` gave it, the binding cannot be set.

# The watch channel

Every value sent on it has a new version, also if it equals the one before.
A receiver remembers the version it has seen, and its readings do not need
a sender that is still there.

# History

`Stamp`s, `probed`, `replaces`, `rounds`, `finished` and `updates` are
history variables. A task carries the number of its round, so that the
tasks of two rounds could be told apart; the `JoinSet` of a round has the
tasks with its number.
-/
import ZeroDpi.TargetPool

namespace ZeroDpi.PingMonitor

open TargetPool

variable {B : Type}

-- ============================================================= the binding

/-- A watch channel: its value, and how often it was set. -/
structure Watch (B : Type) where
  value : B
  version : Nat
  closed : Bool
  deriving DecidableEq

/-- `InterfaceBindingHandle::set`. -/
def Watch.set (w : Watch B) (value : B) : Watch B :=
  if w.closed then w
  else { w with value := value, version := w.version + 1 }

/-- The last handle is dropped. -/
def Watch.close (w : Watch B) : Watch B := { w with closed := true }

-- ============================================================== the probes

/-- How often the members were replaced and which version the binding has. -/
structure Stamp where
  replaces : Nat
  version : Nat
  deriving DecidableEq

/-- How a probe is, or has ended. -/
inductive Outcome where
  | running
  | done (ping : Option Duration)
  | panicked
  deriving DecidableEq

/-- A spawned probe. -/
structure Task (B : Type) where
  target : Target
  network : B
  outcome : Outcome
  round : Nat
  started : Stamp
  deriving DecidableEq

/-- What a task makes of its probe's answer; `none` is the timeout. -/
def Task.answer (task : Task B) (answer : Option (Option Duration)) :
    Task B :=
  { task with outcome := .done answer.join }

/-- A probe that panics. -/
def Task.panic (task : Task B) : Task B := { task with outcome := .panicked }

-- ============================================================== the rounds

/-- What `probe_snapshot` gave a round. -/
structure Snapshot where
  generation : UInt64
  targets : List Target
  round : Nat
  replaces : Nat
  deriving DecidableEq

/-- The locals of a round. -/
structure Round (B : Type) where
  snapshot : Snapshot
  /-- The version `round_binding` has seen. -/
  seen : Nat
  network : B
  remaining : List Target
  probed : List Target
  deriving DecidableEq

/-- Where the monitor is. -/
inductive Phase (B : Type) where
  /-- At the top of the loop. -/
  | top
  /-- Behind `probe_snapshot`. -/
  | marking (snapshot : Snapshot)
  | spawning (round : Round B)
  | joining (round : Round B)
  /-- With a result, before `unchanged`. -/
  | joined (round : Round B) (task : Task B) (ping : Option Duration)
  /-- With a result and the guard. -/
  | holding (round : Round B) (task : Task B) (ping : Option Duration)
  | sleeping
  | aborted
  deriving DecidableEq

/-- A call of `update_ping`. -/
structure Update (B : Type) where
  snapshot : Snapshot
  task : Task B
  ping : Option Duration
  before : TargetPool
  after : TargetPool
  binding : B
  stamp : Stamp
  deriving DecidableEq

/-- The monitor, its tasks and what it shares. -/
structure System (B : Type) where
  shared : Shared
  watch : Watch B
  limit : Nat
  phase : Phase B
  tasks : List (Task B)
  replaces : Nat
  rounds : Nat
  finished : List (Round B)
  updates : List (Update B)
  deriving DecidableEq

/-- The call of `monitor`. -/
def System.start (shared : Shared) (watch : Watch B) (limit : Nat) :
    System B where
  shared := shared
  watch := watch
  limit := limit
  phase := .top
  tasks := []
  replaces := 0
  rounds := 0
  finished := []
  updates := []

namespace System

/-- Now, as replacements and values count it. -/
def stamp (s : System B) : Stamp := ⟨s.replaces, s.watch.version⟩

-- ======================================================= the monitor's steps

/-- `pool.probe_snapshot()`. -/
def takeSnapshot (s : System B) : Snapshot where
  generation := s.shared.pool.probeSnapshot.1
  targets := s.shared.pool.probeSnapshot.2
  round := s.rounds
  replaces := s.replaces

/-- A new round: `mark_current` on a clone of the receiver. -/
def mark (s : System B) (snapshot : Snapshot) : Round B where
  snapshot := snapshot
  seen := s.watch.version
  network := s.watch.value
  remaining := snapshot.targets
  probed := []

/-- The tasks in the `JoinSet` of a round. -/
def joinSet (s : System B) (r : Round B) : List (Task B) :=
  s.tasks.filter fun task => task.round = r.snapshot.round

/-- The task of a new probe. -/
def probe (s : System B) (r : Round B) (target : Target) : Task B where
  target := target
  network := r.network
  outcome := .running
  round := r.snapshot.round
  started := s.stamp

/-- A turn of the inner `while`. -/
def spawn (s : System B) (r : Round B) : System B :=
  if (s.joinSet r).length < max s.limit 1 then
    match r.remaining with
    | [] => { s with phase := .joining r }
    | target :: rest => { s with
        tasks := s.tasks ++ [s.probe r target]
        phase := .spawning { r with
          remaining := rest
          probed := r.probed ++ [target] } }
  else { s with phase := .joining r }

/-- `tasks.join_next()`, where the task at `i` is taken if it has ended. -/
def joinNext (s : System B) (r : Round B) (i : Nat) : System B :=
  if (s.joinSet r).isEmpty then
    { s with phase := .sleeping, finished := s.finished ++ [r] }
  else
    match s.tasks[i]? with
    | none => s
    | some task =>
        if task.round = r.snapshot.round then
          match task.outcome with
          | .running => s
          | .panicked => { s with
              tasks := s.tasks.eraseIdx i
              phase := .spawning r }
          | .done ping => { s with
              tasks := s.tasks.eraseIdx i
              phase := .joined r task ping }
        else s

/-- `round_binding.unchanged()`. -/
def unchanged (s : System B) (r : Round B) : Bool :=
  s.watch.version = r.seen

/-- `pool.update_ping` under the guard. -/
def update (s : System B) (r : Round B) (task : Task B)
    (ping : Option Duration) : Except Panic (System B) := do
  let pool ← s.shared.pool.updatePing r.snapshot.generation task.target ping
  return { s with
    shared.pool := pool
    phase := .spawning r
    updates := s.updates ++ [{
      snapshot := r.snapshot
      task := task
      ping := ping
      before := s.shared.pool
      after := pool
      binding := s.watch.value
      stamp := s.stamp }] }

/-- The next step of `monitor`. -/
def monitor (s : System B) (i : Nat) : Except Panic (System B) :=
  match s.phase with
  | .top => .ok { s with
      phase := .marking s.takeSnapshot
      rounds := s.rounds + 1 }
  | .marking snapshot => .ok { s with phase := .spawning (s.mark snapshot) }
  | .spawning r => .ok (s.spawn r)
  | .joining r => .ok (s.joinNext r i)
  | .joined r task ping =>
      if s.unchanged r then .ok { s with phase := .holding r task ping }
      else .ok { s with phase := .spawning r }
  | .holding r task ping => s.update r task ping
  | .sleeping => .ok { s with phase := .top }
  | .aborted => .ok s

-- ========================================================== everybody's steps

/-- The monitor holds the watch's value. -/
def guarded (s : System B) : Bool :=
  match s.phase with
  | .holding _ _ _ => true
  | _ => false

/-- `PingMonitor::drop`: the monitor ends where it waits, and its `JoinSet`
with it. -/
def abort (s : System B) : System B :=
  match s.phase with
  | .top | .joining _ | .sleeping => { s with phase := .aborted, tasks := [] }
  | _ => s

end System

/-- What happens next. -/
inductive Action (B : Type) where
  | monitor (i : Nat)
  /-- The probe at `i` ends, or its timeout does. -/
  | answer (i : Nat) (answer : Option (Option Duration))
  | panic (i : Nat)
  | call (call : Call)
  | set (value : B)
  | close
  | abort
  deriving DecidableEq

/-- How many replacements a call is: none if it brings no target. -/
def replacesOf : Call → Nat
  | .replace targets => if targets.isEmpty then 0 else 1
  | _ => 0

/-- A task that has ended stays as it is. -/
def Task.ends (f : Task B → Task B) (task : Task B) : Task B :=
  match task.outcome with
  | .running => f task
  | _ => task

/-- One of these. -/
def System.step (s : System B) : Action B → Except Panic (System B)
  | .monitor i => s.monitor i
  | .answer i answer => .ok { s with
      tasks := s.tasks.modify i (Task.ends (·.answer answer)) }
  | .panic i => .ok { s with tasks := s.tasks.modify i (Task.ends Task.panic) }
  | .call call => do
      let shared ← s.shared.step call
      return { s with
        shared := shared
        replaces := s.replaces + replacesOf call }
  | .set value =>
      if s.guarded then .ok s
      else .ok { s with watch := s.watch.set value }
  | .close => .ok { s with watch := s.watch.close }
  | .abort => .ok s.abort

/-- Several. -/
def System.run (s : System B) (actions : List (Action B)) :
    Except Panic (System B) :=
  actions.foldlM System.step s

end ZeroDpi.PingMonitor
