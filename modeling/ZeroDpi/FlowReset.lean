/-
`LocalFlowController::reset` among the connection tasks
(zerodpi-core/src/flow.rs).

`Flow` has the whole of `reset` as one step. Here it is what it does: a
pass that finishes the entries, then a pass that clears the table. The
table is sharded, and each pass takes the lock of one shard after the
other; a registration or a removal takes the lock of its key's shard. So
a step is one shard of one pass, or one call of a connection task.

An entry that has left the table is nobody's business but its own task's:
`dropped` keeps the entries as they were when `reset` took them out. It
is a history variable, and so is `late`; no step reads either.
-/
import ZeroDpi.Flow

namespace ZeroDpi

open Lib

/-- How a table (`DashMap`) spreads its keys over its shards. -/
structure Shards where
  count : Nat
  shardOf : FlowKey → Nat
  shardOf_lt : ∀ key, shardOf key < count

/-- Where `reset` is: at which shard of which pass. -/
inductive ResetPass where
  | idle
  | finishing (shard : Nat)
  | clearing (shard : Nat)
  deriving DecidableEq

/-- The first pass is through with the shard and the second has not come
to it. -/
def ResetPass.between : ResetPass → Nat → Bool
  | .idle, _ => false
  | .finishing next, shard => decide (shard < next)
  | .clearing next, shard => decide (next ≤ shard)

/-- The flow table while `reset` is between two of its shards. -/
structure FlowReset where
  controller : LocalFlowController
  pass : ResetPass
  /-- The entries that `reset` has taken out of the table. -/
  dropped : Table FlowKey FlowState
  /-- The flows that were registered between the passes over their shard
  and have been neither finished nor removed since. -/
  late : List FlowKey
  deriving DecidableEq

namespace FlowReset

/-- What the other tasks and the reset itself do to the table. -/
inductive Act where
  /-- A connection task registers its flow. -/
  | register (key : FlowKey) (fakeData : Bytes)
      (lowTtlOverride : Option UInt8)
  /-- A connection task removes its flow. -/
  | remove (key : FlowKey)
  /-- A connection task ends the flow it has registered. -/
  | finish (key : FlowKey) (outcome : BypassOutcome)
  /-- The data plane calls `reset`. -/
  | reset
  /-- `reset` takes the next shard. -/
  | advance
  deriving DecidableEq

/-- A controller that `reset` is not at work on. -/
def start (controller : LocalFlowController) : FlowReset where
  controller := controller
  pass := .idle
  dropped := []
  late := []

variable (shards : Shards)

/-- The first pass over a shard. -/
def finishShard (s : FlowReset) (shard : Nat) : FlowReset :=
  { s with
    controller := { flows := s.controller.flows.map fun e =>
      if shards.shardOf e.1 = shard then (e.1, e.2.finish .unexpectedClose)
      else e }
    pass := .finishing (shard + 1) }

/-- The second pass over a shard. -/
def clearShard (s : FlowReset) (shard : Nat) : FlowReset :=
  { s with
    controller := { flows :=
      s.controller.flows.filter fun e => shards.shardOf e.1 ≠ shard }
    pass := .clearing (shard + 1)
    dropped := s.dropped
      ++ s.controller.flows.filter fun e => shards.shardOf e.1 = shard
    late := s.late.filter fun key => shards.shardOf key ≠ shard }

/-- The next shard of the pass, or the next pass. -/
def advance (s : FlowReset) : FlowReset :=
  match s.pass with
  | .idle => s
  | .finishing shard =>
      if shard < shards.count then s.finishShard shards shard
      else { s with pass := .clearing 0 }
  | .clearing shard =>
      if shard < shards.count then s.clearShard shards shard
      else { s with pass := .idle }

/-- One step. The plane's lock admits one `reset` at a time. -/
def step (s : FlowReset) : Act → FlowReset
  | .register key fakeData lowTtlOverride =>
      { s with
        controller :=
          (s.controller.registerFlow key fakeData lowTtlOverride).2
        late :=
          if !FlowController.flowExists s.controller key
              && s.pass.between (shards.shardOf key)
          then key :: s.late else s.late }
  | .remove key =>
      { s with
        controller := FlowController.removeFlow s.controller key
        late := s.late.filter (· ≠ key) }
  | .finish key outcome =>
      { s with
        controller := { flows :=
          s.controller.flows.modify key fun e => e.finish outcome }
        late := s.late.filter (· ≠ key) }
  | .reset => if s.pass = .idle then { s with pass := .finishing 0 } else s
  | .advance => s.advance shards

/-- Every entry that `reset` has taken out has its outcome. -/
def AllFinished (s : FlowReset) : Prop :=
  ∀ e ∈ s.dropped, e.2.outcome.isSome = true

end FlowReset

end ZeroDpi
