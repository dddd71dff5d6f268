/-
Flow-tracking state shared by the proxy task and the packet-intercept
backend (zerodpi-core/src/flow.rs).

A `FlowEntry` is a mutex around `FlowState` plus two wake-up channels.
Waiters re-read the state after every wake-up, so the state is all the
model keeps; what a waiter sees is `FlowState.progress`
(`current_bypass_progress`, zerodpi-core/src/proxy.rs).

A flow controller is passed along by its calls; what a caller learns from
one is a `FlowAnswer`.
-/
import ZeroDpi.Interceptor
import ZeroDpi.Lib.Table

namespace ZeroDpi

open Lib

/-- `(src_ip, src_port, dst_ip, dst_port)` of one TCP flow, keyed on the
outbound direction. -/
structure FlowKey where
  srcIp : Ipv4Addr
  srcPort : UInt16
  dstIp : Ipv4Addr
  dstPort : UInt16
  deriving DecidableEq, Repr

/-- Outcome reported by the intercept thread back to the proxy task. -/
inductive BypassOutcome where
  | fakeDataAcked
  | unexpectedClose
  deriving DecidableEq

/-- Per-flow state mutated from the intercept thread. -/
structure FlowState where
  /-- True while the intercept thread tracks this flow. -/
  monitor : Bool
  synSeq : Option UInt32
  synAckSeq : Option UInt32
  /-- The first outbound bare ACK was replaced by a fake. -/
  fakeSent : Bool
  waitingForData : Bool
  firstDataModified : Bool
  waitingForFirstDataAck : Bool
  /-- Fragment-all mode: the outcome is signalled, the flow stays
  monitored. -/
  fragmentAllData : Bool
  outcome : Option BypassOutcome
  /-- Spoofed ClientHello to inject, built once per flow. -/
  fakeData : Bytes
  lowTtlOverride : Option UInt8
  deriving DecidableEq

/-- A freshly registered flow. -/
def FlowState.new (fakeData : Bytes) (lowTtlOverride : Option UInt8) :
    FlowState where
  monitor := true
  synSeq := none
  synAckSeq := none
  fakeSent := false
  waitingForData := false
  firstDataModified := false
  waitingForFirstDataAck := false
  fragmentAllData := false
  outcome := none
  fakeData := fakeData
  lowTtlOverride := lowTtlOverride

/-- `FlowEntry::finish`: the first call sets the outcome and stops the
monitoring, later calls do nothing. -/
def FlowState.finish (s : FlowState) (outcome : BypassOutcome) : FlowState :=
  match s.outcome with
  | none => { s with outcome := some outcome, monitor := false }
  | some _ => s

/-- `FlowEntry::signal_outcome`: the first call sets the outcome and
leaves the flow monitored. -/
def FlowState.signalOutcome (s : FlowState) (outcome : BypassOutcome) :
    FlowState :=
  match s.outcome with
  | none => { s with outcome := some outcome }
  | some _ => s

/-- What the proxy task reads off a flow. -/
inductive BypassProgress where
  | readyForData
  | complete (outcome : BypassOutcome)
  deriving DecidableEq

/-- `current_bypass_progress`: an outcome wins over readiness. -/
def FlowState.progress (s : FlowState) : Option BypassProgress :=
  match s.outcome with
  | some outcome => some (.complete outcome)
  | none => if s.waitingForData then some .readyForData else none

-- ==================================================== the two write-once ops

theorem FlowState.finish_of_none {s : FlowState} (h : s.outcome = none)
    (o : BypassOutcome) :
    s.finish o = { s with outcome := some o, monitor := false } := by
  simp [finish, h]

theorem FlowState.finish_of_some {s : FlowState} {o' : BypassOutcome}
    (h : s.outcome = some o') (o : BypassOutcome) : s.finish o = s := by
  simp [finish, h]

theorem FlowState.signalOutcome_of_none {s : FlowState}
    (h : s.outcome = none) (o : BypassOutcome) :
    s.signalOutcome o = { s with outcome := some o } := by
  simp [signalOutcome, h]

theorem FlowState.signalOutcome_of_some {s : FlowState} {o' : BypassOutcome}
    (h : s.outcome = some o') (o : BypassOutcome) :
    s.signalOutcome o = s := by
  simp [signalOutcome, h]

-- ====================================================== flow controllers

/-- `FlowController`: the data plane's view of flow registration. -/
class FlowController (σ : Type) where
  registerFlow : σ → FlowKey → Bytes → Option UInt8 →
    Except String FlowState × σ
  flowExists : σ → FlowKey → Bool
  removeFlow : σ → FlowKey → σ
  reset : σ → σ

/-- The flows of a local controller. -/
structure LocalFlowController where
  flows : Table FlowKey FlowState
  deriving DecidableEq

namespace LocalFlowController

/-- `register_flow`: only a vacant slot is filled. -/
def registerFlow (c : LocalFlowController) (key : FlowKey)
    (fakeData : Bytes) (lowTtlOverride : Option UInt8) :
    Except String FlowState × LocalFlowController :=
  match c.flows.get? key with
  | none =>
      let entry := FlowState.new fakeData lowTtlOverride
      (.ok entry, { flows := c.flows.insert key entry })
  | some _ => (.error s!"flow is already registered: {repr key}", c)

/-- `reset`: the entries it ends leave the table. -/
def reset (_ : LocalFlowController) : LocalFlowController := { flows := [] }

end LocalFlowController

instance : FlowController LocalFlowController where
  registerFlow := LocalFlowController.registerFlow
  flowExists c key := c.flows.containsKey key
  removeFlow c key := { flows := c.flows.remove key }
  reset := LocalFlowController.reset

/-- A call on a flow controller. -/
inductive FlowCall where
  | registerFlow (key : FlowKey) (fakeData : Bytes)
      (lowTtlOverride : Option UInt8)
  | flowExists (key : FlowKey)
  | removeFlow (key : FlowKey)
  | reset
  deriving DecidableEq

/-- What the caller learns: `Ok` or `Err`, or whether a flow exists. -/
inductive FlowAnswer where
  | registered (ok : Bool)
  | found (exist : Bool)
  | done
  deriving DecidableEq

/-- A call by its name. -/
def FlowController.call {σ : Type} [FlowController σ] (c : σ) :
    FlowCall → FlowAnswer × σ
  | .registerFlow key fakeData lowTtlOverride =>
      let (result, c) := registerFlow c key fakeData lowTtlOverride
      (.registered result.isOk, c)
  | .flowExists key => (.found (flowExists c key), c)
  | .removeFlow key => (.done, removeFlow c key)
  | .reset => (.done, reset c)

end ZeroDpi
