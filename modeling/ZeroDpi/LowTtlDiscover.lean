/-
A probe of TTL discovery beside the packet handler (zerodpi-core/src/
low_ttl_discover.rs, handler.rs, flow.rs).

`probeTtl` of `ConnectionTask` is the probe. Here is what it shares its
flow with: the handler takes the packets of the flow while the probe
waits, and `reset` may pass over the table. The table is seen through the
one slot of the probe's key; an entry outlives its slot, since the probe
holds it too.

One thread runs the handler, so a call it owes comes before its next
packet. A panic of the handler leaves the entry as it was, and no packet
follows it.
-/
import ZeroDpi.ConnectionTask
import ZeroDpi.Handler

namespace ZeroDpi.ConnectionTask

open Lib Handler

/-- The flow of a TTL probe, as the packet thread meets it. -/
structure ProbeFlow where
  /-- The slot of the probe's key holds the entry. -/
  taken : Bool
  entry : FlowState
  /-- The call the handler owes the entry. -/
  owed : Option Deferred
  /-- What the handler answered to the packets of the flow. No step reads
  it. -/
  answered : List (PacketView × Verdict)
  deriving DecidableEq

/-- A local controller, at the probe's key. -/
def probeRegistry : Registry ProbeFlow where
  registerFlow _ fakeData lowTtlOverride :=
    .act
      (World.onController fun c =>
        if c.taken then c
        else ⟨true, .new fakeData lowTtlOverride, none, []⟩)
      fun w => .done (if w.controller.taken
        then .error "flow is already registered" else .ok ())
  removeFlow _ c := { c with taken := false }
  flowExists _ c := c.taken

/-- What happens to the flow while the probe waits. -/
inductive FlowEvent where
  | packet (env : HookEnv) (pkt : CapturedPacket)
  /-- The call that the handler owes. -/
  | owed
  /-- `reset` ends the entry, -/
  | resetFinishes
  /-- and takes it out of the table. -/
  | resetClears

namespace ProbeFlow

/-- A packet has gone through the handler. -/
def handled (f : ProbeFlow) (l : Locked) : ProbeFlow :=
  { f with
    entry := l.state
    owed := l.deferred
    answered := f.answered ++ [(l.pkt, l.verdict)] }

/-- The packet thread handles a packet of the probe or makes the owed call.
-/
inductive Step {μ : Type} [BypassMethod μ] (method : μ) :
    ProbeFlow → FlowEvent → ProbeFlow → Prop where
  | packet {f : ProbeFlow} {env : HookEnv} {pkt : CapturedPacket}
      {l : Locked} (htaken : f.taken = true) (howed : f.owed = none)
      (hlocked : onPacketLocked method env f.entry pkt.view = .ok l) :
      Step method f (.packet env pkt) (f.handled l)
  | owed {f : ProbeFlow} {call : Deferred} (howed : f.owed = some call) :
      Step method f .owed { f with entry := call.run f.entry, owed := none }
  | resetFinishes {f : ProbeFlow} (htaken : f.taken = true) :
      Step method f .resetFinishes
        { f with entry := f.entry.finish .unexpectedClose }
  | resetClears {f : ProbeFlow} :
      Step method f .resetClears { f with taken := false }

end ProbeFlow

/-- The others, while a probe waits. -/
def probeEnv {μ : Type} [BypassMethod μ] (method : μ)
    (w : World ProbeFlow) (event : FlowEvent) (w' : World ProbeFlow) : Prop :=
  ∃ f, ProbeFlow.Step method w.controller event f
    ∧ w' = { w with controller := f }

/-- `wait_for_bypass_progress` that ends in time ends with what it reads
(`bypass_progress`). -/
def ReadsProgress (w : World ProbeFlow) :
    Task.Item Wait Wait.Reply FlowEvent → Prop
  | .reply .bypassProgress (some progress) =>
      w.controller.entry.progress = some progress
  | _ => True

/-- The decoy of a probe, as the handler answers with it. -/
structure IsDecoy (fakeData : Bytes) (ttl : UInt8)
    (answer : PacketView × Verdict) : Prop where
  emitted : answer.2 = .acceptModified
  payload : answer.1.newPayload = some fakeData
  stamped : answer.1.newIpv4Ttl = some ttl

end ZeroDpi.ConnectionTask
