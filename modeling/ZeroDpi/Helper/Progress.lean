/-
Flow progress, critical section by critical section.

`System` handles a packet, and a poll of all flows, in one move. Here both
are cut where the locks are: a packet is its critical section, the call
the released lock owes is a move of its own (the entry may be polled in
between), and `publish_progress` is one move per flow it visits: it reads
the entry under the lock, and what it writes afterwards nobody else
changes. The other moves of the parties are those of `System`.

`sent` and `cutOff` are history variables, which no move reads: the
progress reports the helper wrote, and the flows the client's disconnect
ended.
-/
import ZeroDpi.Helper.Recovery

namespace ZeroDpi.Helper

open Lib Handler

/-- Client and helper, with the reports that went out about the flows. -/
structure Watched where
  sys : System
  /-- The calls that released locks still owe, with their flows. -/
  owed : List (UInt64 × Deferred)
  /-- The progress reports written, in order. -/
  sent : List (UInt64 × Progress)
  /-- The flows without an outcome when the client disconnected. -/
  cutOff : List UInt64

/-- What may happen to client and helper. -/
inductive WatchedAct where
  /-- A move of a party, other than a packet or a healthy poll. -/
  | party (act : Act)
  /-- The packet thread holds the lock of a flow for a packet. -/
  | packet (flowId : UInt64) (env : HookEnv) (pkt : CapturedPacket)
  /-- The packet thread makes an owed call. -/
  | resume (flowId : UInt64) (call : Deferred)
  /-- `publish_progress` visits a flow; `io` says whether the socket
  takes the report. -/
  | publish (flowId : UInt64) (io : Bool)

/-- The two moves that are cut into critical sections here. -/
def Act.isWatched : Act → Bool
  | .packet .. => true
  | .poll _ none => true
  | _ => false

/-- The flows that a move of the client ended by disconnecting. -/
def System.cutOffBy (sys sys' : System) : List UInt64 :=
  if !sys.client.disconnected && sys'.client.disconnected then
    (sys.client.flows.filter fun e => e.2.outcome.isNone).map Prod.fst
  else []

namespace Watched

/-- A change of one registration. -/
def modify (w : Watched) (flowId : UInt64)
    (f : RegisteredFlow → RegisteredFlow) : Watched :=
  { w with sys := { w.sys with
      helper := w.sys.helper.map fun session =>
        { session with registered := session.registered.modify flowId f } } }

/-- A flow of the helper and the method of its running interceptor. -/
def flow? (w : Watched) (flowId : UInt64) :
    Option (CompositeMethod Member × RegisteredFlow) := do
  let session ← w.sys.helper
  let active ← session.interceptor
  let flow ← session.registered.get? flowId
  return (active.method, flow)

/-- The report of one visit, if it is news. -/
def publish (w : Watched) (flowId : UInt64) (io : Bool)
    (flow : RegisteredFlow) : Watched :=
  match flow.news with
  | none => w
  | some progress =>
      if io then
        let w := w.modify flowId fun flow =>
          { flow with lastProgress := some progress }
        { w with
          sys := { w.sys with
            replies := w.sys.replies ++ [⟨0, .flowProgress flowId progress⟩] }
          sent := w.sent ++ [(flowId, progress)] }
      else { w with sys := { w.sys with helper := none } }

/-- One move. -/
def step (cfg : Config) (peer : Peer) (w : Watched) :
    WatchedAct → Option Watched
  | .party act =>
      if act.isWatched then none
      else (w.sys.step cfg peer act).map fun sys => { w with
        sys := sys
        cutOff := w.sys.cutOffBy sys ++ w.cutOff }
  | .packet flowId env pkt => do
      let (method, flow) ← w.flow? flowId
      let l ← (onPacketLocked method env flow.entry pkt.view).toOption
      return { w.modify flowId fun flow => { flow with entry := l.state } with
        owed := l.deferred.toList.map (flowId, ·) ++ w.owed }
  | .resume flowId call =>
      if (flowId, call) ∈ w.owed then
        some { w.modify flowId fun flow =>
            { flow with entry := call.run flow.entry } with
          owed := w.owed.erase (flowId, call) }
      else none
  | .publish flowId io => do
      let (_, flow) ← w.flow? flowId
      return w.publish flowId io flow

end Watched
end ZeroDpi.Helper
