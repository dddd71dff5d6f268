/-
The remote flow controller: `RemoteHelperClient` as a `FlowController`
(zerodpi/src/helper_client.rs), with the helper that answers it.

A call runs to its end before the next one begins. What it writes reaches
`serve` in order, each frame a turn, and what `serve` sends reaches
`handle_frame` in order before anything else happens; when `serve`
returns, the client's reader finds the end of the stream. Nothing is
lost and nothing is late: the socket takes every frame that `write_frame`
makes, and a request times out only if no answer is coming.

Between calls the heartbeat pings, the helper polls its interceptor, and
its packet thread handles packets.
-/
import ZeroDpi.Helper.Client
import ZeroDpi.Helper.Codec
import ZeroDpi.Helper.Session

namespace ZeroDpi.Helper

open Lib

/-- A client and the helper at the other end of its socket. -/
structure RemoteFlowController where
  peer : Peer
  client : RemoteHelperClient
  /-- The helper's session, until `serve` returns. -/
  helper : Option Session

namespace RemoteFlowController

/-- What a turn of `serve` sent is handled by the client's reader, and
the end of `serve` is the end of the stream. -/
def receive (r : RemoteFlowController) (turn : Served) :
    RemoteFlowController :=
  let client := turn.sent.foldl RemoteHelperClient.handleFrame r.client
  { r with
    client := match turn.session with
      | some _ => client
      | none => client.disconnect "I/O error: failed to fill whole buffer"
    helper := turn.session }

/-- The frames of a write, served one after another. -/
def deliver (r : RemoteFlowController) (frames : List Frame) :
    RemoteFlowController :=
  frames.foldl (fun r frame =>
    match r.helper with
    | none => r
    | some session => r.receive (serveFrame r.peer {} session frame)) r

/-- `write_frame` makes a frame of the message. -/
def framed (message : Message) : Bool :=
  decide (message.toVec.length ≤ maxFrameSize)

/-- `Inner::write`, and what comes of it. -/
def write (r : RemoteFlowController) (requestId : UInt32)
    (message : Message) : RemoteFlowController :=
  r.deliver (RemoteHelperClient.write (framed message) requestId message)

/-- `request`. -/
def request (r : RemoteFlowController) (message : Message) :
    Except String Message × RemoteFlowController :=
  let begun := r.client.beginRequest (framed message) message
  let r := { r with client := begun.client }
  match begun.waits with
  | .error error => (.error error, r)
  | .ok requestId =>
      let r := r.deliver begun.wrote
      match r.client.takeAnswer requestId with
      | some (answer, client) => (answer, { r with client := client })
      | none =>
          (.error "root helper request timed out",
            { r with client := r.client.timeOut requestId })

/-- `remove_flow`. -/
def removeFlow (r : RemoteFlowController) (key : FlowKey) :
    RemoteFlowController :=
  let (client, wrote) := r.client.removeFlow true key
  { r with client := client }.deliver wrote

/-- `register_flow`. -/
def registerFlow (r : RemoteFlowController) (key : FlowKey)
    (fakeData : Bytes) (lowTtlOverride : Option UInt8) :
    Except String FlowState × RemoteFlowController :=
  let flowId := r.client.nextFlowId
  let client := { r.client with nextFlowId := flowId + 1 }
  if flowId = 0 then
    (.error "helper flow identifier space exhausted",
      { r with client := client })
  else
    let entry := FlowState.new [] lowTtlOverride
    let client := { client with
      flows := client.flows.insert flowId entry
      flowIds := client.flowIds.insert key flowId }
    match { r with client := client }.request
        (.registerFlow flowId key fakeData lowTtlOverride) with
    | (.ok response, r) =>
        if response = .flowRegistered flowId then (.ok entry, r)
        else
          (.error s!"unexpected flow registration response: {repr response}",
            r.removeFlow key)
    | (.error error, r) => (.error error, r.removeFlow key)

end RemoteFlowController

instance : FlowController RemoteFlowController where
  registerFlow := RemoteFlowController.registerFlow
  flowExists r key := r.client.flowIds.containsKey key
  removeFlow := RemoteFlowController.removeFlow
  reset r := { r with client := r.client.reset }

-- ========================================================== the two planes

/-- What happens to a flow controller: a call, or what goes on between
two calls on the remote plane. -/
inductive Move where
  | call (call : FlowCall)
  /-- The heartbeat thread pings. -/
  | heartbeat
  /-- The helper polls a running interceptor. -/
  | poll
  /-- The helper's packet thread handles a packet. -/
  | packet (flowId : UInt64) (env : HookEnv) (pkt : CapturedPacket)

/-- A move and what its caller learns. -/
def RemoteFlowController.move (r : RemoteFlowController) :
    Move → FlowAnswer × RemoteFlowController
  | .call call => FlowController.call r call
  | .heartbeat => (.done, r.write 0 .ping)
  | .poll => (.done,
      match r.helper with
      | none => r
      | some session => r.receive (Helper.poll {} none session))
  | .packet flowId env pkt => (.done, { r with
      helper := r.helper.map fun session =>
        onHelperPacket session flowId env pkt })

/-- The same move on the local plane, which has no helper. -/
def LocalFlowController.move (c : LocalFlowController) :
    Move → FlowAnswer × LocalFlowController
  | .call call => FlowController.call c call
  | _ => (.done, c)

/-- A desktop build and an Android build that are given the same calls. -/
structure Controllers where
  desktop : LocalFlowController
  android : RemoteFlowController

/-- One move on both. -/
def Controllers.step (s : Controllers) (m : Move) : Controllers where
  desktop := (LocalFlowController.move s.desktop m).2
  android := (s.android.move m).2

end ZeroDpi.Helper
