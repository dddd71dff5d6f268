/-
Recovery on the remote plane: a coordinator that runs
`DataPlaneController::rebuild` again and again (zerodpi/src/data_plane.rs)
while connection tasks register and remove flows and the heartbeat pings,
all over one socket to the helper.

The socket is two queues of frames, written under the client's writer
lock and handled in order. `rebuild` holds the plane's lock, so there is
one coordinator; its program counter is a `Stage`. An action names who
moves and what the outside decides; `step` is `none` when that party
cannot move.

`lastLifecycle` is a history variable: the last lifecycle request that
was written. No action reads it.
-/
import ZeroDpi.Helper.Client
import ZeroDpi.Helper.Session

namespace ZeroDpi.Helper

open Lib

/-- `CONNECT_PORT`. -/
def connectPort : UInt16 := 443

/-- Where the coordinator is in `rebuild`: outside, or waiting for the
answer to one of its three requests. -/
inductive Stage where
  | idle
  | closing (requestId : UInt32) (interfaceIp : Ipv4Addr)
  | configuring (requestId : UInt32)
  | opening (requestId : UInt32)
  deriving DecidableEq

/-- The three lifecycle requests of `rebuild`. -/
inductive Lifecycle where
  | close
  | configure
  | opened
  deriving DecidableEq

/-- A `register_flow` call that waits for its answer. -/
structure Registering where
  requestId : UInt32
  key : FlowKey
  flowId : UInt64
  deriving DecidableEq

/-- The client, the helper and the frames between them. -/
structure System where
  client : RemoteHelperClient
  stage : Stage
  registering : List Registering
  lastLifecycle : Lifecycle
  /-- Frames on the way to the helper. -/
  requests : List Frame
  /-- Frames on the way to the client. -/
  replies : List Frame
  /-- The helper's session, until `serve` returns. -/
  helper : Option Session

/-- The moves of the parties; `io` says whether the socket takes the
writes of the move. -/
inductive Act where
  /-- The coordinator calls `rebuild` for a binding. -/
  | rebuild (interfaceIp : Ipv4Addr) (io : Bool)
  /-- The coordinator takes the answer to its request. -/
  | resume (io : Bool)
  /-- The coordinator's request times out. -/
  | expire
  /-- A connection task calls `register_flow`. -/
  | register (key : FlowKey) (fakeData : Bytes)
      (lowTtlOverride : Option UInt8) (io : Bool)
  /-- A connection task takes the answer to its registration. -/
  | registered (call : Registering) (io : Bool)
  /-- A registration times out. -/
  | registerExpire (call : Registering) (io : Bool)
  /-- A connection task calls `remove_flow`. -/
  | remove (key : FlowKey) (io : Bool)
  /-- The heartbeat thread pings. -/
  | heartbeat (io : Bool)
  /-- The client's reader handles the next frame. -/
  | receive
  /-- The client's reader finds the socket broken. -/
  | lose (reason : String)
  /-- The helper handles the next request. -/
  | serve (env : ServeEnv)
  /-- The helper polls its interceptor. -/
  | poll (env : ServeEnv) (failure : Option String)
  /-- The helper's packet thread handles a packet. -/
  | packet (flowId : UInt64) (env : HookEnv) (pkt : CapturedPacket)
  /-- `serve` gives up: heartbeat timeout or a broken socket. -/
  | quit (env : ServeEnv) (timedOut : Bool)

namespace System

/-- Frames written to the socket. -/
def send (sys : System) (frames : List Frame) : System :=
  { sys with requests := sys.requests ++ frames }

/-- One lifecycle request of `rebuild`: on to the wait, or out of
`rebuild` with the error. -/
def lifecycleRequest (sys : System) (io : Bool) (message : Message)
    (kind : Lifecycle) (next : UInt32 → Stage) : System :=
  let begun := sys.client.beginRequest io message
  match begun.waits with
  | .ok requestId =>
      { sys.send begun.wrote with
        client := begun.client
        stage := next requestId
        lastLifecycle := kind }
  | .error _ =>
      { sys.send begun.wrote with client := begun.client, stage := .idle }

/-- `rebuild` after a wait: the expected answer goes on to the next
request, anything else is its error. -/
def resume (cfg : Config) (sys : System) (io : Bool) : Option System := do
  match sys.stage with
  | .idle => none
  | .closing requestId interfaceIp =>
      let (answer, client) ← sys.client.takeAnswer requestId
      let sys := { sys with client := client }
      if answer.toOption = some .interceptorClosed then
        let sys := { sys with client := client.reset }
        return sys.lifecycleRequest io
          (.configureInterceptor
            (interceptorConfig cfg interfaceIp none connectPort))
          .configure .configuring
      else return { sys with stage := .idle }
  | .configuring requestId =>
      let (answer, client) ← sys.client.takeAnswer requestId
      let sys := { sys with client := client }
      if answer.toOption = some .configured then
        return sys.lifecycleRequest io .openInterceptor .opened .opening
      else return { sys with stage := .idle }
  | .opening requestId =>
      let (_, client) ← sys.client.takeAnswer requestId
      return { sys with client := client, stage := .idle }

/-- The request the coordinator waits for. -/
def awaited (sys : System) : Option UInt32 :=
  match sys.stage with
  | .idle => none
  | .closing requestId _ | .configuring requestId | .opening requestId =>
      some requestId

/-- A turn of the helper's loop, with the frames it took and sent. -/
def served (sys : System) (rest : List Frame) (turn : Served) : System :=
  { sys with
    requests := rest
    replies := sys.replies ++ turn.sent
    helper := turn.session }

/-- One move. -/
def step (cfg : Config) (peer : Peer) (sys : System) :
    Act → Option System
  | .rebuild interfaceIp io =>
      if sys.stage = .idle then
        some (sys.lifecycleRequest io .closeInterceptor .close
          (.closing · interfaceIp))
      else none
  | .resume io => sys.resume cfg io
  | .expire => do
      let requestId ← sys.awaited
      return { sys with
        client := sys.client.timeOut requestId
        stage := .idle }
  | .register key fakeData lowTtlOverride io =>
      let (begun, flowId) :=
        sys.client.beginRegister io key fakeData lowTtlOverride
      let sys := { sys.send begun.wrote with client := begun.client }
      some (match begun.waits with
        | .ok requestId => { sys with
            registering := ⟨requestId, key, flowId⟩ :: sys.registering }
        | .error _ => sys)
  | .registered call io => do
      if call ∉ sys.registering then none
      let (answer, client) ← sys.client.takeAnswer call.requestId
      let (client, frames) :=
        client.endRegister io call.key call.flowId answer
      return { sys.send frames with
        client := client
        registering := sys.registering.erase call }
  | .registerExpire call io =>
      if call ∈ sys.registering then
        let (client, frames) :=
          (sys.client.timeOut call.requestId).removeFlow io call.key
        some { sys.send frames with
          client := client
          registering := sys.registering.erase call }
      else none
  | .remove key io =>
      let (client, frames) := sys.client.removeFlow io key
      some { sys.send frames with client := client }
  | .heartbeat io =>
      if sys.client.disconnected then none
      else if io then some (sys.send [⟨0, .ping⟩])
      else some { sys with
        client := sys.client.disconnect "write root-helper request" }
  | .receive =>
      match sys.replies with
      | [] => none
      | frame :: rest => some { sys with
          client := sys.client.handleFrame frame
          replies := rest }
  | .lose reason =>
      some { sys with client := sys.client.disconnect reason }
  | .serve env =>
      match sys.helper, sys.requests with
      | some session, frame :: rest =>
          some (sys.served rest (serveFrame peer env session frame))
      | _, _ => none
  | .poll env failure =>
      sys.helper.map fun session =>
        sys.served sys.requests (Helper.poll env failure session)
  | .packet flowId env pkt =>
      sys.helper.map fun session =>
        { sys with helper := some (onHelperPacket session flowId env pkt) }
  | .quit env timedOut =>
      sys.helper.map fun _ =>
        sys.served sys.requests
          (if timedOut then
            fatal env 0 .internal "data-plane heartbeat timed out"
          else ended)

end System
end ZeroDpi.Helper
