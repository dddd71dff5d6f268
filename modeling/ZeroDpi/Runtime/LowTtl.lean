/-
The live `low_ttl` value: `LowTtlApplier` (zerodpi/src/main.rs) and the
two planes whose handle it writes (zerodpi/src/data_plane.rs).

The local plane has one method for its lifetime and hands it to the
handler of every interceptor it opens. The helper builds a method from
its configuration each time it opens an interceptor, and takes the handle
of that one.

A call runs to its end before the next one begins. What a request to the
helper meets on its way is its `Reception`; what stopping and opening an
interceptor in this process come to is decided outside, and
`Runtime.LocalPlane` has their protocol.
-/
import ZeroDpi.Helper.Controller
import ZeroDpi.Helper.Recovery
import ZeroDpi.Runtime.LocalPlane

namespace ZeroDpi.Helper

-- ========================================================= the requests

/-- What a request meets: whether the socket takes it, what the helper's
turn does not decide, and whether the answer comes before the timeout. -/
structure Reception where
  io : Bool := true
  env : ServeEnv := {}
  inTime : Bool := true

namespace RemoteFlowController

/-- The client `connect` returns, and the helper that has accepted its
`Hello`. -/
def connected (peer : Peer) : RemoteFlowController where
  peer := peer
  client := .connected
  helper := some { Session.new with state := .authenticated }

/-- The frames of a write, each a turn of the helper. -/
def serveIn (env : ServeEnv) (r : RemoteFlowController)
    (frames : List Frame) : RemoteFlowController :=
  frames.foldl (fun r frame =>
    match r.helper with
    | none => r
    | some session => r.receive (serveFrame r.peer env session frame)) r

/-- `request`. An answer that is late finds nobody waiting. -/
def ask (r : RemoteFlowController) (on : Reception) (message : Message) :
    Except String Message × RemoteFlowController :=
  let begun := r.client.beginRequest on.io message
  match begun.waits with
  | .error error => (.error error, { r with client := begun.client })
  | .ok requestId =>
      if on.inTime then
        let r := { r with client := begun.client }.serveIn on.env begun.wrote
        match r.client.takeAnswer requestId with
        | some (answer, client) => (answer, { r with client := client })
        | none =>
            (.error "root helper request timed out",
              { r with client := r.client.timeOut requestId })
      else
        (.error "root helper request timed out",
          { r with client := begun.client.timeOut requestId }.serveIn
            on.env begun.wrote)

/-- A request with the one answer its caller takes. -/
def expect (r : RemoteFlowController) (on : Reception) (what : String)
    (message expected : Message) :
    Except String Unit × RemoteFlowController :=
  match r.ask on message with
  | (.error error, r) => (.error error, r)
  | (.ok answer, r) =>
      if answer = expected then (.ok (), r)
      else (.error s!"unexpected helper {what} response: {repr answer}", r)

/-- `configure`. -/
def configure (r : RemoteFlowController) (on : Reception)
    (config : InterceptorConfig) : Except String Unit × RemoteFlowController :=
  r.expect on "configure" (.configureInterceptor config) .configured

/-- `open`. -/
def openInterceptor (r : RemoteFlowController) (on : Reception) :
    Except String Unit × RemoteFlowController :=
  r.expect on "open" .openInterceptor .interceptorReady

/-- `close`. -/
def close (r : RemoteFlowController) (on : Reception) :
    Except String Unit × RemoteFlowController :=
  r.expect on "close" .closeInterceptor .interceptorClosed

/-- `set_low_ttl_value`. -/
def setLowTtlValue (r : RemoteFlowController) (on : Reception)
    (value : UInt8) : Except String Unit × RemoteFlowController :=
  r.expect on "set-low-ttl" (.setLowTtlValue value) .setLowTtlAck

end RemoteFlowController

end ZeroDpi.Helper

namespace ZeroDpi.Runtime

open Helper

-- ============================================================ the planes

/-- The value behind `low_ttl_handle()` of a method built from `cfg`. -/
def lowTtlHandle (cfg : Config) (method : CompositeMethod Member) :
    Option UInt8 :=
  method.handshakeMethods.findSome? fun
    | .lowTtl _ => some cfg.lowTtlValue
    | _ => none

/-- The method side of a `LocalPlane`. -/
structure MethodPlane where
  method : CompositeMethod Member
  /-- The value behind the method's `low_ttl_handle()`. -/
  lowTtlHandle : Option UInt8
  /-- The method of the running handler. -/
  handler : Option (CompositeMethod Member)

/-- The planes that intercept (`Inner`). -/
inductive Plane where
  | desktop (plane : MethodPlane)
  | android (helper : RemoteFlowController)

/-- What the requests of a rebuild meet, and how a local one stops and
opens. -/
structure Rebuilding where
  stop : Except String Unit := .ok ()
  opening : Opening := .opened
  close : Reception := {}
  configure : Reception := {}
  reopen : Reception := {}

namespace MethodPlane

/-- `LocalPlane::open`: the handler gets the plane's method. -/
def openPlane (p : MethodPlane) :
    Opening → Except String Unit × MethodPlane
  | .openFailed _ => (.error "open packet interceptor", p)
  | .spawnFailed _ => (.error "spawn intercept thread", p)
  | .opened => (.ok (), { p with handler := some p.method })

/-- `rebuild` on a local plane. -/
def rebuild (p : MethodPlane) (on : Rebuilding) :
    Except String Unit × MethodPlane :=
  match on.stop with
  | .error error => (.error error, p)
  | .ok _ => { p with handler := none }.openPlane on.opening

end MethodPlane

/-- `prepare_remote`. -/
def prepareRemote (cfg : Config) (r : RemoteFlowController)
    (binding : InterfaceBinding) (on : Rebuilding) :
    Except String Unit × RemoteFlowController :=
  match r.configure on.configure
      (interceptorConfig cfg binding.ip none connectPort) with
  | (.error _, r) => (.error "configure root helper interceptor", r)
  | (.ok _, r) => r.openInterceptor on.reopen

/-- `rebuild` on a remote plane. -/
def rebuildRemote (cfg : Config) (r : RemoteFlowController)
    (binding : InterfaceBinding) (on : Rebuilding) :
    Except String Unit × RemoteFlowController :=
  match r.close on.close with
  | (.error _, r) => (.error "close root helper interceptor", r)
  | (.ok _, r) =>
      match { r with client := r.client.reset }.configure on.configure
          (interceptorConfig cfg binding.ip none connectPort) with
      | (.error _, r) => (.error "reconfigure root helper interceptor", r)
      | (.ok _, r) => r.openInterceptor on.reopen

namespace Plane

/-- `DataPlaneController::rebuild`. -/
def rebuild (cfg : Config) (p : Plane) (binding : InterfaceBinding)
    (on : Rebuilding) : Except String Unit × Plane :=
  match p with
  | .desktop plane =>
      let (result, plane) := plane.rebuild on
      (result, .desktop plane)
  | .android r =>
      let (result, r) := rebuildRemote cfg r binding on
      (result, .android r)

/-- `LowTtlApplier::apply`. -/
def apply (p : Plane) (on : Reception) (value : UInt8) : Bool × Plane :=
  match p with
  | .desktop plane =>
      (true, .desktop { plane with
        lowTtlHandle := plane.lowTtlHandle.map fun _ => value })
  | .android r =>
      let (result, r) := r.setLowTtlValue on value
      (result.isOk, .android r)

/-- The method of the running handler, and the value its `low_ttl` handle
holds. -/
def running : Plane → Option (CompositeMethod Member × Option UInt8)
  | .desktop plane => plane.handler.map fun method =>
      (method, plane.lowTtlHandle)
  | .android r => do
      let session ← r.helper
      let active ← session.interceptor
      return (active.method, session.lowTtlHandle)

/-- The TTL that `LowTtl` in the running handler stamps on the handshake
fake of a flow. -/
def stampedTtl (p : Plane) (rngState : UInt64) (flow : FlowState)
    (pkt : PacketView) : Option UInt8 := do
  let (method, handle) ← p.running
  let ttl ← handle
  method.handshakeMethods.findSome? fun
    | .lowTtl m =>
        (m.onHandshakeCompleteAck ⟨ttl, rngState⟩ flow pkt).toOption.bind
          (·.2.newIpv4Ttl)
    | _ => none

/-- The planes `run` sets up: `DataPlaneController::local`, or
`remote_pending` and `prepare_remote`. -/
inductive Started (cfg : Config) : Plane → Prop where
  | desktop {freshSeed : MethodName → UInt64}
      {method : CompositeMethod Member}
      (hbuilt : buildMethod cfg freshSeed = some method) :
      Started cfg (.desktop {
        method := method
        lowTtlHandle := Runtime.lowTtlHandle cfg method
        handler := some method })
  | android {peer : Peer} {binding : InterfaceBinding} {on : Rebuilding}
      {r : RemoteFlowController}
      (hready : prepareRemote cfg (.connected peer) binding on
        = (.ok (), r)) :
      Started cfg (.android r)

/-- The calls that discovery and recovery make. -/
inductive Call where
  | apply (value : UInt8) (on : Reception)
  | rebuild (binding : InterfaceBinding) (on : Rebuilding)

/-- The TTL that is to be in force after a call, if it was `ttl` before:
an applied value stays until the next one. -/
def Call.applied (ttl : UInt8) : Call → UInt8
  | .apply value _ => value
  | .rebuild _ _ => ttl

/-- The most recently applied value, or `LOW_TTL_VALUE`. -/
def lastApplied (cfg : Config) (calls : List Call) : UInt8 :=
  calls.foldl Call.applied cfg.lowTtlValue

/-- Interception runs in the root helper. -/
def isRemote : Plane → Bool
  | .desktop _ => false
  | .android _ => true

/-- A call succeeds and leaves the plane as it does. -/
inductive Succeeds (cfg : Config) : Plane → Call → Plane → Prop where
  | apply {p p' : Plane} {value : UInt8} {on : Reception}
      (h : p.apply on value = (true, p')) :
      Succeeds cfg p (.apply value on) p'
  | rebuild {p p' : Plane} {binding : InterfaceBinding} {on : Rebuilding}
      (h : p.rebuild cfg binding on = (.ok (), p')) :
      Succeeds cfg p (.rebuild binding on) p'

end Plane

end ZeroDpi.Runtime
