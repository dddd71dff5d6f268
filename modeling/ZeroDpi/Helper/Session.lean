/-
The helper's side of the protocol: `serve`
(zerodpi-root-helper/src/unix.rs).

One turn of its loop is a poll of the interceptor and at most one frame.
`serveFrame` is the frame half, `poll` the poll half. A turn either
leaves a session behind or ends `serve`, and has sent some frames either
way (`Served`). What the turn cannot decide by itself is its `ServeEnv`:
firewall recovery, opening and joining the interceptor thread, and how
many frames the socket still takes.

The packet thread and `registered` share the flow entries. Here an entry
lives in its registration, and the flow table of the interceptor names
the registration.
-/
import ZeroDpi.Helper.Protocol
import ZeroDpi.Handler
import ZeroDpi.Methods.Composite
import ZeroDpi.Lib.Table

namespace ZeroDpi.Helper

open Lib

-- ===================================================== build_wire_method

/-- The configuration `build_wire_method` assembles: the defaults, and
the method fields the protocol carries. -/
def wireConfig (wire : MethodConfig) : Config where
  bypassMethod := wire.methods.flatMap expandMethodAlias
  wrongSeqExtraOffset := wire.wrongSeqExtraOffset
  wrongSeqSetPsh := wire.wrongSeqSetPsh
  wrongSeqBumpIpIdent := wire.wrongSeqBumpIpIdent
  wrongChecksumDelta := wire.wrongChecksumDelta
  wrongChecksumSetPsh := wire.wrongChecksumSetPsh
  wrongChecksumBumpIpIdent := wire.wrongChecksumBumpIpIdent
  wrongChecksumCompleteImmediately := wire.wrongChecksumCompleteImmediately
  wrongMd5SetPsh := wire.wrongMd5SetPsh
  wrongMd5BumpIpIdent := wire.wrongMd5BumpIpIdent
  wrongMd5CompleteImmediately := wire.wrongMd5CompleteImmediately
  wrongAckOffset := wire.wrongAckOffset
  wrongAckSetPsh := wire.wrongAckSetPsh
  wrongAckBumpIpIdent := wire.wrongAckBumpIpIdent
  wrongAckCompleteImmediately := wire.wrongAckCompleteImmediately
  wrongTimestampOffset := wire.wrongTimestampOffset
  wrongTimestampSetPsh := wire.wrongTimestampSetPsh
  wrongTimestampBumpIpIdent := wire.wrongTimestampBumpIpIdent
  wrongTimestampCompleteImmediately := wire.wrongTimestampCompleteImmediately
  tlsRecordFragSize := wire.tlsRecordFragSize
  tlsRecordFragSetPsh := wire.tlsRecordFragSetPsh
  tlsRecordFragBumpIpIdent := wire.tlsRecordFragBumpIpIdent
  lowTtlValue := wire.lowTtlValue
  lowTtlSetPsh := wire.lowTtlSetPsh
  lowTtlBumpIpIdent := wire.lowTtlBumpIpIdent
  lowTtlCompleteImmediately := wire.lowTtlCompleteImmediately

/-- `build_wire_method`. -/
def buildWireMethod (wire : MethodConfig)
    (freshSeed : MethodName → UInt64) : Option (CompositeMethod Member) :=
  buildMethod (wireConfig wire) freshSeed

/-- The value behind `low_ttl_handle()` of a freshly built method. -/
def freshLowTtlHandle (wire : MethodConfig) (m : CompositeMethod Member) :
    Option UInt8 :=
  m.handshakeMethods.findSome? fun
    | .lowTtl _ => some wire.lowTtlValue
    | _ => none

-- ============================================================= the state

/-- A flow of the session, with the progress last published. -/
structure RegisteredFlow where
  key : FlowKey
  entry : FlowState
  lastProgress : Option Progress
  deriving DecidableEq

/-- A running interceptor: its method, and its flow table. -/
structure InterceptorSession where
  flows : Table FlowKey UInt64
  method : CompositeMethod Member
  deriving DecidableEq

/-- The variables of `serve`. -/
structure Session where
  state : HelperState
  config : Option InterceptorConfig
  interceptor : Option InterceptorSession
  lowTtlHandle : Option UInt8
  registered : Table UInt64 RegisteredFlow
  deriving DecidableEq

/-- A session that no client has configured. -/
def Session.new : Session where
  state := .created
  config := none
  interceptor := none
  lowTtlHandle := none
  registered := []

/-- What `serve` knows about its two ends. -/
structure Peer where
  proof : Bytes
  peerPid : UInt32
  peerUid : UInt32
  helperPid : UInt32
  helperUid : UInt32
  deriving DecidableEq

/-- What a turn of the loop does not decide. -/
structure ServeEnv where
  /-- `recover_stale_firewall_state`: the objects removed, or its error. -/
  recovered : Option Nat := some 0
  /-- The interceptor opens and its thread is spawned. -/
  opens : Bool := true
  /-- The interceptor thread is joined and reports success. -/
  closes : Bool := true
  /-- Frames the socket takes before a write fails. -/
  writable : Nat := 4096
  freshSeed : MethodName → UInt64 := fun _ => 0

/-- What a turn leaves: the session, unless `serve` returned, and the
frames that went out. -/
structure Served where
  session : Option Session
  sent : List Frame
  deriving DecidableEq

-- ============================================================== replies

/-- `serve` returns without another word. -/
def ended : Served := { session := none, sent := [] }

/-- The frames sent in order, each with `?`, before going on. -/
def answer (env : ServeEnv) (frames : List Frame)
    (next : Option Session) : Served :=
  if frames.length ≤ env.writable then { session := next, sent := frames }
  else { session := none, sent := frames.take env.writable }

/-- A `HelperFatal`, after which `serve` bails. -/
def fatal (env : ServeEnv) (requestId : UInt32) (code : ErrorCode)
    (message : String) : Served :=
  answer env [⟨requestId, .helperFatal code message⟩] none

/-- `close_interceptor`: the registrations are gone either way. -/
def closeInterceptor (env : ServeEnv) (s : Session) : Option Session :=
  if s.interceptor.isSome && !env.closes then none
  else some { s with registered := [], interceptor := none }

-- =========================================================== the requests

/-- `Hello`. -/
def onHello (peer : Peer) (env : ServeEnv) (s : Session)
    (requestId : UInt32) (hello : Hello) : Served :=
  if hello.sessionProof ≠ peer.proof then
    fatal env requestId .authenticationFailed "session authentication failed"
  else if hello.dataPlanePid ≠ peer.peerPid then
    fatal env requestId .authenticationFailed
      "data-plane PID did not match peer credentials"
  else answer env
    [⟨requestId, .helloAccepted {
        peerUid := peer.peerUid
        helperPid := peer.helperPid
        helperUid := peer.helperUid
        protocolMajor := protocolMajor
        protocolMinor := protocolMinor
        capabilities := ["nfqueue", "flow_progress"] }⟩]
    (some { s with state := .authenticated })

/-- `ConfigureInterceptor`. -/
def onConfigure (env : ServeEnv) (s : Session) (requestId : UInt32)
    (value : InterceptorConfig) : Served :=
  match value.validate, env.recovered with
  | .ok _, some recovered =>
      let warning : List Frame :=
        if 0 < recovered then
          [⟨0, .helperWarning .internal
            s!"recovered {recovered} stale firewall object(s)"⟩]
        else []
      answer env (warning ++ [⟨requestId, .configured⟩])
        (some { s with config := some value, state := .configured })
  | _, _ => ended

/-- `OpenInterceptor`. -/
def onOpen (env : ServeEnv) (s : Session) (requestId : UInt32) : Served :=
  match s.config with
  | none => ended
  | some value =>
      match buildWireMethod value.method env.freshSeed with
      | none => ended
      | some method =>
          if !env.opens then ended
          else answer env [⟨requestId, .interceptorReady⟩]
            (some { s with
              interceptor := some { flows := [], method := method }
              lowTtlHandle := freshLowTtlHandle value.method method
              state := .interceptorOpen })

/-- `RegisterFlow`. -/
def onRegisterFlow (env : ServeEnv) (s : Session) (requestId : UInt32)
    (flowId : UInt64) (key : FlowKey) (fakeData : Bytes)
    (lowTtlOverride : Option UInt8) : Served :=
  if s.registered.containsKey flowId then
    fatal env requestId .invalidState "duplicate flow identifier"
  else if maxLiveFlows ≤ s.registered.length then
    fatal env requestId .flowLimitReached "live flow limit reached"
  else if s.registered.any fun e => e.2.key = key then
    fatal env requestId .invalidState "duplicate flow key"
  else match s.interceptor with
    | none => ended
    | some active =>
        answer env [⟨requestId, .flowRegistered flowId⟩]
          (some { s with
            interceptor :=
              some { active with flows := active.flows.insert key flowId }
            registered := s.registered.insert flowId {
              key := key
              entry := .new fakeData lowTtlOverride
              lastProgress := none } })

/-- `RemoveFlow`. -/
def onRemoveFlow (env : ServeEnv) (s : Session) (requestId : UInt32)
    (flowId : UInt64) : Served :=
  let removed := match s.registered.get? flowId with
    | none => s
    | some flow => { s with
        registered := s.registered.remove flowId
        interceptor := s.interceptor.map fun active =>
          { active with flows := active.flows.remove flow.key } }
  answer env [⟨requestId, .flowRemoved flowId⟩] (some removed)

/-- The frame half of a turn. -/
def serveFrame (peer : Peer) (env : ServeEnv) (s : Session)
    (frame : Frame) : Served :=
  if !s.state.accepts frame.message then
    fatal env frame.requestId .invalidState
      "request is invalid in the current helper state"
  else match frame.message with
    | .hello hello => onHello peer env s frame.requestId hello
    | .configureInterceptor value => onConfigure env s frame.requestId value
    | .openInterceptor => onOpen env s frame.requestId
    | .registerFlow flowId key fakeData lowTtlOverride =>
        onRegisterFlow env s frame.requestId flowId key fakeData
          lowTtlOverride
    | .removeFlow flowId => onRemoveFlow env s frame.requestId flowId
    | .setLowTtlValue value =>
        answer env [⟨frame.requestId, .setLowTtlAck⟩]
          (some { s with lowTtlHandle := s.lowTtlHandle.map fun _ => value })
    | .closeInterceptor =>
        match closeInterceptor env s with
        | none => ended
        | some s => answer env [⟨frame.requestId, .interceptorClosed⟩]
            (some { s with state := .configured })
    | .ping => answer env [⟨frame.requestId, .pong⟩] (some s)
    | .shutdown =>
        match closeInterceptor env s with
        | none => ended
        | some _ => answer env [⟨frame.requestId, .shutdownComplete⟩] none
    -- `unreachable!`: no state accepts the remaining messages
    | _ => ended

-- =============================================================== the poll

/-- What `publish_progress` reports for an entry. -/
def Progress.ofFlow (s : FlowState) : Option Progress :=
  match s.progress with
  | some (.complete .fakeDataAcked) => some .fakeDataAcked
  | some (.complete .unexpectedClose) => some .unexpectedClose
  | some .readyForData => some .readyForData
  | none => none

/-- The report a registration owes, if it is news. -/
def RegisteredFlow.news (flow : RegisteredFlow) : Option Progress :=
  (Progress.ofFlow flow.entry).filter fun p => some p ≠ flow.lastProgress

/-- `publish_progress`. -/
def publishProgress (env : ServeEnv) (s : Session) : Served :=
  let frames : List Frame := s.registered.filterMap fun (flowId, flow) =>
    flow.news.map fun p => ⟨0, .flowProgress flowId p⟩
  answer env frames
    (some { s with
      registered := s.registered.map fun (flowId, flow) =>
        (flowId, { flow with
          lastProgress := flow.news.or flow.lastProgress }) })

/-- The poll half of a turn: `failure` is the error of an interceptor
thread that has finished. -/
def poll (env : ServeEnv) (failure : Option String) (s : Session) :
    Served :=
  match s.interceptor, failure with
  | none, _ => { session := some s, sent := [] }
  | some _, some message => fatal env 0 .interceptorFailed message
  | some _, none => publishProgress env s

/-- The packet thread handles a packet of a registered flow. -/
def onHelperPacket (s : Session) (flowId : UInt64) (env : HookEnv)
    (pkt : CapturedPacket) : Session :=
  match s.interceptor with
  | none => s
  | some active => { s with
      registered := s.registered.modify flowId fun flow =>
        match Handler.feed active.method flow.entry (env, pkt) with
        | .ok entry => { flow with entry := entry }
        | .error _ => flow }

-- =============================================================== the loop

/-- What moves a session: a frame, a poll, or the packet thread. -/
inductive Turn where
  | frame (env : ServeEnv) (frame : Frame)
  | poll (env : ServeEnv) (failure : Option String)
  | packet (flowId : UInt64) (env : HookEnv) (pkt : CapturedPacket)

/-- The session after a turn, if `serve` goes on. -/
def Session.turn (peer : Peer) (s : Session) : Turn → Option Session
  | .frame env frame => (serveFrame peer env s frame).session
  | .poll env failure => (Helper.poll env failure s).session
  | .packet flowId env pkt => some (onHelperPacket s flowId env pkt)

end ZeroDpi.Helper
