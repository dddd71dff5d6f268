/-
Connection tasks with all their exits: `handle_intercept_connection` and
`handle_tcp_seg_connection_with_ip` (zerodpi-core/src/proxy.rs), and the
probe of a TTL, `probe_ttl` (low_ttl_discover.rs).

# What a task shares

The events it sends, the outcome of its flow's entry, and the flow
controller. What it reads and writes on its sockets is its own business
here (`Connection` has it); a wait says whether it worked.

# Flow controllers

`Registry` is what a task uses of one. A local controller answers a
registration at once, so there is no wait in it and no point at which it
could be dropped. The remote one fills its maps and then waits for the
helper. `owner` is a history variable: which task put an entry there.
-/
import ZeroDpi.Connection
import ZeroDpi.Helper.Client
import ZeroDpi.Lib.Task
import ZeroDpi.RelayEvents
import ZeroDpi.TargetPool

namespace ZeroDpi.ConnectionTask

open Lib RelayEvents

-- ================================================================ the waits

/-- Where a task waits. -/
inductive Wait where
  /-- `register_flow` of any controller. -/
  | registered
  /-- The answer to a request to the helper. -/
  | helperAnswer
  /-- `connect_with_timeout`. -/
  | connect
  /-- `wait_for_initial_bypass_progress`; nothing is a timeout. -/
  | bypassProgress
  /-- `wait_for_bypass_completion`. -/
  | bypassCompletion
  /-- `read_one_tls_record`. -/
  | tlsRecord
  /-- The same with a timeout. -/
  | tlsRecordInTime
  /-- `read_one_client_write` with a timeout. -/
  | clientWriteInTime
  /-- Writes upstream, with their pauses and flushes. -/
  | write
  /-- `counting_relay_with_client_fragmentation`. -/
  | relay
  /-- `tls_handshake_ok`. -/
  | tlsHandshake
  deriving DecidableEq

/-- What a wait ends with. -/
abbrev Wait.Reply : Wait → Type
  | .registered => Except String Unit
  | .helperAnswer => Except String Helper.Message
  | .connect => Except String Unit
  | .bypassProgress => Option BypassProgress
  | .bypassCompletion => Option BypassOutcome
  | .tlsRecord => Except String Bytes
  | .tlsRecordInTime => Option (Except String Bytes)
  | .clientWriteInTime => Option (Except String Bytes)
  | .write => Except String Unit
  | .relay => RelayResult
  | .tlsHandshake => Bool

-- ================================================================ the world

/-- The `ProxyEvent`s of a connection task. -/
inductive ProxyEvent where
  | connectionAccepted (peer : IpAddr × UInt16) (srcPort : UInt16)
      (targetIp : IpAddr) (targetSni : Option String)
  | connectionError (srcPort : UInt16) (error : String)
  | bypassComplete (srcPort : UInt16) (outcome : BypassOutcome)
  | relayFinished (srcPort : UInt16) (relay : RelayResult)
  deriving DecidableEq

/-- What a task shares. -/
structure World (C : Type) where
  events : List ProxyEvent
  /-- The outcome of the task's `FlowEntry`. -/
  outcome : Option BypassOutcome
  controller : C

/-- Code of a task. -/
abbrev ConnTask (C : Type) := Task (World C) Wait Wait.Reply

variable {C α β : Type}

/-- A wait. -/
def ask (wait : Wait) : ConnTask C wait.Reply := Task.ask wait

/-- `events.send`. -/
def emit (event : ProxyEvent) : ConnTask C Unit :=
  .modify fun w => { w with events := w.events ++ [event] }

/-- `FlowEntry::finish`. -/
def finish (outcome : BypassOutcome) : ConnTask C Unit :=
  .modify fun w => { w with outcome := w.outcome <|> some outcome }

/-- A change of the controller only. -/
def World.onController (f : C → C) (w : World C) : World C :=
  { w with controller := f w.controller }

/-- `?`. -/
def andThen (t : ConnTask C (Except Stop α))
    (next : α → ConnTask C (Except Stop β)) : ConnTask C (Except Stop β) :=
  t.bind fun
    | .ok a => next a
    | .error stop => .done (.error stop)

/-- Pure code that may panic. -/
def orPanic (x : Except Panic α) : ConnTask C (Except Stop α) :=
  .done (x.mapError .panic)

/-- An error with its context. -/
def bail (context : List String) : ConnTask C (Except Stop α) :=
  .done (.error (.error context))

/-- What a task uses of a `FlowController`. -/
structure Registry (C : Type) where
  registerFlow : FlowKey → Bytes → Option UInt8 →
    ConnTask C (Except String Unit)
  removeFlow : FlowKey → C → C
  flowExists : FlowKey → C → Bool

-- ================================================== the intercepted stage

/-- The flow is closed and the bypass reported as such. -/
def closeFlow (srcPort : UInt16) (context : List String) :
    ConnTask C (Except Stop α) :=
  (finish .unexpectedClose).bind fun _ =>
    (emit (.bypassComplete srcPort .unexpectedClose)).bind fun _ =>
      bail context

/-- A write, of which an error closes the flow. -/
def writeOrClose (srcPort : UInt16) (context : String) :
    ConnTask C (Except Stop Unit) :=
  (ask .write).bind fun
    | .ok () => .done (.ok ())
    | .error error => closeFlow srcPort [context, error]

/-- `read_client_tls_record_with_timeout`. -/
def readClientTlsRecordWithTimeout (srcPort : UInt16) :
    ConnTask C (Except Stop Bytes) :=
  (ask .tlsRecordInTime).bind fun
    | some (.ok record) => .done (.ok record)
    | some (.error error) =>
        closeFlow srcPort ["reading ClientHello from client", error]
    | none => closeFlow srcPort ["timed out reading ClientHello from client"]

/-- `read_client_write_with_timeout`. -/
def readClientWriteWithTimeout (srcPort : UInt16) :
    ConnTask C (Except Stop Bytes) :=
  (ask .clientWriteInTime).bind fun
    | some (.ok data) => .done (.ok data)
    | some (.error error) =>
        closeFlow srcPort ["reading client data from client", error]
    | none => closeFlow srcPort ["timed out reading client data from client"]

/-- The first record of the client, transformed. -/
def readHello (t : ConnectionSettings) (env : SocketEnv) (srcPort : UInt16) :
    ConnTask C (Except Stop Bytes) :=
  andThen (readClientTlsRecordWithTimeout srcPort) fun record =>
    orPanic (t.applySocketTransforms env record)

/-- The ChangeCipherSpec, where it is listed. -/
def writeCcs (t : ConnectionSettings) (srcPort : UInt16) :
    ConnTask C (Except Stop Unit) :=
  match t.ccsPrefix with
  | some _ => writeOrClose srcPort
      "ccs_prefix: writing ChangeCipherSpec prefix"
  | none => .done (.ok ())

/-- What the relay does with the later writes of a client whose first write
is gone. -/
def afterFirst (t : ConnectionSettings) : Option (TcpSegmentation × UInt32) :=
  if t.segmentFirstClientHello then some (t.tcpSegmentation, 1) else none

/-- The `sni_boundary_frag` arm. -/
def boundaryArm (t : ConnectionSettings) (env : SocketEnv) (srcPort : UInt16)
    (boundary : SniBoundaryFrag) :
    ConnTask C (Except Stop (Option (TcpSegmentation × UInt32))) :=
  andThen (readHello t env srcPort) fun hello =>
    andThen (orPanic (boundary.splitOffset hello)) fun split =>
      andThen
        (match split with
        | some _ => writeOrClose srcPort
            "combo sni_boundary_frag: writing boundary-split ClientHello"
        | none =>
            andThen (writeOrClose srcPort
              "combo sni_boundary_frag: writing ClientHello to upstream")
            fun _ => writeOrClose srcPort
              "combo sni_boundary_frag: flushing ClientHello to upstream")
        fun _ => .done (.ok (afterFirst t))

/-- The `tls_record_split` arm; both of its writes report alike. -/
def recordSplitArm (t : ConnectionSettings) (env : SocketEnv)
    (srcPort : UInt16) (recordSplit : TlsRecordSplit) :
    ConnTask C (Except Stop (Option (TcpSegmentation × UInt32))) :=
  andThen (readHello t env srcPort) fun hello =>
    andThen (orPanic (recordSplit.split hello)) fun _ =>
      andThen (writeOrClose srcPort
        "tls_record_split: writing the split ClientHello")
        fun _ => .done (.ok (afterFirst t))

/-- The `tls_frag` arm. -/
def segmentArm (t : ConnectionSettings) (env : SocketEnv) (srcPort : UInt16) :
    ConnTask C (Except Stop (Option (TcpSegmentation × UInt32))) :=
  match t.tcpSegmentation.packets with
  | .tlsHello =>
      andThen (readHello t env srcPort) fun _ =>
        andThen (writeOrClose srcPort
          "combo tls_frag: writing fragmented ClientHello")
          fun _ => .done (.ok none)
  | .writeRange _ _ =>
      andThen (readClientWriteWithTimeout srcPort) fun data =>
        andThen (orPanic (t.applySocketTransforms env data)) fun _ =>
          andThen (writeOrClose srcPort
            "combo tls_frag: writing first client data")
            fun _ => .done (.ok (some (t.tcpSegmentation, 1)))

/-- No method cuts the ClientHello. -/
def plainArm (t : ConnectionSettings) (env : SocketEnv) (srcPort : UInt16) :
    ConnTask C (Except Stop (Option (TcpSegmentation × UInt32))) :=
  andThen (readHello t env srcPort) fun _ =>
    andThen (writeOrClose srcPort "writing ClientHello to upstream") fun _ =>
      andThen (writeOrClose srcPort "flushing ClientHello to upstream")
        fun _ => .done (.ok none)

/-- The `ReadyForData` branch, as far as the wait for its outcome. -/
def readyForData (t : ConnectionSettings) (env : SocketEnv)
    (srcPort : UInt16) :
    ConnTask C (Except Stop (Option (TcpSegmentation × UInt32))) :=
  andThen (writeCcs t srcPort) fun _ =>
    match t.sniBoundaryFrag, t.tlsRecordSplit with
    | some boundary, _ => boundaryArm t env srcPort boundary
    | none, some recordSplit => recordSplitArm t env srcPort recordSplit
    | none, none =>
        if t.segmentFirstClientHello then segmentArm t env srcPort
        else plainArm t env srcPort

/-- `finish_bypass_or_error`. -/
def finishBypassOrError (srcPort : UInt16) (outcome : Option BypassOutcome)
    (timeoutError : String) : ConnTask C (Except Stop Unit) :=
  match outcome with
  | some .fakeDataAcked =>
      (emit (.bypassComplete srcPort .fakeDataAcked)).bind fun _ =>
        .done (.ok ())
  | some .unexpectedClose =>
      (emit (.bypassComplete srcPort .unexpectedClose)).bind fun _ =>
        bail ["interceptor closed the flow"]
  | none => closeFlow srcPort [timeoutError]

/-- The wait for the interceptor and what it leads to. -/
def awaitBypass (t : ConnectionSettings) (env : SocketEnv)
    (srcPort : UInt16) :
    ConnTask C (Except Stop (Option (TcpSegmentation × UInt32))) :=
  (ask .bypassProgress).bind fun
    | some (.complete outcome) =>
        andThen (finishBypassOrError srcPort (some outcome) "bypass timed out")
          fun _ => .done (.ok none)
    | some .readyForData =>
        andThen (readyForData t env srcPort) fun later =>
          (ask .bypassCompletion).bind fun outcome =>
            andThen (finishBypassOrError srcPort outcome
              "first data bypass timed out") fun _ => .done (.ok later)
    | none =>
        andThen (finishBypassOrError srcPort none "bypass timed out")
          fun _ => .done (.ok none)

/-- Connect, and the bypass. -/
def bypass (t : ConnectionSettings) (env : SocketEnv) (srcPort : UInt16) :
    ConnTask C (Except Stop (Option (TcpSegmentation × UInt32))) :=
  (ask .connect).bind fun
    | .ok () => awaitBypass t env srcPort
    | .error error =>
        (finish .unexpectedClose).bind fun _ =>
          (emit (.connectionError srcPort error)).bind fun _ =>
            bail ["connect upstream", error]

/-- The relay and its end. -/
def relay (srcPort : UInt16) : ConnTask C (Except Stop Unit) :=
  (ask .relay).bind fun result =>
    (emit (.relayFinished srcPort result)).bind fun _ => .done (.ok ())

-- =========================================================== the two tasks

/-- What a connection task is given. -/
structure Connection where
  peer : IpAddr × UInt16
  interfaceIp : Ipv4Addr
  connectIp : IpAddr
  connectPort : UInt16
  targetSni : Option String
  fakeClientHello : Bytes
  lowTtlOverride : Option UInt8
  /-- The local port of the bound socket, or why there is none. -/
  socket : Except String UInt16
  env : SocketEnv

/-- The part of `handle_intercept_connection` with the flow registered. -/
def intercepted (reg : Registry C) (t : ConnectionSettings) (env : SocketEnv)
    (key : FlowKey) : ConnTask C (Except Stop Unit) :=
  let removes := World.onController (reg.removeFlow key)
  if t.fragmentAllData then
    Task.guarded removes
      (andThen (bypass t env key.srcPort) fun _ => relay key.srcPort)
  else
    andThen (Task.guarded removes (bypass t env key.srcPort))
      fun _ => relay key.srcPort

/-- `handle_intercept_connection`. -/
def handleInterceptConnection (reg : Registry C) (t : ConnectionSettings)
    (c : Connection) : ConnTask C (Except Stop Unit) :=
  match c.connectIp, c.socket with
  | .v6 _, _ => bail ["intercept targets must be IPv4"]
  | .v4 _, .error error => bail [error]
  | .v4 connectIp, .ok srcPort =>
      let key : FlowKey := ⟨c.interfaceIp, srcPort, connectIp, c.connectPort⟩
      (emit (.connectionAccepted c.peer srcPort c.connectIp
        c.targetSni)).bind fun _ =>
        (reg.registerFlow key c.fakeClientHello c.lowTtlOverride).bind fun
          | .error error => bail ["register intercepted flow", error]
          | .ok () => intercepted reg t c.env key

/-- A step of the socket path that only reports through its result. -/
def writeOrBail (context : String) : ConnTask C (Except Stop Unit) :=
  (ask .write).bind fun
    | .ok () => .done (.ok ())
    | .error error => bail [context, error]

/-- Likewise for a read. -/
def readOrBail (context : String) : ConnTask C (Except Stop Bytes) :=
  (ask .tlsRecord).bind fun
    | .ok record => .done (.ok record)
    | .error error => bail [context, error]

/-- The ChangeCipherSpec of the socket path. -/
def socketCcs (cfg : Config) : ConnTask C (Except Stop Unit) :=
  if cfg.bypassMethod.contains .ccsPrefix then
    writeOrBail "ccs_prefix: writing ChangeCipherSpec prefix"
  else .done (.ok ())

/-- The transformed first record, when a transform is listed. -/
def socketTransformed (cfg : Config) (env : SocketEnv) :
    ConnTask C (Except Stop (Option Bytes)) :=
  if cfg.bypassMethod.contains .tlsPadding
      || cfg.bypassMethod.contains .mixedCaseSni then
    andThen (readOrBail "socket transforms: reading ClientHello from client")
      fun record => andThen (orPanic (socketTransforms cfg env record))
        fun record => .done (.ok (some record))
  else .done (.ok none)

/-- The first record, when a method needs it. -/
def socketFirstRecord (needed : Bool) (transformed : Option Bytes) :
    ConnTask C (Except Stop (Option Bytes)) :=
  match needed, transformed with
  | true, none =>
      andThen (readOrBail "socket path: reading ClientHello from client")
        fun record => .done (.ok (some record))
  | _, transformed => .done (.ok transformed)

/-- The write of the first record, if there is one. -/
def socketWriteFirst (cfg : Config) (method : TcpSegmentation)
    (firstRecord : Option Bytes) : ConnTask C (Except Stop Unit) :=
  let list := cfg.bypassMethod
  let segmentTlshello := list.contains .tlsFrag && method.packets == .tlsHello
  if list.contains .tlsRecordSplit && firstRecord.isSome then
    andThen (orPanic ((TlsRecordSplit.new cfg).split (firstRecord.getD [])))
      fun
        | some _ => writeOrBail "tls_record_split: writing the split ClientHello"
        | none => writeOrBail "tls_record_split"
  else match list.contains .sniBoundaryFrag, firstRecord with
    | true, some record =>
        andThen (orPanic ((SniBoundaryFrag.new cfg).splitOffset record)) fun
          | some _ => writeOrBail
              "sni_boundary_frag: writing boundary-split ClientHello"
          | none =>
              andThen (writeOrBail
                "sni_boundary_frag: writing ClientHello whole (fail-open)")
              fun _ => writeOrBail "sni_boundary_frag: flushing ClientHello"
    | true, none => .done (.error (.panic (.assertFailed
        "boundary method implies a first record")))
    | false, some _ =>
        if segmentTlshello then
          writeOrBail "tls_frag: writing fragmented ClientHello"
        else
          andThen (writeOrBail "tls_padding: writing padded ClientHello")
            fun _ => writeOrBail "tls_padding: flushing padded ClientHello"
    | false, none => .done (.ok ())

/-- What the socket path does between its connect and its relay. -/
def socketPrefix (cfg : Config) (env : SocketEnv) (method : TcpSegmentation) :
    ConnTask C (Except Stop Unit) :=
  let list := cfg.bypassMethod
  let needed := list.contains .sniBoundaryFrag
    || list.contains .tlsRecordSplit
    || (list.contains .tlsFrag && method.packets == .tlsHello)
  andThen (socketCcs cfg) fun _ =>
    andThen (socketTransformed cfg env) fun transformed =>
      andThen (socketFirstRecord needed transformed) fun firstRecord =>
        socketWriteFirst cfg method firstRecord

/-- `handle_tcp_seg_connection_with_ip`. The port in its events is the
client's. -/
def handleTcpSegConnectionWithIp (cfg : Config) (c : Connection) :
    ConnTask C (Except Stop Unit) :=
  let srcPort := c.peer.2
  (emit (.connectionAccepted c.peer srcPort c.connectIp
    c.targetSni)).bind fun _ =>
    andThen (orPanic (TcpSegmentation.new cfg)) fun method =>
      (ask .connect).bind fun
        | .error error =>
            (emit (.connectionError srcPort error)).bind fun _ =>
              bail ["tls_frag: connect upstream", error]
        | .ok () =>
            andThen (socketPrefix cfg c.env method) fun _ =>
              (emit (.bypassComplete srcPort .fakeDataAcked)).bind fun _ =>
                relay srcPort

-- ================================================================ the probe

/-- `register_probe_flow`. -/
def registerProbeFlow (reg : Registry C) (key : FlowKey) (fakeData : Bytes)
    (lowTtlOverride : Option UInt8) : ConnTask C (Except String Unit) :=
  (Task.look fun w => reg.flowExists key w.controller).bind fun
    | true => .done (.error "flow key already registered")
    | false => reg.registerFlow key fakeData lowTtlOverride

/-- `remove_flow`. -/
def removeFlow (reg : Registry C) (key : FlowKey) : ConnTask C Unit :=
  .modify (World.onController (reg.removeFlow key))

/-- `probe_ttl`, once its socket has a port; every wait has a timeout. -/
def probeRegistered (reg : Registry C) (key : FlowKey) : ConnTask C Bool :=
  (ask .connect).bind fun
    | .error _ => (removeFlow reg key).bind fun _ => .done false
    | .ok () =>
        (ask .bypassProgress).bind fun
          | none => (removeFlow reg key).bind fun _ => .done false
          | some _ =>
              (ask .tlsHandshake).bind fun ok =>
                (removeFlow reg key).bind fun _ => .done ok

/-- `probe_ttl`. -/
def probeTtl (reg : Registry C) (c : Connection) (connectIp : Ipv4Addr)
    (candidateTtl : UInt8) : ConnTask C Bool :=
  match c.socket with
  | .error _ => .done false
  | .ok srcPort =>
      let key : FlowKey := ⟨c.interfaceIp, srcPort, connectIp, 443⟩
      (registerProbeFlow reg key c.fakeClientHello (some candidateTtl)).bind fun
        | .error _ => .done false
        | .ok () => probeRegistered reg key

-- ========================================================= the controllers

/-- A local controller among the tasks that use it. -/
structure LocalTasks where
  controller : LocalFlowController
  owner : Table FlowKey Nat

/-- The controller as the task `me` uses it. -/
def localRegistry (me : Nat) : Registry LocalTasks where
  registerFlow key fakeData lowTtlOverride :=
    .act
      (World.onController fun c =>
        match c.controller.registerFlow key fakeData lowTtlOverride with
        | (.ok _, controller) => ⟨controller, c.owner.insert key me⟩
        | (.error _, controller) => ⟨controller, c.owner⟩)
      fun w => .done ((w.controller.controller.registerFlow key fakeData
        lowTtlOverride).1.map fun _ => ())
  removeFlow key c := { c with
    controller := FlowController.removeFlow c.controller key }
  flowExists key c := FlowController.flowExists c.controller key

/-- The client of the helper among the tasks that use it. -/
structure RemoteTasks where
  client : Helper.RemoteHelperClient
  /-- The socket takes writes. -/
  io : Bool
  owner : Table UInt64 Nat

/-- `register_flow` up to its wait. -/
def RemoteTasks.begin (me : Nat) (key : FlowKey) (fakeData : Bytes)
    (lowTtlOverride : Option UInt8) (c : RemoteTasks) : RemoteTasks :=
  { c with
    client := (c.client.beginRegister c.io key fakeData
      lowTtlOverride).1.client
    owner := if c.client.nextFlowId = 0 then c.owner
      else c.owner.insert c.client.nextFlowId me }

/-- `remove_flow`. -/
def RemoteTasks.remove (key : FlowKey) (c : RemoteTasks) : RemoteTasks :=
  { c with client := (c.client.removeFlow c.io key).1 }

/-- `register_flow` after its wait. -/
def RemoteTasks.finish (key : FlowKey) (flowId : UInt64)
    (answer : Except String Helper.Message) (c : RemoteTasks) : RemoteTasks :=
  { c with client := (c.client.endRegister c.io key flowId answer).1 }

/-- What `register_flow` returns after its wait. -/
def registrationResult (flowId : UInt64) :
    Except String Helper.Message → Except String Unit
  | .ok (.flowRegistered acknowledged) =>
      if acknowledged = flowId then .ok ()
      else .error "unexpected flow registration response"
  | .ok _ => .error "unexpected flow registration response"
  | .error error => .error error

/-- The client of the helper as the task `me` uses it. -/
def remoteRegistry (me : Nat) : Registry RemoteTasks where
  registerFlow key fakeData lowTtlOverride :=
    .act (World.onController (RemoteTasks.begin me key fakeData lowTtlOverride))
      fun w =>
        let (begun, flowId) := w.controller.client.beginRegister
          w.controller.io key fakeData lowTtlOverride
        match begun.waits with
        | .error error => .done (.error error)
        | .ok _ =>
            .await .helperAnswer id fun answer =>
              .act (World.onController (RemoteTasks.finish key flowId answer))
                fun _ => .done (registrationResult flowId answer)
  removeFlow := RemoteTasks.remove
  flowExists key c := c.client.flowIds.containsKey key

end ZeroDpi.ConnectionTask
