/-
The data plane's side of the protocol: `RemoteHelperClient`
(zerodpi/src/helper_client.rs).

The client is the contents of its mutexes and atomics. `request` is cut
at its one suspension point: `beginRequest` runs up to the wait and says
what it wrote, and an answer, a timeout or a disconnect ends the wait.
An ended wait leaves its result in `answers`, the one-shot channels.

Whether the socket takes a write is decided outside; a message that
fails its own checks is never written.
-/
import ZeroDpi.Helper.Protocol
import ZeroDpi.Lib.Table

namespace ZeroDpi.Helper

open Lib

/-- `MAX_PENDING_REQUESTS`. -/
def maxPendingRequests : Nat := 1024

/-- The client of the helper, with its tables. -/
structure RemoteHelperClient where
  /-- The requests whose answer is outstanding. -/
  pending : List UInt32
  /-- The results waiting in one-shot channels. -/
  answers : Table UInt32 (Except String Message)
  flows : Table UInt64 FlowState
  flowIds : Table FlowKey UInt64
  nextRequestId : UInt32
  nextFlowId : UInt64
  disconnected : Bool

namespace RemoteHelperClient

/-- The client `connect` returns: request 1 was the handshake. -/
def connected : RemoteHelperClient where
  pending := []
  answers := []
  flows := []
  flowIds := []
  nextRequestId := 2
  nextFlowId := 1
  disconnected := false

/-- `Inner::write`: the frames that reach the socket. -/
def write (io : Bool) (requestId : UInt32) (message : Message) :
    List Frame :=
  match message.validate with
  | .ok _ => if io then [⟨requestId, message⟩] else []
  | .error _ => []

/-- A write puts its frame on the socket, or nothing. -/
theorem write_cases (io : Bool) (requestId : UInt32) (message : Message) :
    write io requestId message = []
      ∨ write io requestId message = [⟨requestId, message⟩] := by
  unfold write
  split
  · cases io with
    | true => exact .inr rfl
    | false => exact .inl rfl
  · exact .inl rfl

theorem write_of_valid {requestId : UInt32} {message : Message}
    (h : message.validate = .ok ()) :
    write true requestId message = [⟨requestId, message⟩] := by
  unfold write
  rw [h]
  rfl

/-- The first half of a `request`: the client after it, the frames it
wrote, and the request it waits for. -/
structure Begun where
  client : RemoteHelperClient
  wrote : List Frame
  waits : Except String UInt32

/-- `request` up to its wait. -/
def beginRequest (c : RemoteHelperClient) (io : Bool) (message : Message) :
    Begun :=
  if c.disconnected then ⟨c, [], .error "root helper is disconnected"⟩
  else if c.nextRequestId = 0xFFFFFFFF then
    ⟨c, [], .error "helper request identifier space exhausted"⟩
  else
    let requestId := c.nextRequestId
    let c := { c with nextRequestId := requestId + 1 }
    if maxPendingRequests ≤ c.pending.length then
      ⟨c, [], .error "too many outstanding root-helper requests"⟩
    else match write io requestId message with
      | [] => ⟨c, [], .error "write root-helper request"⟩
      | frames =>
          ⟨{ c with pending := requestId :: c.pending }, frames,
            .ok requestId⟩

/-- The timeout of a wait: the request is no longer pending. -/
def timeOut (c : RemoteHelperClient) (requestId : UInt32) :
    RemoteHelperClient :=
  { c with
    pending := c.pending.filter (· ≠ requestId)
    answers := c.answers.remove requestId }

/-- A wait that takes its result. -/
def takeAnswer (c : RemoteHelperClient) (requestId : UInt32) :
    Option (Except String Message × RemoteHelperClient) :=
  (c.answers.get? requestId).map fun answer =>
    (answer, { c with answers := c.answers.remove requestId })

/-- `disconnect`: every wait fails and every flow ends. -/
def disconnect (c : RemoteHelperClient) (reason : String) :
    RemoteHelperClient :=
  if c.disconnected then c
  else { c with
    disconnected := true
    pending := []
    answers := c.answers ++ c.pending.map fun requestId =>
      (requestId, .error s!"root helper disconnected: {reason}")
    flows := c.flows.map fun (flowId, entry) =>
      (flowId, entry.finish .unexpectedClose) }

/-- A progress report applied to the client's copy of the entry. -/
def applyProgress (progress : Progress) (entry : FlowState) : FlowState :=
  match progress with
  | .readyForData => { entry with waitingForData := true }
  | .fakeDataAcked => entry.finish .fakeDataAcked
  | .unexpectedClose => entry.finish .unexpectedClose

/-- `handle_frame`. -/
def handleFrame (c : RemoteHelperClient) (frame : Frame) :
    RemoteHelperClient :=
  match frame.message with
  | .flowProgress flowId progress =>
      { c with flows := c.flows.modify flowId (applyProgress progress) }
  | .helperWarning _ _ => c
  | .helperFatal _ message => c.disconnect message
  | message =>
      if c.pending.contains frame.requestId then
        { c with
          pending := c.pending.filter (· ≠ frame.requestId)
          answers := c.answers.insert frame.requestId (.ok message) }
      else c

-- ====================================================== the flow controller

/-- `remove_flow`: the client after it and what it wrote. -/
def removeFlow (c : RemoteHelperClient) (io : Bool) (key : FlowKey) :
    RemoteHelperClient × List Frame :=
  match c.flowIds.get? key with
  | none => (c, [])
  | some flowId =>
      ({ c with
          flowIds := c.flowIds.remove key
          flows := c.flows.remove flowId },
        write io 0 (.removeFlow flowId))

/-- `register_flow` up to its wait, with the flow id it chose; a request
that does not get as far releases the flow. -/
def beginRegister (c : RemoteHelperClient) (io : Bool) (key : FlowKey)
    (fakeData : Bytes) (lowTtlOverride : Option UInt8) :
    Begun × UInt64 :=
  let flowId := c.nextFlowId
  let c := { c with nextFlowId := flowId + 1 }
  if flowId = 0 then
    (⟨c, [], .error "helper flow identifier space exhausted"⟩, flowId)
  else
    let c := { c with
      flows := c.flows.insert flowId (.new [] lowTtlOverride)
      flowIds := c.flowIds.insert key flowId }
    let begun := c.beginRequest io
      (.registerFlow flowId key fakeData lowTtlOverride)
    match begun.waits with
    | .ok _ => (begun, flowId)
    | .error _ =>
        let (c, frames) := begun.client.removeFlow io key
        ({ begun with client := c, wrote := begun.wrote ++ frames }, flowId)

/-- `register_flow` after its wait. -/
def endRegister (c : RemoteHelperClient) (io : Bool) (key : FlowKey)
    (flowId : UInt64) (answer : Except String Message) :
    RemoteHelperClient × List Frame :=
  if answer.toOption = some (.flowRegistered flowId) then (c, [])
  else c.removeFlow io key

/-- `reset`: the entries it ends leave both maps. -/
def reset (c : RemoteHelperClient) : RemoteHelperClient :=
  { c with flows := [], flowIds := [] }

end RemoteHelperClient

/-- `interceptor_config`. -/
def interceptorConfig (cfg : Config) (interfaceIp : Ipv4Addr)
    (remoteIp : Option Ipv4Addr) (remotePort : UInt16) :
    InterceptorConfig where
  interfaceIp := interfaceIp
  remoteIp := remoteIp
  remotePort := remotePort
  queueNum := cfg.nfqueueNum
  firewallBackend :=
    match LinuxFirewallBackend.parse cfg.linuxFirewallBackend with
    | some .nftables => .nftables
    | _ => .iptables
  method := {
    methods := cfg.bypassMethod.map MethodName.text
    wrongSeqExtraOffset := cfg.wrongSeqExtraOffset
    wrongSeqSetPsh := cfg.wrongSeqSetPsh
    wrongSeqBumpIpIdent := cfg.wrongSeqBumpIpIdent
    wrongChecksumDelta := cfg.wrongChecksumDelta
    wrongChecksumSetPsh := cfg.wrongChecksumSetPsh
    wrongChecksumBumpIpIdent := cfg.wrongChecksumBumpIpIdent
    wrongChecksumCompleteImmediately := cfg.wrongChecksumCompleteImmediately
    wrongMd5SetPsh := cfg.wrongMd5SetPsh
    wrongMd5BumpIpIdent := cfg.wrongMd5BumpIpIdent
    wrongMd5CompleteImmediately := cfg.wrongMd5CompleteImmediately
    wrongAckOffset := cfg.wrongAckOffset
    wrongAckSetPsh := cfg.wrongAckSetPsh
    wrongAckBumpIpIdent := cfg.wrongAckBumpIpIdent
    wrongAckCompleteImmediately := cfg.wrongAckCompleteImmediately
    wrongTimestampOffset := cfg.wrongTimestampOffset
    wrongTimestampSetPsh := cfg.wrongTimestampSetPsh
    wrongTimestampBumpIpIdent := cfg.wrongTimestampBumpIpIdent
    wrongTimestampCompleteImmediately :=
      cfg.wrongTimestampCompleteImmediately
    tlsRecordFragSize := cfg.tlsRecordFragSize
    tlsRecordFragSetPsh := cfg.tlsRecordFragSetPsh
    tlsRecordFragBumpIpIdent := cfg.tlsRecordFragBumpIpIdent
    lowTtlValue := cfg.lowTtlValue
    lowTtlSetPsh := cfg.lowTtlSetPsh
    lowTtlBumpIpIdent := cfg.lowTtlBumpIpIdent
    lowTtlCompleteImmediately := cfg.lowTtlCompleteImmediately }

end ZeroDpi.Helper
