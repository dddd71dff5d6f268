/-
The bytes of the helper protocol (zerodpi-helper-protocol/src/lib.rs):
`serde_json::to_vec` of a message as its derives give it, and the framing,
`write_frame` and `read_frame`.

A stream is a list of bytes. `writeFrame` is what reaches a writer that
takes everything, `readFrame` the frame and the bytes after it.
`serde_json::from_slice` is a parameter.
-/
import ZeroDpi.Helper.Protocol
import ZeroDpi.Lib.Json
import ZeroDpi.Lib.Slice

namespace ZeroDpi.Helper

open Lib

/-- `MAGIC`. -/
def magic : Bytes := [0x5A, 0x44, 0x48, 0x50]

/-- `HEADER_LEN`. -/
def headerLen : Nat := 20

/-- `MAX_FRAME_SIZE`, of the payload. -/
def maxFrameSize : Nat := 256 * 1024

-- ================================================================== serde

/-- The octets of an address, in order. -/
def ipv4Octets (address : Ipv4Addr) : List Nat :=
  (toBe32 address).map UInt8.toNat

/-- An address is a string in dotted notation. -/
def ipv4Json (address : Ipv4Addr) : Bytes :=
  Json.quoted (Json.separated 0x2E ((ipv4Octets address).map Json.number))

/-- `Option`: `None` is `null`. -/
def optionJson {α : Type} (f : α → Bytes) : Option α → Bytes
  | none => Json.null
  | some value => f value

/-- A `Vec<u8>` is an array of numbers. -/
def bytesJson (bytes : Bytes) : Bytes :=
  Json.array (bytes.map fun b => Json.number b.toNat)

/-- The serde fields, in the order of the struct; so below. -/
def Hello.toJson (h : Hello) : Bytes :=
  Json.object
    [("session_proof", bytesJson h.sessionProof),
     ("data_plane_pid", Json.number h.dataPlanePid.toNat),
     ("build_version", Json.string h.buildVersion)]

/-- Likewise. -/
def HelloAccepted.toJson (a : HelloAccepted) : Bytes :=
  Json.object
    [("peer_uid", Json.number a.peerUid.toNat),
     ("helper_pid", Json.number a.helperPid.toNat),
     ("helper_uid", Json.number a.helperUid.toNat),
     ("protocol_major", Json.number a.protocolMajor.toNat),
     ("protocol_minor", Json.number a.protocolMinor.toNat),
     ("capabilities", Json.array (a.capabilities.map Json.string))]

/-- Renamed to lower case. -/
def FirewallBackend.toJson : FirewallBackend → Bytes
  | .iptables => Json.string "iptables"
  | .nftables => Json.string "nftables"

/-- Likewise; the fields are apart so that their width can be counted. -/
def MethodConfig.fields (c : MethodConfig) : List (String × Bytes) :=
  [("methods", Json.array (c.methods.map Json.string)),
   ("wrong_seq_extra_offset", Json.number c.wrongSeqExtraOffset.toNat),
   ("wrong_seq_set_psh", Json.bool c.wrongSeqSetPsh),
   ("wrong_seq_bump_ip_ident", Json.bool c.wrongSeqBumpIpIdent),
   ("wrong_checksum_delta", Json.number c.wrongChecksumDelta.toNat),
   ("wrong_checksum_set_psh", Json.bool c.wrongChecksumSetPsh),
   ("wrong_checksum_bump_ip_ident", Json.bool c.wrongChecksumBumpIpIdent),
   ("wrong_checksum_complete_immediately",
     Json.bool c.wrongChecksumCompleteImmediately),
   ("wrong_md5_set_psh", Json.bool c.wrongMd5SetPsh),
   ("wrong_md5_bump_ip_ident", Json.bool c.wrongMd5BumpIpIdent),
   ("wrong_md5_complete_immediately",
     Json.bool c.wrongMd5CompleteImmediately),
   ("wrong_ack_offset", Json.number c.wrongAckOffset.toNat),
   ("wrong_ack_set_psh", Json.bool c.wrongAckSetPsh),
   ("wrong_ack_bump_ip_ident", Json.bool c.wrongAckBumpIpIdent),
   ("wrong_ack_complete_immediately",
     Json.bool c.wrongAckCompleteImmediately),
   ("wrong_timestamp_offset", Json.number c.wrongTimestampOffset.toNat),
   ("wrong_timestamp_set_psh", Json.bool c.wrongTimestampSetPsh),
   ("wrong_timestamp_bump_ip_ident",
     Json.bool c.wrongTimestampBumpIpIdent),
   ("wrong_timestamp_complete_immediately",
     Json.bool c.wrongTimestampCompleteImmediately),
   ("tls_record_frag_size", Json.number c.tlsRecordFragSize),
   ("tls_record_frag_set_psh", Json.bool c.tlsRecordFragSetPsh),
   ("tls_record_frag_bump_ip_ident",
     Json.bool c.tlsRecordFragBumpIpIdent),
   ("low_ttl_value", Json.number c.lowTtlValue.toNat),
   ("low_ttl_set_psh", Json.bool c.lowTtlSetPsh),
   ("low_ttl_bump_ip_ident", Json.bool c.lowTtlBumpIpIdent),
   ("low_ttl_complete_immediately",
     Json.bool c.lowTtlCompleteImmediately)]

/-- The object of these. -/
def MethodConfig.toJson (c : MethodConfig) : Bytes := Json.object c.fields

/-- Likewise. -/
def InterceptorConfig.toJson (c : InterceptorConfig) : Bytes :=
  Json.object
    [("interface_ip", ipv4Json c.interfaceIp),
     ("remote_ip", optionJson ipv4Json c.remoteIp),
     ("remote_port", Json.number c.remotePort.toNat),
     ("queue_num", Json.number c.queueNum.toNat),
     ("firewall_backend", c.firewallBackend.toJson),
     ("method", c.method.toJson)]

/-- The protocol's `FlowKey`. -/
def flowKeyJson (key : FlowKey) : Bytes :=
  Json.object
    [("src_ip", ipv4Json key.srcIp),
     ("src_port", Json.number key.srcPort.toNat),
     ("dst_ip", ipv4Json key.dstIp),
     ("dst_port", Json.number key.dstPort.toNat)]

/-- In snake case. -/
def Progress.name : Progress → String
  | .readyForData => "ready_for_data"
  | .fakeDataAcked => "fake_data_acked"
  | .unexpectedClose => "unexpected_close"

/-- Likewise. -/
def ErrorCode.name : ErrorCode → String
  | .authenticationFailed => "authentication_failed"
  | .protocolMismatch => "protocol_mismatch"
  | .invalidState => "invalid_state"
  | .invalidConfig => "invalid_config"
  | .interceptorFailed => "interceptor_failed"
  | .flowLimitReached => "flow_limit_reached"
  | .internal => "internal"

/-- A variant without data. -/
def unitJson (kind : String) : Bytes :=
  Json.object [("kind", Json.string kind)]

/-- A variant with data. -/
def variantJson (kind : String) (data : Bytes) : Bytes :=
  Json.object [("kind", Json.string kind), ("data", data)]

/-- Messages with an id only. -/
def flowIdJson (kind : String) (flowId : UInt64) : Bytes :=
  variantJson kind (Json.object [("flow_id", Json.number flowId.toNat)])

/-- Errors and warnings. -/
def diagnosticJson (kind : String) (code : ErrorCode) (message : String) :
    Bytes :=
  variantJson kind (Json.object
    [("code", Json.string code.name), ("message", Json.string message)])

/-- `serde_json::to_vec`. -/
def Message.toVec : Message → Bytes
  | .hello h => variantJson "hello" h.toJson
  | .helloAccepted accepted => variantJson "hello_accepted" accepted.toJson
  | .configureInterceptor config =>
      variantJson "configure_interceptor" config.toJson
  | .configured => unitJson "configured"
  | .openInterceptor => unitJson "open_interceptor"
  | .interceptorReady => unitJson "interceptor_ready"
  | .closeInterceptor => unitJson "close_interceptor"
  | .interceptorClosed => unitJson "interceptor_closed"
  | .registerFlow flowId key fakeData lowTtlOverride =>
      variantJson "register_flow" (Json.object
        [("flow_id", Json.number flowId.toNat),
         ("key", flowKeyJson key),
         ("fake_data", bytesJson fakeData),
         ("low_ttl_override",
           optionJson (fun v => Json.number v.toNat) lowTtlOverride)])
  | .flowRegistered flowId => flowIdJson "flow_registered" flowId
  | .removeFlow flowId => flowIdJson "remove_flow" flowId
  | .flowRemoved flowId => flowIdJson "flow_removed" flowId
  | .flowProgress flowId progress =>
      variantJson "flow_progress" (Json.object
        [("flow_id", Json.number flowId.toNat),
         ("progress", Json.string progress.name)])
  | .ping => unitJson "ping"
  | .pong => unitJson "pong"
  | .shutdown => unitJson "shutdown"
  | .shutdownComplete => unitJson "shutdown_complete"
  | .helperWarning code message =>
      diagnosticJson "helper_warning" code message
  | .helperFatal code message => diagnosticJson "helper_fatal" code message
  | .setLowTtlValue value =>
      variantJson "set_low_ttl_value"
        (Json.object [("value", Json.number value.toNat)])
  | .setLowTtlAck => unitJson "set_low_ttl_ack"

-- ========================================================== message types

/-- The types of frames. -/
inductive MessageType where
  | hello
  | helloAccepted
  | configureInterceptor
  | configured
  | openInterceptor
  | interceptorReady
  | closeInterceptor
  | interceptorClosed
  | registerFlow
  | flowRegistered
  | removeFlow
  | flowRemoved
  | flowProgress
  | ping
  | pong
  | shutdown
  | shutdownComplete
  | helperWarning
  | helperFatal
  | setLowTtlValue
  | setLowTtlAck
  deriving DecidableEq

/-- The discriminants. -/
def MessageType.toU16 : MessageType → Nat
  | .hello => 1
  | .helloAccepted => 2
  | .configureInterceptor => 3
  | .configured => 4
  | .openInterceptor => 5
  | .interceptorReady => 6
  | .closeInterceptor => 7
  | .interceptorClosed => 8
  | .registerFlow => 9
  | .flowRegistered => 10
  | .removeFlow => 11
  | .flowRemoved => 12
  | .flowProgress => 13
  | .ping => 14
  | .pong => 15
  | .shutdown => 16
  | .shutdownComplete => 17
  | .helperWarning => 18
  | .helperFatal => 19
  | .setLowTtlValue => 20
  | .setLowTtlAck => 21

/-- Why a frame is refused. -/
inductive ProtocolError where
  /-- `UnexpectedEof`; the writers and readers here have no other. -/
  | io
  | invalidMagic
  | unsupportedVersion (major minor : Nat)
  | unknownMessageType (value : Nat)
  | oversizedFrame (length : Nat)
  | messageTypeMismatch
  | invalidField (field : String)
  | invalidPayload
  deriving DecidableEq

/-- `MessageType::from_u16`. -/
def MessageType.fromU16 : Nat → Except ProtocolError MessageType
  | 1 => .ok .hello
  | 2 => .ok .helloAccepted
  | 3 => .ok .configureInterceptor
  | 4 => .ok .configured
  | 5 => .ok .openInterceptor
  | 6 => .ok .interceptorReady
  | 7 => .ok .closeInterceptor
  | 8 => .ok .interceptorClosed
  | 9 => .ok .registerFlow
  | 10 => .ok .flowRegistered
  | 11 => .ok .removeFlow
  | 12 => .ok .flowRemoved
  | 13 => .ok .flowProgress
  | 14 => .ok .ping
  | 15 => .ok .pong
  | 16 => .ok .shutdown
  | 17 => .ok .shutdownComplete
  | 18 => .ok .helperWarning
  | 19 => .ok .helperFatal
  | 20 => .ok .setLowTtlValue
  | 21 => .ok .setLowTtlAck
  | other => .error (.unknownMessageType other)

/-- `Message::message_type`. -/
def Message.messageType : Message → MessageType
  | .hello _ => .hello
  | .helloAccepted _ => .helloAccepted
  | .configureInterceptor _ => .configureInterceptor
  | .configured => .configured
  | .openInterceptor => .openInterceptor
  | .interceptorReady => .interceptorReady
  | .closeInterceptor => .closeInterceptor
  | .interceptorClosed => .interceptorClosed
  | .registerFlow .. => .registerFlow
  | .flowRegistered _ => .flowRegistered
  | .removeFlow _ => .removeFlow
  | .flowRemoved _ => .flowRemoved
  | .flowProgress .. => .flowProgress
  | .ping => .ping
  | .pong => .pong
  | .shutdown => .shutdown
  | .shutdownComplete => .shutdownComplete
  | .helperWarning .. => .helperWarning
  | .helperFatal .. => .helperFatal
  | .setLowTtlValue _ => .setLowTtlValue
  | .setLowTtlAck => .setLowTtlAck

-- ================================================================= frames

/-- A frame with its flags, as the code has it. -/
structure RawFrame where
  requestId : UInt32
  flags : UInt16
  message : Message
  deriving DecidableEq

/-- A check of the framing. -/
def rejectIf (bad : Bool) (error : ProtocolError) :
    Except ProtocolError Unit :=
  if bad then .error error else .ok ()

/-- The validation, as an error of the protocol. -/
def Message.check (m : Message) : Except ProtocolError Unit :=
  m.validate.mapError .invalidField

/-- The twenty bytes in front of a payload. -/
def header (frame : RawFrame) (payloadLen : Nat) : Bytes :=
  magic ++ toBe16 protocolMajor.toNat ++ toBe16 protocolMinor.toNat
    ++ toBe16 frame.message.messageType.toU16 ++ toBe16 frame.flags.toNat
    ++ toBe32 frame.requestId ++ toBe32 payloadLen.toUInt32

/-- `write_frame`. -/
def writeFrame (frame : RawFrame) : Except ProtocolError Bytes := do
  rejectIf (frame.flags != 0) (.invalidField "frame flags")
  frame.message.check
  let payload := frame.message.toVec
  rejectIf (maxFrameSize < payload.length) (.oversizedFrame payload.length)
  return header frame payload.length ++ payload

/-- `read_exact`: the bytes asked for and the rest of the stream. -/
def readExact (n : Nat) (stream : Bytes) :
    Except ProtocolError (Bytes × Bytes) :=
  if n ≤ stream.length then .ok (stream.take n, stream.drop n)
  else .error .io

/-- A number in the header. -/
def u16At (b : Bytes) (i : Nat) : Nat := be16 (b.getD i 0) (b.getD (i + 1) 0)

/-- Likewise. -/
def u32At (b : Bytes) (i : Nat) : UInt32 :=
  be32 (b.getD i 0) (b.getD (i + 1) 0) (b.getD (i + 2) 0) (b.getD (i + 3) 0)

/-- What a header says about the rest of its frame. -/
structure Header where
  messageType : MessageType
  flags : Nat
  requestId : UInt32
  payloadLen : Nat
  deriving DecidableEq

/-- `read_frame` between its two reads. -/
def readHeader (head : Bytes) : Except ProtocolError Header := do
  rejectIf (head.take 4 != magic) .invalidMagic
  let major := u16At head 4
  let minor := u16At head 6
  rejectIf (major != protocolMajor.toNat || protocolMinor.toNat < minor)
    (.unsupportedVersion major minor)
  let messageType ← MessageType.fromU16 (u16At head 8)
  let flags := u16At head 10
  rejectIf (flags != 0) (.invalidField "frame flags")
  let requestId := u32At head 12
  let payloadLen := (u32At head 16).toNat
  rejectIf (maxFrameSize < payloadLen) (.oversizedFrame payloadLen)
  return { messageType, flags, requestId, payloadLen }

/-- `from_slice` with its error. -/
def decodePayload (fromSlice : Bytes → Option Message) (payload : Bytes) :
    Except ProtocolError Message :=
  match fromSlice payload with
  | some message => .ok message
  | none => .error .invalidPayload

/-- `read_frame`. -/
def readFrame (fromSlice : Bytes → Option Message) (stream : Bytes) :
    Except ProtocolError (RawFrame × Bytes) := do
  let (head, stream) ← readExact headerLen stream
  let h ← readHeader head
  let (payload, stream) ← readExact h.payloadLen stream
  let message ← decodePayload fromSlice payload
  rejectIf (message.messageType != h.messageType) .messageTypeMismatch
  message.check
  return (⟨h.requestId, h.flags.toUInt16, message⟩, stream)

end ZeroDpi.Helper
