/-
The wire protocol of the privileged helper
(zerodpi-helper-protocol/src/lib.rs): the messages with their field
checks, and the lifecycle states with the messages each accepts.

Frames are kept as values; the byte codec is not modelled here. A frame
that leaves `write_frame` or `read_frame` has passed `Message.validate`
and carries no flags, so a frame is its request id and its message.
-/
import ZeroDpi.Config.Validate
import ZeroDpi.Flow

namespace ZeroDpi.Helper

/-- `PROTOCOL_MAJOR`. Another major version is refused. -/
def protocolMajor : UInt16 := 1

/-- `PROTOCOL_MINOR`. -/
def protocolMinor : UInt16 := 3

/-- `MAX_FAKE_DATA_SIZE`, in bytes before the encoding. -/
def maxFakeDataSize : Nat := 64 * 1024

/-- `MAX_LIVE_FLOWS` of one session. -/
def maxLiveFlows : Nat := 4096

/-- `SESSION_PROOF_SIZE`. -/
def sessionProofSize : Nat := 32

-- ============================================================ payloads

/-- The client's first message: its proof, and who it is. -/
structure Hello where
  sessionProof : Bytes
  dataPlanePid : UInt32
  buildVersion : String
  deriving DecidableEq, Repr

/-- The answer to it, with the helper's identity. -/
structure HelloAccepted where
  peerUid : UInt32
  helperPid : UInt32
  helperUid : UInt32
  protocolMajor : UInt16
  protocolMinor : UInt16
  capabilities : List String
  deriving DecidableEq, Repr

/-- The rules are set with one of the two tools. -/
inductive FirewallBackend where
  | iptables
  | nftables
  deriving DecidableEq, Repr

/-- The methods and their options, as they cross the socket. -/
structure MethodConfig where
  methods : List String
  wrongSeqExtraOffset : UInt32
  wrongSeqSetPsh : Bool
  wrongSeqBumpIpIdent : Bool
  wrongChecksumDelta : UInt16
  wrongChecksumSetPsh : Bool
  wrongChecksumBumpIpIdent : Bool
  wrongChecksumCompleteImmediately : Bool
  wrongMd5SetPsh : Bool
  wrongMd5BumpIpIdent : Bool
  wrongMd5CompleteImmediately : Bool
  wrongAckOffset : UInt32
  wrongAckSetPsh : Bool
  wrongAckBumpIpIdent : Bool
  wrongAckCompleteImmediately : Bool
  wrongTimestampOffset : UInt32
  wrongTimestampSetPsh : Bool
  wrongTimestampBumpIpIdent : Bool
  wrongTimestampCompleteImmediately : Bool
  tlsRecordFragSize : Nat
  tlsRecordFragSetPsh : Bool
  tlsRecordFragBumpIpIdent : Bool
  lowTtlValue : UInt8
  lowTtlSetPsh : Bool
  lowTtlBumpIpIdent : Bool
  lowTtlCompleteImmediately : Bool
  deriving DecidableEq, Repr

/-- What an interceptor is opened with. -/
structure InterceptorConfig where
  interfaceIp : Ipv4Addr
  remoteIp : Option Ipv4Addr
  remotePort : UInt16
  queueNum : UInt16
  firewallBackend : FirewallBackend
  method : MethodConfig
  deriving DecidableEq, Repr

/-- How far a flow is, in the helper's words. -/
inductive Progress where
  | readyForData
  | fakeDataAcked
  | unexpectedClose
  deriving DecidableEq, Repr

/-- The codes of an error message. -/
inductive ErrorCode where
  | authenticationFailed
  | protocolMismatch
  | invalidState
  | invalidConfig
  | interceptorFailed
  | flowLimitReached
  | internal
  deriving DecidableEq, Repr

/-- The messages of both directions. -/
inductive Message where
  | hello (hello : Hello)
  | helloAccepted (accepted : HelloAccepted)
  | configureInterceptor (config : InterceptorConfig)
  | configured
  | openInterceptor
  | interceptorReady
  | closeInterceptor
  | interceptorClosed
  | registerFlow (flowId : UInt64) (key : FlowKey) (fakeData : Bytes)
      (lowTtlOverride : Option UInt8)
  | flowRegistered (flowId : UInt64)
  | removeFlow (flowId : UInt64)
  | flowRemoved (flowId : UInt64)
  | flowProgress (flowId : UInt64) (progress : Progress)
  | ping
  | pong
  | shutdown
  | shutdownComplete
  | helperWarning (code : ErrorCode) (message : String)
  | helperFatal (code : ErrorCode) (message : String)
  | setLowTtlValue (value : UInt8)
  | setLowTtlAck
  deriving DecidableEq, Repr

/-- A frame without flags. -/
structure Frame where
  requestId : UInt32
  message : Message
  deriving DecidableEq, Repr

-- ========================================================== field checks

/-- `ProtocolError::InvalidField`: the name of the offending field. -/
def invalidIf (bad : Bool) (field : String) : Except String Unit :=
  if bad then .error field else .ok ()

/-- `invalid_endpoint_address`: unspecified, multicast or broadcast. -/
def invalidEndpointAddress (address : Ipv4Addr) : Bool :=
  address == 0 || address >>> 28 == 0xE || address == 0xFFFFFFFF

/-- `SUPPORTED` of `MethodConfig::validate`. -/
def supportedMethods : List String :=
  ["wrong_seq", "wrong_ack", "wrong_checksum", "wrong_md5",
   "wrong_timestamp", "low_ttl", "tls_record_frag", "fake_tls", "ip_frag",
   "disorder", "tls_frag", "ccs_prefix", "tls_padding", "mixed_case_sni",
   "urg_sni_split", "sni_boundary_frag"]

/-- `MethodConfig::validate`, in its order. -/
def MethodConfig.validate (c : MethodConfig) : Except String Unit := do
  invalidIf (c.methods.isEmpty
    || c.methods.any fun m => !supportedMethods.contains m) "method names"
  invalidIf (c.wrongChecksumDelta == 0) "wrong checksum delta"
  invalidIf (c.wrongAckOffset == 0) "wrong ACK offset"
  invalidIf (c.wrongTimestampOffset == 0) "wrong timestamp offset"
  invalidIf (c.lowTtlValue == 0) "low TTL value"
  invalidIf (c.lowTtlValue > 64) "low TTL value"
  invalidIf (c.tlsRecordFragSize == 0 || c.tlsRecordFragSize > 65535)
    "TLS record fragment size"

/-- `InterceptorConfig::validate`; the methods come last. -/
def InterceptorConfig.validate (c : InterceptorConfig) :
    Except String Unit := do
  invalidIf (invalidEndpointAddress c.interfaceIp) "interface address"
  invalidIf (c.remoteIp.any invalidEndpointAddress) "remote address"
  invalidIf (c.remotePort == 0) "remote port"
  invalidIf (c.queueNum == 0) "queue number"
  c.method.validate

/-- `FlowKey::validate`. -/
def validateFlowKey (key : FlowKey) : Except String Unit := do
  invalidIf (invalidEndpointAddress key.srcIp
    || invalidEndpointAddress key.dstIp) "flow address"
  invalidIf (key.srcPort == 0 || key.dstPort == 0) "flow port"

/-- `Message::validate`: what serde does not check. -/
def Message.validate : Message → Except String Unit
  | .hello h => do
      invalidIf (h.sessionProof.length != sessionProofSize)
        "session proof"
      invalidIf (h.dataPlanePid == 0
        || h.buildVersion.utf8ByteSize == 0
        || h.buildVersion.utf8ByteSize > 64) "hello metadata"
  | .configureInterceptor config => config.validate
  | .registerFlow flowId key fakeData lowTtlOverride => do
      invalidIf (flowId == 0 || fakeData.length > maxFakeDataSize)
        "flow registration"
      validateFlowKey key
      invalidIf (lowTtlOverride.any fun v => v == 0 || v > 64)
        "low TTL override"
  | .flowRegistered flowId | .removeFlow flowId | .flowRemoved flowId
  | .flowProgress flowId _ => invalidIf (flowId == 0) "flow id"
  | .helloAccepted accepted => do
      invalidIf (accepted.peerUid == 0 || accepted.helperPid == 0
        || accepted.helperUid != 0
        || accepted.protocolMajor != protocolMajor
        || accepted.protocolMinor > protocolMinor)
        "accepted helper identity"
      invalidIf (accepted.capabilities.length > 32
        || accepted.capabilities.any fun c =>
          c.utf8ByteSize == 0 || c.utf8ByteSize > 32) "capabilities"
  | .helperWarning _ message | .helperFatal _ message =>
      invalidIf (message.utf8ByteSize > 512) "diagnostic message"
  | .setLowTtlValue value =>
      invalidIf (value == 0 || value > 64) "low TTL value"
  | .configured | .openInterceptor | .interceptorReady
  | .closeInterceptor | .interceptorClosed | .ping | .pong | .shutdown
  | .shutdownComplete | .setLowTtlAck => .ok ()

-- ============================================================= lifecycle

/-- The states of a helper session. -/
inductive HelperState where
  | created
  | authenticated
  | configured
  | interceptorOpen
  | shuttingDown
  | exited
  deriving DecidableEq, Repr

/-- `HelperState::accepts`. -/
def HelperState.accepts (s : HelperState) : Message → Bool
  | .hello _ => s == .created
  | .configureInterceptor _ => s == .authenticated || s == .configured
  | .openInterceptor => s == .configured
  | .registerFlow .. => s == .interceptorOpen
  | .removeFlow _ =>
      s == .authenticated || s == .configured || s == .interceptorOpen
  | .closeInterceptor => s == .configured || s == .interceptorOpen
  | .setLowTtlValue _ => s == .interceptorOpen
  | .ping => !(s == .created || s == .exited)
  | .shutdown => s != .exited
  | _ => false

end ZeroDpi.Helper
