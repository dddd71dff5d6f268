/-
The data-stage methods: `tls_record_frag`, `fake_tls`, `ip_frag`,
`disorder`, `seqovl`, and `urg_sni_split`
(zerodpi-core/src/methods/).

All six pass the handshake ACK through and act on the first outbound data
packet. The three emission shapers only leave a request on the view; the
backend cuts the rebuilt packet up.
-/
import ZeroDpi.Methods.Sni
import ZeroDpi.Methods.Handshake

namespace ZeroDpi

open Lib

-- ====================================================== tls_record_frag

/-- One record body re-framed as records of at most `fragSize` body
bytes; an empty body keeps its header. `kind` is the content type and the
two version bytes. -/
def reframe (kind : Bytes) (fragSize : Nat) (body : Bytes) : Bytes :=
  if body.isEmpty then kind ++ [0, 0]
  else (chunks fragSize body).flatMap fun chunk =>
    kind ++ toBe16 chunk.length ++ chunk

/-- The record loop of `fragment_payload` over the bytes left. A record
takes at least its header, so the length of the data bounds the turns. -/
def fragmentRecords (fragSize : Nat) : Nat → Bytes → Option Bytes
  | _, [] => some []
  | fuel + 1, t :: v0 :: v1 :: l0 :: l1 :: rest =>
      let bodyLen := be16 l0 l1
      if rest.length < bodyLen then none
      else (fragmentRecords fragSize fuel (rest.drop bodyLen)).map fun out =>
        reframe [t, v0, v1] fragSize (rest.take bodyLen) ++ out
  | _, _ => none

/-- `fragment_payload`: `none` when a record is incomplete; asserts a
positive fragment size. -/
def fragmentPayload (data : Bytes) (fragSize : Nat) :
    Except Panic (Option Bytes) :=
  if fragSize = 0 then .error (.assertFailed "frag_size must be >= 1")
  else .ok (fragmentRecords fragSize data.length data)

/-- `tls_record_frag`. -/
structure TlsRecordFrag where
  fragSize : Nat
  setPsh : Bool
  bumpIpIdent : Bool
  deriving DecidableEq

/-- Its parameters in the config; so below. -/
def TlsRecordFrag.new (cfg : Config) : TlsRecordFrag where
  fragSize := cfg.tlsRecordFragSize
  setPsh := cfg.tlsRecordFragSetPsh
  bumpIpIdent := cfg.tlsRecordFragBumpIpIdent

/-- Replace the payload by its re-framing, whatever the flow state. -/
def TlsRecordFrag.onFirstDataPacket (m : TlsRecordFrag) (pkt : PacketView) :
    HookResult := do
  match ← fragmentPayload pkt.payload m.fragSize with
  | none => return (.completeAndAccept, pkt)
  | some fragmented =>
      return (.emitAndComplete,
        pkt.stageFake fragmented m.setPsh m.bumpIpIdent)

instance : BypassMethod TlsRecordFrag where
  name _ := "tls_record_frag"
  onHandshakeCompleteAck _ _ _ pkt := .ok (.passThrough, pkt)
  onFirstDataPacket m _ _ pkt := m.onFirstDataPacket pkt

-- ============================================================= fake_tls

/-- `fake_tls`. -/
structure FakeTls where
  extraOffset : UInt32
  setPsh : Bool
  bumpIpIdent : Bool
  completeImmediately : Bool
  forwardReal : Bool
  /-- Another data-stage method shapes the real packet. -/
  chained : Bool
  repeats : Nat
  chainDelayMs : Int32Range
  deriving DecidableEq

/-- `FakeTls::new(cfg).chained(chained)`. -/
def FakeTls.new (cfg : Config) (chained : Bool) : FakeTls where
  extraOffset := cfg.fakeTlsExtraOffset
  setPsh := cfg.fakeTlsSetPsh
  bumpIpIdent := cfg.fakeTlsBumpIpIdent
  completeImmediately := cfg.fakeTlsCompleteImmediately
  forwardReal := cfg.fakeTlsForwardReal
  chained := chained
  repeats := cfg.fakeTlsRepeats
  chainDelayMs := cfg.fakeTlsChainDelayMs

/-- The decoy `fake_tls` stages beside the real packet when chained. -/
def FakeTls.decoy (m : FakeTls) (env : HookEnv) (newSeq : UInt32)
    (payload : Bytes) (flags : TcpFlags) : DecoyPacket where
  seq := newSeq
  payload := payload
  flags := { flags with psh := m.setPsh }
  bumpIpv4Ident := m.bumpIpIdent
  repeats := m.repeats
  delayMs := (sampleI32 m.chainDelayMs env.rngState).1.toInt.toNat

/-- Chained: stage a decoy on the first data packet only. Alone: turn the
packet into the decoy and, with `forwardReal`, send the original after
it. -/
def FakeTls.onFirstDataPacket (m : FakeTls) (env : HookEnv)
    (flow : FlowState) (pkt : PacketView) : HookResult :=
  if m.chained && flow.firstDataModified then .ok (.completeAndAccept, pkt)
  else match flow.synSeq with
  | none => .error (.expectFailed
      "syn_seq must be set before the first data packet")
  | some synSeq =>
      let payload := flow.fakeData
      let newSeq :=
        seqBehindWindow synSeq payload.length.toUInt32 m.extraOffset
      let action := .emitFakeAndAccept m.completeImmediately false
      if m.chained then
        .ok (action,
          { pkt with decoy := some (m.decoy env newSeq payload pkt.flags) })
      else
        .ok (action,
          { pkt.stageFake payload m.setPsh m.bumpIpIdent with
            newSeq := some newSeq
            emitOriginalAfter := m.forwardReal })

instance : BypassMethod FakeTls where
  name _ := "fake_tls"
  onHandshakeCompleteAck _ _ _ pkt := .ok (.passThrough, pkt)
  onFirstDataPacket m env flow pkt := m.onFirstDataPacket env flow pkt

-- ==================================================== emission shapers

/-- The tail shared by the two shapers with an `*_ONLY_FIRST_PACKET`
switch: without it, the data stage asks for fragment-all mode. -/
def MethodAction.emitShaped (onlyFirstPacket : Bool) : MethodAction :=
  if onlyFirstPacket then emitAndComplete else .emitFakeAndAccept false true

/-- `ip_frag`. -/
structure IpFrag where
  fragSize : Nat
  onlyFirstPacket : Bool
  deriving DecidableEq

/-- Its fragment size, and whether only the first packet is cut. -/
def IpFrag.new (cfg : Config) : IpFrag where
  fragSize := cfg.ipFragSize
  onlyFirstPacket := cfg.ipFragOnlyFirstPacket

/-- Request IP fragmentation when header and payload exceed one
fragment. -/
def IpFrag.onFirstDataPacket (m : IpFrag) (pkt : PacketView) :
    MethodAction × PacketView :=
  let tcpHdrLen := 20 + pkt.tcpOptions.length
  (.emitShaped m.onlyFirstPacket,
    if tcpHdrLen + pkt.payloadLen > m.fragSize then
      { pkt with ipFragPayloadSize := some m.fragSize }
    else pkt)

instance : BypassMethod IpFrag where
  name _ := "ip_frag"
  onHandshakeCompleteAck _ _ _ pkt := .ok (.passThrough, pkt)
  onFirstDataPacket m _ _ pkt := .ok (m.onFirstDataPacket pkt)

/-- `DEFAULT_SEQOVL_SIZE`. -/
def defaultSeqovlSize : Nat := 32

/-- `overlap_from_config`; `seed` is what `fresh_seed` returned. -/
def overlapFromConfig (cfg : Config) (defaultWhenUnset : Nat)
    (seed : UInt64) : Option OverlapFake :=
  let pattern := cfg.seqovlPattern.bind fun raw =>
    (parseHexPattern raw).toOption
  let bytes := match cfg.seqovlSize with
    | some size => size
    | none => (pattern.map List.length).getD defaultWhenUnset
  if bytes = 0 then none
  else some { bytes := bytes, pattern := pattern, seed := seed }

/-- The staging `disorder` and `seqovl` share: request the segmentation
when the payload has a byte for every segment. -/
def PacketView.stageSegments (pkt : PacketView) (spec : DisorderSpec) :
    PacketView :=
  if pkt.payloadLen ≥ spec.segments then { pkt with disorderSpec := some spec }
  else pkt

/-- `disorder`. -/
structure Disorder where
  spec : DisorderSpec
  onlyFirstPacket : Bool
  deriving DecidableEq

/-- Without an overlap. -/
def Disorder.new (cfg : Config) (seed : UInt64) : Disorder where
  spec := {
    segments := cfg.disorderSegments
    reverse := cfg.disorderReverse
    delayMs := cfg.disorderDelayMs
    overlap := overlapFromConfig cfg 0 seed }
  onlyFirstPacket := cfg.disorderOnlyFirstPacket

/-- The segments are staged, if the payload is long enough. -/
def Disorder.onFirstDataPacket (m : Disorder) (pkt : PacketView) :
    MethodAction × PacketView :=
  (.emitShaped m.onlyFirstPacket, pkt.stageSegments m.spec)

instance : BypassMethod Disorder where
  name _ := "disorder"
  onHandshakeCompleteAck _ _ _ pkt := .ok (.passThrough, pkt)
  onFirstDataPacket m _ _ pkt := .ok (m.onFirstDataPacket pkt)

/-- `seqovl`. -/
structure Seqovl where
  spec : DisorderSpec
  deriving DecidableEq

/-- With an overlap. -/
def Seqovl.new (cfg : Config) (seed : UInt64) : Seqovl where
  spec := {
    segments := cfg.seqovlSegments
    reverse := cfg.seqovlReverse
    delayMs := cfg.seqovlDelayMs
    overlap := overlapFromConfig cfg defaultSeqovlSize seed }

/-- Likewise; the flow is complete at once. -/
def Seqovl.onFirstDataPacket (m : Seqovl) (pkt : PacketView) :
    MethodAction × PacketView :=
  (.emitAndComplete, pkt.stageSegments m.spec)

instance : BypassMethod Seqovl where
  name _ := "seqovl"
  onHandshakeCompleteAck _ _ _ pkt := .ok (.passThrough, pkt)
  onFirstDataPacket m _ _ pkt := .ok (m.onFirstDataPacket pkt)

-- ======================================================== urg_sni_split

/-- `resolve_insert_position`. -/
def resolveInsertPosition (nameLen : Nat) (pos : SniSplitPosition) : Nat :=
  if nameLen = 0 then 0
  else
    let idx := match pos with
      | .middle => nameLen / 2
      | .atStart => 0
      | .atEnd => nameLen - 1
      | .index n => n.toNat
    min idx (nameLen - 1)

/-- `insert_dummy`. -/
def insertDummy (payload : Bytes) (at_ : Nat) (byte : UInt8) : Bytes :=
  payload.take at_ ++ [byte] ++ payload.drop at_

/-- `urg_sni_split`. -/
structure UrgSniSplit where
  dummyByte : UInt8
  position : SniSplitPosition
  deriving DecidableEq

/-- Its byte, and where it goes. -/
def UrgSniSplit.new (cfg : Config) : UrgSniSplit where
  dummyByte := cfg.sniSplitDummyByte
  position := cfg.sniSplitPosition

/-- Splice the dummy byte into the name, set URG and point the urgent
pointer past it; a payload without a parseable SNI passes through. -/
def UrgSniSplit.onFirstDataPacket (m : UrgSniSplit) (pkt : PacketView) :
    HookResult := do
  match ← findSniRange pkt.payload with
  | none => return (.passThrough, pkt)
  | some (nameStart, nameLen) =>
      let insertAt := nameStart + resolveInsertPosition nameLen m.position
      return (.emitAndComplete,
        { pkt with
          newPayload := some (insertDummy pkt.payload insertAt m.dummyByte)
          newFlags := some { pkt.flags with urg := true }
          newUrgentPointer := some (min (insertAt + 1) 65535).toUInt16 })

instance : BypassMethod UrgSniSplit where
  name _ := "urg_sni_split"
  onHandshakeCompleteAck _ _ _ pkt := .ok (.passThrough, pkt)
  onFirstDataPacket m _ _ pkt := m.onFirstDataPacket pkt

end ZeroDpi
