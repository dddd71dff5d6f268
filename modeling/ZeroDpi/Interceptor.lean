/-
The packet vocabulary the backends and the handler share
(zerodpi-core/src/interceptor.rs): the captured TCP/IPv4 packet, the
mutations a method stages on it, and the verdict handed back.

# Captured versus staged

The source keeps both halves in one `PacketView`. Here the captured half
is `CapturedPacket`, which no code ever writes, and `PacketView` extends
it with the staged fields, every one defaulting to "nothing staged".
That is exactly what `parse_view` builds, so `CapturedPacket.view` is the
only way a run introduces a packet, and a hook can only move the staged
half.

`payload_len` is not a field: both backends cut `payload` to exactly
`payload_len` bytes, so the length is read off the payload.
-/

namespace ZeroDpi

/-- A byte string on the wire or in a buffer. -/
abbrev Bytes := List UInt8

/-- An IPv4 address, big-endian as one word. -/
abbrev Ipv4Addr := UInt32

/-- Direction relative to the host running the proxy. -/
inductive Direction where
  | outbound
  | inbound
  deriving DecidableEq

/-- The six TCP control bits the handler looks at. -/
structure TcpFlags where
  syn : Bool := false
  ack : Bool := false
  psh : Bool := false
  rst : Bool := false
  fin : Bool := false
  urg : Bool := false
  deriving DecidableEq

-- ===================================================== staged requests

/-- Fake prefix spliced in front of the first emitted TCP segment. -/
structure OverlapFake where
  /-- Number of fake bytes prepended to emission-order segment 0. -/
  bytes : Nat
  /-- Fixed prefix bytes; `none` draws them from `seed`. -/
  pattern : Option Bytes
  seed : UInt64
  deriving DecidableEq

/-- One draw of the `splitmix64` stream: the advanced state and the
mixed word. -/
def splitmix64 (state : UInt64) : UInt64 × UInt64 :=
  let state := state + 0x9E3779B97F4A7C15
  let z := (state ^^^ (state >>> 30)) * 0xBF58476D1CE4E5B9
  let z := (z ^^^ (z >>> 27)) * 0x94D049BB133111EB
  (state, z ^^^ (z >>> 31))

/-- The eight bytes of a word, least significant first. -/
def toLeBytes (z : UInt64) : Bytes :=
  (List.range 8).map fun i => (z >>> (8 * i).toUInt64).toUInt8

/-- `n` words of the stream seeded by `state`, as bytes. -/
def splitmixBytes : Nat → UInt64 → Bytes
  | 0, _ => []
  | n + 1, state =>
      let (state, z) := splitmix64 state
      toLeBytes z ++ splitmixBytes n state

/-- Exactly `bytes` fake prefix bytes: the pattern clamped or
zero-extended to that length, or the head of the seeded stream. -/
def OverlapFake.materialize (o : OverlapFake) : Bytes :=
  match o.pattern with
  | some pattern =>
      (pattern ++ List.replicate (o.bytes - pattern.length) 0).take o.bytes
  | none => (splitmixBytes ((o.bytes + 7) / 8) o.seed).take o.bytes

/-- A decoy packet emitted before the real data packet. -/
structure DecoyPacket where
  seq : UInt32
  payload : Bytes
  flags : TcpFlags
  bumpIpv4Ident : Bool
  repeats : Nat
  delayMs : Nat
  deriving DecidableEq

/-- Staged TCP segmentation request (`disorder` and `seqovl`). -/
structure DisorderSpec where
  segments : Nat
  reverse : Bool
  delayMs : Nat
  overlap : Option OverlapFake
  deriving DecidableEq

-- ========================================================== the packet

/-- What a backend reads off a captured TCP/IPv4 packet. -/
structure CapturedPacket where
  direction : Direction
  srcIp : Ipv4Addr
  dstIp : Ipv4Addr
  srcPort : UInt16
  dstPort : UInt16
  seq : UInt32
  ack : UInt32
  flags : TcpFlags
  payload : Bytes
  tcpOptions : Bytes
  deriving DecidableEq

/-- The read/write view the handler and the methods work on: the
captured packet plus the mutations staged for `acceptModified`. -/
structure PacketView extends CapturedPacket where
  newSeq : Option UInt32 := none
  newAck : Option UInt32 := none
  newFlags : Option TcpFlags := none
  newUrgentPointer : Option UInt16 := none
  newPayload : Option Bytes := none
  replaceTcpOptions : Option Bytes := none
  appendTcpOptions : Bytes := []
  bumpIpv4Ident : Bool := false
  corruptTcpChecksumDelta : Option UInt16 := none
  emitOriginalAfter : Bool := false
  decoy : Option DecoyPacket := none
  ipFragPayloadSize : Option Nat := none
  disorderSpec : Option DisorderSpec := none
  newIpv4Ttl : Option UInt8 := none
  deriving DecidableEq

/-- The view a backend builds for a freshly captured packet: nothing
staged. -/
def CapturedPacket.view (c : CapturedPacket) : PacketView :=
  { toCapturedPacket := c }

@[simp] theorem CapturedPacket.view_toCapturedPacket (c : CapturedPacket) :
    c.view.toCapturedPacket = c := rfl

/-- Length of the captured TCP payload. -/
def CapturedPacket.payloadLen (c : CapturedPacket) : Nat :=
  c.payload.length

/-- A bare ACK: ACK set, no payload, no other control bits. -/
def CapturedPacket.isBareAck (c : CapturedPacket) : Bool :=
  c.flags.ack && !c.flags.syn && !c.flags.rst && !c.flags.fin
    && c.payloadLen == 0

/-- A SYN-ACK without payload. -/
def CapturedPacket.isSynAck (c : CapturedPacket) : Bool :=
  c.flags.syn && c.flags.ack && !c.flags.rst && !c.flags.fin
    && c.payloadLen == 0

/-- A bare SYN: no payload, no ACK. -/
def CapturedPacket.isBareSyn (c : CapturedPacket) : Bool :=
  c.flags.syn && !c.flags.ack && !c.flags.rst && !c.flags.fin
    && c.payloadLen == 0

/-- The view used to rebuild the decoy: the captured headers with the
decoy's own sequence number, payload, flags and identification bump, and
every other staged mutation cleared. -/
def PacketView.decoyView (pkt : PacketView) (decoy : DecoyPacket) :
    PacketView :=
  { pkt.toCapturedPacket.view with
    newSeq := some decoy.seq
    newFlags := some decoy.flags
    newPayload := some decoy.payload
    bumpIpv4Ident := decoy.bumpIpv4Ident }

/-- Verdict returned to the backend after a handler runs. -/
inductive Verdict where
  | accept
  | acceptModified
  | drop
  deriving DecidableEq

-- =============================================== the three packet shapes

/-- A packet that carries payload is none of the three bare shapes: the
data stage never competes with the handshake arms. -/
theorem CapturedPacket.not_bare_of_payload {c : CapturedPacket}
    (h : 0 < c.payloadLen) :
    c.isBareAck = false ∧ c.isBareSyn = false ∧ c.isSynAck = false := by
  have hne : (c.payloadLen == 0) = false := by
    simp only [beq_eq_false_iff_ne, ne_eq]
    omega
  simp [isBareAck, isBareSyn, isSynAck, hne]

/-- A bare ACK is neither a bare SYN nor a SYN-ACK. -/
theorem CapturedPacket.not_syn_of_isBareAck {c : CapturedPacket}
    (h : c.isBareAck = true) :
    c.isBareSyn = false ∧ c.isSynAck = false := by
  simp only [isBareAck, Bool.and_eq_true, Bool.not_eq_true'] at h
  simp [isBareSyn, isSynAck, h.1.1.1.2]

end ZeroDpi
