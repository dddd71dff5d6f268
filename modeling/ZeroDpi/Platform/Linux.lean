/-
The NFQUEUE backend (zerodpi-platform/src/linux.rs): the view it builds
for a captured packet, the packet it rebuilds from a staged view, and
what it puts on the wire for each verdict.

The raw injection socket may be missing and any of its sends may fail;
`RawIo` holds that. Delays, and the thread that sends delayed segments,
move no bytes; a shutdown that stops the thread is a failed send.
-/
import ZeroDpi.Platform.Headers
import ZeroDpi.Handler

namespace ZeroDpi.Linux

open Lib

variable (E : Etherparse)

-- ============================================================= parse_view

/-- Parsed offsets inside the captured buffer. -/
structure PacketLayout where
  ipHdrLen : Nat
  tcpHdrLen : Nat
  payloadOff : Nat
  totalLen : Nat
  deriving DecidableEq

/-- `etherparse::IpNumber::TCP`. -/
def ipNumberTcp : UInt8 := 6

/-- `parse_view`: `none` is its error, an index out of range its panic. -/
def parseView (direction : Direction) (buf : Bytes) :
    Except Panic (Option (CapturedPacket × PacketLayout)) :=
  match E.ipv4FromSlice buf with
  | none => .ok none
  | some ip =>
      if ip.protocol ≠ ipNumberTcp then .ok none
      else match E.tcpFromSlice (buf.drop ip.headerLen) with
        | none => .ok none
        | some tcp =>
            let totalLen := ip.totalLen.toNat
            let payloadOff := ip.headerLen + tcp.headerLen
            let payloadLen := totalLen - payloadOff
            match slice? buf payloadOff (payloadOff + payloadLen) with
            | none => .error .indexOutOfBounds
            | some payload => .ok (some (
                { direction := direction
                  srcIp := ip.source, dstIp := ip.destination
                  srcPort := tcp.sourcePort, dstPort := tcp.destinationPort
                  seq := tcp.sequenceNumber, ack := tcp.acknowledgmentNumber
                  flags := tcp.flags
                  payload := payload
                  tcpOptions := tcp.options },
                { ipHdrLen := ip.headerLen
                  tcpHdrLen := tcp.headerLen
                  payloadOff := payloadOff
                  totalLen := totalLen }))

-- ========================================================= build_modified

/-- `append_tcp_options`. -/
def appendTcpOptions (tcp : TcpHeader) (append : Bytes) :
    Option TcpHeader :=
  if append.isEmpty then some tcp
  else
    let rawLen := tcp.options.length + append.length
    let paddedLen := (rawLen + 3) / 4 * 4
    if 40 < paddedLen then none
    else (E.padOptions (tcp.options ++ append)).map fun options =>
      { tcp with options := options }

/-- The staged mutations of the TCP header. -/
def rewriteTcp (view : PacketView) (tcp : TcpHeader) : Option TcpHeader := do
  let tcp := { tcp with
    sequenceNumber := view.newSeq.getD tcp.sequenceNumber
    acknowledgmentNumber := view.newAck.getD tcp.acknowledgmentNumber
    flags := view.newFlags.getD tcp.flags
    urgentPointer := view.newUrgentPointer.getD tcp.urgentPointer }
  let tcp ← match view.replaceTcpOptions with
    | none => some tcp
    | some options => (E.padOptions options).map fun padded =>
        { tcp with options := padded }
  appendTcpOptions E tcp view.appendTcpOptions

/-- The staged mutations of the IPv4 header. -/
def rewriteIpv4 (view : PacketView) (ip : Ipv4Header) : Ipv4Header :=
  { ip with
    identification :=
      if view.bumpIpv4Ident then ip.identification + 1
      else ip.identification
    timeToLive := view.newIpv4Ttl.getD ip.timeToLive }

/-- Both headers finished for a payload, and the three written out. -/
def writePacket (view : PacketView) (ip : Ipv4Header) (tcp : TcpHeader)
    (payload : Bytes) : Option Bytes := do
  let totalLen ← E.totalLenFor ip (tcp.headerLen + payload.length)
  let ip := { ip with totalLen := totalLen }
  let ip := { ip with headerChecksum := E.headerChecksum ip }
  let checksum ← E.tcpChecksum ip tcp payload
  let tcp := { tcp with
    checksum := match view.corruptTcpChecksumDelta with
      | some delta => checksum + delta
      | none => checksum }
  return E.ipv4Bytes ip ++ E.tcpBytes tcp ++ payload

/-- `build_modified`: `none` is its error. -/
def buildModified (orig : Bytes) (layout : PacketLayout)
    (view : PacketView) : Except Panic (Option Bytes) :=
  match E.ipv4FromSlice (orig.take layout.ipHdrLen),
      E.tcpFromSlice ((orig.drop layout.ipHdrLen).take layout.tcpHdrLen) with
  | some ip, some tcp =>
      match view.newPayload.or
          (slice? orig layout.payloadOff layout.totalLen) with
      | none => .error .indexOutOfBounds
      | some payload => .ok (do
          let tcp ← rewriteTcp E view tcp
          writePacket E view (rewriteIpv4 view ip) tcp payload)
  | _, _ => .ok none

-- =============================================================== emission

/-- The raw injection socket: whether it is open, and whether its `i`-th
send for the packet succeeds. -/
structure RawIo where
  socket : Bool
  sends : Nat → Bool

/-- What goes out as one unit: a packet, or the fragments of one
datagram. -/
inductive Emitted where
  | packet (bytes : Bytes)
  | fragments (parts : List Bytes)
  deriving DecidableEq

/-- The packets that get out before the first failed send. -/
def RawIo.sendAll (io : RawIo) : Nat → List Bytes → List Bytes
  | _, [] => []
  | i, b :: rest => if io.sends i then b :: io.sendAll (i + 1) rest else []

/-- The shaped packet of an `acceptModified` verdict, once rebuilt. -/
def emitShaped (io : RawIo) (buf : Bytes) (view : PacketView)
    (newBytes : Bytes) : List Emitted :=
  match view.ipFragPayloadSize, view.disorderSpec with
  | some fragSize, _ =>
      let fragments := fragmentIpv4Packet newBytes fragSize
      if io.socket ∧ 1 < fragments.length then
        let sent := io.sendAll 0 fragments
        if sent = fragments then [.fragments fragments]
        else [.fragments sent, .packet newBytes]
      else [.packet newBytes]
  | none, some spec =>
      let segments := splitTcpPayload newBytes spec
      if io.socket ∧ 1 < segments.length ∧ io.sends 0 then
        (io.sendAll 0 segments).map .packet
      else [.packet newBytes]
  | none, none =>
      if view.emitOriginalAfter ∧ io.socket ∧ io.sends 0 then
        [.packet newBytes, .packet buf]
      else [.packet newBytes]

/-- What the backend emits for a packet: the decoy copies, and what it
puts in the packet's place. -/
structure Emission where
  decoys : List Bytes
  inPlace : List Emitted
  deriving DecidableEq

/-- The decoy copies of a staged decoy. -/
def emitDecoys (io : RawIo) (buf : Bytes) (layout : PacketLayout)
    (view : PacketView) : Except Panic (List Bytes) :=
  match view.decoy with
  | none => .ok []
  | some decoy => do
      match ← buildModified E buf layout (view.decoyView decoy) with
      | some bytes =>
          return if io.socket then
            io.sendAll 0 (List.replicate (max decoy.repeats 1) bytes)
          else []
      | none => return []

/-- The verdict loop of `run_until` for one parsed packet. The decoy
copies and the shaped packet have their own sends. -/
def emit (decoyIo io : RawIo) (buf : Bytes) (layout : PacketLayout)
    (handled : Handler.Handled) : Except Panic Emission :=
  match handled.verdict with
  | .accept => .ok { decoys := [], inPlace := [.packet buf] }
  | .drop => .ok { decoys := [], inPlace := [] }
  | .acceptModified => do
      let decoys ← emitDecoys E decoyIo buf layout handled.pkt
      match ← buildModified E buf layout handled.pkt with
      | none => return { decoys := decoys, inPlace := [.packet buf] }
      | some newBytes => return {
          decoys := decoys
          inPlace := emitShaped io buf handled.pkt newBytes }

end ZeroDpi.Linux
