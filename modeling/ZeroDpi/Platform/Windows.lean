/-
The WinDivert backend (zerodpi-platform/src/windows.rs): the packet it
rebuilds from a staged view, and what it puts on the wire for each verdict.

`parse_view` and `append_tcp_options` are the NFQUEUE backend's, line for
line. `build_modified` differs in one place, it never corrupts the TCP
checksum: WinDivert recalculates checksums right before a packet is sent,
so the corruption is patched in after that.

`recalculate_checksums` is WinDivert's and stays a parameter. Any send may
fail, and so may the opening of the handle that delayed segments use;
`DivertIo` holds that. Delays move no bytes, and a shutdown that stops the
delayed segments is a failed send.
-/
import ZeroDpi.Platform.Linux

namespace ZeroDpi.Windows

open Lib

open Linux (PacketLayout Emission)

variable (E : Etherparse)

/-- `parse_view`. -/
def parseView (direction : Direction) (buf : Bytes) :
    Except Panic (Option (CapturedPacket × PacketLayout)) :=
  Linux.parseView E direction buf

/-- `append_tcp_options`. -/
def appendTcpOptions (tcp : TcpHeader) (append : Bytes) :
    Option TcpHeader :=
  Linux.appendTcpOptions E tcp append

-- ========================================================= build_modified

/-- The staged mutations of the TCP header. -/
def rewriteTcp (view : PacketView) (tcp : TcpHeader) : Option TcpHeader := do
  let tcp := { tcp with
    sequenceNumber := view.newSeq.getD tcp.sequenceNumber
    acknowledgmentNumber := view.newAck.getD tcp.acknowledgmentNumber
    flags := view.newFlags.getD tcp.flags
    urgentPointer := view.newUrgentPointer.getD tcp.urgentPointer }
  let tcp ← match view.replaceTcpOptions with
    | none => some tcp
    | some options => (E.padOptions options).map fun padded =>
        { tcp with options := padded }
  appendTcpOptions E tcp view.appendTcpOptions

/-- The staged mutations of the IPv4 header. -/
def rewriteIpv4 (view : PacketView) (ip : Ipv4Header) : Ipv4Header :=
  { ip with
    identification :=
      if view.bumpIpv4Ident then ip.identification + 1
      else ip.identification
    timeToLive := view.newIpv4Ttl.getD ip.timeToLive }

/-- Both headers finished for a payload, and the three written out. The
stored checksums are always the valid ones. -/
def writePacket (ip : Ipv4Header) (tcp : TcpHeader) (payload : Bytes) :
    Option Bytes := do
  let totalLen ← E.totalLenFor ip (tcp.headerLen + payload.length)
  let ip := { ip with totalLen := totalLen }
  let ip := { ip with headerChecksum := E.headerChecksum ip }
  let checksum ← E.tcpChecksum ip tcp payload
  let tcp := { tcp with checksum := checksum }
  return E.ipv4Bytes ip ++ E.tcpBytes tcp ++ payload

/-- `build_modified`: `none` is its error. -/
def buildModified (orig : Bytes) (layout : PacketLayout)
    (view : PacketView) : Except Panic (Option Bytes) :=
  match E.ipv4FromSlice (orig.take layout.ipHdrLen),
      E.tcpFromSlice ((orig.drop layout.ipHdrLen).take layout.tcpHdrLen) with
  | some ip, some tcp =>
      match view.newPayload.or
          (slice? orig layout.payloadOff layout.totalLen) with
      | none => .error .indexOutOfBounds
      | some payload => .ok (do
          let tcp ← rewriteTcp E view tcp
          writePacket E (rewriteIpv4 view ip) tcp payload)
  | _, _ => .ok none

/-- `corrupt_tcp_checksum`: `none` is its error. -/
def corruptTcpChecksum (buf : Bytes) (layout : PacketLayout)
    (delta : UInt16) : Option Bytes :=
  let checksumOff := layout.ipHdrLen + 16
  if buf.length < checksumOff + 2 then none
  else
    let checksum :=
      (be16 (buf.getD checksumOff 0) (buf.getD (checksumOff + 1) 0)).toUInt16
    some (overwrite buf checksumOff (toBe16 (checksum + delta).toNat))

-- =============================================================== emission

/-- The divert handle: whether its `i`-th send for the packet succeeds,
and whether a second handle for delayed segments can be opened. -/
structure DivertIo where
  sends : Nat → Bool
  delayedHandle : Bool

/-- A packet that gets out if its send succeeds. -/
def DivertIo.send (io : DivertIo) (i : Nat) (b : Bytes) : List Bytes :=
  if io.sends i then [b] else []

/-- The packets that get out before the first failed send. -/
def DivertIo.sendAll (io : DivertIo) : Nat → List Bytes → List Bytes
  | _, [] => []
  | i, b :: rest => if io.sends i then b :: io.sendAll (i + 1) rest else []

/-- The packets that get out when failed sends are passed over. -/
def DivertIo.sendEach (io : DivertIo) : Nat → List Bytes → List Bytes
  | _, [] => []
  | i, b :: rest => io.send i b ++ io.sendEach (i + 1) rest

/-- The segments behind the first, at once or on the delayed handle. -/
def sendRemaining (io : DivertIo) (spec : DisorderSpec)
    (remaining : List Bytes) : List Bytes :=
  if spec.delayMs > 0 ∧ ¬ io.delayedHandle then []
  else io.sendAll 1 remaining

variable (recalculateChecksums : Bytes → Bytes)

/-- The shaped packet of an `acceptModified` verdict, once rebuilt. -/
def emitShaped (io : DivertIo) (buf : Bytes) (layout : PacketLayout)
    (view : PacketView) (newBytes : Bytes) : List Bytes :=
  match view.ipFragPayloadSize, view.disorderSpec with
  | some fragSize, _ => io.sendEach 0 (fragmentIpv4Packet newBytes fragSize)
  | none, some spec =>
      match splitTcpPayload newBytes spec with
      | first :: second :: rest =>
          if io.sends 0 then
            first :: sendRemaining io spec (second :: rest)
          else io.send 1 buf
      | _ => io.send 0 (recalculateChecksums newBytes)
  | none, none =>
      let newPkt := recalculateChecksums newBytes
      let newPkt := match view.corruptTcpChecksumDelta with
        | some delta => (corruptTcpChecksum newPkt layout delta).getD newPkt
        | none => newPkt
      io.send 0 newPkt
        ++ (if view.emitOriginalAfter then io.send 1 buf else [])

/-- The decoy copies of a staged decoy. -/
def emitDecoys (io : DivertIo) (buf : Bytes) (layout : PacketLayout)
    (view : PacketView) : Except Panic (List Bytes) :=
  match view.decoy with
  | none => .ok []
  | some decoy => do
      match ← buildModified E buf layout (view.decoyView decoy) with
      | some bytes =>
          return io.sendAll 0 (List.replicate (max decoy.repeats 1) bytes)
      | none => return []

/-- The verdict loop of `run_until` for one parsed packet: what goes out,
in order. The decoy copies and the shaped packet have their own sends. -/
def emit (decoyIo io : DivertIo) (buf : Bytes) (layout : PacketLayout)
    (handled : Handler.Handled) : Except Panic (List Bytes) :=
  match handled.verdict with
  | .accept => .ok (io.send 0 buf)
  | .drop => .ok []
  | .acceptModified => do
      let decoys ← emitDecoys E decoyIo buf layout handled.pkt
      match ← buildModified E buf layout handled.pkt with
      | none => return decoys ++ io.send 0 buf
      | some newBytes =>
          return decoys ++ emitShaped recalculateChecksums io buf layout
            handled.pkt newBytes

end ZeroDpi.Windows
