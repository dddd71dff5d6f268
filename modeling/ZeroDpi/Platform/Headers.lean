/-
The packet headers the backends rebuild packets from.

Reading, writing and checksumming them is the `etherparse` crate's work.
Its header types are public records and are taken as they are documented;
its functions are a parameter, `Etherparse`, and what the backends rely on
is `Etherparse.Lawful`: the wire positions of the lengths and of the
sequence number, and which lengths the functions let through. Every field
of it is a layout rule of the IPv4 or the TCP header, or a documented bound.
Where addresses and ports matter too, `Etherparse.KeepsAddresses` says where
they are, and `Etherparse.KeepsChecksum` says it of the TCP checksum;
`Etherparse.Checksums` says what that is.
-/
import ZeroDpi.Interceptor
import ZeroDpi.Platform.Segment

namespace ZeroDpi

open Lib

/-- `etherparse::Ipv4Header`. -/
structure Ipv4Header where
  dscp : UInt8
  ecn : UInt8
  totalLen : UInt16
  identification : UInt16
  dontFragment : Bool
  moreFragments : Bool
  fragmentOffset : UInt16
  timeToLive : UInt8
  protocol : UInt8
  headerChecksum : UInt16
  source : Ipv4Addr
  destination : Ipv4Addr
  options : Bytes
  deriving DecidableEq

/-- `etherparse::TcpHeader`. -/
structure TcpHeader where
  sourcePort : UInt16
  destinationPort : UInt16
  sequenceNumber : UInt32
  acknowledgmentNumber : UInt32
  flags : TcpFlags
  ns : Bool
  ece : Bool
  cwr : Bool
  windowSize : UInt16
  checksum : UInt16
  urgentPointer : UInt16
  options : Bytes
  deriving DecidableEq

/-- `header_len`. -/
def Ipv4Header.headerLen (h : Ipv4Header) : Nat := 20 + h.options.length

/-- `header_len`. -/
def TcpHeader.headerLen (h : TcpHeader) : Nat := 20 + h.options.length

/-- The option area of a header: whole words, at most ten. -/
structure OptionArea (options : Bytes) : Prop where
  words : options.length % 4 = 0
  room : options.length ≤ 40

/-- The functions of `etherparse` the backends call. A header slice and
the header read from it carry the same fields. -/
structure Etherparse where
  /-- `Ipv4HeaderSlice::from_slice`, `Ipv4Header::from_slice`. -/
  ipv4FromSlice : Bytes → Option Ipv4Header
  /-- `TcpHeaderSlice::from_slice`, `TcpHeader::from_slice`. -/
  tcpFromSlice : Bytes → Option TcpHeader
  /-- `Ipv4Header::set_payload_len`: the new total length. -/
  totalLenFor : Ipv4Header → Nat → Option UInt16
  /-- `TcpHeader::set_options_raw`: the padded option area. -/
  padOptions : Bytes → Option Bytes
  /-- `Ipv4Header::calc_header_checksum`. -/
  headerChecksum : Ipv4Header → UInt16
  /-- `TcpHeader::calc_checksum_ipv4`. -/
  tcpChecksum : Ipv4Header → TcpHeader → Bytes → Option UInt16
  /-- `Ipv4Header::write`. -/
  ipv4Bytes : Ipv4Header → Bytes
  /-- `TcpHeader::write`. -/
  tcpBytes : TcpHeader → Bytes

/-- The big-endian word of a byte string at `i`. -/
def be32At (b : Bytes) (i : Nat) : UInt32 :=
  be32 (b.getD i 0) (b.getD (i + 1) 0) (b.getD (i + 2) 0) (b.getD (i + 3) 0)

/-- What the backends rely on. -/
structure Etherparse.Lawful (E : Etherparse) : Prop where
  ipv4Options : ∀ {b h}, E.ipv4FromSlice b = some h → OptionArea h.options
  ipv4Present : ∀ {b h}, E.ipv4FromSlice b = some h → h.headerLen ≤ b.length
  ipv4Ihl : ∀ {b h}, E.ipv4FromSlice b = some h →
    ipv4HeaderLen (b.getD 0 0) = h.headerLen
  ipv4TotalLen : ∀ {b h}, E.ipv4FromSlice b = some h →
    h.totalLen.toNat = be16 (b.getD 2 0) (b.getD 3 0)
  tcpOptions : ∀ {b h}, E.tcpFromSlice b = some h → OptionArea h.options
  tcpPresent : ∀ {b h}, E.tcpFromSlice b = some h → h.headerLen ≤ b.length
  tcpDataOffset : ∀ {b h}, E.tcpFromSlice b = some h →
    ZeroDpi.tcpHeaderLen (b.getD 12 0) = h.headerLen
  tcpSequence : ∀ {b h}, E.tcpFromSlice b = some h →
    h.sequenceNumber = be32At b 4
  totalLenFor : ∀ {h n len}, E.totalLenFor h n = some len →
    len.toNat = h.headerLen + n
  padOptions : ∀ {raw padded}, E.padOptions raw = some padded →
    OptionArea padded
  ipv4Length : ∀ {h}, OptionArea h.options →
    (E.ipv4Bytes h).length = h.headerLen
  ipv4WriteIhl : ∀ {h}, OptionArea h.options →
    ipv4HeaderLen ((E.ipv4Bytes h).getD 0 0) = h.headerLen
  ipv4WriteTotalLen : ∀ {h}, OptionArea h.options →
    be16 ((E.ipv4Bytes h).getD 2 0) ((E.ipv4Bytes h).getD 3 0)
      = h.totalLen.toNat
  tcpLength : ∀ {h}, OptionArea h.options →
    (E.tcpBytes h).length = h.headerLen
  tcpWriteDataOffset : ∀ {h}, OptionArea h.options →
    ZeroDpi.tcpHeaderLen ((E.tcpBytes h).getD 12 0) = h.headerLen
  tcpWriteSequence : ∀ {h}, OptionArea h.options →
    be32At (E.tcpBytes h) 4 = h.sequenceNumber

/-- The wire positions of addresses and ports, read and written. -/
structure Etherparse.KeepsAddresses (E : Etherparse) : Prop where
  source : ∀ {b h}, E.ipv4FromSlice b = some h → h.source = be32At b 12
  destination : ∀ {b h}, E.ipv4FromSlice b = some h →
    h.destination = be32At b 16
  sourcePort : ∀ {b h}, E.tcpFromSlice b = some h →
    h.sourcePort.toNat = be16 (b.getD 0 0) (b.getD 1 0)
  destinationPort : ∀ {b h}, E.tcpFromSlice b = some h →
    h.destinationPort.toNat = be16 (b.getD 2 0) (b.getD 3 0)
  writeSource : ∀ {h}, OptionArea h.options →
    be32At (E.ipv4Bytes h) 12 = h.source
  writeDestination : ∀ {h}, OptionArea h.options →
    be32At (E.ipv4Bytes h) 16 = h.destination
  writeSourcePort : ∀ {h}, OptionArea h.options →
    be16 ((E.tcpBytes h).getD 0 0) ((E.tcpBytes h).getD 1 0)
      = h.sourcePort.toNat
  writeDestinationPort : ∀ {h}, OptionArea h.options →
    be16 ((E.tcpBytes h).getD 2 0) ((E.tcpBytes h).getD 3 0)
      = h.destinationPort.toNat

/-- The wire position of the TCP options, as they are written, and how an
option area is padded. -/
structure Etherparse.KeepsOptions (E : Etherparse) : Prop where
  writeOptions : ∀ {h}, OptionArea h.options →
    (E.tcpBytes h).drop 20 = h.options
  padOptions : ∀ {raw padded}, E.padOptions raw = some padded →
    padded = raw ++ List.replicate ((4 - raw.length % 4) % 4) 0

/-- The words of a TCP segment, its checksum field zero, and of its
pseudo-header. -/
def segmentSum (E : Etherparse) (ip : Ipv4Header) (tcp : TcpHeader)
    (payload : Bytes) : Nat :=
  wordSum (toBe32 ip.source ++ toBe32 ip.destination) + 6
    + (tcp.headerLen + payload.length)
    + wordSum (E.tcpBytes { tcp with checksum := 0 } ++ payload)

/-- The checksum of RFC 1071. -/
structure Etherparse.Checksums (E : Etherparse) : Prop where
  tcp : ∀ {ip tcp payload checksum}, OptionArea tcp.options →
    E.tcpChecksum ip tcp payload = some checksum →
      checksum = onesComplement (segmentSum E ip tcp payload)

/-- The wire position of the TCP checksum, as it is written. -/
structure Etherparse.KeepsChecksum (E : Etherparse) : Prop where
  writeChecksum : ∀ {h} (checksum : UInt16), OptionArea h.options →
    E.tcpBytes { h with checksum := checksum }
      = overwrite (E.tcpBytes h) 16 (toBe16 checksum.toNat)

end ZeroDpi
