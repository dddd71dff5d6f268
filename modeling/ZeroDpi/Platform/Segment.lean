/-
Out-of-order TCP segmentation (zerodpi-core/src/tcp_segment.rs).
-/
import ZeroDpi.Platform.Fragment

namespace ZeroDpi

open Lib

/-- The TCP header length in bytes, from its data-offset byte. -/
def tcpHeaderLen (dataOffset : UInt8) : Nat := (dataOffset >>> 4).toNat * 4

/-- `tcp_checksum`: pseudo-header, TCP header and payload. -/
def tcpChecksum (seg : Bytes) (ihl tcpHdrLen : Nat) : UInt16 :=
  let tcpLen := (tcpHdrLen + (seg.length - (ihl + tcpHdrLen))) % 65536
  onesComplement (wordSum ((seg.drop 12).take 8) + 6 + tcpLen
    + wordSum (seg.drop ihl))

/-- The headers and cut of the packet being split. -/
structure SplitLayout where
  ihl : Nat
  tcpHdrLen : Nat
  payloadOff : Nat
  chunk : Nat
  origSeq : UInt32
  deriving DecidableEq

/-- One segment: `lead` is the overlap prefix it carries, `part` its run
of the payload at `offset`. -/
def buildSegment (bytes : Bytes) (t : SplitLayout) (lead part : Bytes)
    (offset : Nat) (endsPayload : Bool) : Bytes :=
  let seg := bytes.take t.payloadOff ++ lead ++ part
  let total := t.payloadOff + lead.length + part.length
  let seg := overwrite seg 2 (toBe16 total)
  let seq := t.origSeq + offset.toUInt32 - lead.length.toUInt32
  let seg := overwrite seg (t.ihl + 4) (toBe32 seq)
  let flagsByte := bytes.getD (t.ihl + 13) 0
  let seg := overwrite seg (t.ihl + 13)
    [if endsPayload then flagsByte else flagsByte &&& ~~~ 0x08]
  let seg := overwrite seg 10 [0, 0]
  let seg := overwrite seg 10
    (toBe16 (ipv4HeaderChecksum (seg.take t.ihl)).toNat)
  let seg := overwrite seg (t.ihl + 16) [0, 0]
  overwrite seg (t.ihl + 16)
    (toBe16 (tcpChecksum seg t.ihl t.tcpHdrLen).toNat)

/-- The segment loop over the parts left; `index` counts them. -/
def buildSegments (bytes : Bytes) (t : SplitLayout) (payloadLen : Nat)
    (lead : Bytes) (overlapIndex : Nat) :
    Nat → Nat → List Bytes → List Bytes
  | _, _, [] => []
  | index, offset, part :: rest =>
      buildSegment bytes t (if index = overlapIndex then lead else []) part
          offset (offset + part.length = payloadLen)
        :: buildSegments bytes t payloadLen lead overlapIndex (index + 1)
            (offset + part.length) rest

/-- The headers, if the buffer holds them. -/
def splitHeaders? (bytes : Bytes) : Option (Nat × Nat) :=
  match bytes.head? with
  | none => none
  | some first =>
      let ihl := ipv4HeaderLen first
      if ihl < 20 ∨ bytes.length < ihl + 20 then none
      else
        let tcpHdrLen := tcpHeaderLen (bytes.getD (ihl + 12) 0)
        if tcpHdrLen < 20 ∨ bytes.length < ihl + tcpHdrLen then none
        else some (ihl, tcpHdrLen)

/-- The overlap prefix of a split into runs of `chunk`: omitted in
reverse mode when it does not fit inside the run emitted after it, and
when the packet would exceed the IPv4 limit. -/
def overlapPrefix (spec : DisorderSpec) (payloadOff chunk : Nat) : Bytes :=
  let lead := (spec.overlap.map OverlapFake.materialize).getD []
  if (spec.reverse ∧ chunk ≤ lead.length)
      ∨ 65535 < payloadOff + chunk + lead.length then []
  else lead

/-- `split_tcp_payload`. -/
def splitTcpPayload (bytes : Bytes) (spec : DisorderSpec) : List Bytes :=
  match splitHeaders? bytes with
  | none => [bytes]
  | some (ihl, tcpHdrLen) =>
      let payloadOff := ihl + tcpHdrLen
      let payload := bytes.drop payloadOff
      if spec.segments < 2 ∨ payload.length < spec.segments then [bytes]
      else
        let chunk := (payload.length + spec.segments - 1) / spec.segments
        let t := {
          ihl := ihl
          tcpHdrLen := tcpHdrLen
          payloadOff := payloadOff
          chunk := chunk
          origSeq := be32 (bytes.getD (ihl + 4) 0) (bytes.getD (ihl + 5) 0)
            (bytes.getD (ihl + 6) 0) (bytes.getD (ihl + 7) 0) }
        let chunkCount := (payload.length + chunk - 1) / chunk
        let overlapIndex := if spec.reverse then chunkCount - 1 else 0
        let built := buildSegments bytes t payload.length
          (overlapPrefix spec payloadOff chunk) overlapIndex 0 0
          (chunks chunk payload)
        if spec.reverse then built.reverse else built

end ZeroDpi
