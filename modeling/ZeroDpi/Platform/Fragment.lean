/-
IPv4 fragmentation (zerodpi-core/src/ip_fragment.rs).

The source edits a copy of the header byte by byte; here each edit is an
`overwrite`, in the source's order, the checksum last.
-/
import ZeroDpi.Interceptor
import ZeroDpi.Lib.Checksum

namespace ZeroDpi

open Lib

/-- `ipv4_header_checksum`. -/
def ipv4HeaderChecksum (header : Bytes) : UInt16 :=
  onesComplement (wordSum header)

/-- The IPv4 header length in bytes, from its first byte. -/
def ipv4HeaderLen (first : UInt8) : Nat := (first &&& 0x0F).toNat * 4

/-- The header with its checksum field recomputed. -/
def withHeaderChecksum (header : Bytes) : Bytes :=
  let zeroed := overwrite header 10 [0, 0]
  overwrite zeroed 10 (toBe16 (ipv4HeaderChecksum zeroed).toNat)

/-- The header of one fragment of `partLen` bytes at `offset`. -/
def fragmentHeader (header : Bytes) (partLen offset : Nat) (last : Bool) :
    Bytes :=
  let ident := [header.getD 4 0, header.getD 5 0]
  let flagsOffset :=
    if last then offset / 8 else offset / 8 % 65536 ||| 0x2000
  let header := overwrite header 2 (toBe16 (header.length + partLen))
  let header := overwrite header 6 (toBe16 flagsOffset)
  let header := overwrite header 4 ident
  withHeaderChecksum header

/-- The fragment loop over the parts left, from `offset` on. -/
def buildFragments (header : Bytes) (payloadLen : Nat) :
    Nat → List Bytes → List Bytes
  | _, [] => []
  | offset, part :: rest =>
      let last := offset + part.length ≥ payloadLen
      (fragmentHeader header part.length offset last ++ part)
        :: buildFragments header payloadLen (offset + part.length) rest

/-- `fragment_ipv4_packet`. -/
def fragmentIpv4Packet (bytes : Bytes) (fragSize : Nat) : List Bytes :=
  match bytes.head? with
  | none => [bytes]
  | some first =>
      let ihl := ipv4HeaderLen first
      if ihl < 20 ∨ bytes.length < ihl then [bytes]
      else
        let chunk := fragSize / 8 * 8
        let payload := bytes.drop ihl
        if chunk = 0 ∨ payload.length ≤ chunk then [bytes]
        else buildFragments (bytes.take ihl) payload.length 0
          (chunks chunk payload)

end ZeroDpi
