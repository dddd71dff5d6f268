/-
What the far end makes of the packets a backend emits: it reads datagrams
by their headers, puts fragments together and hands TCP segments to the
connection. Which bytes of them count is `Lib.CoversExactly`.
-/
import ZeroDpi.Platform.Linux
import ZeroDpi.Lib.SeqSpace

namespace ZeroDpi

open Lib

/-- The payload of a datagram: from behind its header up to its total
length. -/
def ipPayload (b : Bytes) : Bytes :=
  (b.take (be16 (b.getD 2 0) (b.getD 3 0))).drop
    (ipv4HeaderLen (b.getD 0 0))

/-- The segment a datagram's payload holds. -/
def readTcp (t : Bytes) : Segment where
  seq := be32At t 4
  payload := t.drop (tcpHeaderLen (t.getD 12 0))

/-- The option area of that segment. -/
def readOptions (t : Bytes) : Bytes :=
  (t.take (tcpHeaderLen (t.getD 12 0))).drop 20

/-- The FIN flag of that segment. -/
def readFin (t : Bytes) : Bool := t.getD 13 0 &&& 0x01 ≠ 0

/-- A datagram as it gets to the connection: segment and FIN. -/
def arrival (b : Bytes) : Segment × Bool :=
  (readTcp (ipPayload b), readFin (ipPayload b))

/-- The sum that a receiver folds over a TCP segment: pseudo-header,
header and payload. -/
def tcpSum (b : Bytes) (ihl : Nat) : Nat :=
  wordSum ((b.drop 12).take 8) + 6 + (b.length - ihl)
    + wordSum (b.drop ihl)

-- ============================================================= fragments

/-- The flags and offset word of an IPv4 header. -/
def flagsOffset (f : Bytes) : Nat := be16 (f.getD 6 0) (f.getD 7 0)

/-- The offset of a fragment, in bytes. -/
def fragmentOffset (f : Bytes) : Nat := flagsOffset f % 8192 * 8

/-- The MF bit. -/
def moreFragments (f : Bytes) : Bool := flagsOffset f / 8192 % 2 = 1

/-- The payload put together from fragments, `acc` of it so far. -/
def reassembleFrom : Bytes → List Bytes → Option Bytes
  | _, [] => none
  | acc, f :: rest =>
      if fragmentOffset f ≠ acc.length then none
      else if moreFragments f then reassembleFrom (acc ++ ipPayload f) rest
      else if rest.isEmpty then some (acc ++ ipPayload f)
      else none

/-- The segment the receiver gets from one emitted unit. -/
def receive : Linux.Emitted → Option Segment
  | .packet b => some (readTcp (ipPayload b))
  | .fragments parts => (reassembleFrom [] parts).map readTcp

/-- That segment with its FIN. -/
def arrive : Linux.Emitted → Option (Segment × Bool)
  | .packet b => some (arrival b)
  | .fragments parts =>
      (reassembleFrom [] parts).map fun t => (readTcp t, readFin t)

end ZeroDpi
