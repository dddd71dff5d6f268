/-
The checksum routines with the accumulator they sum in (`ipv4_header_checksum`
in zerodpi-core/src/ip_fragment.rs, `tcp_checksum` in
zerodpi-core/src/tcp_segment.rs).

`ipv4HeaderChecksum` and `tcpChecksum` add natural numbers. Here each step is
one of the machine: an addition that does not fit in 32 bits panics, an index
or a slice past the end does, and the carry loop runs until it stops.
-/
import ZeroDpi.Platform.Segment

namespace ZeroDpi

open Lib

/-- `sum += word`. -/
def addU32 (sum word : UInt32) : Option UInt32 :=
  if sum.toNat + word.toNat < 2 ^ 32 then some (sum + word) else none

/-- `u32::from(u16::from_be_bytes([hi, lo]))`. -/
def beWord (hi lo : UInt8) : UInt32 := (be16 hi lo).toUInt32

/-- The loop over `chunks_exact(2)`, and what it leaves. -/
def sumChunks (sum : UInt32) : Bytes → Option UInt32
  | [] => some sum
  | [b] => addU32 sum (b.toUInt32 <<< 8)
  | hi :: lo :: rest => do
      let sum ← addU32 sum (beWord hi lo)
      sumChunks sum rest

theorem toNat_carried (sum : UInt32) :
    ((sum &&& 0xFFFF).toNat = sum.toNat % 65536)
      ∧ (sum >>> 16).toNat = sum.toNat / 65536 := by
  constructor
  · rw [UInt32.toNat_and]
    exact Nat.and_two_pow_sub_one_eq_mod sum.toNat 16
  · rw [UInt32.toNat_shiftRight]
    exact Nat.shiftRight_eq_div_pow sum.toNat 16

theorem addU32_eq_some {sum word next : UInt32} (h : addU32 sum word = some next) :
    next.toNat = sum.toNat + word.toNat := by
  unfold addU32 at h
  split at h
  case isTrue hfits =>
    cases h
    rw [UInt32.toNat_add, Nat.mod_eq_of_lt hfits]
  case isFalse => cases h

theorem carried_lt {sum next : UInt32} (hcarry : ¬ sum >>> 16 = 0)
    (hnext : addU32 (sum &&& 0xFFFF) (sum >>> 16) = some next) :
    next.toNat < sum.toNat := by
  have hsum := addU32_eq_some hnext
  obtain ⟨hlow, hhigh⟩ := toNat_carried sum
  have hne : (sum >>> 16).toNat ≠ 0 := by
    intro hzero
    exact hcarry (UInt32.toNat_inj.mp hzero)
  omega

/-- `while sum >> 16 != 0`. Each turn makes the sum smaller. -/
def foldCarries (sum : UInt32) : Option UInt32 :=
  if sum >>> 16 = 0 then some sum
  else
    (addU32 (sum &&& 0xFFFF) (sum >>> 16)).attach.bind fun next =>
      foldCarries next.val
termination_by sum.toNat
decreasing_by exact carried_lt ‹_› next.property

/-- `!(sum as u16)`, behind the carry loop. -/
def invertFolded (sum : UInt32) : Option UInt16 := do
  let folded ← foldCarries sum
  return ~~~ folded.toUInt16

/-- `ipv4_header_checksum`. -/
def ipv4HeaderChecksumU32 (header : Bytes) : Option UInt16 := do
  let sum ← sumChunks 0 header
  invertFolded sum

/-- `u32::from(u16::from_be_bytes([seg[i], seg[i + 1]]))`. -/
def wordAt (seg : Bytes) (i : Nat) : Option UInt32 := do
  let hi ← seg[i]?
  let lo ← seg[i + 1]?
  return beWord hi lo

/-- `tcp_checksum`. -/
def tcpChecksumU32 (seg : Bytes) (ihl tcpHdrLen : Nat) : Option UInt16 := do
  -- `seg.len() - (ihl + tcp_hdr_len)`
  if seg.length < ihl + tcpHdrLen then none
  let tcpLen := (tcpHdrLen + (seg.length - (ihl + tcpHdrLen))).toUInt16
  let sum ← addU32 0 (← wordAt seg 12)
  let sum ← addU32 sum (← wordAt seg 14)
  let sum ← addU32 sum (← wordAt seg 16)
  let sum ← addU32 sum (← wordAt seg 18)
  let sum ← addU32 sum 6
  let sum ← addU32 sum tcpLen.toUInt32
  let sum ← sumChunks sum (seg.drop ihl)
  invertFolded sum

end ZeroDpi
