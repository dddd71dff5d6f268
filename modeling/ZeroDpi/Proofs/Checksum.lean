/-
The checksum routines are exact.

As long as the words fit in the accumulator, no addition of it panics and it
ends with their sum, whatever their order (`accumulate_eq`). The carry loop
keeps the sum modulo 65535 and ends below 2^16, which leaves it no choice
(`foldCarries_eq`). So the routines compute the checksums of the model over
natural numbers, and those verify where they are stored.
-/
import ZeroDpi.Platform.Accumulator
import ZeroDpi.Platform.Receiver

namespace ZeroDpi

open Lib

-- ========================================================= the accumulator

/-- The sum of some words. -/
def total (words : List UInt32) : Nat := (words.map (·.toNat)).sum

theorem addU32_of_lt {sum word : UInt32} (h : sum.toNat + word.toNat < 2 ^ 32) :
    addU32 sum word = some (sum + word) := by
  rw [addU32, if_pos h]

theorem accumulate_eq {words : List UInt32} {sum : UInt32}
    (h : sum.toNat + total words < 2 ^ 32) :
    ∃ last, words.foldlM addU32 sum = some last
      ∧ last.toNat = sum.toNat + total words := by
  induction words generalizing sum with
  | nil => exact ⟨sum, rfl, rfl⟩
  | cons word rest ih =>
      have htotal : total (word :: rest) = word.toNat + total rest := rfl
      rw [htotal] at h
      have hadd := addU32_of_lt (show sum.toNat + word.toNat < 2 ^ 32 by omega)
      have hnext := addU32_eq_some hadd
      obtain ⟨last, hlast, hsum⟩ := @ih (sum + word) (by omega)
      refine ⟨last, ?_, by omega⟩
      rw [List.foldlM_cons, hadd]
      exact hlast

/-- The words of a byte string, an odd last byte padded with zero. -/
def wordsOf : Bytes → List UInt32
  | [] => []
  | [b] => [b.toUInt32 <<< 8]
  | hi :: lo :: rest => beWord hi lo :: wordsOf rest

theorem sumChunks_eq (bytes : Bytes) (sum : UInt32) :
    sumChunks sum bytes = (wordsOf bytes).foldlM addU32 sum := by
  fun_induction wordsOf bytes generalizing sum with
  | case1 => rfl
  | case2 b =>
      rw [sumChunks, List.foldlM_cons]
      cases addU32 sum (b.toUInt32 <<< 8) with
      | none => rfl
      | some next => rfl
  | case3 hi lo rest ih =>
      rw [sumChunks, List.foldlM_cons]
      cases addU32 sum (beWord hi lo) with
      | none => rfl
      | some next => exact ih next

theorem toNat_beWord (hi lo : UInt8) : (beWord hi lo).toNat = be16 hi lo := by
  have hlt := be16_lt hi lo
  rw [beWord, Nat.toUInt32_eq, UInt32.toNat_ofNat', Nat.mod_eq_of_lt (by omega)]

theorem toNat_padded (b : UInt8) : (b.toUInt32 <<< 8).toNat = b.toNat * 256 := by
  have hlt := b.toNat_lt
  have hshift : b.toNat <<< 8 = b.toNat * 256 := Nat.shiftLeft_eq b.toNat 8
  rw [UInt32.toNat_shiftLeft, UInt8.toNat_toUInt32]
  show b.toNat <<< 8 % 2 ^ 32 = b.toNat * 256
  rw [hshift, Nat.mod_eq_of_lt (by omega)]

theorem total_wordsOf (bytes : Bytes) : total (wordsOf bytes) = wordSum bytes := by
  fun_induction wordsOf bytes with
  | case1 => rfl
  | case2 b =>
      have hpadded := toNat_padded b
      simp [total, wordSum, hpadded]
  | case3 hi lo rest ih =>
      have htotal : total (beWord hi lo :: wordsOf rest)
          = (beWord hi lo).toNat + total (wordsOf rest) := rfl
      rw [htotal, toNat_beWord, ih, wordSum]

-- ========================================================== the carry loop

/-- The carry loop ends below 2^16, with the sum modulo 65535, and at zero
only where it starts there; induction on its turns. -/
theorem foldCarries_spec (sum : UInt32) :
    ∃ folded, foldCarries sum = some folded ∧ folded.toNat < 65536
      ∧ folded.toNat % 65535 = sum.toNat % 65535
      ∧ (folded.toNat = 0 ↔ sum.toNat = 0) := by
  obtain ⟨n, hn⟩ : ∃ n, sum.toNat = n := ⟨_, rfl⟩
  induction n using Nat.strongRecOn generalizing sum with
  | ind n ih =>
      obtain ⟨hlow, hhigh⟩ := toNat_carried sum
      rw [foldCarries]
      by_cases hcarry : sum >>> 16 = 0
      · rw [if_pos hcarry]
        have hzero : (sum >>> 16).toNat = 0 := by rw [hcarry]; rfl
        exact ⟨sum, rfl, by omega, rfl, Iff.rfl⟩
      · rw [if_neg hcarry]
        have hlt := sum.toNat_lt
        have hadd := addU32_of_lt
          (show (sum &&& 0xFFFF).toNat + (sum >>> 16).toNat < 2 ^ 32 by omega)
        have hnext := addU32_eq_some hadd
        have hsmaller := carried_lt hcarry hadd
        obtain ⟨folded, hfolded, hbound, hmod, hzero⟩ :=
          ih _ (hn ▸ hsmaller) _ rfl
        refine ⟨folded, ?_, hbound, by omega, by omega⟩
        rw [hadd]
        exact hfolded

theorem foldCarries_eq (sum : UInt32) :
    ∃ folded, foldCarries sum = some folded
      ∧ folded.toNat = foldCarry 3 sum.toNat := by
  obtain ⟨folded, hfolded, hbound, hmod, hzero⟩ := foldCarries_spec sum
  obtain ⟨hbound', hmod', hzero'⟩ := foldCarry_spec sum.toNat_lt
  exact ⟨folded, hfolded, by omega⟩

theorem invertFolded_eq (sum : UInt32) :
    invertFolded sum = some (onesComplement sum.toNat) := by
  obtain ⟨folded, hfolded, hfold⟩ := foldCarries_eq sum
  have hcast : folded.toUInt16 = (foldCarry 3 sum.toNat).toUInt16 := by
    rw [← hfold]
    exact UInt16.toNat_inj.mp rfl
  unfold invertFolded
  rw [hfolded]
  show some (~~~ folded.toUInt16) = _
  rw [hcast, onesComplement]

-- ============================================================ the routines

/-- The checksum of words in the order they are summed in. -/
def checksumOf (words : List UInt32) : Option UInt16 := do
  let sum ← words.foldlM addU32 0
  invertFolded sum

theorem checksumOf_eq {words : List UInt32} (h : total words < 2 ^ 32) :
    checksumOf words = some (onesComplement (total words)) := by
  have hstart : (0 : UInt32).toNat + total words < 2 ^ 32 := by
    rw [UInt32.toNat_zero, Nat.zero_add]
    exact h
  obtain ⟨last, hlast, hsum⟩ := accumulate_eq hstart
  rw [UInt32.toNat_zero, Nat.zero_add] at hsum
  unfold checksumOf
  rw [hlast]
  exact (invertFolded_eq last).trans (by rw [hsum])

/-- The order of the words does not matter. -/
theorem checksumOf_perm {words order : List UInt32} (h : total words < 2 ^ 32)
    (hperm : order.Perm words) : checksumOf order = checksumOf words := by
  have htotal : total order = total words :=
    List.Perm.sum_nat (hperm.map (·.toNat))
  rw [checksumOf_eq h, checksumOf_eq (by rw [htotal]; exact h), htotal]

theorem ipv4HeaderChecksumU32_eq (header : Bytes) :
    ipv4HeaderChecksumU32 header = checksumOf (wordsOf header) := by
  unfold ipv4HeaderChecksumU32 checksumOf
  rw [sumChunks_eq]

/-- The words of the pseudo-header and the segment, as they are summed. -/
def tcpWords (seg : Bytes) (ihl : Nat) : List UInt32 :=
  wordsOf ((seg.drop 12).take 8)
    ++ [6, (seg.length - ihl).toUInt16.toUInt32] ++ wordsOf (seg.drop ihl)

/-- A word that is there. -/
theorem wordAt_eq {seg rest : Bytes} {i : Nat} {hi lo : UInt8}
    (h : seg.drop i = hi :: lo :: rest) : wordAt seg i = some (beWord hi lo) := by
  have hhi : seg[i]? = some hi := by
    have hget : (seg.drop i)[0]? = seg[i + 0]? := List.getElem?_drop
    rw [h] at hget
    simpa using hget.symm
  have hlo : seg[i + 1]? = some lo := by
    have hget : (seg.drop i)[1]? = seg[i + 1]? := List.getElem?_drop
    rw [h] at hget
    simpa using hget.symm
  unfold wordAt
  rw [hhi, hlo]
  rfl

/-- Eight bytes that are there are four words. -/
theorem addresses_split {seg : Bytes} (h : 20 ≤ seg.length) :
    ∃ a b c d e f g k rest, seg.drop 12 = a :: b :: c :: d :: e :: f :: g :: k
      :: rest := by
  have hlen : 8 ≤ (seg.drop 12).length := by
    rw [List.length_drop]
    omega
  generalize seg.drop 12 = bytes at hlen
  match bytes, hlen with
  | a :: b :: c :: d :: e :: f :: g :: k :: rest, _ =>
      exact ⟨a, b, c, d, e, f, g, k, rest, rfl⟩

theorem tcpChecksumU32_eq {seg : Bytes} {ihl tcpHdrLen : Nat} (hihl : 20 ≤ ihl)
    (hlen : ihl + tcpHdrLen ≤ seg.length) :
    tcpChecksumU32 seg ihl tcpHdrLen = checksumOf (tcpWords seg ihl) := by
  obtain ⟨a, b, c, d, e, f, g, k, rest, hsplit⟩ :=
    addresses_split (show 20 ≤ seg.length by omega)
  have hdrop : ∀ n, seg.drop (12 + n) = (seg.drop 12).drop n := fun n => by
    rw [List.drop_drop]
  have h12 : wordAt seg 12 = some (beWord a b) := wordAt_eq hsplit
  have h14 : wordAt seg 14 = some (beWord c d) :=
    wordAt_eq ((hdrop 2).trans (by rw [hsplit]; rfl))
  have h16 : wordAt seg 16 = some (beWord e f) :=
    wordAt_eq ((hdrop 4).trans (by rw [hsplit]; rfl))
  have h18 : wordAt seg 18 = some (beWord g k) :=
    wordAt_eq ((hdrop 6).trans (by rw [hsplit]; rfl))
  have hwords : wordsOf ((seg.drop 12).take 8)
      = [beWord a b, beWord c d, beWord e f, beWord g k] := by
    rw [hsplit]
    rfl
  have htcpLen : tcpHdrLen + (seg.length - (ihl + tcpHdrLen))
      = seg.length - ihl := by omega
  unfold tcpChecksumU32 checksumOf tcpWords
  rw [if_neg (Nat.not_lt.mpr hlen), htcpLen, h12, h14, h16, h18, hwords]
  simp only [List.cons_append, List.nil_append, List.foldlM_cons,
    Option.bind_eq_bind, Option.bind_some, Option.bind_assoc,
    sumChunks_eq]

/-- The header routine computes the checksum of the emission model. -/
theorem ipv4HeaderChecksumU32_eq_some {header : Bytes}
    (h : wordSum header < 2 ^ 32) :
    ipv4HeaderChecksumU32 header = some (ipv4HeaderChecksum header) := by
  have htotal := total_wordsOf header
  rw [ipv4HeaderChecksumU32_eq, checksumOf_eq (by omega), htotal,
    ipv4HeaderChecksum]

-- ======================================================= the stored checksum

theorem total_tcpWords (seg : Bytes) {ihl : Nat}
    (hseg : seg.length - ihl ≤ 65535) :
    total (tcpWords seg ihl) = tcpSum seg ihl := by
  have hlen : (seg.length - ihl).toUInt16.toUInt32.toNat = seg.length - ihl :=
    Nat.mod_eq_of_lt (by omega)
  have happend : ∀ l l' : List UInt32, total (l ++ l') = total l + total l' := by
    intro l l'
    unfold total
    rw [List.map_append, List.sum_append_nat]
  have hpair : total [6, (seg.length - ihl).toUInt16.toUInt32]
      = 6 + (seg.length - ihl) := by
    show 6 + ((seg.length - ihl).toUInt16.toUInt32.toNat + 0) = _
    rw [hlen, Nat.add_zero]
  unfold tcpWords tcpSum
  rw [happend, happend, hpair, total_wordsOf, total_wordsOf]
  omega

theorem tcpSum_lt {seg : Bytes} {ihl : Nat} (hseg : seg.length - ihl ≤ 65535) :
    tcpSum seg ihl + 65535 < 2 ^ 32 := by
  have haddr := wordSum_le ((seg.drop 12).take 8)
  have haddrLen := List.length_take_le 8 (seg.drop 12)
  have hrest := wordSum_le (seg.drop ihl)
  rw [List.length_drop] at hrest
  unfold tcpSum
  omega

theorem tcpChecksum_eq {seg : Bytes} {ihl tcpHdrLen : Nat}
    (hlen : ihl + tcpHdrLen ≤ seg.length) (hseg : seg.length - ihl ≤ 65535) :
    tcpChecksum seg ihl tcpHdrLen = onesComplement (tcpSum seg ihl) := by
  have htcpLen : tcpHdrLen + (seg.length - (ihl + tcpHdrLen))
      = seg.length - ihl := by omega
  unfold tcpChecksum tcpSum
  simp only [htcpLen]
  rw [Nat.mod_eq_of_lt (by omega)]

/-- And so does the segment routine. -/
theorem tcpChecksumU32_eq_some {seg : Bytes} {ihl tcpHdrLen : Nat}
    (hihl : 20 ≤ ihl) (hlen : ihl + tcpHdrLen ≤ seg.length)
    (hseg : seg.length - ihl ≤ 65535) :
    tcpChecksumU32 seg ihl tcpHdrLen
      = some (tcpChecksum seg ihl tcpHdrLen) := by
  have hsum := tcpSum_lt hseg
  have htotal := total_tcpWords seg hseg
  rw [tcpChecksumU32_eq hihl hlen, checksumOf_eq (by omega), htotal,
    tcpChecksum_eq hlen hseg]

/-- The sum of a segment, with a field of its header written. -/
theorem tcpSum_overwrite {seg : Bytes} {ihl : Nat} (hihl : 20 ≤ ihl)
    (hlen : ihl + 18 ≤ seg.length) {bs : Bytes} (hbs : bs.length = 2) :
    tcpSum (overwrite seg (ihl + 16) bs) ihl
      = wordSum ((seg.drop 12).take 8) + 6 + (seg.length - ihl)
        + wordSum (overwrite (seg.drop ihl) 16 bs) := by
  have hroom : ihl + 16 + bs.length ≤ seg.length := by omega
  unfold tcpSum
  rw [length_overwrite hroom, drop_overwrite_of_le (by omega) hroom,
    drop_overwrite_of_le (by omega) hroom, Nat.add_sub_cancel_left,
    take_overwrite_of_le (by omega) (by rw [List.length_drop]; omega)]

/-- The checksum of a header, stored in its zeroed field. -/
theorem ipv4HeaderChecksumU32_exact {header : Bytes} {field : Nat}
    (hfield : field % 2 = 0) (hroom : field + 2 ≤ header.length)
    (hheader : header.length ≤ 131074) :
    ∃ checksum,
      ipv4HeaderChecksumU32 (overwrite header field [0, 0]) = some checksum
      ∧ Verifies (wordSum (overwrite (overwrite header field [0, 0]) field
        (toBe16 checksum.toNat)))
      ∧ ∀ order : List UInt32,
        order.Perm (wordsOf (overwrite header field [0, 0])) →
        checksumOf order = some checksum := by
  -- with all ones in the field the sum is the largest
  have hlength : (overwrite header field (toBe16 65535)).length = header.length :=
    length_overwrite hroom
  have hones := wordSum_le (overwrite header field (toBe16 65535))
  rw [hlength, wordSum_overwrite hfield hroom] at hones
  have hbound : 0 + wordSum (overwrite header field [0, 0]) + 65535 < 2 ^ 32 := by
    omega
  have hwritten := verifies_written hfield hroom hbound
  simp only [Nat.zero_add] at hwritten
  have htotal := total_wordsOf (overwrite header field [0, 0])
  have hsmall : total (wordsOf (overwrite header field [0, 0])) < 2 ^ 32 := by
    omega
  have hchecksum := checksumOf_eq hsmall
  rw [htotal] at hchecksum
  refine ⟨_, ipv4HeaderChecksumU32_eq_some (by omega), hwritten, ?_⟩
  intro order hperm
  exact (checksumOf_perm hsmall hperm).trans hchecksum

/-- The checksum of a segment, stored in its zeroed field. -/
theorem tcpChecksumU32_exact {seg : Bytes} {ihl tcpHdrLen : Nat}
    (hihl : 20 ≤ ihl) (hhdr : 20 ≤ tcpHdrLen)
    (hlen : ihl + tcpHdrLen ≤ seg.length) (hseg : seg.length - ihl ≤ 65535) :
    ∃ checksum,
      tcpChecksumU32 (overwrite seg (ihl + 16) [0, 0]) ihl tcpHdrLen
        = some checksum
      ∧ Verifies (tcpSum (overwrite (overwrite seg (ihl + 16) [0, 0]) (ihl + 16)
        (toBe16 checksum.toNat)) ihl)
      ∧ ∀ order : List UInt32,
        order.Perm (tcpWords (overwrite seg (ihl + 16) [0, 0]) ihl) →
        checksumOf order = some checksum := by
  have hroom : ihl + 16 + ([0, 0] : Bytes).length ≤ seg.length := by
    show ihl + 16 + 2 ≤ seg.length
    omega
  have hbody : 16 + 2 ≤ (seg.drop ihl).length := by
    rw [List.length_drop]
    omega
  have hzeroed : (overwrite seg (ihl + 16) ([0, 0] : Bytes)).length = seg.length :=
    length_overwrite hroom
  have hzeroedSeg :
      (overwrite seg (ihl + 16) ([0, 0] : Bytes)).length - ihl ≤ 65535 := by
    omega
  have hlt := tcpSum_lt hzeroedSeg
  have hsum := tcpSum_overwrite hihl (by omega)
    (show ([0, 0] : Bytes).length = 2 from rfl)
  have hwritten := verifies_written (i := 16) rfl hbody
    (show wordSum ((seg.drop 12).take 8) + 6 + (seg.length - ihl)
      + wordSum (overwrite (seg.drop ihl) 16 [0, 0]) + 65535 < 2 ^ 32 by omega)
  rw [overwrite_overwrite (show 16 + ([0, 0] : Bytes).length
    ≤ (seg.drop ihl).length from hbody) (by simp), ← hsum] at hwritten
  have htotal := total_tcpWords _ hzeroedSeg
  have hsmall : total (tcpWords (overwrite seg (ihl + 16) [0, 0]) ihl)
      < 2 ^ 32 := by omega
  have hmodel := @tcpChecksum_eq _ _ tcpHdrLen (by omega) hzeroedSeg
  have hchecksum := checksumOf_eq hsmall
  rw [htotal, ← hmodel] at hchecksum
  refine ⟨_, tcpChecksumU32_eq_some hihl (by omega) hzeroedSeg, ?_, ?_⟩
  · rw [hmodel, overwrite_overwrite hroom (by simp),
      tcpSum_overwrite hihl (by omega) (length_toBe16 _)]
    exact hwritten
  · intro order hperm
    exact (checksumOf_perm hsmall hperm).trans hchecksum

/-- A header's checksum and a segment's, over their zeroed fields, are
computed without a panic, verify where they are stored, and do not depend on
the order of the words. -/
theorem checksums_exact {header seg : Bytes} {ihl tcpHdrLen : Nat}
    (hheader : 12 ≤ header.length) (hmax : header.length ≤ 131074)
    (hihl : 20 ≤ ihl) (hhdr : 20 ≤ tcpHdrLen)
    (hlen : ihl + tcpHdrLen ≤ seg.length) (hseg : seg.length - ihl ≤ 65535) :
    (∃ checksum,
      ipv4HeaderChecksumU32 (overwrite header 10 [0, 0]) = some checksum
      ∧ Verifies (wordSum (overwrite (overwrite header 10 [0, 0]) 10
        (toBe16 checksum.toNat)))
      ∧ ∀ order : List UInt32,
        order.Perm (wordsOf (overwrite header 10 [0, 0])) →
        checksumOf order = some checksum)
    ∧ ∃ checksum,
      tcpChecksumU32 (overwrite seg (ihl + 16) [0, 0]) ihl tcpHdrLen
        = some checksum
      ∧ Verifies (tcpSum (overwrite (overwrite seg (ihl + 16) [0, 0]) (ihl + 16)
        (toBe16 checksum.toNat)) ihl)
      ∧ ∀ order : List UInt32,
        order.Perm (tcpWords (overwrite seg (ihl + 16) [0, 0]) ihl) →
        checksumOf order = some checksum :=
  ⟨ipv4HeaderChecksumU32_exact rfl hheader hmax,
    tcpChecksumU32_exact hihl hhdr hlen hseg⟩

/-- A header whose sum carries twice. -/
def carryingHeader : Bytes :=
  [0x45, 0, 0xFF, 0xDC, 0x3D, 0x0F, 0x40, 0, 0x80, 6, 0, 0]
    ++ [0xC0, 0xA8, 0xFF, 0x68, 0xFF, 0xFE, 0xFD, 0xFC]

/-- A segment of which the same is true, with an odd payload. -/
def carryingSegment : Bytes :=
  carryingHeader
    ++ [0xF1, 0x05, 0x01, 0xBB, 0xFF, 0xFF, 0xFF, 0xFF, 0xFF, 0xFF, 0xFF, 0xFE]
    ++ [0x50, 0x18, 0xFF, 0xFF, 0, 0, 0, 0] ++ [0xFF, 0xFF, 0xFF]

/-- Both sums need a second turn of the carry loop. -/
theorem carrying_checksums_exact :
    wordSum (overwrite carryingHeader 10 [0, 0]) = 0x5FFFB
    ∧ tcpSum (overwrite carryingSegment 36 [0, 0]) 20 = 0xBFFF8
    ∧ (∃ checksum,
      ipv4HeaderChecksumU32 (overwrite carryingHeader 10 [0, 0]) = some checksum
      ∧ Verifies (wordSum (overwrite (overwrite carryingHeader 10 [0, 0]) 10
        (toBe16 checksum.toNat)))
      ∧ ∀ order : List UInt32,
        order.Perm (wordsOf (overwrite carryingHeader 10 [0, 0])) →
        checksumOf order = some checksum)
    ∧ ∃ checksum,
      tcpChecksumU32 (overwrite carryingSegment 36 [0, 0]) 20 20 = some checksum
      ∧ Verifies (tcpSum (overwrite (overwrite carryingSegment 36 [0, 0]) 36
        (toBe16 checksum.toNat)) 20)
      ∧ ∀ order : List UInt32,
        order.Perm (tcpWords (overwrite carryingSegment 36 [0, 0]) 20) →
        checksumOf order = some checksum :=
  ⟨by decide, by decide, checksums_exact (by decide) (by decide)
    (Nat.le_refl 20) (Nat.le_refl 20) (by decide) (by decide)⟩

end ZeroDpi
