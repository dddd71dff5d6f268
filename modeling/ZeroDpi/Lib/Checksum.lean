/-
The Internet checksum (RFC 1071): the one's-complement sum of the
big-endian 16-bit words of a byte string, an odd last byte padded with
zero, folded to 16 bits and inverted.

The sum is kept as a natural number. A 32-bit accumulator agrees with it
on anything an IPv4 datagram can hold.

Folding keeps the sum modulo 65535 and tells zero from the rest, so a
checksum that was written into its zeroed field makes the whole fold to
all ones (`verifies_written`).
-/
import Mathlib.Algebra.Ring.Nat
import ZeroDpi.Lib.Slice

namespace ZeroDpi.Lib

/-- The sum of the 16-bit words. -/
def wordSum : List UInt8 → Nat
  | [] => 0
  | [b] => b.toNat * 256
  | a :: b :: rest => be16 a b + wordSum rest

/-- The carry loop: at most three turns bring a 32-bit sum below
2^16. -/
def foldCarry : Nat → Nat → Nat
  | 0, sum => sum
  | fuel + 1, sum =>
      if sum / 65536 = 0 then sum
      else foldCarry fuel (sum % 65536 + sum / 65536)

/-- The inverted folded sum. -/
def onesComplement (sum : Nat) : UInt16 := ~~~ (foldCarry 3 sum).toUInt16

-- ============================================================== folding

/-- What the carry loop makes of a 32-bit sum. -/
theorem foldCarry_spec {sum : Nat} (h : sum < 2 ^ 32) :
    foldCarry 3 sum < 65536 ∧ foldCarry 3 sum % 65535 = sum % 65535
      ∧ (foldCarry 3 sum = 0 ↔ sum = 0) := by
  simp only [foldCarry]
  by_cases h1 : sum / 65536 = 0
  · rw [if_pos h1]
    omega
  · rw [if_neg h1]
    by_cases h2 : (sum % 65536 + sum / 65536) / 65536 = 0
    · rw [if_pos h2]
      omega
    · rw [if_neg h2]
      by_cases h3 : ((sum % 65536 + sum / 65536) % 65536
          + (sum % 65536 + sum / 65536) / 65536) / 65536 = 0
      · rw [if_pos h3]
        omega
      · omega

/-- The sum that a receiver folds is all ones. -/
def Verifies (sum : Nat) : Prop := foldCarry 3 sum = 65535

instance (sum : Nat) : Decidable (Verifies sum) :=
  inferInstanceAs (Decidable (_ = _))

/-- A sum verifies if it is a multiple of 65535 other than zero. -/
theorem verifies_iff {sum : Nat} (h : sum < 2 ^ 32) :
    Verifies sum ↔ sum % 65535 = 0 ∧ sum ≠ 0 := by
  obtain ⟨hlt, hmod, hzero⟩ := foldCarry_spec h
  unfold Verifies
  omega

theorem toNat_onesComplement {sum : Nat} (h : sum < 2 ^ 32) :
    (onesComplement sum).toNat = 65535 - foldCarry 3 sum := by
  have hlt := (foldCarry_spec h).1
  have hfold : (foldCarry 3 sum).toUInt16.toNat = foldCarry 3 sum :=
    Nat.mod_eq_of_lt hlt
  rw [onesComplement, UInt16.toNat_not, hfold]
  rfl

/-- A sum and its checksum verify. -/
theorem verifies_add {sum : Nat} (h : sum + 65535 < 2 ^ 32) :
    Verifies (sum + (onesComplement sum).toNat) := by
  obtain ⟨hlt, hmod, hzero⟩ := foldCarry_spec (show sum < 2 ^ 32 by omega)
  rw [toNat_onesComplement (by omega), verifies_iff (by omega)]
  omega

/-- A checksum that is off by `delta` verifies only by wrapping from all
zeros to all ones, the two spellings of one number. -/
theorem verifies_shifted {sum : Nat} (hpos : 0 < sum)
    (h : sum + 65536 < 2 ^ 32) {delta : UInt16} (hdelta : delta ≠ 0) :
    Verifies (sum + (onesComplement sum + delta).toNat)
      ↔ delta = 0xFFFF ∧ sum % 65535 = 0 := by
  have hsmall : sum < 2 ^ 32 := by omega
  obtain ⟨hlt, hmod, hzero⟩ := foldCarry_spec hsmall
  have hcheck := toNat_onesComplement hsmall
  have hdeltaLt := delta.toNat_lt
  have hdeltaPos : delta.toNat ≠ 0 := fun hnat =>
    hdelta (UInt16.toNat_inj.mp hnat)
  have hmax : delta = 0xFFFF ↔ delta.toNat = 65535 :=
    UInt16.toNat_inj.symm
  have hsum : (onesComplement sum + delta).toNat < 65536 :=
    UInt16.toNat_lt _
  rw [verifies_iff (by omega), hmax]
  rw [UInt16.toNat_add, hcheck] at hsum ⊢
  by_cases hwrap : 65535 - foldCarry 3 sum + delta.toNat < 65536
  · rw [Nat.mod_eq_of_lt hwrap]
    omega
  · have hback : (65535 - foldCarry 3 sum + delta.toNat) % 2 ^ 16
        = delta.toNat - 1 - foldCarry 3 sum := by omega
    rw [hback]
    omega

-- ================================================================ words

theorem wordSum_append {l l' : List UInt8} (h : l.length % 2 = 0) :
    wordSum (l ++ l') = wordSum l + wordSum l' := by
  fun_induction wordSum l with
  | case1 => rw [List.nil_append, Nat.zero_add]
  | case2 b => simp only [List.length_singleton] at h; omega
  | case3 a b rest ih =>
      simp only [List.length_cons] at h
      rw [List.cons_append, List.cons_append, wordSum, ih (by omega),
        Nat.add_assoc]

theorem wordSum_le (l : List UInt8) :
    wordSum l ≤ 65535 * ((l.length + 1) / 2) := by
  fun_induction wordSum l with
  | case1 => exact Nat.zero_le _
  | case2 b =>
      have := b.toNat_lt
      simp only [List.length_singleton]
      omega
  | case3 a b rest ih =>
      have := be16_lt a b
      simp only [List.length_cons]
      omega

/-- Writing a word at an even place changes that word of the sum. -/
theorem wordSum_overwrite {l : List UInt8} {i : Nat} (heven : i % 2 = 0)
    (h : i + 2 ≤ l.length) (n : Nat) :
    wordSum (overwrite l i (toBe16 n))
      = wordSum (overwrite l i [0, 0]) + n % 65536 := by
  have htake : (l.take i).length = i := by
    rw [List.length_take]
    omega
  have hword : wordSum (toBe16 n) = n % 65536 := by
    rw [toBe16, wordSum, wordSum, be16_toBe16, Nat.add_zero]
  have hzero : wordSum ([0, 0] : List UInt8) = 0 := rfl
  simp only [overwrite, List.length_cons, List.length_nil, length_toBe16,
    Nat.zero_add, Nat.reduceAdd]
  rw [List.append_assoc, List.append_assoc, wordSum_append (by omega),
    wordSum_append (l := l.take i) (by omega),
    wordSum_append (l := toBe16 n) (by rw [length_toBe16]),
    wordSum_append (l := [0, 0]) rfl, hword, hzero]
  omega

/-- A checksum over a zeroed field, written into the field. -/
theorem verifies_written {l : List UInt8} {i : Nat} (heven : i % 2 = 0)
    (h : i + 2 ≤ l.length) {extra : Nat}
    (hbound : extra + wordSum (overwrite l i [0, 0]) + 65535 < 2 ^ 32) :
    Verifies (extra + wordSum (overwrite (overwrite l i [0, 0]) i
      (toBe16 (onesComplement
        (extra + wordSum (overwrite l i [0, 0]))).toNat))) := by
  have hlen : i + ([0, 0] : List UInt8).length ≤ l.length := h
  have hlt := (onesComplement
    (extra + wordSum (overwrite l i [0, 0]))).toNat_lt
  rw [overwrite_overwrite hlen (by simp), wordSum_overwrite heven h,
    Nat.mod_eq_of_lt hlt, ← Nat.add_assoc]
  exact verifies_add hbound

end ZeroDpi.Lib
