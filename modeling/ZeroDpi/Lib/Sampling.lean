/-
Rejection sampling from the mixed words of a counter.

A counter that is stepped by an invertible number comes through all words
(`step_injective`), a mix of xor-shifts and invertible factors loses none of
them (`xorShift_injective`, `mul_injective`), and a run of words whose length
is a multiple of `r` has each remainder modulo `r` equally often
(`card_residue`).
-/
import Mathlib.Data.Nat.Periodic
import Mathlib.Order.Interval.Finset.Nat

namespace ZeroDpi.Lib

open Finset

-- ================================================================ the mix

/-- A word that is its own shift is zero. -/
theorem eq_zero_of_eq_shift {w k : Nat} {x : BitVec w} (hk : 0 < k)
    (h : x = x >>> k) : x = 0 := by
  have hnat : x.toNat = x.toNat / 2 ^ k := by
    have hshift := congrArg BitVec.toNat h
    rwa [BitVec.toNat_ushiftRight, Nat.shiftRight_eq_div_pow] at hshift
  refine BitVec.eq_of_toNat_eq ?_
  by_contra hne
  have hpos : 0 < x.toNat := Nat.pos_of_ne_zero hne
  have htwo : 1 < 2 ^ k := Nat.one_lt_two_pow (by omega)
  have hlt := Nat.div_lt_self hpos htwo
  omega

/-- No two words have the same xor with their own shift. -/
theorem bitVec_xorShift_injective {w k : Nat} (hk : 0 < k) :
    Function.Injective fun x : BitVec w => x ^^^ (x >>> k) := by
  intro x y h
  have hdiff : x ^^^ y = (x ^^^ y) >>> k := by
    rw [BitVec.ushiftRight_xor_distrib]
    have hmoved : x ^^^ y ^^^ (x >>> k ^^^ y >>> k)
        = (x ^^^ (x >>> k)) ^^^ (y ^^^ (y >>> k)) := by
      ac_rfl
    rw [← BitVec.xor_eq_zero_iff, hmoved]
    exact BitVec.xor_eq_zero_iff.mpr h
  exact BitVec.xor_eq_zero_iff.mp (eq_zero_of_eq_shift hk hdiff)

theorem xorShift_injective {k : UInt64} (hk : 0 < k.toNat % 64) :
    Function.Injective fun z : UInt64 => z ^^^ (z >>> k) := by
  intro x y h
  have hbits := congrArg UInt64.toBitVec h
  simp only [UInt64.toBitVec_xor, UInt64.toBitVec_shiftRight] at hbits
  refine UInt64.toBitVec_inj.mp (bitVec_xorShift_injective hk ?_)
  simpa using hbits

/-- A factor that has an inverse loses nothing. -/
theorem mul_injective {factor inverse : UInt64} (h : factor * inverse = 1) :
    Function.Injective fun z : UInt64 => z * factor := by
  intro x y heq
  have hx : ∀ z : UInt64, z * factor * inverse = z := by
    intro z
    rw [UInt64.mul_assoc, h, UInt64.mul_one]
  rw [← hx x, ← hx y]
  exact congrArg (· * inverse) heq

/-- The steps of a counter, all different in one period. -/
theorem step_injective {step inverse : UInt64} (h : step * inverse = 1)
    (start : UInt64) {n m : Nat} (hn : n < 2 ^ 64) (hm : m < 2 ^ 64)
    (heq : start + n.toUInt64 * step = start + m.toUInt64 * step) : n = m := by
  have hsteps : n.toUInt64 * step = m.toUInt64 * step :=
    (UInt64.add_right_inj start).mp heq
  have hwords : n.toUInt64 = m.toUInt64 := mul_injective h hsteps
  have hnat := congrArg UInt64.toNat hwords
  have hsame : n % 2 ^ 64 = m % 2 ^ 64 := hnat
  rwa [Nat.mod_eq_of_lt hn, Nat.mod_eq_of_lt hm] at hsame

-- =========================================================== the counting

/-- A run of `q` blocks of length `r` has each remainder `q` times. -/
theorem card_residue {r i : Nat} (hi : i < r) (start q : Nat) :
    ((Ico start (start + q * r)).filter fun z => z % r = i).card = q := by
  have hperiodic : Function.Periodic (fun z => z % r = i) r := by
    intro z
    simp
  have hblock : Nat.count (fun z => z % r = i) r = 1 := by
    rw [Nat.count_eq_card_filter_range]
    have hone : (range r).filter (fun z => z % r = i) = {i} := by
      ext z
      simp only [mem_filter, mem_range, mem_singleton]
      constructor
      · rintro ⟨hz, hmod⟩
        rwa [Nat.mod_eq_of_lt hz] at hmod
      · rintro rfl
        exact ⟨hi, Nat.mod_eq_of_lt hi⟩
    rw [hone, card_singleton]
  induction q with
  | zero => simp
  | succ q ih =>
      have hend : start + (q + 1) * r = start + q * r + r := by
        rw [Nat.succ_mul]
        omega
      have hsplit : Ico start (start + (q + 1) * r)
          = Ico start (start + q * r) ∪ Ico (start + q * r) (start + q * r + r) := by
        rw [hend]
        exact (Ico_union_Ico_eq_Ico (by omega) (by omega)).symm
      have hdisjoint := Ico_disjoint_Ico_consecutive start (start + q * r)
        (start + q * r + r)
      rw [hsplit, filter_union,
        card_union_of_disjoint (disjoint_filter_filter hdisjoint), ih,
        Nat.filter_Ico_card_eq_of_periodic _ _ _ hperiodic, hblock]

/-- A rearrangement of the first `n` numbers changes no count. -/
theorem card_filter_of_injOn {n : Nat} {f : Nat → Nat}
    (hmaps : ∀ k < n, f k < n)
    (hinj : ∀ k < n, ∀ l < n, f k = f l → k = l) (p : Nat → Prop)
    [DecidablePred p] :
    ((range n).filter fun k => p (f k)).card = ((range n).filter p).card := by
  have hset : Set.InjOn f (range n : Finset Nat) := by
    intro k hk l hl heq
    exact hinj k (mem_range.mp hk) l (mem_range.mp hl) heq
  have himage : (range n).image f = range n := by
    refine eq_of_subset_of_card_le ?_ ?_
    · intro z hz
      obtain ⟨k, hk, rfl⟩ := mem_image.mp hz
      exact mem_range.mpr (hmaps k (mem_range.mp hk))
    · rw [card_image_of_injOn hset]
  calc ((range n).filter fun k => p (f k)).card
      = (((range n).filter fun k => p (f k)).image f).card := by
        rw [card_image_of_injOn (hset.mono (coe_subset.mpr (filter_subset _ _)))]
    _ = (((range n).image f).filter p).card := by rw [filter_image]
    _ = ((range n).filter p).card := by rw [himage]

end ZeroDpi.Lib
