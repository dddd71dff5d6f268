/-
The random choice of the pool ends and is unbiased.

The generator steps a counter and mixes it. The counter comes through every
state in 2^64 turns, and the mix loses none, so in one period each word is
drawn once (`word_injective`). The words from the threshold on are a whole
number of runs of `count`, which have each index equally often.
-/
import ZeroDpi.Lib.Sampling
import ZeroDpi.TargetPool

namespace ZeroDpi

open Lib

namespace TargetPool

-- =============================================================== the draws

/-- The state after some turns of the loop. -/
def stateAfter (state : UInt64) : Nat → UInt64
  | 0 => state
  | n + 1 => (splitmix64 (stateAfter state n)).1

/-- The word of a turn. -/
def word (state : UInt64) (n : Nat) : UInt64 :=
  (splitmix64 (stateAfter state n)).2

/-- `bound.wrapping_neg() % bound`. -/
def threshold (count : Nat) : UInt64 := (0 - count.toUInt64) % count.toUInt64

/-- A turn that ends the loop with an index. -/
def Accepts (state : UInt64) (count n i : Nat) : Prop :=
  threshold count ≤ word state n ∧ (word state n).toNat % count = i

instance (state : UInt64) (count n i : Nat) :
    Decidable (Accepts state count n i) :=
  inferInstanceAs (Decidable (_ ∧ _))

theorem stateAfter_succ (state : UInt64) (n : Nat) :
    stateAfter (splitmix64 state).1 n = stateAfter state (n + 1) := by
  induction n with
  | zero => simp only [stateAfter]
  | succ n ih =>
      show (splitmix64 (stateAfter (splitmix64 state).1 n)).1 = _
      rw [ih]
      simp only [stateAfter]

theorem stateAfter_eq (state : UInt64) (n : Nat) :
    stateAfter state n = state + n.toUInt64 * increment := by
  induction n with
  | zero =>
      show state = state + 0 * increment
      rw [UInt64.zero_mul, UInt64.add_zero]
  | succ n ih =>
      have hsucc : (n + 1).toUInt64 = n.toUInt64 + 1 := UInt64.ofNat_add n 1
      show (splitmix64 (stateAfter state n)).1 = _
      rw [splitmix64_next, ih, hsucc, UInt64.add_mul, UInt64.one_mul,
        UInt64.add_assoc]

/-- The loop of `random_index` ends at the first word that is not refused. -/
theorem randomWord_ends (t state : UInt64) :
    ∃ n, (∀ k < n, ¬ t ≤ word state k) ∧ t ≤ word state n
      ∧ randomWord t state = (stateAfter state (n + 1), word state n) := by
  fun_induction randomWord t state with
  | case1 state next haccepted =>
      refine ⟨0, by simp, haccepted, ?_⟩
      simp only [word, stateAfter]
      rfl
  | case2 state next hrefused ih =>
      obtain ⟨n, hbefore, haccepted, hrun⟩ := ih
      have hword : ∀ k, word next.1 k = word state (k + 1) := fun k =>
        congrArg (fun s => (splitmix64 s).2) (stateAfter_succ state k)
      refine ⟨n + 1, ?_, ?_, ?_⟩
      · intro k hk
        cases k with
        | zero => exact hrefused
        | succ k =>
            rw [← hword]
            exact hbefore k (Nat.lt_of_succ_lt_succ hk)
      · rw [← hword]
        exact haccepted
      · rw [hrun, hword, ← stateAfter_succ state (n + 1)]

-- ============================================================== the period

theorem splitmix64_injective :
    Function.Injective fun state => (splitmix64 state).2 := by
  have hfirst := @xorShift_injective 30 (by decide)
  have hsecond := @xorShift_injective 27 (by decide)
  have hthird := @xorShift_injective 31 (by decide)
  have htimes : (0xBF58476D1CE4E5B9 : UInt64) * 0x96DE1B173F119089 = 1 := by decide
  have htimes' : (0x94D049BB133111EB : UInt64) * 0x319642B2D24D8EC3 = 1 := by
    decide
  intro x y h
  have hmixed := mul_injective htimes' (hthird h)
  have hstate := mul_injective htimes (hsecond hmixed)
  exact (UInt64.add_left_inj increment).mp (hfirst hstate)

/-- In one period no word comes twice. -/
theorem word_injective (state : UInt64) {n m : Nat} (hn : n < 2 ^ 64)
    (hm : m < 2 ^ 64) (h : word state n = word state m) : n = m := by
  have hstates := splitmix64_injective h
  rw [stateAfter_eq, stateAfter_eq] at hstates
  exact step_injective increment_inverse state hn hm hstates

/-- And each state comes. -/
theorem period_covers (state goal : UInt64) :
    ∃ n < 2 ^ 64, stateAfter state n = goal := by
  refine ⟨((goal - state) * incrementInverse).toNat, UInt64.toNat_lt _, ?_⟩
  rw [stateAfter_eq]
  have hword : ((goal - state) * incrementInverse).toNat.toUInt64
      = (goal - state) * incrementInverse := UInt64.ofNat_toNat
  have hinverse : incrementInverse * increment = 1 := by decide
  rw [hword, UInt64.mul_assoc, hinverse, UInt64.mul_one]
  grind

-- =========================================================== the acceptance

section Counted

variable {count : Nat} (h : 0 < count) (hfits : count < 2 ^ 64)

include h hfits

theorem toNat_threshold : (threshold count).toNat = (2 ^ 64 - count) % count := by
  have hcount : count.toUInt64.toNat = count := Nat.mod_eq_of_lt hfits
  have hneg : (0 - count.toUInt64).toNat = 2 ^ 64 - count := by
    rw [UInt64.toNat_sub, hcount, UInt64.toNat_zero, Nat.add_zero]
    exact Nat.mod_eq_of_lt (by omega)
  rw [threshold, UInt64.toNat_mod, hneg, hcount]

/-- From the threshold on there are whole runs of `count` words. -/
theorem threshold_rest : 2 ^ 64
    = (threshold count).toNat + (2 ^ 64 - (threshold count).toNat) / count * count := by
  have hthreshold := toNat_threshold h hfits
  have hmod : (2 ^ 64 - count) % count = 2 ^ 64 % count := by
    rw [← Nat.mod_eq_sub_mod (Nat.le_of_lt hfits)]
  have hdiv := Nat.div_add_mod (2 ^ 64) count
  have hlt := Nat.mod_lt (2 ^ 64) h
  rw [hthreshold, hmod]
  have hrest : 2 ^ 64 - 2 ^ 64 % count = 2 ^ 64 / count * count := by
    rw [Nat.mul_comm]
    omega
  rw [hrest, Nat.mul_div_cancel _ h, Nat.mul_comm]
  omega

/-- Each index is accepted equally often in one period. -/
theorem accepted_count (state : UInt64) {i : Nat} (hi : i < count) :
    ((Finset.range (2 ^ 64)).filter fun n => Accepts state count n i).card
      = (2 ^ 64 - (threshold count).toNat) / count := by
  have hmoved := card_filter_of_injOn (n := 2 ^ 64)
    (f := fun n => (word state n).toNat) (fun k _ => UInt64.toNat_lt _)
    (fun k hk l hl heq => word_injective state hk hl (UInt64.toNat.inj heq))
    (fun z => (threshold count).toNat ≤ z ∧ z % count = i)
  have hrest := threshold_rest h hfits
  have hruns : (Finset.range (2 ^ 64)).filter
        (fun z => (threshold count).toNat ≤ z ∧ z % count = i)
      = (Finset.Ico (threshold count).toNat ((threshold count).toNat
          + (2 ^ 64 - (threshold count).toNat) / count * count)).filter
        fun z => z % count = i := by
    ext z
    rw [← hrest]
    simp only [Finset.mem_filter, Finset.mem_range, Finset.mem_Ico]
    constructor
    · rintro ⟨hz, hle, hmod⟩
      exact ⟨⟨hle, hz⟩, hmod⟩
    · rintro ⟨⟨hle, hz⟩, hmod⟩
      exact ⟨hz, hle, hmod⟩
  rw [hruns, card_residue hi] at hmoved
  rw [← hmoved]
  rfl

end Counted

theorem randomIndex_eq (state : UInt64) (count : Nat) :
    randomIndex state count = ((randomWord (threshold count) state).1,
      ((randomWord (threshold count) state).2 % count.toUInt64).toNat) := by
  rw [randomIndex, threshold]

/-- The loop of `random_index`, with its index. -/
theorem randomIndex_ends (state : UInt64) {count : Nat}
    (hfits : count < 2 ^ 64) :
    ∃ n, (∀ k < n, ¬ threshold count ≤ word state k)
      ∧ Accepts state count n (randomIndex state count).2
      ∧ (randomIndex state count).1 = stateAfter state (n + 1) := by
  have hcount : count.toUInt64.toNat = count := Nat.mod_eq_of_lt hfits
  obtain ⟨n, hbefore, haccepted, hrun⟩ := randomWord_ends (threshold count) state
  refine ⟨n, hbefore, ⟨haccepted, ?_⟩, ?_⟩
  · rw [randomIndex_eq, hrun, UInt64.toNat_mod, hcount]
  · rw [randomIndex_eq, hrun]

/-- From any state the loop of `random_index` ends, at the first word that
is not below the threshold, with an index below `count`; and in one period,
in which every state comes, each index is accepted equally often. -/
theorem randomIndex_unbiased (state : UInt64) {count : Nat} (h : 0 < count)
    (hfits : count < 2 ^ 64) :
    (∃ n, (∀ k < n, ¬ threshold count ≤ word state k)
        ∧ Accepts state count n (randomIndex state count).2
        ∧ (randomIndex state count).1 = stateAfter state (n + 1))
      ∧ (randomIndex state count).2 < count
      ∧ (∀ goal, ∃ n < 2 ^ 64, stateAfter state n = goal)
      ∧ ∀ i < count,
        ((Finset.range (2 ^ 64)).filter fun n => Accepts state count n i).card
          = (2 ^ 64 - (threshold count).toNat) / count := by
  obtain ⟨n, hbefore, haccepted, hstate⟩ := randomIndex_ends state hfits
  refine ⟨⟨n, hbefore, haccepted, hstate⟩, ?_, period_covers state,
    fun i hi => accepted_count h hfits state hi⟩
  rw [← haccepted.2]
  exact Nat.mod_lt _ h

theorem randomIndex_unbiased_three :
    (∃ n, (∀ k < n, ¬ threshold 3 ≤ word 0 k)
        ∧ Accepts 0 3 n (randomIndex 0 3).2
        ∧ (randomIndex 0 3).1 = stateAfter 0 (n + 1))
      ∧ (randomIndex 0 3).2 < 3
      ∧ (∀ goal, ∃ n < 2 ^ 64, stateAfter 0 n = goal)
      ∧ ∀ i < 3,
        ((Finset.range (2 ^ 64)).filter fun n => Accepts 0 3 n i).card
          = (2 ^ 64 - (threshold 3).toNat) / 3 :=
  randomIndex_unbiased 0 (by decide) (by decide)

end TargetPool

end ZeroDpi
