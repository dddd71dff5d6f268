/-
First minima, first occurrences and counts in lists.

`List.minOn?` is the first of the elements with the least key;
`minOn?_split` says so as a split of the list. `see` adds a key to the
ones seen so far, in order of first occurrence, and `sum_counts` adds up
how often each of a list of keys occurs; `count_eraseIdx` counts what is
left when one element is taken out.
-/
import Mathlib.Algebra.Ring.Nat
import Mathlib.Algebra.BigOperators.Group.List.Basic
import Mathlib.Data.List.Nodup
import Mathlib.Order.Lattice

namespace ZeroDpi.Lib

variable {α β κ : Type _}

-- ============================================================ first minima

/-- The chosen element is least, and less than everything before it. -/
theorem minOn?_split [LinearOrder β] {f : α → β} {l : List α} {a : α}
    (h : l.minOn? f = some a) :
    ∃ before after, l = before ++ a :: after
      ∧ (∀ b ∈ before, f a < f b) ∧ ∀ b ∈ after, f a ≤ f b := by
  induction l generalizing a with
  | nil => cases h
  | cons x rest ih =>
      rw [List.minOn?_cons] at h
      cases hrest : rest.minOn? f with
      | none =>
          obtain rfl : rest = [] := by
            by_contra hne
            have hsome := List.isSome_minOn?_iff (f := f) |>.mpr hne
            rw [hrest] at hsome
            cases hsome
          rw [hrest] at h
          cases h
          exact ⟨[], [], rfl, nofun, nofun⟩
      | some m =>
          rw [hrest] at h
          obtain ⟨before, after, rfl, hbefore, hafter⟩ := ih hrest
          have hleast : ∀ b ∈ before ++ m :: after, f m ≤ f b := by
            intro b hb
            rcases List.mem_append.mp hb with hb | hb
            · exact le_of_lt (hbefore b hb)
            · rcases List.mem_cons.mp hb with rfl | hb
              · exact le_refl _
              · exact hafter b hb
          have h : minOn f x m = a := Option.some.inj h
          by_cases hle : f x ≤ f m
          · rw [minOn_eq_left hle] at h
            subst h
            exact ⟨[], _, rfl, nofun, fun b hb =>
              le_trans hle (hleast b hb)⟩
          · rw [minOn_eq_right hle] at h
            subst h
            refine ⟨x :: before, after, rfl, ?_, hafter⟩
            intro b hb
            rcases List.mem_cons.mp hb with rfl | hb
            · exact lt_of_not_ge hle
            · exact hbefore b hb

/-- There is one, if there is anything. -/
theorem exists_minOn? [LinearOrder β] (f : α → β) {l : List α}
    (h : l ≠ []) : ∃ a, l.minOn? f = some a :=
  Option.isSome_iff_exists.mp (List.isSome_minOn?_iff.mpr h)

-- ======================================================= first occurrences

theorem nodup_concat {l : List α} {a : α} (h : l.Nodup)
    (ha : a ∉ l) : (l ++ [a]).Nodup :=
  List.nodup_append'.mpr ⟨h, List.nodup_singleton a, by simpa using ha⟩

/-- An entry of a list with one more at its end. -/
theorem getElem?_concat_eq_some {l : List α} {a b : α} {i : Nat} :
    (l ++ [a])[i]? = some b ↔ l[i]? = some b ∨ (i = l.length ∧ a = b) := by
  rcases Nat.lt_trichotomy i l.length with hlt | rfl | hgt
  · rw [List.getElem?_append_left hlt]
    constructor
    · exact .inl
    · rintro (h | ⟨h, -⟩)
      · exact h
      · omega
  · simp
  · have hnone : l[i]? = none := List.getElem?_eq_none (by omega)
    have hnone' : (l ++ [a])[i]? = none :=
      List.getElem?_eq_none (by rw [List.length_append]; exact hgt)
    rw [hnone, hnone']
    simp [Nat.ne_of_gt hgt]

/-- Where the images differ, an image names its place. -/
theorem index_of_nodup_map {f : α → β} {l : List α} (h : (l.map f).Nodup)
    {i j : Nat} {a b : α} (hi : l[i]? = some a) (hj : l[j]? = some b)
    (hf : f a = f b) : i = j := by
  obtain ⟨hlt, -⟩ := List.getElem?_eq_some_iff.mp hi
  refine (List.getElem?_inj (by rw [List.length_map]; exact hlt) h).mp ?_
  rw [List.getElem?_map, List.getElem?_map, hi, hj]
  exact congrArg some hf

/-- A change in place that a reader does not see. -/
theorem map_modify_eq {f : α → α} {g : α → β} (h : ∀ a, g (f a) = g a)
    (l : List α) (i : Nat) : (l.modify i f).map g = l.map g := by
  refine List.ext_getElem? fun j => ?_
  rw [List.getElem?_map, List.getElem?_map, List.getElem?_modify]
  cases l[j]? with
  | none => rfl
  | some a =>
      by_cases hij : i = j
      · simp [hij, h]
      · simp [hij]

variable [DecidableEq κ]

/-- A key noted behind the ones seen before it, unless it is one. -/
def see (seen : List κ) (k : κ) : List κ :=
  if k ∈ seen then seen else seen ++ [k]

theorem mem_see {seen : List κ} {k k' : κ} :
    k' ∈ see seen k ↔ k' ∈ seen ∨ k' = k := by
  unfold see
  split
  · constructor
    · exact .inl
    · rintro (h | rfl)
      · exact h
      · assumption
  · simp

theorem nodup_see {seen : List κ} (h : seen.Nodup) (k : κ) :
    (see seen k).Nodup := by
  unfold see
  split
  · exact h
  · exact nodup_concat h ‹_›

-- ================================================================== counts

/-- Every element of the list is counted under one key. -/
theorem sum_counts {keys : List κ} (hkeys : keys.Nodup) {key : α → κ}
    {l : List α} (h : ∀ a ∈ l, key a ∈ keys) :
    (keys.map fun k => l.countP fun a => key a = k).sum = l.length := by
  induction l with
  | nil => simp
  | cons a rest ih =>
      have hone : ∀ ks : List κ,
          (ks.map fun k => if key a = k then 1 else 0).sum
            = ks.count (key a) := by
        intro ks
        induction ks with
        | nil => rfl
        | cons k ks ihk =>
            rw [List.map_cons, List.sum_cons, ihk, List.count_cons,
              Nat.add_comm]
            by_cases hk : key a = k
            · simp [hk]
            · simp [hk, Ne.symm hk]
      have hrest := ih fun b hb => h b (List.mem_cons_of_mem a hb)
      have hmem := h a List.mem_cons_self
      simp only [List.countP_cons, decide_eq_true_eq]
      rw [List.sum_map_add, hrest, hone, List.count_eq_one_of_mem hkeys hmem,
        List.length_cons]

/-- An element taken out is counted once less. -/
theorem count_eraseIdx {l : List κ} {i : Nat} {a : κ} (h : l[i]? = some a)
    (b : κ) : (l.eraseIdx i).count b + [a].count b = l.count b := by
  obtain ⟨hlt, hget⟩ := List.getElem?_eq_some_iff.mp h
  have hsplit : l = l.take i ++ a :: l.drop (i + 1) := by
    rw [← hget, List.getElem_cons_drop, List.take_append_drop]
  have hwhole := congrArg (List.count b) hsplit
  rw [List.count_append, List.count_cons] at hwhole
  rw [List.eraseIdx_eq_take_drop_succ, List.count_append,
    List.count_singleton]
  omega

theorem length_eraseIdx {l : List α} {i : Nat} {a : α}
    (h : l[i]? = some a) : (l.eraseIdx i).length + 1 = l.length := by
  obtain ⟨hlt, -⟩ := List.getElem?_eq_some_iff.mp h
  rw [List.length_eraseIdx_of_lt hlt]
  omega

end ZeroDpi.Lib
