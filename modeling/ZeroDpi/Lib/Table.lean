/-
Finite maps as association lists, with the operations of a hash map:
inserting replaces, and a key occurs at most once in a table built by
insertions.
-/

namespace ZeroDpi.Lib

/-- A finite map from `κ` to `ν`. -/
abbrev Table (κ ν : Type _) := List (κ × ν)

namespace Table

variable {κ ν : Type _} [DecidableEq κ]

/-- The value at a key. -/
def get? (t : Table κ ν) (k : κ) : Option ν :=
  (t.find? fun e => e.1 = k).map Prod.snd

/-- Whether there is one. -/
def containsKey (t : Table κ ν) (k : κ) : Bool :=
  t.any fun e => e.1 = k

/-- The table without a key. -/
def remove (t : Table κ ν) (k : κ) : Table κ ν :=
  t.filter fun e => e.1 ≠ k

/-- The table with a value at a key. -/
def insert (t : Table κ ν) (k : κ) (v : ν) : Table κ ν :=
  (k, v) :: remove t k

/-- The value at a key replaced by its image, the rest kept. -/
def modify (t : Table κ ν) (k : κ) (f : ν → ν) : Table κ ν :=
  t.map fun e => if e.1 = k then (e.1, f e.2) else e

omit [DecidableEq κ] in
/-- No key occurs twice. -/
def NodupKeys (t : Table κ ν) : Prop := (t.map Prod.fst).Nodup

variable {t : Table κ ν} {k k' : κ} {v v' : ν}

-- ================================================================ lookup

/-- The first entry decides. -/
theorem get?_cons (e : κ × ν) :
    get? (e :: t) k = if e.1 = k then some e.2 else get? t k := by
  unfold get?
  by_cases he : e.1 = k
  · simp [he]
  · simp [he]

/-- A value that is found is in the table. -/
theorem mem_of_get? (h : get? t k = some v) : (k, v) ∈ t := by
  obtain ⟨e, he, hv⟩ := Option.map_eq_some_iff.mp h
  have hk : e.1 = k := by simpa using List.find?_some he
  have hmem := List.mem_of_find?_eq_some he
  rw [← hk, ← hv]
  exact hmem

/-- No entry has the key. -/
theorem get?_eq_none_iff : get? t k = none ↔ ∀ e ∈ t, e.1 ≠ k := by
  unfold get?
  rw [Option.map_eq_none_iff, List.find?_eq_none]
  simp

/-- Both say the same. -/
theorem containsKey_iff : containsKey t k = true ↔ ∃ v, get? t k = some v := by
  constructor
  · intro h
    obtain ⟨e, he, hk⟩ := List.any_eq_true.mp h
    cases hg : get? t k with
    | none => exact absurd (by simpa using hk) (get?_eq_none_iff.mp hg e he)
    | some v => exact ⟨v, rfl⟩
  · intro hgiven
    obtain ⟨v, h⟩ := hgiven
    exact List.any_eq_true.mpr ⟨(k, v), mem_of_get? h, by simp⟩

theorem containsKey_eq_isSome : containsKey t k = (get? t k).isSome := by
  rw [Bool.eq_iff_iff, containsKey_iff, Option.isSome_iff_exists]

-- ================================================================ updates

/-- Reading behind a write: `get?` and `containsKey` after each of the
operations. -/
@[simp] theorem get?_remove_self : get? (remove t k) k = none := by
  refine get?_eq_none_iff.mpr fun e he => ?_
  simpa using (List.mem_filter.mp he).2

theorem get?_remove_ne (h : k' ≠ k) : get? (remove t k) k' = get? t k' := by
  induction t with
  | nil => rfl
  | cons e t ih =>
      by_cases he : e.1 = k
      · have hrem : remove (e :: t) k = remove t k := by simp [remove, he]
        rw [hrem, ih, get?_cons, if_neg]
        intro hk'
        exact h (hk'.symm.trans he)
      · have hrem : remove (e :: t) k = e :: remove t k := by
          simp [remove, he]
        rw [hrem, get?_cons, get?_cons, ih]

/-- What was inserted is found. -/
@[simp] theorem get?_insert_self : get? (insert t k v) k = some v := by
  simp [insert, get?_cons]

theorem get?_insert_ne (h : k' ≠ k) : get? (insert t k v) k' = get? t k' := by
  unfold insert
  rw [get?_cons, if_neg h.symm, get?_remove_ne h]

theorem containsKey_insert :
    containsKey (insert t k v) k' = (decide (k' = k) || containsKey t k') := by
  rw [containsKey_eq_isSome, containsKey_eq_isSome]
  by_cases hk : k' = k
  · simp [hk]
  · simp [hk, get?_insert_ne hk]

theorem containsKey_remove :
    containsKey (remove t k) k' = (decide (k' ≠ k) && containsKey t k') := by
  rw [containsKey_eq_isSome, containsKey_eq_isSome]
  by_cases hk : k' = k
  · simp [hk]
  · simp [hk, get?_remove_ne hk]

/-- Values changed in place, key by key. -/
theorem get?_map (g : κ → ν → ν) :
    get? (t.map fun e => (e.1, g e.1 e.2)) k = (get? t k).map (g k) := by
  induction t with
  | nil => rfl
  | cons e t ih =>
      rw [List.map_cons, get?_cons, get?_cons, ih]
      by_cases he : e.1 = k
      · simp [he]
      · simp [he]

/-- Changing one value changes it in place. -/
theorem modify_eq_map (f : ν → ν) :
    modify t k f
      = t.map fun e => (e.1, if e.1 = k then f e.2 else e.2) := by
  refine List.map_congr_left fun e _ => ?_
  by_cases he : e.1 = k
  · simp [he]
  · simp [he]

theorem get?_modify (f : ν → ν) :
    get? (modify t k f) k' = if k' = k then (get? t k').map f
      else get? t k' := by
  rw [modify_eq_map,
    get?_map (g := fun key value => if key = k then f value else value)]
  by_cases hk : k' = k
  · simp [hk]
  · simp [hk]

theorem containsKey_modify (f : ν → ν) :
    containsKey (modify t k f) k' = containsKey t k' := by
  rw [containsKey_eq_isSome, containsKey_eq_isSome, get?_modify]
  by_cases hk : k' = k
  · rw [if_pos hk, Option.isSome_map]
  · rw [if_neg hk]

-- =========================================================== unique keys

/-- Keys stay distinct. -/
theorem NodupKeys.remove (h : NodupKeys t) : NodupKeys (remove t k) :=
  h.sublist (List.filter_sublist.map Prod.fst)

/-- Likewise. -/
theorem NodupKeys.insert (h : NodupKeys t) : NodupKeys (insert t k v) := by
  refine List.nodup_cons.mpr ⟨fun hmem => ?_, h.remove⟩
  obtain ⟨e, he, hk⟩ := List.mem_map.mp hmem
  have hne : e.1 ≠ k := by simpa using (List.mem_filter.mp he).2
  exact hne hk

/-- With unique keys an entry is what its key looks up. -/
theorem NodupKeys.get?_of_mem (h : NodupKeys t) (hmem : (k, v) ∈ t) :
    get? t k = some v := by
  induction t with
  | nil => cases hmem
  | cons e t ih =>
      obtain ⟨hnot, hnodup⟩ := List.nodup_cons.mp h
      rw [get?_cons]
      rcases List.mem_cons.mp hmem with rfl | hrest
      · rw [if_pos rfl]
      · have hne : e.1 ≠ k := by
          intro he
          apply hnot
          rw [he]
          exact List.mem_map_of_mem hrest
        rw [if_neg hne]
        exact ih hnodup hrest

/-- Removing an absent key changes nothing. -/
theorem remove_eq_self (h : get? t k = none) : remove t k = t :=
  List.filter_eq_self.mpr fun e he => by
    simpa using get?_eq_none_iff.mp h e he

/-- The keys that are left. -/
theorem map_fst_remove :
    (remove t k).map Prod.fst = (t.map Prod.fst).filter (· ≠ k) := by
  rw [List.filter_map]
  rfl

/-- Removing what was inserted. -/
theorem remove_insert_self : remove (insert t k v) k = remove t k := by
  show List.filter _ ((k, v) :: remove t k) = remove t k
  rw [List.filter_cons_of_neg (by simp)]
  exact remove_eq_self get?_remove_self

end Table

-- ================================================================ digests

/-- A number for a text: texts of different numbers are different. -/
def digest (modulus : Nat) (s : String) : Nat :=
  s.toByteArray.data.toList.foldl
    (fun n b => (31 * n + b.toNat) % modulus) 0

/-- The numbers differ from each other and from those whose bit is in
`seen`. -/
def distinctFrom (seen : Nat) : List Nat → Bool
  | [] => true
  | n :: ns => !seen.testBit n && distinctFrom (seen ||| 1 <<< n) ns

/-- In a list whose keys have different numbers an entry is what its key
finds. -/
theorem find?_of_distinctFrom {α κ : Type _} [DecidableEq κ] {key : α → κ}
    {code : κ → Nat} {seen : Nat} {l : List α} {a : α}
    (h : distinctFrom seen (l.map fun b => code (key b)) = true)
    (ha : a ∈ l) :
    l.find? (fun b => key b = key a) = some a
      ∧ seen.testBit (code (key a)) = false := by
  induction l generalizing seen with
  | nil => cases ha
  | cons b l ih =>
      rw [List.map_cons, distinctFrom, Bool.and_eq_true,
        Bool.not_eq_true'] at h
      obtain ⟨hb, hl⟩ := h
      rcases List.mem_cons.mp ha with rfl | ha
      · exact ⟨by simp, hb⟩
      · obtain ⟨hfind, hbit⟩ := ih hl ha
        rw [Nat.testBit_or, Bool.or_eq_false_iff] at hbit
        have hne : key b ≠ key a := by
          intro heq
          rw [← heq] at hbit
          simp [Nat.testBit_shiftLeft] at hbit
        rw [List.find?_cons_of_neg (by simpa using hne)]
        exact ⟨hfind, hbit.1⟩

end ZeroDpi.Lib
