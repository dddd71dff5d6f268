/-
Slices, chunks and overwrites of lists, with the conventions of checked
slice access: a range that leaves the list is `none`, `chunks n` cuts a
list into runs of `n` with a shorter last run, and `overwrite` replaces
elements in place.

Everything here is over an arbitrary element type, except the big-endian
readers and writers.
-/

namespace ZeroDpi.Lib

/-- Two bytes as a big-endian number. -/
def be16 (hi lo : UInt8) : Nat := hi.toNat * 256 + lo.toNat

/-- Three bytes as a big-endian number. -/
def be24 (hi mid lo : UInt8) : Nat :=
  hi.toNat * 65536 + mid.toNat * 256 + lo.toNat

/-- The two big-endian bytes of a number, truncated to 16 bits. -/
def toBe16 (n : Nat) : List UInt8 := [(n / 256).toUInt8, n.toUInt8]

/-- Four bytes as a big-endian word. -/
def be32 (a b c d : UInt8) : UInt32 :=
  (be16 a b * 65536 + be16 c d).toUInt32

/-- The four big-endian bytes of a word. -/
def toBe32 (n : UInt32) : List UInt8 :=
  toBe16 (n.toNat / 65536) ++ toBe16 n.toNat

@[simp] theorem length_toBe16 (n : Nat) : (toBe16 n).length = 2 := rfl

@[simp] theorem length_toBe32 (n : UInt32) : (toBe32 n).length = 4 := rfl

theorem be16_lt (hi lo : UInt8) : be16 hi lo < 65536 := by
  have := hi.toNat_lt
  have := lo.toNat_lt
  simp only [be16]
  omega

/-- Reading two written bytes back. -/
theorem be16_toBe16 (n : Nat) :
    be16 (n / 256).toUInt8 n.toUInt8 = n % 65536 := by
  have hhi : (n / 256).toUInt8.toNat = n / 256 % 256 := rfl
  have hlo : n.toUInt8.toNat = n % 256 := rfl
  rw [be16, hhi, hlo]
  omega

/-- Reading four written bytes back. -/
theorem be32_toBe32 (n : UInt32) :
    be32 (n.toNat / 65536 / 256).toUInt8 (n.toNat / 65536).toUInt8
      (n.toNat / 256).toUInt8 n.toNat.toUInt8 = n := by
  have hn := n.toNat_lt
  rw [be32, be16_toBe16, be16_toBe16]
  apply UInt32.toNat.inj
  rw [Nat.toUInt32_eq, UInt32.toNat_ofNat']
  omega

/-- Writing two read bytes back, whatever is above them. -/
theorem toBe16_be16 (k : Nat) (hi lo : UInt8) :
    toBe16 (k * 65536 + be16 hi lo) = [hi, lo] := by
  have hhi := hi.toNat_lt
  have hlo := lo.toNat_lt
  have h1 : ((k * 65536 + be16 hi lo) / 256).toUInt8 = hi := by
    apply UInt8.toNat.inj
    rw [Nat.toUInt8_eq, UInt8.toNat_ofNat', be16]
    omega
  have h2 : (k * 65536 + be16 hi lo).toUInt8 = lo := by
    apply UInt8.toNat.inj
    rw [Nat.toUInt8_eq, UInt8.toNat_ofNat', be16]
    omega
  rw [toBe16, h1, h2]

/-- Writing four read bytes back. -/
theorem toBe32_be32 (a b c d : UInt8) :
    toBe32 (be32 a b c d) = [a, b, c, d] := by
  have hhigh := be16_lt a b
  have hlow := be16_lt c d
  have hnat : (be32 a b c d).toNat = be16 a b * 65536 + be16 c d := by
    rw [be32, Nat.toUInt32_eq, UInt32.toNat_ofNat']
    omega
  have hdiv : (be16 a b * 65536 + be16 c d) / 65536
      = 0 * 65536 + be16 a b := by omega
  rw [toBe32, hnat, hdiv, toBe16_be16, toBe16_be16]
  rfl

variable {α : Type _}

/-- The sub-list `[lo, hi)`, if the range lies inside the list. -/
def slice? (l : List α) (lo hi : Nat) : Option (List α) :=
  if lo ≤ hi ∧ hi ≤ l.length then some ((l.drop lo).take (hi - lo))
  else none

/-- `chunks` with an explicit bound on the number of runs. -/
def chunksFuel : Nat → Nat → List α → List (List α)
  | _, _, [] => []
  | 0, _, _ => []
  | fuel + 1, n, l => l.take n :: chunksFuel fuel n (l.drop n)

/-- The list cut into runs of `n`, the last one possibly shorter. -/
def chunks (n : Nat) (l : List α) : List (List α) :=
  chunksFuel l.length n l

-- ===================================================== chunks, unfolded

/-- Two bounds that both cover the list give the same runs. -/
theorem chunksFuel_eq {n : Nat} (hn : 0 < n) {fuel fuel' : Nat}
    {l : List α} (h : l.length ≤ fuel) (h' : l.length ≤ fuel') :
    chunksFuel fuel n l = chunksFuel fuel' n l := by
  induction fuel generalizing fuel' l with
  | zero =>
      obtain rfl := List.length_eq_zero_iff.mp (Nat.le_zero.mp h)
      simp only [chunksFuel]
  | succ fuel ih =>
      cases l with
      | nil => simp only [chunksFuel]
      | cons a l =>
          obtain ⟨fuel', rfl⟩ : ∃ k, fuel' = k + 1 :=
            ⟨fuel' - 1, by simp only [List.length_cons] at h'; omega⟩
          simp only [List.length_cons, Nat.add_le_add_iff_right] at h h'
          have hdrop : ((a :: l).drop n).length ≤ l.length := by
            rw [List.length_drop, List.length_cons]
            omega
          simp only [chunksFuel]
          rw [ih (Nat.le_trans hdrop h) (Nat.le_trans hdrop h')]

@[simp] theorem chunks_nil (n : Nat) : chunks n ([] : List α) = [] := rfl

/-- The first run and the runs of what is left. -/
theorem chunks_of_ne_nil {n : Nat} (hn : 0 < n) {l : List α} (h : l ≠ []) :
    chunks n l = l.take n :: chunks n (l.drop n) := by
  obtain ⟨a, t, rfl⟩ := List.exists_cons_of_ne_nil h
  have hdrop : ((a :: t).drop n).length ≤ t.length := by
    rw [List.length_drop, List.length_cons]
    omega
  show chunksFuel (t.length + 1) n (a :: t) = _
  simp only [chunksFuel]
  rw [chunks, chunksFuel_eq hn hdrop (Nat.le_refl _)]

/-- The runs concatenate to the list. -/
theorem chunks_flatten {n : Nat} (hn : 0 < n) (l : List α) :
    (chunks n l).flatten = l := by
  induction h : l.length using Nat.strongRecOn generalizing l with
  | ind k ih =>
      by_cases hl : l = []
      · subst hl
        rfl
      · have hpos : 0 < l.length := List.length_pos_iff.mpr hl
        rw [chunks_of_ne_nil hn hl, List.flatten_cons,
          ih (l.drop n).length (by rw [List.length_drop]; omega) _ rfl,
          List.take_append_drop]

/-- No run is empty or longer than `n`. -/
theorem mem_chunks {n : Nat} (hn : 0 < n) {l r : List α}
    (h : r ∈ chunks n l) : r ≠ [] ∧ r.length ≤ n := by
  induction hk : l.length using Nat.strongRecOn generalizing l with
  | ind k ih =>
      by_cases hl : l = []
      · subst hl
        cases h
      · have hpos : 0 < l.length := List.length_pos_iff.mpr hl
        rw [chunks_of_ne_nil hn hl] at h
        rcases List.mem_cons.mp h with rfl | hrest
        · refine ⟨?_, List.length_take_le n l⟩
          rw [← List.length_pos_iff, List.length_take]
          omega
        · exact ih (l.drop n).length (by rw [List.length_drop]; omega)
            hrest rfl

/-- How many runs there are. -/
theorem length_chunks {n : Nat} (hn : 0 < n) (l : List α) :
    (chunks n l).length = (l.length + n - 1) / n := by
  induction hk : l.length using Nat.strongRecOn generalizing l with
  | ind k ih =>
      subst hk
      by_cases hl : l = []
      · subst hl
        exact (Nat.div_eq_of_lt (by simp; omega)).symm
      · have hpos : 0 < l.length := List.length_pos_iff.mpr hl
        have hdrop : (l.drop n).length = l.length - n := List.length_drop
        rw [chunks_of_ne_nil hn hl, List.length_cons,
          ih (l.drop n).length (by omega) _ rfl, ← Nat.add_div_right _ hn]
        by_cases hlast : l.length ≤ n
        · rw [hdrop, Nat.sub_eq_zero_of_le hlast]
          rw [Nat.div_eq_of_lt_le (k := 1) (by omega) (by omega),
            Nat.div_eq_of_lt_le (k := 1) (by omega) (by omega)]
        · congr 1
          omega

/-- Every run but the last has `n` elements. -/
theorem length_of_chunks {n : Nat} (hn : 0 < n) {l part : List α}
    {before after : List (List α)} (h : chunks n l = before ++ part :: after)
    (hafter : after ≠ []) : part.length = n := by
  induction before generalizing l with
  | nil =>
      by_cases hl : l = []
      · rw [hl, chunks_nil] at h
        cases h
      · rw [chunks_of_ne_nil hn hl, List.nil_append, List.cons.injEq] at h
        obtain ⟨rfl, hrest⟩ := h
        have hdrop : l.drop n ≠ [] := by
          intro hnil
          rw [hnil, chunks_nil] at hrest
          exact hafter hrest.symm
        have hpos := List.length_pos_iff.mpr hdrop
        rw [List.length_drop] at hpos
        rw [List.length_take]
        omega
  | cons head before ih =>
      by_cases hl : l = []
      · rw [hl, chunks_nil] at h
        cases h
      · rw [chunks_of_ne_nil hn hl, List.cons_append, List.cons.injEq] at h
        exact ih h.2

/-- Where a run stands among the runs. -/
theorem chunks_place {n : Nat} (hn : 0 < n) {l part : List α}
    {heads tails : List (List α)} (h : chunks n l = heads ++ part :: tails) :
    part ≠ [] ∧ part.length ≤ n ∧ (tails ≠ [] → part.length = n)
      ∧ heads.flatten.length % n = 0
      ∧ (heads.flatten.length + part.length ≥ l.length ↔ tails = [])
      ∧ heads.flatten.length + part.length ≤ l.length := by
  have hmem : ∀ r ∈ heads ++ part :: tails, r ≠ [] ∧ r.length ≤ n := by
    intro r hr
    rw [← h] at hr
    exact mem_chunks hn hr
  have htotal : l.length = heads.flatten.length + part.length
      + tails.flatten.length := by
    rw [← chunks_flatten hn l, h, List.flatten_append, List.flatten_cons,
      List.length_append, List.length_append]
    omega
  have hheads : ∀ r ∈ heads, r.length = n := by
    intro r hr
    obtain ⟨a, c, rfl⟩ := List.append_of_mem hr
    rw [List.append_assoc, List.cons_append] at h
    exact length_of_chunks hn h (by simp)
  have hmultiple : heads.flatten.length = n * heads.length := by
    clear h hmem htotal
    induction heads with
    | nil => rfl
    | cons r heads ih =>
        rw [List.flatten_cons, List.length_append,
          hheads r List.mem_cons_self,
          ih (fun r' hr' => hheads r' (List.mem_cons_of_mem r hr')),
          List.length_cons, Nat.mul_succ, Nat.add_comm]
  have hpart := hmem part (by simp)
  refine ⟨hpart.1, hpart.2, length_of_chunks hn h, ?_, ?_, by omega⟩
  · rw [hmultiple]
    exact Nat.mul_mod_right _ _
  · constructor
    · intro hend
      cases tails with
      | nil => rfl
      | cons r tails =>
          have hr := List.length_pos_iff.mpr (hmem r (by simp)).1
          rw [List.flatten_cons, List.length_append] at htotal
          omega
    · rintro rfl
      rw [htotal]
      exact Nat.le_refl _

/-- Every position of a concatenation lies in one of the lists. -/
theorem exists_block {ls : List (List α)} {i : Nat}
    (h : i < ls.flatten.length) :
    ∃ before l after, ls = before ++ l :: after
      ∧ before.flatten.length ≤ i
      ∧ i < before.flatten.length + l.length := by
  induction ls generalizing i with
  | nil => cases h
  | cons l rest ih =>
      rw [List.flatten_cons, List.length_append] at h
      by_cases hi : i < l.length
      · exact ⟨[], l, rest, rfl, by simp, by simpa using hi⟩
      · obtain ⟨before, r, after, rfl, hlow, hhigh⟩ :=
          ih (show i - l.length < rest.flatten.length by omega)
        refine ⟨l :: before, r, after, rfl, ?_⟩
        rw [List.flatten_cons, List.length_append]
        omega

-- ============================================================ overwrites

/-- The list with `bs` written over its elements from `i` on. -/
def overwrite (l : List α) (i : Nat) (bs : List α) : List α :=
  l.take i ++ bs ++ l.drop (i + bs.length)

@[simp] theorem length_overwrite {l bs : List α} {i : Nat}
    (h : i + bs.length ≤ l.length) :
    (overwrite l i bs).length = l.length := by
  simp only [overwrite, List.length_append, List.length_take,
    List.length_drop]
  omega

/-- Inside a concatenation only the list at that place is written. -/
theorem overwrite_append (front l back bs : List α) {i : Nat}
    (h : i + bs.length ≤ l.length) :
    overwrite (front ++ l ++ back) (front.length + i) bs
      = front ++ overwrite l i bs ++ back := by
  have htake : (front ++ l ++ back).take (front.length + i)
      = front ++ l.take i := by
    rw [List.append_assoc, List.take_length_add_append,
      List.take_append_of_le_length (by omega)]
  have hdrop : (front ++ l ++ back).drop (front.length + i + bs.length)
      = l.drop (i + bs.length) ++ back := by
    rw [List.append_assoc, Nat.add_assoc, List.drop_length_add_append,
      List.drop_append_of_le_length h]
  rw [overwrite, htake, hdrop, overwrite]
  simp only [List.append_assoc]

/-- The second of two writes to one place is the one that stays. -/
theorem overwrite_overwrite {l bs bs' : List α} {i : Nat}
    (h : i + bs.length ≤ l.length) (hlen : bs'.length = bs.length) :
    overwrite (overwrite l i bs) i bs' = overwrite l i bs' := by
  have htake : (l.take i).length = i := by
    rw [List.length_take]
    omega
  have hkeep : (overwrite l i bs).take i = l.take i := by
    rw [overwrite, List.append_assoc,
      List.take_append_of_le_length (by omega), List.take_take,
      Nat.min_self]
  have hdrop : (overwrite l i bs).drop (i + bs'.length)
      = l.drop (i + bs'.length) := by
    rw [hlen, overwrite, List.drop_append, List.drop_eq_nil_of_le
      (by rw [List.length_append]; omega)]
    simp [htake]
  rw [overwrite, hkeep, hdrop, overwrite]

theorem getElem?_overwrite_of_lt {l bs : List α} {i j : Nat}
    (h : i + bs.length ≤ l.length) (hj : j < i) :
    (overwrite l i bs)[j]? = l[j]? := by
  have hlen : j < (l.take i).length := by
    rw [List.length_take]
    omega
  rw [overwrite, List.append_assoc, List.getElem?_append_left hlen,
    List.getElem?_take_of_lt hj]

theorem getElem?_overwrite_self {l bs : List α} {i k : Nat}
    (h : i + bs.length ≤ l.length) (hk : k < bs.length) :
    (overwrite l i bs)[i + k]? = bs[k]? := by
  have hlen : (l.take i).length = i := by
    rw [List.length_take]
    omega
  rw [overwrite, List.append_assoc, List.getElem?_append_right (by omega),
    List.getElem?_append_left (by omega), hlen, Nat.add_sub_cancel_left]

theorem drop_overwrite {l bs : List α} {i n : Nat}
    (h : i + bs.length ≤ l.length) (hn : i + bs.length ≤ n) :
    (overwrite l i bs).drop n = l.drop n := by
  have hlen : (l.take i ++ bs).length = i + bs.length := by
    rw [List.length_append, List.length_take]
    omega
  rw [overwrite, List.drop_append, List.drop_eq_nil_of_le (by omega),
    List.nil_append, hlen, List.drop_drop]
  congr 1
  omega

theorem getElem?_overwrite_of_le {l bs : List α} {i j : Nat}
    (h : i + bs.length ≤ l.length) (hj : i + bs.length ≤ j) :
    (overwrite l i bs)[j]? = l[j]? := by
  have hdrop := congrArg (·[0]?) (drop_overwrite h hj)
  simpa using hdrop

/-- What is written lies in the part that is taken. -/
theorem take_overwrite {l bs : List α} {i n : Nat}
    (hn : i + bs.length ≤ n) (hlen : n ≤ l.length) :
    (overwrite l i bs).take n = overwrite (l.take n) i bs := by
  have htake : (l.take n).length = n := by
    rw [List.length_take]
    omega
  have happend := overwrite_append [] (l.take n) (l.drop n) bs (i := i)
    (by omega)
  rw [List.nil_append, List.take_append_drop, List.length_nil,
    Nat.zero_add, List.nil_append] at happend
  rw [happend, List.take_left']
  rw [length_overwrite (by omega), htake]

/-- Or behind it. -/
theorem take_overwrite_of_le {l bs : List α} {i n : Nat} (hn : n ≤ i)
    (h : i + bs.length ≤ l.length) :
    (overwrite l i bs).take n = l.take n := by
  refine List.ext_getElem? fun j => ?_
  by_cases hj : j < n
  · rw [List.getElem?_take_of_lt hj, List.getElem?_take_of_lt hj,
      getElem?_overwrite_of_lt h (by omega)]
  · rw [List.getElem?_take_eq_none (by omega),
      List.getElem?_take_eq_none (by omega)]

/-- What is written lies in the part that is left. -/
theorem drop_overwrite_of_le {l bs : List α} {i n : Nat} (hn : n ≤ i)
    (h : i + bs.length ≤ l.length) :
    (overwrite l i bs).drop n = overwrite (l.drop n) (i - n) bs := by
  have htake : (l.take n).length = n := by
    rw [List.length_take]
    omega
  have happend := overwrite_append (l.take n) (l.drop n) [] bs (i := i - n)
    (by rw [List.length_drop]; omega)
  rw [List.append_nil, List.take_append_drop, htake, List.append_nil,
    Nat.add_sub_cancel' hn] at happend
  rw [happend, List.drop_left' htake]

/-- Two lists of one length that agree at the positions of `P`. -/
structure AgreeOn (P : Nat → Prop) (l l' : List α) : Prop where
  length : l'.length = l.length
  same : ∀ j, P j → l'[j]? = l[j]?

namespace AgreeOn

variable {P : Nat → Prop} {l l' : List α}

theorem refl (P : Nat → Prop) (l : List α) : AgreeOn P l l :=
  ⟨rfl, fun _ _ => rfl⟩

theorem trans {Q : Nat → Prop} {l'' : List α} (h : AgreeOn P l l')
    (h' : AgreeOn Q l' l'') (hsub : ∀ j, P j → Q j) : AgreeOn P l l'' :=
  ⟨h'.length.trans h.length,
    fun j hj => (h'.same j (hsub j hj)).trans (h.same j hj)⟩

/-- Writing outside the positions keeps the agreement. -/
theorem overwrite (h : AgreeOn P l l') {i : Nat} (bs : List α)
    (hlen : i + bs.length ≤ l.length)
    (hout : ∀ j, P j → j < i ∨ i + bs.length ≤ j) :
    AgreeOn P l (overwrite l' i bs) := by
  have hlen' : i + bs.length ≤ l'.length := by
    rw [h.length]
    exact hlen
  refine ⟨(length_overwrite hlen').trans h.length, fun j hj => ?_⟩
  rw [← h.same j hj]
  rcases hout j hj with hlow | hhigh
  · exact getElem?_overwrite_of_lt hlen' hlow
  · exact getElem?_overwrite_of_le hlen' hhigh

theorem getD (h : AgreeOn P l l') {j : Nat} (hj : P j) (d : α) :
    l'.getD j d = l.getD j d := by
  rw [List.getD_eq_getElem?_getD, h.same j hj, List.getD_eq_getElem?_getD]

theorem drop (h : AgreeOn P l l') {n : Nat} (hn : ∀ j, n ≤ j → P j) :
    l'.drop n = l.drop n := by
  refine List.ext_getElem? fun j => ?_
  rw [List.getElem?_drop, List.getElem?_drop, h.same _ (hn _ (by omega))]

end AgreeOn

end ZeroDpi.Lib
