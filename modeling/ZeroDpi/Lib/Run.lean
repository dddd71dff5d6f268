/-
Runs of step systems, in the two forms a program's model gives them.

# Step functions that can fail

A total answer is `Except.ok`, a crash is `Except.error`, and a run is
`List.foldlM`. `foldlM_total` says that an invariant under which no step
fails carries a whole run; `foldlM_invariant` that an invariant kept by
every successful step holds wherever a successful run ends. `Meets` is a
postcondition of both the answer and the error, with a rule for each way
of putting computations together.

# Step relations

`Run step` is the reflexive-transitive closure of a labelled relation,
with the labels it took. `Run.invariant` is the induction rule,
`Run.invariant_of` the version for steps that are only known to keep the
invariant when their label meets a condition, `Run.invariant_fold` the one
for invariants that mention the labels so far, and `Run.restrict_mono`
compares two conditions on the steps of a run.

# Step functions that cannot fail

`foldl_invariant` is the induction rule. `Along step Q` says that `Q` holds
of every step of a run; `along_invariant` is the rule for steps that only
keep an invariant where a condition is met, and `along_iff` turns a
condition that is exact for one step into one that is exact for whole runs.
-/

namespace ZeroDpi.Lib

variable {ε α β σ ι : Type _}

-- ======================================================== step functions

/-- A successful bind is two successes. -/
theorem bind_eq_ok {x : Except ε α} {f : α → Except ε β} {b : β} :
    (x >>= f) = .ok b ↔ ∃ a, x = .ok a ∧ f a = .ok b := by
  cases x with
  | error e =>
      constructor
      · intro h
        cases h
      · intro hgiven
        obtain ⟨a, h, -⟩ := hgiven
        cases h
  | ok a =>
      constructor
      · intro h
        exact ⟨a, rfl, h⟩
      · intro hgiven
        obtain ⟨a', h, hf⟩ := hgiven
        cases h
        exact hf

/-- A check that raises its error on a bad value. -/
theorem ite_error_eq_ok {bad : Bool} {e : ε} :
    (if bad then .error e else .ok ()) = (.ok () : Except ε Unit)
      ↔ bad = false := by
  cases bad with
  | true => simp
  | false => simp

/-- A check that passes exactly if `P`, and what comes after it. -/
theorem check_bind_eq_ok {x : Except ε Unit} {P : Prop}
    (hx : x = .ok () ↔ P) {f : Unit → Except ε β} {b : β} :
    (x >>= f) = .ok b ↔ P ∧ f () = .ok b := by
  rw [bind_eq_ok, ← hx]
  constructor
  · intro h
    obtain ⟨⟨⟩, hok, hf⟩ := h
    exact ⟨hok, hf⟩
  · intro h
    obtain ⟨hok, hf⟩ := h
    exact ⟨(), hok, hf⟩

/-- An invariant under which no step fails: the whole run succeeds and
ends in it. -/
theorem foldlM_total {f : σ → ι → Except ε σ} {P : σ → Prop}
    {l : List ι} {s : σ} (hs : P s)
    (hstep : ∀ s i, i ∈ l → P s → ∃ s', f s i = .ok s' ∧ P s') :
    ∃ s', l.foldlM f s = .ok s' ∧ P s' := by
  induction l generalizing s with
  | nil => exact ⟨s, rfl, hs⟩
  | cons i l ih =>
      obtain ⟨s', hf, hs'⟩ := hstep s i List.mem_cons_self hs
      obtain ⟨s'', hrun, hs''⟩ := ih hs'
        fun t j hj => hstep t j (List.mem_cons_of_mem i hj)
      refine ⟨s'', ?_, hs''⟩
      rw [List.foldlM_cons]
      exact bind_eq_ok.mpr ⟨s', hf, hrun⟩

/-- An invariant every successful step keeps holds wherever a successful
run ends. -/
theorem foldlM_invariant {f : σ → ι → Except ε σ} {P : σ → Prop}
    {l : List ι} {s s' : σ} (hrun : l.foldlM f s = .ok s') (hs : P s)
    (hstep : ∀ s i s', i ∈ l → P s → f s i = .ok s' → P s') : P s' := by
  induction l generalizing s with
  | nil =>
      cases hrun
      exact hs
  | cons i l ih =>
      rw [List.foldlM_cons] at hrun
      obtain ⟨t, hf, hrest⟩ := bind_eq_ok.mp hrun
      exact ih hrest (hstep s i t List.mem_cons_self hs hf)
        fun u j v hj => hstep u j v (List.mem_cons_of_mem i hj)

-- =================================================== what a step ends in

/-- The errors are of one kind and the answers of another. -/
def Meets (x : Except ε α) (E : ε → Prop) (P : α → Prop) : Prop :=
  match x with
  | .ok a => P a
  | .error e => E e

theorem Meets.bind {x : Except ε α} {f : α → Except ε β} {E : ε → Prop}
    {P : α → Prop} {Q : β → Prop} (hx : Meets x E P)
    (hf : ∀ a, P a → Meets (f a) E Q) : Meets (x >>= f) E Q := by
  cases x with
  | error e => exact hx
  | ok a => exact hf a hx

/-- What every step keeps, a run keeps, and its errors are a step's. -/
theorem foldlM_meets {f : σ → ι → Except ε σ} {E : ε → Prop} {P : σ → Prop}
    {l : List ι} {s : σ} (hs : P s)
    (hstep : ∀ s i, i ∈ l → P s → Meets (f s i) E P) :
    Meets (l.foldlM f s) E P := by
  induction l generalizing s with
  | nil => exact hs
  | cons i l ih =>
      rw [List.foldlM_cons]
      apply (hstep s i List.mem_cons_self hs).bind
      intro t ht
      exact ih ht fun u j hj => hstep u j (List.mem_cons_of_mem i hj)

-- ======================================================== step relations

/-- Runs of a labelled step relation. -/
inductive Run (step : σ → ι → σ → Prop) : σ → List ι → σ → Prop where
  | nil (s : σ) : Run step s [] s
  | cons {s t u : σ} {i : ι} {l : List ι} :
      step s i t → Run step t l u → Run step s (i :: l) u

theorem Run.mono {step step' : σ → ι → σ → Prop}
    (h : ∀ {s i t}, step s i t → step' s i t) {s u : σ} {l : List ι}
    (hrun : Run step s l u) : Run step' s l u := by
  induction hrun with
  | nil s => exact .nil s
  | cons hst _ ih => exact .cons (h hst) ih

/-- A run of a partial step function. -/
theorem Run.of_foldlM {f : σ → ι → Option σ} {s u : σ} {l : List ι}
    (h : l.foldlM f s = some u) :
    Run (fun s i t => f s i = some t) s l u := by
  induction l generalizing s with
  | nil =>
      cases h
      exact .nil _
  | cons i l ih =>
      rw [List.foldlM_cons] at h
      obtain ⟨t, hf, hrest⟩ := Option.bind_eq_some_iff.mp h
      exact .cons hf (ih hrest)

/-- One run behind another. -/
theorem Run.append {step : σ → ι → σ → Prop} {s t u : σ} {l l' : List ι}
    (h : Run step s l t) (h' : Run step t l' u) :
    Run step s (l ++ l') u := by
  induction h with
  | nil _ => exact h'
  | cons hst _ ih => exact .cons hst (ih h')

/-- Steps keep the invariant when their label meets `C` in the state it
is taken in; runs all of whose steps do keep it. -/
theorem Run.invariant_of {step : σ → ι → σ → Prop} {P : σ → Prop}
    {C : σ → ι → Prop}
    (hstep : ∀ {s i t}, P s → C s i → step s i t → P t)
    {s u : σ} {l : List ι}
    (h : Run (fun s i t => step s i t ∧ C s i) s l u) (hs : P s) : P u := by
  induction h with
  | nil _ => exact hs
  | cons hst _ ih => exact ih (hstep hs hst.2 hst.1)

/-- The induction rule: an invariant of every step is one of every
run. -/
theorem Run.invariant {step : σ → ι → σ → Prop} {P : σ → Prop}
    (hstep : ∀ {s i t}, P s → step s i t → P t)
    {s u : σ} {l : List ι} (h : Run step s l u) (hs : P s) : P u := by
  induction h with
  | nil _ => exact hs
  | cons hst _ ih => exact ih (hstep hs hst)

/-- The induction rule with a record of the labels taken so far. -/
theorem Run.invariant_fold {τ : Type _} {step : σ → ι → σ → Prop}
    {P : τ → σ → Prop} {record : τ → ι → τ}
    (hstep : ∀ {r s i t}, P r s → step s i t → P (record r i) t)
    {r : τ} {s u : σ} {l : List ι} (h : Run step s l u) (hs : P r s) :
    P (l.foldl record r) u := by
  induction h generalizing r with
  | nil _ => exact hs
  | cons hst _ ih => exact ih (hstep hs hst)

/-- Runs whose steps all meet `A` are runs whose steps all meet `B`, if
steps from states of the invariant that meet `A` meet `B`. -/
theorem Run.restrict_mono {step : σ → ι → σ → Prop} {P : σ → Prop}
    {A B : σ → ι → σ → Prop}
    (hstep : ∀ {s i t}, P s → step s i t → P t)
    (himp : ∀ {s i t}, P s → step s i t → A s i t → B s i t)
    {s u : σ} {l : List ι}
    (h : Run (fun s i t => step s i t ∧ A s i t) s l u) (hs : P s) :
    Run (fun s i t => step s i t ∧ B s i t) s l u := by
  induction h with
  | nil _ => exact .nil _
  | cons hst _ ih =>
      exact .cons ⟨hst.1, himp hs hst.1 hst.2⟩ (ih (hstep hs hst.1))

-- ================================================== total step functions

/-- `Q` holds of every step of the run, in the state it is taken in. -/
def Along (step : σ → ι → σ) (Q : σ → ι → Prop) : σ → List ι → Prop
  | _, [] => True
  | s, i :: l => Q s i ∧ Along step Q (step s i) l

instance decidableAlong {step : σ → ι → σ} {Q : σ → ι → Prop}
    [∀ s i, Decidable (Q s i)] : (s : σ) → (l : List ι) →
    Decidable (Along step Q s l)
  | _, [] => inferInstanceAs (Decidable True)
  | s, i :: l =>
      have : Decidable (Along step Q (step s i) l) := decidableAlong _ l
      inferInstanceAs (Decidable (Q s i ∧ Along step Q (step s i) l))

/-- Steps that meet `C` keep the invariant; so do runs whose steps all
do. -/
theorem along_invariant {step : σ → ι → σ} {P : σ → Prop}
    {C : σ → ι → Prop} (hstep : ∀ {s i}, P s → C s i → P (step s i))
    {s : σ} {l : List ι} (hs : P s) (h : Along step C s l) :
    P (l.foldl step s) := by
  induction l generalizing s with
  | nil => exact hs
  | cons i l ih =>
      obtain ⟨hc, hrest⟩ := h
      exact ih (hstep hs hc) hrest

/-- An invariant of every step is one of every run. -/
theorem foldl_invariant {step : σ → ι → σ} {P : σ → Prop}
    (hstep : ∀ {s i}, P s → P (step s i)) {s : σ} {l : List ι} (hs : P s) :
    P (l.foldl step s) := by
  induction l generalizing s with
  | nil => exact hs
  | cons i l ih => exact ih (hstep hs)

/-- What holds of every step from an invariant that every step keeps. -/
theorem along_of_invariant {step : σ → ι → σ} {P : σ → Prop}
    {Q : σ → ι → Prop} (hstep : ∀ {s i}, P s → P (step s i))
    (hQ : ∀ {s i}, P s → Q s i) {s : σ} {l : List ι} (hs : P s) :
    Along step Q s l := by
  induction l generalizing s with
  | nil => exact trivial
  | cons i l ih => exact ⟨hQ hs, ih (hstep hs)⟩

/-- Where the invariant holds, `Q` is `C`, and steps that meet `C` keep
the invariant: then `Q` is `C` along whole runs. -/
theorem along_iff {step : σ → ι → σ} {P : σ → Prop} {Q C : σ → ι → Prop}
    (hiff : ∀ {s i}, P s → (Q s i ↔ C s i))
    (hstep : ∀ {s i}, P s → C s i → P (step s i))
    {s : σ} {l : List ι} (hs : P s) :
    Along step Q s l ↔ Along step C s l := by
  induction l generalizing s with
  | nil => exact Iff.rfl
  | cons i l ih =>
      constructor
      · intro h
        obtain ⟨hq, hrest⟩ := h
        have hc := (hiff hs).mp hq
        exact ⟨hc, (ih (hstep hs hc)).mp hrest⟩
      · intro h
        obtain ⟨hc, hrest⟩ := h
        exact ⟨(hiff hs).mpr hc, (ih (hstep hs hc)).mpr hrest⟩

end ZeroDpi.Lib
