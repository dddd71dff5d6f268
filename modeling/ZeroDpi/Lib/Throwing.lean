/-
Computations on a state that may throw.

A throw leaves the state as it is at that point; `finally` runs however the
body ends. `Ends` is a postcondition of both endings, with a rule for each
way of putting computations together. `Frames` says that a computation
leaves alone what `f` observes, whichever way it ends, and `Preserves` that
it keeps what holds; `Answers` says what its answers are like.
-/

namespace ZeroDpi.Lib

/-- Code on a state that may end with an exception; what it wrote stays. -/
def Throwing (ε σ α : Type) := σ → Except ε α × σ

namespace Throwing

variable {ε σ α β γ : Type}

/-- An exception. -/
def throw (e : ε) : Throwing ε σ α := fun s => (.error e, s)

/-- A read. -/
def look (f : σ → α) : Throwing ε σ α := fun s => (.ok (f s), s)

/-- A write. -/
def update (f : σ → σ) : Throwing ε σ Unit := fun s => (.ok (), f s)

/-- An exception skips what comes next. -/
def bind (m : Throwing ε σ α) (f : α → Throwing ε σ β) : Throwing ε σ β :=
  fun s =>
    match m s with
    | (.ok a, s') => f a s'
    | (.error e, s') => (.error e, s')

instance : Monad (Throwing ε σ) where
  pure a := fun s => (.ok a, s)
  bind := bind

/-- `try`/`catch` of everything. -/
def tryCatch (m : Throwing ε σ α) (handler : ε → Throwing ε σ α) :
    Throwing ε σ α :=
  fun s =>
    match m s with
    | (.ok a, s') => (.ok a, s')
    | (.error e, s') => handler e s'

/-- `try`/`finally`, with an end that cannot throw. -/
def tryFinally (m : Throwing ε σ α) (f : σ → σ) : Throwing ε σ α :=
  fun s => ((m s).1, f (m s).2)

/-- A loop over a list. -/
def forEach (l : List α) (f : α → Throwing ε σ Unit) : Throwing ε σ Unit :=
  match l with
  | [] => pure ()
  | a :: rest => do
      f a
      forEach rest f

/-- `List.map`, with a body that may throw. -/
def mapEach (l : List α) (f : α → Throwing ε σ β) : Throwing ε σ (List β) :=
  match l with
  | [] => pure []
  | a :: rest => do
      let b ← f a
      let bs ← mapEach rest f
      pure (b :: bs)

-- ============================================================ both endings

/-- From `s`, an answer ends in `Q` and a throw in `E`. -/
def Ends (m : Throwing ε σ α) (s : σ) (Q : α → σ → Prop) (E : ε → σ → Prop) :
    Prop :=
  match m s with
  | (.ok a, s') => Q a s'
  | (.error e, s') => E e s'

variable {m : Throwing ε σ α} {s : σ} {Q Q' : α → σ → Prop}
  {E E' : ε → σ → Prop}

/-- The rules of `Ends`, one for each construct. -/
theorem ends_pure {a : α} (h : Q a s) :
    Ends (pure a : Throwing ε σ α) s Q E := h

theorem ends_throw {e : ε} (h : E e s) :
    Ends (throw e : Throwing ε σ α) s Q E := h

theorem ends_look {f : σ → α} (h : Q (f s) s) :
    Ends (look f : Throwing ε σ α) s Q E := h

theorem ends_update {f : σ → σ} {Q : Unit → σ → Prop} (h : Q () (f s)) :
    Ends (update f : Throwing ε σ Unit) s Q E := h

/-- The middle condition is where the first part ends. -/
theorem ends_bind {f : α → Throwing ε σ β} {R : β → σ → Prop}
    (h : Ends m s (fun a s' => Ends (f a) s' R E) E) :
    Ends (m >>= f) s R E := by
  unfold Ends at h ⊢
  show match bind m f s with
    | (.ok a, s') => R a s'
    | (.error e, s') => E e s'
  unfold bind
  generalize m s = ending at h ⊢
  obtain ⟨result, s'⟩ := ending
  cases result with
  | ok a => exact h
  | error e => exact h

/-- The handler starts where the exception was thrown. -/
theorem ends_tryCatch {handler : ε → Throwing ε σ α}
    (h : Ends m s Q fun e s' => Ends (handler e) s' Q E) :
    Ends (tryCatch m handler) s Q E := by
  unfold Ends at h ⊢
  unfold tryCatch
  generalize m s = ending at h ⊢
  obtain ⟨result, s'⟩ := ending
  cases result with
  | ok a => exact h
  | error e => exact h

/-- The cleanup runs in both cases. -/
theorem ends_tryFinally {f : σ → σ}
    (h : Ends m s (fun a s' => Q a (f s')) fun e s' => E e (f s')) :
    Ends (tryFinally m f) s Q E := by
  unfold Ends at h ⊢
  unfold tryFinally
  generalize m s = ending at h ⊢
  obtain ⟨result, s'⟩ := ending
  cases result with
  | ok a => exact h
  | error e => exact h

/-- Weaker postconditions. -/
theorem Ends.mono (h : Ends m s Q E) (hQ : ∀ a s', Q a s' → Q' a s')
    (hE : ∀ e s', E e s' → E' e s') : Ends m s Q' E' := by
  unfold Ends at h ⊢
  generalize m s = ending at h ⊢
  obtain ⟨result, s'⟩ := ending
  cases result with
  | ok a => exact hQ a s' h
  | error e => exact hE e s' h

/-- Two of them at once. -/
theorem Ends.and (h : Ends m s Q E) (h' : Ends m s Q' E') :
    Ends m s (fun a s' => Q a s' ∧ Q' a s') fun e s' => E e s' ∧ E' e s' := by
  unfold Ends at h h' ⊢
  generalize m s = ending at h h' ⊢
  obtain ⟨result, s'⟩ := ending
  cases result with
  | ok a => exact ⟨h, h'⟩
  | error e => exact ⟨h, h'⟩

/-- A postcondition read off a run. -/
theorem Ends.of_ok (h : Ends m s Q E) {a : α} {s' : σ}
    (hrun : m s = (.ok a, s')) : Q a s' := by
  unfold Ends at h
  rw [hrun] at h
  exact h

/-- What holds at an exception. -/
theorem Ends.of_error (h : Ends m s Q E) {e : ε} {s' : σ}
    (hrun : m s = (.error e, s')) : E e s' := by
  unfold Ends at h
  rw [hrun] at h
  exact h

-- ================================================================= answers

/-- An answer is one of `P`, whatever the state. -/
def Answers (P : α → Prop) (m : Throwing ε σ α) : Prop :=
  ∀ s a, (m s).1 = .ok a → P a

/-- The rules of `Answers`: a property of results, in any state. -/
theorem answers_pure {P : α → Prop} {a : α} (h : P a) :
    Answers P (pure a : Throwing ε σ α) := by
  intro s b hb
  cases hb
  exact h

/-- A bind whose first answer is known to be one of `P`. -/
theorem answers_bind_of {P : α → Prop} {R : β → Prop}
    {g : α → Throwing ε σ β} (hm : Answers P m)
    (h : ∀ a, P a → Answers R (g a)) : Answers R (m >>= g) := by
  intro s b hb
  replace hb : (bind m g s).1 = .ok b := hb
  unfold bind at hb
  split at hb
  case h_1 a s' hrun =>
    have ha : P a := hm s a (by rw [hrun])
    exact h a ha s' b hb
  case h_2 => cases hb

/-- Only the last part answers. -/
theorem answers_bind {P : β → Prop} {g : α → Throwing ε σ β}
    (h : ∀ a, Answers P (g a)) : Answers P (m >>= g) :=
  answers_bind_of (fun _ _ _ => trivial) fun a _ => h a

/-- All results of a loop. -/
theorem answers_mapEach {P : β → Prop} {l : List α}
    {g : α → Throwing ε σ β} (h : ∀ a ∈ l, Answers P (g a)) :
    Answers (fun bs => ∀ b ∈ bs, P b) (mapEach l g) := by
  induction l with
  | nil => exact answers_pure (by simp)
  | cons a rest ih =>
      refine answers_bind_of (h a List.mem_cons_self) fun b hb => ?_
      refine answers_bind_of (ih fun c hc => h c (List.mem_cons_of_mem a hc))
        fun bs hbs => answers_pure ?_
      intro c hc
      rcases List.mem_cons.mp hc with rfl | hc
      · exact hb
      · exact hbs c hc

/-- It may be assumed at the end. -/
theorem Answers.ends {P : α → Prop} (hP : Answers P m) (h : Ends m s Q E) :
    Ends m s (fun a s' => P a ∧ Q a s') E := by
  have hs := hP s
  unfold Ends at h ⊢
  generalize m s = ending at h hs ⊢
  obtain ⟨result, s'⟩ := ending
  cases result with
  | ok a => exact ⟨hs a rfl, h⟩
  | error e => exact h

-- ================================================================== frames

/-- What `f` observes stays as it is. -/
def Frames (f : σ → γ) (m : Throwing ε σ α) : Prop :=
  ∀ s, f (m s).2 = f s

section Frames

variable {f : σ → γ}

/-- The rules of `Frames`: a view that no path changes, not even one with an
exception. -/
theorem frames_pure (a : α) : Frames f (pure a : Throwing ε σ α) :=
  fun _ => rfl

theorem frames_throw (e : ε) : Frames f (throw e : Throwing ε σ α) :=
  fun _ => rfl

theorem frames_look (g : σ → α) : Frames f (look g : Throwing ε σ α) :=
  fun _ => rfl

theorem frames_update {g : σ → σ} (h : ∀ s, f (g s) = f s) :
    Frames f (update g : Throwing ε σ Unit) :=
  h

/-- A bind whose first answer is known to be one of `P`. -/
theorem frames_bind_of {P : α → Prop} {g : α → Throwing ε σ β}
    (hP : Answers P m) (hm : Frames f m) (hg : ∀ a, P a → Frames f (g a)) :
    Frames f (m >>= g) := by
  intro s
  have hs := hm s
  have ha := hP s
  show f (bind m g s).2 = f s
  unfold bind
  generalize m s = ending at hs ha ⊢
  obtain ⟨result, s'⟩ := ending
  cases result with
  | ok a => exact (hg a (ha a rfl) s').trans hs
  | error e => exact hs

/-- Code in sequence. -/
theorem frames_bind {g : α → Throwing ε σ β} (hm : Frames f m)
    (hg : ∀ a, Frames f (g a)) : Frames f (m >>= g) :=
  frames_bind_of (fun _ _ _ => trivial) hm fun a _ => hg a

/-- Cleanups included. -/
theorem frames_tryFinally {g : σ → σ} (hm : Frames f m)
    (hg : ∀ s, f (g s) = f s) : Frames f (tryFinally m g) :=
  fun s => (hg _).trans (hm s)

/-- And handlers. -/
theorem frames_tryCatch {handler : ε → Throwing ε σ α} (hm : Frames f m)
    (hh : ∀ e, Frames f (handler e)) : Frames f (tryCatch m handler) := by
  intro s
  have hs := hm s
  unfold tryCatch
  generalize m s = ending at hs ⊢
  obtain ⟨result, s'⟩ := ending
  cases result with
  | ok a => exact hs
  | error e => exact (hh e s').trans hs

/-- Loops. -/
theorem frames_forEach {l : List β} {g : β → Throwing ε σ Unit}
    (h : ∀ b ∈ l, Frames f (g b)) : Frames f (forEach l g) := by
  induction l with
  | nil => exact frames_pure ()
  | cons b rest ih =>
      refine frames_bind (h b List.mem_cons_self) fun _ => ?_
      exact ih fun c hc => h c (List.mem_cons_of_mem b hc)

/-- With results. -/
theorem frames_mapEach {l : List α} {g : α → Throwing ε σ β}
    (h : ∀ a ∈ l, Frames f (g a)) : Frames f (mapEach l g) := by
  induction l with
  | nil => exact frames_pure []
  | cons a rest ih =>
      refine frames_bind (h a List.mem_cons_self) fun _ => ?_
      refine frames_bind ?_ fun _ => frames_pure _
      exact ih fun c hc => h c (List.mem_cons_of_mem a hc)

/-- A computation that frames `f` ends with what `f` observed before. -/
theorem Frames.ends (h : Frames f m) (s : σ) :
    Ends m s (fun _ s' => f s' = f s) fun _ s' => f s' = f s := by
  have hs := h s
  unfold Ends
  generalize m s = ending at hs ⊢
  obtain ⟨result, s'⟩ := ending
  cases result with
  | ok a => exact hs
  | error e => exact hs

end Frames

-- ============================================================ what is kept

/-- What holds before holds behind it, whichever way it ends. -/
def Preserves (P : σ → Prop) (m : Throwing ε σ α) : Prop :=
  ∀ s, P s → P (m s).2

section Preserves

variable {P : σ → Prop}

/-- A view that is not changed keeps its value. -/
theorem preserves_of_frames {f : σ → γ} {v : γ} (h : Frames f m) :
    Preserves (fun s => f s = v) m :=
  fun s hs => (h s).trans hs

/-- The rules of `Preserves`, where the first result has a property. -/
theorem preserves_bind_of {R : α → Prop} {g : α → Throwing ε σ β}
    (hR : Answers R m) (hm : Preserves P m)
    (hg : ∀ a, R a → Preserves P (g a)) : Preserves P (m >>= g) := by
  intro s hs
  have hafter := hm s hs
  have ha := hR s
  show P (bind m g s).2
  unfold bind
  generalize m s = ending at hafter ha ⊢
  obtain ⟨result, s'⟩ := ending
  cases result with
  | ok a => exact hg a (ha a rfl) s' hafter
  | error e => exact hafter

/-- Code in sequence. -/
theorem preserves_bind {g : α → Throwing ε σ β} (hm : Preserves P m)
    (hg : ∀ a, Preserves P (g a)) : Preserves P (m >>= g) :=
  preserves_bind_of (fun _ _ _ => trivial) hm fun a _ => hg a

/-- What is looked at is known of the state it is looked at in. -/
theorem preserves_look_bind {f : σ → α} {g : α → Throwing ε σ β}
    (h : ∀ s, P s → P (g (f s) s).2) : Preserves P (look f >>= g) :=
  h

/-- Loops. -/
theorem preserves_forEach {l : List β} {g : β → Throwing ε σ Unit}
    (h : ∀ b ∈ l, Preserves P (g b)) : Preserves P (forEach l g) := by
  induction l with
  | nil => exact fun _ hs => hs
  | cons b rest ih =>
      refine preserves_bind (h b List.mem_cons_self) fun _ => ?_
      exact ih fun c hc => h c (List.mem_cons_of_mem b hc)

/-- As a condition at either end. -/
theorem Preserves.ends (h : Preserves P m) (hs : P s) :
    Ends m s (fun _ s' => P s') fun _ s' => P s' := by
  have hafter := h s hs
  unfold Ends
  generalize m s = ending at hafter ⊢
  obtain ⟨result, s'⟩ := ending
  cases result with
  | ok a => exact hafter
  | error e => exact hafter

end Preserves

end Throwing

end ZeroDpi.Lib
