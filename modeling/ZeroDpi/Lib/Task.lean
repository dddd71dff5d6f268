/-
Tasks of an asynchronous program: between two waits a task runs without
interruption, at a wait others run, and the task may be dropped there.

# Programs

`act` changes the shared state at once; what comes next may depend on the
state it found. `await` says what it waits for, and what the guards in
scope do to the state if the task is dropped there. `guarded` puts a guard
around a program: it runs at the end of the program, and at every wait at
which the program is dropped.

# Runs

A run is the answers the task got, in the order it got them, with what
others did at its waits. `C` is a condition on each of these in the state
in which it happens. A run ends with the task's result, or with `none`
when it was dropped. `Triple` is the usual judgement, with the run in the
postcondition; there is a rule for each way of putting programs together.
`Ensures` is the judgement that one condition on the items makes another.
-/

namespace ZeroDpi.Lib

/-- A program that reads and writes a state, and waits. -/
inductive Task (σ Q : Type) (R : Q → Type) (α : Type) where
  | done (a : α)
  | act (f : σ → σ) (next : σ → Task σ Q R α)
  | await (q : Q) (dropped : σ → σ) (next : R q → Task σ Q R α)

namespace Task

variable {σ Q ι α β : Type} {R : Q → Type}

/-- One after the other. -/
def bind : Task σ Q R α → (α → Task σ Q R β) → Task σ Q R β
  | done a, f => f a
  | act g next, f => act g fun s => bind (next s) f
  | await q dropped next, f => await q dropped fun x => bind (next x) f

/-- `g` runs when the program is over, however it ends. -/
def guarded (g : σ → σ) : Task σ Q R α → Task σ Q R α
  | done a => act g fun _ => done a
  | act f next => act f fun s => guarded g (next s)
  | await q dropped next =>
      await q (fun s => g (dropped s)) fun x => guarded g (next x)

/-- A change of the state. -/
def modify (f : σ → σ) : Task σ Q R Unit := act f fun _ => done ()

/-- The state as it is. -/
def look (f : σ → α) : Task σ Q R α := act id fun s => done (f s)

/-- A wait with no guard of its own. -/
def ask (q : Q) : Task σ Q R (R q) := await q id done

instance : Monad (Task σ Q R) where
  pure := done
  bind := bind

/-- What happens at a wait. -/
inductive Item (Q : Type) (R : Q → Type) (ι : Type) where
  | reply (q : Q) (x : R q)
  | other (i : ι)
  | dropped (q : Q)

/-- Its runs among others; a dropped task has no result. -/
inductive Runs (env : σ → ι → σ → Prop) (C : σ → Item Q R ι → Prop) :
    Task σ Q R α → σ → List (Item Q R ι) → Option α → σ → Prop where
  | done {a : α} {s : σ} : Runs env C (.done a) s [] (some a) s
  | act {f : σ → σ} {next : σ → Task σ Q R α} {s s' : σ}
      {l : List (Item Q R ι)} {r : Option α} :
      Runs env C (next s) (f s) l r s' → Runs env C (.act f next) s l r s'
  | reply {q : Q} {dropped : σ → σ} {next : R q → Task σ Q R α} {s s' : σ}
      {l : List (Item Q R ι)} {r : Option α} {x : R q} :
      C s (.reply q x) → Runs env C (next x) s l r s' →
      Runs env C (.await q dropped next) s (.reply q x :: l) r s'
  | other {q : Q} {dropped : σ → σ} {next : R q → Task σ Q R α} {s t s' : σ}
      {l : List (Item Q R ι)} {r : Option α} {i : ι} :
      C s (.other i) → env s i t →
      Runs env C (.await q dropped next) t l r s' →
      Runs env C (.await q dropped next) s (.other i :: l) r s'
  | dropped {q : Q} {dropped : σ → σ} {next : R q → Task σ Q R α} {s : σ} :
      C s (.dropped q) →
      Runs env C (.await q dropped next) s [.dropped q] none (dropped s)

variable {env : σ → ι → σ → Prop} {C : σ → Item Q R ι → Prop}

/-- From states in `P`, every run ends in `post`. -/
def Triple (env : σ → ι → σ → Prop) (C : σ → Item Q R ι → Prop)
    (P : σ → Prop) (t : Task σ Q R α)
    (post : List (Item Q R ι) → Option α → σ → Prop) : Prop :=
  ∀ s l r s', P s → Runs env C t s l r s' → post l r s'

-- ============================================================== the rules

variable {P P' : σ → Prop}
  {post post' : List (Item Q R ι) → Option α → σ → Prop}

theorem Triple.mono {t : Task σ Q R α} (h : Triple env C P t post)
    (hpre : ∀ s, P' s → P s)
    (hpost : ∀ l r s, post l r s → post' l r s) : Triple env C P' t post' :=
  fun s l r s' hs hrun => hpost _ _ _ (h s l r s' (hpre _ hs) hrun)

theorem triple_done {a : α} (h : ∀ s, P s → post [] (some a) s) :
    Triple env C P (done a) post := by
  intro s l r s' hs hrun
  cases hrun
  exact h s hs

theorem triple_act {f : σ → σ} {next : σ → Task σ Q R α}
    (h : ∀ s, P s → Triple env C (fun t => t = f s) (next s) post) :
    Triple env C P (act f next) post := by
  intro s l r s' hs hrun
  cases hrun with
  | act hrun => exact h s hs _ _ _ _ rfl hrun

/-- At a wait the precondition has to survive what others do. -/
theorem triple_await {q : Q} {dropped : σ → σ} {next : R q → Task σ Q R α}
    (hother : ∀ s i t, P s → C s (.other i) → env s i t → P t)
    (hpost : ∀ i l r s, post l r s → post (.other i :: l) r s)
    (hdropped : ∀ s, P s → C s (.dropped q) →
      post [.dropped q] none (dropped s))
    (hreply : ∀ x, Triple env C (fun s => P s ∧ C s (.reply q x)) (next x)
      fun l r s => post (.reply q x :: l) r s) :
    Triple env C P (await q dropped next) post := by
  intro s l r s' hs hrun
  generalize ht : await q dropped next = t at hrun
  induction hrun with
  | done => simp at ht
  | act hrun ih => simp at ht
  | reply hC hrun ih =>
      cases ht
      exact hreply _ _ _ _ _ ⟨hs, hC⟩ hrun
  | other hC henv hrun ih =>
      cases ht
      exact hpost _ _ _ _ (ih (hother _ _ _ hs hC henv) rfl)
  | dropped hC =>
      cases ht
      exact hdropped _ hs hC

/-- The run of a sequence is a run of its first part, and of its second
unless the first was dropped. -/
theorem runs_bind {t : Task σ Q R α} {f : α → Task σ Q R β} {s s' : σ}
    {l : List (Item Q R ι)} {r : Option β}
    (hrun : Runs env C (t.bind f) s l r s') :
    (r = none ∧ Runs env C t s l none s')
      ∨ ∃ a l₁ l₂ s₁, l = l₁ ++ l₂ ∧ Runs env C t s l₁ (some a) s₁
        ∧ Runs env C (f a) s₁ l₂ r s' := by
  induction t generalizing s l r s' with
  | done a => exact .inr ⟨a, [], l, s, rfl, .done, hrun⟩
  | act g next ih =>
      cases hrun with
      | act hrun =>
          rcases ih _ hrun with ⟨hr, h⟩ | ⟨a, l₁, l₂, s₁, hl, h₁, h₂⟩
          · exact .inl ⟨hr, .act h⟩
          · exact .inr ⟨a, l₁, l₂, s₁, hl, .act h₁, h₂⟩
  | await q dropped next ih =>
      generalize ht : (await q dropped next).bind f = t at hrun
      induction hrun with
      | done => simp [bind] at ht
      | act hrun ih => simp [bind] at ht
      | reply hC hrun =>
          cases ht
          rcases ih _ hrun with ⟨hr, h⟩ | ⟨a, l₁, l₂, s₁, hl, h₁, h₂⟩
          · exact .inl ⟨hr, .reply hC h⟩
          · exact .inr ⟨a, _ :: l₁, l₂, s₁, congrArg _ hl, .reply hC h₁, h₂⟩
      | other hC henv hrun ihother =>
          cases ht
          rcases ihother rfl with ⟨hr, h⟩ | ⟨a, l₁, l₂, s₁, hl, h₁, h₂⟩
          · exact .inl ⟨hr, .other hC henv h⟩
          · exact .inr ⟨a, _ :: l₁, l₂, s₁, congrArg _ hl,
              .other hC henv h₁, h₂⟩
      | dropped hC =>
          cases ht
          exact .inl ⟨rfl, .dropped hC⟩

theorem triple_bind {t : Task σ Q R α} {f : α → Task σ Q R β}
    {mid : List (Item Q R ι) → Option α → σ → Prop}
    {post : List (Item Q R ι) → Option β → σ → Prop}
    (ht : Triple env C P t mid)
    (hdropped : ∀ l s, mid l none s → post l none s)
    (hf : ∀ a l₁, Triple env C (fun s => mid l₁ (some a) s) (f a)
      fun l r s => post (l₁ ++ l) r s) :
    Triple env C P (t.bind f) post := by
  intro s l r s' hs hrun
  rcases runs_bind hrun with ⟨rfl, h⟩ | ⟨a, l₁, l₂, s₁, rfl, h₁, h₂⟩
  · exact hdropped _ _ (ht _ _ _ _ hs h)
  · exact hf a l₁ _ _ _ _ (ht _ _ _ _ hs h₁) h₂

/-- A guarded run is a run, with the guard's work at its end. -/
theorem runs_guarded {g : σ → σ} {t : Task σ Q R α} {s s' : σ}
    {l : List (Item Q R ι)} {r : Option α}
    (hrun : Runs env C (t.guarded g) s l r s') :
    ∃ s₁, Runs env C t s l r s₁ ∧ s' = g s₁ := by
  induction t generalizing s l r s' with
  | done a =>
      cases hrun with
      | act hrun =>
          cases hrun
          exact ⟨s, .done, rfl⟩
  | act f next ih =>
      cases hrun with
      | act hrun =>
          obtain ⟨s₁, h, hs'⟩ := ih _ hrun
          exact ⟨s₁, .act h, hs'⟩
  | await q dropped next ih =>
      generalize ht : (await q dropped next).guarded g = t at hrun
      induction hrun with
      | done => simp [guarded] at ht
      | act hrun ih => simp [guarded] at ht
      | reply hC hrun =>
          cases ht
          obtain ⟨s₁, h, hs'⟩ := ih _ hrun
          exact ⟨s₁, .reply hC h, hs'⟩
      | other hC henv hrun ihother =>
          cases ht
          obtain ⟨s₁, h, hs'⟩ := ihother rfl
          exact ⟨s₁, .other hC henv h, hs'⟩
      | dropped hC =>
          cases ht
          exact ⟨_, .dropped hC, rfl⟩

theorem triple_guarded {g : σ → σ} {t : Task σ Q R α}
    {mid : List (Item Q R ι) → Option α → σ → Prop}
    (ht : Triple env C P t mid)
    (hg : ∀ l r s, mid l r s → post l r (g s)) :
    Triple env C P (t.guarded g) post := by
  intro s l r s' hs hrun
  obtain ⟨s₁, h, rfl⟩ := runs_guarded hrun
  exact hg _ _ _ (ht _ _ _ _ hs h)

-- ================================================== runs under a condition

/-- From states in `P`, the items of a run that meet `C` meet `D`, and the
run ends in `post`. -/
def Ensures (env : σ → ι → σ → Prop) (C D : σ → Item Q R ι → Prop)
    (P : σ → Prop) (t : Task σ Q R α) (post : Option α → σ → Prop) : Prop :=
  ∀ s l r s', P s → Runs env C t s l r s' →
    Runs env D t s l r s' ∧ post r s'

variable {D : σ → Item Q R ι → Prop} {last : Option α → σ → Prop}

theorem ensures_done {a : α} (h : ∀ s, P s → last (some a) s) :
    Ensures env C D P (done a) last := by
  intro s l r s' hs hrun
  cases hrun
  exact ⟨.done, h s hs⟩

theorem ensures_act {f : σ → σ} {next : σ → Task σ Q R α}
    (h : ∀ s, P s → Ensures env C D (fun t => t = f s) (next s) last) :
    Ensures env C D P (act f next) last := by
  intro s l r s' hs hrun
  cases hrun with
  | act hrun =>
      obtain ⟨hrun', hlast⟩ := h s hs _ _ _ _ rfl hrun
      exact ⟨.act hrun', hlast⟩

/-- At a wait every item is judged in the state it happens in. -/
theorem ensures_await {q : Q} {dropped : σ → σ}
    {next : R q → Task σ Q R α}
    (hother : ∀ s i t, P s → C s (.other i) → env s i t →
      P t ∧ D s (.other i))
    (hdropped : ∀ s, P s → C s (.dropped q) →
      D s (.dropped q) ∧ last none (dropped s))
    (hreply : ∀ s x, P s → C s (.reply q x) → D s (.reply q x))
    (hnext : ∀ x, Ensures env C D P (next x) last) :
    Ensures env C D P (await q dropped next) last := by
  intro s l r s' hs hrun
  generalize ht : await q dropped next = t at hrun
  induction hrun with
  | done => simp at ht
  | act hrun ih => simp at ht
  | reply hC hrun ih =>
      cases ht
      obtain ⟨hrun', hlast⟩ := hnext _ _ _ _ _ hs hrun
      exact ⟨.reply (hreply _ _ hs hC) hrun', hlast⟩
  | other hC henv hrun ih =>
      cases ht
      obtain ⟨hP, hD⟩ := hother _ _ _ hs hC henv
      obtain ⟨hrun', hlast⟩ := ih hP rfl
      exact ⟨.other hD henv hrun', hlast⟩
  | dropped hC =>
      cases ht
      obtain ⟨hD, hlast⟩ := hdropped _ hs hC
      exact ⟨.dropped hD, hlast⟩

end Task
end ZeroDpi.Lib
