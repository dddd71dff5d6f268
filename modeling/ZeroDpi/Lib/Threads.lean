/-
Threads: tasks that run side by side on a shared state.

# Steps

A thread does one act, or one of its waits is answered, or it is dropped at
a wait, or it is over. What may be answered and where a thread may be
dropped is given by the platform. The state can ask for new threads, which
then start at once.

# What a thread does

`Follows G` says that every step of a program is one that `G` allows, in
whatever state the others left, with a tag of the thread's own that `G` may
read and change (a right that it holds, say). `Keeps V` says that no step
changes the view `V` of the state. Both are proved of a program by going
through it once; `Tagged` carries them through the steps of a pool.
-/
import ZeroDpi.Lib.Task

namespace ZeroDpi.Lib

/-- A thread with what it has left to do. -/
structure Thread (σ Q : Type) (R : Q → Type) (ι : Type) where
  name : ι
  rest : Task σ Q R Unit

/-- The shared state and the threads. -/
structure Pool (σ Q : Type) (R : Q → Type) (ι : Type) where
  shared : σ
  threads : List (Thread σ Q R ι)

/-- What threads run, and what their waits answer. -/
structure Platform (σ Q : Type) (R : Q → Type) (ι : Type) where
  program : ι → Task σ Q R Unit
  /-- The threads that the state asks for. -/
  forks : σ → List ι
  /-- The state when they have been started. -/
  forked : σ → σ
  answers : ι → σ → (q : Q) → R q → Bool
  drops : ι → σ → Q → Bool

/-- What the `n`-th thread does. -/
inductive Move (Q : Type) (R : Q → Type) where
  | act (n : Nat)
  | reply (n : Nat) (q : Q) (x : R q)
  | drop (n : Nat)
  | finish (n : Nat)

variable {σ Q ι τ ν α β : Type} {R : Q → Type}

/-- The thread that moves. -/
def Move.index : Move Q R → Nat
  | act n | reply n _ _ | drop n | finish n => n

variable (c : Platform σ Q R ι)

/-- A thread at its start. -/
def Platform.start (i : ι) : Thread σ Q R ι := ⟨i, c.program i⟩

/-- One move; `none` if the thread cannot make it. -/
def Pool.step [DecidableEq Q] (P : Pool σ Q R ι) :
    Move Q R → Option (Pool σ Q R ι)
  | .act n =>
      match P.threads[n]? with
      | some ⟨i, .act f next⟩ => some {
          shared := c.forked (f P.shared)
          threads := P.threads.set n ⟨i, next P.shared⟩
            ++ (c.forks (f P.shared)).map c.start }
      | _ => none
  | .reply n q x =>
      match P.threads[n]? with
      | some ⟨i, .await q' _ next⟩ =>
          if h : q = q' then
            if c.answers i P.shared q x then
              some { P with threads := P.threads.set n ⟨i, next (h ▸ x)⟩ }
            else none
          else none
      | _ => none
  | .drop n =>
      match P.threads[n]? with
      | some ⟨i, .await q dropped _⟩ =>
          if c.drops i P.shared q then
            some ⟨dropped P.shared, P.threads.eraseIdx n⟩
          else none
      | _ => none
  | .finish n =>
      match P.threads[n]? with
      | some ⟨_, .done _⟩ => some { P with threads := P.threads.eraseIdx n }
      | _ => none

/-- Everything a step can do. -/
inductive Stepped (P : Pool σ Q R ι) (n : Nat) (i : ι) :
    Task σ Q R Unit → Pool σ Q R ι → Prop where
  | act {f : σ → σ} {next : σ → Task σ Q R Unit} :
      Stepped P n i (.act f next)
        ⟨c.forked (f P.shared), P.threads.set n ⟨i, next P.shared⟩
          ++ (c.forks (f P.shared)).map c.start⟩
  | reply {q : Q} {dropped : σ → σ} {next : R q → Task σ Q R Unit} {x : R q} :
      c.answers i P.shared q x = true →
      Stepped P n i (.await q dropped next)
        { P with threads := P.threads.set n ⟨i, next x⟩ }
  | drop {q : Q} {dropped : σ → σ} {next : R q → Task σ Q R Unit} :
      c.drops i P.shared q = true →
      Stepped P n i (.await q dropped next)
        ⟨dropped P.shared, P.threads.eraseIdx n⟩
  | finish {u : Unit} :
      Stepped P n i (.done u) { P with threads := P.threads.eraseIdx n }

theorem Pool.step_cases [DecidableEq Q] {P P' : Pool σ Q R ι} {m : Move Q R}
    (h : P.step c m = some P') :
    ∃ th, P.threads[m.index]? = some th
      ∧ Stepped c P m.index th.name th.rest P' := by
  cases m with
  | act n =>
      simp only [Pool.step] at h
      split at h
      case h_1 i f next hth =>
        cases h
        exact ⟨_, hth, .act⟩
      case h_2 => cases h
  | reply n q x =>
      simp only [Pool.step] at h
      split at h
      case h_1 i q' dropped next hth =>
        split at h
        case isTrue hq =>
          subst hq
          split at h
          case isTrue hans =>
            cases h
            exact ⟨_, hth, .reply hans⟩
          case isFalse => cases h
        case isFalse => cases h
      case h_2 => cases h
  | drop n =>
      simp only [Pool.step] at h
      split at h
      case h_1 i q dropped next hth =>
        split at h
        case isTrue hdrop =>
          cases h
          exact ⟨_, hth, .drop hdrop⟩
        case isFalse => cases h
      case h_2 => cases h
  | finish n =>
      simp only [Pool.step] at h
      split at h
      case h_1 i u hth =>
        cases h
        exact ⟨_, hth, .finish⟩
      case h_2 => cases h

-- ========================================================= what is kept

namespace Task

/-- No step of the program changes `V`, and it has no guards. -/
def Keeps (V : σ → ν) : Task σ Q R α → Prop
  | done _ => True
  | act f next => ∀ s, V (f s) = V s ∧ Keeps V (next s)
  | await _ dropped next => (∀ s, dropped s = s) ∧ ∀ x, Keeps V (next x)

theorem Keeps.bind {V : σ → ν} {t : Task σ Q R α} {f : α → Task σ Q R β}
    (ht : Keeps V t) (hf : ∀ a, Keeps V (f a)) : Keeps V (t.bind f) := by
  induction t with
  | done a => exact hf a
  | act g next ih => exact fun s => ⟨(ht s).1, ih s (ht s).2⟩
  | await q dropped next ih => exact ⟨ht.1, fun x => ih x (ht.2 x)⟩

/-- Every step of the program, from the tag `t` on, is one of `G`; there are
no guards. -/
def Follows (G : τ → σ → τ → σ → Prop) :
    τ → Task σ Q R α → (τ → α → Prop) → Prop
  | t, done a, post => post t a
  | t, act f next, post =>
      ∀ s, ∃ t', G t s t' (f s) ∧ Follows G t' (next s) post
  | t, await _ dropped next, post =>
      (∀ s, dropped s = s) ∧ ∀ x, Follows G t (next x) post

theorem Follows.mono {G : τ → σ → τ → σ → Prop} {p : Task σ Q R α} {t : τ}
    {post post' : τ → α → Prop} (h : Follows G t p post)
    (himp : ∀ t a, post t a → post' t a) : Follows G t p post' := by
  induction p generalizing t with
  | done a => exact himp t a h
  | act f next ih =>
      intro s
      obtain ⟨t', hG, hnext⟩ := h s
      exact ⟨t', hG, ih s hnext⟩
  | await q dropped next ih => exact ⟨h.1, fun x => ih x (h.2 x)⟩

theorem Follows.bind {G : τ → σ → τ → σ → Prop} {p : Task σ Q R α}
    {f : α → Task σ Q R β} {t : τ} {mid : τ → α → Prop}
    {post : τ → β → Prop} (hp : Follows G t p mid)
    (hf : ∀ t a, mid t a → Follows G t (f a) post) :
    Follows G t (p.bind f) post := by
  induction p generalizing t with
  | done a => exact hf t a hp
  | act g next ih =>
      intro s
      obtain ⟨t', hG, hnext⟩ := hp s
      exact ⟨t', hG, ih s hnext⟩
  | await q dropped next ih => exact ⟨hp.1, fun x => ih x (hp.2 x)⟩

/-- A program that keeps what `G` is about follows it with its tag
untouched. -/
theorem Keeps.follows {V : σ → ν} {G : τ → σ → τ → σ → Prop}
    (hG : ∀ t s s', V s' = V s → G t s t s') {p : Task σ Q R α} (t : τ)
    (h : Keeps V p) : Follows G t p fun t' _ => t' = t := by
  induction p with
  | done a => rfl
  | act f next ih =>
      exact fun s => ⟨t, hG t s _ (h s).1, ih s (h s).2⟩
  | await q dropped next ih =>
      exact ⟨h.1, fun x => ih x (h.2 x)⟩

end Task

-- ============================================================ whole pools

/-- The threads with their tags, each of which follows its own `G`. -/
def Tagged (G : ι → τ → σ → τ → σ → Prop)
    (l : List (Thread σ Q R ι × τ)) (threads : List (Thread σ Q R ι)) : Prop :=
  l.map Prod.fst = threads
    ∧ ∀ p ∈ l, p.1.rest.Follows (G p.1.name) p.2 fun _ _ => True

/-- `rest` keeps all that `p` keeps. -/
def Task.Milder (rest p : Task σ Q R Unit) : Prop :=
  ∀ (ν : Type) (V : σ → ν), p.Keeps V → rest.Keeps V

/-- What becomes of the tags in a step of the `n`-th thread. -/
inductive Retagged (G : ι → τ → σ → τ → σ → Prop) (t₀ : τ) (P : Pool σ Q R ι)
    (n : Nat) (th : Thread σ Q R ι) (t : τ) (l : List (Thread σ Q R ι × τ)) :
    List (Thread σ Q R ι × τ) → σ → Prop where
  | act {t' : τ} {s' : σ} {rest : Task σ Q R Unit} :
      G th.name t P.shared t' s' → rest.Milder th.rest →
      Retagged G t₀ P n th t l
        (l.set n (⟨th.name, rest⟩, t')
          ++ (c.forks s').map fun i => (c.start i, t₀)) (c.forked s')
  | reply {rest : Task σ Q R Unit} : rest.Milder th.rest →
      Retagged G t₀ P n th t l (l.set n (⟨th.name, rest⟩, t)) P.shared
  | ended : Retagged G t₀ P n th t l (l.eraseIdx n) P.shared

theorem Tagged.getElem? {G : ι → τ → σ → τ → σ → Prop}
    {l : List (Thread σ Q R ι × τ)} {threads : List (Thread σ Q R ι)}
    (h : Tagged G l threads) {n : Nat} {th : Thread σ Q R ι}
    (hth : threads[n]? = some th) :
    ∃ t, l[n]? = some (th, t)
      ∧ th.rest.Follows (G th.name) t fun _ _ => True := by
  rw [← h.1, List.getElem?_map] at hth
  obtain ⟨⟨th', t⟩, hl, rfl⟩ := Option.map_eq_some_iff.mp hth
  exact ⟨t, hl, h.2 _ (List.mem_of_getElem? hl)⟩

/-- The rule for pools: tags go along with every step. -/
theorem Tagged.step [DecidableEq Q] {G : ι → τ → σ → τ → σ → Prop} {t₀ : τ}
    (hprogram : ∀ i, (c.program i).Follows (G i) t₀ fun _ _ => True)
    {P P' : Pool σ Q R ι} {m : Move Q R} (hstep : P.step c m = some P')
    {l : List (Thread σ Q R ι × τ)} (h : Tagged G l P.threads) :
    ∃ th t l', l[m.index]? = some (th, t) ∧ Tagged G l' P'.threads
      ∧ Retagged c G t₀ P m.index th t l l' P'.shared := by
  obtain ⟨th, hth, hcases⟩ := Pool.step_cases c hstep
  obtain ⟨t, hl, hfollows⟩ := h.getElem? hth
  obtain ⟨i, rest⟩ := th
  -- a thread that goes on with another tag
  have hset : ∀ {rest' : Task σ Q R Unit} {t' : τ},
      rest'.Follows (G i) t' (fun _ _ => True) →
      Tagged G (l.set m.index (⟨i, rest'⟩, t'))
        (P.threads.set m.index ⟨i, rest'⟩) := by
    intro rest' t' hrest
    refine ⟨by rw [List.map_set, h.1], fun p hp => ?_⟩
    rcases List.mem_or_eq_of_mem_set hp with hmem | rfl
    · exact h.2 p hmem
    · exact hrest
  have herase : Tagged G (l.eraseIdx m.index)
      (P.threads.eraseIdx m.index) :=
    ⟨by simp [List.eraseIdx_eq_take_drop_succ, ← h.1], fun p hp =>
      h.2 p (List.mem_of_mem_eraseIdx hp)⟩
  cases hcases with
  | @act f next =>
      obtain ⟨t', hG, hnext⟩ := hfollows P.shared
      refine ⟨_, t, l.set m.index (⟨i, next P.shared⟩, t')
        ++ (c.forks (f P.shared)).map fun j => (c.start j, t₀), hl, ?_,
        .act hG fun _ _ hkeeps => (hkeeps P.shared).2⟩
      obtain ⟨hmap, hall⟩ := hset hnext
      refine ⟨?_, fun p hp => ?_⟩
      · rw [List.map_append, hmap, List.map_map]
        rfl
      · rcases List.mem_append.mp hp with hp | hp
        · exact hall p hp
        · obtain ⟨j, -, rfl⟩ := List.mem_map.mp hp
          exact hprogram j
  | @reply q dropped next x hans =>
      exact ⟨_, t, _, hl, hset (hfollows.2 x),
        .reply fun _ _ hkeeps => hkeeps.2 x⟩
  | @drop q dropped next hdrop =>
      refine ⟨_, t, _, hl, herase, ?_⟩
      rw [show dropped P.shared = P.shared from hfollows.1 P.shared]
      exact .ended
  | finish => exact ⟨_, t, _, hl, herase, .ended⟩

/-- A thread that keeps `V` keeps it in its next step. -/
theorem Pool.step_keeps [DecidableEq Q] {V : σ → ν}
    (hforked : ∀ s, V (c.forked s) = V s)
    {P P' : Pool σ Q R ι} {m : Move Q R} (hstep : P.step c m = some P')
    {th : Thread σ Q R ι} (hth : P.threads[m.index]? = some th)
    (hkeeps : th.rest.Keeps V) : V P'.shared = V P.shared := by
  obtain ⟨th', hth', hcases⟩ := Pool.step_cases c hstep
  rw [hth] at hth'
  cases hth'
  obtain ⟨i, rest⟩ := th
  cases hcases with
  | act => rw [hforked, (hkeeps P.shared).1]
  | reply => rfl
  | drop => exact congrArg V (hkeeps.1 P.shared)
  | finish => rfl

end ZeroDpi.Lib
