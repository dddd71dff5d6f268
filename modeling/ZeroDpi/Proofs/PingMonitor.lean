/-
The monitor's measurements are never stale.

# The invariant

Two counters say whether a probe is stale. The pool's generation counts the
replacements since the round's snapshot (`Replaced`), and the version of the
binding the values sent since `mark_current` (`Sent`). A probe is started
behind both, so its stamp lies between theirs and the present (`Started`).
An update goes through only where neither counter has moved, and there the
probe's stamp is the present one.

The generation wraps: that it has not moved says only that the replacements
since the snapshot are a multiple of 2^64.
-/
import ZeroDpi.PingMonitor
import ZeroDpi.Proofs.TargetPool

namespace ZeroDpi.PingMonitor

open Lib TargetPool

variable {B : Type} {limit : Nat} {s s' : System B} {r : Round B}

-- ======================================================== the two counters

/-- `n` replacements ago the generation was `g`. -/
structure Replaced (g₀ : UInt64) (n₀ : Nat) (g : UInt64) (n : Nat) : Prop where
  le : n₀ ≤ n
  generation : g = g₀ + UInt64.ofNat (n - n₀)

/-- The binding had the version `v` and the value `b`. -/
structure Sent (v : Nat) (b : B) (w : Watch B) : Prop where
  le : v ≤ w.version
  value : v = w.version → b = w.value

/-- No replacement. -/
theorem Replaced.refl (g : UInt64) (n : Nat) : Replaced g n g n where
  le := Nat.le_refl n
  generation := by simp

/-- Some more. -/
theorem Replaced.more {g₀ g : UInt64} {n₀ n : Nat} (h : Replaced g₀ n₀ g n)
    (m : Nat) : Replaced g₀ n₀ (g + UInt64.ofNat m) (n + m) where
  le := Nat.le_add_right_of_le h.le
  generation := by
    rw [h.generation, UInt64.add_assoc, ← UInt64.ofNat_add]
    have hsub : n - n₀ + m = n + m - n₀ := (Nat.sub_add_comm h.le).symm
    rw [hsub]

/-- Fewer than 2^64 replacements do not bring a generation back. -/
theorem Replaced.same {g₀ g : UInt64} {n₀ n : Nat} (h : Replaced g₀ n₀ g n)
    (hsame : g = g₀) (hfew : n < n₀ + 2 ^ 64) : n = n₀ := by
  have hzero : UInt64.ofNat (n - n₀) = 0 := by
    have hg := h.generation
    rw [hsame] at hg
    grind
  have hmod : (n - n₀) % 2 ^ 64 = 0 := by
    have := congrArg UInt64.toNat hzero
    simpa using this
  have hle := h.le
  omega

/-- The last value of a watch was sent. -/
theorem Sent.refl (w : Watch B) : Sent w.version w.value w :=
  ⟨Nat.le_refl _, fun _ => rfl⟩

/-- And stays sent when another is. -/
theorem Sent.set {v : Nat} {b : B} {w : Watch B} (h : Sent v b w)
    (value : B) : Sent v b (w.set value) := by
  unfold Watch.set
  split
  · exact h
  · refine ⟨Nat.le_succ_of_le h.le, ?_⟩
    intro heq
    have hle : v ≤ w.version := h.le
    have heq : v = w.version + 1 := heq
    omega

/-- Or when the watch is closed. -/
theorem Sent.close {v : Nat} {b : B} {w : Watch B} (h : Sent v b w) :
    Sent v b w.close :=
  ⟨h.le, h.value⟩

/-- All that `update_ping` can do. -/
theorem updatePing_cases {pool pool' : TargetPool} {generation : UInt64}
    {target : Target} {ping : Option Duration}
    (h : pool.updatePing generation target ping = .ok pool') :
    pool' = pool ∨ (pool.state.generation = generation ∧ ∃ i j,
      pool.state.members.findIdx? (fun m => m.key = target.key) = some j
        ∧ pool' = { pool with
          state.members := pool.state.members.modify j (.measured ping)
          state.history := pool.state.history.modify i (.measured ping) }) := by
  unfold TargetPool.updatePing at h
  split at h
  case isFalse =>
    cases h
    exact .inl rfl
  case isTrue hgeneration =>
    split at h
    case h_1 =>
      cases h
      exact .inl rfl
    case h_2 j hj =>
      split at h
      case h_1 => cases h
      case h_2 i hi =>
        split at h
        · cases h
          exact .inr ⟨hgeneration, i, j, hj, rfl⟩
        · cases h

/-- How a call moves the generation. -/
theorem step_generation {shared shared' : Shared} {seen : List TargetKey}
    (h : TargetPool.Inv shared seen) {call : Call}
    (hstep : shared.step call = .ok shared') :
    shared'.pool.state.generation
      = shared.pool.state.generation + UInt64.ofNat (replacesOf call) := by
  cases call with
  | replace targets =>
      by_cases hne : targets = []
      · subst hne
        cases hstep
        simp [replacesOf]
      · obtain ⟨changed, pool', hreplace, -, -, -, hgeneration⟩ :=
          h.ledger.replace hne
        simp only [Shared.step, hreplace] at hstep
        cases hstep
        simpa [replacesOf, hne] using hgeneration
  | acquire =>
      obtain ⟨⟨lease, pool⟩, hacquire, hok⟩ := bind_eq_ok.mp hstep
      cases hok
      obtain ⟨⟨index, random⟩, -, hrest⟩ := bind_eq_ok.mp hacquire
      simp only at hrest
      split at hrest
      · cases hrest
      · cases hrest
        simp [replacesOf]
  | drop i =>
      simp only [Shared.step] at hstep
      split at hstep
      all_goals
        cases hstep
        simp [replacesOf, TargetPool.dropLease]
  | updatePing generation target ping =>
      obtain ⟨pool, hupdate, hok⟩ := bind_eq_ok.mp hstep
      cases hok
      obtain rfl | ⟨-, i, j, -, rfl⟩ := updatePing_cases hupdate
      all_goals simp [replacesOf]
  | relayed i c2s s2c =>
      simp only [Shared.step] at hstep
      split at hstep
      all_goals
        cases hstep
        simp [replacesOf, TargetPool.relayed]

-- ========================================================== the invariant

/-- A round's snapshot, some replacements later. -/
structure Taken (s : System B) (snapshot : Snapshot) : Prop where
  number : snapshot.round + 1 = s.rounds
  distinct : (snapshot.targets.map Target.key).Nodup
  replaced : Replaced snapshot.generation snapshot.replaces
    s.shared.pool.state.generation s.replaces

/-- A probe of the round, started between its beginning and now. -/
structure Started (s : System B) (r : Round B) (task : Task B) : Prop where
  round : task.round = r.snapshot.round
  network : task.network = r.network
  since : r.snapshot.replaces ≤ task.started.replaces
  replaces : task.started.replaces ≤ s.replaces
  marked : r.seen ≤ task.started.version
  version : task.started.version ≤ s.watch.version

/-- What holds of a round that is running. -/
structure InRound (s : System B) (r : Round B) : Prop where
  taken : Taken s r.snapshot
  sent : Sent r.seen r.network s.watch
  split : r.snapshot.targets = r.probed ++ r.remaining
  tasks : ∀ task ∈ s.tasks, Started s r task
  bounded : s.tasks.length ≤ max s.limit 1

/-- The phase and what is known in it. -/
def PhaseInv (s : System B) : Phase B → Prop
  | .top | .sleeping | .aborted => s.tasks = []
  | .marking snapshot => s.tasks = [] ∧ Taken s snapshot
  | .spawning r => InRound s r
  | .joining r => InRound s r
      ∧ (r.remaining = [] ∨ s.tasks.length = max s.limit 1)
  | .joined r task _ => InRound s r ∧ Started s r task
  | .holding r task _ =>
      InRound s r ∧ Started s r task ∧ s.watch.version = r.seen

/-- Where fewer than 2^64 replacements were made since the snapshot, an
update that goes through is one of a probe started after the last of them;
and every one is of the binding's present version. -/
structure Update.Fresh (u : Update B) : Prop where
  replaces : u.before.state.generation = u.snapshot.generation →
    u.stamp.replaces < u.snapshot.replaces + 2 ^ 64 →
      u.task.started.replaces = u.stamp.replaces
  version : u.task.started.version = u.stamp.version
  network : u.task.network = u.binding
  /-- A member it changes is the one that was probed. -/
  member : ∀ j : Nat, u.after.state.members[j]? ≠ u.before.state.members[j]? →
    u.before.state.generation = u.snapshot.generation
      ∧ ∃ m : TargetPool.Member, u.before.state.members[j]? = some m
        ∧ m.key = u.task.target.key
        ∧ u.after.state.members[j]? = some (m.measured u.ping)

/-- Each of the snapshot's members was probed exactly once. -/
structure Round.Complete (r : Round B) : Prop where
  probed : r.probed = r.snapshot.targets
  distinct : (r.probed.map Target.key).Nodup

/-- What holds in every state. -/
structure Inv (limit : Nat) (s : System B) : Prop where
  limit : s.limit = limit
  pool : ∃ seen, TargetPool.Inv s.shared seen
  phase : PhaseInv s s.phase
  finished : ∀ r ∈ s.finished, r.Complete
  updates : ∀ u ∈ s.updates, u.Fresh

-- ======================================================= the others' steps

/-- What anybody but the monitor can do to what the monitor relies on. -/
structure Moved (s s' : System B) : Prop where
  limit : s'.limit = s.limit
  rounds : s'.rounds = s.rounds
  replaced : ∃ m, s'.replaces = s.replaces + m
    ∧ s'.shared.pool.state.generation
      = s.shared.pool.state.generation + UInt64.ofNat m
  sent : ∀ {v : Nat} {b : B}, Sent v b s.watch → Sent v b s'.watch
  length : s'.tasks.length = s.tasks.length
  tasks : ∀ task' ∈ s'.tasks, ∃ task ∈ s.tasks, task'.round = task.round
    ∧ task'.network = task.network ∧ task'.started = task.started

namespace Moved

/-- Nothing moved. -/
theorem refl (s : System B) : Moved s s where
  limit := rfl
  rounds := rfl
  replaced := ⟨0, rfl, by simp⟩
  sent h := h
  length := rfl
  tasks task h := ⟨task, h, rfl, rfl, rfl⟩

/-- Replacements are counted up. -/
theorem replaces_le (h : Moved s s') : s.replaces ≤ s'.replaces := by
  obtain ⟨m, hreplaces, -⟩ := h.replaced
  omega

/-- So are the watch's values. -/
theorem version_le (h : Moved s s') : s.watch.version ≤ s'.watch.version :=
  (h.sent (Sent.refl s.watch)).le

/-- A snapshot that was taken was taken. -/
theorem taken (h : Moved s s') {snapshot : Snapshot}
    (ht : Taken s snapshot) : Taken s' snapshot where
  number := by rw [h.rounds, ht.number]
  distinct := ht.distinct
  replaced := by
    obtain ⟨m, hreplaces, hgeneration⟩ := h.replaced
    rw [hreplaces, hgeneration]
    exact ht.replaced.more m

/-- A task that was started was started. -/
theorem started (h : Moved s s') {task task' : Task B}
    (hs : Started s r task) (hround : task'.round = task.round)
    (hnetwork : task'.network = task.network)
    (hstarted : task'.started = task.started) : Started s' r task' where
  round := by rw [hround, hs.round]
  network := by rw [hnetwork, hs.network]
  since := by
    rw [hstarted]
    exact hs.since
  replaces := by
    rw [hstarted]
    exact Nat.le_trans hs.replaces h.replaces_le
  marked := by
    rw [hstarted]
    exact hs.marked
  version := by
    rw [hstarted]
    exact Nat.le_trans hs.version h.version_le

/-- So a round goes on. -/
theorem inRound (h : Moved s s') (hr : InRound s r) : InRound s' r where
  taken := h.taken hr.taken
  sent := h.sent hr.sent
  split := hr.split
  tasks := by
    intro task' hmem
    obtain ⟨task, htask, hround, hnetwork, hstarted⟩ := h.tasks task' hmem
    exact h.started (hr.tasks task htask) hround hnetwork hstarted
  bounded := by
    rw [h.length, h.limit]
    exact hr.bounded

/-- In every phase; a ping that is held is valid until the watch changes. -/
theorem phaseInv (h : Moved s s') {phase : Phase B} (hp : PhaseInv s phase)
    (hguard : ∀ r task ping, phase = .holding r task ping →
      s'.watch.version = s.watch.version) : PhaseInv s' phase := by
  have hnil : s.tasks = [] → s'.tasks = [] := by
    intro hempty
    apply List.eq_nil_of_length_eq_zero
    rw [h.length, hempty, List.length_nil]
  cases phase with
  | top => exact hnil hp
  | sleeping => exact hnil hp
  | aborted => exact hnil hp
  | marking snapshot => exact ⟨hnil hp.1, h.taken hp.2⟩
  | spawning r => exact h.inRound hp
  | joining r =>
      refine ⟨h.inRound hp.1, ?_⟩
      rw [h.length, h.limit]
      exact hp.2
  | joined r task ping =>
      exact ⟨h.inRound hp.1, h.started hp.2 rfl rfl rfl⟩
  | holding r task ping =>
      obtain ⟨hr, hs, hversion⟩ := hp
      refine ⟨h.inRound hr, h.started hs rfl rfl rfl, ?_⟩
      rw [hguard r task ping rfl, hversion]

end Moved

/-- A task's end moves nothing. -/
theorem ends_keeps (f : Task B → Task B)
    (hf : ∀ task, (f task).round = task.round
      ∧ (f task).network = task.network ∧ (f task).started = task.started)
    (task : Task B) : (Task.ends f task).round = task.round
      ∧ (Task.ends f task).network = task.network
      ∧ (Task.ends f task).started = task.started := by
  unfold Task.ends
  split
  · exact hf task
  · exact ⟨rfl, rfl, rfl⟩

/-- A task that ends moves nothing else. -/
theorem moved_ends (s : System B) (i : Nat) (f : Task B → Task B)
    (hf : ∀ task, (f task).round = task.round
      ∧ (f task).network = task.network ∧ (f task).started = task.started) :
    Moved s { s with tasks := s.tasks.modify i (Task.ends f) } where
  limit := rfl
  rounds := rfl
  replaced := ⟨0, rfl, by simp⟩
  sent h := h
  length := List.length_modify _ _ _
  tasks := by
    intro task' hmem
    obtain ⟨j, hj⟩ := List.getElem?_of_mem hmem
    rw [List.getElem?_modify] at hj
    obtain ⟨task, htask, rfl⟩ := Option.map_eq_some_iff.mp hj
    refine ⟨task, List.mem_of_getElem? htask, ?_⟩
    by_cases hij : i = j
    · simpa [hij] using ends_keeps f hf task
    · simp [hij]

/-- Nor does a change of the phase. -/
theorem moved_phase (s : System B) (phase : Phase B) :
    Moved s { s with phase := phase } :=
  { Moved.refl s with }

/-- A new value of the watch. -/
theorem moved_set (s : System B) (value : B) :
    Moved s { s with watch := s.watch.set value } :=
  { Moved.refl s with sent := fun h => h.set value }

/-- The end of its values. -/
theorem moved_close (s : System B) :
    Moved s { s with watch := s.watch.close } :=
  { Moved.refl s with sent := fun h => h.close }

/-- A call to the pool. -/
theorem moved_call {shared' : Shared} {seen : List TargetKey} {call : Call}
    (h : TargetPool.Inv s.shared seen)
    (hstep : s.shared.step call = .ok shared') :
    Moved s { s with
      shared := shared'
      replaces := s.replaces + replacesOf call } :=
  { Moved.refl s with
    replaced := ⟨replacesOf call, rfl, step_generation h hstep⟩ }

-- ====================================================== the monitor's steps

namespace InRound

/-- The tasks of the round are all there are. -/
theorem joinSet (h : InRound s r) : s.joinSet r = s.tasks := by
  apply List.filter_eq_self.mpr
  intro task hmem
  simpa using (h.tasks task hmem).round

/-- `spawn` starts the next probe or goes on to wait. -/
theorem spawn (h : InRound s r) : PhaseInv (s.spawn r) (s.spawn r).phase := by
  unfold System.spawn
  rw [h.joinSet]
  split
  case isFalse hfull =>
    have hbounded := h.bounded
    exact ⟨(moved_phase s _).inRound h, .inr (by simp only; omega)⟩
  case isTrue hroom =>
    split
    case h_1 hnone => exact ⟨(moved_phase s _).inRound h, .inl hnone⟩
    case h_2 target rest hnext =>
      refine {
        taken := { h.taken with }
        sent := h.sent
        split := ?_
        tasks := ?_
        bounded := ?_ }
      · rw [h.split, hnext]
        simp
      · intro task hmem
        rcases List.mem_append.mp hmem with hold | hnew
        · exact { h.tasks task hold with }
        · rw [List.mem_singleton.mp hnew]
          exact {
            round := rfl
            network := rfl
            since := h.taken.replaced.le
            replaces := Nat.le_refl _
            marked := h.sent.le
            version := Nat.le_refl _ }
      · rw [List.length_append, List.length_singleton]
        exact hroom

/-- A joined task is out of the set. -/
theorem eraseIdx (h : InRound s r) (i : Nat) (phase : Phase B) :
    InRound { s with tasks := s.tasks.eraseIdx i, phase := phase } r where
  taken := { h.taken with }
  sent := h.sent
  split := h.split
  tasks task hmem :=
    { h.tasks task (List.mem_of_mem_eraseIdx hmem) with }
  bounded := by
    refine Nat.le_trans ?_ h.bounded
    exact (List.eraseIdx_sublist s.tasks i).length_le

/-- A round ends when all of its probes have. -/
theorem complete (h : InRound s r) (hrest : r.remaining = []) :
    r.Complete := by
  have hsplit : r.snapshot.targets = r.probed := by
    rw [h.split, hrest, List.append_nil]
  refine ⟨hsplit.symm, ?_⟩
  rw [← hsplit]
  exact h.taken.distinct

/-- An update is one of a probe that is not stale. -/
theorem fresh (h : InRound s r) {task : Task B} (ht : Started s r task)
    (hversion : s.watch.version = r.seen) {ping : Option Duration}
    {pool' : TargetPool} (hupdate : s.shared.pool.updatePing
      r.snapshot.generation task.target ping = .ok pool') :
    Update.Fresh {
      snapshot := r.snapshot
      task := task
      ping := ping
      before := s.shared.pool
      after := pool'
      binding := s.watch.value
      stamp := s.stamp } where
  replaces := by
    intro hsame hfew
    -- the stamp lies between the snapshot and now, which are the same
    have hnow : s.replaces = r.snapshot.replaces :=
      h.taken.replaced.same hsame hfew
    have hsince := ht.since
    have hreplaces := ht.replaces
    show task.started.replaces = s.replaces
    omega
  version := by
    have hmarked := ht.marked
    have hle := ht.version
    show task.started.version = s.watch.version
    omega
  network := by
    show task.network = s.watch.value
    rw [ht.network]
    exact h.sent.value hversion.symm
  member := by
    intro j hchanged
    simp only at hchanged ⊢
    obtain rfl | ⟨hsame, i, k, hk, rfl⟩ := updatePing_cases hupdate
    · exact absurd rfl hchanged
    · obtain ⟨hlt, hkey, -⟩ := List.findIdx?_eq_some_iff_getElem.mp hk
      have hj : k = j := by
        by_contra hne
        apply hchanged
        simp [hne]
      subst hj
      refine ⟨hsame, _, List.getElem?_eq_getElem hlt, by simpa using hkey, ?_⟩
      simp [List.getElem?_eq_getElem hlt]

end InRound

/-- The snapshot's keys are those of the members. -/
theorem Inv.takeSnapshot (h : Inv limit s) (phase : Phase B) :
    Taken { s with phase := phase, rounds := s.rounds + 1 }
      s.takeSnapshot where
  number := rfl
  distinct := by
    obtain ⟨seen, hpool⟩ := h.pool
    have hkeys : s.takeSnapshot.targets.map Target.key
        = s.shared.pool.state.members.map Member.key := by
      show (s.shared.pool.state.members.map (·.target)).map Target.key = _
      rw [List.map_map]
      rfl
    rw [hkeys]
    exact hpool.distinct
  replaced := Replaced.refl _ _

/-- A step that makes no update and finishes no round. -/
theorem Inv.at (h : Inv limit s) {tasks : List (Task B)} {rounds : Nat}
    {phase : Phase B}
    (hphase : PhaseInv { s with
      tasks := tasks
      rounds := rounds
      phase := phase } phase) :
    Inv limit { s with
      tasks := tasks
      rounds := rounds
      phase := phase } where
  limit := h.limit
  pool := h.pool
  phase := hphase
  finished := h.finished
  updates := h.updates

/-- `spawn` changes the tasks and the phase only. -/
theorem spawn_eq (s : System B) (r : Round B) : ∃ tasks phase,
    s.spawn r = { s with tasks := tasks, phase := phase } := by
  unfold System.spawn
  split
  · split
    · exact ⟨s.tasks, _, rfl⟩
    · exact ⟨_, _, rfl⟩
  · exact ⟨s.tasks, _, rfl⟩

/-- A round starts a task. -/
theorem Inv.spawn (h : Inv limit s) (hr : InRound s r) :
    Inv limit (s.spawn r) := by
  have hphase := hr.spawn
  obtain ⟨tasks, phase, hspawn⟩ := spawn_eq s r
  rw [hspawn] at hphase ⊢
  exact h.at hphase

/-- It takes an answer. -/
theorem Inv.joinNext (h : Inv limit s) (hr : InRound s r)
    (hwait : r.remaining = [] ∨ s.tasks.length = max s.limit 1) (i : Nat) :
    Inv limit (s.joinNext r i) := by
  unfold System.joinNext
  rw [hr.joinSet]
  split
  case isTrue hempty =>
    -- no task is left, so the spawning stopped for want of targets
    have hnil : s.tasks = [] := List.isEmpty_iff.mp hempty
    have hrest : r.remaining = [] := by
      rcases hwait with hrest | hfull
      · exact hrest
      · rw [hnil, List.length_nil] at hfull
        omega
    exact {
      limit := h.limit
      pool := h.pool
      phase := hnil
      finished := by
        intro r' hmem
        rcases List.mem_append.mp hmem with hold | hnew
        · exact h.finished r' hold
        · rw [List.mem_singleton.mp hnew]
          exact hr.complete hrest
      updates := h.updates }
  case isFalse =>
    cases htask : s.tasks[i]? with
    | none => exact h
    | some task =>
        have hstarted := hr.tasks task (List.mem_of_getElem? htask)
        simp only [hstarted.round, if_true]
        cases task.outcome with
        | running => exact h
        | panicked => exact h.at (hr.eraseIdx i _)
        | done ping => exact h.at ⟨hr.eraseIdx i _, { hstarted with }⟩

/-- No step of the monitor fails, and each keeps the invariant. -/
theorem Inv.monitor (h : Inv limit s) (i : Nat) :
    ∃ s', s.monitor i = .ok s' ∧ Inv limit s' := by
  have hp := h.phase
  unfold System.monitor
  cases hphase : s.phase with
  | top =>
      rw [hphase] at hp
      exact ⟨_, rfl, h.at ⟨hp, h.takeSnapshot _⟩⟩
  | marking snapshot =>
      rw [hphase] at hp
      obtain ⟨hnil, htaken⟩ := hp
      refine ⟨_, rfl, h.at ?_⟩
      exact {
        taken := (moved_phase s _).taken htaken
        sent := Sent.refl s.watch
        split := rfl
        tasks := by simp [hnil]
        bounded := by simp [hnil] }
  | spawning r =>
      rw [hphase] at hp
      exact ⟨_, rfl, h.spawn hp⟩
  | joining r =>
      rw [hphase] at hp
      exact ⟨_, rfl, h.joinNext hp.1 hp.2 i⟩
  | joined r task ping =>
      rw [hphase] at hp
      obtain ⟨hr, hstarted⟩ := hp
      simp only
      split
      case isTrue hsame =>
        refine ⟨_, rfl, h.at ⟨(moved_phase s _).inRound hr, ?_, ?_⟩⟩
        · exact (moved_phase s _).started hstarted rfl rfl rfl
        · simpa [System.unchanged] using hsame
      case isFalse => exact ⟨_, rfl, h.at ((moved_phase s _).inRound hr)⟩
  | holding r task ping =>
      rw [hphase] at hp
      obtain ⟨hr, hstarted, hversion⟩ := hp
      obtain ⟨seen, hpool⟩ := h.pool
      obtain ⟨pool', hupdate, hinv, -⟩ := hpool.updatePing
        r.snapshot.generation task.target ping
      have hgeneration : pool'.state.generation
          = s.shared.pool.state.generation := by
        obtain rfl | ⟨-, _, _, -, rfl⟩ := updatePing_cases hupdate
        · rfl
        · rfl
      refine ⟨_, bind_eq_ok.mpr ⟨pool', hupdate, rfl⟩, ?_⟩
      exact {
        limit := h.limit
        pool := ⟨seen, hinv⟩
        phase := by
          refine Moved.inRound { Moved.refl s with replaced := ⟨0, rfl, ?_⟩ } hr
          simpa using hgeneration
        finished := h.finished
        updates := by
          intro u hmem
          rcases List.mem_append.mp hmem with hold | hnew
          · exact h.updates u hold
          · rw [List.mem_singleton.mp hnew]
            exact hr.fresh hstarted hversion hupdate }
  | sleeping =>
      rw [hphase] at hp
      exact ⟨_, rfl, h.at hp⟩
  | aborted => exact ⟨s, rfl, h⟩

-- ================================================================ every run

/-- A step that only moves things on. -/
theorem Inv.moved (h : Inv limit s) (hm : Moved s s')
    (hpool : ∃ seen, TargetPool.Inv s'.shared seen)
    (hphase : s'.phase = s.phase) (hfinished : s'.finished = s.finished)
    (hupdates : s'.updates = s.updates)
    (hguard : s.guarded → s'.watch.version = s.watch.version) :
    Inv limit s' where
  limit := by rw [hm.limit, h.limit]
  pool := hpool
  phase := by
    rw [hphase]
    refine hm.phaseInv h.phase ?_
    intro r task ping hholding
    exact hguard (by simp [System.guarded, hholding])
  finished := by
    rw [hfinished]
    exact h.finished
  updates := by
    rw [hupdates]
    exact h.updates

/-- The round is dropped with its tasks. -/
theorem Inv.abort (h : Inv limit s) : Inv limit s.abort := by
  unfold System.abort
  split
  case h_4 => exact h
  all_goals
    exact {
      limit := h.limit
      pool := h.pool
      phase := rfl
      finished := h.finished
      updates := h.updates }

/-- Every action is possible, and keeps the invariant. -/
theorem Inv.step (h : Inv limit s) (action : Action B) :
    ∃ s', s.step action = .ok s' ∧ Inv limit s' := by
  cases action with
  | monitor i => exact h.monitor i
  | answer i answer =>
      refine ⟨_, rfl, h.moved (moved_ends s i _ ?_) h.pool rfl rfl rfl ?_⟩
      · exact fun _ => ⟨rfl, rfl, rfl⟩
      · exact fun _ => rfl
  | panic i =>
      refine ⟨_, rfl, h.moved (moved_ends s i _ ?_) h.pool rfl rfl rfl ?_⟩
      · exact fun _ => ⟨rfl, rfl, rfl⟩
      · exact fun _ => rfl
  | call call =>
      obtain ⟨seen, hpool⟩ := h.pool
      obtain ⟨shared', hstep, hinv⟩ := hpool.step call
      refine ⟨_, bind_eq_ok.mpr ⟨shared', hstep, rfl⟩, ?_⟩
      exact h.moved (moved_call hpool hstep) ⟨_, hinv⟩ rfl rfl rfl fun _ => rfl
  | set value =>
      by_cases hguard : s.guarded
      · refine ⟨s, ?_, h⟩
        simp [System.step, hguard]
      · refine ⟨{ s with watch := s.watch.set value }, ?_, ?_⟩
        · simp [System.step, hguard]
        · exact h.moved (moved_set s value) h.pool rfl rfl rfl
            fun hheld => absurd hheld hguard
  | close =>
      exact ⟨_, rfl, h.moved (moved_close s) h.pool rfl rfl rfl fun _ => rfl⟩
  | abort => exact ⟨_, rfl, h.abort⟩

/-- The round a phase is in. -/
def Phase.round? : Phase B → Option (Round B)
  | .spawning r | .joining r | .joined r _ _ | .holding r _ _ => some r
  | .top | .marking _ | .sleeping | .aborted => none

/-- A phase with a round. -/
theorem PhaseInv.inRound {phase : Phase B} (h : PhaseInv s phase)
    (hround : phase.round? = some r) : InRound s r := by
  cases phase with
  | spawning r' =>
      cases hround
      exact h
  | joining r' =>
      cases hround
      exact h.1
  | joined r' task ping =>
      cases hround
      exact h.1
  | holding r' task ping =>
      cases hround
      exact h.1
  | top => cases hround
  | marking snapshot => cases hround
  | sleeping => cases hround
  | aborted => cases hround

/-- Without one there are no tasks. -/
theorem PhaseInv.outside {phase : Phase B} (h : PhaseInv s phase)
    (hround : phase.round? = none) : s.tasks = [] := by
  cases phase with
  | top => exact h
  | marking snapshot => exact h.1
  | sleeping => exact h
  | aborted => exact h
  | spawning r => cases hround
  | joining r => cases hround
  | joined r task ping => cases hround
  | holding r task ping => cases hround

/-- The monitor's behaviour, as it is seen from outside. -/
structure Sound (limit : Nat) (s : System B) : Prop where
  fresh : ∀ u ∈ s.updates, u.Fresh
  complete : ∀ r ∈ s.finished, r.Complete
  /-- Of a round that goes on, nothing is probed twice either. -/
  once : ∀ r, s.phase.round? = some r → r.probed <+: r.snapshot.targets
    ∧ (r.snapshot.targets.map Target.key).Nodup
  bounded : s.tasks.length ≤ max limit 1
  /-- Outside of a round no probe is there, and in it only its own. -/
  apart : s.phase.round? = none → s.tasks = []
  alone : ∀ r, s.phase.round? = some r → ∀ task ∈ s.tasks,
    task.round = r.snapshot.round ∧ task.round + 1 = s.rounds

/-- What the invariant is for. -/
theorem Inv.sound (h : Inv limit s) : Sound limit s where
  fresh := h.updates
  complete := h.finished
  once := by
    intro r hround
    have hr := h.phase.inRound hround
    exact ⟨⟨r.remaining, hr.split.symm⟩, hr.taken.distinct⟩
  bounded := by
    cases hround : s.phase.round? with
    | none =>
        rw [h.phase.outside hround]
        exact Nat.zero_le _
    | some r =>
        have hbounded := (h.phase.inRound hround).bounded
        rw [h.limit] at hbounded
        exact hbounded
  apart := h.phase.outside
  alone := by
    intro r hround task hmem
    have hr := h.phase.inRound hround
    have htask := (hr.tasks task hmem).round
    exact ⟨htask, by rw [htask, hr.taken.number]⟩

/-- It holds at the start. -/
theorem Inv.start {shared : Shared} {seen : List TargetKey}
    (h : TargetPool.Inv shared seen) (watch : Watch B) (limit : Nat) :
    Inv limit (System.start shared watch limit) where
  limit := rfl
  pool := ⟨seen, h⟩
  phase := by simp [System.start, PhaseInv]
  finished := by simp [System.start]
  updates := by simp [System.start]

/-- In every run beside any use of the pool and the binding, what the
monitor measures is not stale, and its rounds probe every member once, at
most `max limit 1` at a time, one round after the other. -/
theorem samples_never_stale {strategy : SelectionStrategy} {seed : UInt64}
    {targets : List Target} {pool : TargetPool} {calls : List Call}
    {shared : Shared}
    (hnew : TargetPool.new strategy seed targets = .ok (some pool))
    (hcalls : Shared.run pool calls = .ok shared) (watch : Watch B)
    (limit : Nat) (actions : List (Action B)) :
    ∃ s, (System.start shared watch limit).run actions = .ok s
      ∧ Sound limit s := by
  have hne : targets ≠ [] := by
    intro hempty
    simp [TargetPool.new, hempty] at hnew
  obtain ⟨pool', hnew', hinv, -⟩ := new_inv strategy seed hne
  rw [hnew] at hnew'
  cases hnew'
  obtain ⟨shared', hrun, hshared⟩ := hinv.run calls
  have hsame : shared' = shared := by
    rw [Shared.run, hrun] at hcalls
    cases hcalls
    rfl
  subst hsame
  obtain ⟨s, hs, h⟩ := foldlM_total (f := System.step) (P := Inv limit)
    (l := actions) (Inv.start hshared watch limit)
    fun s action _ hs => hs.step action
  exact ⟨s, hs, h.sound⟩

-- ======================================================= the wrapped counter

/-- A pool's only target. -/
def loneTarget : Target where
  ip := .v4 0xC0000201
  sni := none
  score := 90
  tcpLatencyMs := some 30
  lowTtl := none

/-- A pool of one target, in a given generation. -/
def lonePool (generation : UInt64) : TargetPool :=
  let member := Member.scanned loneTarget 0 0
  { strategy := .leastPing
    state := {
      members := [member]
      history := [member]
      historyIndices := [(loneTarget.key, 0)]
      cursor := 0
      generation := generation
      random := 0 }
    counters := { loads := [0], traffics := [⟨0, 0⟩] } }

/-- A watch that was never set. -/
def loneWatch : Watch Unit := ⟨(), 0, false⟩

/-- A snapshot, a probe and its answer. -/
def probeOnce : List (Action Unit) :=
  [.monitor 0, .monitor 0, .monitor 0, .answer 0 (some (some 5000000))]

/-- The answer reaches `update_ping`. -/
def takeAnswer : List (Action Unit) :=
  [.monitor 0, .monitor 0, .monitor 0, .monitor 0]

/-- A round with one answer, which is used. -/
theorem live_sample_is_fresh :
    TargetPool.new .leastPing 0 [loneTarget] = .ok (some (lonePool 1))
      ∧ Shared.run (lonePool 1) [] = .ok ⟨lonePool 1, []⟩
      ∧ ∃ s, (System.start ⟨lonePool 1, []⟩ loneWatch 2).run
          (probeOnce ++ takeAnswer) = .ok s ∧ Sound 2 s := by
  have hnew : TargetPool.new .leastPing 0 [loneTarget]
      = .ok (some (lonePool 1)) := rfl
  have hcalls : Shared.run (lonePool 1) [] = .ok ⟨lonePool 1, []⟩ := rfl
  exact ⟨hnew, hcalls, samples_never_stale hnew hcalls loneWatch 2 _⟩

/-- A replacement with the same target still counts. -/
theorem replace_lone (generation : UInt64) :
    (lonePool generation).replace [loneTarget]
      = .ok (false, lonePool (generation + 1)) := rfl

/-- The same target, over and over. -/
theorem replace_replicate (n : Nat) (s : System Unit) {generation : UInt64}
    (hshared : s.shared = ⟨lonePool generation, []⟩) :
    s.run (List.replicate n (.call (.replace [loneTarget])))
      = .ok { s with
          shared := ⟨lonePool (generation + UInt64.ofNat n), []⟩
          replaces := s.replaces + n } := by
  induction n generalizing s generation with
  | zero =>
      simp [System.run, ← hshared]
      rfl
  | succ n ih =>
      have hstep : s.step (.call (.replace [loneTarget])) = .ok { s with
          shared := ⟨lonePool (generation + 1), []⟩
          replaces := s.replaces + 1 } := by
        simp only [System.step, Shared.step, hshared, replace_lone]
        rfl
      rw [List.replicate_succ, System.run, List.foldlM_cons, hstep]
      refine (ih _ rfl).trans ?_
      have hgeneration : generation + 1 + UInt64.ofNat n
          = generation + UInt64.ofNat (n + 1) := by
        rw [UInt64.ofNat_add, UInt64.add_assoc, UInt64.add_comm 1]
        rfl
      have hreplaces : s.replaces + 1 + n = s.replaces + (n + 1) := by omega
      rw [hgeneration, hreplaces]

/-- Behind `probeOnce`, and `n` replacements later. -/
def probedLone (n : Nat) : System Unit :=
  let snapshot : Snapshot := ⟨1, [loneTarget], 0, 0⟩
  { System.start ⟨lonePool 1, []⟩ loneWatch 2 with
    phase := .spawning ⟨snapshot, 0, (), [], [loneTarget]⟩
    tasks := [⟨loneTarget, (), .done (some 5000000), 0, ⟨0, 0⟩⟩]
    replaces := n
    rounds := 1 }

/-- Runs in sequence. -/
theorem run_append {actions more : List (Action B)}
    (h : s.run actions = .ok s') : s.run (actions ++ more) = s'.run more := by
  unfold System.run at h ⊢
  rw [List.foldlM_append, h]
  rfl

/-- A probe of a member that was replaced 2^64 times since passes for one
of the present generation. -/
theorem wrapped_generation_accepts_stale_probe : ∃ s u,
    TargetPool.new .leastPing 0 [loneTarget] = .ok (some (lonePool 1))
      ∧ (System.start ⟨lonePool 1, []⟩ loneWatch 2).run (probeOnce
          ++ List.replicate (2 ^ 64) (.call (.replace [loneTarget]))
          ++ takeAnswer) = .ok s
      ∧ u ∈ s.updates
      ∧ u.after.state.members[0]? ≠ u.before.state.members[0]?
      ∧ u.task.started.replaces < u.stamp.replaces := by
  have hprobe : (System.start ⟨lonePool 1, []⟩ loneWatch 2).run probeOnce
      = .ok (probedLone 0) := rfl
  have hreplace : (probedLone 0).run
      (List.replicate (2 ^ 64) (.call (.replace [loneTarget])))
        = .ok (probedLone (2 ^ 64)) := by
    have hsame : (1 : UInt64) + UInt64.ofNat (2 ^ 64) = 1 := by decide
    have hrun := replace_replicate (2 ^ 64) (probedLone 0) rfl
    rw [hsame] at hrun
    exact hrun
  have htake : ∀ n, ∃ s u, (probedLone n).run takeAnswer = .ok s
      ∧ u ∈ s.updates
      ∧ u.after.state.members[0]? ≠ u.before.state.members[0]?
      ∧ u.task.started.replaces = 0 ∧ u.stamp.replaces = n := by
    intro n
    refine ⟨_, _, rfl, List.mem_singleton_self _, ?_, rfl, rfl⟩
    intro hsame
    cases hsame
  obtain ⟨s, u, hs, hu, hchanged, hstarted, hnow⟩ := htake (2 ^ 64)
  refine ⟨s, u, rfl, ?_, hu, hchanged, by omega⟩
  rw [List.append_assoc, run_append hprobe, run_append hreplace]
  exact hs

end ZeroDpi.PingMonitor
