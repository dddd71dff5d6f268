/-
What the strategies of the target pool choose, over every history of calls.

What one `acquire` chooses is `Selects`, in terms of the cursor, the pings
and the loads of that moment. Here the cursor is followed through a history
(a `replace` puts it back to the first member, an `acquire` right behind the
member it chose), and the loads through a series of acquires: a strategy
that always adds to a least load keeps loads within one of each other.
-/
import ZeroDpi.Proofs.TargetPool

namespace ZeroDpi.TargetPool

open Lib

-- ============================================================= the cursor

/-- The acquires since the pool was last filled; a `replace` without
targets is refused. -/
def Call.turn (i : Nat) : Call → Nat
  | .replace [] => i
  | .replace (_ :: _) => 0
  | .acquire => i + 1
  | _ => i

/-- How many acquires came after the pool was last filled. -/
def acquiresSince (calls : List Call) : Nat := calls.foldl Call.turn 0

/-- No call changes the strategy. -/
theorem Inv.step_strategy {s s' : Shared} {seen : List TargetKey}
    (h : Inv s seen) {call : Call} (hstep : s.step call = .ok s') :
    s'.pool.strategy = s.pool.strategy := by
  cases call with
  | replace targets =>
      obtain ⟨⟨changed, pool'⟩, hreplace, hstep⟩ := bind_eq_ok.mp hstep
      cases hstep
      by_cases hne : targets = []
      · subst hne
        cases hreplace
        rfl
      · obtain ⟨changed', pool'', hreplace', -, hstrategy, -⟩ :=
          h.ledger.replace hne
        cases hreplace.symm.trans hreplace'
        exact hstrategy
  | acquire =>
      obtain ⟨_, _, s'', hstep', hacquired⟩ := h.acquire
      cases hstep.symm.trans hstep'
      exact hacquired.strategy
  | drop i =>
      simp only [Shared.step] at hstep
      split at hstep <;> cases hstep <;> rfl
  | updatePing generation target ping =>
      obtain ⟨pool', hupdate, hstep⟩ := bind_eq_ok.mp hstep
      cases hstep
      obtain ⟨pool'', hupdate', -, hstrategy, -⟩ :=
        h.updatePing generation target ping
      cases hupdate.symm.trans hupdate'
      exact hstrategy
  | relayed i c2s s2c =>
      simp only [Shared.step] at hstep
      split at hstep <;> cases hstep <;> rfl

/-- Under round robin the cursor counts the acquires. -/
theorem Inv.step_cursor {s s' : Shared} {seen : List TargetKey}
    (h : Inv s seen) (hstrategy : s.pool.strategy = .roundRobin) {i : Nat}
    (hi : s.pool.state.cursor = i % s.pool.state.members.length)
    {call : Call} (hstep : s.step call = .ok s') :
    s'.pool.state.cursor
      = call.turn i % s'.pool.state.members.length := by
  cases call with
  | replace targets =>
      obtain ⟨⟨changed, pool'⟩, hreplace, hstep⟩ := bind_eq_ok.mp hstep
      cases hstep
      cases targets with
      | nil =>
          cases hreplace
          exact hi
      | cons t rest =>
          obtain ⟨changed', pool'', hreplace', -, -, hcursor, -⟩ :=
            h.ledger.replace (List.cons_ne_nil t rest)
          cases hreplace.symm.trans hreplace'
          exact hcursor.trans (Nat.zero_mod _).symm
  | acquire =>
      obtain ⟨index, _, s'', hstep', hacquired⟩ := h.acquire
      cases hstep.symm.trans hstep'
      have hselects := hacquired.selects
      unfold Selects at hselects
      rw [hstrategy] at hselects
      have hindex : index = s.pool.state.cursor := hselects
      rw [hacquired.cursor, hacquired.members, hindex, hi, Nat.mod_add_mod]
      rfl
  | drop j =>
      simp only [Shared.step] at hstep
      split at hstep <;> cases hstep <;> exact hi
  | updatePing generation target ping =>
      obtain ⟨pool', hupdate, hstep⟩ := bind_eq_ok.mp hstep
      cases hstep
      obtain ⟨pool'', hupdate', -, -, hcursor, hlen⟩ :=
        h.updatePing generation target ping
      cases hupdate.symm.trans hupdate'
      rw [hcursor, hlen]
      exact hi
  | relayed j c2s s2c =>
      simp only [Shared.step] at hstep
      split at hstep <;> cases hstep <;> exact hi

/-- The strategy and the cursor over a whole history. -/
theorem Inv.run_cursor {s s' : Shared} {seen : List TargetKey}
    (h : Inv s seen) {i : Nat}
    (hi : s.pool.strategy = .roundRobin →
      s.pool.state.cursor = i % s.pool.state.members.length)
    {calls : List Call} (hrun : calls.foldlM Shared.step s = .ok s') :
    s'.pool.strategy = s.pool.strategy
      ∧ (s.pool.strategy = .roundRobin → s'.pool.state.cursor
        = calls.foldl Call.turn i % s'.pool.state.members.length) := by
  induction calls generalizing s seen i with
  | nil =>
      cases hrun
      exact ⟨rfl, hi⟩
  | cons call rest ih =>
      rw [List.foldlM_cons] at hrun
      obtain ⟨s₁, hstep, hrest⟩ := bind_eq_ok.mp hrun
      obtain ⟨s₂, hstep', h₁⟩ := h.step call
      cases hstep.symm.trans hstep'
      have hstrategy := h.step_strategy hstep
      obtain ⟨hsame, hcursor⟩ := ih h₁ (i := call.turn i)
        (fun hrr => by
          rw [hstrategy] at hrr
          exact h.step_cursor hrr (hi hrr) hstep) hrest
      rw [hstrategy] at hsame hcursor
      exact ⟨hsame, hcursor⟩

-- ================================================================ balance

/-- The loads of the members are within one of each other. -/
def Balanced (pool : TargetPool) : Prop :=
  ∃ c, ∀ i < pool.state.members.length,
    pool.loadAt i = c ∨ pool.loadAt i = c + 1

/-- One acquire adds one to the load of the chosen member. -/
theorem Inv.Acquired.loadAt {s s' : Shared} {seen : List TargetKey}
    {index : Nat} {member : Member} (h : Inv s seen)
    (ha : Inv.Acquired s seen index member s') {j : Nat}
    (hj : j < s.pool.state.members.length) :
    s'.pool.loadAt j
      = s.pool.loadAt j + if j = index then 1 else 0 := by
  have hget := List.getElem?_eq_getElem hj
  generalize s.pool.state.members[j] = m at hget
  have hm := h.linked m (List.mem_of_getElem? hget)
  have hmember := h.linked member (List.mem_of_getElem? ha.chosen)
  have hpresent := (h.ledger.present m.slot
    (List.mem_map.mpr ⟨m, hm, rfl⟩)).1
  have hsame : member.load = m.load ↔ j = index := by
    constructor
    · intro hload
      have hslot := h.ledger.slot_of_load
        (List.mem_map.mpr ⟨member, hmember, rfl⟩)
        (List.mem_map.mpr ⟨m, hm, rfl⟩) hload
      exact index_of_nodup_map h.distinct hget ha.chosen
        (congrArg Slot.key hslot).symm
    · rintro rfl
      rw [ha.chosen] at hget
      cases hget
      rfl
  have hload : m.load < s.pool.counters.loads.length := hpresent
  simp only [TargetPool.loadAt, ha.members, ha.loads, hget, Option.map_some,
    Option.getD_some, List.getD_eq_getElem?_getD, List.getElem?_modify,
    List.getElem?_eq_getElem hload]
  by_cases hji : j = index
  · simp [hji, hsame.mpr hji]
  · have hne : member.load ≠ m.load := fun heq => hji (hsame.mp heq)
    simp [hji, hne]

/-- Adding to a least load keeps the balance. -/
theorem Inv.acquire_balanced {s s' : Shared} {seen : List TargetKey}
    {index : Nat} {member : Member} (h : Inv s seen)
    (hstrategy : s.pool.strategy = .leastLoad)
    (hb : Balanced s.pool) (ha : Inv.Acquired s seen index member s') :
    Balanced s'.pool := by
  obtain ⟨c, hc⟩ := hb
  have hselects := ha.selects
  unfold Selects at hselects
  rw [hstrategy] at hselects
  obtain ⟨offset, hleast⟩ : ∃ offset, LeastLoad s.pool index offset := hselects
  obtain ⟨hlt, -⟩ := List.getElem?_eq_some_iff.mp ha.chosen
  unfold Balanced
  rw [ha.members]
  rcases hc index hlt with hlow | hhigh
  · refine ⟨c, fun j hj => ?_⟩
    rw [ha.loadAt h hj]
    split
    case isTrue heq =>
      subst heq
      omega
    case isFalse => exact hc j hj
  · -- no load is at the lower level any more
    refine ⟨c + 1, fun j hj => ?_⟩
    have hj' := hleast.least j hj
    rw [ha.loadAt h hj]
    rcases hc j hj with hjlow | hjhigh
    · omega
    · split <;> omega

/-- Acquires alone keep it. -/
theorem Inv.acquires_balanced {s : Shared} {seen : List TargetKey}
    (h : Inv s seen) (hstrategy : s.pool.strategy = .leastLoad)
    (hb : Balanced s.pool) (k : Nat) :
    ∃ s', (List.replicate k Call.acquire).foldlM Shared.step s = .ok s'
      ∧ s'.pool.state.members = s.pool.state.members
      ∧ Balanced s'.pool := by
  induction k generalizing s with
  | zero => exact ⟨s, rfl, rfl, hb⟩
  | succ k ih =>
      obtain ⟨index, member, s₁, hstep, ha⟩ := h.acquire
      obtain ⟨s', hrun, hmembers, hb'⟩ := ih ha.inv
        (ha.strategy.trans hstrategy) (h.acquire_balanced hstrategy hb ha)
      refine ⟨s', ?_, hmembers.trans ha.members, hb'⟩
      rw [List.replicate_succ, List.foldlM_cons]
      exact bind_eq_ok.mpr ⟨s₁, hstep, hrun⟩

-- ============================================================== the policy

/-- Without a known ping, least ping chooses as round robin does. -/
theorem select_eq_roundRobin {pool : TargetPool}
    (hstrategy : pool.strategy = .leastPing)
    (h : ∀ m ∈ pool.state.members, m.ping = none) :
    pool.select = { pool with strategy := .roundRobin }.select := by
  have hnone : pool.knownPings = [] := by
    refine List.eq_nil_iff_forall_not_mem.mpr ?_
    intro known hmem
    obtain ⟨m, hm, hping⟩ := mem_knownPings.mp hmem
    rw [h m (List.mem_of_getElem? hm)] at hping
    cases hping
  unfold select
  simp only [hstrategy, hnone]
  rfl

/-- What an `acquire` chooses after any history of calls. -/
structure Chooses (strategy : SelectionStrategy) (calls : List Call)
    (s : Shared) (index : Nat) : Prop where
  roundRobin : strategy = .roundRobin →
    index = acquiresSince calls % s.pool.state.members.length
  leastPing : strategy = .leastPing →
    (∃ ping, LeastPing s.pool index ping)
      ∨ ((∀ m ∈ s.pool.state.members, m.ping = none)
        ∧ index = s.pool.state.cursor
        ∧ s.pool.select = { s.pool with strategy := .roundRobin }.select)
  leastLoad : strategy = .leastLoad → ∃ offset, LeastLoad s.pool index offset

/-- After every history, an `acquire` leases a member, the one its strategy
names, and the cursor moves right behind it; and under least load, acquires
alone keep equal loads within one of each other. -/
theorem selection_policy (strategy : SelectionStrategy) (seed : UInt64)
    (targets : List Target) (pool : TargetPool)
    (hnew : TargetPool.new strategy seed targets = .ok (some pool))
    (calls : List Call) (s : Shared) (hrun : Shared.run pool calls = .ok s) :
    (∃ index member s', s.pool.state.members[index]? = some member
      ∧ s.step .acquire = .ok s'
      ∧ s'.leases
        = s.leases ++ [⟨member.target, member.load, member.traffic⟩]
      ∧ s'.pool.state.cursor = (index + 1) % s.pool.state.members.length
      ∧ Chooses strategy calls s index)
    ∧ (strategy = .leastLoad →
      (∀ i j, i < s.pool.state.members.length →
        j < s.pool.state.members.length → s.pool.loadAt i = s.pool.loadAt j) →
      ∀ k, ∃ s', (List.replicate k Call.acquire).foldlM Shared.step s = .ok s'
        ∧ ∀ i j, i < s.pool.state.members.length →
          j < s.pool.state.members.length →
          s'.pool.loadAt i ≤ s'.pool.loadAt j + 1) := by
  have hne : targets ≠ [] := by
    rintro rfl
    cases hnew
  obtain ⟨pool', hnew', hinv, hstrategy, hcursor⟩ := new_inv strategy seed hne
  cases hnew.symm.trans hnew'
  obtain ⟨s', hrun', h⟩ := hinv.run calls
  cases hrun.symm.trans hrun'
  obtain ⟨hsame, hturns⟩ := hinv.run_cursor (i := 0)
    (fun _ => hcursor.trans (Nat.zero_mod _).symm) hrun
  have hstrategy : s.pool.strategy = strategy := hsame.trans hstrategy
  constructor
  · obtain ⟨index, member, s', hstep, ha⟩ := h.acquire
    refine ⟨index, member, s', ha.chosen, hstep, ha.leases, ha.cursor, ?_⟩
    have hselects := ha.selects
    unfold Selects at hselects
    rw [hstrategy] at hselects
    constructor
    · rintro rfl
      have hindex : index = s.pool.state.cursor := hselects
      exact hindex.trans (hturns (hsame.symm.trans hstrategy))
    · rintro rfl
      rcases hselects with hleast | ⟨hnone, hindex⟩
      · exact .inl hleast
      · exact .inr ⟨hnone, hindex, select_eq_roundRobin hstrategy hnone⟩
    · rintro rfl
      exact hselects
  · intro hleast hequal k
    have hpos := List.length_pos_iff.mpr h.nonempty
    have hb : Balanced s.pool :=
      ⟨s.pool.loadAt 0, fun i hi => .inl (hequal i 0 hi hpos)⟩
    obtain ⟨s', hrun, hmembers, c, hc⟩ :=
      h.acquires_balanced (hstrategy.trans hleast) hb k
    refine ⟨s', hrun, fun i j hi hj => ?_⟩
    rw [← hmembers] at hi hj
    have := hc i hi
    have := hc j hj
    omega

/-- A target of the sample pool. -/
def sampleTarget (ip : Ipv4Addr) (latency : Nat) : Target where
  ip := .v4 ip
  sni := none
  score := 90
  tcpLatencyMs := some latency
  lowTtl := none

/-- Two members under least load: one leased and dropped, then any number
of acquires. -/
theorem sample_selection_policy :
    ∃ pool s,
      TargetPool.new .leastLoad 42 [sampleTarget 1 30, sampleTarget 2 10]
        = .ok (some pool)
      ∧ Shared.run pool [.acquire, .drop 0] = .ok s
      ∧ (∃ index member s', s.pool.state.members[index]? = some member
        ∧ s.step .acquire = .ok s'
        ∧ Chooses .leastLoad [.acquire, .drop 0] s index)
      ∧ ∀ k, ∃ s',
        (List.replicate k Call.acquire).foldlM Shared.step s = .ok s'
          ∧ s'.pool.loadAt 0 ≤ s'.pool.loadAt 1 + 1 := by
  have hstart : ∃ pool s,
      TargetPool.new .leastLoad 42 [sampleTarget 1 30, sampleTarget 2 10]
        = .ok (some pool)
      ∧ Shared.run pool [.acquire, .drop 0] = .ok s
      ∧ s.pool.state.members.length = 2
      ∧ s.pool.loadAt 0 = 0 ∧ s.pool.loadAt 1 = 0 :=
    ⟨_, _, rfl, rfl, rfl, rfl, rfl⟩
  obtain ⟨pool, s, hnew, hrun, hlen, hfirst, hsecond⟩ := hstart
  obtain ⟨⟨index, member, s', hmember, hstep, -, -, hchooses⟩, hbalance⟩ :=
    selection_policy .leastLoad 42 [sampleTarget 1 30, sampleTarget 2 10]
      pool hnew [.acquire, .drop 0] s hrun
  refine ⟨pool, s, hnew, hrun, ⟨index, member, s', hmember, hstep, hchooses⟩,
    fun k => ?_⟩
  have hzero : ∀ i < 2, s.pool.loadAt i = 0 := by
    intro i hi
    rcases (by omega : i = 0 ∨ i = 1) with rfl | rfl
    · exact hfirst
    · exact hsecond
  rw [hlen] at hbalance
  obtain ⟨s'', hacquires, hwithin⟩ := hbalance rfl
    (fun i j hi hj => (hzero i hi).trans (hzero j hj).symm) k
  exact ⟨s'', hacquires, hwithin 0 1 (by omega) (by omega)⟩

end ZeroDpi.TargetPool
