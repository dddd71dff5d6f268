/-
What `reset` takes out of the table.

Between the passes over a shard, the entries of the shard without an
outcome are the late ones (`Inv`): the first pass finished the others,
and only a registration adds one. So the second pass takes out an
unfinished entry exactly if a late one is still there.
-/
import ZeroDpi.FlowReset
import ZeroDpi.Lib.Run

namespace ZeroDpi.FlowReset

open Lib

variable {shards : Shards} {s : FlowReset}

/-- What a reset relies on between its steps. -/
structure Inv (shards : Shards) (s : FlowReset) : Prop where
  finished : s.AllFinished
  /-- A late flow is between the passes. -/
  late : ∀ key ∈ s.late, s.pass.between (shards.shardOf key) = true
  /-- There, the late flows are the ones without an outcome. -/
  between : ∀ e ∈ s.controller.flows,
    s.pass.between (shards.shardOf e.1) = true →
      (e.2.outcome = none ↔ e.1 ∈ s.late)

theorem inv_start (c : LocalFlowController) : Inv shards (start c) where
  finished e he := by cases he
  late key hkey := by cases hkey
  between e _ hpass := by cases hpass

/-- No late flow is left in a shard that is cleared next. -/
def Timely (shards : Shards) (s : FlowReset) : Act → Prop
  | .advance => ∀ shard, s.pass = .clearing shard → shard < shards.count →
      ∀ e ∈ s.controller.flows, shards.shardOf e.1 = shard → e.1 ∉ s.late
  | _ => True

-- ======================================================= the tasks' calls

theorem Inv.register (h : Inv shards s) (key : FlowKey) (fakeData : Bytes)
    (lowTtlOverride : Option UInt8) :
    Inv shards (s.step shards (.register key fakeData lowTtlOverride)) := by
  have hexists : FlowController.flowExists s.controller key
      = (s.controller.flows.get? key).isSome := Table.containsKey_eq_isSome
  unfold step LocalFlowController.registerFlow
  cases hget : s.controller.flows.get? key with
  | some entry =>
      -- an occupied slot stays as it is
      rw [hget] at hexists
      simp only [hget, hexists, Option.isSome_some, Bool.not_true,
        Bool.false_and]
      exact h
  | none =>
      rw [hget] at hexists
      have hold := Table.get?_eq_none_iff.mp hget
      simp only [hget, hexists, Option.isSome_none, Bool.not_false,
        Bool.true_and]
      refine ⟨h.finished, ?_, ?_⟩
      · intro other hother
        simp only at hother
        split at hother
        case isTrue hpass =>
            rcases List.mem_cons.mp hother with rfl | hother
            · exact hpass
            · exact h.late other hother
        case isFalse => exact h.late other hother
      · intro e he hpass
        rcases List.mem_cons.mp he with rfl | he
        · simp only [hpass, if_true]
          exact iff_of_true rfl List.mem_cons_self
        · have he := (List.mem_filter.mp he).1
          have hne := hold e he
          refine (h.between e he hpass).trans ?_
          simp only
          split
          · rw [List.mem_cons, or_iff_right hne]
          · rfl

theorem Inv.remove (h : Inv shards s) (key : FlowKey) :
    Inv shards (s.step shards (.remove key)) := by
  refine ⟨h.finished, ?_, ?_⟩
  · intro other hother
    exact h.late other (List.mem_filter.mp hother).1
  · intro e he hpass
    obtain ⟨he, hne⟩ := List.mem_filter.mp he
    refine (h.between e he hpass).trans ?_
    show e.1 ∈ s.late ↔ e.1 ∈ s.late.filter (· ≠ key)
    rw [List.mem_filter, and_iff_left hne]

theorem finish_outcome_ne_none (e : FlowState) (outcome : BypassOutcome) :
    (e.finish outcome).outcome ≠ none := by
  cases hout : e.outcome with
  | none =>
      rw [FlowState.finish_of_none hout]
      intro heq
      cases heq
  | some o =>
      rw [FlowState.finish_of_some hout, hout]
      intro heq
      cases heq

theorem Inv.finish (h : Inv shards s) (key : FlowKey)
    (outcome : BypassOutcome) :
    Inv shards (s.step shards (.finish key outcome)) := by
  refine ⟨h.finished, ?_, ?_⟩
  · intro other hother
    exact h.late other (List.mem_filter.mp hother).1
  · intro e he hpass
    obtain ⟨e', he', rfl⟩ := List.mem_map.mp he
    show _ ↔ _ ∈ s.late.filter (· ≠ key)
    rw [List.mem_filter]
    split
    case isTrue hkey =>
        refine iff_of_false (finish_outcome_ne_none e'.2 outcome) ?_
        intro hmem
        exact absurd hkey (by simpa using hmem.2)
    case isFalse hkey =>
        rw [if_neg hkey] at hpass
        rw [and_iff_left (by simpa using hkey)]
        exact h.between e' he' hpass

-- ======================================================= the two passes

theorem Inv.finishShard (h : Inv shards s) {shard : Nat}
    (hpass : s.pass = .finishing shard) :
    Inv shards (s.finishShard shards shard) := by
  refine ⟨h.finished, ?_, ?_⟩
  · intro key hkey
    have hbetween := h.late key hkey
    rw [hpass] at hbetween
    have hlt : shards.shardOf key < shard := of_decide_eq_true hbetween
    exact decide_eq_true (by omega)
  · intro e he hbetween
    obtain ⟨e', he', rfl⟩ := List.mem_map.mp he
    split
    case isTrue hshard =>
        -- the shard under the lock: no flow of it is late yet
        refine iff_of_false (finish_outcome_ne_none e'.2 _) ?_
        intro hlate
        have hbefore := h.late e'.1 hlate
        rw [hpass] at hbefore
        have hlt : shards.shardOf e'.1 < shard := of_decide_eq_true hbefore
        omega
    case isFalse hshard =>
        rw [if_neg hshard] at hbetween
        have hlt : shards.shardOf e'.1 < shard + 1 :=
          of_decide_eq_true hbetween
        refine h.between e' he' ?_
        rw [hpass]
        exact decide_eq_true (by omega)

/-- The first pass ends with every shard between the passes. -/
theorem Inv.finishEnd (h : Inv shards s) {shard : Nat}
    (hpass : s.pass = .finishing shard) (hend : ¬ shard < shards.count) :
    Inv shards { s with pass := .clearing 0 } := by
  refine ⟨h.finished, ?_, ?_⟩
  · intro key hkey
    exact decide_eq_true (Nat.zero_le (shards.shardOf key))
  · intro e he _
    refine h.between e he ?_
    rw [hpass]
    have hlt := shards.shardOf_lt e.1
    exact decide_eq_true (by omega)

/-- The second pass ends with none. -/
theorem Inv.clearEnd (h : Inv shards s) {shard : Nat}
    (hpass : s.pass = .clearing shard) (hend : ¬ shard < shards.count) :
    Inv shards { s with pass := .idle } := by
  refine ⟨h.finished, ?_, ?_⟩
  · intro key hkey
    have hbetween := h.late key hkey
    rw [hpass] at hbetween
    have hle : shard ≤ shards.shardOf key := of_decide_eq_true hbetween
    have hlt := shards.shardOf_lt key
    omega
  · intro e _ hbetween
    cases hbetween

/-- Clearing a shard takes out finished entries exactly if no late flow is
left in it. -/
theorem Inv.clearShard_iff (h : Inv shards s) {shard : Nat}
    (hpass : s.pass = .clearing shard) :
    (s.clearShard shards shard).AllFinished
      ↔ ∀ e ∈ s.controller.flows, shards.shardOf e.1 = shard
        → e.1 ∉ s.late := by
  have hbetween : ∀ e ∈ s.controller.flows, shards.shardOf e.1 = shard →
      (e.2.outcome = none ↔ e.1 ∈ s.late) := by
    intro e he hshard
    refine h.between e he ?_
    rw [hpass, hshard]
    exact decide_eq_true (Nat.le_refl shard)
  constructor
  · intro hall e he hshard hlate
    have hmem : e ∈ (s.clearShard shards shard).dropped :=
      List.mem_append_right _
        (List.mem_filter.mpr ⟨he, decide_eq_true hshard⟩)
    have hsome := hall e hmem
    rw [(hbetween e he hshard).mpr hlate] at hsome
    cases hsome
  · intro hlate e he
    rcases List.mem_append.mp he with he | he
    · exact h.finished e he
    · obtain ⟨he, hshard⟩ := List.mem_filter.mp he
      have hshard : shards.shardOf e.1 = shard := of_decide_eq_true hshard
      refine Option.isSome_iff_ne_none.mpr ?_
      intro hnone
      exact hlate e he hshard ((hbetween e he hshard).mp hnone)

theorem Inv.clearShard (h : Inv shards s) {shard : Nat}
    (hpass : s.pass = .clearing shard)
    (hall : (s.clearShard shards shard).AllFinished) :
    Inv shards (s.clearShard shards shard) := by
  have hnext : ∀ key, shards.shardOf key ≠ shard →
      (ResetPass.between (.clearing (shard + 1)) (shards.shardOf key) = true
        ↔ s.pass.between (shards.shardOf key) = true) := by
    intro key hne
    rw [hpass]
    show decide _ = true ↔ decide _ = true
    rw [decide_eq_true_iff, decide_eq_true_iff]
    omega
  refine ⟨hall, ?_, ?_⟩
  · intro key hkey
    obtain ⟨hkey, hne⟩ := List.mem_filter.mp hkey
    exact (hnext key (by simpa using hne)).mpr (h.late key hkey)
  · intro e he hbetween
    obtain ⟨he, hne⟩ := List.mem_filter.mp he
    have hne' : shards.shardOf e.1 ≠ shard := by simpa using hne
    refine (h.between e he ((hnext e.1 hne').mp hbetween)).trans ?_
    show e.1 ∈ s.late ↔ e.1 ∈ s.late.filter _
    rw [List.mem_filter, and_iff_left (by simpa using hne')]

-- ============================================================= every run

/-- One step takes out finished entries exactly if it is timely. -/
theorem Inv.step_iff (h : Inv shards s) {act : Act} :
    (s.step shards act).AllFinished ↔ Timely shards s act := by
  cases act with
  | register key fakeData lowTtlOverride =>
      exact iff_of_true h.finished trivial
  | remove key => exact iff_of_true h.finished trivial
  | finish key outcome => exact iff_of_true h.finished trivial
  | reset =>
      refine iff_of_true ?_ trivial
      show (if s.pass = .idle then _ else s).AllFinished
      split
      · exact h.finished
      · exact h.finished
  | advance =>
      show (s.advance shards).AllFinished ↔ _
      unfold advance Timely
      cases hpass : s.pass with
      | idle =>
          refine iff_of_true h.finished ?_
          intro shard heq
          cases heq
      | finishing shard =>
          refine iff_of_true ?_ ?_
          · simp only
            split
            · exact h.finished
            · exact h.finished
          · intro other heq
            cases heq
      | clearing shard =>
          simp only
          split
          case isTrue hlt =>
              refine (h.clearShard_iff hpass).trans ⟨?_, ?_⟩
              · intro hlate other heq _
                cases heq
                exact hlate
              · intro htimely
                exact htimely shard rfl hlt
          case isFalse hge =>
              refine iff_of_true h.finished ?_
              intro other heq hlt
              cases heq
              exact absurd hlt hge

theorem Inv.step (h : Inv shards s) {act : Act}
    (htimely : Timely shards s act) : Inv shards (s.step shards act) := by
  cases act with
  | register key fakeData lowTtlOverride =>
      exact h.register key fakeData lowTtlOverride
  | remove key => exact h.remove key
  | finish key outcome => exact h.finish key outcome
  | reset =>
      show Inv shards (if s.pass = .idle then _ else s)
      split
      case isFalse => exact h
      case isTrue hidle =>
          refine ⟨h.finished, ?_, ?_⟩
          · intro key hkey
            have hbetween := h.late key hkey
            rw [hidle] at hbetween
            cases hbetween
          · intro e _ hbetween
            have hlt : shards.shardOf e.1 < 0 := of_decide_eq_true hbetween
            omega
  | advance =>
      have hall := h.step_iff.mpr htimely
      have hadvance : s.step shards .advance = s.advance shards := rfl
      rw [hadvance] at hall ⊢
      unfold advance at hall ⊢
      cases hpass : s.pass with
      | idle => exact h
      | finishing shard =>
          simp only
          split
          · exact h.finishShard hpass
          case isFalse hend => exact h.finishEnd hpass hend
      | clearing shard =>
          simp only [hpass] at hall ⊢
          split
          case isTrue hlt =>
              rw [if_pos hlt] at hall
              exact h.clearShard hpass hall
          case isFalse hend => exact h.clearEnd hpass hend

/-- In every interleaving of `reset` with the calls of the connection
tasks, from any table, what `reset` takes out has its outcome in every
state reached, exactly if no flow registered between the passes over its
shard is still there, and unfinished, when the shard is cleared. -/
theorem reset_drops_finished_iff (shards : Shards)
    (controller : LocalFlowController) (acts : List Act) :
    Along (FlowReset.step shards)
        (fun s act => (s.step shards act).AllFinished) (start controller) acts
      ↔ Along (FlowReset.step shards) (Timely shards) (start controller)
        acts :=
  along_iff (fun h => h.step_iff) (fun h htimely => h.step htimely)
    (inv_start controller)

-- ================================================= left to itself

/-- `n` shards of `reset` with nothing in between. -/
def advances (shards : Shards) (n : Nat) (s : FlowReset) : FlowReset :=
  (List.replicate n Act.advance).foldl (FlowReset.step shards) s

theorem advances_succ (shards : Shards) (n : Nat) (s : FlowReset) :
    advances shards (n + 1) s = advances shards n (s.advance shards) :=
  rfl

theorem advances_add (shards : Shards) (m n : Nat) (s : FlowReset) :
    advances shards (m + n) s = advances shards n (advances shards m s) := by
  unfold advances
  rw [← List.replicate_append_replicate, List.foldl_append]

/-- Nobody is late. -/
theorem advances_inv (n : Nat) (h : Inv shards s) (hlate : s.late = []) :
    Inv shards (advances shards n s) := by
  induction n generalizing s with
  | zero => exact h
  | succ n ih =>
      rw [advances_succ]
      have htimely : Timely shards s .advance := by
        intro shard _ _ e _ _ hmem
        rw [hlate] at hmem
        cases hmem
      have hkept : (s.advance shards).late = [] := by
        unfold advance
        split
        · exact hlate
        · split
          · exact hlate
          · exact hlate
        · split
          · show s.late.filter _ = []
            rw [hlate]
            rfl
          · exact hlate
      exact ih (h.step htimely) hkept

/-- The first pass, from the shard that `n` more shards follow. -/
theorem advances_finishing (n : Nat) (hn : n ≤ shards.count)
    (hpass : s.pass = .finishing (shards.count - n)) :
    (advances shards n s).pass = .finishing shards.count := by
  induction n generalizing s with
  | zero => exact hpass
  | succ n ih =>
      rw [advances_succ]
      refine ih (by omega) ?_
      unfold advance
      simp only [hpass]
      rw [if_pos (by omega)]
      show ResetPass.finishing _ = _
      congr 1
      omega

/-- The second pass: what is left is what it has passed before. -/
theorem advances_clearing (n : Nat) (hn : n ≤ shards.count)
    (hpass : s.pass = .clearing (shards.count - n)) :
    (advances shards n s).pass = .clearing shards.count
      ∧ (advances shards n s).controller.flows
        = s.controller.flows.filter fun e =>
            shards.shardOf e.1 < shards.count - n := by
  induction n generalizing s with
  | zero =>
      refine ⟨hpass, (List.filter_eq_self.mpr ?_).symm⟩
      intro e _
      exact decide_eq_true (shards.shardOf_lt e.1)
  | succ n ih =>
      have hadvance : s.advance shards
          = s.clearShard shards (shards.count - (n + 1)) := by
        unfold advance
        simp only [hpass]
        rw [if_pos (by omega)]
      rw [advances_succ, hadvance]
      obtain ⟨hlast, hflows⟩ := @ih
        (s.clearShard shards (shards.count - (n + 1))) (by omega) (by
          show ResetPass.clearing _ = _
          congr 1
          omega)
      refine ⟨hlast, hflows.trans ?_⟩
      show List.filter _ (List.filter _ _) = _
      rw [List.filter_filter]
      refine List.filter_congr ?_
      intro e _
      rw [← Bool.decide_and, decide_eq_decide]
      omega

/-- Left to itself, `reset` comes to what `Flow` has as one step: the
table is empty, and what was taken out of it is finished. -/
theorem reset_uninterrupted (shards : Shards) (c : LocalFlowController) :
    ∃ n s, advances shards n ((start c).step shards .reset) = s
      ∧ s.pass = .idle ∧ s.controller = c.reset ∧ s.AllFinished := by
  have hinv : Inv shards ((start c).step shards .reset) :=
    (inv_start c).step trivial
  -- the first pass, and the turn to the second
  have hfinished := advances_finishing (s := (start c).step shards .reset)
    shards.count (Nat.le_refl _) (by rw [Nat.sub_self]; rfl)
  have hturn : (advances shards (shards.count + 1)
      ((start c).step shards .reset)).pass = .clearing 0 := by
    rw [advances_add, advances_succ]
    unfold advance
    rw [hfinished]
    simp only [Nat.lt_irrefl, if_false]
    rfl
  -- the second pass
  obtain ⟨hcleared, hflows⟩ := advances_clearing
    (s := advances shards (shards.count + 1) ((start c).step shards .reset))
    shards.count (Nat.le_refl _) (by rw [Nat.sub_self]; exact hturn)
  have hempty : (advances shards shards.count (advances shards
      (shards.count + 1) ((start c).step shards .reset))).controller
        = { flows := [] } := by
    refine congrArg LocalFlowController.mk (hflows.trans ?_)
    refine List.filter_eq_nil_iff.mpr ?_
    intro e _ hlt
    have hlt := of_decide_eq_true hlt
    omega
  refine ⟨shards.count + 1 + (shards.count + 1), _, rfl, ?_, ?_,
    (advances_inv _ hinv rfl).finished⟩
  all_goals
    rw [advances_add, advances_add shards shards.count 1, advances_succ]
    unfold advance
    rw [hcleared]
    simp only [Nat.lt_irrefl, if_false]
  · rfl
  · exact hempty

-- ============================================================= a late flow

/-- Two shards, by the parity of the source port. -/
def parity : Shards where
  count := 2
  shardOf key := key.srcPort.toNat % 2
  shardOf_lt key := Nat.mod_lt _ (by decide)

/-- A key of one shard. -/
def evenKey : FlowKey := ⟨0x0A000001, 40000, 0x01010101, 443⟩

/-- And one of another. -/
def oddKey : FlowKey := ⟨0x0A000001, 40001, 0x01010101, 443⟩

/-- A table with a flow that waits. -/
def waiting : LocalFlowController := ⟨[(oddKey, .new [] none)]⟩

/-- A connection registers its flow after the pass that would have
finished it and before the pass that takes it out. -/
def betweenPasses : List Act :=
  [.reset, .advance, .register evenKey [] none, .advance, .advance,
   .advance, .advance]

/-- The old flow is woken; the new one is out of the table, and its waiter
waits on. -/
theorem late_flow_dropped_silently :
    ¬ Along (FlowReset.step parity)
        (fun s act => (s.step parity act).AllFinished) (start waiting)
        betweenPasses
      ∧ (betweenPasses.foldl (FlowReset.step parity) (start waiting)).dropped
        = [(evenKey, .new [] none),
           (oddKey, (FlowState.new [] none).finish .unexpectedClose)]
      ∧ (betweenPasses.foldl (FlowReset.step parity)
          (start waiting)).controller.flows = []
      ∧ (FlowState.new [] none).outcome = none := by
  refine ⟨?_, rfl, rfl, rfl⟩
  intro h
  obtain ⟨-, -, -, -, -, hcleared, -⟩ := h
  cases hcleared (evenKey, .new [] none) List.mem_cons_self

end ZeroDpi.FlowReset
