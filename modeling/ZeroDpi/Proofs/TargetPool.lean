/-
The bookkeeping of the target pool, over every history of calls.

# The ledger

What outlives a `replace` is the history: one slot for every key that was
ever in the pool, with the counters all members and leases of that key
hold. `Ledger` is the invariant of the history alone. It reads a slot by
its key and its two counters only, so refreshing a slot does not touch it,
and a new slot is one more entry with new counters. The members are members
of the history, down to their pings.
-/
import ZeroDpi.Lib.Choice
import ZeroDpi.TargetPool

namespace ZeroDpi

open Lib

-- ================================================================== slots

namespace TargetPool

/-- What the members and leases of one key have in common. -/
structure Slot where
  key : TargetKey
  load : Nat
  traffic : Nat
  deriving DecidableEq

/-- Where a member counts. -/
def Member.slot (m : Member) : Slot := ⟨m.key, m.load, m.traffic⟩

/-- All of them, in the order they were placed in. -/
def slots (pool : TargetPool) : List Slot :=
  pool.state.history.map Member.slot

end TargetPool

/-- Where a lease counts. -/
def TargetLease.slot (l : TargetLease) : TargetPool.Slot :=
  ⟨l.target.key, l.load, l.traffic⟩

namespace TargetPool

/-- How many live leases a key has. -/
def liveLeases (leases : List TargetLease) (key : TargetKey) : Nat :=
  leases.countP fun l => l.target.key = key

/-- The invariant of the history: `seen` are the keys that were ever in
the pool, in order. -/
structure Ledger (pool : TargetPool) (leases : List TargetLease)
    (seen : List TargetKey) : Prop where
  keys : pool.slots.map Slot.key = seen
  nodup : seen.Nodup
  indices : ∀ k i, pool.state.historyIndices.get? k = some i
    ↔ seen[i]? = some k
  loads : (pool.slots.map Slot.load).Nodup
  traffics : (pool.slots.map Slot.traffic).Nodup
  present : ∀ s ∈ pool.slots, s.load < pool.counters.loads.length
    ∧ s.traffic < pool.counters.traffics.length
  leased : ∀ l ∈ leases, l.slot ∈ pool.slots
  counted : ∀ s ∈ pool.slots,
    pool.counters.loads[s.load]? = some (liveLeases leases s.key)

namespace Ledger

variable {pool : TargetPool} {leases : List TargetLease}
  {seen : List TargetKey}

/-- What was seen, by the keys of the history. -/
theorem history (h : Ledger pool leases seen) :
    pool.state.history.map Member.key = seen := by
  rw [← h.keys, slots, List.map_map]
  rfl

/-- A key has one slot. -/
theorem slot_unique (h : Ledger pool leases seen) {s s' : Slot}
    (hs : s ∈ pool.slots) (hs' : s' ∈ pool.slots) (hkey : s.key = s'.key) :
    s = s' := by
  have hnodup : (pool.slots.map Slot.key).Nodup := by
    rw [h.keys]
    exact h.nodup
  exact List.inj_on_of_nodup_map hnodup hs hs' hkey

/-- A load counter belongs to one slot. -/
theorem slot_of_load (h : Ledger pool leases seen) {s s' : Slot}
    (hs : s ∈ pool.slots) (hs' : s' ∈ pool.slots) (hload : s.load = s'.load) :
    s = s' :=
  List.inj_on_of_nodup_map h.loads hs hs' hload

/-- The invariant reads the slots, the index and the counters only. -/
theorem congr {pool' : TargetPool} (h : Ledger pool leases seen)
    (hslots : pool'.slots = pool.slots)
    (hindices : pool'.state.historyIndices = pool.state.historyIndices)
    (hloads : pool'.counters.loads = pool.counters.loads)
    (htraffics : pool'.counters.traffics.length
      = pool.counters.traffics.length) :
    Ledger pool' leases seen where
  keys := by rw [hslots]; exact h.keys
  nodup := h.nodup
  indices := by rw [hindices]; exact h.indices
  loads := by rw [hslots]; exact h.loads
  traffics := by rw [hslots]; exact h.traffics
  present := by rw [hslots, hloads, htraffics]; exact h.present
  leased := by rw [hslots]; exact h.leased
  counted := by rw [hslots, hloads]; exact h.counted

-- ================================================================= leases

/-- One more or one less lease of a slot, counted. -/
theorem recount {leases' : List TargetLease} {f : Nat → Nat} {s : Slot}
    (h : Ledger pool leases seen) (hs : s ∈ pool.slots)
    (hleased : ∀ l ∈ leases', l.slot ∈ pool.slots)
    (hself : liveLeases leases' s.key = f (liveLeases leases s.key))
    (hother : ∀ k, k ≠ s.key → liveLeases leases' k = liveLeases leases k) :
    Ledger { pool with
      counters.loads := pool.counters.loads.modify s.load f } leases' seen where
  keys := h.keys
  nodup := h.nodup
  indices := h.indices
  loads := h.loads
  traffics := h.traffics
  present := by
    intro s' hs'
    rw [List.length_modify]
    exact h.present s' hs'
  leased := hleased
  counted := by
    intro s' hs'
    rw [List.getElem?_modify]
    by_cases hsame : s.load = s'.load
    · obtain rfl := h.slot_of_load hs hs' hsame
      rw [h.counted s hs, hself]
      exact congrArg some (if_pos rfl)
    · have hkey : s'.key ≠ s.key := by
        intro hkey
        exact hsame (congrArg Slot.load (h.slot_unique hs hs' hkey.symm))
      rw [h.counted s' hs', hother _ hkey]
      exact congrArg some (if_neg hsame)

/-- A lease more, and a connection more. -/
theorem acquired {lease : TargetLease} (h : Ledger pool leases seen)
    (hl : lease.slot ∈ pool.slots) :
    Ledger { pool with
      counters.loads := pool.counters.loads.modify lease.load (· + 1) }
      (leases ++ [lease]) seen := by
  refine h.recount (s := lease.slot) hl ?_ ?_ ?_
  · intro l hl'
    rcases List.mem_append.mp hl' with hl' | hl'
    · exact h.leased l hl'
    · rw [List.mem_singleton.mp hl']
      exact hl
  · simp [liveLeases, TargetLease.slot, List.countP_append]
  · intro k hk
    have hne : lease.target.key ≠ k := Ne.symm hk
    simp [liveLeases, List.countP_append, hne]

/-- One less of both. -/
theorem dropped {lease : TargetLease} {i : Nat}
    (h : Ledger pool leases seen) (hi : leases[i]? = some lease) :
    Ledger (pool.dropLease lease) (leases.eraseIdx i) seen := by
  have hmem : lease ∈ leases := List.mem_of_getElem? hi
  have hcount : ∀ k, liveLeases leases k
      = liveLeases (leases.eraseIdx i) k
        + if lease.target.key = k then 1 else 0 := by
    intro k
    obtain ⟨hlt, hget⟩ := List.getElem?_eq_some_iff.mp hi
    have hsplit : leases = leases.take i ++ lease :: leases.drop (i + 1) := by
      rw [← hget, List.getElem_cons_drop, List.take_append_drop]
    have hwhole := congrArg (liveLeases · k) hsplit
    simp only [liveLeases, List.countP_append, List.countP_cons,
      decide_eq_true_eq] at hwhole
    simp only [liveLeases, List.eraseIdx_eq_take_drop_succ,
      List.countP_append]
    omega
  refine h.recount (s := lease.slot) (h.leased lease hmem) ?_ ?_ ?_
  · exact fun l hl => h.leased l (List.mem_of_mem_eraseIdx hl)
  · rw [hcount, if_pos (show lease.target.key = lease.slot.key from rfl)]
    rfl
  · intro k hk
    have hne : lease.target.key ≠ k := Ne.symm hk
    rw [hcount k, if_neg hne, Nat.add_zero]

-- ================================================================ replace

/-- What placing targets leaves, of the history and of the rest. -/
structure Placed (pool : TargetPool) (leases : List TargetLease)
    (seen : List TargetKey) (placed : List Target) (members : List Member)
    (pool' : TargetPool) : Prop where
  ledger : Ledger pool' leases ((placed.map Target.key).foldl see seen)
  targets : members.map Member.target = placed
  linked : ∀ m ∈ members, m ∈ pool'.state.history
  kept : ∀ m ∈ pool.state.history, m.key ∉ placed.map Target.key →
    m ∈ pool'.state.history
  strategy : pool'.strategy = pool.strategy
  generation : pool'.state.generation = pool.state.generation

/-- A key that has a slot keeps it and its counters. -/
theorem place_known (h : Ledger pool leases seen) {target : Target} {i : Nat}
    (hi : pool.state.historyIndices.get? target.key = some i) :
    ∃ member pool', pool.place target = .ok (member, pool')
      ∧ Placed pool leases seen [target] [member] pool' := by
  have hseen : seen[i]? = some target.key := (h.indices _ _).mp hi
  obtain ⟨previous, hprevious, hkey⟩ : ∃ previous,
      pool.state.history[i]? = some previous ∧ previous.key = target.key := by
    rw [← h.keys, slots, List.map_map, List.getElem?_map,
      Option.map_eq_some_iff] at hseen
    exact hseen
  obtain ⟨hlt, -⟩ := List.getElem?_eq_some_iff.mp hprevious
  let member := Member.scanned target previous.load previous.traffic
  refine ⟨member, { pool with
    state.history := pool.state.history.set i member }, ?_, ?_⟩
  · simp only [place, hi, hprevious]
    rfl
  · have hslot : member.slot = previous.slot := by
      show Slot.mk target.key previous.load previous.traffic = previous.slot
      rw [← hkey]
      rfl
    have hslots : (pool.state.history.set i member).map Member.slot
        = pool.slots := by
      refine List.ext_getElem? fun j => ?_
      by_cases hj : i = j
      · subst hj
        rw [slots, List.getElem?_map, List.getElem?_map, hprevious,
          List.getElem?_set_self hlt]
        exact congrArg some hslot
      · rw [slots, List.getElem?_map, List.getElem?_map,
          List.getElem?_set_ne hj]
    have hknown : see seen target.key = seen :=
      if_pos (List.mem_of_getElem? hseen)
    exact {
      ledger := by
        show Ledger _ leases (see seen target.key)
        rw [hknown]
        exact h.congr hslots rfl rfl rfl
      targets := rfl
      linked := by
        intro m hm
        rw [List.mem_singleton.mp hm]
        exact List.mem_set hlt _
      kept := by
        intro m hm hother
        obtain ⟨j, hj⟩ := List.getElem?_of_mem hm
        have hne : i ≠ j := by
          intro heq
          subst heq
          rw [hprevious] at hj
          cases hj
          exact hother (List.mem_singleton.mpr hkey)
        refine List.mem_of_getElem? (i := j) ?_
        show (pool.state.history.set i member)[j]? = some m
        rw [List.getElem?_set_ne hne, hj]
      strategy := rfl
      generation := rfl }

/-- A key that has none gets a slot behind the others, with counters of
its own. -/
theorem place_new (h : Ledger pool leases seen) {target : Target}
    (hi : pool.state.historyIndices.get? target.key = none) :
    ∃ member pool', pool.place target = .ok (member, pool')
      ∧ Placed pool leases seen [target] [member] pool' := by
  have hfresh : target.key ∉ seen := by
    intro hmem
    obtain ⟨j, hj⟩ := List.getElem?_of_mem hmem
    rw [(h.indices _ _).mpr hj] at hi
    cases hi
  have hlen : pool.state.history.length = seen.length := by
    rw [← h.keys, slots, List.length_map, List.length_map]
  refine ⟨_, _, by simp only [place, hi]; rfl, ?_⟩
  have hslots : ∀ {p : TargetPool} {m : Member},
      p.state.history = pool.state.history ++ [m] →
        p.slots = pool.slots ++ [m.slot] := by
    intro p m hp
    rw [slots, hp, List.map_append]
    rfl
  exact {
    ledger := {
      keys := by
        show _ = see seen target.key
        rw [hslots rfl, List.map_append, h.keys, see, if_neg hfresh]
        rfl
      nodup := nodup_see h.nodup target.key
      indices := by
        intro k i
        show (pool.state.historyIndices.insert target.key
          pool.state.history.length).get? k = some i
            ↔ (see seen target.key)[i]? = some k
        rw [see, if_neg hfresh, getElem?_concat_eq_some, hlen]
        by_cases hk : k = target.key
        · subst hk
          rw [Table.get?_insert_self, Option.some.injEq]
          constructor
          · rintro rfl
            exact .inr ⟨rfl, rfl⟩
          · rintro (hold | ⟨rfl, -⟩)
            · exact absurd (List.mem_of_getElem? hold) hfresh
            · rfl
        · rw [Table.get?_insert_ne hk, h.indices]
          constructor
          · exact .inl
          · rintro (hold | ⟨-, hkey⟩)
            · exact hold
            · exact absurd hkey.symm hk
      loads := by
        rw [hslots rfl, List.map_append]
        exact nodup_concat h.loads fun hmem => by
          obtain ⟨s, hs, hload⟩ := List.mem_map.mp hmem
          exact Nat.lt_irrefl _ (hload ▸ (h.present s hs).1)
      traffics := by
        rw [hslots rfl, List.map_append]
        exact nodup_concat h.traffics fun hmem => by
          obtain ⟨s, hs, htraffic⟩ := List.mem_map.mp hmem
          exact Nat.lt_irrefl _ (htraffic ▸ (h.present s hs).2)
      present := by
        rw [hslots rfl]
        intro s hs
        rw [List.length_append, List.length_append]
        rcases List.mem_append.mp hs with hs | hs
        · have := h.present s hs
          simp only [List.length_singleton]
          omega
        · rw [List.mem_singleton.mp hs]
          exact ⟨Nat.lt_succ_self _, Nat.lt_succ_self _⟩
      leased := by
        rw [hslots rfl]
        exact fun l hl => List.mem_append_left _ (h.leased l hl)
      counted := by
        rw [hslots rfl]
        intro s hs
        rcases List.mem_append.mp hs with hs | hs
        · rw [List.getElem?_append_left (h.present s hs).1]
          exact h.counted s hs
        · rw [List.mem_singleton.mp hs]
          -- no lease of a key that was never seen
          have hnone : liveLeases leases target.key = 0 := by
            refine List.countP_eq_zero.mpr fun l hl => ?_
            have hkey : l.target.key ∈ seen := by
              rw [← h.keys]
              exact List.mem_map_of_mem (h.leased l hl)
            simp only [decide_eq_true_eq]
            exact fun heq => hfresh (heq ▸ hkey)
          show (pool.counters.loads ++ [0])[pool.counters.loads.length]?
            = some (liveLeases leases target.key)
          rw [hnone, List.getElem?_concat_length] }
    targets := rfl
    linked := by
      intro m hm
      rw [List.mem_singleton.mp hm]
      exact List.mem_append_right _ List.mem_cons_self
    kept := fun m hm _ => List.mem_append_left _ hm
    strategy := rfl
    generation := rfl }

/-- A target is placed, old or new. -/
theorem place (h : Ledger pool leases seen) (target : Target) :
    ∃ member pool', pool.place target = .ok (member, pool')
      ∧ Placed pool leases seen [target] [member] pool' := by
  cases hi : pool.state.historyIndices.get? target.key with
  | some i => exact h.place_known hi
  | none => exact h.place_new hi

/-- Targets of different keys, one after the other. -/
theorem placeAll (h : Ledger pool leases seen) {targets : List Target}
    (hnodup : (targets.map Target.key).Nodup) :
    ∃ members pool', pool.placeAll targets = .ok (members, pool')
      ∧ Placed pool leases seen targets members pool' := by
  induction targets generalizing pool seen with
  | nil => exact ⟨[], pool, rfl, h, rfl, nofun, fun m hm _ => hm, rfl, rfl⟩
  | cons target rest ih =>
      obtain ⟨hfresh, hrest⟩ := List.nodup_cons.mp hnodup
      obtain ⟨member, pool₁, hplace, hfirst⟩ := h.place target
      obtain ⟨members, pool₂, hplaceAll, hothers⟩ :=
        ih hfirst.ledger hrest
      have hkey : member.key = target.key :=
        congrArg Target.key (List.cons.inj hfirst.targets).1
      refine ⟨member :: members, pool₂, ?_, ?_⟩
      · simp only [TargetPool.placeAll]
        exact bind_eq_ok.mpr ⟨_, hplace, bind_eq_ok.mpr ⟨_, hplaceAll, rfl⟩⟩
      · exact {
          ledger := hothers.ledger
          targets := by
            rw [List.map_cons, hothers.targets,
              (List.cons.inj hfirst.targets).1]
          linked := by
            intro m hm
            rcases List.mem_cons.mp hm with rfl | hm
            · -- the targets behind it have other keys
              refine hothers.kept m (hfirst.linked m List.mem_cons_self) ?_
              rw [hkey]
              exact hfresh
            · exact hothers.linked m hm
          kept := by
            intro m hm hother
            rw [List.map_cons, List.mem_cons, not_or] at hother
            refine hothers.kept m (hfirst.kept m hm ?_) hother.2
            exact fun hmem => hother.1 (List.mem_singleton.mp hmem)
          strategy := hothers.strategy.trans hfirst.strategy
          generation := hothers.generation.trans hfirst.generation }

end Ledger

-- ======================================================== first of each key

/-- Each key once. -/
theorem firstOfKeys_nodup (seen : List TargetKey) (targets : List Target) :
    ((firstOfKeys seen targets).map Target.key).Nodup
      ∧ ∀ t ∈ firstOfKeys seen targets, t.key ∉ seen := by
  induction targets generalizing seen with
  | nil => exact ⟨List.nodup_nil, nofun⟩
  | cons t rest ih =>
      unfold firstOfKeys
      split
      case isTrue => exact ih seen
      case isFalse hfresh =>
        obtain ⟨hnodup, hother⟩ := ih (t.key :: seen)
        constructor
        · refine List.nodup_cons.mpr ⟨fun hmem => ?_, hnodup⟩
          obtain ⟨t', ht', hkey⟩ := List.mem_map.mp hmem
          exact hother t' ht' (hkey ▸ List.mem_cons_self)
        · intro t' ht'
          rcases List.mem_cons.mp ht' with rfl | ht'
          · exact hfresh
          · exact fun hmem => hother t' ht' (List.mem_cons_of_mem _ hmem)

/-- And no others. -/
theorem length_firstOfKeys_le (seen : List TargetKey)
    (targets : List Target) :
    (firstOfKeys seen targets).length ≤ targets.length := by
  induction targets generalizing seen with
  | nil => exact Nat.le_refl 0
  | cons t rest ih =>
      unfold firstOfKeys
      split
      · exact Nat.le_succ_of_le (ih seen)
      · exact Nat.succ_le_succ (ih _)

/-- The targets that are left out were seen. -/
theorem firstOfKeys_see {passed seen : List TargetKey}
    (h : ∀ k ∈ passed, k ∈ seen) (targets : List Target) :
    ((firstOfKeys passed targets).map Target.key).foldl see seen
      = (targets.map Target.key).foldl see seen := by
  induction targets generalizing passed seen with
  | nil => rfl
  | cons t rest ih =>
      unfold firstOfKeys
      split
      case isTrue hpassed =>
        rw [List.map_cons, List.foldl_cons,
          show see seen t.key = seen from if_pos (h _ hpassed)]
        exact ih h
      case isFalse =>
        refine ih fun k hk => mem_see.mpr ?_
        rcases List.mem_cons.mp hk with rfl | hk
        · exact .inr rfl
        · exact .inl (h k hk)

/-- What `replace` makes of its argument. -/
theorem uniqueTargets_spec {targets : List Target} (hne : targets ≠ []) :
    ((uniqueTargets targets targets.length).map Target.key).Nodup
      ∧ uniqueTargets targets targets.length ≠ []
      ∧ ∀ seen, ((uniqueTargets targets targets.length).map
          Target.key).foldl see seen
        = (targets.map Target.key).foldl see seen := by
  have hall : uniqueTargets targets targets.length
      = firstOfKeys [] targets :=
    List.take_of_length_le (length_firstOfKeys_le [] targets)
  rw [hall]
  refine ⟨(firstOfKeys_nodup [] targets).1, ?_,
    fun seen => firstOfKeys_see (by simp) targets⟩
  obtain ⟨t, rest, rfl⟩ := List.exists_cons_of_ne_nil hne
  simp [firstOfKeys]

-- ============================================================== selection

/-- The member with the least known ping, the first of several. -/
structure LeastPing (pool : TargetPool) (index : Nat) (ping : Duration) :
    Prop where
  known : ∃ m, pool.state.members[index]? = some m ∧ m.ping = some ping
  least : ∀ (j : Nat) (m : Member) q, pool.state.members[j]? = some m →
    m.ping = some q → ping ≤ q
  first : ∀ (j : Nat) (m : Member) q, j < index →
    pool.state.members[j]? = some m → m.ping = some q → ping < q

/-- A member with the least load, the first at or cyclically behind the
cursor. -/
structure LeastLoad (pool : TargetPool) (index offset : Nat) : Prop where
  place : index = (pool.state.cursor + offset) % pool.state.members.length
  within : offset < pool.state.members.length
  least : ∀ j < pool.state.members.length, pool.loadAt index ≤ pool.loadAt j
  first : ∀ o < offset, pool.loadAt index
    < pool.loadAt ((pool.state.cursor + o) % pool.state.members.length)

/-- What each strategy may choose. -/
def Selects (pool : TargetPool) (index : Nat) : Prop :=
  match pool.strategy with
  | .roundRobin => index = pool.state.cursor
  | .random => index < pool.state.members.length
  | .leastPing => (∃ ping, LeastPing pool index ping)
      ∨ ((∀ m ∈ pool.state.members, m.ping = none)
        ∧ index = pool.state.cursor)
  | .leastLoad => ∃ offset, LeastLoad pool index offset

/-- The random index is one of the pool's. -/
theorem randomIndex_lt (state : UInt64) {count : Nat} (h : 0 < count) :
    (randomIndex state count).2 < count := by
  have hword : ∀ z : UInt64, (z % count.toUInt64).toNat < count := by
    intro z
    have hbound : count.toUInt64.toNat = count % 2 ^ 64 := by
      rw [Nat.toUInt64_eq, UInt64.toNat_ofNat']
    rw [UInt64.toNat_mod, hbound]
    by_cases hzero : count % 2 ^ 64 = 0
    · -- more members than a word can count
      have hz := z.toNat_lt
      rw [hzero, Nat.mod_zero]
      omega
    · exact Nat.lt_of_lt_of_le (Nat.mod_lt _ (Nat.pos_of_ne_zero hzero))
        (Nat.mod_le _ _)
  exact hword _

/-- The members with a ping. -/
theorem mem_knownPings {pool : TargetPool} {i : Nat} {ping : Duration} :
    (i, ping) ∈ pool.knownPings
      ↔ ∃ m, pool.state.members[i]? = some m ∧ m.ping = some ping := by
  unfold knownPings
  rw [List.mem_filterMap]
  constructor
  · intro h
    obtain ⟨⟨m, j⟩, hm, hping⟩ := h
    obtain ⟨q, hq, heq⟩ := Option.map_eq_some_iff.mp hping
    cases heq
    exact ⟨m, List.mem_zipIdx_iff_getElem?.mp hm, hq⟩
  · intro h
    obtain ⟨m, hm, hping⟩ := h
    refine ⟨(m, i), List.mem_zipIdx_iff_getElem?.mpr hm, ?_⟩
    simp [hping]

/-- In their order. -/
theorem knownPings_sorted (pool : TargetPool) :
    pool.knownPings.Pairwise fun a b => a.1 < b.1 := by
  unfold knownPings
  rw [List.pairwise_filterMap]
  have hidx : pool.state.members.zipIdx.Pairwise fun a b => a.2 < b.2 := by
    rw [← List.pairwise_map (f := Prod.snd) (R := (· < ·)),
      List.zipIdx_map_snd]
    exact List.pairwise_lt_range'
  refine hidx.imp fun hlt b hb b' hb' => ?_
  obtain ⟨q, -, rfl⟩ := Option.map_eq_some_iff.mp hb
  obtain ⟨q', -, rfl⟩ := Option.map_eq_some_iff.mp hb'
  exact hlt

/-- The one that is chosen has the least. -/
theorem leastPing_of_minOn? {pool : TargetPool} {index : Nat}
    {ping : Duration}
    (h : pool.knownPings.minOn? Prod.snd = some (index, ping)) :
    LeastPing pool index ping := by
  obtain ⟨before, after, hsplit, hbefore, hafter⟩ := minOn?_split h
  have hsorted := knownPings_sorted pool
  rw [hsplit, List.pairwise_append, List.pairwise_cons] at hsorted
  obtain ⟨-, ⟨hbehind, -⟩, -⟩ := hsorted
  have hplace : ∀ j q, (j, q) ∈ pool.knownPings →
      (j, q) ∈ before ∨ (j, q) = (index, ping) ∨ (j, q) ∈ after := by
    intro j q hmem
    rw [hsplit] at hmem
    simpa using hmem
  refine ⟨mem_knownPings.mp (by rw [hsplit]; simp), ?_, ?_⟩
  · intro j m q hm hq
    rcases hplace j q (mem_knownPings.mpr ⟨m, hm, hq⟩) with hmem | heq | hmem
    · exact Nat.le_of_lt (hbefore _ hmem)
    · cases heq
      exact Nat.le_refl _
    · exact hafter _ hmem
  · intro j m q hj hm hq
    rcases hplace j q (mem_knownPings.mpr ⟨m, hm, hq⟩) with hmem | heq | hmem
    · exact hbefore _ hmem
    · cases heq
      exact absurd hj (Nat.lt_irrefl _)
    · exact absurd (hbehind _ hmem) (Nat.not_lt_of_gt hj)

/-- Or the least load, from the cursor on. -/
theorem leastLoad_of_minOn? {pool : TargetPool} {index : Nat}
    (hcursor : pool.state.cursor < pool.state.members.length)
    (h : ((List.range pool.state.members.length).map fun offset =>
        (pool.state.cursor + offset)
          % pool.state.members.length).minOn? pool.loadAt = some index) :
    ∃ offset, LeastLoad pool index offset := by
  generalize hn : pool.state.members.length = n at hcursor h
  obtain ⟨before, after, hsplit, hbefore, hafter⟩ := minOn?_split h
  have hat : ∀ o i, (before ++ index :: after)[o]? = some i →
      o < n ∧ (pool.state.cursor + o) % n = i := by
    intro o i ho
    rw [← hsplit, List.getElem?_map, Option.map_eq_some_iff] at ho
    obtain ⟨o', ho', heq⟩ := ho
    have hlt : o < n := by
      obtain ⟨hlt, -⟩ := List.getElem?_eq_some_iff.mp ho'
      rwa [List.length_range] at hlt
    rw [List.getElem?_range hlt] at ho'
    cases ho'
    exact ⟨hlt, heq⟩
  have hin : ∀ o < n,
      (before ++ index :: after)[o]? = some ((pool.state.cursor + o) % n) := by
    intro o ho
    rw [← hsplit, List.getElem?_map, List.getElem?_range ho]
    rfl
  obtain ⟨hwithin, hplace⟩ := hat before.length index (by simp)
  refine ⟨before.length, by rw [hn, hplace], by rw [hn]; exact hwithin, ?_, ?_⟩
  · intro j hj
    rw [hn] at hj
    -- every member is somewhere on the way round
    have hround : (pool.state.cursor + (j + n - pool.state.cursor) % n) % n
        = j := by
      rw [Nat.add_mod_mod, Nat.add_sub_cancel' (by omega), Nat.add_mod_right,
        Nat.mod_eq_of_lt hj]
    have hmem := List.mem_of_getElem?
      (hin ((j + n - pool.state.cursor) % n) (Nat.mod_lt _ (by omega)))
    rw [hround] at hmem
    rcases List.mem_append.mp hmem with hmem | hmem
    · exact Nat.le_of_lt (hbefore j hmem)
    · rcases List.mem_cons.mp hmem with rfl | hmem
      · exact Nat.le_refl _
      · exact hafter j hmem
  · intro o ho
    have hearly := hin o (by omega)
    rw [List.getElem?_append_left ho] at hearly
    rw [hn]
    exact hbefore _ (List.mem_of_getElem? hearly)

-- ========================================================== the invariant

/-- The invariant of the pool and its leases. -/
structure Inv (s : Shared) (seen : List TargetKey) : Prop where
  ledger : Ledger s.pool s.leases seen
  nonempty : s.pool.state.members ≠ []
  distinct : (s.pool.state.members.map Member.key).Nodup
  linked : ∀ m ∈ s.pool.state.members, m ∈ s.pool.state.history
  cursor : s.pool.state.cursor < s.pool.state.members.length

/-- `replace` establishes it, whatever the members were. -/
theorem Ledger.replace {pool : TargetPool} {leases : List TargetLease}
    {seen : List TargetKey} (h : Ledger pool leases seen)
    {targets : List Target} (hne : targets ≠ []) :
    ∃ changed pool', pool.replace targets = .ok (changed, pool')
      ∧ Inv ⟨pool', leases⟩ ((targets.map Target.key).foldl see seen)
      ∧ pool'.strategy = pool.strategy ∧ pool'.state.cursor = 0
      ∧ pool'.state.generation = pool.state.generation + 1 := by
  obtain ⟨hnodup, hsome, hseen⟩ := uniqueTargets_spec hne
  obtain ⟨members, pool', hplace, hplaced⟩ := h.placeAll hnodup
  have hempty : targets.isEmpty = false := by simpa using hne
  have hkeys : members.map Member.key
      = (uniqueTargets targets targets.length).map Target.key := by
    rw [← hplaced.targets, List.map_map]
    rfl
  have hreplace : pool.replace targets
      = .ok (decide (pool.state.members.map Member.key
          ≠ (uniqueTargets targets targets.length).map Target.key),
        { pool' with
          state.members := members
          state.cursor := 0
          state.generation := pool'.state.generation + 1 }) := by
    simp only [TargetPool.replace, hempty, Bool.false_eq_true, if_false]
    exact bind_eq_ok.mpr ⟨_, hplace, rfl⟩
  refine ⟨_, _, hreplace, ?_, hplaced.strategy, rfl,
    congrArg (· + 1) hplaced.generation⟩
  have hmembers : members ≠ [] := by
    rintro rfl
    exact hsome hplaced.targets.symm
  exact {
    ledger := by
      rw [← hseen]
      exact hplaced.ledger.congr rfl rfl rfl rfl
    nonempty := hmembers
    distinct := by
      show (members.map Member.key).Nodup
      rw [hkeys]
      exact hnodup
    linked := hplaced.linked
    cursor := List.length_pos_iff.mpr hmembers }

/-- A pool without a history. -/
theorem Ledger.empty (strategy : SelectionStrategy) (seed : UInt64) :
    Ledger { strategy := strategy
             state := {
               members := [], history := [], historyIndices := []
               cursor := 0, generation := 0, random := seed }
             counters := { loads := [], traffics := [] } } [] [] where
  keys := rfl
  nodup := List.nodup_nil
  indices k i := by simp [Table.get?]
  loads := List.nodup_nil
  traffics := List.nodup_nil
  present := nofun
  leased := nofun
  counted := nofun

/-- A new pool. -/
theorem new_inv (strategy : SelectionStrategy) (seed : UInt64)
    {targets : List Target} (hne : targets ≠ []) :
    ∃ pool, TargetPool.new strategy seed targets = .ok (some pool)
      ∧ Inv ⟨pool, []⟩ ((targets.map Target.key).foldl see [])
      ∧ pool.strategy = strategy ∧ pool.state.cursor = 0 := by
  obtain ⟨changed, pool, hreplace, hinv, hstrategy, hcursor, -⟩ :=
    (Ledger.empty strategy seed).replace hne
  have hempty : targets.isEmpty = false := by simpa using hne
  refine ⟨pool, ?_, hinv, hstrategy, hcursor⟩
  simp only [TargetPool.new, hempty, Bool.false_eq_true, if_false]
  exact bind_eq_ok.mpr ⟨_, hreplace, rfl⟩

namespace Inv

variable {s : Shared} {seen : List TargetKey}

/-- Where a member's slot is. -/
theorem history_index (h : Inv s seen) {m : Member}
    (hm : m ∈ s.pool.state.members) :
    ∃ i, s.pool.state.historyIndices.get? m.key = some i
      ∧ s.pool.state.history[i]? = some m := by
  obtain ⟨i, hi⟩ := List.getElem?_of_mem (h.linked m hm)
  refine ⟨i, (h.ledger.indices _ _).mpr ?_, hi⟩
  rw [← h.ledger.history, List.getElem?_map, hi]
  rfl

/-- Every strategy chooses a member, and its own. -/
theorem select (h : Inv s seen) :
    ∃ index random, s.pool.select = .ok (index, random)
      ∧ index < s.pool.state.members.length ∧ Selects s.pool index := by
  have hpos : 0 < s.pool.state.members.length :=
    List.length_pos_iff.mpr h.nonempty
  have hmod : s.pool.state.cursor % s.pool.state.members.length
      = s.pool.state.cursor := Nat.mod_eq_of_lt h.cursor
  unfold TargetPool.select Selects
  simp only [Nat.ne_of_gt hpos, if_false, hmod]
  cases s.pool.strategy with
  | roundRobin => exact ⟨_, _, rfl, h.cursor, rfl⟩
  | random =>
      exact ⟨_, _, rfl, randomIndex_lt _ hpos, randomIndex_lt _ hpos⟩
  | leastPing =>
      refine ⟨_, _, rfl, ?_⟩
      cases hmin : s.pool.knownPings.minOn? Prod.snd with
      | none =>
          refine ⟨h.cursor, .inr ⟨?_, rfl⟩⟩
          intro m hm
          cases hping : m.ping with
          | none => rfl
          | some ping =>
              obtain ⟨i, hi⟩ := List.getElem?_of_mem hm
              have hknown := mem_knownPings.mpr ⟨m, hi, hping⟩
              obtain ⟨a, ha⟩ := exists_minOn? Prod.snd
                (List.ne_nil_of_mem hknown)
              rw [hmin] at ha
              cases ha
      | some choice =>
          have hleast := leastPing_of_minOn? hmin
          obtain ⟨m, hm, -⟩ := hleast.known
          obtain ⟨hlt, -⟩ := List.getElem?_eq_some_iff.mp hm
          exact ⟨hlt, .inl ⟨_, hleast⟩⟩
  | leastLoad =>
      have hsome : (List.range s.pool.state.members.length).map
          (fun offset => (s.pool.state.cursor + offset)
            % s.pool.state.members.length) ≠ [] := by
        rw [Ne, List.map_eq_nil_iff, List.range_eq_nil]
        exact Nat.ne_of_gt hpos
      obtain ⟨index, hmin⟩ := exists_minOn? s.pool.loadAt hsome
      obtain ⟨offset, hleast⟩ := leastLoad_of_minOn? h.cursor hmin
      simp only [hmin]
      refine ⟨_, _, rfl, ?_, offset, hleast⟩
      rw [hleast.place]
      exact Nat.mod_lt _ hpos

/-- What `acquire` does with the member it chose. -/
structure Acquired (s : Shared) (seen : List TargetKey) (index : Nat)
    (member : Member) (s' : Shared) : Prop where
  selects : Selects s.pool index
  chosen : s.pool.state.members[index]? = some member
  inv : Inv s' seen
  leases : s'.leases
    = s.leases ++ [⟨member.target, member.load, member.traffic⟩]
  strategy : s'.pool.strategy = s.pool.strategy
  members : s'.pool.state.members = s.pool.state.members
  cursor : s'.pool.state.cursor
    = (index + 1) % s.pool.state.members.length
  loads : s'.pool.counters.loads
    = s.pool.counters.loads.modify member.load (· + 1)

/-- A member is leased, and its counter and the cursor move. -/
theorem acquire (h : Inv s seen) :
    ∃ index member s', s.step .acquire = .ok s'
      ∧ Acquired s seen index member s' := by
  obtain ⟨index, random, hselect, hlt, hselects⟩ := h.select
  have hget := List.getElem?_eq_getElem hlt
  generalize s.pool.state.members[index] = member at hget
  have hacquire : s.pool.acquire
      = .ok (⟨member.target, member.load, member.traffic⟩, { s.pool with
          state.cursor := (index + 1) % s.pool.state.members.length
          state.random := random
          counters.loads :=
            s.pool.counters.loads.modify member.load (· + 1) }) := by
    unfold TargetPool.acquire
    refine bind_eq_ok.mpr ⟨_, hselect, ?_⟩
    simp only [hget]
    rfl
  have hslot : TargetLease.slot ⟨member.target, member.load, member.traffic⟩
      ∈ s.pool.slots :=
    List.mem_map.mpr ⟨member, h.linked _ (List.mem_of_getElem? hget), rfl⟩
  refine ⟨index, member, _, bind_eq_ok.mpr ⟨_, hacquire, rfl⟩, ?_⟩
  exact {
    selects := hselects
    chosen := hget
    inv := {
      ledger := (h.ledger.acquired hslot).congr rfl rfl rfl rfl
      nonempty := h.nonempty
      distinct := h.distinct
      linked := h.linked
      cursor := Nat.mod_lt _ (List.length_pos_iff.mpr h.nonempty) }
    leases := rfl
    strategy := rfl
    members := rfl
    cursor := rfl
    loads := rfl }

/-- A lease is dropped. -/
theorem drop (h : Inv s seen) {i : Nat} {lease : TargetLease}
    (hi : s.leases[i]? = some lease) :
    Inv ⟨s.pool.dropLease lease, s.leases.eraseIdx i⟩ seen where
  ledger := h.ledger.dropped hi
  nonempty := h.nonempty
  distinct := h.distinct
  linked := h.linked
  cursor := h.cursor

/-- Traffic is counted. -/
theorem relayed (h : Inv s seen) (lease : TargetLease)
    (c2s s2c : UInt64) :
    Inv { s with pool := s.pool.relayed lease c2s s2c } seen where
  ledger := h.ledger.congr rfl rfl rfl (List.length_modify _ _ _)
  nonempty := h.nonempty
  distinct := h.distinct
  linked := h.linked
  cursor := h.cursor

/-- A measurement reaches the member and its slot alike. -/
theorem updatePing (h : Inv s seen) (generation : UInt64) (target : Target)
    (ping : Option Duration) :
    ∃ pool', s.pool.updatePing generation target ping = .ok pool'
      ∧ Inv { s with pool := pool' } seen
      ∧ pool'.strategy = s.pool.strategy
      ∧ pool'.state.cursor = s.pool.state.cursor
      ∧ pool'.state.members.length = s.pool.state.members.length := by
  unfold TargetPool.updatePing
  split
  case isFalse => exact ⟨_, rfl, h, rfl, rfl, rfl⟩
  case isTrue =>
    split
    case h_1 => exact ⟨_, rfl, h, rfl, rfl, rfl⟩
    case h_2 j hj =>
      obtain ⟨hlt, hkey, -⟩ := List.findIdx?_eq_some_iff_getElem.mp hj
      have hkey : s.pool.state.members[j].key = target.key := by
        simpa using hkey
      obtain ⟨i, hi, hslot⟩ := h.history_index (List.getElem_mem hlt)
      obtain ⟨hilt, -⟩ := List.getElem?_eq_some_iff.mp hslot
      rw [← hkey, hi]
      simp only [hilt, if_true]
      have hslots : (s.pool.state.history.modify i (.measured ping)).map
          Member.slot = s.pool.slots :=
        map_modify_eq (f := Member.measured ping) (fun _ => rfl) _ _
      have hkeys : (s.pool.state.members.modify j (.measured ping)).map
          Member.key = s.pool.state.members.map Member.key :=
        map_modify_eq (f := Member.measured ping) (fun _ => rfl) _ _
      refine ⟨_, rfl, ?_, rfl, rfl, List.length_modify _ _ _⟩
      exact {
        ledger := h.ledger.congr hslots rfl rfl rfl
        nonempty := by
          rw [← List.length_pos_iff, List.length_modify, List.length_pos_iff]
          exact h.nonempty
        distinct := by
          rw [hkeys]
          exact h.distinct
        linked := by
          intro m hm
          obtain ⟨j', hj'⟩ := List.getElem?_of_mem hm
          rw [List.getElem?_modify] at hj'
          obtain ⟨m', hm', rfl⟩ := Option.map_eq_some_iff.mp hj'
          by_cases hsame : j = j'
          · -- the measured member, in its slot
            subst hsame
            rw [List.getElem?_eq_getElem hlt] at hm'
            cases hm'
            refine List.mem_of_getElem? (i := i) ?_
            rw [List.getElem?_modify, hslot]
            simp
          · -- another one, of another key
            have hother : m'.key ≠ s.pool.state.members[j].key := by
              intro heq
              exact hsame (index_of_nodup_map h.distinct
                (List.getElem?_eq_getElem hlt) hm' heq.symm)
            obtain ⟨i', hi', hslot'⟩ :=
              h.history_index (List.mem_of_getElem? hm')
            have hne : i ≠ i' := by
              rintro rfl
              rw [hslot] at hslot'
              cases hslot'
              exact hother rfl
            refine List.mem_of_getElem? (i := i') ?_
            rw [List.getElem?_modify, hslot']
            simp [hne, hsame]
        cursor := by
          rw [List.length_modify]
          exact h.cursor }

end Inv

-- ============================================================ every history

/-- The keys a call brings in. -/
def Call.sees (seen : List TargetKey) : Call → List TargetKey
  | .replace targets => (targets.map Target.key).foldl see seen
  | _ => seen

/-- The keys that were ever in the pool, in the order they came. -/
def everSeen (targets : List Target) (calls : List Call) : List TargetKey :=
  calls.foldl Call.sees ((targets.map Target.key).foldl see [])

/-- No call fails, and every call keeps the invariant. -/
theorem Inv.step {s : Shared} {seen : List TargetKey} (h : Inv s seen)
    (call : Call) :
    ∃ s', s.step call = .ok s' ∧ Inv s' (call.sees seen) := by
  cases call with
  | replace targets =>
      by_cases hne : targets = []
      · subst hne
        exact ⟨s, rfl, h⟩
      · obtain ⟨changed, pool', hreplace, hinv, -⟩ := h.ledger.replace hne
        exact ⟨_, bind_eq_ok.mpr ⟨_, hreplace, rfl⟩, hinv⟩
  | acquire =>
      obtain ⟨_, _, s', hstep, hacquired⟩ := h.acquire
      exact ⟨s', hstep, hacquired.inv⟩
  | drop i =>
      simp only [Shared.step]
      cases hi : s.leases[i]? with
      | none => exact ⟨s, rfl, h⟩
      | some lease => exact ⟨_, rfl, h.drop hi⟩
  | updatePing generation target ping =>
      obtain ⟨pool', hupdate, hinv, -⟩ := h.updatePing generation target ping
      exact ⟨_, bind_eq_ok.mpr ⟨_, hupdate, rfl⟩, hinv⟩
  | relayed i c2s s2c =>
      simp only [Shared.step]
      cases s.leases[i]? with
      | none => exact ⟨s, rfl, h⟩
      | some lease => exact ⟨_, rfl, h.relayed lease c2s s2c⟩

/-- Every history of calls. -/
theorem Inv.run {s : Shared} {seen : List TargetKey} (h : Inv s seen)
    (calls : List Call) :
    ∃ s', calls.foldlM Shared.step s = .ok s'
      ∧ Inv s' (calls.foldl Call.sees seen) := by
  induction calls generalizing s seen with
  | nil => exact ⟨s, rfl, h⟩
  | cons call rest ih =>
      obtain ⟨s₁, hstep, h₁⟩ := h.step call
      obtain ⟨s', hrun, h'⟩ := ih h₁
      refine ⟨s', ?_, h'⟩
      rw [List.foldlM_cons]
      exact bind_eq_ok.mpr ⟨s₁, hstep, hrun⟩

/-- The books of the pool, as they are read from outside. -/
structure Bookkept (s : Shared) (seen : List TargetKey) : Prop where
  nonempty : s.pool.state.members ≠ []
  distinct : (s.pool.state.members.map Member.key).Nodup
  /-- The index maps a key to the slot that holds it, and nothing else. -/
  indices : ∀ k i, s.pool.state.historyIndices.get? k = some i
    ↔ ∃ slot, s.pool.state.history[i]? = some slot ∧ slot.key = k
  /-- There is one slot for every key that was ever seen. -/
  history : s.pool.state.history.map Member.key = seen
  oneSlot : seen.Nodup
  ownLoad : (s.pool.state.history.map Member.load).Nodup
  ownTraffic : (s.pool.state.history.map Member.traffic).Nodup
  shared : ∀ m ∈ s.pool.state.members, ∃ slot ∈ s.pool.state.history,
    slot.key = m.key ∧ slot.load = m.load ∧ slot.traffic = m.traffic
      ∧ slot.ping = m.ping ∧ slot.pingSource = m.pingSource
  counted : ∀ slot ∈ s.pool.state.history, s.pool.counters.loads[slot.load]?
    = some (liveLeases s.leases slot.key)
  /-- A lease that is dropped takes one from a counter above zero. -/
  noUnderflow : ∀ lease ∈ s.leases, ∃ n,
    s.pool.counters.loads[lease.load]? = some (n + 1)
  active : s.pool.activeConnections = s.leases.length
  /-- The snapshot: the members in order, then the other keys. -/
  snapshotKeys : s.pool.snapshot.map (·.target.key)
    = s.pool.state.members.map Member.key
      ++ seen.filter (· ∉ s.pool.state.members.map Member.key)
  snapshotOnce : (s.pool.snapshot.map (·.target.key)).Perm seen
  snapshotRanks : s.pool.snapshot.map (·.rank)
    = ((List.range s.pool.state.members.length).map fun i => some (i + 1))
      ++ List.replicate (seen.length - s.pool.state.members.length) none

/-- The members are part of what was seen. -/
theorem Inv.members_seen {s : Shared} {seen : List TargetKey}
    (h : Inv s seen) : ∀ k ∈ s.pool.state.members.map Member.key, k ∈ seen := by
  intro k hk
  obtain ⟨m, hm, rfl⟩ := List.mem_map.mp hk
  rw [← h.ledger.history]
  exact List.mem_map.mpr ⟨m, h.linked m hm, rfl⟩

/-- The members and the rest of the keys are all keys. -/
theorem Inv.members_append_rest {s : Shared} {seen : List TargetKey}
    (h : Inv s seen) :
    (s.pool.state.members.map Member.key
      ++ seen.filter (· ∉ s.pool.state.members.map Member.key)).Perm seen := by
  have hsplit := List.filter_append_perm
    (· ∈ s.pool.state.members.map Member.key) seen
  refine List.Perm.trans (List.Perm.append ?_ ?_) hsplit
  · refine (List.perm_ext_iff_of_nodup h.distinct
      (h.ledger.nodup.filter _)).mpr fun k => ?_
    rw [List.mem_filter]
    constructor
    · exact fun hk => ⟨h.members_seen k hk, by simpa using hk⟩
    · intro hk
      simpa using hk.2
  · exact List.Perm.of_eq (List.filter_congr fun k _ => decide_not)

/-- The keys of a snapshot. -/
theorem Inv.snapshot_keys {s : Shared} {seen : List TargetKey}
    (h : Inv s seen) :
    s.pool.snapshot.map (·.target.key)
      = s.pool.state.members.map Member.key
        ++ seen.filter (· ∉ s.pool.state.members.map Member.key) := by
  rw [snapshot, List.map_append, List.map_map, List.map_map,
    ← h.ledger.history, List.filter_map]
  refine congrArg₂ _ ?_ rfl
  have hfst := congrArg (List.map Member.key)
    (List.zipIdx_map_fst 0 s.pool.state.members)
  rw [List.map_map] at hfst
  exact hfst

/-- The ranks of a snapshot. -/
theorem Inv.snapshot_ranks {s : Shared} {seen : List TargetKey}
    (h : Inv s seen) :
    s.pool.snapshot.map (·.rank)
      = ((List.range s.pool.state.members.length).map fun i => some (i + 1))
        ++ List.replicate (seen.length - s.pool.state.members.length)
          none := by
  have hall := h.members_append_rest.length_eq
  rw [← h.snapshot_keys] at hall
  simp only [snapshot, List.length_map, List.length_append,
    List.length_zipIdx] at hall
  rw [snapshot, List.map_append, List.map_map, List.map_map]
  refine congrArg₂ _ ?_ ?_
  · have hsnd := congrArg (List.map fun i => some (i + 1))
      (List.zipIdx_map_snd 0 s.pool.state.members)
    rw [List.map_map, ← List.range_eq_range'] at hsnd
    exact hsnd
  · rw [← hall, Nat.add_sub_cancel_left]
    exact List.map_const'

/-- Connections are leases. -/
theorem Inv.active_connections {s : Shared} {seen : List TargetKey}
    (h : Inv s seen) : s.pool.activeConnections = s.leases.length := by
  have hcounts : (s.pool.state.history.map fun m =>
      s.pool.counters.loads.getD m.load 0)
        = seen.map (liveLeases s.leases) := by
    rw [← h.ledger.history, List.map_map]
    refine List.map_congr_left fun m hm => ?_
    rw [List.getD_eq_getElem?_getD]
    have hcount := h.ledger.counted m.slot (List.mem_map.mpr ⟨m, hm, rfl⟩)
    exact congrArg (·.getD 0) hcount
  rw [activeConnections, hcounts]
  refine sum_counts h.ledger.nodup fun l hl => ?_
  rw [← h.ledger.keys]
  exact List.mem_map.mpr ⟨_, h.ledger.leased l hl, rfl⟩

/-- What the books say. -/
theorem Inv.bookkept {s : Shared} {seen : List TargetKey} (h : Inv s seen) :
    Bookkept s seen where
  nonempty := h.nonempty
  distinct := h.distinct
  indices := by
    intro k i
    rw [h.ledger.indices, ← h.ledger.history, List.getElem?_map,
      Option.map_eq_some_iff]
  history := h.ledger.history
  oneSlot := h.ledger.nodup
  ownLoad := by
    have hloads := h.ledger.loads
    rwa [slots, List.map_map] at hloads
  ownTraffic := by
    have htraffics := h.ledger.traffics
    rwa [slots, List.map_map] at htraffics
  shared m hm := ⟨m, h.linked m hm, rfl, rfl, rfl, rfl, rfl⟩
  counted slot hslot :=
    h.ledger.counted slot.slot (List.mem_map.mpr ⟨slot, hslot, rfl⟩)
  noUnderflow := by
    intro lease hlease
    have hcount := h.ledger.counted _ (h.ledger.leased lease hlease)
    have hpos : 0 < liveLeases s.leases lease.target.key :=
      List.countP_pos_iff.mpr ⟨lease, hlease, by simp⟩
    obtain ⟨n, hn⟩ := Nat.exists_eq_succ_of_ne_zero (Nat.ne_of_gt hpos)
    exact ⟨n, hcount.trans (congrArg some hn)⟩
  active := h.active_connections
  snapshotKeys := h.snapshot_keys
  snapshotOnce := h.snapshot_keys ▸ h.members_append_rest
  snapshotRanks := h.snapshot_ranks

/-- A measurement from another generation, or of a target that is not a
member, changes nothing. -/
theorem updatePing_ignored {pool : TargetPool} {generation : UInt64}
    {target : Target} (h : generation ≠ pool.state.generation
      ∨ target.key ∉ pool.state.members.map Member.key)
    (ping : Option Duration) :
    pool.updatePing generation target ping = .ok pool := by
  unfold updatePing
  split
  case isFalse => rfl
  case isTrue hgen =>
    have hnone : pool.state.members.findIdx?
        (fun m => m.key = target.key) = none := by
      rw [List.findIdx?_eq_none_iff]
      intro m hm
      rcases h with hold | hunknown
      · exact absurd hgen.symm hold
      · simp only [decide_eq_false_iff_not]
        exact fun hkey => hunknown (List.mem_map.mpr ⟨m, hm, hkey⟩)
    rw [hnone]

/-- A new pool refuses an empty list; any other one keeps its books over
every history of calls, and calls that must change nothing do not. -/
theorem pool_bookkeeping (strategy : SelectionStrategy) (seed : UInt64)
    (targets : List Target) (calls : List Call) :
    (targets = [] ∧ TargetPool.new strategy seed targets = .ok none)
      ∨ ∃ pool s, TargetPool.new strategy seed targets = .ok (some pool)
        ∧ Shared.run pool calls = .ok s
        ∧ Bookkept s (everSeen targets calls)
        ∧ s.pool.replace [] = .ok (false, s.pool)
        ∧ ∀ generation target ping,
          (generation ≠ s.pool.state.generation
            ∨ target.key ∉ s.pool.state.members.map Member.key) →
          s.pool.updatePing generation target ping = .ok s.pool := by
  by_cases hne : targets = []
  · subst hne
    exact .inl ⟨rfl, rfl⟩
  · obtain ⟨pool, hnew, hinv, -⟩ := new_inv strategy seed hne
    obtain ⟨s, hrun, hs⟩ := hinv.run calls
    exact .inr ⟨pool, s, hnew, hrun, hs.bookkept, rfl,
      fun _ _ ping h => updatePing_ignored h ping⟩

end TargetPool

end ZeroDpi
