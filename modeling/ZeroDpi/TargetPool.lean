/-
The pool of relay targets (zerodpi-core/src/target_pool.rs).

# Shared counters

A member, its slot in the history and every lease taken on it hold the
same `Arc`s to a load and a traffic counter. An `Arc` is modelled by the
place of its counter in `Counters`; `unwrap_or_default` adds one. A lease
is alive in memory while it is counted, so a load counter never reaches the
end of its type and adding to it is addition. Subtracting wraps at zero, as
`fetch_sub` does.

# Calls

Every call holds the pool's lock from start to end, and a dropped lease is
one atomic step, so a history is a sequence of calls. An index out of range
and a remainder by zero are panics.
-/
import Mathlib.Algebra.Ring.Nat
import ZeroDpi.Lib.Run
import ZeroDpi.Lib.Table
import ZeroDpi.Interceptor
import ZeroDpi.Methods.Basic

namespace ZeroDpi

open Lib

-- =========================================================== the targets

/-- An address of either family. -/
inductive IpAddr where
  | v4 (ip : Ipv4Addr)
  | v6 (ip : BitVec 128)
  deriving DecidableEq

/-- A target that was scanned. -/
structure Target where
  ip : IpAddr
  sni : Option String
  score : UInt8
  tcpLatencyMs : Option Nat
  lowTtl : Option UInt8
  deriving DecidableEq

/-- `Target::sni`. -/
def Target.ofSni (sni : String) (ip : Ipv4Addr) (score : UInt8) : Target where
  ip := .v4 ip
  sni := some sni
  score := score
  tcpLatencyMs := none
  lowTtl := none

/-- What makes two targets the same. -/
abbrev TargetKey := Option String × IpAddr

/-- `Target::key`. -/
def Target.key (t : Target) : TargetKey := (t.sni, t.ip)

/-- A duration, in nanoseconds. -/
abbrev Duration := Nat

/-- The field `tcp_latency`, which the scanners measure in
milliseconds. -/
def Target.tcpLatency (t : Target) : Option Duration :=
  t.tcpLatencyMs.map (· * 1000000)

/-- The targets whose key was not seen before. -/
def firstOfKeys : List TargetKey → List Target → List Target
  | _, [] => []
  | seen, t :: rest =>
      if t.key ∈ seen then firstOfKeys seen rest
      else t :: firstOfKeys (t.key :: seen) rest

/-- `unique_targets`. -/
def uniqueTargets (targets : List Target) (limit : Nat) : List Target :=
  (firstOfKeys [] targets).take limit

-- ============================================================== the state

namespace TargetPool

/-- How a connection gets its target. -/
inductive SelectionStrategy where
  | random
  | roundRobin
  | leastPing
  | leastLoad
  deriving DecidableEq

/-- Where a ping comes from. -/
inductive PingSource where
  | scan
  | live
  deriving DecidableEq

/-- Bytes in both directions. -/
structure TargetTraffic where
  c2s : UInt64
  s2c : UInt64
  deriving DecidableEq

/-- The counters behind the `Arc`s. -/
structure Counters where
  loads : List Nat
  traffics : List TargetTraffic
  deriving DecidableEq

/-- A target in the pool; its counters are places. -/
structure Member where
  target : Target
  ping : Option Duration
  load : Nat
  traffic : Nat
  pingSource : PingSource
  deriving DecidableEq

/-- The key of its target. -/
def Member.key (m : Member) : TargetKey := m.target.key

/-- What the lock protects. -/
structure PoolState where
  members : List Member
  history : List Member
  historyIndices : Table TargetKey Nat
  cursor : Nat
  generation : UInt64
  random : UInt64
  deriving DecidableEq

end TargetPool

open TargetPool in

/-- The pool with its counters. -/
structure TargetPool where
  strategy : SelectionStrategy
  state : PoolState
  counters : Counters
  deriving DecidableEq

/-- A connection's hold on a target. -/
structure TargetLease where
  target : Target
  load : Nat
  traffic : Nat
  deriving DecidableEq

namespace TargetPool

-- ================================================================ replace

/-- A member for a scanned target, with given counters. -/
def Member.scanned (target : Target) (load traffic : Nat) : Member where
  target := target
  ping := target.tcpLatency
  load := load
  traffic := traffic
  pingSource := .scan

/-- One target of `replace`: its member takes the counters of the key's
history slot and the slot itself, or new ones. -/
def place (pool : TargetPool) (target : Target) :
    Except Panic (Member × TargetPool) :=
  match pool.state.historyIndices.get? target.key with
  | some i =>
      match pool.state.history[i]? with
      | none => .error .indexOutOfBounds
      | some previous =>
          let member := Member.scanned target previous.load previous.traffic
          .ok (member, { pool with
            state.history := pool.state.history.set i member })
  | none =>
      let member := Member.scanned target pool.counters.loads.length
        pool.counters.traffics.length
      .ok (member, { pool with
        state.history := pool.state.history ++ [member]
        state.historyIndices := pool.state.historyIndices.insert target.key
          pool.state.history.length
        counters := {
          loads := pool.counters.loads ++ [0]
          traffics := pool.counters.traffics ++ [⟨0, 0⟩] } })

/-- The targets in their order. -/
def placeAll (pool : TargetPool) :
    List Target → Except Panic (List Member × TargetPool)
  | [] => .ok ([], pool)
  | target :: rest => do
      let (member, pool) ← place pool target
      let (members, pool) ← placeAll pool rest
      return (member :: members, pool)

/-- `TargetPool::replace`. Its limit is `usize::MAX`, which no list
exceeds. -/
def replace (pool : TargetPool) (targets : List Target) :
    Except Panic (Bool × TargetPool) :=
  if targets.isEmpty then .ok (false, pool)
  else do
    let targets := uniqueTargets targets targets.length
    let changed := pool.state.members.map Member.key ≠ targets.map Target.key
    let (members, pool) ← placeAll pool targets
    return (changed, { pool with
      state.members := members
      state.cursor := 0
      state.generation := pool.state.generation + 1 })

/-- `TargetPool::new`: `none` is its error. -/
def new (strategy : SelectionStrategy) (seed : UInt64)
    (targets : List Target) : Except Panic (Option TargetPool) :=
  if targets.isEmpty then .ok none
  else do
    let pool : TargetPool := {
      strategy := strategy
      state := {
        members := [], history := [], historyIndices := []
        cursor := 0, generation := 0, random := seed }
      counters := { loads := [], traffics := [] } }
    return some (← replace pool targets).2

-- ================================================================ acquire

/-- The increment of the generator, its inverse, and the state whose word
is the largest there is. -/
def increment : UInt64 := 0x9E3779B97F4A7C15

/-- The increment is odd, and this its inverse. -/
def incrementInverse : UInt64 := 0xF1DE83E19937733D

/-- The state from which the next is zero. -/
def lastState : UInt64 := 0xCF9A04AFFA6BADC0

/-- How many turns the generator takes to the one before `lastState`. -/
def turnsLeft (state : UInt64) : UInt64 :=
  (lastState - state) * incrementInverse - 1

/-- So that every state is reached. -/
theorem increment_inverse : increment * incrementInverse = 1 := by decide

theorem splitmix64_next (state : UInt64) :
    (splitmix64 state).1 = state + increment := rfl

/-- The generator gets from any state to the last one, and there no word
is refused. -/
theorem randomWord_decreases {threshold state : UInt64}
    (h : ¬ threshold ≤ (splitmix64 state).2) :
    (turnsLeft (splitmix64 state).1).toNat < (turnsLeft state).toNat := by
  have hnext : turnsLeft (splitmix64 state).1 = turnsLeft state - 1 := by
    rw [splitmix64_next]
    unfold turnsLeft
    grind [increment_inverse]
  have hleft : turnsLeft state ≠ 0 := by
    intro hzero
    have hlast : state = lastState - increment := by
      unfold turnsLeft at hzero
      grind [increment_inverse]
    have hword : (splitmix64 (lastState - increment)).2.toNat = 2 ^ 64 - 1 := by
      decide
    refine h (UInt64.le_iff_toNat_le.mpr ?_)
    rw [hlast, hword]
    exact Nat.le_sub_one_of_lt threshold.toNat_lt
  have hpos : 0 < (turnsLeft state).toNat := by
    refine Nat.pos_of_ne_zero fun hzero => hleft ?_
    exact UInt64.toNat.inj hzero
  have hone : 1 ≤ turnsLeft state := UInt64.le_iff_toNat_le.mpr hpos
  rw [hnext, UInt64.toNat_sub_of_le _ _ hone]
  exact Nat.sub_lt hpos Nat.one_pos

/-- The loop of `random_index`: the state it ends in and the accepted
word. -/
def randomWord (threshold : UInt64) (state : UInt64) : UInt64 × UInt64 :=
  let next := splitmix64 state
  if threshold ≤ next.2 then next else randomWord threshold next.1
termination_by (turnsLeft state).toNat
decreasing_by exact randomWord_decreases ‹_›

/-- `random_index`: the advanced state and the index. -/
def randomIndex (state : UInt64) (count : Nat) : UInt64 × Nat :=
  let bound := count.toUInt64
  let threshold := (0 - bound) % bound
  let word := randomWord threshold state
  (word.1, (word.2 % bound).toNat)

/-- The load of a member of the pool. -/
def loadAt (pool : TargetPool) (i : Nat) : Nat :=
  ((pool.state.members[i]?).map fun m =>
    pool.counters.loads.getD m.load 0).getD 0

/-- The members with a known ping, and where they are. -/
def knownPings (pool : TargetPool) : List (Nat × Duration) :=
  pool.state.members.zipIdx.filterMap fun (m, i) =>
    m.ping.map fun ping => (i, ping)

/-- The match of `acquire` on the strategy: the chosen index, and the
generator's state behind it. -/
def select (pool : TargetPool) : Except Panic (Nat × UInt64) :=
  let count := pool.state.members.length
  if count = 0 then .error (.assertFailed
    "attempt to calculate the remainder with a divisor of zero")
  else
    let roundRobin := pool.state.cursor % count
    match pool.strategy with
    | .roundRobin => .ok (roundRobin, pool.state.random)
    | .random =>
        let choice := randomIndex pool.state.random count
        .ok (choice.2, choice.1)
    | .leastPing =>
        .ok (((pool.knownPings.minOn? Prod.snd).map Prod.fst).getD roundRobin,
          pool.state.random)
    | .leastLoad =>
        match ((List.range count).map fun offset =>
            (roundRobin + offset) % count).minOn? pool.loadAt with
        | none => .error (.expectFailed
            "called `Option::unwrap()` on a `None` value")
        | some index => .ok (index, pool.state.random)

/-- `TargetPool::acquire`. -/
def acquire (pool : TargetPool) :
    Except Panic (TargetLease × TargetPool) := do
  let (index, random) ← select pool
  match pool.state.members[index]? with
  | none => .error .indexOutOfBounds
  | some member => return (
      { target := member.target
        load := member.load
        traffic := member.traffic },
      { pool with
        state.cursor := (index + 1) % pool.state.members.length
        state.random := random
        counters.loads := pool.counters.loads.modify member.load (· + 1) })

/-- `fetch_sub(1)`. -/
def fetchSub (n : Nat) : Nat := if n = 0 then 2 ^ 64 - 1 else n - 1

/-- `TargetLease::drop`. -/
def dropLease (pool : TargetPool) (lease : TargetLease) : TargetPool :=
  { pool with
    counters.loads := pool.counters.loads.modify lease.load fetchSub }

/-- A relay's `fetch_add` on the counters of its lease. -/
def relayed (pool : TargetPool) (lease : TargetLease) (c2s s2c : UInt64) :
    TargetPool :=
  { pool with
    counters.traffics := pool.counters.traffics.modify lease.traffic
      fun t => { c2s := t.c2s + c2s, s2c := t.s2c + s2c } }

-- ============================================================ update_ping

/-- A live measurement of a member. -/
def Member.measured (ping : Option Duration) (m : Member) : Member :=
  { m with ping := ping, pingSource := .live }

/-- `TargetPool::update_ping`. -/
def updatePing (pool : TargetPool) (generation : UInt64) (target : Target)
    (ping : Option Duration) : Except Panic TargetPool :=
  if pool.state.generation = generation then
    match pool.state.members.findIdx? (fun m => m.key = target.key) with
    | none => .ok pool
    | some j =>
        match pool.state.historyIndices.get? target.key with
        | none => .error .indexOutOfBounds
        | some i =>
            if i < pool.state.history.length then .ok { pool with
              state.members := pool.state.members.modify j (.measured ping)
              state.history := pool.state.history.modify i (.measured ping) }
            else .error .indexOutOfBounds
  else .ok pool

-- ============================================================== snapshots

/-- `TargetPool::active_connections`. -/
def activeConnections (pool : TargetPool) : Nat :=
  (pool.state.history.map fun m => pool.counters.loads.getD m.load 0).sum

/-- What the dashboard shows of a target. -/
structure TargetSnapshot where
  target : Target
  rank : Option Nat
  ping : Option Duration
  pingSource : PingSource
  activeConnections : Nat
  c2sBytes : UInt64
  s2cBytes : UInt64
  deriving DecidableEq

/-- `TargetPool::probe_snapshot`. -/
def probeSnapshot (pool : TargetPool) : UInt64 × List Target :=
  (pool.state.generation, pool.state.members.map (·.target))

/-- The closure `sample` of `snapshot`. -/
def sample (pool : TargetPool) (m : Member) (rank : Option Nat) :
    TargetSnapshot :=
  let traffic := pool.counters.traffics.getD m.traffic ⟨0, 0⟩
  { target := m.target
    rank := rank
    ping := m.ping
    pingSource := m.pingSource
    activeConnections := pool.counters.loads.getD m.load 0
    c2sBytes := traffic.c2s
    s2cBytes := traffic.s2c }

/-- The targets of `TargetPool::snapshot`. -/
def snapshot (pool : TargetPool) : List TargetSnapshot :=
  let current := pool.state.members.map Member.key
  (pool.state.members.zipIdx.map fun (m, i) => pool.sample m (some (i + 1)))
    ++ (pool.state.history.filter fun m => m.key ∉ current).map
      fun m => pool.sample m none

-- ============================================================== histories

/-- The pool and the leases that are alive. -/
structure Shared where
  pool : TargetPool
  leases : List TargetLease
  deriving DecidableEq

/-- The calls. A lease is named by its place among the live ones. -/
inductive Call where
  | replace (targets : List Target)
  | acquire
  | drop (i : Nat)
  | updatePing (generation : UInt64) (target : Target)
      (ping : Option Duration)
  | relayed (i : Nat) (c2s s2c : UInt64)
  deriving DecidableEq

/-- A call by any of the tasks. -/
def Shared.step (s : Shared) : Call → Except Panic Shared
  | .replace targets => do
      return { s with pool := (← s.pool.replace targets).2 }
  | .acquire => do
      let (lease, pool) ← s.pool.acquire
      return { pool := pool, leases := s.leases ++ [lease] }
  | .drop i =>
      match s.leases[i]? with
      | none => .ok s
      | some lease => .ok {
          pool := s.pool.dropLease lease
          leases := s.leases.eraseIdx i }
  | .updatePing generation target ping => do
      return { s with pool := ← s.pool.updatePing generation target ping }
  | .relayed i c2s s2c =>
      match s.leases[i]? with
      | none => .ok s
      | some lease => .ok { s with pool := s.pool.relayed lease c2s s2c }

/-- A history from a new pool on. -/
def Shared.run (pool : TargetPool) (calls : List Call) :
    Except Panic Shared :=
  calls.foldlM Shared.step { pool := pool, leases := [] }

end TargetPool

end ZeroDpi
