/-
The hot swap of the SNI target: `rescan_sni_once` with discovery
configured (zerodpi/src/main.rs), among the connections of `run_proxy`
(zerodpi-core/src/proxy.rs).

Without load balancing the pool has one member, the active target. A
connection takes it when it is accepted; its flow is registered with the
target's own TTL, if it has one, and its fake is stamped when its
handshake is done. A rescan that has found a better target discovers a
TTL for it, applies the TTL, and replaces the member. It waits between
these, and the connections go on.

What the scan finds, what discovery finds and what a request to the
helper meets are decided outside. `stamped` and `pairs` are history
variables; no step reads them.
-/
import ZeroDpi.Lib.Run
import ZeroDpi.Runtime.LowTtl
import ZeroDpi.TargetPool

namespace ZeroDpi

-- =========================================================== the targets

/-- The target the pool holds, with the score it was chosen by. -/
structure ActiveSniTarget where
  sni : String
  ip : Ipv4Addr
  score : UInt8
  deriving DecidableEq

/-- What a switch reads of a scan result. -/
structure SniProbeEntry where
  sni : String
  ip : Ipv4Addr
  score : UInt8
  deriving DecidableEq

/-- The pool's representative as the target to switch from; `none` is a
panic, for a target that is not one of SNI mode. -/
def Target.current (t : Target) : Option ActiveSniTarget :=
  match t.sni, t.ip with
  | some sni, .v4 ip => some { sni := sni, ip := ip, score := t.score }
  | _, _ => none

/-- `should_switch_sni_target`. -/
def shouldSwitchSniTarget (current : ActiveSniTarget)
    (candidate : SniProbeEntry) (minScore : UInt8) : Bool :=
  if current.ip = candidate.ip ∧ current.sni = candidate.sni then false
  else decide (minScore ≤ candidate.score)

/-- `select_rescan_target`. -/
def selectRescanTarget (current : ActiveSniTarget)
    (candidate : SniProbeEntry) (minScore : UInt8) :
    Option ActiveSniTarget :=
  if shouldSwitchSniTarget current candidate minScore then
    some { sni := candidate.sni, ip := candidate.ip, score := candidate.score }
  else none

/-- `discovery_gated_switch`. -/
def discoveryGatedSwitch (discovered : Option UInt8)
    (current : ActiveSniTarget) (candidate : SniProbeEntry)
    (minScore : UInt8) : Option ActiveSniTarget := do
  let _ ← discovered
  selectRescanTarget current candidate minScore

namespace Runtime

open Helper

-- ============================================================ the rescan

/-- A switch that is warranted. -/
structure Switch where
  current : ActiveSniTarget
  best : SniProbeEntry
  next : ActiveSniTarget
  /-- The rescan was asked for. -/
  manual : Bool
  deriving DecidableEq

/-- The target to switch to after discovery, if it is to be done. -/
def Switch.target (w : Switch) (minScore : UInt8)
    (discovered : Option UInt8) : Option ActiveSniTarget :=
  if w.manual then discovered.map fun _ => w.next
  else discoveryGatedSwitch discovered w.current w.best minScore

/-- Where `rescan_sni_once` is. -/
inductive Rescan where
  | idle
  /-- Discovery probes the candidate. -/
  | probing (w : Switch)
  /-- Discovery has found a TTL and applies it. -/
  | applying (w : Switch) (found : UInt8)
  /-- About to replace the pool's member. -/
  | replacing (next : ActiveSniTarget) (found : UInt8)
  deriving DecidableEq

/-- The TTL has been applied, and the target is still to be replaced. -/
def Rescan.halfway : Rescan → Bool
  | .replacing _ _ => true
  | _ => false

-- ======================================================= the connections

/-- A connection whose fake has not been stamped. -/
structure Connection where
  target : Target
  /-- Its flow, once registered. -/
  flow : Option FlowState
  deriving DecidableEq

/-- The service while a rescan is under way and connections come in. -/
structure HotSwap where
  plane : Plane
  /-- The pool's member. -/
  active : Target
  rescan : Rescan
  connections : List Connection
  /-- The target and the TTL of every fake. -/
  stamped : List (Target × UInt8)
  /-- The targets with the TTLs they were made active with, the last one
  first. -/
  pairs : List (Target × UInt8)

namespace HotSwap

/-- What may happen between two steps of the rescan. -/
inductive Act where
  /-- `run_proxy` accepts a connection. -/
  | accept
  /-- A connection registers its flow. -/
  | register (i : Nat) (fakeData : Bytes)
  /-- The handshake of a connection is done and its fake goes out. -/
  | stamp (i : Nat) (rngState : UInt64) (pkt : PacketView)
  /-- A connection ends before that. -/
  | close (i : Nat)
  /-- A rescan has its result. -/
  | scanned (best : SniProbeEntry) (manual : Bool)
  /-- Discovery has its result. -/
  | probed (found : Option UInt8)
  /-- The result of discovery is applied. -/
  | apply (on : Reception)
  /-- The pool's member is replaced. -/
  | replace

/-- The switch a scan result warrants. -/
def warranted (s : HotSwap) (minScore : UInt8) (best : SniProbeEntry)
    (manual : Bool) : Option Rescan := do
  let current ← s.active.current
  let next :=
    if manual then some ⟨best.sni, best.ip, best.score⟩
    else selectRescanTarget current best minScore
  return match next with
    | none => .idle
    | some next => .probing {
        current := current, best := best, next := next, manual := manual }

/-- One step, unless it is not the party's turn. -/
def step (minScore : UInt8) (s : HotSwap) : Act → Option HotSwap
  | .accept =>
      match s.active.ip with
      | .v4 _ => some { s with
          connections := s.connections ++ [{ target := s.active, flow := none }] }
      | .v6 _ => some s
  | .register i fakeData => do
      let c ← s.connections[i]?
      if c.flow.isSome then none
      return { s with
        connections := s.connections.set i { c with
          flow := some (.new fakeData c.target.lowTtl) } }
  | .stamp i rngState pkt => do
      let c ← s.connections[i]?
      let flow ← c.flow
      let ttl ← s.plane.stampedTtl rngState flow pkt
      return { s with
        connections := s.connections.eraseIdx i
        stamped := (c.target, ttl) :: s.stamped }
  | .close i => some { s with connections := s.connections.eraseIdx i }
  | .scanned best manual =>
      match s.rescan with
      | .idle => do
          let rescan ← s.warranted minScore best manual
          return { s with rescan := rescan }
      | _ => none
  | .probed found =>
      match s.rescan with
      | .probing w => some { s with
          rescan := match found with
            | none => .idle
            | some found => .applying w found }
      | _ => none
  | .apply on =>
      match s.rescan with
      | .applying w found =>
          let (applied, plane) := s.plane.apply on found
          let discovered := if applied then some found else none
          some { s with
            plane := plane
            rescan := match w.target minScore discovered with
              | none => .idle
              | some next => .replacing next found }
      | _ => none
  | .replace =>
      match s.rescan with
      | .replacing next found =>
          let target := Target.ofSni next.sni next.ip next.score
          some { s with
            active := target
            rescan := .idle
            pairs := (target, found) :: s.pairs }
      | _ => none

/-- A target and the TTL that a new connection to it is stamped with. -/
def Current (s : HotSwap) (target : Target) (ttl : UInt8) : Prop :=
  s.active = target ∧ ∀ rngState fakeData pkt stamped,
    s.plane.stampedTtl rngState (.new fakeData s.active.lowTtl) pkt
      = some stamped → stamped = ttl

/-- Discovery is configured and the first target is active: the plane has
started, and only successful calls were made on it. -/
structure Starting (cfg : Config) (s : HotSwap) : Prop where
  plane : ∃ started calls, Plane.Started cfg started
    ∧ Lib.Run (Plane.Succeeds cfg) started calls s.plane
  rescan : s.rescan = .idle
  connections : s.connections = []
  stamped : s.stamped = []
  pairs : ∃ ttl, s.pairs = [(s.active, ttl)] ∧ s.Current s.active ttl

/-- Every fake carries the TTL its target was made active with, and
whenever no swap is halfway, the last target and TTL that were made
active are the ones in force. -/
structure Together (s : HotSwap) : Prop where
  stamped : ∀ pair ∈ s.stamped, pair ∈ s.pairs
  current : s.rescan.halfway = false →
    ∃ target ttl, s.pairs.head? = some (target, ttl) ∧ s.Current target ttl

end HotSwap

end Runtime

end ZeroDpi
