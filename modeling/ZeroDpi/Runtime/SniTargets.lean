/-
Where the targets of SNI mode come from and where their names go
(zerodpi/src/main.rs, `run_config` in `sni_spoof` mode and
`rescan_sni_once`; target_selection.rs; reload.rs, `restore_pool`;
zerodpi-core/src/proxy.rs, `run_proxy`; low_ttl_discover.rs).

# Producers

A generation starts with the selected SNI, with what the scanner finds in
the list, or with the targets of the last good generation. Rescans replace
them. Only `SELECTED_SNI` is checked for its length, by `Config::validate`.

# Consumers

Every accepted connection that is intercepted and every discovery of a TTL
builds a fake ClientHello for the name of its target.

What the files hold, what the network answers, what the user picks and what
discovery finds are given. A rescan holds the scan lock to its end and only
rescans change the members of a pool, so it is one step.
-/
import ZeroDpi.Runtime.HotSwap
import ZeroDpi.Runtime.Reload
import ZeroDpi.SniScanner
import ZeroDpi.TlsTemplate

namespace ZeroDpi.SniTargets

open SniScanner TlsTemplate

variable {Bps : Type}

-- =============================================================== the setup

/-- What a generation runs with. -/
structure Setup (Bps : Type) where
  config : Config
  loadBalanceEnabled : Bool
  loadBalanceStrategy : TargetPool.SelectionStrategy
  autoSelect : Bool
  deduplicateScanLists : Bool
  rescanIntervalSecs : Nat
  noTui : Bool
  /-- `LOW_TTL_DISCOVER` is in use. -/
  discovers : Bool
  computeScore : SniScanner.SniProbeEntry Bps → UInt8
  /-- `ServerName::try_from` takes the name. -/
  isServerName : String → Bool

/-- The scanner's part of the config. -/
def Setup.scanner (c : Setup Bps) : SniScanner.Setup Bps where
  sniMaxConcurrent := c.config.sniMaxConcurrent
  deduplicateScanLists := c.deduplicateScanLists
  computeScore := c.computeScore
  isServerName := c.isServerName

/-- Without balancing the targets take turns. -/
def Setup.strategy (c : Setup Bps) : TargetPool.SelectionStrategy :=
  if c.loadBalanceEnabled then c.loadBalanceStrategy else .roundRobin

/-- The timer, the dashboard or the recovery asks for a rescan. -/
def Setup.rescans (c : Setup Bps) (manual : Bool) : Bool :=
  if manual then !c.noTui
  else decide (0 < c.rescanIntervalSecs)
    || ((c.autoSelect || c.loadBalanceEnabled) && c.config.selectedSni.isNone)

-- ============================================================ the discovery

/-- What the discovery for a target draws and finds. -/
structure Discovery where
  seed : String → HelloSeed
  found : String → Option UInt8

/-- `discover_low_ttl`, and `LowTtlDiscoveryState::run` with a TTL that
could be applied. -/
def discoverLowTtl (c : Setup Bps) (d : Discovery) (sni : String) :
    Except Panic (Option UInt8) :=
  if c.isServerName sni then do
    let _ ← freshFakeClientHello (d.seed sni) sni
    return d.found sni
  else .ok none

/-- The closure that `discover_pool_ttls` is called with. -/
def discoverTarget (c : Setup Bps) (d : Discovery) (target : Target) :
    Except Panic (Option UInt8) :=
  match target.ip, target.sni with
  | .v6 _, _ => .ok none
  | .v4 _, none => .error (.expectFailed
      "called `Option::unwrap()` on a `None` value")
  | .v4 _, some sni => discoverLowTtl c d sni

/-- One turn of `discover_pool_ttls`. -/
def withTtl (previous : List Target) (startupFallback : Option UInt8)
    (target : Target) (discovered : Option UInt8) : Option Target :=
  match discovered with
  | some ttl => some { target with lowTtl := some ttl }
  | none =>
      match previous.find? fun old => old.ip = target.ip ∧ old.sni = target.sni
      with
      | some old => some { target with lowTtl := old.lowTtl }
      | none => startupFallback.map fun ttl =>
          { target with lowTtl := some ttl }

/-- `discover_pool_ttls`. -/
def discoverPoolTtls (c : Setup Bps) (d : Discovery) (previous : List Target)
    (startupFallback : Option UInt8) :
    List Target → Except Panic (List Target)
  | [] => .ok []
  | target :: rest => do
      let discovered ← discoverTarget c d target
      let admitted ← discoverPoolTtls c d previous startupFallback rest
      return (withTtl previous startupFallback target discovered).toList
        ++ admitted

-- =============================================================== the start

/-- What a start meets. -/
structure Start (Bps : Type) where
  /-- The addresses of `SELECTED_SNI`. -/
  lookup : Option (List Ipv4Addr)
  scan : Scan Bps
  /-- The results there were, from which hosts, when the user stopped the
  scan. -/
  arrived : Option (List (Nat × Ipv4Addr × Probe Bps))
  /-- The user's pick. -/
  choice : Option Nat
  /-- The pool's random seed. -/
  seed : UInt64
  discovery : Discovery

/-- `resolve_single_sni`. -/
def resolveSingleSni (sni : String) (lookup : Option (List Ipv4Addr)) :
    Option (List (SniScanner.SniProbeEntry Bps)) :=
  lookup.bind fun addrs =>
    if addrs.isEmpty then none else some (addrs.map (blank sni))

/-- `scan_sni_list_with_progress`. -/
def scanSniListWithProgress (c : Setup Bps) (w : Start Bps) :
    Option (List (SniScanner.SniProbeEntry Bps)) :=
  match w.arrived with
  | none => scanSniList c.scanner w.scan
  | some arrived => do
      let hosts ← w.scan.hosts c.scanner
      return ranked (arrived.filterMap fun (i, ip, probe) =>
        if w.scan.allows ip then
          (hosts[i]?).map fun sni => probeSniIp c.scanner sni ip probe
        else none)

/-- Step 1: the probe results, if there are any. -/
def sortedEntries (c : Setup Bps) (w : Start Bps) :
    Option (List (SniScanner.SniProbeEntry Bps)) :=
  match c.config.selectedSni with
  | some sni => resolveSingleSni sni w.lookup
  | none =>
      (if c.noTui then scanSniList c.scanner w.scan
        else scanSniListWithProgress c w).bind fun entries =>
          if entries.isEmpty then none else some entries

/-- The targets of load balancing. -/
def balancedTargets (c : Setup Bps)
    (entries : List (SniScanner.SniProbeEntry Bps)) : List Target :=
  if c.config.selectedSni.isSome then
    (entries.head?.map Target.fromSni).toList
  else sniCandidates entries c.config.loadBalanceTargetCount 1

/-- Step 2: the selected entry. -/
def selectEntry (c : Setup Bps) (w : Start Bps)
    (entries : List (SniScanner.SniProbeEntry Bps)) :
    Option (SniScanner.SniProbeEntry Bps) :=
  if c.loadBalanceEnabled then do
    let first ← (balancedTargets c entries).head?
    entries.find? fun e => IpAddr.v4 e.ip = first.ip ∧ some e.sni = first.sni
  else if c.autoSelect || c.config.selectedSni.isSome || c.noTui then
    entries.head?
  else w.choice.bind (entries[·]?)

/-- The members of a pool, as `probe_snapshot` gives them. -/
def poolTargets (pool : TargetPool) : List Target :=
  pool.probeSnapshot.2

/-- A generation that does not restore, as far as its discovery: its pool,
or `none` for a start that fails. -/
def startPool (c : Setup Bps) (w : Start Bps) :
    Except Panic (Option TargetPool) :=
  match sortedEntries c w with
  | none => .ok none
  | some entries =>
      match selectEntry c w entries with
      | none => .ok none
      | some selected => do
          let some pool ← TargetPool.new c.strategy w.seed
              (if c.loadBalanceEnabled then balancedTargets c entries
                else [Target.fromSni selected])
            | return none
          if c.discovers then
            if c.loadBalanceEnabled then
              let targets ← discoverPoolTtls c w.discovery []
                (some c.config.lowTtlValue) (poolTargets pool)
              return some (← pool.replace targets).2
            else
              let _ ← discoverLowTtl c w.discovery selected.sni
              return some pool
          else return some pool

/-- `restore_pool`, and the check of its representative. -/
def restorePool (c : Setup Bps) (seed : UInt64) (targets : List Target) :
    Except Panic (Option TargetPool) := do
  let some pool ← TargetPool.new c.strategy seed targets | return none
  return if ((poolTargets pool).head?.bind Target.current).isSome
    then some pool else none

-- ============================================================== the rescan

/-- What a rescan meets. -/
structure Rescan (Bps : Type) where
  /-- The user asked for it. -/
  manual : Bool
  scan : Scan Bps
  choice : Option Nat
  discovery : Discovery

/-- The entry a rescan without load balancing looks at. -/
def rescanned (c : Setup Bps) (w : Rescan Bps)
    (entries : List (SniScanner.SniProbeEntry Bps)) :
    Option (SniScanner.SniProbeEntry Bps) :=
  if w.manual && !(c.autoSelect || entries.isEmpty) then
    w.choice.bind (entries[·]?)
  else entries.head?

/-- What a switch reads of an entry. -/
def brief (entry : SniScanner.SniProbeEntry Bps) : ZeroDpi.SniProbeEntry where
  sni := entry.sni
  ip := entry.ip
  score := entry.score

/-- The target to switch to, before discovery. -/
def nextTarget (c : Setup Bps) (manual : Bool) (current : ActiveSniTarget)
    (best : SniScanner.SniProbeEntry Bps) : Option ActiveSniTarget :=
  if manual then some ⟨best.sni, best.ip, best.score⟩
  else selectRescanTarget current (brief best) c.config.sniSwitchMinScore

/-- Discovery for a switch, and what it leaves of it. -/
def gatedSwitch (c : Setup Bps) (w : Rescan Bps) (current : ActiveSniTarget)
    (best : SniScanner.SniProbeEntry Bps) (next : ActiveSniTarget) :
    Except Panic (Option ActiveSniTarget) :=
  if c.discovers then do
    let discovered ← discoverLowTtl c w.discovery next.sni
    return if w.manual then discovered.map fun _ => next
      else discoveryGatedSwitch discovered current (brief best)
        c.config.sniSwitchMinScore
  else .ok (some next)

/-- The candidates of a rescan with load balancing, after discovery. -/
def rescanCandidates (c : Setup Bps) (w : Rescan Bps) (pool : TargetPool)
    (entries : List (SniScanner.SniProbeEntry Bps)) :
    Except Panic (List Target) :=
  let candidates := sniCandidates entries c.config.loadBalanceTargetCount
    c.config.sniSwitchMinScore
  if c.discovers then
    discoverPoolTtls c w.discovery (poolTargets pool) none candidates
  else .ok candidates

/-- A rescan with load balancing. -/
def rescanBalanced (c : Setup Bps) (w : Rescan Bps) (pool : TargetPool)
    (entries : List (SniScanner.SniProbeEntry Bps)) :
    Except Panic TargetPool := do
  let candidates ← rescanCandidates c w pool entries
  return (← pool.replace candidates).2

/-- A rescan without load balancing. -/
def rescanSingle (c : Setup Bps) (w : Rescan Bps) (pool : TargetPool)
    (entries : List (SniScanner.SniProbeEntry Bps)) :
    Except Panic TargetPool :=
  match rescanned c w entries with
  | none => .ok pool
  | some best =>
      match (poolTargets pool).head?.bind Target.current with
      | none => .error (.expectFailed
          "called `Option::unwrap()` on a `None` value")
      | some current =>
          match nextTarget c w.manual current best with
          | none => .ok pool
          | some next => do
              match ← gatedSwitch c w current best next with
              | none => return pool
              | some next => return (← pool.replace
                  [Target.ofSni next.sni next.ip next.score]).2

/-- `rescan_sni_once`. -/
def rescanSniOnce (c : Setup Bps) (w : Rescan Bps) (pool : TargetPool) :
    Except Panic TargetPool :=
  if c.loadBalanceEnabled && c.config.selectedSni.isSome then .ok pool
  else match scanSniList c.scanner w.scan with
    | none => .ok pool
    | some entries =>
        if c.loadBalanceEnabled then rescanBalanced c w pool entries
        else rescanSingle c w pool entries

-- ========================================================== the connections

/-- A turn of the accept loop of `run_proxy`, as far as the fake
ClientHello. -/
def accept (c : Setup Bps) (seed : HelloSeed) (pool : TargetPool) :
    Except Panic TargetPool := do
  let (lease, pool) ← pool.acquire
  match lease.target.ip with
  | .v6 _ => return pool
  | .v4 _ =>
      if c.config.bypassMethod.isSocketOnly then return pool
      else
        let _ ← freshFakeClientHello seed (lease.target.sni.getD "")
        return pool

-- ========================================================= the generations

/-- The running generation, and the targets to go back to. -/
structure State (Bps : Type) where
  generation : Option (Setup Bps × TargetPool)
  lastGood : Option (List Target)

/-- No generation yet. -/
def initial : State Bps := ⟨none, none⟩

/-- What happens next to the pool. -/
inductive Label (Bps : Type) where
  | start (c : Setup Bps) (w : Start Bps)
  | restore (c : Setup Bps) (seed : UInt64)
  | rescan (w : Rescan Bps)
  | accept (seed : HelloSeed)
  /-- The generation ends; its targets are kept if it was ready. -/
  | stop (ready : Bool) (discoveredTtl : Option UInt8)

/-- One of these. -/
def step (s : State Bps) : Label Bps → Except Panic (State Bps)
  | .start c w => do
      let pool ← startPool c w
      return { s with generation := pool.map fun pool => (c, pool) }
  | .restore c seed =>
      match s.lastGood with
      | none => .ok s
      | some targets => do
          let pool ← restorePool c seed targets
          return { s with generation := pool.map fun pool => (c, pool) }
  | .rescan w =>
      match s.generation with
      | none => .ok s
      | some (c, pool) =>
          if c.rescans w.manual then do
            let pool ← rescanSniOnce c w pool
            return { s with generation := some (c, pool) }
          else .ok s
  | .accept seed =>
      match s.generation with
      | none => .ok s
      | some (c, pool) => do
          let pool ← SniTargets.accept c seed pool
          return { s with generation := some (c, pool) }
  | .stop ready discoveredTtl =>
      match s.generation with
      | none => .ok s
      | some (c, pool) => .ok {
          generation := none
          lastGood := if ready then
              some (Reload.backupTargets c.loadBalanceEnabled discoveredTtl
                (poolTargets pool))
            else s.lastGood }

/-- A run of the program. -/
def run (labels : List (Label Bps)) : Except Panic (State Bps) :=
  labels.foldlM step initial

end ZeroDpi.SniTargets
