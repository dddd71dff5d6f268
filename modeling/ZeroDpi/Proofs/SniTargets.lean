/-
Names of targets and the fake ClientHellos built for them.

# The chain

A name gets into the pool from `SELECTED_SNI`, which validation bounds, from
a host of the list, which nothing bounds, or from a pool of before. It is
carried along unchanged: by the entries of a scan, by the candidates, by
discovery, which only sets TTLs, by the pool, and by what is kept of a good
generation. So if the lists that are scanned have short hosts only, every
name fits (`Fit`), and no assertion of `build_client_hello` fails.

# The gap

Any host of a list may be the only one that answers. If it is too long, it
becomes the target, and the next fake for it is a panic.

`Meets` carries both halves of this through the program: the error is not
the failed assertion, and the result fits.
-/
import ZeroDpi.Proofs.Config
import ZeroDpi.Proofs.SniScanner
import ZeroDpi.Proofs.TargetPool
import ZeroDpi.Proofs.TlsTemplate
import ZeroDpi.Runtime.SniTargets

namespace ZeroDpi

open Lib

-- ========================================================== the ClientHello

namespace TlsTemplate

/-- A short name fits in the template. -/
theorem freshFakeClientHello_ok {fakeSni : String} (seed : HelloSeed)
    (h : fakeSni.utf8ByteSize ≤ Config.maxSniLen) :
    ∃ hello, freshFakeClientHello seed fakeSni = .ok hello
      ∧ hello.length = clientHelloLen := by
  have hsni : (asBytes fakeSni).length ≤ Config.maxSniLen := h
  exact ⟨_, buildClientHello_ok seed.random_length seed.sessionId_length
    seed.keyShare_length hsni, length_clientHello seed.random_length
    seed.sessionId_length seed.keyShare_length hsni⟩

/-- A longer name is a failed assertion. -/
theorem freshFakeClientHello_too_long {fakeSni : String} (seed : HelloSeed)
    (h : Config.maxSniLen < fakeSni.utf8ByteSize) :
    freshFakeClientHello seed fakeSni = .error sniTooLong := by
  have hsni : ¬ (asBytes fakeSni).length ≤ Config.maxSniLen :=
    Nat.not_le.mpr h
  unfold freshFakeClientHello buildClientHello
  rw [assert_eq_ok (by simp [seed.random_length]),
    assert_eq_ok (by simp [seed.sessionId_length]),
    assert_eq_ok (by simp [seed.keyShare_length])]
  simp only [assert, hsni, decide_false]
  rfl

end TlsTemplate

/-- A validated configuration has a short `SELECTED_SNI`. -/
theorem Config.selectedSni_short {cfg : Config} (h : cfg.validate = .ok ())
    {sni : String} (hsni : cfg.selectedSni = some sni) :
    sni.utf8ByteSize ≤ maxSniLen := by
  unfold validate at h
  obtain ⟨_, hlimits, _⟩ := bind_eq_ok.mp h
  unfold validateLimits at hlimits
  repeat obtain ⟨_, _, hlimits⟩ := bind_eq_ok.mp hlimits
  rw [hsni] at hlimits
  have hshort := bailIf_eq_ok.mp hlimits
  simpa using hshort

namespace SniTargets

open SniScanner TlsTemplate

variable {Bps : Type}

-- ============================================================== the property

/-- The name of the target fits a ClientHello. -/
def Fits (t : Target) : Prop :=
  (t.sni.getD "").utf8ByteSize ≤ Config.maxSniLen

/-- Not the panic of a name that does not fit. -/
def NotTooLong (p : Panic) : Prop := p ≠ sniTooLong

/-- All names fit. -/
structure State.Fit (s : State Bps) : Prop where
  pool : ∀ c pool, s.generation = some (c, pool) →
    ∀ t ∈ poolTargets pool, Fits t
  lastGood : ∀ targets, s.lastGood = some targets → ∀ t ∈ targets, Fits t

/-- The hosts of the scanned list are short. -/
def ShortHosts (scan : Scan Bps) : Prop :=
  ∀ content, scan.content = some content → ∀ host ∈ hostnames content,
    (String.ofList host).utf8ByteSize ≤ Config.maxSniLen

-- =============================================================== the pool

section Pool

open TargetPool

variable {pool : TargetPool} {targets : List Target}

/-- Placing a target panics for no reason but its length; so do the
operations below. -/
theorem meets_place (pool : TargetPool) (target : Target) :
    Meets (pool.place target) NotTooLong fun r => r.1.target = target := by
  unfold TargetPool.place
  split
  · split
    · exact nofun
    · rfl
  · rfl

/-- Likewise for all of them. -/
theorem meets_placeAll (pool : TargetPool) (targets : List Target) :
    Meets (pool.placeAll targets) NotTooLong
      fun r => r.1.map Member.target = targets := by
  induction targets generalizing pool with
  | nil => rfl
  | cons target rest ih =>
      unfold TargetPool.placeAll
      apply (meets_place pool target).bind
      intro first hfirst
      apply (ih first.2).bind
      intro others hothers
      show (first.1 :: others.1).map Member.target = target :: rest
      rw [List.map_cons, hfirst, hothers]

/-- A pool gets its targets from `replace`. -/
theorem meets_replace {P : Target → Prop} (hpool : ∀ t ∈ poolTargets pool, P t)
    (htargets : ∀ t ∈ targets, P t) :
    Meets (pool.replace targets) NotTooLong
      fun r => ∀ t ∈ poolTargets r.2, P t := by
  unfold TargetPool.replace
  split
  · exact hpool
  · apply (meets_placeAll pool _).bind
    intro r hr t ht
    have hmem : t ∈ uniqueTargets targets targets.length := by
      rw [← hr]
      exact ht
    exact htargets t (mem_of_mem_uniqueTargets hmem)

/-- A new pool has the targets it was given. -/
theorem meets_new {P : Target → Prop} (strategy : SelectionStrategy)
    (seed : UInt64) (htargets : ∀ t ∈ targets, P t) :
    Meets (TargetPool.new strategy seed targets) NotTooLong
      fun r => ∀ pool, r = some pool → ∀ t ∈ poolTargets pool, P t := by
  unfold TargetPool.new
  split
  · exact nofun
  · refine (meets_replace (P := P) ?_ htargets).bind ?_
    · simp [poolTargets, TargetPool.probeSnapshot]
    · rintro r hr pool ⟨⟩
      exact hr

/-- A selection. -/
theorem meets_select (pool : TargetPool) :
    Meets pool.select NotTooLong fun _ => True := by
  simp only [TargetPool.select]
  by_cases hcount : pool.state.members.length = 0
  · rw [if_pos hcount]
    show Panic.assertFailed _ ≠ Panic.assertFailed _
    simp
  · rw [if_neg hcount]
    split
    · trivial
    · trivial
    · trivial
    · split
      · exact nofun
      · trivial

/-- One of the pool's targets. -/
theorem meets_acquire (pool : TargetPool) :
    Meets pool.acquire NotTooLong fun r =>
      r.1.target ∈ poolTargets pool ∧ poolTargets r.2 = poolTargets pool := by
  unfold TargetPool.acquire
  apply (meets_select pool).bind
  rintro ⟨index, random⟩ -
  dsimp only
  split
  case h_1 => exact nofun
  case h_2 member hmember =>
    exact ⟨List.mem_map_of_mem (List.mem_of_getElem? hmember), rfl⟩

end Pool

-- ============================================================ the discovery

section Discovery

variable {c : Setup Bps} {d : Discovery}

/-- A ClientHello for a short name. -/
theorem meets_freshFakeClientHello (seed : HelloSeed) {sni : String}
    (h : sni.utf8ByteSize ≤ Config.maxSniLen) :
    Meets (freshFakeClientHello seed sni) NotTooLong fun _ => True := by
  obtain ⟨hello, hok, -⟩ := freshFakeClientHello_ok seed h
  rw [hok]
  trivial

/-- Its probes use the same template. -/
theorem meets_discoverLowTtl {sni : String}
    (h : sni.utf8ByteSize ≤ Config.maxSniLen) :
    Meets (discoverLowTtl c d sni) NotTooLong fun _ => True := by
  unfold discoverLowTtl
  split
  · apply (meets_freshFakeClientHello (d.seed sni) h).bind
    intro _ _
    trivial
  · trivial

/-- For one target. -/
theorem meets_discoverTarget {t : Target} (h : Fits t) :
    Meets (discoverTarget c d t) NotTooLong fun _ => True := by
  unfold discoverTarget
  split
  case h_1 => trivial
  case h_2 => exact nofun
  case h_3 sni hip hsni =>
    apply meets_discoverLowTtl
    unfold Fits at h
    rw [hsni] at h
    exact h

/-- Discovery sets the TTL and nothing else. -/
theorem withTtl_sni {previous : List Target} {startupFallback : Option UInt8}
    {t t' : Target} {discovered : Option UInt8}
    (h : withTtl previous startupFallback t discovered = some t') :
    t'.sni = t.sni := by
  unfold withTtl at h
  split at h
  · cases h
    rfl
  · split at h
    · cases h
      rfl
    · obtain ⟨ttl, -, rfl⟩ := Option.map_eq_some_iff.mp h
      rfl

/-- For all that are new. -/
theorem meets_discoverPoolTtls (previous : List Target)
    (startupFallback : Option UInt8) {targets : List Target}
    (h : ∀ t ∈ targets, Fits t) :
    Meets (discoverPoolTtls c d previous startupFallback targets) NotTooLong
      fun admitted => ∀ t ∈ admitted, Fits t := by
  induction targets with
  | nil => exact nofun
  | cons t rest ih =>
      have ht := h t List.mem_cons_self
      unfold discoverPoolTtls
      apply (meets_discoverTarget ht).bind
      intro discovered _
      apply (ih fun t ht => h t (List.mem_cons_of_mem _ ht)).bind
      intro admitted hadmitted t' ht'
      rcases List.mem_append.mp ht' with ht' | ht'
      · have hsni := withTtl_sni (Option.mem_toList.mp ht')
        unfold Fits
        rw [hsni]
        exact ht
      · exact hadmitted t' ht'

end Discovery

-- ================================================================ the start

/-- A target fits if its host does. -/
theorem fits_fromSni {entry : SniScanner.SniProbeEntry Bps}
    (h : entry.sni.utf8ByteSize ≤ Config.maxSniLen) :
    Fits (Target.fromSni entry) := h

/-- A scan finds no host that is not in its list. -/
theorem scanned_short {c : SniScanner.Setup Bps} {scan : Scan Bps}
    (hshort : ShortHosts scan) {entries : List (SniScanner.SniProbeEntry Bps)}
    (h : scanSniList c scan = some entries) :
    ∀ e ∈ entries, e.sni.utf8ByteSize ≤ Config.maxSniLen := by
  intro e he
  obtain ⟨content, host, hcontent, hhost, hsni⟩ := scanSniList_sni h he
  rw [hsni]
  exact hshort content hcontent host hhost

/-- Nor does the other one. -/
theorem scannedWithProgress_short {c : Setup Bps} {w : Start Bps}
    (hshort : ShortHosts w.scan)
    {entries : List (SniScanner.SniProbeEntry Bps)}
    (h : scanSniListWithProgress c w = some entries) :
    ∀ e ∈ entries, e.sni.utf8ByteSize ≤ Config.maxSniLen := by
  unfold scanSniListWithProgress at h
  split at h
  case h_1 => exact scanned_short hshort h
  case h_2 arrived _ =>
    obtain ⟨hosts, hhosts, h⟩ := Option.bind_eq_some_iff.mp h
    cases h
    intro e he
    obtain ⟨⟨i, ip, probe⟩, -, hentry⟩ :=
      List.mem_filterMap.mp (mem_ranked.mp he)
    dsimp only at hentry
    split at hentry
    case isTrue =>
      obtain ⟨sni, hsni, rfl⟩ := Option.map_eq_some_iff.mp hentry
      obtain ⟨content, host, hcontent, hhost, rfl⟩ :=
        mem_hosts hhosts (List.mem_of_getElem? hsni)
      rw [probeSniIp_sni]
      exact hshort content hcontent host hhost
    case isFalse => cases hentry

/-- The entries a generation selects from. -/
theorem sortedEntries_short {c : Setup Bps} {w : Start Bps}
    (hvalid : c.config.validate = .ok ())
    (hshort : c.config.selectedSni = none → ShortHosts w.scan)
    {entries : List (SniScanner.SniProbeEntry Bps)}
    (h : sortedEntries c w = some entries) :
    ∀ e ∈ entries, e.sni.utf8ByteSize ≤ Config.maxSniLen := by
  unfold sortedEntries at h
  split at h
  case h_1 sni hselected =>
    obtain ⟨addrs, -, h⟩ := Option.bind_eq_some_iff.mp h
    split at h
    case isTrue => cases h
    case isFalse =>
      cases h
      intro e he
      obtain ⟨ip, -, rfl⟩ := List.mem_map.mp he
      exact Config.selectedSni_short hvalid hselected
  case h_2 hselected =>
    obtain ⟨found, hfound, h⟩ := Option.bind_eq_some_iff.mp h
    split at h
    case isTrue => cases h
    case isFalse =>
      cases h
      split at hfound
      case isTrue => exact scanned_short (hshort hselected) hfound
      case isFalse => exact scannedWithProgress_short (hshort hselected) hfound

/-- The entry that is selected was scanned. -/
theorem mem_of_selectEntry {c : Setup Bps} {w : Start Bps}
    {entries : List (SniScanner.SniProbeEntry Bps)}
    {selected : SniScanner.SniProbeEntry Bps}
    (h : selectEntry c w entries = some selected) : selected ∈ entries := by
  unfold selectEntry at h
  split at h
  case isTrue =>
    obtain ⟨first, -, h⟩ := Option.bind_eq_some_iff.mp h
    exact List.mem_of_find?_eq_some h
  case isFalse =>
    split at h
    case isTrue => exact List.mem_of_mem_head? h
    case isFalse =>
      obtain ⟨i, -, h⟩ := Option.bind_eq_some_iff.mp h
      exact List.mem_of_getElem? h

/-- So were the targets of a balanced pool. -/
theorem mem_balancedTargets {c : Setup Bps}
    {entries : List (SniScanner.SniProbeEntry Bps)} {t : Target}
    (h : t ∈ balancedTargets c entries) :
    ∃ e ∈ entries, Target.fromSni e = t := by
  unfold balancedTargets at h
  split at h
  case isTrue =>
    obtain ⟨e, he, ht⟩ := Option.map_eq_some_iff.mp (Option.mem_toList.mp h)
    exact ⟨e, List.mem_of_mem_head? he, ht⟩
  case isFalse => exact mem_sniCandidates h

/-- The pool of a start, from a selected name or from a scan of short ones.
-/
theorem meets_startPool {c : Setup Bps} {w : Start Bps}
    (hvalid : c.config.validate = .ok ())
    (hshort : c.config.selectedSni = none → ShortHosts w.scan) :
    Meets (startPool c w) NotTooLong
      fun r => ∀ pool, r = some pool → ∀ t ∈ poolTargets pool, Fits t := by
  unfold startPool
  split
  case h_1 => exact nofun
  case h_2 entries hentries =>
    have hall := sortedEntries_short hvalid hshort hentries
    split
    case h_1 => exact nofun
    case h_2 selected hselected =>
      have hselected := hall selected (mem_of_selectEntry hselected)
      have htargets : ∀ t ∈ (if c.loadBalanceEnabled
          then balancedTargets c entries
          else [Target.fromSni selected]), Fits t := by
        intro t ht
        split at ht
        case isTrue =>
          obtain ⟨e, he, rfl⟩ := mem_balancedTargets ht
          exact fits_fromSni (hall e he)
        case isFalse =>
          cases List.mem_singleton.mp ht
          exact fits_fromSni hselected
      apply (meets_new c.strategy w.seed htargets).bind
      intro made hmade
      split
      case h_2 => exact nofun
      case h_1 pool =>
        have hpool := hmade pool rfl
        split
        case isTrue =>
          split
          case isTrue =>
            apply (meets_discoverPoolTtls [] _ hpool).bind
            intro targets htargets
            apply (meets_replace hpool htargets).bind
            rintro r hr pool' ⟨⟩
            exact hr
          case isFalse =>
            apply (meets_discoverLowTtl hselected).bind
            rintro _ _ pool' ⟨⟩
            exact hpool
        case isFalse =>
          rintro pool' ⟨⟩
          exact hpool

/-- A pool of targets that fit. -/
theorem meets_restorePool {c : Setup Bps} {seed : UInt64}
    {targets : List Target} (h : ∀ t ∈ targets, Fits t) :
    Meets (restorePool c seed targets) NotTooLong
      fun r => ∀ pool, r = some pool → ∀ t ∈ poolTargets pool, Fits t := by
  unfold restorePool
  apply (meets_new c.strategy seed h).bind
  intro made hmade
  split
  case h_2 => exact nofun
  case h_1 pool =>
    intro pool' hpool'
    split at hpool'
    case isTrue =>
      cases hpool'
      exact hmade pool rfl
    case isFalse => cases hpool'

-- =============================================================== the rescan

section Rescan

variable {c : Setup Bps} {w : Rescan Bps} {pool : TargetPool}
  {entries : List (SniScanner.SniProbeEntry Bps)}

/-- A rescan, balanced. -/
theorem meets_rescanBalanced (hpool : ∀ t ∈ poolTargets pool, Fits t)
    (hall : ∀ e ∈ entries, e.sni.utf8ByteSize ≤ Config.maxSniLen) :
    Meets (rescanBalanced c w pool entries) NotTooLong
      fun pool' => ∀ t ∈ poolTargets pool', Fits t := by
  have hcandidates : ∀ t ∈ sniCandidates entries
      c.config.loadBalanceTargetCount c.config.sniSwitchMinScore,
      Fits t := by
    intro t ht
    obtain ⟨e, he, rfl⟩ := mem_sniCandidates ht
    exact fits_fromSni (hall e he)
  have hadmitted : Meets (rescanCandidates c w pool entries) NotTooLong
      fun admitted => ∀ t ∈ admitted, Fits t := by
    simp only [rescanCandidates]
    split
    · exact meets_discoverPoolTtls _ _ hcandidates
    · exact hcandidates
  unfold rescanBalanced
  apply hadmitted.bind
  intro targets htargets
  apply (meets_replace hpool htargets).bind
  intro r hr
  exact hr

/-- Its best entry was scanned. -/
theorem mem_of_rescanned {best : SniScanner.SniProbeEntry Bps}
    (h : rescanned c w entries = some best) : best ∈ entries := by
  unfold rescanned at h
  split at h
  case isTrue =>
    obtain ⟨i, -, h⟩ := Option.bind_eq_some_iff.mp h
    exact List.mem_of_getElem? h
  case isFalse => exact List.mem_of_mem_head? h

/-- The switch is to that entry's host. -/
theorem selectRescanTarget_sni {current next : ActiveSniTarget}
    {best : ZeroDpi.SniProbeEntry} {minScore : UInt8}
    (h : selectRescanTarget current best minScore = some next) :
    next.sni = best.sni := by
  unfold selectRescanTarget at h
  split at h
  case isTrue =>
    cases h
    rfl
  case isFalse => cases h

/-- A switch goes to the entry it was decided for. -/
theorem nextTarget_sni {manual : Bool} {current next : ActiveSniTarget}
    {best : SniScanner.SniProbeEntry Bps}
    (h : nextTarget c manual current best = some next) :
    next.sni = best.sni := by
  unfold nextTarget at h
  split at h
  case isTrue =>
    cases h
    rfl
  case isFalse => exact selectRescanTarget_sni h

/-- Behind its gates. -/
theorem meets_gatedSwitch {current next : ActiveSniTarget}
    {best : SniScanner.SniProbeEntry Bps} (hnext : next.sni = best.sni)
    (hbest : best.sni.utf8ByteSize ≤ Config.maxSniLen) :
    Meets (gatedSwitch c w current best next) NotTooLong
      fun r => ∀ target, r = some target → target.sni = best.sni := by
  unfold gatedSwitch
  split
  case isTrue =>
    apply (meets_discoverLowTtl (by rw [hnext]; exact hbest)).bind
    intro discovered _ target htarget
    split at htarget
    case isTrue =>
      obtain ⟨ttl, -, rfl⟩ := Option.map_eq_some_iff.mp htarget
      exact hnext
    case isFalse =>
      obtain ⟨ttl, -, htarget⟩ := Option.bind_eq_some_iff.mp htarget
      exact selectRescanTarget_sni htarget
  case isFalse =>
    rintro target ⟨⟩
    exact hnext

/-- A rescan of one target. -/
theorem meets_rescanSingle (hpool : ∀ t ∈ poolTargets pool, Fits t)
    (hall : ∀ e ∈ entries, e.sni.utf8ByteSize ≤ Config.maxSniLen) :
    Meets (rescanSingle c w pool entries) NotTooLong
      fun pool' => ∀ t ∈ poolTargets pool', Fits t := by
  unfold rescanSingle
  split
  case h_1 => exact hpool
  case h_2 best hbest =>
    have hshort := hall best (mem_of_rescanned hbest)
    split
    case h_1 => exact nofun
    case h_2 current _ =>
      split
      case h_1 => exact hpool
      case h_2 next hnext =>
        apply (meets_gatedSwitch (nextTarget_sni hnext) hshort).bind
        intro switch hswitch
        split
        case h_1 => exact hpool
        case h_2 target =>
          have hfits : ∀ t ∈ [Target.ofSni target.sni target.ip target.score],
              Fits t := by
            intro t ht
            cases List.mem_singleton.mp ht
            show target.sni.utf8ByteSize ≤ _
            rw [hswitch target rfl]
            exact hshort
          apply (meets_replace hpool hfits).bind
          intro r hr
          exact hr

/-- Either of them. -/
theorem meets_rescanSniOnce (hpool : ∀ t ∈ poolTargets pool, Fits t)
    (hshort : ShortHosts w.scan) :
    Meets (rescanSniOnce c w pool) NotTooLong
      fun pool' => ∀ t ∈ poolTargets pool', Fits t := by
  unfold rescanSniOnce
  split
  case isTrue => exact hpool
  case isFalse =>
    split
    case h_1 => exact hpool
    case h_2 entries hentries =>
      have hall := scanned_short hshort hentries
      split
      case isTrue => exact meets_rescanBalanced hpool hall
      case isFalse => exact meets_rescanSingle hpool hall

end Rescan

-- ========================================================== the connections

/-- A connection takes one of the targets. -/
theorem meets_accept {c : Setup Bps} {seed : HelloSeed} {pool : TargetPool}
    (hpool : ∀ t ∈ poolTargets pool, Fits t) :
    Meets (accept c seed pool) NotTooLong
      fun pool' => ∀ t ∈ poolTargets pool', Fits t := by
  unfold accept
  apply (meets_acquire pool).bind
  rintro ⟨lease, pool'⟩ ⟨hlease, htargets⟩
  have hpool' : ∀ t ∈ poolTargets pool', Fits t := by
    rw [htargets]
    exact hpool
  dsimp only
  split
  case h_1 => exact hpool'
  case h_2 =>
    split
    case isTrue => exact hpool'
    case isFalse =>
      apply (meets_freshFakeClientHello seed (hpool _ hlease)).bind
      intro _ _
      exact hpool'

-- ================================================================= every run

/-- The configurations passed validation. -/
def Label.Valid : Label Bps → Prop
  | .start c _ => c.config.validate = .ok ()
  | .restore c _ => c.config.validate = .ok ()
  | .rescan _ => True
  | .accept _ => True
  | .stop _ _ => True

/-- The lists that are scanned have short hosts. -/
def Label.ShortHosts : Label Bps → Prop
  | .start c w => c.config.selectedSni = none → SniTargets.ShortHosts w.scan
  | .rescan w => SniTargets.ShortHosts w.scan
  | .restore _ _ => True
  | .accept _ => True
  | .stop _ _ => True

/-- What a reload backs up. -/
theorem fits_backupTargets {balanced : Bool} {discoveredTtl : Option UInt8}
    {targets : List Target} (h : ∀ t ∈ targets, Fits t) :
    ∀ t ∈ Reload.backupTargets balanced discoveredTtl targets, Fits t := by
  unfold Reload.backupTargets
  split
  case isTrue => exact h
  case isFalse =>
    cases targets with
    | nil => exact nofun
    | cons first rest =>
        intro t ht
        rcases List.mem_cons.mp ht with rfl | ht
        · exact h first List.mem_cons_self
        · exact h t (List.mem_cons_of_mem first ht)

/-- A generation whose pool has changed. -/
theorem State.Fit.goOn {s : State Bps} (h : s.Fit) (c : Setup Bps)
    {pool : TargetPool} (hpool : ∀ t ∈ poolTargets pool, Fits t) :
    State.Fit { s with generation := some (c, pool) } where
  pool := by
    intro c' pool' hgeneration
    cases hgeneration
    exact hpool
  lastGood := h.lastGood

/-- A generation that starts, or does not. -/
theorem State.Fit.begin {s : State Bps} (h : s.Fit) (c : Setup Bps)
    {pool : Option TargetPool}
    (hpool : ∀ pool', pool = some pool' → ∀ t ∈ poolTargets pool', Fits t) :
    State.Fit { s with generation := pool.map fun pool => (c, pool) } where
  pool := by
    intro c' pool' hgeneration
    obtain ⟨p, rfl, heq⟩ := Option.map_eq_some_iff.mp hgeneration
    cases heq
    exact hpool _ rfl
  lastGood := h.lastGood

/-- Every step keeps the pool's names short. -/
theorem meets_step {s : State Bps} {label : Label Bps} (h : s.Fit)
    (hvalid : label.Valid) (hshort : label.ShortHosts) :
    Meets (step s label) NotTooLong State.Fit := by
  cases label with
  | start c w =>
      apply (meets_startPool hvalid hshort).bind
      intro pool hpool
      exact h.begin c hpool
  | restore c seed =>
      simp only [step]
      split
      case h_1 => exact h
      case h_2 targets htargets =>
        apply (meets_restorePool (h.lastGood targets htargets)).bind
        intro pool hpool
        exact h.begin c hpool
  | rescan w =>
      simp only [step]
      split
      case h_1 => exact h
      case h_2 c pool hgeneration =>
        split
        case isTrue =>
          apply (meets_rescanSniOnce (h.pool c pool hgeneration) hshort).bind
          intro pool' hpool'
          exact h.goOn c hpool'
        case isFalse => exact h
  | accept seed =>
      simp only [step]
      split
      case h_1 => exact h
      case h_2 c pool hgeneration =>
        apply (meets_accept (h.pool c pool hgeneration)).bind
        intro pool' hpool'
        exact h.goOn c hpool'
  | stop ready discoveredTtl =>
      simp only [step]
      split
      case h_1 => exact h
      case h_2 c pool hgeneration =>
        refine ⟨by simp, fun targets htargets => ?_⟩
        split at htargets
        case isTrue =>
          cases htargets
          exact fits_backupTargets (h.pool c pool hgeneration)
        case isFalse => exact h.lastGood targets htargets

/-- So does every run. -/
theorem meets_run {labels : List (Label Bps)}
    (hvalid : ∀ label ∈ labels, label.Valid)
    (hshort : ∀ label ∈ labels, label.ShortHosts) :
    Meets (run labels) NotTooLong State.Fit :=
  foldlM_meets ⟨by simp [initial], by simp [initial]⟩ fun _ label hmem hs =>
    meets_step hs (hvalid label hmem) (hshort label hmem)

-- ======================================================= a host too long

/-- The panic of a name that does not fit. -/
def TooLong (p : Panic) : Prop := p = sniTooLong

/-- A target with a given name. -/
def Named (sni : String) (ip : Ipv4Addr) (t : Target) : Prop :=
  t.sni = some sni ∧ t.ip = .v4 ip

/-- A pool that has one name only. -/
structure OnlyNamed (sni : String) (ip : Ipv4Addr) (pool : TargetPool) :
    Prop where
  inv : ∃ seen, TargetPool.Inv ⟨pool, []⟩ seen
  named : ∀ t ∈ poolTargets pool, Named sni ip t

section TooLong

variable {c : Setup Bps} {d : Discovery} {sni : String} {ip : Ipv4Addr}
  (hlong : Config.maxSniLen < sni.utf8ByteSize)

include hlong

/-- The discovery of a long name either does nothing or panics for its
length. -/
theorem tooLong_discoverLowTtl :
    Meets (discoverLowTtl c d sni) TooLong fun _ => True := by
  unfold discoverLowTtl
  split
  · rw [freshFakeClientHello_too_long (d.seed sni) hlong]
    rfl
  · trivial

/-- Discovery panics, or leaves every target in the pool. -/
theorem tooLong_discoverPoolTtls (previous : List Target) (ttl : UInt8)
    {targets : List Target} (h : ∀ t ∈ targets, Named sni ip t) :
    Meets (discoverPoolTtls c d previous (some ttl) targets) TooLong
      fun admitted => admitted.length = targets.length
        ∧ ∀ t ∈ admitted, Named sni ip t := by
  induction targets with
  | nil => exact ⟨rfl, nofun⟩
  | cons t rest ih =>
      obtain ⟨hsni, hip⟩ := h t List.mem_cons_self
      have hdiscover : Meets (discoverTarget c d t) TooLong
          fun _ => True := by
        simp only [discoverTarget, hsni, hip]
        exact tooLong_discoverLowTtl hlong
      unfold discoverPoolTtls
      apply hdiscover.bind
      intro discovered _
      apply (ih fun t ht => h t (List.mem_cons_of_mem _ ht)).bind
      intro admitted hgiven
      obtain ⟨hlength, hadmitted⟩ := hgiven
      have hadmitted : ∃ t', withTtl previous (some ttl) t discovered = some t'
          ∧ Named sni ip t' := by
        unfold withTtl
        split
        · exact ⟨_, rfl, hsni, hip⟩
        · split
          · exact ⟨_, rfl, hsni, hip⟩
          · exact ⟨_, rfl, hsni, hip⟩
      obtain ⟨t', ht', hnamed⟩ := hadmitted
      show (((withTtl previous (some ttl) t discovered).toList
        ++ admitted).length = _) ∧ _
      rw [ht']
      refine ⟨by simp [hlength], fun t'' ht'' => ?_⟩
      rcases List.mem_append.mp ht'' with hhead | htail
      · cases List.mem_singleton.mp hhead
        exact hnamed
      · exact hadmitted t'' htail

end TooLong

/-- A pool with one name. -/
theorem onlyNamed_replace {sni : String} {ip : Ipv4Addr} {pool : TargetPool}
    (h : OnlyNamed sni ip pool) {targets : List Target} (hne : targets ≠ [])
    (htargets : ∀ t ∈ targets, Named sni ip t) :
    ∃ changed pool', pool.replace targets = .ok (changed, pool')
      ∧ OnlyNamed sni ip pool' := by
  obtain ⟨seen, hinv⟩ := h.inv
  obtain ⟨changed, pool', hreplace, hinv', -, -⟩ := hinv.ledger.replace hne
  have hnamed := meets_replace (P := Named sni ip) h.named htargets
  rw [hreplace] at hnamed
  exact ⟨changed, pool', hreplace, ⟨_, hinv'⟩, hnamed⟩

/-- A new one. -/
theorem onlyNamed_new {sni : String} {ip : Ipv4Addr}
    (strategy : TargetPool.SelectionStrategy) (seed : UInt64)
    {targets : List Target} (hne : targets ≠ [])
    (htargets : ∀ t ∈ targets, Named sni ip t) :
    ∃ pool, TargetPool.new strategy seed targets = .ok (some pool)
      ∧ OnlyNamed sni ip pool := by
  obtain ⟨pool, hnew, hinv, -, -⟩ := TargetPool.new_inv strategy seed hne
  have hnamed := meets_new (P := Named sni ip) strategy seed htargets
  rw [hnew] at hnamed
  exact ⟨pool, hnew, ⟨_, hinv⟩, hnamed pool rfl⟩

/-- A long name does not fit. -/
theorem OnlyNamed.not_fit {sni : String} {ip : Ipv4Addr} {pool : TargetPool}
    (h : OnlyNamed sni ip pool)
    (hlong : Config.maxSniLen < sni.utf8ByteSize) {s : State Bps}
    {c : Setup Bps} (hs : s.generation = some (c, pool)) : ¬ s.Fit := by
  intro hfit
  obtain ⟨seen, hinv⟩ := h.inv
  obtain ⟨m, hm⟩ := List.exists_mem_of_ne_nil _ hinv.nonempty
  have hmem : m.target ∈ poolTargets pool := List.mem_map_of_mem hm
  have hfits := hfit.pool c pool hs m.target hmem
  obtain ⟨hsni, -⟩ := h.named m.target hmem
  unfold Fits at hfits
  rw [hsni] at hfits
  exact absurd hfits (Nat.not_le.mpr hlong)

/-- A fake for the name is a panic. -/
theorem OnlyNamed.accept {sni : String} {ip : Ipv4Addr} {pool : TargetPool}
    (h : OnlyNamed sni ip pool)
    (hlong : Config.maxSniLen < sni.utf8ByteSize) {c : Setup Bps}
    (hmethod : c.config.bypassMethod.isSocketOnly = false)
    (seed : HelloSeed) :
    SniTargets.accept c seed pool = .error sniTooLong := by
  obtain ⟨seen, hinv⟩ := h.inv
  obtain ⟨index, member, s', hstep, -⟩ := hinv.acquire
  obtain ⟨⟨lease, pool'⟩, hacquire, -⟩ := bind_eq_ok.mp hstep
  have hacquire : pool.acquire = .ok (lease, pool') := hacquire
  have hlease := meets_acquire pool
  rw [hacquire] at hlease
  obtain ⟨hsni, hip⟩ := h.named lease.target hlease.1
  have hhello := freshFakeClientHello_too_long seed hlong
  unfold SniTargets.accept
  rw [hacquire]
  simp only [bind, Except.bind, hip, hmethod, Bool.false_eq_true, if_false,
    hsni, Option.getD_some, hhello]

-- ------------------------------------------------ how it gets into the pool

/-- An address that answers a connect at once and nothing else. -/
def connectOnly : Probe Bps where
  tcpLatencyMs := some 0
  tlsLatencyMs := none
  written := false
  ttfbMs := none
  downloadBps := none
  httpStatus := none
  uploadBps := none

/-- A start on which one host answers. -/
def starting (c : Setup Bps) (content : List Char) (sni : String)
    (ip : Ipv4Addr) (d : Discovery) : Start Bps where
  lookup := none
  scan := preferring c.scanner content sni ip connectOnly
  arrived := none
  choice := some 0
  seed := 0
  discovery := d

/-- The entry of such an address, before its score. -/
def connected (sni : String) (ip : Ipv4Addr) : SniScanner.SniProbeEntry Bps :=
  { blank sni ip with tcpLatencyMs := some 0 }

/-- An address that answers a connect at once has a score. -/
def Setup.Scores (c : Setup Bps) : Prop :=
  ∀ sni ip, 1 ≤ c.computeScore (connected sni ip)

/-- A probe that connects and gets no further. -/
theorem probeSniIp_connectOnly (c : SniScanner.Setup Bps) (sni : String)
    (ip : Ipv4Addr) :
    probeSniIp c sni ip connectOnly = c.scored (connected sni ip) := by
  unfold probeSniIp connectOnly
  dsimp only
  split
  · rfl
  · rfl

/-- The scan of one host has one entry. -/
theorem sortedEntries_starting {c : Setup Bps}
    (hselected : c.config.selectedSni = none) {content host : List Char}
    (hhost : host ∈ hostnames (scannedText c.scanner content))
    (ip : Ipv4Addr) (d : Discovery) :
    ∃ entries, sortedEntries c (starting c content (String.ofList host) ip d)
        = some entries
      ∧ entries ≠ []
      ∧ ∀ e ∈ entries, e = c.scanner.scored
        (connected (String.ofList host) ip) := by
  obtain ⟨entries, hscan, hne, hall⟩ :=
    scanSniList_preferring c.scanner ip connectOnly hhost
  refine ⟨entries, ?_, hne, fun e he => ?_⟩
  · have hempty : entries.isEmpty = false := by simpa using hne
    have hscanned : (if c.noTui then scanSniList c.scanner
          (starting c content (String.ofList host) ip d).scan
        else scanSniListWithProgress c
          (starting c content (String.ofList host) ip d)) = some entries := by
      split
      · exact hscan
      · exact hscan
    simp only [sortedEntries, hselected]
    rw [hscanned, Option.bind_some, hempty]
    rfl
  · rw [hall e he, probeSniIp_connectOnly]

/-- The targets of load balancing are there, and have the one name. -/
theorem balancedTargets_ne_nil {c : Setup Bps}
    (hvalid : c.config.validate = .ok ())
    (hselected : c.config.selectedSni = none) (hscores : c.Scores)
    {sni : String} {ip : Ipv4Addr}
    {entries : List (SniScanner.SniProbeEntry Bps)} (hne : entries ≠ [])
    (hall : ∀ e ∈ entries, e = c.scanner.scored (connected sni ip)) :
    balancedTargets c entries ≠ [] := by
  have hcount : c.config.loadBalanceTargetCount ≠ 0 := by
    have hlimits := hvalid
    unfold Config.validate at hlimits
    obtain ⟨_, hlimits, _⟩ := bind_eq_ok.mp hlimits
    unfold Config.validateLimits at hlimits
    obtain ⟨hcount, -⟩ := Config.bailIf_bind.mp hlimits
    simpa using hcount
  obtain ⟨e, rest, rfl⟩ := List.exists_cons_of_ne_nil hne
  obtain rfl := hall e List.mem_cons_self
  have hmax : max (1 : UInt8) 1 = 1 := by decide
  have hpass : ((c.scanner.scored (connected sni ip)).tcpLatencyMs.isSome
      && decide (max 1 1
        ≤ (c.scanner.scored (connected sni ip)).score)) = true := by
    rw [hmax]
    exact decide_eq_true (hscores sni ip)
  have hsome : c.config.selectedSni.isSome = false := by rw [hselected]; rfl
  have hfilter := @List.filter_cons_of_pos _
    (fun e => e.tcpLatencyMs.isSome && decide (max 1 1 ≤ e.score)) _ rest
    hpass
  simp only [balancedTargets, hsome, Bool.false_eq_true, if_false,
    sniCandidates, uniqueTargets]
  intro hnil
  rcases List.take_eq_nil_iff.mp hnil with hzero | hnil
  · exact hcount hzero
  · rw [hfilter] at hnil
    simp [firstOfKeys] at hnil

/-- Its target has that name. -/
theorem named_fromSni {c : SniScanner.Setup Bps} {sni : String}
    {ip : Ipv4Addr} {e : SniScanner.SniProbeEntry Bps}
    (he : e = c.scored (connected sni ip)) :
    Named sni ip (Target.fromSni e) := by
  subst he
  exact ⟨rfl, rfl⟩

/-- An entry is selected, whoever selects it. -/
theorem selectEntry_starting {c : Setup Bps}
    (hvalid : c.config.validate = .ok ())
    (hselected : c.config.selectedSni = none) (hscores : c.Scores)
    {content : List Char} {sni : String} {ip : Ipv4Addr} {d : Discovery}
    {entries : List (SniScanner.SniProbeEntry Bps)} (hne : entries ≠ [])
    (hall : ∀ e ∈ entries, e = c.scanner.scored (connected sni ip)) :
    ∃ selected, selectEntry c (starting c content sni ip d) entries
      = some selected := by
  have hbalanced := balancedTargets_ne_nil hvalid hselected hscores hne hall
  obtain ⟨e, rest, rfl⟩ := List.exists_cons_of_ne_nil hne
  unfold selectEntry
  split
  case isTrue =>
    obtain ⟨first, others, hfirst⟩ := List.exists_cons_of_ne_nil hbalanced
    have hmem : first ∈ balancedTargets c (e :: rest) := by
      rw [hfirst]
      exact List.mem_cons_self
    obtain ⟨found, hfound, rfl⟩ := mem_balancedTargets hmem
    rw [hfirst]
    refine Option.isSome_iff_exists.mp (List.find?_isSome.mpr
      ⟨found, hfound, ?_⟩)
    simp [Target.fromSni, Target.ofSni]
  case isFalse =>
    split
    · exact ⟨e, rfl⟩
    · exact ⟨e, rfl⟩

/-- Three random fields that came out zero. -/
def zeroSeed : HelloSeed where
  random := List.replicate 32 0
  sessionId := List.replicate 32 0
  keyShare := List.replicate 32 0
  random_length := List.length_replicate
  sessionId_length := List.length_replicate
  keyShare_length := List.length_replicate

/-- The host gets into the pool, or discovery panics on it. -/
theorem tooLong_start {c : Setup Bps} (hvalid : c.config.validate = .ok ())
    (hselected : c.config.selectedSni = none) (hscores : c.Scores)
    {content host : List Char}
    (hhost : host ∈ hostnames (scannedText c.scanner content))
    (hlong : Config.maxSniLen < (String.ofList host).utf8ByteSize)
    (ip : Ipv4Addr) (d : Discovery) :
    Meets (startPool c (starting c content (String.ofList host) ip d)) TooLong
      fun r => ∃ pool, r = some pool
        ∧ OnlyNamed (String.ofList host) ip pool := by
  obtain ⟨entries, hentries, hne, hall⟩ :=
    sortedEntries_starting hselected hhost ip d
  obtain ⟨selected, hselectedEntry⟩ :=
    @selectEntry_starting _ _ hvalid hselected hscores content _ _ d _ hne hall
  have hselectedIs := hall selected (mem_of_selectEntry hselectedEntry)
  have hbalanced := balancedTargets_ne_nil hvalid hselected hscores hne hall
  have htargets : (if c.loadBalanceEnabled then balancedTargets c entries
      else [Target.fromSni selected]) ≠ [] := by
    split
    · exact hbalanced
    · simp
  have hnamed : ∀ t ∈ (if c.loadBalanceEnabled then balancedTargets c entries
      else [Target.fromSni selected]), Named (String.ofList host) ip t := by
    intro t ht
    split at ht
    case isTrue =>
      obtain ⟨e, he, rfl⟩ := mem_balancedTargets ht
      exact named_fromSni (hall e he)
    case isFalse =>
      cases List.mem_singleton.mp ht
      exact named_fromSni hselectedIs
  obtain ⟨pool, hnew, honly⟩ := onlyNamed_new c.strategy 0 htargets hnamed
  simp only [startPool, hentries, hselectedEntry]
  show Meets (TargetPool.new c.strategy 0 _ >>= _) _ _
  rw [hnew]
  show Meets (if c.discovers = true then _ else _) _ _
  split
  case isTrue =>
    split
    case isTrue =>
      apply (tooLong_discoverPoolTtls hlong [] _ honly.named).bind
      intro targets hgiven
      obtain ⟨hlength, htargets⟩ := hgiven
      have hsome : targets ≠ [] := by
        obtain ⟨seen, hinv⟩ := honly.inv
        have hpos := List.length_pos_iff.mpr hinv.nonempty
        apply List.length_pos_iff.mp
        rw [hlength, poolTargets, TargetPool.probeSnapshot, List.length_map]
        exact hpos
      obtain ⟨changed, pool', hreplace, honly'⟩ :=
        onlyNamed_replace honly hsome htargets
      rw [hreplace]
      exact ⟨pool', rfl, honly'⟩
    case isFalse =>
      have hsni : selected.sni = String.ofList host := by
        rw [hselectedIs]
        rfl
      rw [hsni]
      apply (tooLong_discoverLowTtl hlong).bind
      intro _ _
      exact ⟨pool, rfl, honly⟩
  case isFalse => exact ⟨pool, rfl, honly⟩

/-- The step of a start. -/
theorem run_start (c : Setup Bps) (w : Start Bps) :
    step initial (.start c w) = (startPool c w >>= fun pool =>
      .ok { (initial : State Bps) with
        generation := pool.map fun pool => (c, pool) }) :=
  rfl

/-- The host answers, and a client connects. -/
theorem run_start_accept {c : Setup Bps}
    (hvalid : c.config.validate = .ok ())
    (hselected : c.config.selectedSni = none)
    (hmethod : c.config.bypassMethod.isSocketOnly = false)
    (hscores : c.Scores) {content host : List Char}
    (hhost : host ∈ hostnames (scannedText c.scanner content))
    (hlong : Config.maxSniLen < (String.ofList host).utf8ByteSize)
    (ip : Ipv4Addr) (d : Discovery) (seed : HelloSeed) :
    run [.start c (starting c content (String.ofList host) ip d),
      .accept seed] = .error sniTooLong := by
  have hstart := tooLong_start hvalid hselected hscores hhost hlong ip d
  simp only [run, List.foldlM_cons, List.foldlM_nil, run_start]
  generalize startPool c (starting c content (String.ofList host) ip d)
    = started at hstart ⊢
  cases started with
  | error e =>
      cases hstart
      rfl
  | ok r =>
      obtain ⟨pool, rfl, honly⟩ := hstart
      have haccept := honly.accept hlong hmethod seed
      show (SniTargets.accept c seed pool >>= _) >>= _ = _
      rw [haccept]
      rfl

/-- A list with a host too long, and a start on which the host answers:
the start fails on it, or the host is the target. -/
theorem run_starting {c : Setup Bps} (hvalid : c.config.validate = .ok ())
    (hselected : c.config.selectedSni = none) (hscores : c.Scores)
    {content host : List Char} (hhost : host ∈ hostnames content)
    (hlong : Config.maxSniLen < (String.ofList host).utf8ByteSize) :
    ∃ w : Start Bps, w.scan.content = some content
      ∧ ¬ Meets (run [.start c w]) NotTooLong State.Fit := by
  -- without repeated entries the list may have the host in other letters
  have hkept : ∃ kept ∈ hostnames (scannedText c.scanner content),
      (String.ofList kept).utf8ByteSize
        = (String.ofList host).utf8ByteSize := by
    unfold scannedText
    split
    · exact hostnames_kept hhost
    · exact ⟨host, hhost, rfl⟩
  obtain ⟨kept, hkept, hsize⟩ := hkept
  rw [← hsize] at hlong
  let d : Discovery := ⟨fun _ => zeroSeed, fun _ => none⟩
  have hstart := tooLong_start hvalid hselected hscores hkept hlong 0 d
  refine ⟨starting c content (String.ofList kept) 0 d, rfl, fun hmeets => ?_⟩
  simp only [run, List.foldlM_cons, List.foldlM_nil, run_start] at hmeets
  generalize startPool c (starting c content (String.ofList kept) 0 d)
    = started at hstart hmeets
  cases started with
  | error e => exact hmeets hstart
  | ok r =>
      obtain ⟨pool, rfl, honly⟩ := hstart
      exact honly.not_fit hlong rfl hmeets

/-- In every run whose lists have hosts of at most 219 bytes, every target
of the pool has a name that fits and no fake ClientHello is a failed
assertion. Any other list can break it, where the list is what targets are
selected from. -/
theorem short_hosts_fit :
    (∀ labels : List (Label Bps), (∀ label ∈ labels, label.Valid) →
      (∀ label ∈ labels, label.ShortHosts) →
      Meets (run labels) NotTooLong State.Fit)
    ∧ ∀ (c : Setup Bps) (content : List Char),
      c.config.validate = .ok () → c.config.selectedSni = none →
      c.Scores →
      (∃ host ∈ hostnames content,
        Config.maxSniLen < (String.ofList host).utf8ByteSize) →
      ∃ w : Start Bps, w.scan.content = some content
        ∧ ¬ Meets (run [.start c w]) NotTooLong State.Fit := by
  refine ⟨fun labels => meets_run, ?_⟩
  intro c content hvalid hselected hscores hgiven
  obtain ⟨host, hhost, hlong⟩ := hgiven
  exact run_starting hvalid hselected hscores hhost hlong

-- ------------------------------------------------------------ two lists

/-- The defaults without a terminal, and the score of a connect. -/
def sampleSetup : Setup Unit where
  config := {}
  loadBalanceEnabled := false
  loadBalanceStrategy := .roundRobin
  autoSelect := false
  deduplicateScanLists := false
  rescanIntervalSecs := 0
  noTui := true
  discovers := false
  computeScore := fun e => if e.tcpLatencyMs = some 0 then 25 else 0
  isServerName := fun _ => true

/-- A config that the core accepts. -/
theorem sampleSetup_valid : sampleSetup.config.validate = .ok () := by
  decide

/-- A start on a list with one host, which resolves and takes a connect. -/
def sampleStart : Label Unit :=
  .start sampleSetup (starting sampleSetup "example.com\n".toList
    "example.com" 0x01020304 ⟨fun _ => zeroSeed, fun _ => none⟩)

/-- The host is the target, and a connection gets a fake ClientHello for
it. -/
theorem short_hosts_fit_example :
    ((run [sampleStart]).toOption.bind (·.generation)).map (fun g =>
        (poolTargets g.2).map fun t => (t.sni, t.ip))
        = some [(some "example.com", .v4 0x01020304)]
      ∧ (∃ hello, freshFakeClientHello zeroSeed "example.com" = .ok hello
        ∧ hello.length = clientHelloLen)
      ∧ (run [sampleStart, .accept zeroSeed]).toOption.isSome = true
      ∧ Meets (run [sampleStart, .accept zeroSeed]) NotTooLong State.Fit := by
  refine ⟨by decide +kernel, freshFakeClientHello_ok zeroSeed (by decide),
    by decide +kernel, ?_⟩
  apply short_hosts_fit.1
  · intro label hlabel
    simp only [List.mem_cons, List.not_mem_nil, or_false] at hlabel
    rcases hlabel with rfl | rfl
    · exact sampleSetup_valid
    · trivial
  · intro label hlabel
    simp only [List.mem_cons, List.not_mem_nil, or_false] at hlabel
    rcases hlabel with rfl | rfl
    · rintro - content ⟨⟩
      decide
    · trivial

/-- A host name of 220 bytes: three labels of 63 and one of 28. -/
def longHost : List Char :=
  List.replicate 63 'a' ++ ['.'] ++ List.replicate 63 'b' ++ ['.']
    ++ List.replicate 63 'c' ++ ['.'] ++ List.replicate 28 'd'

/-- One byte more than there is room for. -/
theorem longHost_size : (String.ofList longHost).utf8ByteSize = 220 := by
  rw [Lib.Text.utf8ByteSize_ofList]
  decide +kernel

/-- The only host of the list resolves and accepts a connect; the first
connection through the proxy is a panic. -/
theorem long_host_panics :
    longHost ∈ hostnames (longHost ++ ['\n'])
      ∧ run [.start sampleSetup (starting sampleSetup (longHost ++ ['\n'])
          (String.ofList longHost) 0x01020304
          ⟨fun _ => zeroSeed, fun _ => none⟩), .accept zeroSeed]
        = .error sniTooLong := by
  have hlong : Config.maxSniLen < (String.ofList longHost).utf8ByteSize := by
    rw [longHost_size]
    decide
  have hhost : longHost ∈ hostnames (longHost ++ ['\n']) := by
    decide +kernel
  have hscores : sampleSetup.Scores := by
    intro sni ip
    simp [sampleSetup, connected]
  have hscanned : longHost ∈ hostnames
      (scannedText sampleSetup.scanner (longHost ++ ['\n'])) := by
    decide +kernel
  exact ⟨hhost, run_start_accept sampleSetup_valid rfl rfl hscores hscanned
    hlong _ _ _⟩

end SniTargets
end ZeroDpi
