/-
Targets and TTLs over whole interleavings of a rescan with connections.

The TTL that goes with a target without one of its own is in the plane's
handle, and a rescan writes the handle before it replaces the target.
What holds all the time is `Inv`: the active target is the one of the
last pair, and the handle holds the TTL of that pair, or already the next
one when a swap is halfway. So a fake is right if its flow has its own
TTL, or if its target is still the active one and no swap is halfway
(`Undivided`).
-/
import ZeroDpi.Runtime.HotSwap
import ZeroDpi.Proofs.LowTtl

namespace ZeroDpi.Runtime

open Lib Helper

-- ============================================================= the plane

namespace Plane

variable {p p' : Plane} {ttl : UInt8}

/-- The helper has left. -/
def Gone (p : Plane) : Prop :=
  ∃ r, p = .android r ∧ r.helper = none ∧ r.client.Idle

/-- Whatever is stamped from the handle is `ttl`. -/
def At (p : Plane) (ttl : UInt8) : Prop := Live p ttl ∨ Gone p

/-- A packet is stamped with the flow's TTL or the plane's. -/
theorem At.stampedTtl (h : At p ttl) {rngState : UInt64} {flow : FlowState}
    {pkt : PacketView} {stamped : UInt8}
    (hstamped : p.stampedTtl rngState flow pkt = some stamped) :
    stamped = flow.lowTtlOverride.getD ttl := by
  rcases h with hlive | ⟨r, rfl, hgone, -⟩
  · rw [hlive.stampedTtl] at hstamped
    exact (Option.some.inj hstamped).symm
  · have hrunning : (Plane.android r).running = none := by
      simp only [Plane.running, hgone]
      rfl
    unfold Plane.stampedTtl at hstamped
    rw [hrunning] at hstamped
    cases hstamped

/-- An apply that is not late: the handle has the value if it succeeds,
and what it had if it fails. -/
theorem At.apply (h : At p ttl) {on : Reception} {value : UInt8}
    (hlate : p.isRemote = true → on.io = true → on.inTime = true) :
    At (p.apply on value).2 (if (p.apply on value).1 then value else ttl) := by
  cases p with
  | desktop plane =>
      rcases h with hlive | ⟨r, hr, -⟩
      · have happly : Plane.apply (.desktop plane) on value
            = (true, (Plane.apply (.desktop plane) on value).2) := rfl
        exact .inl (hlive.apply happly)
      · cases hr
  | android r =>
      have hidle : r.client.Idle := by
        rcases h with hlive | ⟨r', hr, -, hidle⟩
        · cases hlive with
          | android hidle => exact hidle
        · cases hr
          exact hidle
      cases hset : r.setLowTtlValue on value with
      | mk result r' =>
      have happly : Plane.apply (.android r) on value
          = (result.isOk, .android r') := by
        simp only [Plane.apply, hset]
      rw [happly]
      cases result with
      | ok _ =>
          rcases h with hlive | ⟨gone, hr, hgone, -⟩
          · exact .inl (hlive.apply happly)
          · -- nobody has acknowledged it
            cases hr
            obtain ⟨session, hhelper, -⟩ :=
              RemoteFlowController.setLowTtlValue_ok hidle hset
            rw [hgone] at hhelper
            cases hhelper
      | error e =>
          obtain ⟨hidle', hkept | hgone⟩ :=
            RemoteFlowController.setLowTtlValue_failed hidle (hlate rfl) hset
          · rcases h with hlive | ⟨gone, hr, hgone, -⟩
            · cases hlive with
              | android _ hhelper hactive hhandle hstamps =>
                  exact .inl (.android hidle' (hkept.trans hhelper) hactive
                    hhandle hstamps)
            · cases hr
              exact .inr ⟨r', rfl, hkept.trans hgone, hidle'⟩
          · exact .inr ⟨r', rfl, hgone, hidle'⟩

end Plane

-- ============================================================ the switch

/-- The scan result warrants the switch. -/
def Switch.Warranted (minScore : UInt8) (w : Switch) : Prop :=
  w.manual = false →
    selectRescanTarget w.current w.best minScore = some w.next

/-- No discovery, no switch. -/
theorem Switch.target_none (w : Switch) (minScore : UInt8) :
    w.target minScore none = none := by
  unfold Switch.target
  split
  · rfl
  · rfl

/-- A switch that was warranted before discovery still is. -/
theorem Switch.Warranted.target {minScore : UInt8} {w : Switch}
    (h : w.Warranted minScore) (found : UInt8) :
    w.target minScore (some found) = some w.next := by
  unfold Switch.target
  split
  · rfl
  case isFalse hmanual => exact h (by simpa using hmanual)

/-- The switch a rescan is at work on before its target is decided. -/
def Rescan.switch? : Rescan → Option Switch
  | .probing w => some w
  | .applying w _ => some w
  | _ => none

namespace HotSwap

variable {minScore : UInt8} {s t : HotSwap}

/-- The fake of a flow without a TTL of its own goes out while its target
is active and no swap is halfway, and the helper answers an update in
time. -/
def Undivided (s : HotSwap) : Act → Prop
  | .stamp i _ _ => ∀ c, s.connections[i]? = some c →
      c.target.lowTtl.isSome = true
        ∨ (c.target = s.active ∧ s.rescan.halfway = false)
  | .apply on => s.plane.isRemote = true → on.io = true → on.inTime = true
  | _ => True

-- ========================================================== the invariant

/-- The last pair against what is in force: the active target with its
own TTL, or with the TTL of the handle unless a swap is halfway. -/
structure InForce (s : HotSwap) (ttl handle : UInt8) : Prop where
  pairs : s.pairs.head? = some (s.active, ttl)
  plane : s.plane.At handle
  own : ∀ own, s.active.lowTtl = some own → ttl = own
  shared : s.rescan.halfway = false → s.active.lowTtl = none → ttl = handle
  found : ∀ next found, s.rescan = .replacing next found → handle = found

/-- What holds as long as nothing comes between. -/
structure Inv (minScore : UInt8) (s : HotSwap) : Prop where
  stamped : ∀ pair ∈ s.stamped, pair ∈ s.pairs
  inForce : ∃ ttl handle, s.InForce ttl handle
  warranted : ∀ w, s.rescan.switch? = some w → w.Warranted minScore
  own : ∀ c ∈ s.connections, ∀ own, c.target.lowTtl = some own →
    (c.target, own) ∈ s.pairs
  registered : ∀ c ∈ s.connections, ∀ flow, c.flow = some flow →
    flow.lowTtlOverride = c.target.lowTtl

/-- Then target and TTL are one pair. -/
theorem Inv.together (h : Inv minScore s) : s.Together := by
  obtain ⟨ttl, handle, hforce⟩ := h.inForce
  refine ⟨h.stamped, ?_⟩
  intro hwhole
  refine ⟨s.active, ttl, hforce.pairs, rfl, ?_⟩
  intro rngState fakeData pkt stamped hstamped
  rw [hforce.plane.stampedTtl hstamped]
  show s.active.lowTtl.getD handle = ttl
  cases hlow : s.active.lowTtl with
  | none => exact (hforce.shared hwhole hlow).symm
  | some own => exact (hforce.own own hlow).symm

/-- At the start. -/
theorem Starting.inv {cfg : Config} (h : s.Starting cfg)
    (hvalid : cfg.validate = .ok ()) (hlow : .lowTtl ∈ cfg.bypassMethod) :
    Inv minScore s := by
  obtain ⟨started, calls, hstarted, hcalls⟩ := h.plane
  have hlist := Config.validList hvalid
  have hlive := (hstarted.live hlist hlow).run hlist hlow hcalls
  obtain ⟨ttl, hpairs, -, hcurrent⟩ := h.pairs
  have httl : s.active.lowTtl.getD _ = ttl :=
    hcurrent 0 [] probe.view _ (hlive.stampedTtl 0 _ _)
  refine ⟨?_, ⟨ttl, _, ?_, .inl hlive, ?_, ?_, ?_⟩, ?_, ?_, ?_⟩
  · intro pair hpair
    rw [h.stamped] at hpair
    cases hpair
  · rw [hpairs]
    rfl
  · intro own hown
    rw [hown] at httl
    exact httl.symm
  · intro _ hnone
    rw [hnone] at httl
    exact httl.symm
  · intro next found heq
    rw [h.rescan] at heq
    cases heq
  · intro w hw
    rw [h.rescan] at hw
    cases hw
  · intro c hc
    rw [h.connections] at hc
    cases hc
  · intro c hc
    rw [h.connections] at hc
    cases hc

-- ======================================================= the connections

/-- Only the connections move. -/
theorem Inv.among (h : Inv minScore s) {connections : List Connection}
    {stamped : List (Target × UInt8)}
    (hstamped : ∀ pair ∈ stamped, pair ∈ s.pairs)
    (hown : ∀ c ∈ connections, ∀ own, c.target.lowTtl = some own →
      (c.target, own) ∈ s.pairs)
    (hregistered : ∀ c ∈ connections, ∀ flow, c.flow = some flow →
      flow.lowTtlOverride = c.target.lowTtl) :
    Inv minScore { s with
      connections := connections, stamped := stamped } := by
  obtain ⟨ttl, handle, hforce⟩ := h.inForce
  exact ⟨hstamped, ⟨ttl, handle, hforce.pairs, hforce.plane, hforce.own,
    hforce.shared, hforce.found⟩, h.warranted, hown, hregistered⟩

/-- A connection. -/
theorem Inv.accept (h : Inv minScore s) :
    Inv minScore { s with
      connections := s.connections ++ [{ target := s.active, flow := none }] }
    := by
  obtain ⟨ttl, handle, hforce⟩ := h.inForce
  refine h.among h.stamped ?_ ?_
  · intro c hc own hown
    rcases List.mem_append.mp hc with hc | hc
    · exact h.own c hc own hown
    · rw [List.mem_singleton.mp hc] at hown ⊢
      have hhead := List.mem_of_mem_head? (Option.mem_def.mpr hforce.pairs)
      rw [hforce.own own hown] at hhead
      exact hhead
  · intro c hc flow hflow
    rcases List.mem_append.mp hc with hc | hc
    · exact h.registered c hc flow hflow
    · rw [List.mem_singleton.mp hc] at hflow
      cases hflow

/-- Its flow. -/
theorem Inv.register (h : Inv minScore s) {i : Nat} {c : Connection}
    (hc : s.connections[i]? = some c) (fakeData : Bytes) :
    Inv minScore { s with
      connections := s.connections.set i { c with
        flow := some (.new fakeData c.target.lowTtl) } } := by
  have hmem : c ∈ s.connections := List.mem_of_getElem? hc
  refine h.among h.stamped ?_ ?_
  · intro other hother own hown
    rcases List.mem_or_eq_of_mem_set hother with hother | rfl
    · exact h.own other hother own hown
    · exact h.own c hmem own hown
  · intro other hother flow hflow
    rcases List.mem_or_eq_of_mem_set hother with hother | rfl
    · exact h.registered other hother flow hflow
    · cases hflow
      rfl

/-- A connection is done with, stamped or not. -/
theorem Inv.erase (h : Inv minScore s) (i : Nat)
    {stamped : List (Target × UInt8)}
    (hstamped : ∀ pair ∈ stamped, pair ∈ s.pairs) :
    Inv minScore { s with
      connections := s.connections.eraseIdx i, stamped := stamped } := by
  refine h.among hstamped ?_ ?_
  · intro c hc
    exact h.own c (List.mem_of_mem_eraseIdx hc)
  · intro c hc
    exact h.registered c (List.mem_of_mem_eraseIdx hc)

/-- The pair of a fake was active together. -/
theorem Inv.stamp (h : Inv minScore s) {i : Nat} {c : Connection}
    {flow : FlowState} {rngState : UInt64} {pkt : PacketView}
    {stamped : UInt8} (hc : s.connections[i]? = some c)
    (hflow : c.flow = some flow)
    (hstamped : s.plane.stampedTtl rngState flow pkt = some stamped)
    (hundivided : c.target.lowTtl.isSome = true
      ∨ (c.target = s.active ∧ s.rescan.halfway = false)) :
    (c.target, stamped) ∈ s.pairs := by
  have hmem : c ∈ s.connections := List.mem_of_getElem? hc
  obtain ⟨ttl, handle, hforce⟩ := h.inForce
  have hvalue := hforce.plane.stampedTtl hstamped
  rw [h.registered c hmem flow hflow] at hvalue
  cases hlow : c.target.lowTtl with
  | some own =>
      rw [hlow] at hvalue
      rw [hvalue]
      exact h.own c hmem own hlow
  | none =>
      rw [hlow] at hvalue hundivided
      rcases hundivided with hsome | ⟨htarget, hwhole⟩
      · cases hsome
      · have hhead := List.mem_of_mem_head? (Option.mem_def.mpr hforce.pairs)
        rw [htarget] at hlow ⊢
        rw [hforce.shared hwhole hlow] at hhead
        rw [hvalue]
        exact hhead

-- ============================================================= the rescan

/-- The rescan moves on without having touched plane or pool. -/
theorem Inv.rescan (h : Inv minScore s) {rescan : Rescan}
    (hbefore : s.rescan.halfway = false) (hafter : rescan.halfway = false)
    (hwarranted : ∀ w, rescan.switch? = some w → w.Warranted minScore) :
    Inv minScore { s with rescan := rescan } := by
  obtain ⟨ttl, handle, hforce⟩ := h.inForce
  refine ⟨h.stamped, ⟨ttl, handle, hforce.pairs, hforce.plane, hforce.own,
    fun _ => hforce.shared hbefore, ?_⟩, hwarranted, h.own, h.registered⟩
  intro next found heq
  rw [show rescan = .replacing next found from heq] at hafter
  cases hafter

/-- A scan that finds a better target. -/
theorem Inv.scanned (h : Inv minScore s) {best : SniProbeEntry}
    {manual : Bool} {rescan : Rescan} (hidle : s.rescan = .idle)
    (hwarranted : s.warranted minScore best manual = some rescan) :
    Inv minScore { s with rescan := rescan } := by
  have hbefore : s.rescan.halfway = false := by
    rw [hidle]
    rfl
  obtain ⟨current, -, hnext⟩ := Option.bind_eq_some_iff.mp hwarranted
  have hnext := Option.some.inj hnext
  split at hnext
  · subst hnext
    exact h.rescan hbefore rfl nofun
  case h_2 next hselected =>
      subst hnext
      refine h.rescan hbefore rfl ?_
      intro w hw hmanual
      cases hw
      have hmanual : manual = false := hmanual
      rw [hmanual] at hselected
      exact hselected

/-- The discovery for it. -/
theorem Inv.probed (h : Inv minScore s) {w : Switch}
    (hprobing : s.rescan = .probing w) (found : Option UInt8) :
    Inv minScore { s with
      rescan := match found with
        | none => .idle
        | some found => .applying w found } := by
  have hbefore : s.rescan.halfway = false := by
    rw [hprobing]
    rfl
  cases found with
  | none => exact h.rescan hbefore rfl nofun
  | some found =>
      refine h.rescan hbefore rfl ?_
      intro w' hw
      cases hw
      exact h.warranted w (by rw [hprobing]; rfl)

/-- Applying ends halfway, or with everything as it was. -/
theorem Inv.apply (h : Inv minScore s) {w : Switch} {found : UInt8}
    (happlying : s.rescan = .applying w found) {on : Reception}
    (hlate : s.plane.isRemote = true → on.io = true → on.inTime = true) :
    Inv minScore { s with
      plane := (s.plane.apply on found).2
      rescan := match w.target minScore
          (if (s.plane.apply on found).1 then some found else none) with
        | none => .idle
        | some next => .replacing next found } := by
  obtain ⟨ttl, handle, hforce⟩ := h.inForce
  have hshared := hforce.shared (by rw [happlying]; rfl)
  have hwarranted := h.warranted w (by rw [happlying]; rfl)
  have hplane : Plane.At (s.plane.apply on found).2
      (if (s.plane.apply on found).1 then found else handle) :=
    hforce.plane.apply hlate
  cases happlied : (s.plane.apply on found).1 with
  | false =>
      rw [happlied] at hplane
      simp only [Bool.false_eq_true, if_false, Switch.target_none]
      exact ⟨h.stamped, ⟨ttl, handle, hforce.pairs, hplane, hforce.own,
        fun _ => hshared, nofun⟩, nofun, h.own, h.registered⟩
  | true =>
      rw [happlied] at hplane
      simp only [if_true, hwarranted.target]
      refine ⟨h.stamped, ⟨ttl, found, hforce.pairs, hplane, hforce.own,
        nofun, ?_⟩, nofun, h.own, h.registered⟩
      intro next found' heq
      cases heq
      rfl

/-- The swap is complete, and its pair is the last. -/
theorem Inv.replace (h : Inv minScore s) {next : ActiveSniTarget}
    {found : UInt8} (hreplacing : s.rescan = .replacing next found) :
    Inv minScore { s with
      active := Target.ofSni next.sni next.ip next.score
      rescan := .idle
      pairs := (Target.ofSni next.sni next.ip next.score, found)
        :: s.pairs } := by
  obtain ⟨ttl, handle, hforce⟩ := h.inForce
  have hhandle := hforce.found next found hreplacing
  subst hhandle
  refine ⟨?_, ⟨handle, handle, rfl, hforce.plane, nofun, fun _ _ => rfl,
    nofun⟩, nofun, ?_, h.registered⟩
  · intro pair hpair
    exact List.mem_cons_of_mem _ (h.stamped pair hpair)
  · intro c hc own hown
    exact List.mem_cons_of_mem _ (h.own c hc own hown)

-- ============================================================= every run

/-- So over every step that does not divide the switch. -/
theorem Inv.step (h : Inv minScore s) {act : Act}
    (hstep : s.step minScore act = some t) (hundivided : s.Undivided act) :
    Inv minScore t := by
  cases act with
  | accept =>
      simp only [HotSwap.step] at hstep
      split at hstep
      · cases hstep
        exact h.accept
      · cases hstep
        exact h
  | register i fakeData =>
      obtain ⟨c, hc, hstep⟩ := Option.bind_eq_some_iff.mp hstep
      split at hstep
      · cases hstep
      · cases hstep
        exact h.register hc fakeData
  | stamp i rngState pkt =>
      obtain ⟨c, hc, hstep⟩ := Option.bind_eq_some_iff.mp hstep
      obtain ⟨flow, hflow, hstep⟩ := Option.bind_eq_some_iff.mp hstep
      obtain ⟨stamped, hstamped, hstep⟩ := Option.bind_eq_some_iff.mp hstep
      cases hstep
      refine h.erase i ?_
      intro pair hpair
      rcases List.mem_cons.mp hpair with rfl | hpair
      · exact h.stamp hc hflow hstamped (hundivided c hc)
      · exact h.stamped pair hpair
  | close i =>
      cases hstep
      exact h.erase i h.stamped
  | scanned best manual =>
      simp only [HotSwap.step] at hstep
      split at hstep
      case h_1 hidle =>
          obtain ⟨rescan, hwarranted, hstep⟩ :=
            Option.bind_eq_some_iff.mp hstep
          cases hstep
          exact h.scanned hidle hwarranted
      case h_2 => cases hstep
  | probed found =>
      simp only [HotSwap.step] at hstep
      split at hstep
      case h_1 w hprobing =>
          cases hstep
          exact h.probed hprobing found
      case h_2 => cases hstep
  | apply on =>
      simp only [HotSwap.step] at hstep
      split at hstep
      case h_1 w found happlying =>
          cases hstep
          exact h.apply happlying hundivided
      case h_2 => cases hstep
  | replace =>
      simp only [HotSwap.step] at hstep
      split at hstep
      case h_1 next found hreplacing =>
          cases hstep
          exact h.replace hreplacing
      case h_2 => cases hstep

/-- In every interleaving of connections with discovery-gated rescans in
which each fake that takes its TTL from the handle goes out while its
target is active and no swap is halfway, and no failed update of the
helper's handle was merely answered late, target and TTL have switched
together. -/
theorem target_and_ttl_switch_together {cfg : Config} {acts : List Act}
    (hvalid : cfg.validate = .ok ()) (hlow : .lowTtl ∈ cfg.bypassMethod)
    (hstart : s.Starting cfg)
    (hrun : Run (fun s act t => s.step minScore act = some t
      ∧ s.Undivided act) s acts t) : t.Together := by
  have hinv : Inv minScore t :=
    hrun.invariant (fun h hst => h.step hst.1 hst.2)
      (hstart.inv hvalid hlow)
  exact hinv.together

/-- The target before. -/
def oldTarget : Target := .ofSni "old.example" 0x01010101 80

/-- The target after. -/
def newTarget : Target := .ofSni "new.example" 0x02020202 90

/-- The method of `low_ttl` alone. -/
def lowTtlMethod : CompositeMethod Member where
  handshakeMethods := [.lowTtl (.new Plane.lowTtlConfig)]
  dataMethods := []
  segmentsFirstClientHello := false
  padsFirstClientHello := false
  mixedCaseSniFirstHello := false
  splitsFirstClientHello := false
  ccsPrefixFirstHello := false
  recordSplitsFirstClientHello := false

/-- A local plane whose handle holds `ttl`. -/
def desktopAt (ttl : UInt8) : Plane :=
  .desktop { method := lowTtlMethod
             lowTtlHandle := some ttl
             handler := some lowTtlMethod }

/-- The plane of the example. -/
theorem desktopAt_started : Plane.Started Plane.lowTtlConfig (desktopAt 5) :=
  .desktop (show buildMethod Plane.lowTtlConfig (fun _ => 0)
    = some lowTtlMethod from rfl)

/-- The old target is active on a plane. -/
def swapOn (plane : Plane) : HotSwap where
  plane := plane
  active := oldTarget
  rescan := .idle
  connections := []
  stamped := []
  pairs := [(oldTarget, 5)]

/-- And its start. -/
theorem swapOn_starting {plane : Plane}
    (hstarted : Plane.Started Plane.lowTtlConfig plane) :
    (swapOn plane).Starting Plane.lowTtlConfig where
  plane := ⟨plane, [], hstarted, .nil _⟩
  rescan := rfl
  connections := rfl
  stamped := rfl
  pairs := by
    have hlive := hstarted.live (Config.validList rfl) List.mem_cons_self
    refine ⟨5, rfl, rfl, ?_⟩
    intro rngState fakeData pkt stamped hstamped
    have hstamped := hlive.stampedTtl rngState (.new fakeData none) pkt
      |>.symm.trans hstamped
    exact (Option.some.inj hstamped).symm

/-- The scan result for the new target. -/
def best : SniProbeEntry := ⟨"new.example", 0x02020202, 90⟩

/-- A connection is done before the swap, and another begins after it. -/
def oneAfterTheOther : List Act :=
  [.accept, .register 0 [], .stamp 0 0 probe.view, .scanned best false,
   .probed (some 9), .apply {}, .replace, .accept, .register 0 [],
   .stamp 0 0 probe.view]

/-- The old target had the old TTL, and the new one has the one discovered
for it. -/
def swapped : HotSwap where
  plane := desktopAt 9
  active := newTarget
  rescan := .idle
  connections := []
  stamped := [(newTarget, 9), (oldTarget, 5)]
  pairs := [(newTarget, 9), (oldTarget, 5)]

/-- A switch with nothing between. -/
theorem sample_switch_together :
    Run (fun s act t => HotSwap.step 1 s act = some t ∧ s.Undivided act)
        (swapOn (desktopAt 5)) oneAfterTheOther swapped
      ∧ swapped.Together := by
  have hrun : Run (fun s act t =>
      HotSwap.step 1 s act = some t ∧ s.Undivided act)
      (swapOn (desktopAt 5)) oneAfterTheOther swapped :=
    .cons ⟨rfl, trivial⟩ <|
    .cons ⟨rfl, trivial⟩ <|
    .cons ⟨rfl, fun c hc => .inr (by cases hc; exact ⟨rfl, rfl⟩)⟩ <|
    .cons ⟨rfl, trivial⟩ <|
    .cons ⟨rfl, trivial⟩ <|
    .cons ⟨rfl, nofun⟩ <|
    .cons ⟨rfl, trivial⟩ <|
    .cons ⟨rfl, trivial⟩ <|
    .cons ⟨rfl, trivial⟩ <|
    .cons ⟨rfl, fun c hc => .inr (by cases hc; exact ⟨rfl, rfl⟩)⟩ <|
    .nil _
  exact ⟨hrun, target_and_ttl_switch_together rfl List.mem_cons_self
    (swapOn_starting desktopAt_started) hrun⟩

/-- A connection is in flight during the swap. -/
def inFlight : List Act :=
  [.accept, .register 0 [], .scanned best false, .probed (some 9),
   .apply {}, .replace, .stamp 0 0 probe.view]

/-- A flow of the old target with the TTL of the new one. -/
def mixed : HotSwap where
  plane := desktopAt 9
  active := newTarget
  rescan := .idle
  connections := []
  stamped := [(oldTarget, 9)]
  pairs := [(newTarget, 9), (oldTarget, 5)]

/-- The update of the helper's handle is answered too late. -/
def lateUpdate : List Act :=
  [.scanned best false, .probed (some 9), .apply { inTime := false }]

/-- The rescan has failed: its target was dropped, its TTL was not. -/
def halfFailed : HotSwap :=
  { swapOn (Plane.prepared.apply { inTime := false } 9).2 with
    rescan := .idle }

/-- The fake of a connection in flight goes to the old target with the TTL
of the new one; and a rescan that fails with a late answer keeps the old
target with the TTL of the new one. -/
theorem swap_mixes_target_and_ttl :
    ((swapOn (desktopAt 5)).Starting Plane.lowTtlConfig
      ∧ Run (fun s act t => HotSwap.step 1 s act = some t)
        (swapOn (desktopAt 5)) inFlight mixed
      ∧ (oldTarget, 9) ∈ mixed.stamped ∧ (oldTarget, 9) ∉ mixed.pairs)
    ∧ (swapOn Plane.prepared).Starting Plane.lowTtlConfig
      ∧ Run (fun s act t => HotSwap.step 1 s act = some t)
        (swapOn Plane.prepared) lateUpdate halfFailed
      ∧ halfFailed.rescan = .idle ∧ halfFailed.active = oldTarget
      ∧ halfFailed.pairs = [(oldTarget, 5)]
      ∧ ¬ halfFailed.Current oldTarget 5 := by
  refine ⟨⟨swapOn_starting desktopAt_started, ?_, List.mem_cons_self,
    by decide⟩, swapOn_starting Plane.prepared_started, ?_, rfl, rfl, rfl, ?_⟩
  · exact
      .cons rfl <| .cons rfl <| .cons rfl <| .cons rfl <| .cons rfl <|
      .cons rfl <| .cons rfl <| .nil _
  · exact .cons rfl <| .cons rfl <| .cons rfl <| .nil _
  · intro h
    cases h.2 0 [] probe.view 9 rfl

end HotSwap

end ZeroDpi.Runtime
