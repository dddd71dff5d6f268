/-
The IP scan pipeline, over every order in which its tasks end.

# The invariant

Every address is in exactly one place: not yet started, in a TCP task, in
the backlog, in a TLS task or in an entry. A TCP task is started only while
the backlog is below the second limit, and puts at most one address into
it, so the backlog and the TCP tasks together stay below both limits.

# The measure

An address is worth 10 before it is started, 9 in a TCP task, 5 in the
backlog and 4 in a TLS task, and the loop's place is worth at most 3. A
filled slot costs its address one; a joined task costs at least four and
sends the loop back by three. So every step goes down, and every run ends.
-/
import ZeroDpi.IpScanner
import ZeroDpi.Lib.Choice

namespace ZeroDpi.IpScanner

open Lib

variable {Bps : Type} {c : Setup Bps}

-- ============================================================== the events

/-- The count of a `TcpDone`. -/
def IpScanEvent.count? : IpScanEvent Bps → Option Nat
  | .tcpDone n => some n
  | .probeComplete _ => none

/-- The entry of a `ProbeComplete`. -/
def IpScanEvent.entry? : IpScanEvent Bps → Option (IpProbeEntry Bps)
  | .tcpDone _ => none
  | .probeComplete entry => some entry

/-- The score does not change the rest of an entry. -/
@[simp] theorem tcpOnlyEntry_ip (ip : IpAddr) (ms : Option UInt64) :
    (tcpOnlyEntry c ip ms).ip = ip := rfl

@[simp] theorem tcpOnlyEntry_latency (ip : IpAddr) (ms : Option UInt64) :
    (tcpOnlyEntry c ip ms).tcpLatencyMs = ms := rfl

/-- A TLS probe keeps the address and the TCP latency it was given. -/
theorem probeTlsTtfb_keeps (ip : IpAddr) (ms : UInt64)
    (outcome : TlsOutcome Bps) :
    (probeTlsTtfb c ip ms outcome).ip = ip
      ∧ (probeTlsTtfb c ip ms outcome).tcpLatencyMs = some ms := by
  cases outcome with
  | unreachable => exact ⟨rfl, rfl⟩
  | refused => exact ⟨rfl, rfl⟩
  | measured => exact ⟨rfl, rfl⟩

/-- A measured latency is below the one that stands for a missing one. -/
theorem asMillis_lt (elapsed : UInt64) :
    asMillis elapsed < 0xFFFFFFFFFFFFFFFF := by
  have hlt := elapsed.toNat_lt
  rw [UInt64.lt_iff_toNat_lt, asMillis, UInt64.toNat_div]
  show elapsed.toNat / 1000000 < 18446744073709551615
  omega

-- =========================================================== the invariant

/-- The addresses of a scan, wherever they are. -/
def Scan.everyone (s : Scan Bps) : List IpAddr :=
  s.ips ++ s.p1 ++ s.pending.map Prod.fst ++ s.p2.map Prod.fst
    ++ s.all.map IpProbeEntry.ip

/-- What the loop knows at each place. -/
def Scan.Placed (c : Setup Bps) (s : Scan Bps) : Prop :=
  match s.point with
  | .fillTls => True
  | .fillTcp => c.p2Limit ≤ s.p2.length ∨ s.pending = []
  | .check => (c.p2Limit ≤ s.p2.length ∨ s.pending = [])
      ∧ (c.p1Limit ≤ s.p1.length ∨ c.p2Limit ≤ s.pending.length ∨ s.ips = [])
  | .select => s.p1 ≠ [] ∨ s.p2 ≠ []
  | .finished => s.p1 = [] ∧ s.p2 = [] ∧ s.pending = [] ∧ s.ips = []

/-- What holds at every moment of a scan. -/
structure Inv (c : Setup Bps) (input : List IpAddr) (s : Scan Bps) :
    Prop where
  placed : s.Placed c
  tcpTasks : s.p1.length ≤ c.p1Limit
  tlsTasks : s.p2.length ≤ c.p2Limit
  backlog : s.pending.length + s.p1.length < c.p1Limit + c.p2Limit
  everyone : s.everyone.Perm input
  tested : s.tcpTested + s.ips.length + s.p1.length = input.length
  counts : s.events.filterMap IpScanEvent.count?
    = (List.range s.tcpTested).map (· + 1)
  probed : ((s.events.filterMap IpScanEvent.entry?).map IpProbeEntry.ip
    ++ s.p2.map Prod.fst ++ s.pending.map Prod.fst).Perm s.connected
  latencies : ∀ e ∈ s.all, ∀ ms, e.tcpLatencyMs = some ms →
    ms < 0xFFFFFFFFFFFFFFFF
  waiting : ∀ task ∈ s.pending ++ s.p2, task.2 < 0xFFFFFFFFFFFFFFFF

/-- A task may always run. -/
theorem p1Limit_pos (c : Setup Bps) : 0 < c.p1Limit :=
  Nat.le_max_right _ _

theorem p2Limit_pos (c : Setup Bps) : 0 < c.p2Limit :=
  Nat.le_max_right _ _

/-- Before the first step. -/
theorem start_inv (c : Setup Bps) (ips : List IpAddr) :
    Inv c (ips.filter c.allows) (start c ips) where
  placed := by
    unfold Scan.Placed start
    by_cases hempty : ips.filter c.allows = []
    · simp [hempty]
    · simp [hempty]
  tcpTasks := Nat.zero_le _
  tlsTasks := Nat.zero_le _
  backlog := by
    have := p1Limit_pos c
    show 0 + 0 < c.p1Limit + c.p2Limit
    omega
  everyone := by simp [Scan.everyone, start]
  tested := by simp [start]
  counts := rfl
  probed := List.Perm.refl _
  latencies := by simp [start]
  waiting := by simp [start]

-- =============================================================== the steps

/-- Everything a step can do. -/
inductive Steps (c : Setup Bps) (s : Scan Bps) : Scan Bps → Prop where
  | startTls {task : IpAddr × UInt64} {rest : List (IpAddr × UInt64)} :
      s.point = .fillTls → s.p2.length < c.p2Limit →
      s.pending = task :: rest →
      Steps c s { s with pending := rest, p2 := s.p2 ++ [task] }
  | tlsFilled : s.point = .fillTls →
      (c.p2Limit ≤ s.p2.length ∨ s.pending = []) →
      Steps c s { s with point := .fillTcp }
  | startTcp {ip : IpAddr} {rest : List IpAddr} :
      s.point = .fillTcp → s.p1.length < c.p1Limit →
      s.pending.length < c.p2Limit → s.ips = ip :: rest →
      Steps c s { s with ips := rest, p1 := s.p1 ++ [ip] }
  | tcpFilled : s.point = .fillTcp →
      (c.p1Limit ≤ s.p1.length ∨ c.p2Limit ≤ s.pending.length ∨ s.ips = []) →
      Steps c s { s with point := .check }
  | leave : s.point = .check →
      s.p1 = [] → s.p2 = [] → s.pending = [] → s.ips = [] →
      Steps c s { s with point := .finished }
  | wait : s.point = .check →
      ¬ (s.p1 = [] ∧ s.p2 = [] ∧ s.pending = [] ∧ s.ips = []) →
      Steps c s { s with point := .select }
  | tcpJoined {i : Nat} {ip : IpAddr} (elapsed : Option UInt64) :
      s.point = .select → s.p1[i]? = some ip →
      Steps c s (s.tcpJoined c i ip elapsed)
  | tlsJoined {i : Nat} {task : IpAddr × UInt64} (outcome : TlsOutcome Bps) :
      s.point = .select → s.p2[i]? = some task →
      Steps c s (s.tlsJoined i (probeTlsTtfb c task.1 task.2 outcome))

/-- The cases of a step of the loop. -/
theorem steps_of_advance {s t : Scan Bps} (h : s.advance c = some t) :
    Steps c s t := by
  unfold Scan.advance at h
  split at h
  case h_1 hpoint =>
    split at h
    case isTrue hroom =>
      split at h
      case h_1 hnone =>
        cases h
        exact .tlsFilled hpoint (.inr hnone)
      case h_2 hsome =>
        cases h
        exact .startTls hpoint hroom hsome
    case isFalse hfull =>
      cases h
      exact .tlsFilled hpoint (.inl (Nat.not_lt.mp hfull))
  case h_2 hpoint =>
    split at h
    case isTrue hroom =>
      split at h
      case h_1 hnone =>
        cases h
        exact .tcpFilled hpoint (.inr (.inr hnone))
      case h_2 hsome =>
        cases h
        exact .startTcp hpoint hroom.1 hroom.2 hsome
    case isFalse hfull =>
      cases h
      refine .tcpFilled hpoint ?_
      omega
  case h_3 hpoint =>
    simp only [List.isEmpty_iff] at h
    split at h
    case isTrue hempty =>
      cases h
      exact .leave hpoint hempty.1 hempty.2.1 hempty.2.2.1 hempty.2.2.2
    case isFalse hleft =>
      cases h
      exact .wait hpoint hleft
  case h_4 => cases h
  case h_5 => cases h

/-- And of any step. -/
theorem steps_of_step {s t : Scan Bps} {label : Label Bps}
    (h : s.step c label = some t) : Steps c s t := by
  cases label with
  | advance => exact steps_of_advance h
  | tcpJoined i elapsed =>
      simp only [Scan.step] at h
      split at h
      case isTrue hpoint =>
        obtain ⟨ip, hip, rfl⟩ := Option.map_eq_some_iff.mp h
        exact .tcpJoined elapsed hpoint hip
      case isFalse => cases h
  | tlsJoined i outcome =>
      simp only [Scan.step] at h
      split at h
      case isTrue hpoint =>
        obtain ⟨task, htask, rfl⟩ := Option.map_eq_some_iff.mp h
        exact .tlsJoined outcome hpoint htask
      case isFalse => cases h

/-- The counts of an address in the places it can be. -/
theorem Inv.count {input : List IpAddr} {s : Scan Bps} (h : Inv c input s)
    (a : IpAddr) :
    s.ips.count a + s.p1.count a + (s.pending.map Prod.fst).count a
      + (s.p2.map Prod.fst).count a + (s.all.map IpProbeEntry.ip).count a
      = input.count a := by
  rw [← h.everyone.count_eq a]
  simp only [Scan.everyone, List.count_append]

/-- Every address that has connected is somewhere behind it. -/
theorem Inv.count_probed {input : List IpAddr} {s : Scan Bps}
    (h : Inv c input s) (a : IpAddr) :
    ((s.events.filterMap IpScanEvent.entry?).map IpProbeEntry.ip).count a
      + (s.p2.map Prod.fst).count a + (s.pending.map Prod.fst).count a
      = s.connected.count a := by
  rw [← h.probed.count_eq a]
  simp only [List.count_append]

/-- A TCP task ends. -/
theorem Inv.tcpJoined {input : List IpAddr} {s : Scan Bps} {i : Nat}
    {ip : IpAddr} (h : Inv c input s) (hip : s.p1[i]? = some ip)
    (elapsed : Option UInt64) : Inv c input (s.tcpJoined c i ip elapsed) := by
  have hlen := length_eraseIdx hip
  have htcp := h.tcpTasks
  have hbacklog := h.backlog
  have htested := h.tested
  have hcounts : (s.events ++ [IpScanEvent.tcpDone (s.tcpTested + 1)]).filterMap
      IpScanEvent.count? = (List.range (s.tcpTested + 1)).map (· + 1) := by
    rw [List.filterMap_append, h.counts, List.range_succ, List.map_append]
    rfl
  have hentries : (s.events ++ [IpScanEvent.tcpDone (s.tcpTested + 1)]).filterMap
      IpScanEvent.entry? = s.events.filterMap IpScanEvent.entry? := by
    rw [List.filterMap_append]
    exact List.append_nil _
  cases elapsed with
  | none =>
      exact {
        placed := trivial
        tcpTasks := by
          show (s.p1.eraseIdx i).length ≤ c.p1Limit
          omega
        tlsTasks := h.tlsTasks
        backlog := by
          show s.pending.length + (s.p1.eraseIdx i).length < _
          omega
        everyone := by
          refine List.perm_iff_count.mpr fun a => ?_
          have := h.count a
          have := count_eraseIdx hip a
          simp only [Scan.everyone, Scan.tcpJoined, List.count_append,
            List.map_append, List.map_cons, List.map_nil, tcpOnlyEntry_ip]
          omega
        tested := by
          show s.tcpTested + 1 + s.ips.length + (s.p1.eraseIdx i).length = _
          omega
        counts := hcounts
        probed := by
          show ((List.filterMap _ (s.events ++ _)).map _ ++ _ ++ _).Perm _
          rw [hentries]
          exact h.probed
        latencies := by
          intro e he ms hms
          rcases List.mem_append.mp he with he | he
          · exact h.latencies e he ms hms
          · rw [List.mem_singleton.mp he] at hms
            cases hms
        waiting := h.waiting }
  | some elapsed =>
      exact {
        placed := trivial
        tcpTasks := by
          show (s.p1.eraseIdx i).length ≤ c.p1Limit
          omega
        tlsTasks := h.tlsTasks
        backlog := by
          show (s.pending ++ [(ip, asMillis elapsed)]).length
            + (s.p1.eraseIdx i).length < _
          rw [List.length_append, List.length_singleton]
          omega
        everyone := by
          refine List.perm_iff_count.mpr fun a => ?_
          have := h.count a
          have := count_eraseIdx hip a
          simp only [Scan.everyone, Scan.tcpJoined, List.count_append,
            List.map_append, List.map_cons, List.map_nil]
          omega
        tested := by
          show s.tcpTested + 1 + s.ips.length + (s.p1.eraseIdx i).length = _
          omega
        counts := hcounts
        probed := by
          show ((List.filterMap _ (s.events ++ _)).map _ ++ _
            ++ (s.pending ++ [(ip, asMillis elapsed)]).map Prod.fst).Perm
              (s.connected ++ [ip])
          rw [hentries, List.map_append, ← List.append_assoc]
          exact h.probed.append_right _
        latencies := h.latencies
        waiting := by
          intro task htask
          show task.2 < _
          have hcases : task ∈ s.pending ++ s.p2
              ∨ task = (ip, asMillis elapsed) := by
            simp only [Scan.tcpJoined, List.mem_append,
              List.mem_singleton] at htask
            rw [List.mem_append]
            tauto
          rcases hcases with hold | rfl
          · exact h.waiting task hold
          · exact asMillis_lt elapsed }

/-- A TLS task ends. -/
theorem Inv.tlsJoined {input : List IpAddr} {s : Scan Bps} {i : Nat}
    {task : IpAddr × UInt64} (h : Inv c input s)
    (htask : s.p2[i]? = some task) (outcome : TlsOutcome Bps) :
    Inv c input
      (s.tlsJoined i (probeTlsTtfb c task.1 task.2 outcome)) := by
  obtain ⟨hentry, hlatency⟩ := probeTlsTtfb_keeps (c := c) task.1 task.2 outcome
  generalize probeTlsTtfb c task.1 task.2 outcome = entry at hentry hlatency
  have hlen := length_eraseIdx htask
  have htls := h.tlsTasks
  have htask' : (s.p2.map Prod.fst)[i]? = some task.1 := by
    rw [List.getElem?_map, htask]
    rfl
  have hcount : ∀ a, ((s.p2.eraseIdx i).map Prod.fst).count a
      + [task.1].count a = (s.p2.map Prod.fst).count a := by
    intro a
    rw [← List.eraseIdx_map]
    exact count_eraseIdx htask' a
  exact {
    placed := trivial
    tcpTasks := h.tcpTasks
    tlsTasks := by
      show (s.p2.eraseIdx i).length ≤ c.p2Limit
      omega
    backlog := h.backlog
    everyone := by
      refine List.perm_iff_count.mpr fun a => ?_
      have := h.count a
      have := hcount a
      simp only [Scan.everyone, Scan.tlsJoined, List.count_append,
        List.map_append, List.map_cons, List.map_nil, hentry]
      omega
    tested := h.tested
    counts := by
      show (List.filterMap _ (s.events ++ _)) = _
      rw [List.filterMap_append]
      exact (List.append_nil _).trans h.counts
    probed := by
      refine List.perm_iff_count.mpr fun a => ?_
      have := h.count_probed a
      have := hcount a
      simp only [Scan.tlsJoined, List.filterMap_append, List.count_append,
        List.map_append, List.filterMap_cons, List.filterMap_nil,
        IpScanEvent.entry?, List.map_cons, List.map_nil, hentry]
      omega
    latencies := by
      intro e he ms hms
      rcases List.mem_append.mp he with he | he
      · exact h.latencies e he ms hms
      · rw [List.mem_singleton.mp he, hlatency] at hms
        cases hms
        exact h.waiting task
          (List.mem_append_right _ (List.mem_of_getElem? htask))
    waiting := by
      intro task' htask'
      refine h.waiting task' ?_
      rcases List.mem_append.mp htask' with hmem | hmem
      · exact List.mem_append_left _ hmem
      · exact List.mem_append_right _ (List.mem_of_mem_eraseIdx hmem) }

/-- Moving the loop to a place it knows enough for. -/
theorem Inv.moved {input : List IpAddr} {s : Scan Bps} (h : Inv c input s)
    {point : Point} (hplaced : Scan.Placed c { s with point := point }) :
    Inv c input { s with point := point } where
  placed := hplaced
  tcpTasks := h.tcpTasks
  tlsTasks := h.tlsTasks
  backlog := h.backlog
  everyone := h.everyone
  tested := h.tested
  counts := h.counts
  probed := h.probed
  latencies := h.latencies
  waiting := h.waiting

/-- One starts, from the backlog. -/
theorem Inv.startTls {input : List IpAddr} {s : Scan Bps}
    {task : IpAddr × UInt64} {rest : List (IpAddr × UInt64)}
    (h : Inv c input s) (hpoint : s.point = .fillTls)
    (hroom : s.p2.length < c.p2Limit) (hpending : s.pending = task :: rest) :
    Inv c input { s with pending := rest, p2 := s.p2 ++ [task] } where
  placed := by
    unfold Scan.Placed
    simp only [hpoint]
  tcpTasks := h.tcpTasks
  tlsTasks := by
    rw [List.length_append]
    exact hroom
  backlog := by
    have hbacklog := h.backlog
    rw [hpending, List.length_cons] at hbacklog
    show rest.length + s.p1.length < _
    omega
  everyone := by
    refine List.perm_iff_count.mpr fun a => ?_
    have hcount := h.count a
    rw [hpending] at hcount
    simp only [Scan.everyone, List.count_append, List.map_append,
      List.map_cons, List.map_nil, List.count_cons, List.count_nil]
      at hcount ⊢
    omega
  tested := h.tested
  counts := h.counts
  probed := by
    refine List.perm_iff_count.mpr fun a => ?_
    have hcount := h.count_probed a
    rw [hpending] at hcount
    simp only [List.count_append, List.map_append, List.map_cons,
      List.map_nil, List.count_cons, List.count_nil] at hcount ⊢
    omega
  latencies := h.latencies
  waiting := by
    intro task' htask'
    refine h.waiting task' ?_
    rw [hpending]
    simp only [List.mem_append, List.mem_cons, List.not_mem_nil,
      or_false] at htask' ⊢
    tauto

/-- One starts, from the list. -/
theorem Inv.startTcp {input : List IpAddr} {s : Scan Bps} {ip : IpAddr}
    {rest : List IpAddr} (h : Inv c input s) (hpoint : s.point = .fillTcp)
    (hroom : s.p1.length < c.p1Limit) (hlow : s.pending.length < c.p2Limit)
    (hips : s.ips = ip :: rest) :
    Inv c input { s with ips := rest, p1 := s.p1 ++ [ip] } where
  placed := by
    have hplaced := h.placed
    unfold Scan.Placed at hplaced ⊢
    simp only [hpoint] at hplaced ⊢
    exact hplaced
  tcpTasks := by
    rw [List.length_append]
    exact hroom
  tlsTasks := h.tlsTasks
  backlog := by
    rw [List.length_append, List.length_singleton]
    show s.pending.length + _ < _
    omega
  everyone := by
    refine List.perm_iff_count.mpr fun a => ?_
    have hcount := h.count a
    rw [hips] at hcount
    simp only [Scan.everyone, List.count_append, List.count_cons,
      List.count_nil] at hcount ⊢
    omega
  tested := by
    have htested := h.tested
    rw [hips, List.length_cons] at htested
    rw [List.length_append, List.length_singleton]
    show s.tcpTested + rest.length + _ = _
    omega
  counts := h.counts
  probed := h.probed
  latencies := h.latencies
  waiting := h.waiting

/-- Filled up and not done, the loop has a task to wait for. -/
theorem Inv.task_to_wait_for {input : List IpAddr} {s : Scan Bps}
    (h : Inv c input s) (hpoint : s.point = .check)
    (hleft : ¬ (s.p1 = [] ∧ s.p2 = [] ∧ s.pending = [] ∧ s.ips = [])) :
    s.p1 ≠ [] ∨ s.p2 ≠ [] := by
  have hplaced := h.placed
  unfold Scan.Placed at hplaced
  simp only [hpoint] at hplaced
  obtain ⟨htls, htcp⟩ := hplaced
  by_contra hnone
  rw [not_or, not_not, not_not] at hnone
  obtain ⟨hp1, hp2⟩ := hnone
  have hpos1 := p1Limit_pos c
  have hpos2 := p2Limit_pos c
  rw [hp2, List.length_nil] at htls
  have hpending : s.pending = [] := by
    rcases htls with hfull | hempty
    · omega
    · exact hempty
  rw [hp1, hpending, List.length_nil, List.length_nil] at htcp
  have hips : s.ips = [] := by
    rcases htcp with hfull | hfull | hempty
    · omega
    · omega
    · exact hempty
  exact hleft ⟨hp1, hp2, hpending, hips⟩

/-- Every step keeps the invariant. -/
theorem Inv.step {input : List IpAddr} {s t : Scan Bps} (h : Inv c input s)
    (hstep : Steps c s t) : Inv c input t := by
  cases hstep with
  | startTls hpoint hroom hpending => exact h.startTls hpoint hroom hpending
  | tlsFilled hpoint hfilled => exact h.moved hfilled
  | startTcp hpoint hroom hlow hips => exact h.startTcp hpoint hroom hlow hips
  | tcpFilled hpoint hfilled =>
      have hplaced := h.placed
      unfold Scan.Placed at hplaced
      simp only [hpoint] at hplaced
      exact h.moved ⟨hplaced, hfilled⟩
  | leave _ hp1 hp2 hpending hips => exact h.moved ⟨hp1, hp2, hpending, hips⟩
  | wait hpoint hleft => exact h.moved (h.task_to_wait_for hpoint hleft)
  | tcpJoined elapsed _ hip => exact h.tcpJoined hip elapsed
  | tlsJoined outcome _ htask => exact h.tlsJoined htask outcome

-- ============================================================= the measure

/-- The points left to the next wait. -/
def Point.left : Point → Nat
  | .fillTls => 3
  | .fillTcp => 2
  | .check => 1
  | .select => 0
  | .finished => 0

/-- What a scan has left to do. -/
def Scan.left (s : Scan Bps) : Nat :=
  10 * s.ips.length + 9 * s.p1.length + 5 * s.pending.length
    + 4 * s.p2.length + s.point.left

/-- Every step brings the end nearer. -/
theorem left_decreases {s t : Scan Bps} (h : Steps c s t) :
    t.left < s.left := by
  cases h with
  | startTls hpoint _ hpending =>
      simp only [Scan.left, hpending, List.length_cons, List.length_append,
        List.length_nil]
      omega
  | tlsFilled hpoint _ =>
      simp only [Scan.left, hpoint, Point.left]
      omega
  | startTcp hpoint _ _ hips =>
      simp only [Scan.left, hips, List.length_cons, List.length_append,
        List.length_nil]
      omega
  | tcpFilled hpoint _ =>
      simp only [Scan.left, hpoint, Point.left]
      omega
  | leave hpoint _ _ _ _ =>
      simp only [Scan.left, hpoint, Point.left]
      omega
  | wait hpoint _ =>
      simp only [Scan.left, hpoint, Point.left]
      omega
  | tcpJoined elapsed hpoint hip =>
      have hlen := length_eraseIdx hip
      cases elapsed with
      | none =>
          simp only [Scan.left, Scan.tcpJoined, hpoint, Point.left]
          omega
      | some elapsed =>
          simp only [Scan.left, Scan.tcpJoined, hpoint, Point.left,
            List.length_append, List.length_cons, List.length_nil]
          omega
  | tlsJoined outcome hpoint htask =>
      have hlen := length_eraseIdx htask
      simp only [Scan.left, Scan.tlsJoined, hpoint, Point.left]
      omega

/-- A run takes no more steps than the scan had left. -/
theorem runs_length {s t : Scan Bps} {labels : List (Label Bps)}
    (h : Scan.Runs c s labels t) : labels.length + t.left ≤ s.left := by
  induction h with
  | nil _ => simp
  | cons hstep _ ih =>
      have := left_decreases (steps_of_step hstep)
      rw [List.length_cons]
      omega

/-- A scan that is not finished goes on. -/
theorem Inv.goes_on {input : List IpAddr} {s : Scan Bps} (h : Inv c input s)
    (hpoint : s.point ≠ .finished) : ∃ label t, s.step c label = some t := by
  have hplaced := h.placed
  cases hp : s.point with
  | fillTls =>
      refine ⟨.advance, ?_⟩
      simp only [Scan.step, Scan.advance, hp]
      split
      · split <;> exact ⟨_, rfl⟩
      · exact ⟨_, rfl⟩
  | fillTcp =>
      refine ⟨.advance, ?_⟩
      simp only [Scan.step, Scan.advance, hp]
      split
      · split <;> exact ⟨_, rfl⟩
      · exact ⟨_, rfl⟩
  | check =>
      refine ⟨.advance, ?_⟩
      simp only [Scan.step, Scan.advance, hp]
      split <;> exact ⟨_, rfl⟩
  | select =>
      unfold Scan.Placed at hplaced
      simp only [hp] at hplaced
      rcases hplaced with hp1 | hp2
      · obtain ⟨ip, rest, hp1⟩ := List.exists_cons_of_ne_nil hp1
        refine ⟨.tcpJoined 0 none, ?_⟩
        simp only [Scan.step, hp, if_true, hp1]
        exact ⟨_, rfl⟩
      · obtain ⟨task, rest, hp2⟩ := List.exists_cons_of_ne_nil hp2
        refine ⟨.tlsJoined 0 .refused, ?_⟩
        simp only [Scan.step, hp, if_true, hp2]
        exact ⟨_, rfl⟩
  | finished => exact absurd hp hpoint

-- ============================================================== the result

/-- A missing latency comes last. -/
def latencyLe : Option UInt64 → Option UInt64 → Prop
  | _, none => True
  | none, some _ => False
  | some x, some y => x ≤ y

/-- Score descending, then TCP latency ascending. -/
def IpProbeEntry.Precedes (a b : IpProbeEntry Bps) : Prop :=
  b.score < a.score
    ∨ (a.score = b.score ∧ latencyLe a.tcpLatencyMs b.tcpLatencyMs)

/-- What the comparison means. -/
theorem precedes_of_sortsBefore {a b : IpProbeEntry Bps}
    (hb : ∀ ms, b.tcpLatencyMs = some ms → ms < 0xFFFFFFFFFFFFFFFF)
    (h : a.sortsBefore b = true) : a.Precedes b := by
  simp only [IpProbeEntry.sortsBefore, Bool.or_eq_true, Bool.and_eq_true,
    decide_eq_true_eq] at h
  rcases h with hscore | ⟨hscore, hkey⟩
  · exact .inl hscore
  · refine .inr ⟨hscore, ?_⟩
    unfold IpProbeEntry.latencyKey at hkey
    cases hb' : b.tcpLatencyMs with
    | none =>
        cases a.tcpLatencyMs <;> exact trivial
    | some y =>
        cases ha' : a.tcpLatencyMs with
        | none =>
            rw [ha', hb'] at hkey
            exact absurd (hb y hb') (UInt64.not_lt.mpr hkey)
        | some x =>
            rw [ha', hb'] at hkey
            exact hkey

/-- It is an order. -/
theorem sortsBefore_trans (a b d : IpProbeEntry Bps)
    (hab : a.sortsBefore b = true) (hbd : b.sortsBefore d = true) :
    a.sortsBefore d = true := by
  simp only [IpProbeEntry.sortsBefore, Bool.or_eq_true, Bool.and_eq_true,
    decide_eq_true_eq, UInt8.lt_iff_toNat_lt, UInt64.le_iff_toNat_le,
    ← UInt8.toNat_inj] at hab hbd ⊢
  omega

/-- A total one. -/
theorem sortsBefore_total (a b : IpProbeEntry Bps) :
    (a.sortsBefore b || b.sortsBefore a) = true := by
  simp only [IpProbeEntry.sortsBefore, Bool.or_eq_true, Bool.and_eq_true,
    decide_eq_true_eq, UInt8.lt_iff_toNat_lt, UInt64.le_iff_toNat_le,
    ← UInt8.toNat_inj]
  omega

/-- So the result is sorted by it. -/
theorem Inv.result_sorted {input : List IpAddr} {s : Scan Bps}
    (h : Inv c input s) : s.result.Pairwise IpProbeEntry.Precedes := by
  have hsorted : s.result.Pairwise fun a b => a.sortsBefore b = true :=
    List.pairwise_mergeSort sortsBefore_trans sortsBefore_total s.all
  refine List.Pairwise.imp_of_mem (fun _ hb hle => ?_) hsorted
  exact precedes_of_sortsBefore (h.latencies _ (List.mem_mergeSort.mp hb)) hle

/-- What a finished scan returns and has sent. -/
structure Complete (input : List IpAddr) (s : Scan Bps) : Prop where
  entries : (s.result.map IpProbeEntry.ip).Perm input
  sorted : s.result.Pairwise IpProbeEntry.Precedes
  tcpDone : s.events.filterMap IpScanEvent.count?
    = (List.range input.length).map (· + 1)
  probed : ((s.events.filterMap IpScanEvent.entry?).map
    IpProbeEntry.ip).Perm s.connected

/-- At the end everything is there. -/
theorem Inv.complete {input : List IpAddr} {s : Scan Bps}
    (h : Inv c input s) (hpoint : s.point = .finished) :
    Complete input s := by
  have hplaced := h.placed
  unfold Scan.Placed at hplaced
  simp only [hpoint] at hplaced
  obtain ⟨hp1, hp2, hpending, hips⟩ := hplaced
  have heveryone := h.everyone
  have hprobed := h.probed
  have htested := h.tested
  have hcounts := h.counts
  simp only [Scan.everyone, hp1, hp2, hpending, hips, List.map_nil,
    List.nil_append] at heveryone
  simp only [hp2, hpending, List.map_nil, List.append_nil] at hprobed
  rw [hp1, hips, List.length_nil, Nat.add_zero] at htested
  rw [htested] at hcounts
  exact {
    entries := ((List.mergeSort_perm s.all _).map _).trans heveryone
    sorted := h.result_sorted
    tcpDone := hcounts
    probed := hprobed }

/-- Wherever a scan gets, in whatever order its tasks end: the bounds hold,
it has a task to wait for when it waits, it ends after a bounded number of
steps and goes on until then, and at its end everything is there. -/
theorem scan_pipeline (c : Setup Bps) (ips : List IpAddr)
    (labels : List (Label Bps)) (s : Scan Bps)
    (hrun : Scan.Runs c (start c ips) labels s) :
    s.p1.length ≤ max c.ipMaxP1Concurrent 1
      ∧ s.p2.length ≤ max c.ipMaxP2Concurrent 1
      ∧ s.pending.length
        < max c.ipMaxP1Concurrent 1 + max c.ipMaxP2Concurrent 1
      ∧ (s.point = .select → s.p1 ≠ [] ∨ s.p2 ≠ [])
      ∧ labels.length ≤ 10 * (ips.filter c.allows).length + 3
      ∧ (s.point ≠ .finished → ∃ label t, s.step c label = some t)
      ∧ (s.point = .finished → Complete (ips.filter c.allows) s) := by
  have h : Inv c (ips.filter c.allows) s :=
    hrun.invariant (P := Inv c (ips.filter c.allows))
      (fun hs hstep => hs.step (steps_of_step hstep)) (start_inv c ips)
  refine ⟨h.tcpTasks, h.tlsTasks, ?_, ?_, ?_, h.goes_on, h.complete⟩
  · have hbacklog := h.backlog
    show _ < c.p1Limit + c.p2Limit
    omega
  · intro hpoint
    have hplaced := h.placed
    unfold Scan.Placed at hplaced
    simp only [hpoint] at hplaced
    exact hplaced
  · have hlength := runs_length hrun
    have hstart : (start c ips).left
        ≤ 10 * (ips.filter c.allows).length + 3 := by
      unfold Scan.left start
      simp only [List.length_nil]
      split <;> simp [Point.left]
    omega

/-- Two tasks of each kind; an address with a certificate scores more. -/
def sampleSetup : Setup Nat where
  ipMaxP1Concurrent := 2
  ipMaxP2Concurrent := 2
  allows _ := true
  computeScore entry := if entry.certValid then 80 else 10

/-- A scan of two addresses. The second connects before the first, and its
TLS task, begun first, ends last. -/
def sampleLabels : List (Label Nat) :=
  [.advance, .advance, .advance, .advance, .advance,
   .tcpJoined 1 (some 5000000),
   .advance, .advance, .advance, .advance,
   .tcpJoined 0 (some 8000000),
   .advance, .advance, .advance, .advance,
   .tlsJoined 1 .refused,
   .advance, .advance, .advance,
   .tlsJoined 0 (.measured 30000000 (some 40) (some 900) (some 200) none),
   .advance, .advance, .advance]

/-- Both orders are the reverse of the order of the starts, and the scan is
complete. -/
theorem sample_scan_pipeline :
    ∃ s, Scan.Runs sampleSetup (start sampleSetup [.v4 7, .v4 9])
        sampleLabels s
      ∧ s.connected = [.v4 9, .v4 7]
      ∧ s.all.map IpProbeEntry.ip = [.v4 7, .v4 9]
      ∧ Complete [.v4 7, .v4 9] s := by
  have hrun : ∃ s,
      Scan.Runs sampleSetup (start sampleSetup [.v4 7, .v4 9]) sampleLabels s
        ∧ s.connected = [.v4 9, .v4 7]
        ∧ s.all.map IpProbeEntry.ip = [.v4 7, .v4 9]
        ∧ s.point = .finished :=
    ⟨_, .of_foldlM rfl, rfl, rfl, rfl⟩
  obtain ⟨s, hrun, hconnected, hprobed, hpoint⟩ := hrun
  obtain ⟨-, -, -, -, -, -, hcomplete⟩ :=
    scan_pipeline sampleSetup [.v4 7, .v4 9] sampleLabels s hrun
  exact ⟨s, hrun, hconnected, hprobed, hcomplete hpoint⟩

end ZeroDpi.IpScanner
