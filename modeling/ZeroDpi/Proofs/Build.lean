/-
What `build_method` builds.

`build_spec` reads the composite off the method list once: the two member
vectors are images of the list in configured order, and the socket-side
flags are memberships. From there on, a statement about the built method
is a statement about the list.
-/
import ZeroDpi.Proofs.Methods

namespace ZeroDpi

open Lib

-- ================================================= the two stages of a list

/-- The methods `build_method` puts in the data vector. -/
def MethodName.isDataStage : MethodName → Bool
  | .tlsRecordFrag | .fakeTls | .ipFrag | .disorder | .seqovl => true
  | _ => false

/-- The methods `build_method` puts in the handshake vector. -/
def MethodName.isHandshakeStage : MethodName → Bool
  | .wrongSeq | .wrongAck | .wrongChecksum | .wrongMd5 | .wrongTimestamp
  | .lowTtl | .urgSniSplit => true
  | _ => false

/-- The methods that make the composite wait for the data stage: the data
vector, and every socket-side method but `mixed_case_sni`. -/
def MethodName.holdsForData (n : MethodName) : Bool :=
  n.isDataStage || (n.isSocketSide && n != .mixedCaseSni)

/-- The handshake member a list entry contributes. -/
def handshakeMember (cfg : Config) : MethodName → Option Member
  | .wrongSeq => some (.wrongSeq (.new cfg))
  | .wrongAck => some (.wrongAck (.new cfg))
  | .wrongChecksum => some (.wrongChecksum (.new cfg))
  | .wrongMd5 => some (.wrongMd5 (.new cfg))
  | .wrongTimestamp => some (.wrongTimestamp (.new cfg))
  | .lowTtl => some (.lowTtl (.new cfg))
  | .urgSniSplit => some (.urgSniSplit (.new cfg))
  | _ => none

/-- The data member a list entry contributes. -/
def dataMember (cfg : Config) (freshSeed : MethodName → UInt64) :
    MethodName → Option Member
  | .tlsRecordFrag => some (.tlsRecordFrag (.new cfg))
  | .fakeTls => some (.fakeTls (.new cfg cfg.bypassMethod.chainedFakeTls))
  | .ipFrag => some (.ipFrag (.new cfg))
  | .disorder => some (.disorder (.new cfg (freshSeed .disorder)))
  | .seqovl => some (.seqovl (.new cfg (freshSeed .seqovl)))
  | _ => none

theorem place_handshake (cfg : Config) (freshSeed : MethodName → UInt64)
    (n : MethodName) :
    (place cfg freshSeed cfg.bypassMethod.chainedFakeTls n).bind
      Placement.handshake? = handshakeMember cfg n := by
  cases n <;> rfl

theorem place_data (cfg : Config) (freshSeed : MethodName → UInt64)
    (n : MethodName) :
    (place cfg freshSeed cfg.bypassMethod.chainedFakeTls n).bind
      Placement.data? = dataMember cfg freshSeed n := by
  cases n <;> rfl

theorem handshakeMember_isSome (cfg : Config) (n : MethodName) :
    (handshakeMember cfg n).isSome = n.isHandshakeStage := by
  cases n <;> rfl

theorem dataMember_isSome (cfg : Config) (freshSeed : MethodName → UInt64)
    (n : MethodName) :
    (dataMember cfg freshSeed n).isSome = n.isDataStage := by
  cases n <;> rfl

/-- `fake_tls` is chained exactly if the data stage has another member. -/
theorem BypassMethodList.chainedFakeTls_iff {l : BypassMethodList} :
    l.chainedFakeTls = true
      ↔ .fakeTls ∈ l ∧ ∃ n ∈ l, n.isDataStage = true ∧ n ≠ .fakeTls := by
  unfold chainedFakeTls
  rw [Bool.and_eq_true_iff, Bool.or_eq_true_iff, List.contains_iff_mem,
    List.contains_iff_mem, List.any_eq_true]
  refine and_congr_right fun _ => ⟨?_, ?_⟩
  · intro h
    rcases h with hfrag | ⟨n, hn, hlisted⟩
    · exact ⟨_, hfrag, rfl, by decide⟩
    · refine ⟨n, List.contains_iff_mem.mp hlisted, ?_⟩
      simp only [List.mem_cons, List.not_mem_nil, or_false] at hn
      rcases hn with rfl | rfl | rfl
      · exact ⟨rfl, by decide⟩
      · exact ⟨rfl, by decide⟩
      · exact ⟨rfl, by decide⟩
  · intro h
    obtain ⟨n, hn, hstage, hne⟩ := h
    have hlisted := List.contains_iff_mem.mpr hn
    cases n with
    | fakeTls => exact absurd rfl hne
    | tlsRecordFrag => exact .inl hn
    | ipFrag => exact .inr ⟨.ipFrag, by decide, hlisted⟩
    | disorder => exact .inr ⟨.disorder, by decide, hlisted⟩
    | seqovl => exact .inr ⟨.seqovl, by decide, hlisted⟩
    | _ => cases hstage

/-- Beside a `fake_tls` that is not chained, nothing else is a data
member. -/
theorem dataMember_of_unchained {cfg cfg' : Config}
    (hfake : .fakeTls ∈ cfg.bypassMethod)
    (hc : cfg.bypassMethod.chainedFakeTls = false)
    (freshSeed : MethodName → UInt64) {n : MethodName}
    (hn : n ∈ cfg.bypassMethod) (hne : n ≠ .fakeTls) :
    dataMember cfg' freshSeed n = none := by
  rw [← Option.not_isSome_iff_eq_none, dataMember_isSome]
  intro hstage
  rw [BypassMethodList.chainedFakeTls_iff.mpr
    ⟨hfake, n, hn, hstage, hne⟩] at hc
  cases hc

-- ============================================================= the spec

/-- Filtering the results of a successful `mapM` filters its input. -/
theorem filterMap_of_mapM {α β γ : Type} {f : α → Option β}
    (g : β → Option γ) :
    ∀ {l : List α} {r : List β}, l.mapM f = some r →
      r.filterMap g = l.filterMap fun a => (f a).bind g := by
  intro l
  induction l with
  | nil =>
      intro r h
      cases h
      rfl
  | cons a l ih =>
      intro r h
      rw [List.mapM_cons] at h
      obtain ⟨b, hb, h⟩ := Option.bind_eq_some_iff.mp h
      obtain ⟨r', hr', h⟩ := Option.bind_eq_some_iff.mp h
      cases h
      simp only [List.filterMap_cons, hb, Option.bind_some, ih hr']

/-- The composite, read off the list. -/
structure BuiltFrom (cfg : Config) (freshSeed : MethodName → UInt64)
    (m : CompositeMethod Member) : Prop where
  handshakeMethods :
    m.handshakeMethods = cfg.bypassMethod.filterMap (handshakeMember cfg)
  dataMethods :
    m.dataMethods = cfg.bypassMethod.filterMap (dataMember cfg freshSeed)
  segments : m.segmentsFirstClientHello = cfg.bypassMethod.contains .tlsFrag
  pads : m.padsFirstClientHello = cfg.bypassMethod.contains .tlsPadding
  splits :
    m.splitsFirstClientHello = cfg.bypassMethod.contains .sniBoundaryFrag
  ccsPrefix :
    m.ccsPrefixFirstHello = cfg.bypassMethod.contains .ccsPrefix
  recordSplits : m.recordSplitsFirstClientHello
    = cfg.bypassMethod.contains .tlsRecordSplit

/-- `build_method` builds exactly that. -/
theorem build_spec {cfg : Config} {freshSeed : MethodName → UInt64}
    {m : CompositeMethod Member} (h : buildMethod cfg freshSeed = some m) :
    BuiltFrom cfg freshSeed m := by
  simp only [buildMethod] at h
  split at h
  · cases h
  · obtain ⟨placements, hplace, h⟩ := Option.bind_eq_some_iff.mp h
    cases h
    refine ⟨?_, ?_, rfl, rfl, rfl, rfl, rfl⟩
    · refine (filterMap_of_mapM Placement.handshake? hplace).trans ?_
      exact congrArg (List.filterMap · cfg.bypassMethod)
        (funext fun n => place_handshake cfg freshSeed n)
    · refine (filterMap_of_mapM Placement.data? hplace).trans ?_
      exact congrArg (List.filterMap · cfg.bypassMethod)
        (funext fun n => place_data cfg freshSeed n)

/-- Every base method has a place. -/
theorem place_isSome (cfg : Config) (freshSeed : MethodName → UInt64)
    (chained : Bool) {n : MethodName} (h : n ∈ baseBypassMethods) :
    ∃ p, place cfg freshSeed chained n = some p := by
  cases n with
  | unknown name => simp [baseBypassMethods] at h
  | _ => exact ⟨_, rfl⟩

/-- A validated list with an interceptor method builds. -/
theorem build_isSome {cfg : Config} (hv : cfg.ValidList)
    (hreq : cfg.bypassMethod.requiresInterceptor = true)
    (freshSeed : MethodName → UInt64) :
    ∃ m, buildMethod cfg freshSeed = some m := by
  have hplaces : ∀ (l : List MethodName), (∀ n ∈ l, n ∈ baseBypassMethods) →
      ∃ r, l.mapM (place cfg freshSeed cfg.bypassMethod.chainedFakeTls)
        = some r := by
    intro l
    induction l with
    | nil =>
        intro _
        exact ⟨[], rfl⟩
    | cons n l ih =>
        intro hl
        obtain ⟨p, hp⟩ := place_isSome cfg freshSeed
          cfg.bypassMethod.chainedFakeTls (hl n List.mem_cons_self)
        obtain ⟨r, hr⟩ := ih fun x hx => hl x (List.mem_cons_of_mem n hx)
        refine ⟨p :: r, ?_⟩
        rw [List.mapM_cons, hp, hr]
        rfl
  obtain ⟨r, hr⟩ := hplaces cfg.bypassMethod hv.base
  have hne : cfg.bypassMethod.isEmpty = false := by
    simpa using hv.nonempty
  have hsocket : cfg.bypassMethod.isSocketOnly = false := by
    obtain ⟨n, hn, hside⟩ := List.any_eq_true.mp hreq
    simp only [BypassMethodList.isSocketOnly, Bool.and_eq_false_iff]
    refine .inr (List.all_eq_false.mpr ⟨n, hn, ?_⟩)
    simpa using hside
  simp only [buildMethod, hne, hsocket, hr]
  exact ⟨_, rfl⟩

-- ================================================== consequences of it

variable {cfg : Config} {freshSeed : MethodName → UInt64}
  {m : CompositeMethod Member}

/-- The composite has data members exactly when the list has a data-stage
method. -/
theorem BuiltFrom.dataMethods_ne_nil_iff (h : BuiltFrom cfg freshSeed m) :
    m.dataMethods ≠ []
      ↔ ∃ n ∈ cfg.bypassMethod, n.isDataStage = true := by
  rw [h.dataMethods]
  simp only [← dataMember_isSome cfg freshSeed, Option.isSome_iff_exists,
    ne_eq, List.filterMap_eq_nil_iff, Classical.not_forall, exists_prop,
    ← Option.ne_none_iff_exists']

/-- The composite waits for the data stage exactly when the list has a
method that holds for it. -/
theorem BuiltFrom.waitsForData_iff (h : BuiltFrom cfg freshSeed m) :
    m.waitsForData = true
      ↔ ∃ n ∈ cfg.bypassMethod, n.holdsForData = true := by
  have hdata : m.dataMethods.isEmpty = false
      ↔ ∃ n ∈ cfg.bypassMethod, n.isDataStage = true := by
    rw [List.isEmpty_eq_false_iff]
    exact h.dataMethods_ne_nil_iff
  have hsocket : (m.segmentsFirstClientHello || m.padsFirstClientHello
        || m.splitsFirstClientHello || m.ccsPrefixFirstHello
        || m.recordSplitsFirstClientHello) = true
      ↔ ∃ n ∈ cfg.bypassMethod,
        (n.isSocketSide && n != .mixedCaseSni) = true := by
    simp only [h.segments, h.pads, h.splits, h.ccsPrefix, h.recordSplits,
      Bool.or_eq_true, List.contains_iff_mem]
    constructor
    · intro hgiven
      rcases hgiven with (((hn | hn) | hn) | hn) | hn
      all_goals exact ⟨_, hn, rfl⟩
    · intro hgiven
      obtain ⟨n, hn, hside⟩ := hgiven
      cases n with
      | tlsFrag => exact .inl (.inl (.inl (.inl hn)))
      | tlsPadding => exact .inl (.inl (.inl (.inr hn)))
      | sniBoundaryFrag => exact .inl (.inl (.inr hn))
      | ccsPrefix => exact .inl (.inr hn)
      | tlsRecordSplit => exact .inr hn
      | _ => cases hside
  have hsplit : m.waitsForData = (!m.dataMethods.isEmpty
      || (m.segmentsFirstClientHello || m.padsFirstClientHello
        || m.splitsFirstClientHello || m.ccsPrefixFirstHello
        || m.recordSplitsFirstClientHello)) := by
    simp only [CompositeMethod.waitsForData, Bool.or_assoc]
  rw [hsplit, Bool.or_eq_true, Bool.not_eq_true', hdata, hsocket]
  simp only [MethodName.holdsForData, Bool.or_eq_true]
  constructor
  · intro hgiven
    rcases hgiven with ⟨n, hn, hstage⟩ | ⟨n, hn, hside⟩
    · exact ⟨n, hn, .inl hstage⟩
    · exact ⟨n, hn, .inr hside⟩
  · intro hgiven
    rcases hgiven with ⟨n, hn, hstage | hside⟩
    · exact .inl ⟨n, hn, hstage⟩
    · exact .inr ⟨n, hn, hside⟩

/-- A decoy in front of another method leaves the real packet to it. -/
theorem Config.ValidList.forwards_of_chained (hv : cfg.ValidList)
    (hc : cfg.bypassMethod.chainedFakeTls = true) :
    cfg.fakeTlsForwardReal = true := by
  unfold BypassMethodList.chainedFakeTls at hc
  obtain ⟨hfake, hother⟩ := Bool.and_eq_true_iff.mp hc
  refine hv.chainedForwards hfake ?_
  rcases Bool.or_eq_true_iff.mp hother with hfrag | hshaper
  · exact .inl hfrag
  · obtain ⟨n, hn, hlisted⟩ := List.any_eq_true.mp hshaper
    exact .inr (List.ne_nil_of_mem (List.mem_filter.mpr ⟨hn, hlisted⟩))

/-- Every data member of a validated build is ready. -/
theorem BuiltFrom.dataReady (h : BuiltFrom cfg freshSeed m)
    (hsize : 0 < cfg.tlsRecordFragSize) :
    ∀ x ∈ m.dataMethods, x.DataReady := by
  intro x hx
  rw [h.dataMethods] at hx
  obtain ⟨n, -, hn⟩ := List.mem_filterMap.mp hx
  cases n with
  | tlsRecordFrag =>
      cases hn
      exact hsize
  | fakeTls =>
      cases hn
      trivial
  | ipFrag =>
      cases hn
      trivial
  | disorder =>
      cases hn
      trivial
  | seqovl =>
      cases hn
      trivial
  | _ => cases hn

end ZeroDpi
