/-
The method the helper builds, against the one the data plane would build
itself.

`build_wire_method` starts from the defaults and copies the fields of the
wire record, so a setting the record has no field for falls back to its
default in the helper. `CarriedSettings` lists what that leaves visible:
the settings of `fake_tls`, `ip_frag`, `disorder` and `seqovl`, each only
where the configured list lets a hook show it. The settings of
`urg_sni_split` are not carried either, but its data hook never runs.

# The probe

One direction compares the hooks member by member. The other reads the
settings off the answers to a single data packet, `probe`: each of the
three request fields of the view belongs to one member
(`DataStageAnswers`), and the helper's members neither wait nor ask for
more.
-/
import ZeroDpi.Proofs.Wire
import ZeroDpi.Proofs.DataRequests

namespace ZeroDpi.Helper

open Lib

-- ========================================================== the settings

/-- The overlap settings leave the same prefix as unset ones, for a
method that overlaps `defaultWhenUnset` bytes by default. -/
def DefaultOverlap (cfg : Config) (defaultWhenUnset : Nat) : Prop :=
  cfg.seqovlPattern = none
    ∧ (cfg.seqovlSize = none ∨ cfg.seqovlSize = some defaultWhenUnset)

/-- What the wire record does not carry is at its default wherever a
listed method shows it. -/
structure CarriedSettings (cfg : Config) : Prop where
  fakeTls : .fakeTls ∈ cfg.bypassMethod →
    cfg.fakeTlsExtraOffset = 0 ∧ cfg.fakeTlsSetPsh = true
      ∧ cfg.fakeTlsBumpIpIdent = true
      ∧ cfg.fakeTlsCompleteImmediately = true
  /-- The decoy in front of another data-stage method. -/
  decoy : cfg.bypassMethod.chainedFakeTls = true →
    cfg.fakeTlsRepeats = 1 ∧ cfg.fakeTlsChainDelayMs = .exact 0
  /-- The first data packet turned into the decoy. -/
  alone : .fakeTls ∈ cfg.bypassMethod →
    cfg.bypassMethod.chainedFakeTls = false → cfg.fakeTlsForwardReal = true
  ipFrag : .ipFrag ∈ cfg.bypassMethod →
    cfg.ipFragSize = 24 ∧ cfg.ipFragOnlyFirstPacket = true
  disorder : .disorder ∈ cfg.bypassMethod →
    cfg.disorderSegments = 2 ∧ cfg.disorderReverse = true
      ∧ cfg.disorderDelayMs = 0 ∧ cfg.disorderOnlyFirstPacket = true
      ∧ DefaultOverlap cfg 0
  seqovl : .seqovl ∈ cfg.bypassMethod →
    cfg.seqovlSegments = 2 ∧ cfg.seqovlReverse = false
      ∧ cfg.seqovlDelayMs = 0 ∧ DefaultOverlap cfg defaultSeqovlSize

/-- Two methods answer alike: the same action and the same staged view,
or the same panic, at both hooks. -/
def Alike (m m' : CompositeMethod Member) : Prop :=
  ∀ env flow pkt,
    BypassMethod.onHandshakeCompleteAck m env flow pkt
        = BypassMethod.onHandshakeCompleteAck m' env flow pkt
      ∧ BypassMethod.onFirstDataPacket m env flow pkt
        = BypassMethod.onFirstDataPacket m' env flow pkt

-- ================================================ the helper's own config

/-- The configuration the helper ends up with. -/
def helperConfig (cfg : Config) : Config :=
  wireConfig (interceptorConfig cfg 0 none 0).method

/-- The name of a base method is no alias. -/
theorem expandMethodAlias_text {n : MethodName}
    (h : n ∈ baseBypassMethods) : expandMethodAlias n.text = [n] := by
  cases n with
  | unknown name => simp [baseBypassMethods] at h
  | _ => decide

theorem flatMap_expandMethodAlias {l : List MethodName}
    (h : ∀ n ∈ l, n ∈ baseBypassMethods) :
    (l.map MethodName.text).flatMap expandMethodAlias = l := by
  induction l with
  | nil => rfl
  | cons n l ih =>
      rw [List.map_cons, List.flatMap_cons,
        expandMethodAlias_text (h n List.mem_cons_self),
        ih fun x hx => h x (List.mem_cons_of_mem n hx)]
      rfl

/-- The helper works on the configured list. -/
theorem helperConfig_bypassMethod {cfg : Config} (hv : cfg.ValidList) :
    (helperConfig cfg).bypassMethod = cfg.bypassMethod :=
  flatMap_expandMethodAlias hv.base

/-- And finds it valid. -/
theorem helperConfig_validList {cfg : Config} (hv : cfg.ValidList) :
    (helperConfig cfg).ValidList := by
  have hlist := helperConfig_bypassMethod hv
  refine ⟨?_, ?_, ?_, ?_, ?_, fun _ _ => rfl⟩
  all_goals rw [hlist]
  · exact hv.nonempty
  · exact hv.base
  · exact hv.nodup
  · exact hv.urgAlone
  · exact hv.oneShaper

-- ============================================ members that answer alike

section Stages

variable {f f' : MethodName → Option Member} {l : List MethodName}

/-- The handshake stage depends on its members only through their
handshake hooks. -/
theorem handshake_congr
    (h : ∀ n ∈ l, (f n).map BypassMethod.onHandshakeCompleteAck
      = (f' n).map BypassMethod.onHandshakeCompleteAck)
    (env : HookEnv) (flow : FlowState) (acc : HandshakeAcc) :
    (l.filterMap f).foldlM (HandshakeAcc.turn env flow) acc
      = (l.filterMap f').foldlM (HandshakeAcc.turn env flow) acc := by
  induction l generalizing acc with
  | nil => rfl
  | cons n l ih =>
      have ih := ih fun x hx => h x (List.mem_cons_of_mem n hx)
      have hn := h n List.mem_cons_self
      rw [List.filterMap_cons, List.filterMap_cons]
      generalize f n = a at hn
      generalize f' n = a' at hn
      cases a with
      | none =>
          cases a' with
          | none => exact ih acc
          | some x' => cases hn
      | some x =>
          cases a' with
          | none => cases hn
          | some x' =>
              have hhook := Option.some.inj hn
              have hturn : HandshakeAcc.turn env flow acc x
                  = HandshakeAcc.turn env flow acc x' := by
                unfold HandshakeAcc.turn
                rw [hhook]
              rw [List.foldlM_cons, List.foldlM_cons, hturn]
              exact congrArg _ (funext ih)

/-- The data stage depends on its members only through their data
hooks. -/
theorem data_congr
    (h : ∀ n ∈ l, (f n).map BypassMethod.onFirstDataPacket
      = (f' n).map BypassMethod.onFirstDataPacket)
    (env : HookEnv) (flow : FlowState) (acc : CompositeMethod.DataAcc)
    (pkt : PacketView) :
    CompositeMethod.dataLoop env flow (l.filterMap f) acc pkt
      = CompositeMethod.dataLoop env flow (l.filterMap f') acc pkt := by
  induction l generalizing acc pkt with
  | nil => rfl
  | cons n l ih =>
      have ih := ih fun x hx => h x (List.mem_cons_of_mem n hx)
      have hn := h n List.mem_cons_self
      rw [List.filterMap_cons, List.filterMap_cons]
      generalize f n = a at hn
      generalize f' n = a' at hn
      cases a with
      | none =>
          cases a' with
          | none => exact ih acc pkt
          | some x' => cases hn
      | some x =>
          cases a' with
          | none => cases hn
          | some x' =>
              have hhook := Option.some.inj hn
              unfold CompositeMethod.dataLoop
              rw [hhook]
              refine congrArg _ (funext fun ⟨action, v⟩ => ?_)
              cases action with
              | emitFakeAndAccept immediate more => exact ih _ v
              | completeAndAccept => exact ih acc v
              | passThrough => exact ih acc v
              | abortAndAccept => rfl

end Stages

section Built

variable {cfg cfg' : Config} {freshSeed : MethodName → UInt64}
  {m m' : CompositeMethod Member}

/-- Two composites built from the same list by two configurations whose
members have the same hooks. -/
theorem alike_of_members (hb : BuiltFrom cfg freshSeed m)
    (hb' : BuiltFrom cfg' freshSeed m')
    (hlist : cfg'.bypassMethod = cfg.bypassMethod)
    (hhandshake : ∀ n ∈ cfg.bypassMethod,
      (handshakeMember cfg n).map BypassMethod.onHandshakeCompleteAck
        = (handshakeMember cfg' n).map BypassMethod.onHandshakeCompleteAck)
    (hdata : ∀ n ∈ cfg.bypassMethod,
      (dataMember cfg freshSeed n).map BypassMethod.onFirstDataPacket
        = (dataMember cfg' freshSeed n).map
          BypassMethod.onFirstDataPacket) :
    Alike m m' := by
  have hempty : m.dataMethods.isEmpty = m'.dataMethods.isEmpty := by
    have hiff : m.dataMethods ≠ [] ↔ m'.dataMethods ≠ [] := by
      rw [hb.dataMethods_ne_nil_iff, hb'.dataMethods_ne_nil_iff, hlist]
    rw [Bool.eq_iff_iff, List.isEmpty_iff, List.isEmpty_iff]
    exact Decidable.not_iff_not.mp hiff
  have hwaits : m.waitsForData = m'.waitsForData := by
    have hiff := hb'.waitsForData_iff
    rw [hlist, ← hb.waitsForData_iff] at hiff
    exact (Bool.eq_iff_iff.mpr hiff).symm
  intro env flow pkt
  constructor
  · show m.onHandshakeCompleteAck env flow pkt
      = m'.onHandshakeCompleteAck env flow pkt
    unfold CompositeMethod.onHandshakeCompleteAck
    rw [hwaits, hb.handshakeMethods, hb'.handshakeMethods, hlist,
      handshake_congr hhandshake env flow]
  · show m.onFirstDataPacket env flow pkt
      = m'.onFirstDataPacket env flow pkt
    unfold CompositeMethod.onFirstDataPacket
    rw [hempty, hb.dataMethods, hb'.dataMethods, hlist,
      data_congr hdata env flow]

end Built

/-- The handshake stage is carried whole: `urg_sni_split`, whose settings
are not, leaves the ACK alone. -/
theorem handshakeMember_helperConfig (cfg : Config) (n : MethodName) :
    (handshakeMember cfg n).map BypassMethod.onHandshakeCompleteAck
      = (handshakeMember (helperConfig cfg) n).map
        BypassMethod.onHandshakeCompleteAck := by
  cases n <;> rfl

-- ================================================ the settings are enough

theorem hexPairs_ne_nil {a b : UInt8} {rest bytes : Bytes}
    (h : hexPairs (a :: b :: rest) = .ok bytes) : bytes ≠ [] := by
  unfold hexPairs at h
  obtain ⟨hi, -, h⟩ := bind_eq_ok.mp h
  obtain ⟨lo, -, h⟩ := bind_eq_ok.mp h
  obtain ⟨tail, -, h⟩ := bind_eq_ok.mp h
  cases h
  exact List.cons_ne_nil _ _

/-- A pattern that parses is not empty. -/
theorem parseHexPattern_ne_nil {raw : String} {bytes : Bytes}
    (h : parseHexPattern raw = .ok bytes) : bytes ≠ [] := by
  unfold parseHexPattern at h
  simp only at h
  generalize List.filter _ _ = digits at h
  cases digits with
  | nil => cases h
  | cons a digits =>
      cases digits with
      | nil => cases h
      | cons b rest =>
          split at h
          · cases h
          · split at h
            · cases h
            · exact hexPairs_ne_nil h

/-- The overlap is that of unset settings exactly when the settings are
as good as unset. -/
theorem overlap_eq_default_iff {cfg : Config} (hp : cfg.ValidParams)
    (defaultWhenUnset : Nat) (seed : UInt64) :
    overlapFromConfig cfg defaultWhenUnset seed
        = overlapFromConfig {} defaultWhenUnset seed
      ↔ DefaultOverlap cfg defaultWhenUnset := by
  unfold DefaultOverlap
  cases hpattern : cfg.seqovlPattern with
  | some raw =>
      obtain ⟨bytes, hparse, hsize⟩ := hp.pattern raw hpattern
      have hlen : bytes.length ≠ 0 := fun h0 =>
        parseHexPattern_ne_nil hparse (List.length_eq_zero_iff.mp h0)
      have hset : overlapFromConfig cfg defaultWhenUnset seed
          = some ⟨bytes.length, some bytes, seed⟩ := by
        cases hs : cfg.seqovlSize with
        | none =>
            simp [overlapFromConfig, hpattern, hs, hparse, Except.toOption,
              hlen]
        | some size =>
            simp [overlapFromConfig, hpattern, hs, hparse, Except.toOption,
              hsize size hs, hlen]
      rw [hset]
      constructor
      · intro h
        unfold overlapFromConfig at h
        simp only at h
        split at h
        · cases h
        · cases h
      · intro hgiven
        obtain ⟨h, -⟩ := hgiven
        cases h
  | none =>
      cases hs : cfg.seqovlSize with
      | none => simp [overlapFromConfig, hpattern, hs]
      | some size =>
          by_cases h0 : size = 0
          · subst h0
            by_cases hd : defaultWhenUnset = 0
            · simp [overlapFromConfig, hs, hd]
            · simp [overlapFromConfig, hs, hd, Ne.symm hd]
          · by_cases hd : defaultWhenUnset = 0
            · simp [overlapFromConfig, hpattern, hs, hd, h0]
            · simp [overlapFromConfig, hpattern, hs, hd, h0]

/-- With the settings at their defaults, the data members answer
alike. -/
theorem dataMember_of_carried {cfg : Config} (hv : cfg.ValidList)
    (hp : cfg.ValidParams) (h : CarriedSettings cfg)
    (freshSeed : MethodName → UInt64) :
    ∀ n ∈ cfg.bypassMethod,
      (dataMember cfg freshSeed n).map BypassMethod.onFirstDataPacket
        = (dataMember (helperConfig cfg) freshSeed n).map
          BypassMethod.onFirstDataPacket := by
  intro n hn
  cases n with
  | fakeTls =>
      obtain ⟨hoffset, hpsh, hbump, hnow⟩ := h.fakeTls hn
      unfold dataMember
      rw [helperConfig_bypassMethod hv]
      cases hc : cfg.bypassMethod.chainedFakeTls with
      | true =>
          obtain ⟨hrepeats, hdelay⟩ := h.decoy hc
          have hreal : cfg.fakeTlsForwardReal = true := hv.forwards_of_chained hc
          have hsame : FakeTls.new cfg true
              = FakeTls.new (helperConfig cfg) true := by
            unfold FakeTls.new
            rw [hoffset, hpsh, hbump, hnow, hrepeats, hdelay, hreal]
            rfl
          rw [hsame]
      | false =>
          have hreal := h.alone hn hc
          -- the decoy's own settings differ, but no decoy is staged
          refine congrArg some (funext fun env => funext fun flow =>
            funext fun pkt => ?_)
          show (FakeTls.new cfg false).onFirstDataPacket env flow pkt
            = (FakeTls.new (helperConfig cfg) false).onFirstDataPacket
              env flow pkt
          unfold FakeTls.onFirstDataPacket FakeTls.new
          simp only [Bool.false_and, Bool.false_eq_true, if_false]
          rw [hoffset, hpsh, hbump, hnow, hreal]
          rfl
  | ipFrag =>
      obtain ⟨hsize, hfirst⟩ := h.ipFrag hn
      have hsame : IpFrag.new cfg = IpFrag.new (helperConfig cfg) := by
        unfold IpFrag.new
        rw [hsize, hfirst]
        rfl
      unfold dataMember
      rw [hsame]
  | disorder =>
      obtain ⟨hsegments, hreverse, hdelay, hfirst, hoverlap⟩ :=
        h.disorder hn
      have hoverlap := (overlap_eq_default_iff hp 0
        (freshSeed .disorder)).mpr hoverlap
      have hsame : Disorder.new cfg (freshSeed .disorder)
          = Disorder.new (helperConfig cfg) (freshSeed .disorder) := by
        unfold Disorder.new
        rw [hsegments, hreverse, hdelay, hfirst, hoverlap]
        rfl
      unfold dataMember
      rw [hsame]
  | seqovl =>
      obtain ⟨hsegments, hreverse, hdelay, hoverlap⟩ := h.seqovl hn
      have hoverlap := (overlap_eq_default_iff hp defaultSeqovlSize
        (freshSeed .seqovl)).mpr hoverlap
      have hsame : Seqovl.new cfg (freshSeed .seqovl)
          = Seqovl.new (helperConfig cfg) (freshSeed .seqovl) := by
        unfold Seqovl.new
        rw [hsegments, hreverse, hdelay, hoverlap]
        rfl
      unfold dataMember
      rw [hsame]
  | _ => rfl

-- ============================================================ the probe

/-- A flow that waits for its first data packet. -/
def probeFlow : FlowState :=
  { FlowState.new [0x16] none with
    synSeq := some 0
    synAckSeq := some 0
    fakeSent := true
    waitingForData := true }

/-- Its first data packet, just over the default fragment size. -/
def probe : CapturedPacket where
  direction := .outbound
  srcIp := 0x0A000001
  dstIp := 0x01010101
  srcPort := 40000
  dstPort := 443
  seq := 1
  ack := 1
  flags := { ack := true }
  payload := [0, 0, 0, 0, 0]
  tcpOptions := []

theorem probeFlow_fresh : FreshFlow probeFlow 0 := ⟨rfl, rfl⟩

/-- Configurations, the methods built from them, and their agreement. -/
structure Compared (cfg : Config) (freshSeed : MethodName → UInt64)
    (m m' : CompositeMethod Member) : Prop where
  valid : cfg.validate = .ok ()
  ours : BuiltFrom cfg freshSeed m
  helpers : BuiltFrom (helperConfig cfg) freshSeed m'
  alike : Alike m m'

namespace Compared

variable {cfg : Config} {freshSeed : MethodName → UInt64}
  {m m' : CompositeMethod Member}

theorem listed (h : Compared cfg freshSeed m m') :
    (helperConfig cfg).bypassMethod = cfg.bypassMethod :=
  helperConfig_bypassMethod (Config.validList h.valid)

/-- Both methods answer the probe, and with the same answer. -/
theorem probed (h : Compared cfg freshSeed m m') (env : HookEnv)
    {n : MethodName} (hn : n ∈ cfg.bypassMethod)
    (hstage : n.isDataStage = true) :
    ∃ action v,
      DataStageAnswers env probeFlow 0 m.dataMethods {} probe.view action v
        ∧ DataStageAnswers env probeFlow 0 m'.dataMethods {} probe.view
          action v := by
  have hsize := (Config.validParams h.valid).recordFragSize
  obtain ⟨action, v, hrun, hanswers⟩ := dataLoop_answers env
    probeFlow_fresh (h.ours.dataReady hsize) {} probe.view
  obtain ⟨action', v', hrun', hanswers'⟩ := dataLoop_answers env
    probeFlow_fresh (h.helpers.dataReady hsize) {} probe.view
  have hne : m.dataMethods ≠ [] :=
    h.ours.dataMethods_ne_nil_iff.mpr ⟨n, hn, hstage⟩
  have hne' : m'.dataMethods ≠ [] := by
    refine h.helpers.dataMethods_ne_nil_iff.mpr ⟨n, ?_, hstage⟩
    rw [h.listed]
    exact hn
  have hsame : m.onFirstDataPacket env probeFlow probe.view
      = m'.onFirstDataPacket env probeFlow probe.view :=
    (h.alike env probeFlow probe.view).2
  simp only [CompositeMethod.onFirstDataPacket, List.isEmpty_iff, hne, hne',
    if_false, hrun, hrun'] at hsame
  cases hsame
  exact ⟨action, v, hanswers, hanswers'⟩

/-- The two owners of a request field ask for the same. -/
theorem request (h : Compared cfg freshSeed m m') {γ : Type}
    {f : Member → Option γ} {n : MethodName} {x x' : Member}
    (hn : n ∈ cfg.bypassMethod)
    (hx : dataMember cfg freshSeed n = some x)
    (hx' : dataMember (helperConfig cfg) freshSeed n = some x')
    (hothers : ∀ k ∈ cfg.bypassMethod, k ≠ n → ∀ (cfg₀ : Config) (y : Member),
      dataMember cfg₀ freshSeed k = some y → f y = none)
    (hsame : lastRequest f m.dataMethods none
      = lastRequest f m'.dataMethods none) : f x = f x' := by
  have hmem : x ∈ m.dataMethods := by
    rw [h.ours.dataMethods]
    exact List.mem_filterMap.mpr ⟨n, hn, hx⟩
  have hmem' : x' ∈ m'.dataMethods := by
    rw [h.helpers.dataMethods, h.listed]
    exact List.mem_filterMap.mpr ⟨n, hn, hx'⟩
  have hnone : ∀ y ∈ m.dataMethods, y ≠ x → f y = none := by
    intro y hy hne
    rw [h.ours.dataMethods] at hy
    obtain ⟨k, hk, hky⟩ := List.mem_filterMap.mp hy
    refine hothers k hk ?_ cfg y hky
    intro heq
    subst heq
    exact hne (Option.some.inj (hky.symm.trans hx))
  have hnone' : ∀ y ∈ m'.dataMethods, y ≠ x' → f y = none := by
    intro y hy hne
    rw [h.helpers.dataMethods, h.listed] at hy
    obtain ⟨k, hk, hky⟩ := List.mem_filterMap.mp hy
    refine hothers k hk ?_ (helperConfig cfg) y hky
    intro heq
    subst heq
    exact hne (Option.some.inj (hky.symm.trans hx'))
  rw [lastRequest_of_owner hmem hnone,
    lastRequest_of_owner hmem' hnone'] at hsame
  exact hsame

/-- The helper's members all complete at once and ask for no more. -/
theorem helpers_flags (h : Compared cfg freshSeed m m') :
    ∀ x ∈ m'.dataMethods, emitFlags x = (true, false) := by
  intro x hx
  rw [h.helpers.dataMethods] at hx
  obtain ⟨n, -, hn⟩ := List.mem_filterMap.mp hx
  cases n <;> cases hn <;> rfl

/-- So do ours, once one of them is sure to emit. -/
theorem flags (h : Compared cfg freshSeed m m') {n : MethodName}
    {x x' : Member} (hn : n ∈ cfg.bypassMethod)
    (hx : dataMember cfg freshSeed n = some x)
    (hx' : dataMember (helperConfig cfg) freshSeed n = some x')
    (hemits : ¬ IsRecordFrag x ∧ ¬ IsRecordFrag x') :
    emitFlags x = (true, false) := by
  have hmem : x ∈ m.dataMethods := by
    rw [h.ours.dataMethods]
    exact List.mem_filterMap.mpr ⟨n, hn, hx⟩
  have hmem' : x' ∈ m'.dataMethods := by
    rw [h.helpers.dataMethods, h.listed]
    exact List.mem_filterMap.mpr ⟨n, hn, hx'⟩
  have hstage : n.isDataStage = true := by
    rw [← dataMember_isSome cfg freshSeed, hx]
    rfl
  obtain ⟨action, v, hours, hhelpers⟩ := h.probed ⟨0, 0⟩ hn hstage
  have hactions := hours.action.resolve_left
    fun hall => hemits.1 (hall.2 x hmem)
  rw [hhelpers.action.resolve_left
    fun hall => hemits.2 (hall.2 x' hmem')] at hactions
  obtain ⟨hnow, hmore⟩ := emitFlags_neutral h.helpers_flags
  rw [hnow, hmore] at hactions
  obtain ⟨hall, hany⟩ := MethodAction.emitFakeAndAccept.inj hactions
  have hall : (m.dataMethods.all fun y => (emitFlags y).1) = true := hall.symm
  have hany : (m.dataMethods.any fun y => (emitFlags y).2) = false := hany.symm
  refine Prod.ext (List.all_eq_true.mp hall x hmem) ?_
  exact Bool.eq_false_iff.mpr (List.any_eq_false.mp hany x hmem)

end Compared

-- ========================================================== the settings

theorem seqBehindWindow_inj {synSeq payloadLen a b : UInt32}
    (h : seqBehindWindow synSeq payloadLen a
      = seqBehindWindow synSeq payloadLen b) : a = b := by
  unfold seqBehindWindow at h
  exact (UInt32.sub_right_inj _).mp h

/-- The draw from state 21 is divisible by no width a chain delay can
have. -/
theorem splitmix_not_divisible {width : Nat} (hlow : 2 ≤ width)
    (hhigh : width ≤ 101) : (splitmix64 21).2.toNat % width ≠ 0 := by
  have hz : (splitmix64 21).2.toNat = 0x6CA0A95B7E825C7 := by decide
  have hall : ∀ w : Fin 102, 2 ≤ w.val →
      0x6CA0A95B7E825C7 % w.val ≠ 0 := by decide
  rw [hz]
  exact hall ⟨width, by omega⟩ hlow

/-- A valid chain delay that is always sampled as zero is the default. -/
theorem chainDelay_exact {cfg : Config} (hp : cfg.ValidParams)
    (h : ∀ state,
      (sampleI32 cfg.fakeTlsChainDelayMs state).1.toInt.toNat = 0) :
    cfg.fakeTlsChainDelayMs = .exact 0 := by
  obtain ⟨hmin, hmax⟩ := hp.chainDelay
  generalize cfg.fakeTlsChainDelayMs = r at *
  have hmin : (0 : Int) ≤ r.min.toInt := Int32.le_iff_toInt_le.mp hmin
  have hmax : r.max.toInt ≤ 100 := Int32.le_iff_toInt_le.mp hmax
  have hord : r.min.toInt ≤ r.max.toInt := Int32.le_iff_toInt_le.mp r.ordered
  have h21 := h 21
  by_cases heq : r.min = r.max
  · unfold sampleI32 at h21
    rw [if_pos heq] at h21
    have h21 : r.min.toInt.toNat = 0 := h21
    have hzero : r.min = 0 := Int32.toInt_inj.mp (show r.min.toInt = 0 by omega)
    obtain ⟨min, max, hordered⟩ := r
    cases heq
    cases hzero
    rfl
  · have hne : r.min.toInt ≠ r.max.toInt := fun h0 =>
      heq (Int32.toInt_inj.mp h0)
    have hdraw := @splitmix_not_divisible
      (r.max.toInt - r.min.toInt + 1).toNat (by omega) (by omega)
    rw [sampleI32_toInt heq] at h21
    omega

namespace Compared

variable {cfg : Config} {freshSeed : MethodName → UInt64}
  {m m' : CompositeMethod Member}

theorem ipFrag (h : Compared cfg freshSeed m m')
    (hn : .ipFrag ∈ cfg.bypassMethod) :
    cfg.ipFragSize = 24 ∧ cfg.ipFragOnlyFirstPacket = true := by
  have hflags := h.flags hn rfl rfl ⟨id, id⟩
  obtain ⟨action, v, hours, hhelpers⟩ := h.probed ⟨0, 0⟩ hn rfl
  have hsize := h.request (f := fragmentsOf probe) hn rfl rfl
    (by
      intro k _ hk cfg₀ y hy
      cases k with
      | ipFrag => exact absurd rfl hk
      | _ => cases hy <;> rfl)
    (hours.fragments.symm.trans hhelpers.fragments)
  refine ⟨?_, congrArg Prod.fst hflags⟩
  -- the helper asks for 24, so we ask for something, and for the same
  have hsize : (if 25 > cfg.ipFragSize then some cfg.ipFragSize else none)
      = some 24 := hsize
  split at hsize
  · exact Option.some.inj hsize
  · cases hsize

/-- The two segmenting shapers exclude each other. -/
theorem segmenter_alone (h : Compared cfg freshSeed m m')
    (hd : .disorder ∈ cfg.bypassMethod) : .seqovl ∉ cfg.bypassMethod := by
  intro hs
  cases (Config.validList h.valid).shaper_unique (by decide) hd (by decide) hs

/-- A segmentation the probe shows is the whole request. -/
theorem spec_of_segments {spec spec' : DisorderSpec}
    (hspec' : spec'.segments = 2)
    (h : (if probe.payloadLen ≥ spec.segments then some spec else none)
      = if probe.payloadLen ≥ spec'.segments then some spec' else none) :
    spec = spec' := by
  rw [hspec', if_pos (by decide : probe.payloadLen ≥ 2)] at h
  split at h
  · exact Option.some.inj h
  · cases h

theorem disorder (h : Compared cfg freshSeed m m')
    (hn : .disorder ∈ cfg.bypassMethod) :
    cfg.disorderSegments = 2 ∧ cfg.disorderReverse = true
      ∧ cfg.disorderDelayMs = 0 ∧ cfg.disorderOnlyFirstPacket = true
      ∧ DefaultOverlap cfg 0 := by
  have hflags := h.flags hn rfl rfl ⟨id, id⟩
  obtain ⟨action, v, hours, hhelpers⟩ := h.probed ⟨0, 0⟩ hn rfl
  have hsame := h.request (f := segmentsOf probe) hn rfl rfl
    (by
      intro k hkmem hk cfg₀ y hy
      cases k with
      | disorder => exact absurd rfl hk
      | seqovl => exact absurd hkmem (h.segmenter_alone hn)
      | _ => cases hy <;> rfl)
    (hours.segments.symm.trans hhelpers.segments)
  have hspec : (Disorder.new cfg (freshSeed .disorder)).spec
      = (Disorder.new (helperConfig cfg) (freshSeed .disorder)).spec :=
    spec_of_segments rfl hsame
  obtain ⟨hsegments, hreverse, hdelay, hoverlap⟩ :=
    DisorderSpec.mk.inj hspec
  exact ⟨hsegments, hreverse, hdelay, congrArg Prod.fst hflags,
    (overlap_eq_default_iff (Config.validParams h.valid) _ _).mp hoverlap⟩

theorem seqovl (h : Compared cfg freshSeed m m')
    (hn : .seqovl ∈ cfg.bypassMethod) :
    cfg.seqovlSegments = 2 ∧ cfg.seqovlReverse = false
      ∧ cfg.seqovlDelayMs = 0 ∧ DefaultOverlap cfg defaultSeqovlSize := by
  obtain ⟨action, v, hours, hhelpers⟩ := h.probed ⟨0, 0⟩ hn rfl
  have hsame := h.request (f := segmentsOf probe) hn rfl rfl
    (by
      intro k hkmem hk cfg₀ y hy
      cases k with
      | seqovl => exact absurd rfl hk
      | disorder => exact absurd hn (h.segmenter_alone hkmem)
      | _ => cases hy <;> rfl)
    (hours.segments.symm.trans hhelpers.segments)
  have hspec : (Seqovl.new cfg (freshSeed .seqovl)).spec
      = (Seqovl.new (helperConfig cfg) (freshSeed .seqovl)).spec :=
    spec_of_segments rfl hsame
  obtain ⟨hsegments, hreverse, hdelay, hoverlap⟩ :=
    DisorderSpec.mk.inj hspec
  exact ⟨hsegments, hreverse, hdelay,
    (overlap_eq_default_iff (Config.validParams h.valid) _ _).mp hoverlap⟩

/-- The decoys of a chained `fake_tls`, for every draw. -/
theorem decoys (h : Compared cfg freshSeed m m')
    (hn : .fakeTls ∈ cfg.bypassMethod)
    (hc : cfg.bypassMethod.chainedFakeTls = true) (env : HookEnv) :
    (FakeTls.new cfg true).decoy env
        (seqBehindWindow 0 1 cfg.fakeTlsExtraOffset) [0x16] probe.flags
      = (FakeTls.new (helperConfig cfg) true).decoy env
        (seqBehindWindow 0 1 0) [0x16] probe.flags := by
  obtain ⟨action, v, hours, hhelpers⟩ := h.probed env hn rfl
  have hx : dataMember cfg freshSeed .fakeTls
      = some (.fakeTls (.new cfg true)) := by
    unfold dataMember
    rw [hc]
  have hx' : dataMember (helperConfig cfg) freshSeed .fakeTls
      = some (.fakeTls (.new (helperConfig cfg) true)) := by
    unfold dataMember
    rw [h.listed, hc]
  exact Option.some.inj
    (h.request (f := decoyOf env probeFlow 0 probe.flags) hn hx hx'
      (by
        intro k _ hk cfg₀ y hy
        cases k with
        | fakeTls => exact absurd rfl hk
        | _ => cases hy <;> rfl)
      (hours.decoy.symm.trans hhelpers.decoy))

end Compared

/-- Filtering a list in which only one entry counts. -/
theorem filterMap_of_only {α β : Type} {f : α → Option β} {a : α} {b : β}
    (hb : f a = some b) :
    ∀ {l : List α}, l.Nodup → a ∈ l → (∀ x ∈ l, x ≠ a → f x = none) →
      l.filterMap f = [b] := by
  intro l
  induction l with
  | nil =>
      intro _ ha
      cases ha
  | cons x l ih =>
      intro hnodup ha honly
      obtain ⟨hx, hnodup⟩ := List.nodup_cons.mp hnodup
      have hrest := fun y hy => honly y (List.mem_cons_of_mem x hy)
      rcases List.mem_cons.mp ha with rfl | ha
      · have hnone : l.filterMap f = [] := by
          rw [List.filterMap_eq_nil_iff]
          intro y hy
          refine hrest y hy ?_
          intro heq
          subst heq
          exact hx hy
        rw [List.filterMap_cons_some hb, hnone]
      · have hxa : x ≠ a := by
          intro heq
          subst heq
          exact hx ha
        rw [List.filterMap_cons_none (honly x List.mem_cons_self hxa)]
        exact ih hnodup ha hrest

/-- Without a partner, `fake_tls` is the whole data stage. -/
theorem lone_fakeTls {cfg cfg₀ : Config} (hv : cfg.ValidList)
    (hlist : cfg₀.bypassMethod = cfg.bypassMethod)
    (hn : .fakeTls ∈ cfg.bypassMethod)
    (hc : cfg.bypassMethod.chainedFakeTls = false)
    (freshSeed : MethodName → UInt64) :
    cfg.bypassMethod.filterMap (dataMember cfg₀ freshSeed)
      = [.fakeTls (.new cfg₀ false)] := by
  have hmember : dataMember cfg₀ freshSeed .fakeTls
      = some (.fakeTls (.new cfg₀ false)) := by
    unfold dataMember
    rw [hlist, hc]
  refine filterMap_of_only hmember hv.nodup hn ?_
  intro k hmem hk
  exact dataMember_of_unchained hn hc freshSeed hmem hk

namespace Compared

variable {cfg : Config} {freshSeed : MethodName → UInt64}
  {m m' : CompositeMethod Member}

/-- The views a lone `fake_tls` turns the probe into. -/
theorem lone (h : Compared cfg freshSeed m m')
    (hn : .fakeTls ∈ cfg.bypassMethod)
    (hc : cfg.bypassMethod.chainedFakeTls = false) :
    cfg.fakeTlsExtraOffset = 0 ∧ cfg.fakeTlsSetPsh = true
      ∧ cfg.fakeTlsBumpIpIdent = true ∧ cfg.fakeTlsForwardReal = true := by
  have hv := Config.validList h.valid
  have hsame : m.onFirstDataPacket ⟨0, 0⟩ probeFlow probe.view
      = m'.onFirstDataPacket ⟨0, 0⟩ probeFlow probe.view :=
    (h.alike ⟨0, 0⟩ probeFlow probe.view).2
  unfold CompositeMethod.onFirstDataPacket at hsame
  rw [h.ours.dataMethods, h.helpers.dataMethods, h.listed,
    lone_fakeTls hv rfl hn hc, lone_fakeTls hv h.listed hn hc] at hsame
  have hviews := (Prod.mk.inj (Except.ok.inj hsame)).2
  have hseq := congrArg PacketView.newSeq hviews
  have hpsh := congrArg PacketView.newFlags hviews
  refine ⟨seqBehindWindow_inj (Option.some.inj hseq), ?_,
    congrArg PacketView.bumpIpv4Ident hviews,
    congrArg PacketView.emitOriginalAfter hviews⟩
  exact congrArg TcpFlags.psh (Option.some.inj hpsh)

theorem fakeTls (h : Compared cfg freshSeed m m')
    (hn : .fakeTls ∈ cfg.bypassMethod) :
    cfg.fakeTlsExtraOffset = 0 ∧ cfg.fakeTlsSetPsh = true
      ∧ cfg.fakeTlsBumpIpIdent = true
      ∧ cfg.fakeTlsCompleteImmediately = true := by
  have hflags := h.flags hn rfl rfl ⟨id, id⟩
  have hnow : cfg.fakeTlsCompleteImmediately = true :=
    congrArg Prod.fst hflags
  cases hc : cfg.bypassMethod.chainedFakeTls with
  | true =>
      have hdecoy := h.decoys hn hc ⟨0, 0⟩
      have hseq := congrArg DecoyPacket.seq hdecoy
      have hpsh := congrArg DecoyPacket.flags hdecoy
      exact ⟨seqBehindWindow_inj hseq, congrArg TcpFlags.psh hpsh,
        congrArg DecoyPacket.bumpIpv4Ident hdecoy, hnow⟩
  | false =>
      obtain ⟨hoffset, hpsh, hbump, -⟩ := h.lone hn hc
      exact ⟨hoffset, hpsh, hbump, hnow⟩

theorem decoy (h : Compared cfg freshSeed m m')
    (hc : cfg.bypassMethod.chainedFakeTls = true) :
    cfg.fakeTlsRepeats = 1 ∧ cfg.fakeTlsChainDelayMs = .exact 0 := by
  have hn : .fakeTls ∈ cfg.bypassMethod :=
    List.contains_iff_mem.mp (Bool.and_eq_true_iff.mp hc).1
  refine ⟨congrArg DecoyPacket.repeats (h.decoys hn hc ⟨0, 0⟩), ?_⟩
  refine chainDelay_exact (Config.validParams h.valid) fun state => ?_
  exact congrArg DecoyPacket.delayMs (h.decoys hn hc ⟨0, state⟩)

/-- Methods that answer alike were built from settings the wire
carries. -/
theorem carried (h : Compared cfg freshSeed m m') :
    CarriedSettings cfg where
  fakeTls := h.fakeTls
  decoy := h.decoy
  alone hn hc := (h.lone hn hc).2.2.2
  ipFrag := h.ipFrag
  disorder := h.disorder
  seqovl := h.seqovl

end Compared

-- ============================================================ both ways

/-- The value behind `low_ttl_handle()` of a method the data plane built
itself. -/
def ownLowTtlHandle (cfg : Config) (m : CompositeMethod Member) :
    Option UInt8 :=
  m.handshakeMethods.findSome? fun
    | .lowTtl _ => some cfg.lowTtlValue
    | _ => none

/-- The TTL a method starts from is carried. -/
theorem freshLowTtlHandle_eq {cfg : Config} (hv : cfg.ValidList)
    {freshSeed : MethodName → UInt64} {m m' : CompositeMethod Member}
    (hb : BuiltFrom cfg freshSeed m)
    (hb' : BuiltFrom (helperConfig cfg) freshSeed m')
    (interfaceIp : Ipv4Addr) (remoteIp : Option Ipv4Addr)
    (remotePort : UInt16) :
    freshLowTtlHandle
        (interceptorConfig cfg interfaceIp remoteIp remotePort).method m'
      = ownLowTtlHandle cfg m := by
  unfold freshLowTtlHandle ownLowTtlHandle
  rw [hb.handshakeMethods, hb'.handshakeMethods,
    helperConfig_bypassMethod hv]
  induction cfg.bypassMethod with
  | nil => rfl
  | cons n l ih =>
      cases n with
      | lowTtl => rfl
      | _ => exact ih

/-- The method the helper builds from the wire record starts from the
same TTL and answers every flow state and packet like the one the data
plane builds, exactly when the settings the record does not carry are at
their defaults. -/
theorem helper_method_alike_iff (cfg : Config)
    (hv : cfg.validate = .ok ())
    (hreq : cfg.bypassMethod.requiresInterceptor = true)
    (freshSeed : MethodName → UInt64) (interfaceIp : Ipv4Addr)
    (remoteIp : Option Ipv4Addr) (remotePort : UInt16) :
    (∃ m m', buildMethod cfg freshSeed = some m
      ∧ buildWireMethod
          (interceptorConfig cfg interfaceIp remoteIp remotePort).method
          freshSeed = some m'
      ∧ freshLowTtlHandle
          (interceptorConfig cfg interfaceIp remoteIp remotePort).method m'
        = ownLowTtlHandle cfg m
      ∧ Alike m m')
    ↔ CarriedSettings cfg := by
  have hlist := Config.validList hv
  have hparams := Config.validParams hv
  have hlisted := helperConfig_bypassMethod hlist
  constructor
  · intro hgiven
    obtain ⟨m, m', hm, hm', -, halike⟩ := hgiven
    exact Compared.carried
      ⟨hv, build_spec hm, @build_spec (helperConfig cfg) _ _ hm', halike⟩
  · intro h
    obtain ⟨m, hm⟩ := build_isSome hlist hreq freshSeed
    obtain ⟨m', hm'⟩ := build_isSome (helperConfig_validList hlist)
      (by rw [hlisted]; exact hreq) freshSeed
    have hb := build_spec hm
    have hb' := build_spec hm'
    refine ⟨m, m', hm, hm',
      freshLowTtlHandle_eq hlist hb hb' interfaceIp remoteIp remotePort, ?_⟩
    exact alike_of_members hb hb' hlisted
      (fun n _ => handshakeMember_helperConfig cfg n)
      (dataMember_of_carried hlist hparams h freshSeed)

/-- A chained decoy and an IP fragmenter, with the default settings. -/
theorem default_chain_alike :
    ∃ m m', buildMethod { bypassMethod := [.fakeTls, .ipFrag] } (fun _ => 0)
        = some m
      ∧ buildWireMethod (interceptorConfig
          { bypassMethod := [.fakeTls, .ipFrag] } 0x0A000001 none
          connectPort).method (fun _ => 0) = some m'
      ∧ Alike m m' := by
  obtain ⟨m, m', hm, hm', -, halike⟩ :=
    (helper_method_alike_iff { bypassMethod := [.fakeTls, .ipFrag] } rfl rfl
      (fun _ => 0) 0x0A000001 none connectPort).mpr {
        fakeTls := fun _ => ⟨rfl, rfl, rfl, rfl⟩
        decoy := fun _ => ⟨rfl, rfl⟩
        alone := fun _ _ => rfl
        ipFrag := fun _ => ⟨rfl, rfl⟩
        disorder := fun h => absurd h (by decide)
        seqovl := fun h => absurd h (by decide) }
  exact ⟨m, m', hm, hm', halike⟩

/-- Three segments are configured and two arrive: the probe leaves the
data plane's own method with one request, the helper's with another. -/
theorem disorder_segments_lost :
    Config.validate { bypassMethod := [.disorder], disorderSegments := 3 }
      = .ok () ∧
    BypassMethodList.requiresInterceptor [.disorder] = true ∧
    ∃ m m' v v',
      buildMethod { bypassMethod := [.disorder], disorderSegments := 3 }
        (fun _ => 0) = some m
      ∧ buildWireMethod (interceptorConfig
          { bypassMethod := [.disorder], disorderSegments := 3 } 0x0A000001
          none connectPort).method (fun _ => 0) = some m'
      ∧ m.onFirstDataPacket ⟨0, 0⟩ probeFlow probe.view
        = .ok (.emitAndComplete, v)
      ∧ m'.onFirstDataPacket ⟨0, 0⟩ probeFlow probe.view
        = .ok (.emitAndComplete, v')
      ∧ v.disorderSpec = some ⟨3, true, 0, none⟩
      ∧ v'.disorderSpec = some ⟨2, true, 0, none⟩
      ∧ ¬ Alike m m' := by
  refine ⟨rfl, rfl, _, _, _, _, rfl, rfl, rfl, rfl, rfl, rfl, ?_⟩
  intro halike
  have hsame := (halike ⟨0, 0⟩ probeFlow probe.view).2
  have hviews := (Prod.mk.inj (Except.ok.inj hsame)).2
  have hspec := congrArg PacketView.disorderSpec hviews
  cases hspec

end ZeroDpi.Helper
