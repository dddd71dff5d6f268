/-
What a validated configuration promises about its method list.

`Config.validate` is a chain of `bailIf` checks; success means every
check found nothing (`bailIf_bind`). The promises the packet pipeline
relies on are collected in `ValidList`, so that no later proof reads the
check chain.
-/
import ZeroDpi.Config.Validate
import ZeroDpi.Lib.Run

namespace ZeroDpi

open Lib

namespace Config

theorem bailIf_eq_ok {bad : Bool} {message : String} :
    bailIf bad message = .ok () ↔ bad = false :=
  ite_error_eq_ok

/-- A passed check found nothing, and the rest ran. -/
theorem bailIf_bind {α : Type} {bad : Bool} {message : String}
    {f : Unit → Except String α} {r : α} :
    (bailIf bad message >>= f) = .ok r ↔ bad = false ∧ f () = .ok r :=
  check_bind_eq_ok bailIf_eq_ok

/-- The duplicate-and-membership scan: base methods only, none twice,
none already seen. -/
theorem checkMethodNames_ok {unknown duplicate : MethodName → String} :
    ∀ {l seen : List MethodName},
      checkMethodNames unknown duplicate seen l = .ok () →
        (∀ m ∈ l, m ∈ baseBypassMethods) ∧ l.Nodup ∧ ∀ m ∈ l, m ∉ seen := by
  intro l
  induction l with
  | nil =>
      intro seen _
      simp
  | cons m rest ih =>
      intro seen h
      unfold checkMethodNames at h
      split at h
      · cases h
      case isFalse hbase =>
        split at h
        · cases h
        case isFalse hseen =>
          obtain ⟨hrest, hnodup, hnew⟩ := ih h
          have hbase : m ∈ baseBypassMethods := by simpa using hbase
          refine ⟨?_, ?_, ?_⟩
          · simpa using ⟨hbase, hrest⟩
          · refine List.nodup_cons.mpr ⟨fun hm => ?_, hnodup⟩
            exact hnew m hm List.mem_cons_self
          · intro x hx
            rcases List.mem_cons.mp hx with rfl | hx
            · exact hseen
            · exact fun hs => hnew x hx (List.mem_cons_of_mem _ hs)

/-- What `validate` promises about the method list and the parameters
the methods are built from. -/
structure ValidList (cfg : Config) : Prop where
  nonempty : cfg.bypassMethod ≠ []
  base : ∀ m ∈ cfg.bypassMethod, m ∈ baseBypassMethods
  nodup : cfg.bypassMethod.Nodup
  urgAlone : .urgSniSplit ∈ cfg.bypassMethod →
    ∀ m ∈ cfg.bypassMethod, m = .urgSniSplit ∨ m = .tlsFrag
  oneShaper :
    ([.ipFrag, .disorder, .seqovl].filter cfg.bypassMethod.contains).length
      ≤ 1
  chainedForwards : cfg.bypassMethod.contains .fakeTls = true →
    (cfg.bypassMethod.contains .tlsRecordFrag = true
      ∨ [.ipFrag, .disorder, .seqovl].filter cfg.bypassMethod.contains ≠ [])
      → cfg.fakeTlsForwardReal = true

theorem validList_of_validateMethodList {cfg : Config}
    (h : cfg.validateMethodList = .ok ()) : cfg.ValidList := by
  simp only [validateMethodList, bailIf_bind] at h
  obtain ⟨hne, h⟩ := h
  obtain ⟨⟨⟩, hnames, h⟩ := bind_eq_ok.mp h
  obtain ⟨hbase, hnodup, -⟩ := checkMethodNames_ok hnames
  simp only [bailIf_bind, bailIf_eq_ok] at h
  obtain ⟨-, hurg, -, hshapers, -, hchain⟩ := h
  refine ⟨?_, hbase, hnodup, ?_, ?_, ?_⟩
  · simpa using hne
  · intro hmem m hm
    simp only [List.contains_eq_mem, hmem, decide_true, Bool.true_and,
      Bool.and_eq_false_iff, decide_eq_false_iff_not,
      Bool.not_eq_false', List.all_eq_true, Bool.or_eq_true,
      beq_iff_eq] at hurg
    rcases hurg with hlen | hall
    · -- a one-entry list is the entry itself
      have hone : cfg.bypassMethod.length = 1 := by
        have := List.length_pos_of_mem hm
        omega
      obtain ⟨a, ha⟩ := List.length_eq_one_iff.mp hone
      rw [ha, List.mem_singleton] at hmem hm
      exact .inl (hm.trans hmem.symm)
    · exact hall m hm
  · simpa using hshapers
  · intro hfake hother
    simp only [hfake, Bool.true_and, Bool.and_eq_false_iff,
      Bool.or_eq_false_iff, Bool.not_eq_false', List.isEmpty_iff] at hchain
    rcases hchain with ⟨hfrag, hnone⟩ | hforward
    · rcases hother with hfrag' | hsome
      · rw [hfrag] at hfrag'
        cases hfrag'
      · exact absurd hnone hsome
    · exact hforward

/-- A list names one emission shaper at most. -/
theorem ValidList.shaper_unique {cfg : Config} (hv : cfg.ValidList)
    {n n' : MethodName} (hn : n ∈ [.ipFrag, .disorder, .seqovl])
    (hmem : n ∈ cfg.bypassMethod) (hn' : n' ∈ [.ipFrag, .disorder, .seqovl])
    (hmem' : n' ∈ cfg.bypassMethod) : n = n' := by
  have hin : n ∈ [.ipFrag, .disorder, .seqovl].filter
      cfg.bypassMethod.contains :=
    List.mem_filter.mpr ⟨hn, List.contains_iff_mem.mpr hmem⟩
  have hin' : n' ∈ [.ipFrag, .disorder, .seqovl].filter
      cfg.bypassMethod.contains :=
    List.mem_filter.mpr ⟨hn', List.contains_iff_mem.mpr hmem'⟩
  have hone := hv.oneShaper
  generalize [.ipFrag, .disorder, .seqovl].filter
    cfg.bypassMethod.contains = shapers at hin hin' hone
  obtain ⟨only, rfl⟩ : ∃ only, shapers = [only] :=
    List.length_eq_one_iff.mp
      (Nat.le_antisymm hone (List.length_pos_of_mem hin))
  rw [List.mem_singleton.mp hin, List.mem_singleton.mp hin']

/-- The five check runs all passed. -/
theorem validate_parts {cfg : Config} (h : cfg.validate = .ok ()) :
    cfg.validateLimits = .ok () ∧ cfg.validateMethodList = .ok ()
      ∧ cfg.validateInterceptorParams = .ok ()
      ∧ cfg.validateSocketParams = .ok () ∧ cfg.validateMode = .ok () := by
  simp only [validate] at h
  obtain ⟨⟨⟩, h1, h⟩ := bind_eq_ok.mp h
  obtain ⟨⟨⟩, h2, h⟩ := bind_eq_ok.mp h
  obtain ⟨⟨⟩, h3, h⟩ := bind_eq_ok.mp h
  obtain ⟨⟨⟩, h4, h5⟩ := bind_eq_ok.mp h
  exact ⟨h1, h2, h3, h4, h5⟩

theorem validList {cfg : Config} (h : cfg.validate = .ok ()) :
    cfg.ValidList :=
  validList_of_validateMethodList (validate_parts h).2.1

/-- What `validate` promises about the parameters of the interceptor
methods. -/
structure ValidParams (cfg : Config) : Prop where
  chainDelay : 0 ≤ cfg.fakeTlsChainDelayMs.min
    ∧ cfg.fakeTlsChainDelayMs.max ≤ maxFakeTlsChainDelayMs
  checksumDelta : cfg.wrongChecksumDelta ≠ 0
  ackOffset : cfg.wrongAckOffset ≠ 0
  timestampOffset : cfg.wrongTimestampOffset ≠ 0
  lowTtl : cfg.lowTtlValue ≠ 0 ∧ cfg.lowTtlValue ≤ 64
  recordFragSize : 0 < cfg.tlsRecordFragSize
  disorderSegments : 2 ≤ cfg.disorderSegments
  /-- A pattern that is set parses. -/
  pattern : ∀ raw, cfg.seqovlPattern = some raw →
    ∃ bytes, parseHexPattern raw = .ok bytes
      ∧ ∀ size, cfg.seqovlSize = some size → size = bytes.length

theorem validateAtLeast_eq_ok {r : Int32Range} {field : String}
    {minValue : Int32} :
    r.validateAtLeast field minValue = .ok () ↔ minValue ≤ r.min := by
  unfold Int32Range.validateAtLeast
  by_cases h : r.min < minValue
  · rw [if_pos h]
    constructor
    · intro hok
      cases hok
    · intro hle
      exact absurd h (Int32.not_lt.mpr hle)
  · rw [if_neg h]
    exact ⟨fun _ => Int32.not_lt.mp h, fun _ => rfl⟩

/-- A passed range check bounds the range, and the rest ran. -/
theorem validateAtLeast_bind {α : Type} {r : Int32Range} {field : String}
    {minValue : Int32} {f : Unit → Except String α} {x : α} :
    (r.validateAtLeast field minValue >>= f) = .ok x
      ↔ minValue ≤ r.min ∧ f () = .ok x :=
  check_bind_eq_ok validateAtLeast_eq_ok

theorem validParams_of_validateInterceptorParams {cfg : Config}
    (h : cfg.validateInterceptorParams = .ok ()) : cfg.ValidParams := by
  simp only [validateInterceptorParams, bailIf_bind,
    validateAtLeast_bind] at h
  obtain ⟨-, hmin, hmax, hdelta, hack, hstamp, httl, httlMax, -, -, -,
    hsize, -, -, hsegments, -, h⟩ := h
  refine {
    chainDelay := ⟨hmin, ?_⟩
    checksumDelta := by simpa using hdelta
    ackOffset := by simpa using hack
    timestampOffset := by simpa using hstamp
    lowTtl := ⟨by simpa using httl, by simpa using httlMax⟩
    recordFragSize := ?_
    disorderSegments := ?_
    pattern := ?_ }
  · simpa using hmax
  · have : cfg.tlsRecordFragSize ≠ 0 := by simpa using hsize
    omega
  · simp only [Bool.or_eq_false_iff, decide_eq_false_iff_not] at hsegments
    omega
  · intro raw hraw
    rw [hraw] at h
    cases hparse : parseHexPattern raw with
    | error e =>
        cases hset : cfg.seqovlSize with
        | none =>
            simp only [hset, hparse] at h
            obtain ⟨-, -, h⟩ := bind_eq_ok.mp h
            simp only [bailIf_bind] at h
            cases h.2.2
        | some size =>
            simp only [hset, hparse, bailIf_bind] at h
            cases h.2.2.2
    | ok bytes =>
        refine ⟨bytes, rfl, fun size hset => ?_⟩
        simp only [hset, hparse, bailIf_bind, bailIf_eq_ok] at h
        simpa using h.2.2.2.2

theorem validParams {cfg : Config} (h : cfg.validate = .ok ()) :
    cfg.ValidParams :=
  validParams_of_validateInterceptorParams (validate_parts h).2.2.1

end Config
end ZeroDpi
