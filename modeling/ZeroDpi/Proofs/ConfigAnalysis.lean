/-
When the analysis of a configuration returns: it throws exactly where the
text of a packet selector or of an integer range is a number, or has an end,
that is no `Long` (`analyze_returns`). The checks behind it convert the same
texts again, and convert them with success.
-/
import ZeroDpi.Android.ConfigAnalysis

namespace ZeroDpi.Android.ZeroDpiConfigToml

open Lib ZeroDpiConfigSchema

-- ================================================================== schema

/-- A field that is found has its name. -/
theorem fieldsByName_sound {name : String} {schema : ConfigFieldSchema}
    (h : fieldsByName name = some schema) :
    schema ∈ fields ∧ schema.name = name :=
  ⟨List.mem_of_find?_eq_some h, by simpa using List.find?_some h⟩

/-- Names are unique. -/
theorem eq_of_name_eq {schema schema' : ConfigFieldSchema}
    (h : schema ∈ fields) (h' : schema' ∈ fields)
    (hname : schema.name = schema'.name) : schema = schema' := by
  have hself := fieldsByName_self schema h
  rw [hname, fieldsByName_self schema' h'] at hself
  exact (Option.some.inj hself).symm

/-- Every default passes its own check. -/
theorem default_accepted : ∀ schema ∈ fields,
    ((parseValue schema schema.defaultValue).toOption.map (·.issue))
      = some none := by
  decide +kernel

/-- No default throws. -/
theorem defaultValueFor_returns {schema : ConfigFieldSchema}
    (h : schema ∈ fields) : ∃ value, defaultValueFor schema = .ok value := by
  have haccepted := default_accepted schema h
  unfold defaultValueFor
  cases hparse : parseValue schema schema.defaultValue with
  | error e =>
      rw [hparse] at haccepted
      cases haccepted
  | ok parsed => exact ⟨_, rfl⟩

-- ================================================================= numbers

/-- The numbers in the text of a field. -/
def rangeGroups (schema : ConfigFieldSchema) (value : List Char) :
    Option (List Char × Option (List Char)) :=
  match schema.type with
  | .packetSelector => packetRangePattern (Kotlin.trim value)
  | .integerRange => integerRangePattern (Kotlin.trim value)
  | _ => none

/-- One of the numbers is no `Long`. -/
def Overlong (schema : ConfigFieldSchema) (value : List Char) : Prop :=
  ∃ first second, rangeGroups schema value = some (first, second)
    ∧ (Kotlin.toLongOrNull first = none
      ∨ ∃ stop, second = some stop ∧ Kotlin.toLongOrNull stop = none)

/-- The numbers of a range are `Long`s. -/
def Fits (groups : List Char × Option (List Char)) : Prop :=
  ∃ ends, rangeEnds groups = .ok ends

/-- `toLong`, where it returns. -/
theorem toLong_eq_ok {s : List Char} {n : Int}
    (h : Kotlin.toLongOrNull s = some n) : toLong s = .ok n := by
  unfold toLong
  rw [h]

/-- And where it throws. -/
theorem toLong_eq_error {s : List Char}
    (h : Kotlin.toLongOrNull s = none) : toLong s = .error ⟨s⟩ := by
  unfold toLong
  rw [h]

/-- Both ends are a `Long`. -/
theorem fits_iff (first : List Char) (second : Option (List Char)) :
    Fits (first, second)
      ↔ ¬ (Kotlin.toLongOrNull first = none
        ∨ ∃ stop, second = some stop ∧ Kotlin.toLongOrNull stop = none) := by
  cases hfirst : Kotlin.toLongOrNull first with
  | none =>
      refine ⟨fun ⟨ends, h⟩ => ?_, fun h => absurd (.inl rfl) h⟩
      simp [rangeEnds, toLong_eq_error hfirst, bind, Except.bind] at h
  | some start =>
      cases second with
      | none =>
          refine ⟨fun _ => by simp, fun _ => ⟨(start, start), ?_⟩⟩
          simp [rangeEnds, toLong_eq_ok hfirst, bind, Except.bind, pure,
            Except.pure]
      | some stop =>
          cases hstop : Kotlin.toLongOrNull stop with
          | none =>
              refine ⟨fun ⟨ends, h⟩ => ?_,
                fun h => absurd (.inr ⟨stop, rfl, hstop⟩) h⟩
              simp [rangeEnds, toLong_eq_ok hfirst, toLong_eq_error hstop,
                bind, Except.bind] at h
          | some n =>
              refine ⟨fun _ => by simp [hstop], fun _ => ⟨(start, n), ?_⟩⟩
              simp [rangeEnds, toLong_eq_ok hfirst, toLong_eq_ok hstop,
                bind, Except.bind, pure, Except.pure]

/-- A range is validated unless an end is too long. -/
theorem validateIntegerRange_returns (value : List Char) (min : Int) :
    (∃ issue, validateIntegerRange value min = .ok issue)
      ↔ ∀ groups, integerRangePattern (Kotlin.trim value) = some groups →
        Fits groups := by
  unfold validateIntegerRange
  cases integerRangePattern (Kotlin.trim value) with
  | none => exact ⟨fun _ => nofun, fun _ => ⟨_, rfl⟩⟩
  | some groups =>
      simp only [Option.some.injEq, forall_eq']
      unfold Fits
      cases rangeEnds groups with
      | error e => simp [bind, Except.bind]
      | ok ends => simp [bind, Except.bind, pure, Except.pure]

/-- Likewise. -/
theorem validatePacketSelector_returns (value : List Char) :
    (∃ issue, validatePacketSelector value = .ok issue)
      ↔ ∀ groups, packetRangePattern (Kotlin.trim value) = some groups →
        Fits groups := by
  unfold validatePacketSelector
  by_cases hword : Kotlin.trim value = "tlshello".toList
  · rw [if_pos hword, hword]
    have hnone : packetRangePattern "tlshello".toList = none := by
      decide
    rw [hnone]
    exact ⟨fun _ => nofun, fun _ => ⟨_, rfl⟩⟩
  · rw [if_neg hword]
    cases packetRangePattern (Kotlin.trim value) with
    | none => exact ⟨fun _ => nofun, fun _ => ⟨_, rfl⟩⟩
    | some groups =>
        simp only [Option.some.injEq, forall_eq']
        unfold Fits
        cases rangeEnds groups with
        | error e => simp [bind, Except.bind]
        | ok ends => simp [bind, Except.bind, pure, Except.pure]

/-- What it means not to be overlong. -/
theorem not_overlong_iff (schema : ConfigFieldSchema) (value : List Char) :
    ¬ Overlong schema value
      ↔ ∀ groups, rangeGroups schema value = some groups → Fits groups := by
  constructor
  · rintro h ⟨first, second⟩ hgroups
    exact (fits_iff first second).mpr fun hlong =>
      h ⟨first, second, hgroups, hlong⟩
  · rintro h ⟨first, second, hgroups, hlong⟩
    exact (fits_iff first second).mp (h _ hgroups) hlong

/-- The check of a value returns unless a number in it is too long. -/
theorem parseValue_returns (schema : ConfigFieldSchema) (value : List Char) :
    (∃ parsed, parseValue schema value = .ok parsed)
      ↔ ¬ Overlong schema value := by
  rw [not_overlong_iff]
  have hmap : ∀ checked : Except NumberFormatException (Option String),
      (∃ parsed, checked.map (ParsedConfigValue.ofIssue value) = .ok parsed)
        ↔ ∃ issue, checked = .ok issue := by
    intro checked
    cases checked with
    | error e => simp [Except.map]
    | ok issue => simp [Except.map]
  unfold parseValue rangeGroups
  cases schema.type with
  | packetSelector =>
      exact (hmap _).trans (validatePacketSelector_returns value)
  | integerRange =>
      exact (hmap _).trans (validateIntegerRange_returns value longMin)
  | stringList =>
      simp only
      cases parseTomlStringArray value with
      | none => exact ⟨fun _ => nofun, fun _ => ⟨_, rfl⟩⟩
      | some items => exact ⟨fun _ => nofun, fun _ => ⟨_, rfl⟩⟩
  | enum =>
      simp only
      by_cases hoption : schema.options.contains (String.ofList value) = true
      · rw [if_pos hoption]
        exact ⟨fun _ => nofun, fun _ => ⟨_, rfl⟩⟩
      · rw [if_neg hoption]
        exact ⟨fun _ => nofun, fun _ => ⟨_, rfl⟩⟩
  | text => exact ⟨fun _ => nofun, fun _ => ⟨_, rfl⟩⟩
  | optionalText => exact ⟨fun _ => nofun, fun _ => ⟨_, rfl⟩⟩
  | boolean => exact ⟨fun _ => nofun, fun _ => ⟨_, rfl⟩⟩
  | uint8 => exact ⟨fun _ => nofun, fun _ => ⟨_, rfl⟩⟩
  | uint16 => exact ⟨fun _ => nofun, fun _ => ⟨_, rfl⟩⟩
  | uint32 => exact ⟨fun _ => nofun, fun _ => ⟨_, rfl⟩⟩
  | uint64 => exact ⟨fun _ => nofun, fun _ => ⟨_, rfl⟩⟩
  | usize => exact ⟨fun _ => nofun, fun _ => ⟨_, rfl⟩⟩
  | float => exact ⟨fun _ => nofun, fun _ => ⟨_, rfl⟩⟩
  | multiSelect => exact ⟨fun _ => nofun, fun _ => ⟨_, rfl⟩⟩

-- ============================================================= accepted values

/-- A check accepts a value or says what is wrong with it, not both. -/
inductive Decided : ParsedConfigValue → Prop where
  | accepted (value : ConfigValue) : Decided ⟨some value, none⟩
  | refused (issue : String) : Decided ⟨none, some issue⟩

/-- A parsed value has a value or an issue, whatever its type. -/
theorem decided_ofIssue (text : List Char) (issue : Option String) :
    Decided (ParsedConfigValue.ofIssue text issue) := by
  cases issue with
  | none => exact .accepted _
  | some issue => exact .refused issue

theorem decided_parseIntegerValue (schema : ConfigFieldSchema)
    (text : List Char) (min max : Int) :
    Decided (parseIntegerValue schema text min max) := by
  unfold parseIntegerValue
  split
  · exact .refused _
  · split
    · exact .refused _
    · exact .accepted _

theorem decided_parseMethods (schema : ConfigFieldSchema)
    (text : List Char) : Decided (parseMethods schema text) := by
  unfold parseMethods
  split
  · exact .refused _
  · simp only
    split
    · exact .refused _
    · split
      · exact .refused _
      · split
        · exact .refused _
        · exact .accepted _

theorem decided_parseBoolean (schema : ConfigFieldSchema)
    (text : List Char) : Decided (parseBoolean schema text) := by
  unfold parseBoolean
  simp only
  split
  · exact .accepted _
  · split
    · exact .accepted _
    · exact .refused _

theorem decided_parseFloat (schema : ConfigFieldSchema)
    (text : List Char) : Decided (parseFloat schema text) := by
  unfold parseFloat
  split
  · exact .refused _
  · split
    · exact .accepted _
    · exact .refused _

/-- Of any type. -/
theorem decided_of_parseValue {schema : ConfigFieldSchema}
    {text : List Char} {parsed : ParsedConfigValue}
    (h : parseValue schema text = .ok parsed) : Decided parsed := by
  have hmap : ∀ {checked : Except NumberFormatException (Option String)},
      checked.map (ParsedConfigValue.ofIssue text) = .ok parsed →
        Decided parsed := by
    rintro (e | issue) hok
    · cases hok
    · cases hok
      exact decided_ofIssue text issue
  unfold parseValue at h
  cases htype : schema.type with
  | packetSelector =>
      rw [htype] at h
      exact hmap h
  | integerRange =>
      rw [htype] at h
      exact hmap h
  | stringList =>
      simp only [htype] at h
      split at h
      · cases h
        exact .refused _
      · cases h
        exact .accepted _
  | enum =>
      simp only [htype] at h
      split at h
      · cases h
        exact .accepted _
      · cases h
        exact .refused _
  | text =>
      rw [htype] at h
      cases h
      exact .accepted _
  | optionalText =>
      rw [htype] at h
      cases h
      exact .accepted _
  | multiSelect =>
      rw [htype] at h
      cases h
      exact decided_parseMethods schema text
  | boolean =>
      rw [htype] at h
      cases h
      exact decided_parseBoolean schema text
  | float =>
      rw [htype] at h
      cases h
      exact decided_parseFloat schema text
  | _ =>
      rw [htype] at h
      cases h
      exact decided_parseIntegerValue schema text _ _

/-- The text of an accepted range is its value. -/
theorem value_of_integerRange {schema : ConfigFieldSchema}
    (htype : schema.type = .integerRange) {text : List Char}
    {value : ConfigValue}
    (h : parseValue schema text = .ok ⟨some value, none⟩) :
    value = .text text := by
  unfold parseValue at h
  rw [htype] at h
  simp only at h
  cases hcheck : validateIntegerRange text longMin with
  | error e =>
      rw [hcheck] at h
      cases h
  | ok issue =>
      rw [hcheck] at h
      cases issue with
      | none =>
          cases h
          rfl
      | some issue => cases h

-- ============================================================ the first loop

/-- The text of a field, or its default. -/
def textOf (fieldText : String → Option (List Char))
    (schema : ConfigFieldSchema) : List Char :=
  (fieldText schema.name).getD schema.defaultValue

/-- The value of a field that is not invalid is what its check made of its
text. -/
def Settled (fieldText : String → Option (List Char)) (analysis : Analysis)
    (schema : ConfigFieldSchema) : Prop :=
  schema.name ∉ analysis.invalidFields →
    ∃ value, parseValue schema (textOf fieldText schema)
        = .ok ⟨some value, none⟩
      ∧ analysis.values schema.name = some value

/-- Nothing is said about `name`. -/
def Untouched (name : String) (before after : Analysis) : Prop :=
  after.values name = before.values name
    ∧ (name ∈ after.invalidFields ↔ name ∈ before.invalidFields)

variable {fieldText : String → Option (List Char)}

/-- A field that is not overlong is settled. -/
theorem analyzeField_returns {analysis : Analysis}
    {schema : ConfigFieldSchema} (hmem : schema ∈ fields)
    (h : ¬ Overlong schema (textOf fieldText schema)) :
    ∃ after, analyzeField fieldText analysis schema = .ok after
      ∧ Settled fieldText after schema
      ∧ ∀ name, name ≠ schema.name → Untouched name analysis after := by
  obtain ⟨parsed, hparsed⟩ := (parseValue_returns schema _).mpr h
  have hother : ∀ {name : String} (value : ConfigValue),
      name ≠ schema.name →
        (if name = schema.name then some value else analysis.values name)
          = analysis.values name := fun _ hne => if_neg hne
  unfold analyzeField
  unfold textOf at hparsed
  simp only [hparsed]
  cases decided_of_parseValue hparsed with
  | accepted value =>
      refine ⟨_, rfl, fun _ => ⟨value, hparsed, if_pos rfl⟩, ?_⟩
      exact fun name hne => ⟨hother value hne, Iff.rfl⟩
  | refused issue =>
      obtain ⟨value, hvalue⟩ := defaultValueFor_returns hmem
      simp only [hvalue]
      refine ⟨_, rfl, fun hvalid => absurd List.mem_cons_self hvalid, ?_⟩
      refine fun name hne => ⟨hother value hne, ?_⟩
      simp [hne]

/-- And stays so. -/
theorem Settled.of_untouched {before after : Analysis}
    {schema : ConfigFieldSchema} (h : Settled fieldText before schema)
    (hsame : Untouched schema.name before after) :
    Settled fieldText after schema := by
  intro hvalid
  rw [hsame.2] at hvalid
  rw [hsame.1]
  exact h hvalid

/-- The loop over some of the fields settles them, and touches no other. -/
theorem analyzeFields_returns {schemas : List ConfigFieldSchema}
    {analysis : Analysis} (hmem : ∀ schema ∈ schemas, schema ∈ fields)
    (h : ∀ schema ∈ schemas, ¬ Overlong schema (textOf fieldText schema)) :
    ∃ after, analyzeFields fieldText analysis schemas = .ok after
      ∧ (∀ schema ∈ schemas, Settled fieldText after schema)
      ∧ ∀ name, (∀ schema ∈ schemas, name ≠ schema.name) →
        Untouched name analysis after := by
  induction schemas generalizing analysis with
  | nil => exact ⟨analysis, rfl, nofun, fun _ _ => ⟨rfl, Iff.rfl⟩⟩
  | cons schema rest ih =>
      obtain ⟨hschema, hrest⟩ := List.forall_mem_cons.mp hmem
      obtain ⟨hfits, hrestFits⟩ := List.forall_mem_cons.mp h
      obtain ⟨between, hstep, hsettled, huntouched⟩ :=
        @analyzeField_returns fieldText analysis schema hschema hfits
      obtain ⟨after, hloop, hall, hothers⟩ := @ih between hrest hrestFits
      refine ⟨after, ?_, ?_, ?_⟩
      · simp only [analyzeFields, hstep]
        exact hloop
      · refine List.forall_mem_cons.mpr ⟨?_, hall⟩
        by_cases hagain : schema ∈ rest
        · exact hall schema hagain
        · refine hsettled.of_untouched (hothers _ fun other hother hname => ?_)
          rw [eq_of_name_eq hschema (hrest other hother) hname] at hagain
          exact hagain hother
      · intro name hne
        obtain ⟨hneSchema, hneRest⟩ := List.forall_mem_cons.mp hne
        obtain ⟨hvalues, hinvalid⟩ := huntouched name hneSchema
        obtain ⟨hvalues', hinvalid'⟩ := hothers name hneRest
        exact ⟨hvalues'.trans hvalues, hinvalid'.trans hinvalid⟩

/-- If all were analyzed, none was overlong. -/
theorem not_overlong_of_analyzeFields {schemas : List ConfigFieldSchema}
    {analysis after : Analysis}
    (h : analyzeFields fieldText analysis schemas = .ok after) :
    ∀ schema ∈ schemas, ¬ Overlong schema (textOf fieldText schema) := by
  induction schemas generalizing analysis with
  | nil => exact nofun
  | cons schema rest ih =>
      simp only [analyzeFields] at h
      cases hstep : analyzeField fieldText analysis schema with
      | error e =>
          rw [hstep] at h
          cases h
      | ok between =>
          rw [hstep] at h
          refine List.forall_mem_cons.mpr ⟨?_, ih h⟩
          rw [← parseValue_returns]
          unfold analyzeField at hstep
          unfold textOf
          cases hparse : parseValue schema
              ((fieldText schema.name).getD schema.defaultValue) with
          | error e =>
              simp only [hparse] at hstep
              cases hstep
          | ok parsed => exact ⟨parsed, rfl⟩

-- ================================================= the checks of the engine

/-- The checks do not throw. -/
def Returns (checks : Checks) : Prop := ∃ issues, checks = .ok issues

/-- Issues that are given. -/
theorem returns_ok (issues : List ConfigValidationIssue) :
    Returns (.ok issues) := ⟨issues, rfl⟩

/-- One check after the other. -/
theorem inOrder_returns {checks : List Checks}
    (h : ∀ check ∈ checks, Returns check) : Returns (inOrder checks) := by
  induction checks with
  | nil => exact returns_ok []
  | cons check rest ih =>
      obtain ⟨⟨found, hfound⟩, hrest⟩ := List.forall_mem_cons.mp h
      obtain ⟨later, hlater⟩ := ih hrest
      simp only [inOrder, hfound, hlater]
      exact returns_ok _

section

variable {config : ZeroDpiConfig} {invalidFields : List String}

/-- A check that is skipped. -/
theorem whenValid_returns {fieldName : String} {validate : Checks}
    (h : fieldName ∉ invalidFields → Returns validate) :
    Returns (whenValid invalidFields fieldName validate) := by
  unfold whenValid
  by_cases hinvalid : fieldName ∈ invalidFields
  · rw [if_pos (List.contains_iff_mem.mpr hinvalid)]
    exact returns_ok []
  · rw [if_neg fun hmem => hinvalid (List.contains_iff_mem.mp hmem)]
    exact h hinvalid

/-- Issues of a valid field. -/
theorem valid_returns (fieldName : String)
    (issues : List ConfigValidationIssue) :
    Returns (whenValid invalidFields fieldName (.ok issues)) :=
  whenValid_returns fun _ => returns_ok issues

/-- A condition on a number. -/
theorem requireInteger_returns (fieldName : String)
    (condition : Int → Bool) (message : String) :
    Returns (requireInteger config invalidFields fieldName condition
      message) :=
  valid_returns fieldName _

/-- The numbers of a text are `Long`s. -/
def TextFits (text : List Char) : Prop :=
  ∀ groups, integerRangePattern (Kotlin.trim text) = some groups → Fits groups

/-- A range that is not overlong. -/
theorem rangeIssue_returns (fieldName : String) {text : List Char} (min : Int)
    (h : TextFits text) : Returns (rangeIssue fieldName text min) := by
  obtain ⟨issue, hissue⟩ := (validateIntegerRange_returns text min).mpr h
  unfold rangeIssue
  simp only [hissue]
  cases issue with
  | none => exact returns_ok _
  | some it => exact returns_ok _

/-- The two checks that call `toLong`: the delay, -/
theorem chainDelayChecks_returns
    (h : TextFits (config.text "FAKE_TLS_CHAIN_DELAY_MS")) :
    Returns (chainDelayChecks config) := by
  have htrim := (Kotlin.trimmed_trim
    (config.text "FAKE_TLS_CHAIN_DELAY_MS")).trim
  have hfits : TextFits (Kotlin.trim
      (config.text "FAKE_TLS_CHAIN_DELAY_MS")) := by
    unfold TextFits
    rwa [htrim]
  obtain ⟨issues, hissues⟩ :=
    rangeIssue_returns "FAKE_TLS_CHAIN_DELAY_MS" 0 hfits
  unfold chainDelayChecks
  simp only [hissues]
  cases integerRangePattern (Kotlin.trim
      (config.text "FAKE_TLS_CHAIN_DELAY_MS")) with
  | none => exact returns_ok _
  | some groups => exact returns_ok _

/-- and the padding. -/
theorem paddingSizeChecks_returns
    (h : TextFits (config.text "TLS_PADDING_SIZE")) :
    Returns (paddingSizeChecks config) := by
  obtain ⟨issues, hissues⟩ := rangeIssue_returns "TLS_PADDING_SIZE" 1 h
  unfold paddingSizeChecks
  simp only [hissues]
  cases hgroups : integerRangePattern
      (Kotlin.trim (config.text "TLS_PADDING_SIZE")) with
  | none => exact returns_ok _
  | some groups =>
      obtain ⟨first, second⟩ := groups
      have hlongs := (fits_iff first second).mp (h _ hgroups)
      have hstop : ∃ stop, toLong (second.getD first) = .ok stop := by
        unfold toLong
        cases second with
        | none =>
            cases hlong : Kotlin.toLongOrNull first with
            | none => exact absurd (.inl hlong) hlongs
            | some n => exact ⟨n, by simp [hlong]⟩
        | some text =>
            cases hlong : Kotlin.toLongOrNull text with
            | none => exact absurd (.inr ⟨text, rfl, hlong⟩) hlongs
            | some n => exact ⟨n, by simp [hlong]⟩
      obtain ⟨stop, hstop⟩ := hstop
      show Returns (do
        let stop ← toLong (second.getD first)
        return issues ++ requireField "TLS_PADDING_SIZE" (stop ≤ 16000)
          "TLS_PADDING_SIZE maximum must be <= 16000.")
      rw [hstop]
      exact returns_ok _

/-- The checks convert the texts of the range fields, and nothing else that
could throw. -/
theorem addRustValidationIssues_returns
    (h : ∀ schema ∈ fields, schema.type = .integerRange →
      schema.name ∉ invalidFields → TextFits (config.text schema.name)) :
    Returns (addRustValidationIssues config invalidFields) := by
  have hnamed : ∀ name, (fieldsByName name).map (·.type)
      = some .integerRange → name ∉ invalidFields →
        TextFits (config.text name) := by
    intro name htype hvalid
    obtain ⟨schema, hfound, hrange⟩ := Option.map_eq_some_iff.mp htype
    obtain ⟨hmem, rfl⟩ := fieldsByName_sound hfound
    exact h schema hmem hrange hvalid
  have hrange : ∀ name min, (fieldsByName name).map (·.type)
      = some .integerRange →
        Returns (requireRange config invalidFields name min) :=
    fun name min htype => whenValid_returns fun hvalid =>
      rangeIssue_returns name min (hnamed name htype hvalid)
  apply inOrder_returns
  simp only [rustValidationChecks, List.forall_mem_cons, returns_ok,
    valid_returns, requireInteger_returns, true_and]
  refine ⟨hrange _ _ (by decide), hrange _ _ (by decide),
    whenValid_returns fun hvalid => ?_, hrange _ _ (by decide),
    whenValid_returns fun hvalid => ?_, hrange _ _ (by decide), nofun⟩
  · exact chainDelayChecks_returns
      (hnamed _ (by decide) hvalid)
  · exact paddingSizeChecks_returns
      (hnamed _ (by decide) hvalid)

end

-- ============================================================== the analysis

theorem ok_bind {α β : Type} (a : α)
    (f : α → Except NumberFormatException β) : (Except.ok a >>= f) = f a := rfl

/-- What the editor shows for a field of a text. -/
def shownText (text : List Char) (schema : ConfigFieldSchema) : List Char :=
  textOf (parseFieldText text).fieldText schema

/-- The analysis returns unless a number in the text is too long, and shows
the fields as the text has them. -/
theorem analyze_returns (text : List Char) :
    (∃ state, analyze text = .ok state)
      ↔ ∀ schema ∈ fields, ¬ Overlong schema (shownText text schema) := by
  constructor
  · rintro ⟨state, h⟩
    unfold analyze at h
    cases hloop : analyzeFields (parseFieldText text).fieldText
        { issues := (parseFieldText text).issues
          invalidFields := (parseFieldText text).issues.filterMap (·.fieldName)
          values := fun _ => none } fields with
    | error e =>
        simp only [hloop] at h
        cases h
    | ok analysis => exact not_overlong_of_analyzeFields hloop
  · intro h
    obtain ⟨analysis, hloop, hsettled, -⟩ := @analyzeFields_returns
      (parseFieldText text).fieldText fields
      { issues := (parseFieldText text).issues
        invalidFields := (parseFieldText text).issues.filterMap (·.fieldName)
        values := fun _ => none } (fun _ hmem => hmem) h
    have hchecks : Returns (addRustValidationIssues ⟨analysis.values⟩
        analysis.invalidFields) := by
      apply addRustValidationIssues_returns
      intro schema hmem htype hvalid
      obtain ⟨value, hparse, hvalue⟩ := hsettled schema hmem hvalid
      have htext : (⟨analysis.values⟩ : ZeroDpiConfig).text schema.name
          = textOf (parseFieldText text).fieldText schema := by
        simp only [ZeroDpiConfig.text, hvalue,
          value_of_integerRange htype hparse]
      have hfits := (not_overlong_iff schema _).mp (h schema hmem)
      unfold rangeGroups at hfits
      rw [htype] at hfits
      rw [htext]
      exact hfits
    obtain ⟨issues, hissues⟩ := hchecks
    unfold analyze
    simp only [hloop, ok_bind, hissues]
    exact ⟨_, rfl⟩

/-- The texts that are shown are those of the lines. -/
theorem fieldText_of_analyze {text : List Char} {state : ConfigEditorState}
    (h : analyze text = .ok state) :
    state.fieldText = (parseFieldText text).fieldText := by
  unfold analyze at h
  cases hloop : analyzeFields (parseFieldText text).fieldText
      { issues := (parseFieldText text).issues
        invalidFields := (parseFieldText text).issues.filterMap (·.fieldName)
        values := fun _ => none } fields with
  | error e =>
      simp only [hloop] at h
      cases h
  | ok analysis =>
      simp only [hloop, ok_bind] at h
      cases hchecks : addRustValidationIssues ⟨analysis.values⟩
          analysis.invalidFields with
      | error e =>
          simp only [hchecks] at h
          cases h
      | ok issues =>
          simp only [hchecks] at h
          cases h
          rfl

end ZeroDpi.Android.ZeroDpiConfigToml
