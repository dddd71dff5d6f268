/-
A value that its check accepts, as `toTomlLiteral` writes it: the scanners
pass it (`literal_of_accepted`), and it is shown as it was
(`display_of_accepted`).

Texts are quoted; arrays and numbers stand as they are. A number has no quote
and no `#` in it, but a double may have line breaks around it, behind control
characters that `trim` leaves.
-/
import ZeroDpi.Proofs.TomlText
import ZeroDpi.Proofs.ConfigAnalysis

namespace ZeroDpi.Android.ZeroDpiConfigToml

open Lib Quoting ZeroDpiConfigSchema

/-- The check has nothing against the value. -/
def Accepts (schema : ConfigFieldSchema) (value : List Char) : Prop :=
  ∃ parsed, parseValue schema value = .ok parsed ∧ parsed.issue = none

/-- A text on one line. -/
def Unbroken (s : List Char) : Prop := ∀ c ∈ s, c ≠ '\n' ∧ c ≠ '\r'

/-- Fields that are arrays. -/
def isArray (schema : ConfigFieldSchema) : Prop :=
  schema.type = .multiSelect ∨ schema.type = .stringList

/-- How the editor shows a value that was put in. -/
def shownAs (schema : ConfigFieldSchema) (value : List Char) : List Char :=
  match schema.type with
  | .stringList =>
      canonicalStringArray ((parseTomlStringArray value).getD [])
  | .multiSelect =>
      canonicalMethodArray ((parseTomlStringArray value).getD [])
  | .text | .optionalText | .enum | .packetSelector => value
  | .integerRange =>
      if isPlainInteger (Kotlin.trim value) then Kotlin.trim value else value
  | .boolean | .uint8 | .uint16 | .uint32 | .uint64 | .usize | .float =>
      Kotlin.trim value

/-- A value that stands on its line as it should. -/
structure Written (schema : ConfigFieldSchema) (value : List Char) : Prop where
  literal : Literal (toTomlLiteral schema value)
  display : rawTomlToDisplay schema (toTomlLiteral schema value)
    = some (shownAs schema value)

-- =================================================================== quoted

theorem literal_quoteToml (value : List Char) : Literal (quoteToml value) where
  outside := outside_quoteToml value
  trimmed :=
    { front := by
        rintro c ⟨⟩
        decide
      back := by
        rintro c hc
        rw [quoteToml, ← List.cons_append, List.getLast?_concat] at hc
        cases hc
        decide }
  unbroken := by
    intro c hc
    simp only [quoteToml, List.mem_cons, List.mem_append, List.not_mem_nil,
      or_false] at hc
    rcases hc with rfl | hc | rfl
    · decide
    · exact unbroken_escapeTomlString value c hc
    · decide

-- ================================================================== numbers

theorem literal_trim {value : List Char}
    (h : Kotlin.Unquoted (Kotlin.trim value))
    (hunbroken : Unbroken (Kotlin.trim value)) :
    Literal (Kotlin.trim value) where
  outside := outside_of_plain h
  trimmed := Kotlin.trimmed_trim value
  unbroken := hunbroken

theorem unbroken_of_toLongOrNull {s : List Char} {n : Int}
    (h : Kotlin.toLongOrNull s = some n) : Unbroken s := by
  have hdigit : ∀ c, Kotlin.isDigit c = true → c ≠ '\n' ∧ c ≠ '\r' := by
    intro c hc
    constructor
    · rintro rfl
      exact absurd hc (by decide)
    · rintro rfl
      exact absurd hc (by decide)
  intro c hc
  rcases Kotlin.numeral_of_toSignedOrNull h c hc with rfl | rfl | hc
  · decide
  · decide
  · exact hdigit c hc

/-- The letters of a word in either case. -/
theorem letter_of_toAsciiLowercase {s : List Char} {word : List Char}
    (hword : ∀ c ∈ word, 'a' ≤ c ∧ c ≤ 'z')
    (h : Text.toAsciiLowercase s = word) :
    Kotlin.Unquoted s ∧ Unbroken s := by
  have hkept : ∀ c ∈ s, ¬ ('A' ≤ c ∧ c ≤ 'Z') → 'a' ≤ c ∧ c ≤ 'z' := by
    intro c hc hlower
    apply hword
    rw [← h, Text.toAsciiLowercase, List.mem_map]
    exact ⟨c, hc, if_neg hlower⟩
  have hletters : ∀ d ∈ ['"', '#', '\n', '\r'],
      ¬ ('A' ≤ d ∧ d ≤ 'Z') ∧ ¬ ('a' ≤ d ∧ d ≤ 'z') := by simp
  have hother : ∀ d ∈ ['"', '#', '\n', '\r'], d ∉ s := fun d hd hmem =>
    (hletters d hd).2 (hkept d hmem (hletters d hd).1)
  constructor
  · intro c hc
    constructor
    · rintro rfl
      exact hother '"' (by simp) hc
    · rintro rfl
      exact hother '#' (by simp) hc
  · intro c hc
    constructor
    · rintro rfl
      exact hother '\n' (by simp) hc
    · rintro rfl
      exact hother '\r' (by simp) hc

/-- The characters of `-?\d+`. -/
theorem isPlainInteger_chars {s : List Char} (h : isPlainInteger s = true) :
    ∀ c ∈ s, c = '-' ∨ c.isDigit = true := by
  unfold isPlainInteger at h
  cases hread : numeralBefore true s with
  | none => simp [hread] at h
  | some read =>
      obtain ⟨numeral, rest⟩ := read
      simp only [hread, List.isEmpty_iff] at h
      subst h
      have hdigits : ∀ body : List Char, body.dropWhile Char.isDigit = [] →
          ∀ c ∈ body, c = '-' ∨ c.isDigit = true := by
        intro body hbody c hc
        have hsplit := @List.takeWhile_append_dropWhile _ Char.isDigit body
        rw [hbody, List.append_nil] at hsplit
        rw [← hsplit] at hc
        exact .inr (List.all_eq_true.mp List.all_takeWhile c hc)
      unfold numeralBefore at hread
      split at hread
      case h_1 read sign body hsign =>
        have hrest : body.dropWhile Char.isDigit = [] := by
          simp only [Option.ite_none_left_eq_some, Option.some.injEq,
            Prod.mk.injEq] at hread
          exact hread.2.2
        split at hsign
        case h_1 body' =>
          cases hsign
          exact List.forall_mem_cons.mpr ⟨.inl rfl, hdigits _ hrest⟩
        case h_2 =>
          cases hsign
          exact hdigits _ hrest

theorem literal_plainInteger {s : List Char} (h : isPlainInteger s = true)
    (htrimmed : Kotlin.Trimmed s) : Literal s ∧ s.head? ≠ some '"' := by
  have hchars : ∀ c ∈ s, (c ≠ '"' ∧ c ≠ '#') ∧ c ≠ '\n' ∧ c ≠ '\r' := by
    intro c hc
    rcases isPlainInteger_chars h c hc with rfl | hdigit
    · decide
    · refine ⟨⟨?_, ?_⟩, ?_, ?_⟩
      all_goals
        rintro rfl
        exact absurd hdigit (by decide)
  refine ⟨⟨outside_of_plain fun c hc => (hchars c hc).1, htrimmed,
    fun c hc => (hchars c hc).2⟩, ?_⟩
  intro hhead
  exact (hchars '"' (List.mem_of_mem_head? hhead)).1.1 rfl

-- ================================================================= the values

/-- An accepted integer has a literal form, and is not empty. -/
theorem literal_of_parseIntegerValue {schema : ConfigFieldSchema}
    {value : List Char} {min max : Int}
    (h : (parseIntegerValue schema value min max).issue = none) :
    Literal (Kotlin.trim value) ∧ Kotlin.trim value ≠ [] := by
  unfold parseIntegerValue at h
  cases hlong : Kotlin.toLongOrNull (Kotlin.trim value) with
  | none => simp [hlong, ParsedConfigValue.refused] at h
  | some n =>
      refine ⟨literal_trim (Kotlin.unquoted_of_toSignedOrNull hlong)
        (unbroken_of_toLongOrNull hlong), ?_⟩
      intro hnil
      rw [hnil] at hlong
      cases hlong

theorem literal_of_parseBoolean {schema : ConfigFieldSchema}
    {value : List Char} (h : (parseBoolean schema value).issue = none) :
    Literal (Kotlin.trim value) ∧ Kotlin.trim value ≠ [] := by
  have hword : ∀ word : String, word ≠ "" →
      (∀ c ∈ word.toList, 'a' ≤ c ∧ c ≤ 'z') →
        Text.toAsciiLowercase (Kotlin.trim value) = word.toList →
          Literal (Kotlin.trim value) ∧ Kotlin.trim value ≠ [] := by
    intro word hne hletters hlower
    obtain ⟨hunquoted, hunbroken⟩ :=
      letter_of_toAsciiLowercase hletters hlower
    refine ⟨literal_trim hunquoted hunbroken, fun hnil => hne ?_⟩
    rw [hnil] at hlower
    exact String.toList_eq_nil_iff.mp hlower.symm
  unfold parseBoolean at h
  by_cases htrue : Text.toAsciiLowercase (Kotlin.trim value) = "true".toList
  · exact hword "true" (by decide) (by simp) htrue
  · by_cases hfalse : Text.toAsciiLowercase (Kotlin.trim value)
        = "false".toList
    · exact hword "false" (by decide) (by simp) hfalse
    · rw [if_neg htrue, if_neg hfalse] at h
      cases h

theorem literal_of_parseFloat {schema : ConfigFieldSchema}
    {value : List Char} (h : (parseFloat schema value).issue = none)
    (hunbroken : Unbroken (Kotlin.trim value)) :
    Literal (Kotlin.trim value) ∧ Kotlin.trim value ≠ [] := by
  unfold parseFloat at h
  cases hdouble : Kotlin.toDoubleOrNull (Kotlin.trim value) with
  | none => simp [hdouble, ParsedConfigValue.refused] at h
  | some d =>
      refine ⟨literal_trim (Kotlin.unquoted_of_toDoubleOrNull hdouble)
        hunbroken, ?_⟩
      intro hnil
      rw [hnil] at hdouble
      exact absurd hdouble (by simp [show Kotlin.toDoubleOrNull [] = none by
        decide])

theorem literal_of_array {value : List Char} {items : List (List Char)}
    (h : parseTomlStringArray value = some items) (hunbroken : Unbroken value) :
    Literal (Kotlin.trim value) where
  outside := outside_of_parseTomlStringArray h
  trimmed := Kotlin.trimmed_trim value
  unbroken := fun c hc => hunbroken c (Kotlin.mem_of_mem_trim hc)

theorem parseTomlStringArray_trim (value : List Char) :
    parseTomlStringArray (Kotlin.trim value) = parseTomlStringArray value := by
  unfold parseTomlStringArray
  rw [(Kotlin.trimmed_trim value).trim]

theorem bracket_of_parseTomlStringArray {value : List Char}
    {items : List (List Char)} (h : parseTomlStringArray value = some items) :
    (Kotlin.trim value).head? = some '[' := by
  unfold parseTomlStringArray at h
  split at h
  case h_1 rest heq => rw [heq]; rfl
  case h_2 => cases h

/-- No choice is an alias of methods. -/
theorem expandMethodAlias_option : ∀ schema ∈ fields,
    ∀ option ∈ schema.options,
      expandMethodAlias option.toList = [option.toList] := by
  decide +kernel

/-- The methods of an accepted list stand for themselves. -/
theorem methods_of_parseMethods {schema : ConfigFieldSchema}
    (hmem : schema ∈ fields) {value : List Char}
    (h : (parseMethods schema value).issue = none) :
    ∃ methods, parseTomlStringArray value = some methods
      ∧ methods.flatMap expandMethodAlias = methods := by
  unfold parseMethods at h
  cases hparse : parseTomlStringArray value with
  | none => simp [hparse, ParsedConfigValue.refused] at h
  | some methods =>
      refine ⟨methods, rfl, ?_⟩
      simp only [hparse] at h
      split at h
      · cases h
      · split at h
        · cases h
        case isFalse hinvalid =>
          have hoption : ∀ it ∈ methods, String.ofList it ∈ schema.options := by
            simpa using hinvalid
          have halias : ∀ it ∈ methods, expandMethodAlias it = [it] := by
            intro it hit
            have hself := expandMethodAlias_option schema hmem _
              (hoption it hit)
            rwa [String.toList_ofList] at hself
          rw [List.flatMap_def, List.map_congr_left halias, ← List.flatMap_def]
          exact List.flatMap_singleton' methods

-- =============================================================== every type

/-- Quoted texts. -/
theorem written_quoted {schema : ConfigFieldSchema}
    (htype : schema.type = .text ∨ schema.type = .optionalText
      ∨ schema.type = .enum ∨ schema.type = .packetSelector)
    (value : List Char) : Written schema value := by
  have hquote : ¬ (quoteToml value).head? ≠ some '"' := fun h => h rfl
  rcases htype with htype | htype | htype | htype
  all_goals
    constructor
    · simpa only [toTomlLiteral, htype] using literal_quoteToml value
    · simp only [toTomlLiteral, rawTomlToDisplay, shownAs, htype]
      rw [if_neg hquote]
      exact decodeTomlString_quoteToml value

/-- Booleans and numbers. -/
theorem written_plain {schema : ConfigFieldSchema}
    (htype : schema.type ∈ [ConfigFieldType.boolean, .uint8, .uint16, .uint32,
      .uint64, .usize, .float])
    {value : List Char}
    (h : Literal (Kotlin.trim value) ∧ Kotlin.trim value ≠ []) :
    Written schema value := by
  have hplain : toTomlLiteral schema value = Kotlin.trim value := by
    have hne : ¬ (Kotlin.trim value).isEmpty = true := by simpa using h.2
    simp only [List.mem_cons, List.not_mem_nil, or_false] at htype
    rcases htype with htype | htype | htype | htype | htype | htype | htype
    all_goals
      simp only [toTomlLiteral, htype]
      exact if_neg hne
  constructor
  · rw [hplain]
    exact h.1
  · rw [hplain]
    simp only [List.mem_cons, List.not_mem_nil, or_false] at htype
    rcases htype with htype | htype | htype | htype | htype | htype | htype
    all_goals simp only [rawTomlToDisplay, shownAs, htype]

theorem written_integerRange {schema : ConfigFieldSchema}
    (htype : schema.type = .integerRange) (value : List Char) :
    Written schema value := by
  by_cases hplain : isPlainInteger (Kotlin.trim value) = true
  · obtain ⟨hliteral, hquote⟩ :=
      literal_plainInteger hplain (Kotlin.trimmed_trim value)
    have hwritten : toTomlLiteral schema value = Kotlin.trim value := by
      simp only [toTomlLiteral, htype]
      exact if_pos hplain
    constructor
    · rwa [hwritten]
    · rw [hwritten]
      simp only [rawTomlToDisplay, shownAs, htype]
      rw [if_neg hquote, if_pos hplain]
  · have hwritten : toTomlLiteral schema value = quoteToml value := by
      simp only [toTomlLiteral, htype]
      exact if_neg hplain
    constructor
    · rw [hwritten]
      exact literal_quoteToml value
    · rw [hwritten]
      simp only [rawTomlToDisplay, shownAs, htype]
      rw [if_neg hplain]
      exact (if_pos rfl).trans (decodeTomlString_quoteToml value)

/-- An accepted value is written so that it reads as it was, if an array has
no line breaks, nor what `trim` leaves of a double. -/
theorem written_of_accepts {schema : ConfigFieldSchema} (hmem : schema ∈ fields)
    {value : List Char} (h : Accepts schema value)
    (harray : isArray schema → Unbroken value)
    (hfloat : schema.type = .float → Unbroken (Kotlin.trim value)) :
    Written schema value := by
  obtain ⟨parsed, hparse, hissue⟩ := h
  unfold parseValue at hparse
  cases htype : schema.type with
  | stringList =>
      simp only [htype] at hparse
      split at hparse
      · cases hparse
        cases hissue
      case h_2 items hitems =>
        have hliteral := literal_of_array hitems (harray (.inr htype))
        refine ⟨by simpa only [toTomlLiteral, htype] using hliteral, ?_⟩
        simp only [toTomlLiteral, rawTomlToDisplay, shownAs, htype]
        rw [parseTomlStringArray_trim, hitems]
        rfl
  | multiSelect =>
      simp only [htype] at hparse
      cases hparse
      obtain ⟨methods, hmethods, hself⟩ := methods_of_parseMethods hmem hissue
      have hliteral := literal_of_array hmethods (harray (.inl htype))
      refine ⟨by simpa only [toTomlLiteral, htype] using hliteral, ?_⟩
      have hbracket : (Kotlin.trim (Kotlin.trim value)).head? = some '[' := by
        rw [hliteral.trimmed.trim]
        exact bracket_of_parseTomlStringArray hmethods
      simp only [toTomlLiteral, rawTomlToDisplay, shownAs, htype]
      rw [if_pos hbracket, parseTomlStringArray_trim, hmethods]
      simp only [Option.map_some, Option.getD_some, hself]
  | integerRange => exact written_integerRange htype value
  | text => exact written_quoted (.inl htype) value
  | optionalText => exact written_quoted (.inr (.inl htype)) value
  | enum => exact written_quoted (.inr (.inr (.inl htype))) value
  | packetSelector => exact written_quoted (.inr (.inr (.inr htype))) value
  | boolean =>
      rw [htype] at hparse
      cases hparse
      exact written_plain (by simp [htype]) (literal_of_parseBoolean hissue)
  | float =>
      rw [htype] at hparse
      cases hparse
      exact written_plain (by simp [htype])
        (literal_of_parseFloat hissue (hfloat htype))
  | _ =>
      rw [htype] at hparse
      cases hparse
      exact written_plain (by simp [htype])
        (literal_of_parseIntegerValue hissue)

/-- What is shown of an accepted value has no number that is too long. -/
theorem not_overlong_shownAs {schema : ConfigFieldSchema} {value : List Char}
    (h : Accepts schema value) : ¬ Overlong schema (shownAs schema value) := by
  obtain ⟨parsed, hparse, -⟩ := h
  have hvalue := (parseValue_returns schema value).mp ⟨parsed, hparse⟩
  rw [not_overlong_iff] at hvalue ⊢
  unfold rangeGroups shownAs at *
  cases htype : schema.type with
  | packetSelector => simpa only [htype] using hvalue
  | integerRange =>
      simp only [htype] at hvalue ⊢
      by_cases hplain : isPlainInteger (Kotlin.trim value) = true
      · rwa [if_pos hplain, (Kotlin.trimmed_trim value).trim]
      · rwa [if_neg hplain]
  | _ => exact nofun

end ZeroDpi.Android.ZeroDpiConfigToml
