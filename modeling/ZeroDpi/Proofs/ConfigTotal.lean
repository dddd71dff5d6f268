/-
The texts for which the analysis of a configuration returns
(`analyze_returns_iff`).

Where it returns, it reports every line that it could not read, every value
that its field refuses, and what the checks of the other fields find: an
issue that is found is never dropped. It throws for one kind of text only. The patterns of a packet selector and of an
integer range let any run of digits through, and the conversion behind them
is the one that throws.
-/
import ZeroDpi.Proofs.ConfigEditor

namespace ZeroDpi.Android.ZeroDpiConfigToml

open Lib ZeroDpiConfigSchema

/-- The last line of a text that assigns to a field. -/
def LastAssignment (text : List Char) (fieldName : String)
    (line : List Char) : Prop :=
  ∃ before behind, Kotlin.lineSequence text = before ++ line :: behind
    ∧ AssignsTo line fieldName
    ∧ ∀ later ∈ behind, ¬ AssignsTo later fieldName

/-- A field refuses the value that the text gives it. -/
def Refuses (fieldText : String → Option (List Char))
    (schema : ConfigFieldSchema) (issue : String) : Prop :=
  ∃ parsed, parseValue schema (textOf fieldText schema) = .ok parsed
    ∧ parsed.issue = some issue

/-- A line of the text names the field and is not read, or the field refuses
its value. -/
def Faulty (text : List Char) (name : String) : Prop :=
  (∃ issue ∈ (parseFieldText text).issues, issue.fieldName = some name)
    ∨ ∃ schema ∈ fields, schema.name = name
      ∧ ∃ issue, Refuses (parseFieldText text).fieldText schema issue

/-- What is wrong with a text is among the issues of its analysis: the lines
that are not read, the values that their fields refuse, and what the checks
of the other fields find. -/
structure Reports (text : List Char) (state : ConfigEditorState) : Prop where
  lines : ∀ issue ∈ (parseFieldText text).issues, issue ∈ state.issues
  values : ∀ schema ∈ fields, ∀ issue,
    Refuses (parseFieldText text).fieldText schema issue →
      ⟨some schema.name, issue⟩ ∈ state.issues
  checks : ∃ invalidFields found,
    (∀ name, name ∈ invalidFields ↔ Faulty text name)
      ∧ addRustValidationIssues state.config invalidFields = .ok found
      ∧ ∀ issue ∈ found, issue ∈ state.issues

-- ============================================================== the reports

section

variable {fieldText : String → Option (List Char)}
  {schema : ConfigFieldSchema} {schemas : List ConfigFieldSchema}
  {analysis after : Analysis}

/-- What one turn makes of the value of its field. -/
theorem analyzeField_spec
    (h : analyzeField fieldText analysis schema = .ok after) :
    ∃ parsed, parseValue schema (textOf fieldText schema) = .ok parsed
      ∧ after.issues = analysis.issues
          ++ (parsed.issue.map fun issue => ⟨some schema.name, issue⟩).toList
      ∧ after.invalidFields = (parsed.issue.map fun _ => schema.name).toList
          ++ analysis.invalidFields := by
  unfold analyzeField at h
  unfold textOf
  cases hparse : parseValue schema
      ((fieldText schema.name).getD schema.defaultValue) with
  | error e =>
      simp only [hparse] at h
      cases h
  | ok parsed =>
      simp only [hparse, ok_bind] at h
      refine ⟨parsed, rfl, ?_⟩
      -- the value that is kept has no part in the issues
      cases hissue : parsed.issue <;> rw [hissue] at h <;>
        cases hvalue : parsed.value <;> rw [hvalue] at h
      case none.some | some.some =>
        cases h
        simp
      case none.none | some.none =>
        cases hdefault : defaultValueFor schema with
        | error e =>
            rw [hdefault] at h
            cases h
        | ok value =>
            rw [hdefault] at h
            cases h
            simp

/-- One turn adds to the issues, and adds that of its field. -/
theorem issues_analyzeField
    (h : analyzeField fieldText analysis schema = .ok after) :
    (∀ issue ∈ analysis.issues, issue ∈ after.issues)
      ∧ (∀ issue, Refuses fieldText schema issue →
        ⟨some schema.name, issue⟩ ∈ after.issues)
      ∧ ∀ name, name ∈ after.invalidFields
        ↔ name ∈ analysis.invalidFields
          ∨ schema.name = name ∧ ∃ issue, Refuses fieldText schema issue := by
  obtain ⟨parsed, hparse, hissues, hinvalid⟩ := analyzeField_spec h
  have hrefuses : ∀ issue, Refuses fieldText schema issue
      ↔ parsed.issue = some issue := by
    intro issue
    constructor
    · rintro ⟨parsed', hparse', hissue⟩
      cases hparse.symm.trans hparse'
      exact hissue
    · exact fun hissue => ⟨parsed, hparse, hissue⟩
  rw [hissues, hinvalid]
  refine ⟨fun issue hold => List.mem_append_left _ hold, ?_, fun name => ?_⟩
  · intro issue hissue
    rw [(hrefuses issue).mp hissue]
    exact List.mem_append_right _ List.mem_cons_self
  · simp only [hrefuses]
    cases parsed.issue with
    | none => simp
    | some issue => simp [or_comm, eq_comm]

theorem issues_analyzeFields
    (h : analyzeFields fieldText analysis schemas = .ok after) :
    (∀ issue ∈ analysis.issues, issue ∈ after.issues)
      ∧ (∀ schema ∈ schemas, ∀ issue, Refuses fieldText schema issue →
        ⟨some schema.name, issue⟩ ∈ after.issues)
      ∧ ∀ name, name ∈ after.invalidFields
        ↔ name ∈ analysis.invalidFields
          ∨ ∃ schema ∈ schemas, schema.name = name
            ∧ ∃ issue, Refuses fieldText schema issue := by
  induction schemas generalizing analysis with
  | nil =>
      cases h
      exact ⟨fun _ hold => hold, by simp, by simp⟩
  | cons schema rest ih =>
      simp only [analyzeFields] at h
      cases hstep : analyzeField fieldText analysis schema with
      | error e =>
          rw [hstep] at h
          cases h
      | ok between =>
          rw [hstep] at h
          obtain ⟨hkept, hadded, hinvalid⟩ := issues_analyzeField hstep
          obtain ⟨hkept', hadded', hinvalid'⟩ := ih h
          refine ⟨fun issue hold => hkept' _ (hkept issue hold),
            List.forall_mem_cons.mpr ⟨?_, hadded'⟩, fun name => ?_⟩
          · exact fun issue hissue => hkept' _ (hadded issue hissue)
          · rw [hinvalid', hinvalid, or_assoc]
            simp only [List.mem_cons, exists_eq_or_imp]

end

theorem reports_of_analyze {text : List Char} {state : ConfigEditorState}
    (h : analyze text = .ok state) : Reports text state := by
  unfold analyze at h
  cases hloop : analyzeFields (parseFieldText text).fieldText
      { issues := (parseFieldText text).issues
        invalidFields := (parseFieldText text).issues.filterMap (·.fieldName)
        values := fun _ => none } fields with
  | error e =>
      simp only [hloop] at h
      cases h
  | ok analysis =>
      simp only [hloop, ok_bind] at h
      obtain ⟨hlines, hvalues, hinvalid⟩ := issues_analyzeFields hloop
      cases hchecks : addRustValidationIssues ⟨analysis.values⟩
          analysis.invalidFields with
      | error e =>
          simp only [hchecks] at h
          cases h
      | ok found =>
          simp only [hchecks] at h
          cases h
          refine ⟨?_, ?_, analysis.invalidFields, found, ?_, hchecks, ?_⟩
          · exact fun issue hissue =>
              List.mem_append_left _ (hlines issue hissue)
          · exact fun schema hmem issue hissue =>
              List.mem_append_left _ (hvalues schema hmem issue hissue)
          · intro name
            rw [hinvalid, List.mem_filterMap]
            exact Iff.rfl
          · exact fun issue hissue => List.mem_append_right _ hissue

-- ======================================================= the last assignment

theorem shownText_of_last {schema : ConfigFieldSchema} (hmem : schema ∈ fields)
    {text line : List Char} (h : LastAssignment text schema.name line) :
    shownText text schema = shownValue schema line := by
  obtain ⟨before, behind, hlines, hassigns, hlast⟩ := h
  rw [shownText_eq hmem, hlines, List.foldl_append, List.foldl_cons,
    foldl_shownAfter_of_none hlast, shownAfter, if_pos hassigns]

/-- Among lines that assign to a field there is a last one. -/
theorem exists_last_of_assigned {fieldName : String}
    (lines : List (List Char)) :
    (∀ line ∈ lines, ¬ AssignsTo line fieldName)
      ∨ ∃ before line behind, lines = before ++ line :: behind
        ∧ AssignsTo line fieldName
        ∧ ∀ later ∈ behind, ¬ AssignsTo later fieldName := by
  induction lines with
  | nil => exact .inl nofun
  | cons first rest ih =>
      rcases ih with hnone | ⟨before, line, behind, rfl, hline, hbehind⟩
      · by_cases hfirst : AssignsTo first fieldName
        · exact .inr ⟨[], first, rest, rfl, hfirst, hnone⟩
        · exact .inl (List.forall_mem_cons.mpr ⟨hfirst, hnone⟩)
      · exact .inr ⟨first :: before, line, behind, rfl, hline, hbehind⟩

/-- What a field shows is not too long, unless its last assignment is: the
defaults are not. -/
theorem not_overlong_shownText_iff {schema : ConfigFieldSchema}
    (hmem : schema ∈ fields) (text : List Char) :
    ¬ Overlong schema (shownText text schema)
      ↔ ∀ line, LastAssignment text schema.name line →
        ¬ Overlong schema (shownValue schema line) := by
  constructor
  · intro h line hlast
    rwa [← shownText_of_last hmem hlast]
  · intro h
    rcases @exists_last_of_assigned schema.name (Kotlin.lineSequence text)
      with hnone | ⟨before, line, behind, hlines, hline, hbehind⟩
    · rw [shownText_default hmem hnone]
      exact not_overlong_default hmem
    · have hlast : LastAssignment text schema.name line :=
        ⟨before, behind, hlines, hline, hbehind⟩
      rw [shownText_of_last hmem hlast]
      exact h line hlast

-- =============================================================== the totality

/-- The analysis returns, with everything that is wrong among its issues, if
and only if no field is last assigned a packet selector or a range with a
number that is no `Long`. -/
theorem analyze_returns_iff (text : List Char) :
    (∃ state, analyze text = .ok state ∧ Reports text state)
      ↔ ∀ schema ∈ fields, ∀ line, LastAssignment text schema.name line →
        ¬ Overlong schema (shownValue schema line) := by
  have hshown : (∃ state, analyze text = .ok state)
      ↔ ∀ schema ∈ fields, ∀ line, LastAssignment text schema.name line →
        ¬ Overlong schema (shownValue schema line) := by
    rw [analyze_returns]
    exact forall₂_congr fun schema hmem => not_overlong_shownText_iff hmem text
  rw [← hshown]
  constructor
  · rintro ⟨state, hstate, -⟩
    exact ⟨state, hstate⟩
  · rintro ⟨state, hstate⟩
    exact ⟨state, hstate, reports_of_analyze hstate⟩

/-- A range that ends at 2 ^ 63. -/
def longRangeText : List Char :=
  "TLS_FRAG_LENGTH = 100-9223372036854775808".toList

/-- Such a text has no analysis. -/
theorem analyze_longRange_throws :
    ¬ ∃ state, analyze longRangeText = .ok state := by
  intro hreturns
  have hmem : field "TLS_FRAG_LENGTH" .integerRange "100-200" ∈ fields := by
    decide
  refine (analyze_returns _).mp hreturns _ hmem ?_
  have hshown : shownText longRangeText
      (field "TLS_FRAG_LENGTH" .integerRange "100-200")
      = "100-9223372036854775808".toList := by
    rw [shownText_eq hmem]
    decide
  rw [hshown]
  exact ⟨"100".toList, some "9223372036854775808".toList, by decide,
    .inr ⟨_, rfl, by decide⟩⟩

end ZeroDpi.Android.ZeroDpiConfigToml
