/-
Editing one setting (`replaceOrAppendField`) and reading the text again
(`analyze`).

What a text shows for a field is decided by the lines that assign to it
(`shownText_eq`). An edit replaces the first of them or adds one
(`replaceField_cases`), and leaves all other lines alone; the new line shows
the value, and has the comment of the old one (`NewLine`).

Two things stand in the way of it: a number elsewhere in the text that is no
`Long`, at which the analysis throws, and a double with a line break behind a
control character, which is written as it is and falls on two lines.
-/
import ZeroDpi.Proofs.ConfigLiteral

namespace ZeroDpi.Android.ZeroDpiConfigToml

open Lib ZeroDpiConfigSchema

-- =============================================================== assignments

/-- A line assigns to a field. -/
def AssignsTo (line : List Char) (fieldName : String) : Prop :=
  (assignmentPattern line).map String.ofList = some fieldName

instance (line : List Char) (fieldName : String) :
    Decidable (AssignsTo line fieldName) :=
  inferInstanceAs (Decidable (_ = _))

/-- The value of a line as the file has it. -/
def rawValue (line : List Char) : List Char :=
  Kotlin.trim (stripInlineComment (Kotlin.substringAfter '=' line))

/-- What a line shows for the field that it assigns to. -/
def shownValue (schema : ConfigFieldSchema) (line : List Char) : List Char :=
  (rawTomlToDisplay schema (rawValue line)).getD (rawValue line)

/-- What is shown for a field, one line later. -/
def shownAfter (schema : ConfigFieldSchema) (shown line : List Char) :
    List Char :=
  if AssignsTo line schema.name then shownValue schema line else shown

/-- A line assigns to the field that the pattern finds. -/
theorem assignsTo_iff {line : List Char} {fieldName : String} :
    AssignsTo line fieldName
      ↔ assignmentPattern line = some fieldName.toList := by
  unfold AssignsTo
  constructor
  · intro h
    obtain ⟨key, hkey, rfl⟩ := Option.map_eq_some_iff.mp h
    rw [hkey, String.toList_ofList]
  · intro h
    rw [h, Option.map_some, String.ofList_toList]

/-- Such a line is neither blank nor a comment. -/
theorem not_skipped_of_assignsTo {line key : List Char}
    (h : assignmentPattern line = some key) :
    ((Kotlin.trim line).isEmpty || (Kotlin.trim line).head? = some '#')
      = false := by
  obtain ⟨front, gap, rest, hassigns⟩ := assigns_of_keyBefore h
  obtain ⟨c, tail, htrim, hhash⟩ :=
    hassigns.not_skipped keyClass_isUpperKeyChar
  rw [htrim]
  simp [hhash]

/-- A line changes what is shown for the field that it assigns to. -/
theorem textOf_parseLine {schema : ConfigFieldSchema} (hmem : schema ∈ fields)
    (parsed : ParsedFieldText) (lineIndex : Nat) (line : List Char) :
    textOf (parseLine parsed lineIndex line).fieldText schema
      = shownAfter schema (textOf parsed.fieldText schema) line := by
  unfold shownAfter
  cases hkey : assignmentPattern line with
  | none =>
      rw [if_neg (by simp [AssignsTo, hkey])]
      unfold parseLine
      simp only [hkey]
      split <;> rfl
  | some key =>
      have hread := not_skipped_of_assignsTo hkey
      have hassigns : AssignsTo line schema.name
          ↔ String.ofList key = schema.name := by
        simp [AssignsTo, hkey]
      simp only [hassigns]
      unfold parseLine
      simp only [hread, hkey, Bool.false_eq_true, if_false]
      cases hfound : fieldsByName (String.ofList key) with
      | none =>
          have hne : String.ofList key ≠ schema.name := by
            intro heq
            rw [heq, fieldsByName_self schema hmem] at hfound
            cases hfound
          rw [if_neg hne]
      | some found =>
          obtain ⟨hfoundMem, hname⟩ := fieldsByName_sound hfound
          by_cases heq : String.ofList key = schema.name
          · have hsame := eq_of_name_eq hfoundMem hmem (hname.trans heq)
            subst hsame
            rw [if_pos heq]
            simp only [textOf, if_true, Option.getD_some]
            rfl
          · rw [if_neg heq]
            have hne : schema.name ≠ found.name :=
              fun h => heq (hname.symm.trans h.symm)
            simp only [textOf, if_neg hne]

/-- What is shown of a field, line by line. -/
theorem textOf_parseLines {schema : ConfigFieldSchema} (hmem : schema ∈ fields)
    (parsed : ParsedFieldText) (lines : List (List Char × Nat)) :
    textOf (parseLines parsed lines).fieldText schema
      = (lines.map Prod.fst).foldl (shownAfter schema)
        (textOf parsed.fieldText schema) := by
  induction lines generalizing parsed with
  | nil => rfl
  | cons entry rest ih =>
      obtain ⟨line, lineIndex⟩ := entry
      rw [parseLines, ih, textOf_parseLine hmem]
      rfl

/-- The lines that assign to a field decide what is shown for it. -/
theorem shownText_eq {schema : ConfigFieldSchema} (hmem : schema ∈ fields)
    (text : List Char) :
    shownText text schema
      = (Kotlin.lineSequence text).foldl (shownAfter schema)
        schema.defaultValue := by
  have hstart : textOf defaultFieldText.fieldText schema
      = schema.defaultValue := by
    simp [textOf, defaultFieldText, fieldsByName_self schema hmem]
  show textOf (parseLines defaultFieldText
    (Kotlin.lineSequence text).zipIdx).fieldText schema = _
  rw [textOf_parseLines hmem, List.zipIdx_map_fst, hstart]

/-- Lines that do not assign to it show nothing new. -/
theorem foldl_shownAfter_of_none {schema : ConfigFieldSchema}
    {lines : List (List Char)}
    (h : ∀ line ∈ lines, ¬ AssignsTo line schema.name) (shown : List Char) :
    lines.foldl (shownAfter schema) shown = shown := by
  induction lines with
  | nil => rfl
  | cons line rest ih =>
      obtain ⟨hline, hrest⟩ := List.forall_mem_cons.mp h
      rw [List.foldl_cons, shownAfter, if_neg hline]
      exact ih hrest

-- ================================================================= the new line

/-- The names of fields, as bytes. -/
theorem name_bytes : ∀ schema ∈ fields, schema.name ≠ ""
    ∧ schema.name.toByteArray.data.toList.all (fun b =>
      b.toNat < 0x80 ∧ isUpperKeyChar (Char.ofNat b.toNat) = true) = true := by
  decide +kernel

/-- A name is made of the characters that a key may have. -/
theorem name_key {schema : ConfigFieldSchema} (hmem : schema ∈ fields) :
    schema.name ≠ ""
      ∧ ∀ c ∈ schema.name.toList, isUpperKeyChar c = true := by
  obtain ⟨hne, hbytes⟩ := name_bytes schema hmem
  refine ⟨hne, Text.forall_toList fun b hb => ?_⟩
  exact of_decide_eq_true (List.all_eq_true.mp hbytes b hb)

/-- The line that an edit writes. -/
theorem assigns_assignment {schema : ConfigFieldSchema} (hmem : schema ∈ fields)
    (literal comment : List Char) :
    Assigns isUpperKeyChar (assignment schema.name literal comment)
      schema.name.toList [] [' '] (' ' :: (literal ++ commentTail comment)) := by
  obtain ⟨hne, hkey⟩ := name_key hmem
  refine ⟨?_, nofun, by simp [isSpace], hkey, ?_⟩
  · have hmiddle : " = ".toList = [' ', '=', ' '] := by decide
    unfold assignment commentTail
    rw [hmiddle]
    simp
  · exact fun hnil => hne (String.toList_eq_nil_iff.mp hnil)

section

variable {schema : ConfigFieldSchema} {literal comment : List Char}

/-- An assignment that the editor writes assigns to its field. -/
theorem assignsTo_assignment (hmem : schema ∈ fields)
    (literal comment : List Char) :
    AssignsTo (assignment schema.name literal comment) schema.name :=
  assignsTo_iff.mpr
    ((assigns_assignment hmem literal comment).keyBefore
      keyClass_isUpperKeyChar)

/-- And has the literal behind its `=`. -/
theorem substringAfter_assignment (hmem : schema ∈ fields)
    (literal comment : List Char) :
    Kotlin.substringAfter '=' (assignment schema.name literal comment)
      = ' ' :: (literal ++ commentTail comment) :=
  (assigns_assignment hmem literal comment).substringAfter
    keyClass_isUpperKeyChar

/-- The new line shows the value that was put in. -/
theorem shownValue_assignment (hmem : schema ∈ fields) {value : List Char}
    (h : Written schema value) (hcomment : CommentText comment) :
    shownValue schema
        (assignment schema.name (toTomlLiteral schema value) comment)
      = shownAs schema value := by
  have hraw : rawValue
      (assignment schema.name (toTomlLiteral schema value) comment)
      = toTomlLiteral schema value := by
    unfold rawValue
    rw [substringAfter_assignment hmem]
    exact stripInlineComment_literal h.literal hcomment
  unfold shownValue
  rw [hraw, h.display]
  rfl

/-- The new line has the comment that it was given. -/
theorem trailingComment_assignment (hmem : schema ∈ fields)
    (h : Quoting.Outside literal) (hcomment : CommentText comment) :
    trailingComment (Kotlin.substringAfter '='
        (assignment schema.name literal comment)) = comment := by
  rw [substringAfter_assignment hmem]
  exact trailingComment_literal h hcomment

/-- It is one line. -/
theorem unbroken_assignment (hmem : schema ∈ fields)
    (hliteral : Unbroken literal) (hcomment : Unbroken comment) :
    Unbroken (assignment schema.name literal comment) := by
  have hupper : ∀ c ∈ schema.name.toList, isUpperKeyChar c = true :=
    (name_key hmem).2
  have hkey : ∀ c ∈ schema.name.toList, c ≠ '\n' ∧ c ≠ '\r' := by
    intro c hc
    constructor
    · rintro rfl
      exact absurd (hupper _ hc) (by decide)
    · rintro rfl
      exact absurd (hupper _ hc) (by decide)
  intro c hc
  rw [(assigns_assignment hmem literal comment).eq] at hc
  simp only [List.nil_append, List.mem_append, List.mem_cons,
    List.not_mem_nil, or_false] at hc
  rcases hc with hc | rfl | rfl | rfl | hc | hc
  · exact hkey c hc
  · decide
  · decide
  · decide
  · exact hliteral c hc
  · unfold commentTail at hc
    split at hc
    · cases hc
    · rcases List.mem_cons.mp hc with rfl | hc
      · decide
      · exact hcomment c hc

end

-- ================================================================ the old comment

/-- A comment has no line break in it, where its line has none but the
carriage return at its end. -/
theorem unbroken_trailingComment {line : List Char} (hn : '\n' ∉ line)
    (hr : '\r' ∉ Kotlin.dropReturn line) {front raw : List Char}
    (hline : line = front ++ raw) : Unbroken (trailingComment raw) := by
  cases hscan : Quoting.commentAt false false raw with
  | none =>
      rw [trailingComment_of_none hscan]
      exact nofun
  | some i =>
      have hfound := Quoting.hasComment_iff.mpr ⟨i, hscan, rfl⟩
      rw [trailingComment_of_hasComment hfound]
      obtain ⟨-, -, -, hhash⟩ := hfound
      have hne : raw.drop i ≠ [] := by
        intro hnil
        rw [hnil] at hhash
        cases hhash
      have hsplit : line = (front ++ raw.take i) ++ raw.drop i := by
        rw [List.append_assoc, List.take_append_drop, hline]
      rw [hsplit, Kotlin.dropReturn_append _ hne] at hr
      intro c hc
      constructor
      · rintro rfl
        apply hn
        rw [hsplit]
        exact List.mem_append_right _ (Kotlin.mem_of_mem_trim hc)
      · rintro rfl
        apply hr
        rw [← Kotlin.trim_dropReturn] at hc
        exact List.mem_append_right _ (Kotlin.mem_of_mem_trim hc)

-- =================================================================== the lines

/-- The first assignment is replaced, if there is one. -/
theorem replaceField_cases (fieldName : String) (literal : List Char)
    (lines : List (List Char)) :
    (∃ before old behind, lines = before ++ old :: behind
      ∧ (∀ line ∈ before, ¬ AssignsTo line fieldName)
      ∧ AssignsTo old fieldName
      ∧ replaceField fieldName literal lines
        = some (before ++ assignment fieldName literal
          (trailingComment (Kotlin.substringAfter '=' old)) :: behind))
    ∨ ((∀ line ∈ lines, ¬ AssignsTo line fieldName)
      ∧ replaceField fieldName literal lines = none) := by
  induction lines with
  | nil => exact .inr ⟨nofun, rfl⟩
  | cons line rest ih =>
      unfold replaceField
      by_cases hline : AssignsTo line fieldName
      · exact .inl ⟨[], line, rest, rfl, nofun, hline, if_pos hline⟩
      · rcases ih with ⟨before, old, behind, rfl, hbefore, hold, heq⟩ |
          ⟨hnone, heq⟩
        · refine .inl ⟨line :: before, old, behind, rfl,
            List.forall_mem_cons.mpr ⟨hline, hbefore⟩, hold, ?_⟩
          rw [heq]
          exact if_neg hline
        · refine .inr ⟨List.forall_mem_cons.mpr ⟨hline, hnone⟩, ?_⟩
          rw [heq]
          exact if_neg hline

/-- A carriage return does not matter. -/
theorem assignsTo_dropReturn (line : List Char) (fieldName : String) :
    AssignsTo (Kotlin.dropReturn line) fieldName
      ↔ AssignsTo line fieldName := by
  rw [assignsTo_iff, assignsTo_iff]
  unfold assignmentPattern
  rw [keyBefore_dropReturn keyClass_isUpperKeyChar]

/-- A text has at most one line that assigns to the field. -/
def AssignedAtMostOnce (text : List Char) (fieldName : String) : Prop :=
  (Kotlin.lineSequence text).countP (fun line => AssignsTo line fieldName) ≤ 1

instance (text : List Char) (fieldName : String) :
    Decidable (AssignedAtMostOnce text fieldName) :=
  inferInstanceAs (Decidable (_ ≤ 1))

/-- One edit of the lines of a text. -/
inductive Edit (schema : ConfigFieldSchema) (literal : List Char) :
    List (List Char) → List (List Char) → Prop where
  | replaced {before behind : List (List Char)} {old : List Char} :
      AssignsTo old schema.name →
      Edit schema literal (before ++ old :: behind)
        (before ++ assignment schema.name literal
          (trailingComment (Kotlin.substringAfter '=' old)) :: behind)
  | appended {lines blank : List (List Char)} :
      (∀ line ∈ lines, ¬ AssignsTo line schema.name) →
      blank = [] ∨ blank = [[]] →
      Edit schema literal lines
        (lines ++ blank ++ [assignment schema.name literal []])

/-- An edit replaces the field's line, or appends one. -/
theorem edit_replaceOrAppendField {schema : ConfigFieldSchema}
    (hmem : schema ∈ fields) (text value : List Char) :
    ∃ lines, replaceOrAppendField text schema.name value
        = ['\n'].intercalate lines
      ∧ Edit schema (toTomlLiteral schema value) (Text.split '\n' text)
        lines := by
  unfold replaceOrAppendField
  rw [fieldsByName_self schema hmem]
  refine ⟨_, rfl, ?_⟩
  rcases replaceField_cases schema.name (toTomlLiteral schema value)
      (Text.split '\n' text) with
    ⟨before, old, behind, hlines, -, hold, heq⟩ | ⟨hnone, heq⟩
  · rw [heq, hlines]
    exact .replaced hold
  · rw [heq]
    refine .appended hnone ?_
    cases (Text.split '\n' text).getLast? with
    | none => exact .inl rfl
    | some line =>
        cases line with
        | nil => exact .inl rfl
        | cons c line => exact .inr rfl

section

variable {schema : ConfigFieldSchema} {value : List Char}
  {lines edited : List (List Char)}

/-- What is behind the `=` is the end of the line. -/
theorem mem_of_substringAfter (line : List Char) :
    ∃ front, line = front ++ Kotlin.substringAfter '=' line := by
  unfold Kotlin.substringAfter
  refine ⟨line.takeWhile (· ≠ '=') ++ (line.dropWhile (· ≠ '=')).take 1, ?_⟩
  rw [List.append_assoc, List.take_append_drop,
    List.takeWhile_append_dropWhile]

/-- The new line has no line break, like the value and the old comment. -/
theorem unbroken_replacement (hmem : schema ∈ fields)
    (h : Written schema value) {old : List Char} (hn : '\n' ∉ old)
    (hr : '\r' ∉ Kotlin.dropReturn old) :
    Unbroken (assignment schema.name (toTomlLiteral schema value)
      (trailingComment (Kotlin.substringAfter '=' old))) := by
  obtain ⟨front, hold⟩ := mem_of_substringAfter old
  exact unbroken_assignment hmem h.literal.unbroken
    (unbroken_trailingComment hn hr hold)

/-- What an edit writes is one line. -/
theorem unbroken_addition (hmem : schema ∈ fields) (h : Written schema value) :
    Unbroken (assignment schema.name (toTomlLiteral schema value) []) :=
  unbroken_assignment hmem h.literal.unbroken nofun

/-- Without either break. -/
theorem Unbroken.not_mem {s : List Char} (h : Unbroken s) :
    '\n' ∉ s ∧ '\r' ∉ s :=
  ⟨fun hmem => (h _ hmem).1 rfl, fun hmem => (h _ hmem).2 rfl⟩

/-- No line of a text with plain breaks has a carriage return inside. -/
theorem dropReturn_unbroken {lines : List (List Char)}
    (h : Kotlin.PlainLines lines) : ∀ line ∈ lines,
      '\r' ∉ Kotlin.dropReturn line := by
  induction h with
  | last hline =>
      intro line hmem
      rw [List.mem_singleton.mp hmem]
      exact fun hr => hline (Kotlin.mem_of_mem_dropReturn hr)
  | cons hline _ ih => exact List.forall_mem_cons.mpr ⟨hline, ih⟩

/-- There is at least the line that was written. -/
theorem Edit.ne_nil {literal : List Char}
    (hedit : Edit schema literal lines edited) : edited ≠ [] := by
  cases hedit with
  | replaced => simp
  | appended => simp

/-- An edit leaves the breaks of the text plain, and its lines lines. -/
theorem Edit.plainLines (hedit : Edit schema (toTomlLiteral schema value)
      lines edited) (hmem : schema ∈ fields) (h : Written schema value)
    (hplain : Kotlin.PlainLines lines) (hfeed : ∀ line ∈ lines, '\n' ∉ line) :
    Kotlin.PlainLines edited ∧ ∀ line ∈ edited, '\n' ∉ line := by
  cases hedit with
  | @replaced before behind old hold =>
      have hin : old ∈ before ++ old :: behind := by simp
      have hnew := (unbroken_replacement hmem h (hfeed old hin)
        (dropReturn_unbroken hplain old hin)).not_mem
      refine ⟨hplain.replace hnew.2, fun line hline => ?_⟩
      rcases List.mem_append.mp hline with hbefore | hrest
      · exact hfeed line (List.mem_append_left _ hbefore)
      · rcases List.mem_cons.mp hrest with rfl | hbehind
        · exact hnew.1
        · exact hfeed line
            (List.mem_append_right _ (List.mem_cons_of_mem _ hbehind))
  | @appended _ blank hnone hblank =>
      have hnew := (unbroken_addition hmem h).not_mem
      have hblanks : Kotlin.PlainLines (lines ++ blank)
          ∧ ∀ line ∈ lines ++ blank, '\n' ∉ line := by
        rcases hblank with rfl | rfl
        · rw [List.append_nil]
          exact ⟨hplain, hfeed⟩
        · refine ⟨hplain.append List.not_mem_nil, fun line hline => ?_⟩
          rcases List.mem_append.mp hline with hline | hline
          · exact hfeed line hline
          · rw [List.mem_singleton.mp hline]
            exact List.not_mem_nil
      refine ⟨hblanks.1.append hnew.2, fun line hline => ?_⟩
      rcases List.mem_append.mp hline with hline | hline
      · exact hblanks.2 line hline
      · rw [List.mem_singleton.mp hline]
        exact hnew.1

/-- A line assigns to one field. -/
theorem AssignsTo.eq {line : List Char} {fieldName fieldName' : String}
    (h : AssignsTo line fieldName) (h' : AssignsTo line fieldName') :
    fieldName = fieldName' := Option.some.inj (h.symm.trans h')

/-- An empty line to none. -/
theorem not_assignsTo_nil (fieldName : String) : ¬ AssignsTo [] fieldName := by
  rw [assignsTo_iff]
  exact nofun

/-- A line of another field leaves a field as it was. -/
theorem shownAfter_other {other : ConfigFieldSchema} {line : List Char}
    (hline : AssignsTo line schema.name) (hne : other.name ≠ schema.name)
    (shown : List Char) : shownAfter other shown line = shown :=
  if_neg fun hother => hne (hother.eq hline)

/-- An edit leaves what the lines show for the other fields. -/
theorem Edit.others {literal : List Char}
    (hedit : Edit schema literal lines edited) (hmem : schema ∈ fields)
    {other : ConfigFieldSchema} (hne : other.name ≠ schema.name)
    (shown : List Char) :
    (edited.map Kotlin.dropReturn).foldl (shownAfter other) shown
      = (lines.map Kotlin.dropReturn).foldl (shownAfter other) shown := by
  have hskip : ∀ {line : List Char}, AssignsTo line schema.name → ∀ shown,
      shownAfter other shown (Kotlin.dropReturn line) = shown :=
    fun hline => shownAfter_other ((assignsTo_dropReturn _ _).mpr hline) hne
  cases hedit with
  | replaced hold =>
      simp only [List.map_append, List.map_cons, List.foldl_append,
        List.foldl_cons, hskip hold,
        hskip (assignsTo_assignment hmem literal _)]
  | @appended _ blank hnone hblank =>
      have hblanks : ∀ shown,
          (blank.map Kotlin.dropReturn).foldl (shownAfter other) shown
            = shown := by
        intro shown
        rcases hblank with rfl | rfl
        · rfl
        · apply foldl_shownAfter_of_none
          intro line hline
          rw [List.mem_singleton.mp hline]
          exact not_assignsTo_nil other.name
      simp only [List.map_append, List.foldl_append, hblanks, List.map_cons,
        List.foldl_cons, hskip (assignsTo_assignment hmem literal []),
        List.map_nil, List.foldl_nil]

/-- An edited text shows the value that was put in. -/
theorem Edit.shown (hedit : Edit schema (toTomlLiteral schema value)
      lines edited) (hmem : schema ∈ fields) (h : Written schema value)
    (hplain : Kotlin.PlainLines lines) (hfeed : ∀ line ∈ lines, '\n' ∉ line)
    (honce : (lines.map Kotlin.dropReturn).countP
      (fun line => AssignsTo line schema.name) ≤ 1) (shown : List Char) :
    (edited.map Kotlin.dropReturn).foldl (shownAfter schema) shown
      = shownAs schema value := by
  cases hedit with
  | @replaced before behind old hold =>
      have hin : old ∈ before ++ old :: behind := by simp
      have hnew := (unbroken_replacement hmem h (hfeed old hin)
        (dropReturn_unbroken hplain old hin)).not_mem
      have hbehind : ∀ line ∈ behind.map Kotlin.dropReturn,
          ¬ AssignsTo line schema.name := by
        have hcounted : AssignsTo (Kotlin.dropReturn old) schema.name :=
          (assignsTo_dropReturn _ _).mpr hold
        rw [List.map_append, List.map_cons, List.countP_append,
          List.countP_cons_of_pos (by simpa using hcounted)] at honce
        have hzero : (behind.map Kotlin.dropReturn).countP
            (fun line => AssignsTo line schema.name) = 0 := by omega
        intro line hline hassigns
        exact List.countP_eq_zero.mp hzero line hline (by simpa using hassigns)
      have hassigns := assignsTo_assignment hmem
        (toTomlLiteral schema value)
        (trailingComment (Kotlin.substringAfter '=' old))
      rw [List.map_append, List.map_cons, List.foldl_append, List.foldl_cons,
        foldl_shownAfter_of_none hbehind,
        Kotlin.dropReturn_of_not_mem hnew.2, shownAfter, if_pos hassigns]
      exact shownValue_assignment hmem h (commentText_trailingComment _)
  | appended hnone hblank =>
      have hnew := (unbroken_addition hmem h).not_mem
      rw [List.map_append, List.foldl_append, List.map_singleton,
        List.foldl_cons, Kotlin.dropReturn_of_not_mem hnew.2, shownAfter,
        if_pos (assignsTo_assignment hmem _ _)]
      exact shownValue_assignment hmem h .none

end

-- ========================================================== what the editor shows

/-- A field that has a text keeps having one. -/
theorem fieldText_parseLines {schema : ConfigFieldSchema}
    {parsed : ParsedFieldText} (h : ∃ text, parsed.fieldText schema.name
      = some text) (lines : List (List Char × Nat)) :
    ∃ text, (parseLines parsed lines).fieldText schema.name = some text := by
  induction lines generalizing parsed with
  | nil => exact h
  | cons entry rest ih =>
      obtain ⟨line, lineIndex⟩ := entry
      apply ih
      unfold parseLine
      simp only
      split
      · exact h
      · split
        · exact h
        · split
          · exact h
          · simp only
            split
            · exact ⟨_, rfl⟩
            · exact h

/-- The state that the analysis returns has the text of every field. -/
theorem valueFor_of_analyze {schema : ConfigFieldSchema}
    (hmem : schema ∈ fields) {text : List Char} {state : ConfigEditorState}
    (h : analyze text = .ok state) :
    state.valueFor schema.name = shownText text schema := by
  obtain ⟨shown, hshown⟩ := @fieldText_parseLines schema defaultFieldText
    ⟨schema.defaultValue, by simp [defaultFieldText,
      fieldsByName_self schema hmem]⟩ (Kotlin.lineSequence text).zipIdx
  have hfield : (parseFieldText text).fieldText schema.name = some shown :=
    hshown
  unfold ConfigEditorState.valueFor shownText textOf
  rw [fieldText_of_analyze h, hfield]
  rfl

/-- Defaults are on one line. -/
theorem all_unbroken_default : ∀ schema ∈ fields, schema.type = .float →
    schema.defaultValue.all (fun c => c != '\n' && c != '\r') = true := by
  decide

/-- So they are written on one. -/
theorem unbroken_default {schema : ConfigFieldSchema} (hmem : schema ∈ fields)
    (htype : schema.type = .float) : Unbroken schema.defaultValue := by
  intro c hc
  have hall := List.all_eq_true.mp (all_unbroken_default schema hmem htype) c hc
  simpa using hall

/-- The raw value is part of its line. -/
theorem mem_of_mem_rawValue {line : List Char} {c : Char}
    (h : c ∈ rawValue line) : c ∈ line := by
  have hstrip := Kotlin.mem_of_mem_trim h
  have hraw : c ∈ Kotlin.substringAfter '=' line := by
    unfold stripInlineComment at hstrip
    split at hstrip
    · exact List.mem_of_mem_take (Kotlin.mem_of_mem_trimEnd hstrip)
    · exact Kotlin.mem_of_mem_trimEnd hstrip
  obtain ⟨front, hline⟩ := mem_of_substringAfter line
  rw [hline]
  exact List.mem_append_right front hraw

/-- A number that is shown has stood on one line. -/
theorem unbroken_shownText {schema : ConfigFieldSchema} (hmem : schema ∈ fields)
    (htype : schema.type = .float) (text : List Char) :
    Unbroken (shownText text schema) := by
  have hvalue : ∀ line ∈ Kotlin.lineSequence text,
      Unbroken (shownValue schema line) := by
    intro line hline c hc
    have hraw : shownValue schema line = rawValue line := by
      simp only [shownValue, rawTomlToDisplay, htype, Option.getD_some]
    rw [hraw] at hc
    have hin := mem_of_mem_rawValue hc
    obtain ⟨hn, hr⟩ := Kotlin.not_mem_lineSequence hline
    exact ⟨fun heq => hn (heq ▸ hin), fun heq => hr (heq ▸ hin)⟩
  rw [shownText_eq hmem]
  generalize Kotlin.lineSequence text = lines at hvalue
  have hstart : Unbroken schema.defaultValue :=
    unbroken_default hmem htype
  generalize schema.defaultValue = shown at hstart ⊢
  induction lines generalizing shown with
  | nil => exact hstart
  | cons line rest ih =>
      obtain ⟨hline, hrest⟩ := List.forall_mem_cons.mp hvalue
      rw [List.foldl_cons]
      apply ih hrest
      unfold shownAfter
      split
      · exact hline
      · exact hstart

-- ==================================================================== editing

/-- The lines before and after an edit: one that assigns to the field is
replaced by another one with the same comment, or one is added at the end,
behind an empty line if need be. -/
inductive KeepsLines (fieldName : String) :
    List (List Char) → List (List Char) → Prop where
  | replaced {before behind : List (List Char)} {old new : List Char} :
      AssignsTo old fieldName → AssignsTo new fieldName →
      (∀ comment, TrailsWith (Kotlin.substringAfter '=' new) comment
        ↔ TrailsWith (Kotlin.substringAfter '=' old) comment) →
      KeepsLines fieldName (before ++ old :: behind) (before ++ new :: behind)
  | appended {lines blank : List (List Char)} {new : List Char} :
      (∀ line ∈ lines, ¬ AssignsTo line fieldName) → AssignsTo new fieldName →
      blank = [] ∨ blank = [[]] →
      KeepsLines fieldName lines (lines ++ blank ++ [new])

/-- The edited text is analysed, shows the value that was put in and what was
shown for every other field before, and has its other lines as they were. -/
structure ChangesOnly (text : List Char) (schema : ConfigFieldSchema)
    (value : List Char) : Prop where
  shown : ∃ state,
    analyze (replaceOrAppendField text schema.name value) = .ok state
      ∧ state.valueFor schema.name = shownAs schema value
      ∧ ∀ other ∈ fields, other.name ≠ schema.name →
        state.valueFor other.name = shownText text other
  lines : KeepsLines schema.name (Text.split '\n' text)
    (Text.split '\n' (replaceOrAppendField text schema.name value))

/-- The decoder undoes the quoting, and an array in canonical form holds what
it was made of. -/
structure ReadsBack : Prop where
  strings : ∀ value, decodeTomlString (quoteToml value) = some value
  arrays : ∀ values,
    parseTomlStringArray (canonicalStringArray values) = some values

/-- What the editor quotes, it reads back. -/
theorem readsBack : ReadsBack where
  strings := decodeTomlString_quoteToml
  arrays := parseTomlStringArray_canonical

/-- An edit changes one line. -/
theorem Edit.keepsLines {schema : ConfigFieldSchema} {value : List Char}
    {lines edited : List (List Char)}
    (hedit : Edit schema (toTomlLiteral schema value) lines edited)
    (hmem : schema ∈ fields) (h : Written schema value) :
    KeepsLines schema.name lines edited := by
  cases hedit with
  | replaced hold =>
      refine .replaced hold (assignsTo_assignment hmem _ _) fun comment => ?_
      rw [trailsWith_iff, trailsWith_iff,
        trailingComment_assignment hmem h.literal.outside
          (commentText_trailingComment _)]
  | appended hnone hblank =>
      exact .appended hnone (assignsTo_assignment hmem _ _) hblank

/-- Both ways to cut a text into lines. -/
theorem lineSequence_split {text : List Char}
    (h : Kotlin.PlainBreaks text) :
    Kotlin.lineSequence text
      = (Text.split '\n' text).map Kotlin.dropReturn := by
  rw [← Kotlin.lineSequence_intercalate (Kotlin.plainLines_split h)
    fun line hline => Text.not_mem_of_mem_split hline, Text.intercalate_split]

section

variable {text value : List Char} {schema : ConfigFieldSchema}

/-- Both ways of splitting an edited text into lines find those of the
edit. -/
theorem edited_lines (hmem : schema ∈ fields)
    (hbreaks : Kotlin.PlainBreaks text) (h : Written schema value) :
    Edit schema (toTomlLiteral schema value) (Text.split '\n' text)
        (Text.split '\n' (replaceOrAppendField text schema.name value))
      ∧ Kotlin.lineSequence (replaceOrAppendField text schema.name value)
        = (Text.split '\n' (replaceOrAppendField text schema.name value)).map
          Kotlin.dropReturn := by
  obtain ⟨edited, hedited, hedit⟩ := edit_replaceOrAppendField hmem text value
  obtain ⟨hplain, hfeed⟩ := hedit.plainLines hmem h
    (Kotlin.plainLines_split hbreaks)
    fun line hline => Text.not_mem_of_mem_split hline
  have hsplit : Text.split '\n' (replaceOrAppendField text schema.name value)
      = edited := by
    rw [hedited, Text.split_intercalate hedit.ne_nil hfeed]
  rw [hsplit]
  refine ⟨hedit, ?_⟩
  rw [hedited, Kotlin.lineSequence_intercalate hplain hfeed]

/-- The field that was edited shows its new value. -/
theorem shownText_edited (hmem : schema ∈ fields)
    (hbreaks : Kotlin.PlainBreaks text)
    (honce : AssignedAtMostOnce text schema.name) (h : Written schema value) :
    shownText (replaceOrAppendField text schema.name value) schema
      = shownAs schema value := by
  obtain ⟨hedit, hlines⟩ := edited_lines hmem hbreaks h
  unfold AssignedAtMostOnce at honce
  rw [lineSequence_split hbreaks] at honce
  rw [shownText_eq hmem, hlines]
  exact hedit.shown hmem h (Kotlin.plainLines_split hbreaks)
    (fun line hline => Text.not_mem_of_mem_split hline) honce _

/-- Other fields show what they did. -/
theorem shownText_other (hmem : schema ∈ fields)
    (hbreaks : Kotlin.PlainBreaks text) (h : Written schema value)
    {other : ConfigFieldSchema} (hother : other ∈ fields)
    (hne : other.name ≠ schema.name) :
    shownText (replaceOrAppendField text schema.name value) other
      = shownText text other := by
  obtain ⟨hedit, hlines⟩ := edited_lines hmem hbreaks h
  rw [shownText_eq hother, shownText_eq hother, hlines,
    lineSequence_split hbreaks]
  exact hedit.others hmem hne _

end

/-- An edited text that is analysed shows no number that is too long, and had
none in its other fields before. -/
theorem ChangesOnly.not_overlong {text value : List Char}
    {schema : ConfigFieldSchema} (h : ChangesOnly text schema value) :
    ∀ other ∈ fields, other.name ≠ schema.name →
      ¬ Overlong other (shownText text other) := by
  obtain ⟨⟨state, hstate, -, hothers⟩, -⟩ := h
  intro other hother hne
  rw [← hothers other hother hne, valueFor_of_analyze hother hstate]
  exact (analyze_returns _).mp ⟨state, hstate⟩ other hother

/-- An edit of a text with plain breaks that assigns to the field at most
once, with a value that its check accepts, an array without line breaks: it
changes that field only, exactly if no other field shows a number that is too
long for the analysis, and a double has no line break within what `trim`
leaves of it. -/
theorem edit_changes_only {text value : List Char} {schema : ConfigFieldSchema}
    (hmem : schema ∈ fields) (hbreaks : Kotlin.PlainBreaks text)
    (honce : AssignedAtMostOnce text schema.name)
    (haccepts : Accepts schema value)
    (harray : isArray schema → Unbroken value) :
    (ChangesOnly text schema value ∧ ReadsBack)
      ↔ (∀ other ∈ fields, other.name ≠ schema.name →
          ¬ Overlong other (shownText text other))
        ∧ (schema.type = .float → Unbroken (Kotlin.trim value)) := by
  constructor
  · rintro ⟨hchanges, -⟩
    refine ⟨hchanges.not_overlong, fun htype => ?_⟩
    obtain ⟨state, hstate, hshown, -⟩ := hchanges.shown
    have htrim : shownAs schema value = Kotlin.trim value := by
      simp only [shownAs, htype]
    rw [← htrim, ← hshown, valueFor_of_analyze hmem hstate]
    exact unbroken_shownText hmem htype _
  · rintro ⟨hfits, hfloat⟩
    have hwritten := written_of_accepts hmem haccepts harray hfloat
    have hself := shownText_edited hmem hbreaks honce hwritten
    have hreturns : ∃ state,
        analyze (replaceOrAppendField text schema.name value) = .ok state := by
      rw [analyze_returns]
      intro other hother
      by_cases hname : other.name = schema.name
      · rw [eq_of_name_eq hother hmem hname, hself]
        exact not_overlong_shownAs haccepts
      · rw [shownText_other hmem hbreaks hwritten hother hname]
        exact hfits other hother hname
    obtain ⟨state, hstate⟩ := hreturns
    refine ⟨⟨⟨state, hstate, ?_, ?_⟩, ?_⟩, readsBack⟩
    · rw [valueFor_of_analyze hmem hstate, hself]
    · intro other hother hne
      rw [valueFor_of_analyze hother hstate,
        shownText_other hmem hbreaks hwritten hother hne]
    · exact (edited_lines hmem hbreaks hwritten).1.keepsLines hmem hwritten

/-- No default is overlong. -/
theorem not_overlong_default {schema : ConfigFieldSchema}
    (hmem : schema ∈ fields) : ¬ Overlong schema schema.defaultValue := by
  rw [← parseValue_returns]
  have haccepted := default_accepted schema hmem
  cases hparse : parseValue schema schema.defaultValue with
  | error e =>
      rw [hparse] at haccepted
      cases haccepted
  | ok parsed => exact ⟨parsed, rfl⟩

/-- A field that no line assigns to shows its default. -/
theorem shownText_default {schema : ConfigFieldSchema} (hmem : schema ∈ fields)
    {text : List Char} (h : ∀ line ∈ Kotlin.lineSequence text,
      ¬ AssignsTo line schema.name) :
    shownText text schema = schema.defaultValue := by
  rw [shownText_eq hmem, foldl_shownAfter_of_none h]

/-- The field of the example. -/
def listenPort : ConfigFieldSchema :=
  { field "LISTEN_PORT" .uint16 "44444" with required := true }

/-- It is one of the schema's. -/
theorem listenPort_mem : listenPort ∈ fields :=
  List.mem_cons_of_mem _ List.mem_cons_self

/-- Blanks around a number are accepted. -/
theorem listenPort_accepts : Accepts listenPort [' ', '8', '0', ' '] :=
  ⟨⟨some (.integer 80), none⟩, rfl, rfl⟩

/-- A text of two lines, the second of which has a comment. -/
def portText : List Char :=
  "# ports\r\nLISTEN_PORT = 1 # a \"note\"\r\n".toList

/-- That edit, on a text with comments. -/
theorem portText_changes_only :
    ChangesOnly portText listenPort [' ', '8', '0', ' '] ∧ ReadsBack := by
  have hlines : ∀ line ∈ Kotlin.lineSequence portText,
      assignmentPattern line = none
        ∨ assignmentPattern line = some "LISTEN_PORT".toList := by
    decide
  refine (edit_changes_only listenPort_mem
    (by decide) (by decide)
    listenPort_accepts ?_).mpr ⟨?_, nofun⟩
  · rintro (h | h) <;> cases h
  · intro other hother hne
    rw [shownText_default hother]
    · exact not_overlong_default hother
    · intro line hline hassigns
      rcases hlines line hline with hnone | hport
      · rw [assignsTo_iff, hnone] at hassigns
        cases hassigns
      · exact hne (hassigns.eq (assignsTo_iff.mpr hport))

/-- A packet selector that is a number of twenty digits. -/
def longSelectorText : List Char :=
  "TLS_FRAG_PACKETS = \"99999999999999999999\"".toList

/-- A field with a range. -/
def tlsFragPackets : ConfigFieldSchema :=
  field "TLS_FRAG_PACKETS" .packetSelector "1-3"

/-- A range whose end is no `Long`. -/
theorem longSelector_overlong :
    Overlong tlsFragPackets (shownText longSelectorText tlsFragPackets) := by
  have hmem : tlsFragPackets ∈ fields := by decide
  have hshown : shownText longSelectorText tlsFragPackets
      = "99999999999999999999".toList := by
    rw [shownText_eq hmem]
    decide
  rw [hshown]
  exact ⟨"99999999999999999999".toList, none, by decide,
    .inl (by decide)⟩

/-- The analysis of such a text throws, whatever was edited in it. -/
theorem longSelector_edit_not_shown :
    ¬ ∀ (text value : List Char) (schema : ConfigFieldSchema),
      schema ∈ fields → Kotlin.PlainBreaks text →
        AssignedAtMostOnce text schema.name → Accepts schema value →
          (isArray schema → Unbroken value) →
            ChangesOnly text schema value ∧ ReadsBack := by
  intro h
  have hmem : tlsFragPackets ∈ fields := by decide
  have hedit := h longSelectorText [' ', '8', '0', ' '] listenPort
    listenPort_mem (by decide) (by decide) listenPort_accepts
    (by rintro (h | h) <;> cases h)
  exact hedit.1.not_overlong tlsFragPackets hmem (by decide)
    longSelector_overlong

end ZeroDpi.Android.ZeroDpiConfigToml
