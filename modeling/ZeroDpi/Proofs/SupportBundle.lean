/-
What a redacted configuration shows of the values it should hide.

A configuration is a list of entries: the assignments to redacted fields
(`Secret`), and the text of all others. Two of them that differ in the values
of the former only (`Variant`) are redacted alike if the sanitizer follows
every such assignment: it is outside of an array when the assignment begins,
reads its key, and the value ends with its line or, for `CUSTOM_DNS_SERVERS`,
with the bracket that the sanitizer counts (`Followed`).

No other value than the port's is safe in itself. From every state of the
sanitizer a string over several lines can close what is open, and then its
next line is shown (`exists_leaks`).
-/
import Mathlib.Data.List.Forall2
import ZeroDpi.Android.SupportBundle
import ZeroDpi.Lib.Toml

namespace ZeroDpi.Android.SupportBundle

open Lib

/-- A line without its break. -/
abbrev Line := List Char

/-- The field with a number. -/
def portField : List Char := "PROXY_TEST_SOCKS5_PORT".toList

-- ========================================================= a configuration

/-- A value of the type that the field has in `Config`. -/
def Fits (field : List Char) : Toml.Value → Prop
  | .string _ => field ≠ portField ∧ field ≠ customDnsServers
  | .integer .. => field = portField
  | .strings _ => field = customDnsServers

/-- A key as it is written: bare, or in quotes. -/
inductive Key where
  | bare
  | quoted (text : List Char)
      (starts : text.head? = some '"' ∨ text.head? = some '\'')
      (plain : ∀ c ∈ text, Toml.isPlain c = true)

/-- The assignment of a value to a redacted field. A byte order mark may stand
before the first one. -/
structure Secret where
  field : List Char
  redacted : field ∈ redactedConfigFields
  lead : List Char
  lead_blank : ∀ c ∈ lead, Toml.isBlank c = true ∨ c = '\uFEFF'
  key : Key
  before : List Char
  before_blank : ∀ c ∈ before, Toml.isBlank c = true
  behind : List Char
  behind_blank : ∀ c ∈ behind, Toml.isBlank c = true
  value : Toml.Value
  fits : Fits field value
  tail : List Char
  tail_plain : ∀ c ∈ tail, Toml.isPlain c = true
  tail_comment : (tail.dropWhile Toml.isBlank).head?.all (· = '#') = true

namespace Secret

/-- The key in the text. -/
def keyText (s : Secret) : List Char :=
  match s.key with
  | .bare => s.field
  | .quoted text _ _ => text

/-- What stands before the value. -/
def front (s : Secret) : List Char :=
  s.lead ++ s.keyText ++ s.before ++ '=' :: s.behind

/-- The assignment in the text. -/
def text (s : Secret) : List Char := s.front ++ (s.value.text ++ s.tail)

/-- Its lines; a multi-line string or an array has several. -/
def lines (s : Secret) : List Line := Text.split '\n' s.text

/-- The same assignment of another value. -/
def withValue (s : Secret) (v : Toml.Value) (h : Fits s.field v) : Secret :=
  { s with value := v, fits := h }

/-- The line that is shown instead. -/
def shown (s : Secret) : Line :=
  s.lead ++ s.field ++ (s.before ++ '=' :: s.behind) ++ SupportBundle.redacted

end Secret

/-- An entry of a document: an assignment of a secret field, or anything
else. -/
inductive Entry where
  | other (text : List Char) (plain : '\r' ∉ text)
  | secret (s : Secret)

namespace Entry

/-- The entry in the text. -/
def text : Entry → List Char
  | other text _ => text
  | secret s => s.text

/-- Its lines. -/
def lines (e : Entry) : List Line := Text.split '\n' e.text

/-- Two entries that may differ in the value of a redacted field. -/
inductive Variant : Entry → Entry → Prop where
  | other (text : List Char) (plain : '\r' ∉ text) :
      Variant (.other text plain) (.other text plain)
  | secret (s : Secret) (v : Toml.Value) (h : Fits s.field v) :
      Variant (.secret s) (.secret (s.withValue v h))

end Entry

/-- The entries of a configuration, and which breaks between its lines are
`\r\n`. -/
structure Document where
  entries : List Entry
  nonempty : entries ≠ []
  crlf : Nat → Bool

/-- The lines of some entries. -/
def linesOf (entries : List Entry) : List Line := entries.flatMap Entry.lines

namespace Document

/-- The whole text of the configuration. -/
def text (d : Document) : List Char :=
  Toml.withBreaks d.crlf 0 (['\n'].intercalate (d.entries.map Entry.text))

/-- The documents differ in nothing but values of redacted fields, and in the
kinds of their breaks. -/
def Variant (d d' : Document) : Prop :=
  List.Forall₂ Entry.Variant d.entries d'.entries

end Document

-- ============================================================ the sanitizer

/-- The sanitizer on some lines, inside of an array or outside. -/
def run (array : Option RedactedArray) (lines : List Line) : State :=
  lines.foldl State.line { arrayState := array }

/-- The brackets are closed on the last line and not before. -/
def closes (a : RedactedArray) : List Line → Prop
  | [] => a.depth ≤ 0
  | line :: rest => 0 < a.depth ∧ closes (a.consume line) rest

/-- The assignment as the sanitizer takes it: a bare key at the beginning of
the line, no line terminator inside of the line, and nothing of the value on
later lines unless the brackets say so. -/
def Secret.Followed (s : Secret) : Prop :=
  s.key = .bare ∧ (∀ c ∈ s.lead, Toml.isBlank c = true)
    ∧ ∃ first rest later, Text.split '\n' (s.value.text ++ s.tail) = first :: later
      ∧ untilEnd first = some rest
      ∧ if s.field = customDnsServers then
          closes (({} : RedactedArray).consume rest) later
        else later = []

/-- `P` holds at every redacted assignment, with the array that the sanitizer
is in when it comes there. -/
def AtSecrets (P : Option RedactedArray → Secret → Prop)
    (array : Option RedactedArray) (entries : List Entry) : Prop :=
  ∀ (before : List Entry) (s : Secret) (behind : List Entry),
    entries = before ++ .secret s :: behind →
      P (run array (linesOf before)).arrayState s

/-- Every redacted assignment is met outside of an array, and followed. -/
def Document.Followed (d : Document) : Prop :=
  AtSecrets (fun array s => array = none ∧ s.Followed) none d.entries

/-- No redacted field but the port is assigned, and that one is followed
wherever it is met outside of an array. -/
def Document.OnlyPort (d : Document) : Prop :=
  AtSecrets (fun array s => s.field = portField ∧ (array = none → s.Followed))
    none d.entries

/-- A line adds to what is shown, by the array only. -/
theorem line_eq (s : State) (line : Line) :
    s.line line = { lines := s.lines ++ (run s.arrayState [line]).lines
                    arrayState := (run s.arrayState [line]).arrayState } := by
  have hone : run s.arrayState [line]
      = State.line { arrayState := s.arrayState } line := rfl
  rw [hone]
  unfold State.line
  cases s.arrayState with
  | some a => simp
  | none =>
      simp only
      cases assignmentPattern line with
      | none => rfl
      | some found =>
          by_cases hfield : found.key ∈ redactedConfigFields
          · simp [hfield]
          · simp [hfield]

/-- The lines that are out already do not matter. -/
theorem foldl_line (s : State) (lines : List Line) :
    lines.foldl State.line s
      = { lines := s.lines ++ (run s.arrayState lines).lines
          arrayState := (run s.arrayState lines).arrayState } := by
  induction lines generalizing s with
  | nil => simp [run]
  | cons line lines ih =>
      have hrun : run s.arrayState (line :: lines)
          = lines.foldl State.line (run s.arrayState [line]) := rfl
      rw [hrun, List.foldl_cons, ih, ih (run s.arrayState [line]), line_eq]
      simp

/-- The state at a cut is the array that is open. -/
theorem run_append (array : Option RedactedArray) (lines later : List Line) :
    run array (lines ++ later)
      = { lines := (run array lines).lines
            ++ (run (run array lines).arrayState later).lines
          arrayState :=
            (run (run array lines).arrayState later).arrayState } := by
  have hrun : run array (lines ++ later)
      = later.foldl State.line (run array lines) := List.foldl_append
  rw [hrun, foldl_line]

/-- Line by line. -/
theorem run_cons (array : Option RedactedArray) (line : Line)
    (lines : List Line) :
    run array (line :: lines)
      = { lines := (run array [line]).lines
            ++ (run (run array [line]).arrayState lines).lines
          arrayState := (run (run array [line]).arrayState lines).arrayState } :=
  run_append array [line] lines

/-- A line inside an array only moves its state. -/
theorem run_array (a : RedactedArray) (line : Line) :
    run (some a) [line] = { arrayState := open? (a.consume line) } := rfl

/-- Lines that close it put nothing out. -/
theorem run_closes {a : RedactedArray} {lines : List Line} (h : closes a lines) :
    run (open? a) lines = {} := by
  induction lines generalizing a with
  | nil =>
      have hopen : open? a = none := if_pos h
      rw [hopen]
      rfl
  | cons line lines ih =>
      obtain ⟨hdepth, hrest⟩ := h
      have hopen : open? a = some a := if_neg (Int.not_le.mpr hdepth)
      rw [run_cons, hopen, run_array, ih hrest]
      rfl

-- ================================================================== the texts

/-- The redacted fields are written in upper case. -/
theorem field_upper {field : List Char} (h : field ∈ redactedConfigFields) :
    field ≠ [] ∧ ∀ c ∈ field, isUpperKeyChar c = true := by
  have hall : redactedConfigFields.all
      (fun f => !f.isEmpty && f.all isUpperKeyChar) = true := by decide
  have hfield := List.all_eq_true.mp hall field h
  simp only [Bool.and_eq_true, Bool.not_eq_true', List.isEmpty_eq_false_iff,
    List.all_eq_true] at hfield
  exact hfield

namespace Secret

/-- Keys have no line breaks. -/
theorem keyText_plain (s : Secret) : '\n' ∉ s.keyText ∧ '\r' ∉ s.keyText := by
  unfold keyText
  cases s.key with
  | bare =>
      have hupper := (field_upper s.redacted).2
      exact ⟨fun hmem => absurd (hupper _ hmem) (by decide),
        fun hmem => absurd (hupper _ hmem) (by decide)⟩
  | quoted text _ plain => exact Toml.not_mem_of_plain plain

/-- Nor has what stands in front of the value. -/
theorem front_plain (s : Secret) : '\n' ∉ s.front ∧ '\r' ∉ s.front := by
  have hkey := s.keyText_plain
  have hpart : ∀ {c : Char}, Toml.isBlank c = false → c ≠ '\uFEFF' → c ≠ '=' →
      c ∉ s.keyText → c ∉ s.front := by
    intro c hblank hmark heq hkey hmem
    simp only [front, List.mem_append, List.mem_cons] at hmem
    rcases hmem with ((hlead | hmem) | hbefore) | hmem | hbehind
    · rcases s.lead_blank c hlead with hc | hc
      · rw [hblank] at hc
        cases hc
      · exact hmark hc
    · exact hkey hmem
    · exact absurd (s.before_blank c hbefore) (by simp [hblank])
    · exact heq hmem
    · exact absurd (s.behind_blank c hbehind) (by simp [hblank])
  exact ⟨hpart (by decide) (by decide) (by decide) hkey.1,
    hpart (by decide) (by decide) (by decide) hkey.2⟩

end Secret

/-- Carriage returns are only in the line breaks. -/
theorem Entry.not_mem_return (e : Entry) : '\r' ∉ e.text := by
  cases e with
  | other text plain => exact plain
  | secret s =>
      have htail := (Toml.not_mem_of_plain s.tail_plain).2
      simp [Entry.text, Secret.text, s.front_plain.2, s.value.not_mem_return,
        htail]

/-- What becomes of a document, as a run over its lines. -/
theorem sanitizedConfig_text (d : Document) :
    sanitizedConfig d.text
      = ['\n'].intercalate (run none (linesOf d.entries)).lines := by
  have hreturn : '\r' ∉ ['\n'].intercalate (d.entries.map Entry.text) := by
    apply Toml.not_mem_intercalate (by decide)
    intro piece hpiece
    obtain ⟨e, -, rfl⟩ := List.mem_map.mp hpiece
    exact e.not_mem_return
  have hlines : Kotlin.lineSequence d.text = linesOf d.entries := by
    rw [Document.text, Toml.lineSequence_withBreaks d.crlf hreturn,
      Text.split_intercalate_flatMap (by simp [d.nonempty]), List.flatMap_map]
    rfl
  unfold sanitizedConfig
  rw [hlines]
  rfl

-- ================================================================ a redaction

/-- A character of a number. -/
abbrev IsDigit (c : Char) : Prop :=
  Kotlin.isAsciiAlnum c = true ∨ c = '_' ∨ c = '+'

/-- Digits are letters or digits. -/
theorem not_isDigit {c d : Char} (h : IsDigit c)
    (hd : Kotlin.isAsciiAlnum d = false ∧ d ≠ '_' ∧ d ≠ '+') : c ≠ d := by
  rintro rfl
  rcases h with h | h | h
  · rw [hd.1] at h
    cases h
  · exact hd.2.1 h
  · exact hd.2.2 h

/-- They are not spaces. -/
theorem IsDigit.not_isSpace {c : Char} (h : IsDigit c) : isSpace c = false := by
  cases hs : isSpace c with
  | false => rfl
  | true =>
      rcases h with h | rfl | rfl
      · unfold Kotlin.isAsciiAlnum at h
        unfold isSpace at hs
        simp only [Bool.or_eq_true, Bool.and_eq_true, decide_eq_true_eq] at h hs
        omega
      · cases hs
      · cases hs

/-- No value starts with a space. -/
theorem value_head (v : Toml.Value) :
    ∃ c rest, v.text = c :: rest ∧ isSpace c = false := by
  cases v with
  | string s =>
      cases s with
      | basic body _ _ => exact ⟨'"', _, rfl, by decide⟩
      | literal body _ _ => exact ⟨'\'', _, rfl, by decide⟩
      | multilineBasic body _ => exact ⟨'"', _, rfl, by decide⟩
      | multilineLiteral body _ => exact ⟨'\'', _, rfl, by decide⟩
  | strings a => exact ⟨'[', _, rfl, by decide⟩
  | integer digits alnum nonempty =>
      obtain ⟨c, rest, rfl⟩ := List.exists_cons_of_ne_nil nonempty
      exact ⟨c, rest, rfl, IsDigit.not_isSpace (alnum c List.mem_cons_self)⟩

/-- A run of characters ends where the next is not one of them. -/
theorem while_append {p : Char → Bool} {a b : List Char}
    (ha : ∀ c ∈ a, p c = true) (hb : ∀ c, b.head? = some c → p c = false) :
    (a ++ b).takeWhile p = a ∧ (a ++ b).dropWhile p = b := by
  rw [List.takeWhile_append_of_pos ha, List.dropWhile_append_of_pos ha]
  cases b with
  | nil => simp
  | cons c rest => simp [hb c rfl]

/-- TOML's blanks are spaces to Kotlin. -/
theorem isSpace_of_isBlank {c : Char} (h : Toml.isBlank c = true) :
    isSpace c = true := by
  simp only [Toml.isBlank, Bool.or_eq_true, decide_eq_true_eq] at h
  rcases h with rfl | rfl
  · decide
  · decide

/-- They and `=` end a key. -/
theorem not_isUpperKeyChar {c : Char} (h : isSpace c = true ∨ c = '=') :
    isUpperKeyChar c = false := by
  rcases h with h | rfl
  · unfold isSpace at h
    unfold isUpperKeyChar
    simp only [Bool.or_eq_true, Bool.and_eq_true, decide_eq_true_eq] at h
    simp only [Bool.or_eq_false_iff, Bool.and_eq_false_iff,
      decide_eq_false_iff_not]
    omega
  · decide

/-- The line of a bare key with a value on it. -/
theorem assignmentPattern_line {s : Secret} (hbare : s.key = .bare)
    (hlead : ∀ c ∈ s.lead, Toml.isBlank c = true) {c : Char}
    (hc : isSpace c = false) (more : List Char) :
    assignmentPattern (s.front ++ c :: more)
      = (untilEnd (c :: more)).map fun rest =>
        { indent := s.lead, key := s.field
          equals := s.before ++ '=' :: s.behind, rest } := by
  have hspace : ∀ {t : List Char}, (∀ c ∈ t, Toml.isBlank c = true) →
      ∀ c ∈ t, isSpace c = true := fun ht c hc => isSpace_of_isBlank (ht c hc)
  obtain ⟨hne, hupper⟩ := field_upper s.redacted
  have hshape : s.front ++ c :: more = s.lead
      ++ (s.field ++ (s.before ++ '=' :: (s.behind ++ c :: more))) := by
    simp [Secret.front, Secret.keyText, hbare]
  obtain ⟨hindent, hbody⟩ := while_append (hspace hlead)
    (b := s.field ++ (s.before ++ '=' :: (s.behind ++ c :: more))) (by
      intro d hd
      obtain ⟨f, fs, hf⟩ := List.exists_cons_of_ne_nil hne
      rw [hf] at hd
      have hmem : d ∈ s.field := by
        rw [hf, ← Option.some.inj hd]
        exact List.mem_cons_self
      cases hs : isSpace d with
      | false => rfl
      | true => exact absurd (hupper d hmem) (by simp [not_isUpperKeyChar (.inl hs)]))
  obtain ⟨hkey, hbehind⟩ := while_append hupper
    (b := s.before ++ '=' :: (s.behind ++ c :: more)) (by
      intro d hd
      apply not_isUpperKeyChar
      cases hbefore : s.before with
      | nil =>
          rw [hbefore] at hd
          exact .inr (Option.some.inj hd).symm
      | cons b bs =>
          rw [hbefore] at hd
          have hmem : d ∈ s.before := by
            rw [hbefore, ← Option.some.inj hd]
            exact List.mem_cons_self
          exact .inl (isSpace_of_isBlank (s.before_blank d hmem)))
  obtain ⟨hequals, heq⟩ := while_append (hspace s.before_blank)
    (b := '=' :: (s.behind ++ c :: more)) (by
      intro d hd
      cases hd
      decide)
  obtain ⟨hblank, hvalue⟩ := while_append (hspace s.behind_blank)
    (b := c :: more) (by
      intro d hd
      cases hd
      exact hc)
  unfold assignmentPattern
  simp only [hshape, hindent, hbody, hkey, hbehind, hequals, heq, hblank, hvalue,
    List.isEmpty_eq_false_iff.mpr hne]
  rfl

/-- What stands behind a number. -/
theorem eq_of_untilEnd {s rest : List Char} (h : untilEnd s = some rest) :
    rest = s.takeWhile fun c => !isTerminator c := by
  unfold untilEnd at h
  split at h
  · exact (Option.some.inj h).symm
  · exact (Option.some.inj h).symm
  · cases h

/-- The servers are an array of strings. -/
theorem strings_of_fits {v : Toml.Value} (h : Fits customDnsServers v) :
    ∃ a, v = .strings a := by
  cases v with
  | string s => exact absurd rfl h.2
  | integer digits alnum nonempty =>
      have hne : customDnsServers ≠ portField := by decide
      exact absurd h hne
  | strings a => exact ⟨a, rfl⟩

/-- A followed assignment shows nothing of its value. -/
theorem run_followed {s : Secret} (h : s.Followed) :
    run none s.lines = { lines := [s.shown] } := by
  obtain ⟨hbare, hlead, first, rest, later, hsplit, hrest, hlater⟩ := h
  obtain ⟨c, more, hvalue, hc⟩ := value_head s.value
  have hlines : s.lines = (s.front ++ first) :: later :=
    Text.split_front s.front_plain.1 hsplit
  obtain ⟨more', rfl⟩ : ∃ more', first = c :: more' := by
    have hn : c ≠ '\n' := by
      rintro rfl
      cases hc
    rw [hvalue, List.cons_append, Text.split, if_neg hn] at hsplit
    cases hs : Text.split '\n' (more ++ s.tail) with
    | nil => exact absurd hs (Text.split_ne_nil _ _)
    | cons piece pieces =>
        rw [hs] at hsplit
        exact ⟨piece, (List.cons.inj hsplit).1.symm⟩
  have hpattern := assignmentPattern_line hbare hlead hc more'
  rw [hrest, Option.map_some] at hpattern
  have hfirst : run none [s.front ++ c :: more']
      = { lines := [s.shown]
          arrayState := arrayBehind { indent := s.lead, key := s.field
                                      equals := s.before ++ '=' :: s.behind
                                      rest } } := by
    show State.line {} _ = _
    simp only [State.line, hpattern, if_pos s.redacted]
    rfl
  rw [hlines, run_cons, hfirst]
  by_cases hdns : s.field = customDnsServers
  · rw [if_pos hdns] at hlater
    have hbracket : (rest.dropWhile Kotlin.isWhitespace).head? = some '[' := by
      obtain ⟨a, ha⟩ := strings_of_fits (hdns ▸ s.fits)
      rw [ha] at hvalue
      obtain rfl : '[' = c := (List.cons.inj hvalue).1
      rw [eq_of_untilEnd hrest]
      rfl
    have harray : arrayBehind { indent := s.lead, key := s.field
                                equals := s.before ++ '=' :: s.behind, rest }
        = open? (({} : RedactedArray).consume rest) := if_pos ⟨hdns, hbracket⟩
    simp only [harray, run_closes hlater]
    rfl
  · rw [if_neg hdns] at hlater
    have harray : arrayBehind { indent := s.lead, key := s.field
                                equals := s.before ++ '=' :: s.behind, rest }
        = none := if_neg fun hboth => hdns hboth.1
    rw [hlater, harray]
    rfl

-- ================================================================== quotes

/-- Only the two quotes are ever open. -/
def RedactedArray.Known (a : RedactedArray) : Prop :=
  a.quote = none ∨ a.quote = some '"' ∨ a.quote = some '\''

/-- The scanner's state stays one of those that are known. -/
theorem consume_known {a : RedactedArray} (h : a.Known) (line : Line) :
    (a.consume line).Known := by
  induction line generalizing a with
  | nil => exact h
  | cons c rest ih =>
      unfold RedactedArray.consume
      by_cases hescaped : a.escaped = true
      · rw [if_pos hescaped]
        exact ih h
      · rw [if_neg hescaped]
        cases hq : a.quote with
        | some quote =>
            have hkeep : some quote = none ∨ some quote = some '"'
                ∨ some quote = some '\'' := hq ▸ h
            simp only
            split
            · exact ih hkeep
            · split
              · exact ih (.inl rfl)
              · exact ih h
        | none =>
            simp only
            split
            · exact h
            · split
              case isTrue hc =>
                apply ih
                rcases hc with rfl | rfl
                · exact .inr (.inl rfl)
                · exact .inr (.inr rfl)
              case isFalse =>
                split
                · exact ih (.inl rfl)
                · split
                  · exact ih (.inl rfl)
                  · exact ih h

/-- A line is taken character by character, up to a comment. -/
theorem consume_cons (a : RedactedArray) (c : Char) (rest : List Char) :
    a.consume (c :: rest)
      = if a.escaped = false ∧ a.quote = none ∧ c = '#' then a
        else (a.consume [c]).consume rest := by
  have hnil : ∀ b : RedactedArray, b.consume [] = b := fun b => rfl
  rw [RedactedArray.consume, RedactedArray.consume]
  by_cases hescaped : a.escaped = true
  · simp [hescaped, hnil]
  · rw [if_neg hescaped, if_neg hescaped]
    cases hq : a.quote with
    | some quote =>
        simp only [hnil]
        by_cases hslash : c = '\\' ∧ quote = '"'
        · simp [hslash]
        · by_cases hclose : c = quote
          · rw [if_neg hslash, if_neg hslash, if_pos hclose, if_pos hclose]
            simp
          · rw [if_neg hslash, if_neg hslash, if_neg hclose, if_neg hclose]
            simp
    | none =>
        simp only [hnil]
        by_cases hhash : c = '#'
        · simp [hhash, hescaped]
        · by_cases hquote : c = '"' ∨ c = '\''
          · simp [hhash, hquote]
          · by_cases hleft : c = '['
            · simp [hleft]
            · by_cases hright : c = ']'
              · simp [hright]
              · simp [hhash, hquote, hleft, hright]

/-- An array that is open has a known quote. -/
def Known (array : Option RedactedArray) : Prop :=
  ∀ a, array = some a → a.Known

/-- No array is open. -/
theorem known_none : Known none := fun _ h => by cases h

/-- An array that was closed, or one that was not. -/
theorem known_open? {a : RedactedArray} (h : a.Known) : Known (open? a) := by
  intro b hb
  unfold open? at hb
  split at hb
  · cases hb
  · cases hb
    exact h

/-- An array that an assignment opens. -/
theorem known_arrayBehind (found : Assignment) : Known (arrayBehind found) := by
  unfold arrayBehind
  split
  · exact known_open? (consume_known (.inl rfl) found.rest)
  · exact known_none

/-- At every line of a document the state is known. -/
theorem run_known {array : Option RedactedArray} (h : Known array)
    (lines : List Line) : Known (run array lines).arrayState := by
  induction lines generalizing array with
  | nil => exact h
  | cons line lines ih =>
      rw [run_cons]
      apply ih
      cases array with
      | some a =>
          rw [run_array]
          exact known_open? (consume_known (h a rfl) line)
      | none =>
          show Known (State.line {} line).arrayState
          unfold State.line
          simp only
          cases assignmentPattern line with
          | none => exact known_none
          | some found =>
              simp only
              split
              · exact known_arrayBehind found
              · exact known_none

-- ============================================================== two documents

variable {P P' : Option RedactedArray → Secret → Prop}
  {array : Option RedactedArray}

/-- What holds at the first secret. -/
theorem AtSecrets.head {s : Secret} {entries : List Entry}
    (h : AtSecrets P array (.secret s :: entries)) : P array s :=
  h [] s entries rfl

/-- And at the later ones. -/
theorem AtSecrets.tail {e : Entry} {entries : List Entry}
    (h : AtSecrets P array (e :: entries)) :
    AtSecrets P (run array e.lines).arrayState entries := by
  intro before s behind hentries
  have hhere := h (e :: before) s behind (by rw [hentries]; rfl)
  rwa [linesOf, List.flatMap_cons, run_append] at hhere

/-- And at both. -/
theorem AtSecrets.cons {e : Entry} {entries : List Entry}
    (hhead : ∀ s, e = .secret s → P array s)
    (htail : AtSecrets P (run array e.lines).arrayState entries) :
    AtSecrets P array (e :: entries) := by
  intro before s behind hentries
  cases before with
  | nil =>
      obtain ⟨he, -⟩ := List.cons_eq_cons.mp hentries
      exact hhead s he
  | cons first before =>
      obtain ⟨rfl, hrest⟩ := List.cons_eq_cons.mp hentries
      rw [linesOf, List.flatMap_cons, run_append]
      exact htail before s behind hrest

/-- There is none. -/
theorem atSecrets_nil : AtSecrets P array [] := by
  intro before s behind hentries
  exact absurd hentries.symm (by simp)

/-- Where `P` and `P'` say that the values of two assignments make no
difference, no value makes one. -/
theorem run_variant (hsame : ∀ {array : Option RedactedArray} {s : Secret}
      {v : Toml.Value} (h : Fits s.field v), Known array → P array s →
        P' array (s.withValue v h) →
          run array s.lines = run array (s.withValue v h).lines)
    {entries entries' : List Entry}
    (h : List.Forall₂ Entry.Variant entries entries') (hknown : Known array)
    (hP : AtSecrets P array entries) (hP' : AtSecrets P' array entries') :
    run array (linesOf entries) = run array (linesOf entries') := by
  induction h generalizing array with
  | nil => rfl
  | @cons e e' rest rest' he hrest ih =>
      have hlines : run array e.lines = run array e'.lines := by
        cases he with
        | other text plain => rfl
        | secret s v h => exact hsame h hknown hP.head hP'.head
      have hbehind := hP'.tail
      rw [← hlines] at hbehind
      have htail := ih (run_known hknown e.lines) hP.tail hbehind
      rw [linesOf, linesOf, List.flatMap_cons, List.flatMap_cons, run_append,
        run_append, ← hlines]
      rw [linesOf, linesOf] at htail
      rw [htail]

/-- Two followed documents are redacted alike. -/
theorem sanitizedConfig_followed {d d' : Document} (h : d.Variant d')
    (hd : d.Followed) (hd' : d'.Followed) :
    sanitizedConfig d.text = sanitizedConfig d'.text := by
  rw [sanitizedConfig_text, sanitizedConfig_text, run_variant _ h known_none
    hd hd']
  rintro array s v h - ⟨rfl, hs⟩ ⟨-, hs'⟩
  rw [run_followed hs]
  exact (run_followed hs').symm

-- ==================================================================== the port

/-- The port is an integer. -/
theorem integer_of_fits {v : Toml.Value} (h : Fits portField v) :
    ∃ digits alnum nonempty, v = .integer digits alnum nonempty := by
  cases v with
  | string s => exact absurd rfl h.1
  | integer digits alnum nonempty => exact ⟨digits, alnum, nonempty, rfl⟩
  | strings a =>
      have hne : portField ≠ customDnsServers := by decide
      exact absurd h hne

/-- A character of a number changes nothing for the array. -/
theorem consume_digit {a : RedactedArray} {c : Char} (hopen : a.escaped = false)
    (hc : IsDigit c) (hquote : a.quote ≠ some c) (rest : List Char) :
    a.consume (c :: rest) = a.consume rest := by
  have hslash : c ≠ '\\' := not_isDigit hc (by decide)
  have hhash : c ≠ '#' := not_isDigit hc (by decide)
  have hdouble : c ≠ '"' := not_isDigit hc (by decide)
  have hsingle : c ≠ '\'' := not_isDigit hc (by decide)
  have hleft : c ≠ '[' := not_isDigit hc (by decide)
  have hright : c ≠ ']' := not_isDigit hc (by decide)
  rw [RedactedArray.consume, if_neg (by simp [hopen])]
  cases hq : a.quote with
  | some quote =>
      have hne : c ≠ quote := by
        rintro rfl
        exact hquote hq
      simp [hslash, hne]
  | none => simp [hhash, hdouble, hsingle, hleft, hright]

/-- A number's characters change nothing but an escape. -/
theorem consume_digits {digits : List Char} (h : ∀ c ∈ digits, IsDigit c)
    {a : RedactedArray} (ha : a.Known) (hopen : a.escaped = false)
    (tail : List Char) : a.consume (digits ++ tail) = a.consume tail := by
  induction digits with
  | nil => rfl
  | cons c digits ih =>
      obtain ⟨hc, hdigits⟩ := List.forall_mem_cons.mp h
      have hquote : a.quote ≠ some c := by
        rcases ha with hq | hq | hq
        · rw [hq]
          exact nofun
        · rw [hq]
          exact fun hc' => not_isDigit hc (by decide) (Option.some.inj hc').symm
        · rw [hq]
          exact fun hc' => not_isDigit hc (by decide) (Option.some.inj hc').symm
      rw [List.cons_append, consume_digit hopen hc hquote, ih hdigits]

/-- One number does to the array what another does. -/
theorem consume_number {digits digits' : List Char}
    (h : ∀ c ∈ digits, IsDigit c) (hne : digits ≠ [])
    (h' : ∀ c ∈ digits', IsDigit c) (hne' : digits' ≠ []) {a : RedactedArray}
    (ha : a.Known) (front tail : List Char) :
    a.consume (front ++ (digits ++ tail))
      = a.consume (front ++ (digits' ++ tail)) := by
  induction front generalizing a with
  | nil =>
      by_cases hescaped : a.escaped = true
      · obtain ⟨c, rest, rfl⟩ := List.exists_cons_of_ne_nil hne
        obtain ⟨c', rest', rfl⟩ := List.exists_cons_of_ne_nil hne'
        have hrest := (List.forall_mem_cons.mp h).2
        have hrest' := (List.forall_mem_cons.mp h').2
        have hknown : RedactedArray.Known { a with escaped := false } := ha
        simp only [List.nil_append, List.cons_append, RedactedArray.consume,
          if_pos hescaped]
        rw [consume_digits hrest hknown rfl, consume_digits hrest' hknown rfl]
      · have hopen : a.escaped = false := by simpa using hescaped
        rw [List.nil_append, List.nil_append, consume_digits h ha hopen,
          consume_digits h' ha hopen]
  | cons c front ih =>
      have hone : (a.consume [c]).Known := consume_known ha [c]
      rw [List.cons_append, List.cons_append,
        consume_cons a c (front ++ (digits ++ tail)),
        consume_cons a c (front ++ (digits' ++ tail)), ih hone]

/-- A digit breaks no line. -/
theorem IsDigit.ne_feed {c : Char} (h : IsDigit c) : c ≠ '\n' :=
  not_isDigit h (by decide)

/-- And ends no value. -/
theorem IsDigit.not_isTerminator {c : Char} (h : IsDigit c) :
    isTerminator c = false := by
  rcases h with h | rfl | rfl
  · unfold Kotlin.isAsciiAlnum at h
    unfold isTerminator
    simp only [Bool.or_eq_true, Bool.and_eq_true, decide_eq_true_eq] at h
    simp only [Bool.or_eq_false_iff, decide_eq_false_iff_not]
    omega
  · decide
  · decide

/-- A number does not end a line early. -/
theorem untilEnd_digits {digits : List Char} (h : ∀ c ∈ digits, IsDigit c)
    (tail : List Char) :
    untilEnd (digits ++ tail) = (untilEnd tail).map (digits ++ ·) := by
  have hplain : ∀ c ∈ digits, (!isTerminator c) = true := fun c hc => by
    rw [(h c hc).not_isTerminator]
    rfl
  unfold untilEnd
  rw [List.dropWhile_append_of_pos hplain, List.takeWhile_append_of_pos hplain]
  split <;> rfl

namespace Secret

variable {s : Secret}

/-- A port stands on one line. -/
theorem split_port (hport : s.field = portField) :
    Text.split '\n' (s.value.text ++ s.tail) = [s.value.text ++ s.tail] := by
  obtain ⟨digits, alnum, nonempty, hvalue⟩ := integer_of_fits (hport ▸ s.fits)
  have htail := (Toml.not_mem_of_plain s.tail_plain).1
  have hdigits : '\n' ∉ digits := fun hmem => IsDigit.ne_feed (alnum _ hmem) rfl
  apply Text.split_of_not_mem
  rw [hvalue]
  simp [Toml.Value.text, hdigits, htail]

/-- The assignment of a number is one line. -/
theorem lines_port (hport : s.field = portField) :
    s.lines = [s.front ++ (s.value.text ++ s.tail)] :=
  Text.split_front s.front_plain.1 (split_port hport)

/-- When the pattern for numbers finds one. -/
theorem followed_port_iff (hport : s.field = portField) :
    s.Followed ↔ s.key = .bare ∧ (∀ c ∈ s.lead, Toml.isBlank c = true)
      ∧ ∃ rest, untilEnd s.tail = some rest := by
  obtain ⟨digits, alnum, nonempty, hvalue⟩ := integer_of_fits (hport ▸ s.fits)
  have hend : untilEnd (s.value.text ++ s.tail)
      = (untilEnd s.tail).map (digits ++ ·) := by
    rw [hvalue]
    exact untilEnd_digits alnum s.tail
  have hdns : s.field ≠ customDnsServers := by
    rw [hport]
    decide
  constructor
  · rintro ⟨hbare, hlead, first, rest, later, hsplit, hrest, -⟩
    rw [split_port hport] at hsplit
    cases hsplit
    rw [hend] at hrest
    obtain ⟨rest, htail, -⟩ := Option.map_eq_some_iff.mp hrest
    exact ⟨hbare, hlead, rest, htail⟩
  · rintro ⟨hbare, hlead, rest, htail⟩
    refine ⟨hbare, hlead, _, digits ++ rest, [], split_port hport, ?_, ?_⟩
    · rw [hend, htail]
      rfl
    · rw [if_neg hdns]

end Secret

/-- One port is as good as another. -/
theorem run_port {s : Secret} {v : Toml.Value} (h : Fits s.field v)
    (hknown : Known array) (hport : s.field = portField)
    (hfollowed : array = none → s.Followed) :
    run array s.lines = run array (s.withValue v h).lines := by
  cases array with
  | none =>
      have hs := hfollowed rfl
      have hs' : (s.withValue v h).Followed :=
        (Secret.followed_port_iff (s := s.withValue v h) hport).mpr
          ((Secret.followed_port_iff hport).mp hs)
      rw [run_followed hs]
      exact (run_followed hs').symm
  | some a =>
      obtain ⟨digits, alnum, nonempty, hvalue⟩ :=
        integer_of_fits (hport ▸ s.fits)
      obtain ⟨digits', alnum', nonempty', rfl⟩ := integer_of_fits (hport ▸ h)
      rw [Secret.lines_port hport, Secret.lines_port (s := s.withValue _ h) hport,
        run_array, run_array, hvalue]
      exact congrArg (fun b => ({ arrayState := open? b } : State))
        (consume_number alnum nonempty alnum' nonempty' (hknown a rfl) s.front
          s.tail)

/-- Where only the port is assigned, and followed, the port is not shown. -/
theorem sanitizedConfig_onlyPort {d d' : Document} (h : d.Variant d')
    (hd : d.OnlyPort) : sanitizedConfig d.text = sanitizedConfig d'.text := by
  have hall : AtSecrets (fun _ _ => True) none d'.entries := fun _ _ _ _ => trivial
  rw [sanitizedConfig_text, sanitizedConfig_text, run_variant _ h known_none hd
    hall]
  rintro array s v h hknown ⟨hport, hfollowed⟩ -
  exact run_port h hknown hport hfollowed

-- =================================================================== the leak

/-- A line that closes what is open, and may stand in a string of several
lines. -/
structure Closes (array : Option RedactedArray) (line : Line) : Prop where
  plain : '\n' ∉ line
  inside : ∀ {s : List Char}, Toml.Multiline '"' true 0 s →
    Toml.Multiline '"' true 0 (line ++ '\n' :: s)
  closed : (run array [line]).arrayState = none

/-- Brackets at once, where no string is open. -/
theorem consume_brackets {a : RedactedArray} (hopen : a.escaped = false)
    (hquote : a.quote = none) (n : Nat) :
    (a.consume (List.replicate n ']')).depth = a.depth - n := by
  induction n generalizing a with
  | zero => simp [RedactedArray.consume]
  | succ n ih =>
      have hone : a.consume (List.replicate (n + 1) ']')
          = RedactedArray.consume { a with depth := a.depth - 1 }
            (List.replicate n ']') := by
        rw [List.replicate_succ, RedactedArray.consume, if_neg (by simp [hopen])]
        simp [hquote]
      have hrest := ih (a := { a with depth := a.depth - 1 }) hopen hquote
      rw [hone, hrest]
      show a.depth - 1 - (n : Int) = a.depth - ((n + 1 : Nat) : Int)
      omega

/-- What ends an escape and an open string. -/
def unquote (a : RedactedArray) : List Char :=
  (if a.escaped then ['x'] else []) ++ a.quote.toList

/-- Closing the quote that is open. -/
theorem consume_unquote {a : RedactedArray} (h : a.Known) (rest : List Char) :
    a.consume (unquote a ++ rest)
      = RedactedArray.consume { depth := a.depth } rest := by
  obtain ⟨depth, quote, escaped⟩ := a
  rcases h with h | h | h
  all_goals
    cases h
    cases escaped
    · simp [unquote, RedactedArray.consume]
    · simp [unquote, RedactedArray.consume]

/-- Text that closes it and the array is a multi-line string's. -/
theorem unquote_inside {a : RedactedArray} (h : a.Known) (n : Nat)
    {s : List Char} (hs : Toml.Multiline '"' true 0 s) :
    Toml.Multiline '"' true 0
      (unquote a ++ List.replicate n ']' ++ '\n' :: s) := by
  obtain ⟨depth, quote, escaped⟩ := a
  have hbrackets : ∀ c ∈ List.replicate n ']', c ≠ '"' ∧ c ≠ '\\'
      ∧ Toml.isPlain c = true := by
    intro c hc
    rw [(List.mem_replicate.mp hc).2]
    decide
  have hrest : ∀ m, Toml.Multiline '"' true m
      (List.replicate n ']' ++ '\n' :: s) :=
    fun m => .line (by decide) hbrackets hs
  have hquote : ∀ m, m < 2 → Toml.Multiline '"' true m
      (quote.toList ++ (List.replicate n ']' ++ '\n' :: s)) := by
    intro m hm
    rcases h with h | h | h
    · cases h
      exact hrest m
    · cases h
      exact .quote hm (hrest (m + 1))
    · cases h
      exact .char (by decide) (fun _ => by decide) (.inl (by decide)) (hrest 0)
  unfold unquote
  rw [List.append_assoc, List.append_assoc]
  cases escaped with
  | false => exact hquote 0 (by decide)
  | true =>
      exact .char (by decide) (fun _ => by decide) (.inl (by decide))
        (hquote 0 (by decide))

/-- Every open array can be closed by a line. -/
theorem exists_closes (h : Known array) : ∃ line, Closes array line := by
  cases array with
  | none =>
      refine ⟨[], List.not_mem_nil, fun hs => ?_, rfl⟩
      exact .char (by decide) (fun _ => by decide) (.inr rfl) hs
  | some a =>
      have ha : a.Known := h a rfl
      refine ⟨unquote a ++ List.replicate a.depth.toNat ']', ?_,
        unquote_inside ha _, ?_⟩
      · obtain ⟨depth, quote, escaped⟩ := a
        rcases ha with hquote | hquote | hquote
        all_goals
          cases hquote
          cases escaped
          · simp [unquote]
          · simp [unquote]
      · rw [run_array, consume_unquote ha]
        apply if_pos
        rw [consume_brackets rfl rfl]
        show a.depth - (a.depth.toNat : Int) ≤ 0
        omega

/-- A string of several lines, or an array with one, for every field but the
port. -/
theorem exists_value {field : List Char} (hfield : field ≠ portField) :
    ∃ opening closing, '\n' ∉ opening ∧ '\n' ∉ closing
      ∧ ∀ body, Toml.Multiline '"' true 0 body →
        ∃ v, Fits field v ∧ v.text = opening ++ (body ++ closing) := by
  by_cases hdns : field = customDnsServers
  · refine ⟨['[', '"', '"', '"'], ['"', '"', '"', ']'], by decide, by decide,
      fun body hbody => ⟨.strings {
        items := [⟨[], .multilineBasic body hbody, []⟩]
        comma := false
        last := []
        comma_behind := fun h => by cases h }, hdns, ?_⟩⟩
    simp [Toml.Value.text, Toml.StrArray.text, Toml.Item.text, Toml.Str.text,
      Toml.triviaText]
  · refine ⟨['"', '"', '"'], ['"', '"', '"'], by decide, by decide,
      fun body hbody => ⟨.string (.multilineBasic body hbody), ⟨hfield, hdns⟩, ?_⟩⟩
    simp [Toml.Value.text, Toml.Str.text]

/-- Two values of which a line is shown that is not the same. -/
structure Leaks (array : Option RedactedArray) (s : Secret) (v v' : Toml.Value) :
    Prop where
  fits : Fits s.field v
  fits' : Fits s.field v'
  shown : ∃ front line line' behind behind', line ≠ line'
    ∧ (run array (s.withValue v fits).lines).lines = front ++ line :: behind
    ∧ (run array (s.withValue v' fits').lines).lines = front ++ line' :: behind'

/-- A value with three line breaks, and what is on its lines. -/
theorem lines_withValue {s : Secret} {v : Toml.Value} (h : Fits s.field v)
    {opening close line closing : List Char}
    (htext : v.text = opening
      ++ ('\n' :: (close ++ '\n' :: (line ++ ['\n'])) ++ closing))
    (hopening : '\n' ∉ opening) (hclose : '\n' ∉ close) (hline : '\n' ∉ line)
    (hclosing : '\n' ∉ closing) :
    (s.withValue v h).lines
      = [s.front ++ opening, close, line, closing ++ s.tail] := by
  have htail := (Toml.not_mem_of_plain s.tail_plain).1
  have hshape : (s.withValue v h).text = (s.front ++ opening)
      ++ '\n' :: (close ++ '\n' :: (line ++ '\n' :: (closing ++ s.tail))) := by
    show s.front ++ (v.text ++ s.tail) = _
    rw [htext]
    simp
  rw [Secret.lines, hshape, Text.split_append (by simp [s.front_plain.1, hopening]),
    Text.split_append hclose, Text.split_append hline,
    Text.split_of_not_mem (by simp [hclosing, htail])]

/-- A secret that is not followed leaks: two values of it are told apart. -/
theorem exists_leaks {s : Secret} (h : Known array) (hfield : s.field ≠ portField) :
    ∃ v v', Leaks array s v v' := by
  obtain ⟨opening, closing, hopening, hclosing, hvalue⟩ := exists_value hfield
  obtain ⟨close, hclose⟩ := exists_closes (run_known h [s.front ++ opening])
  have hmark : ∀ x : Char, x ≠ '"' ∧ x ≠ '\\' ∧ Toml.isPlain x = true →
      ∃ v, Fits s.field v ∧ v.text = opening
        ++ ('\n' :: (close ++ '\n' :: ([x] ++ ['\n'])) ++ closing) := by
    intro x hx
    have hlast : Toml.Multiline '"' true 0 ([x] ++ '\n' :: []) :=
      .line (by decide) (by simpa using hx) .nil
    exact hvalue _ (.char (by decide) (fun _ => by decide) (.inr rfl)
      (hclose.inside hlast))
  have hshown : ∀ {x : Char} {v : Toml.Value} (hv : Fits s.field v),
      v.text = opening
        ++ ('\n' :: (close ++ '\n' :: ([x] ++ ['\n'])) ++ closing) →
      '\n' ∉ [x] → run none [[x]] = { lines := [[x]] } →
      ∃ behind, (run array (s.withValue v hv).lines).lines
        = ((run array [s.front ++ opening]).lines
          ++ (run (run array [s.front ++ opening]).arrayState [close]).lines)
          ++ [x] :: behind := by
    intro x v hv htext hfeed hx
    rw [lines_withValue hv htext hopening hclose.plain hfeed hclosing, run_cons,
      run_cons _ close, hclose.closed, run_cons _ [x], hx]
    exact ⟨_, by simp; rfl⟩
  obtain ⟨v, hv, htext⟩ := hmark 'A' (by decide)
  obtain ⟨v', hv', htext'⟩ := hmark 'B' (by decide)
  obtain ⟨behind, hA⟩ := hshown hv htext (by decide) rfl
  obtain ⟨behind', hB⟩ := hshown hv' htext' (by decide) rfl
  exact ⟨v, v', hv, hv', _, _, _, behind, behind', by decide, hA, hB⟩

/-- A line that begins neither with a key nor with blanks before one. -/
theorem assignmentPattern_other {front : List Char} {c : Char}
    (hfront : ∀ d ∈ front, isSpace d = true) (hc : isSpace c = false)
    (hkey : isUpperKeyChar c = false) (rest : List Char) :
    assignmentPattern (front ++ c :: rest) = none := by
  obtain ⟨-, hbody⟩ := while_append hfront (b := c :: rest) (by
    intro d hd
    cases hd
    exact hc)
  unfold assignmentPattern
  simp only [hbody]
  have hempty : (c :: rest).takeWhile isUpperKeyChar = [] :=
    List.takeWhile_cons_of_neg (by simp [hkey])
  rw [hempty]
  split <;> rfl

/-- The first character that is not one of those. -/
theorem exists_first {p : Char → Bool} {t : List Char}
    (h : ¬ ∀ c ∈ t, p c = true) :
    ∃ front c rest, t = front ++ c :: rest ∧ (∀ d ∈ front, p d = true)
      ∧ p c = false := by
  induction t with
  | nil => exact absurd (fun c hc => by cases hc) h
  | cons d t ih =>
      by_cases hd : p d = true
      · obtain ⟨front, c, rest, rfl, hfront, hc⟩ :=
          ih fun hall => h (List.forall_mem_cons.mpr ⟨hd, hall⟩)
        exact ⟨d :: front, c, rest, rfl, List.forall_mem_cons.mpr ⟨hd, hfront⟩, hc⟩
      · exact ⟨[], d, t, rfl, (fun e he => by cases he), by simpa using hd⟩

/-- A port that is not followed is shown, outside of an array. -/
theorem assignmentPattern_port {s : Secret} (hport : s.field = portField)
    (hs : ¬ s.Followed) {c : Char} (hc : IsDigit c) :
    assignmentPattern (s.front ++ c :: s.tail) = none := by
  by_cases hlead : ∀ d ∈ s.lead, Toml.isBlank d = true
  · cases hkey : s.key with
    | bare =>
        have hend : untilEnd s.tail = none := by
          cases hrest : untilEnd s.tail with
          | none => rfl
          | some rest =>
              exact absurd ((Secret.followed_port_iff hport).mpr
                ⟨hkey, hlead, rest, hrest⟩) hs
        have hline := untilEnd_digits (List.forall_mem_singleton.mpr hc) s.tail
        rw [hend, Option.map_none] at hline
        rw [assignmentPattern_line hkey hlead hc.not_isSpace]
        exact congrArg _ hline
    | quoted text starts plain =>
        obtain ⟨d, rest, hd, hquote⟩ : ∃ d rest, text = d :: rest
            ∧ (d = '"' ∨ d = '\'') := by
          rcases starts with hhead | hhead
          · obtain ⟨rest, rfl⟩ := List.head?_eq_some_iff.mp hhead
            exact ⟨_, rest, rfl, .inl rfl⟩
          · obtain ⟨rest, rfl⟩ := List.head?_eq_some_iff.mp hhead
            exact ⟨_, rest, rfl, .inr rfl⟩
        have hshape : s.front ++ c :: s.tail = s.lead ++ d :: (rest ++ s.before
            ++ '=' :: (s.behind ++ c :: s.tail)) := by
          simp [Secret.front, Secret.keyText, hkey, hd]
        rw [hshape]
        apply assignmentPattern_other fun e he => isSpace_of_isBlank (hlead e he)
        · rcases hquote with rfl | rfl
          · decide
          · decide
        · rcases hquote with rfl | rfl
          · decide
          · decide
  · -- the byte order mark stands behind the first blanks
    obtain ⟨front, mark, rest, hsplit, hfront, hmark⟩ := exists_first hlead
    have hbom : mark = '\uFEFF' := by
      have hmem : mark ∈ s.lead := by
        rw [hsplit]
        exact List.mem_append_right _ List.mem_cons_self
      rcases s.lead_blank mark hmem with hblank | hbom
      · rw [hmark] at hblank
        cases hblank
      · exact hbom
    subst hbom
    have hshape : s.front ++ c :: s.tail = front
        ++ '\uFEFF' :: (rest ++ s.keyText ++ s.before
          ++ '=' :: (s.behind ++ c :: s.tail)) := by
      simp [Secret.front, hsplit]
    rw [hshape]
    apply assignmentPattern_other fun e he => isSpace_of_isBlank (hfront e he)
    · decide
    · decide

/-- So does the port. -/
theorem exists_leaks_port {s : Secret} (hport : s.field = portField)
    (hs : ¬ s.Followed) : ∃ v v', Leaks none s v v' := by
  have hvalue : ∀ {c : Char}, IsDigit c → ∃ v, ∃ h : Fits s.field v,
      (run none (s.withValue v h).lines).lines
        = [] ++ (s.front ++ c :: s.tail) :: [] := by
    intro c hc
    refine ⟨.integer [c] (List.forall_mem_singleton.mpr hc)
      (List.cons_ne_nil c []), hport, ?_⟩
    have hkept : run none [s.front ++ c :: s.tail]
        = { lines := [s.front ++ c :: s.tail] } := by
      show State.line {} _ = _
      unfold State.line
      rw [assignmentPattern_port hport hs hc]
      rfl
    have hlines : (s.withValue (.integer [c] (List.forall_mem_singleton.mpr hc)
        (List.cons_ne_nil c [])) hport).lines = [s.front ++ c :: s.tail] :=
      Secret.lines_port hport
    rw [hlines]
    exact congrArg State.lines hkept
  obtain ⟨v, h, hshown⟩ := hvalue (c := '1') (.inl (by decide))
  obtain ⟨v', h', hshown'⟩ := hvalue (c := '2') (.inl (by decide))
  refine ⟨v, v', h, h', [], _, _, [], [], ?_, hshown, hshown'⟩
  intro hsame
  have hchar := List.append_cancel_left hsame
  exact absurd (List.cons.inj hchar).1 (by decide)

/-- The parts of an assignment are parts of its line. -/
theorem assignmentPattern_plain {line : Line} {found : Assignment}
    (h : assignmentPattern line = some found) {c : Char} (hc : c ∉ line)
    (heq : c ≠ '=') : c ∉ found.indent ++ found.key ++ found.equals := by
  have htake : ∀ {p : Char → Bool} {t : List Char}, c ∉ t → c ∉ t.takeWhile p :=
    fun ht hmem => ht ((List.takeWhile_prefix _).subset hmem)
  have hdrop : ∀ {p : Char → Bool} {t : List Char}, c ∉ t → c ∉ t.dropWhile p :=
    fun ht hmem => ht ((List.dropWhile_suffix _).subset hmem)
  unfold assignmentPattern at h
  have hbehind : c ∉ ((line.dropWhile isSpace).dropWhile isUpperKeyChar).dropWhile
      isSpace := hdrop (hdrop (hdrop hc))
  simp only at h
  split at h
  case h_1 rest hrest =>
    split at h
    · cases h
    · obtain ⟨_, -, rfl⟩ := Option.map_eq_some_iff.mp h
      rw [hrest] at hbehind
      have hvalue : c ∉ rest := fun hmem => hbehind (List.mem_cons_of_mem _ hmem)
      simp [htake hc, htake (hdrop hc), htake (hdrop (hdrop hc)), htake hvalue, heq]
  case h_2 => cases h

/-- No line that is put out has a break. -/
theorem run_plain {lines : List Line} (h : ∀ line ∈ lines, '\n' ∉ line)
    (array : Option RedactedArray) :
    ∀ line ∈ (run array lines).lines, '\n' ∉ line := by
  have hone : ∀ (array : Option RedactedArray) {line : Line}, '\n' ∉ line →
      ∀ shown ∈ (run array [line]).lines, '\n' ∉ shown := by
    intro array line hline shown hshown
    cases array with
    | some a => cases hshown
    | none =>
        revert hshown
        show shown ∈ (State.line {} line).lines → _
        unfold State.line
        simp only
        cases hfound : assignmentPattern line with
        | none =>
            intro hshown
            rwa [List.mem_singleton.mp hshown]
        | some found =>
            simp only
            split
            · intro hshown
              have hplain := assignmentPattern_plain hfound hline (by decide)
              have hmark : '\n' ∉ redacted := by decide
              rw [List.mem_singleton.mp hshown]
              simp only [List.mem_append, not_or] at hplain ⊢
              exact ⟨hplain, hmark⟩
            · intro hshown
              rwa [List.mem_singleton.mp hshown]
  induction lines generalizing array with
  | nil =>
      intro line hline
      cases hline
  | cons line lines ih =>
      obtain ⟨hline, hlines⟩ := List.forall_mem_cons.mp h
      intro shown hshown
      rw [run_cons] at hshown
      rcases List.mem_append.mp hshown with hfirst | hlater
      · exact hone array hline shown hfirst
      · exact ih hlines _ shown hlater

/-- Nor has a line of a document. -/
theorem linesOf_plain (entries : List Entry) :
    ∀ line ∈ linesOf entries, '\n' ∉ line := by
  intro line hline
  obtain ⟨e, -, he⟩ := List.mem_flatMap.mp hline
  exact Text.not_mem_of_mem_split he

/-- Two values that leak make two documents that are not redacted alike. -/
theorem sanitizedConfig_leaks {before behind : List Entry} {s : Secret}
    {v v' : Toml.Value}
    (h : Leaks (run none (linesOf before)).arrayState s v v') {d d' : Document}
    (hd : d.entries = before ++ .secret (s.withValue v h.fits) :: behind)
    (hd' : d'.entries = before ++ .secret (s.withValue v' h.fits') :: behind) :
    sanitizedConfig d.text ≠ sanitizedConfig d'.text := by
  obtain ⟨front, line, line', more, more', hne, hshown, hshown'⟩ := h.shown
  have hlines : ∀ {e : Entry} {front more : List Line} {line : Line},
      (run (run none (linesOf before)).arrayState e.lines).lines
        = front ++ line :: more →
      ∃ rest, (run none (linesOf (before ++ e :: behind))).lines
        = (run none (linesOf before)).lines ++ front ++ line :: rest := by
    intro e front more line he
    have hsplit : linesOf (before ++ e :: behind)
        = linesOf before ++ (e.lines ++ linesOf behind) := by
      simp [linesOf]
    rw [hsplit, run_append, run_append _ e.lines, he]
    exact ⟨_, by simp; rfl⟩
  obtain ⟨rest, htext⟩ := hlines (e := .secret (s.withValue v h.fits)) hshown
  obtain ⟨rest', htext'⟩ := hlines (e := .secret (s.withValue v' h.fits')) hshown'
  have hplain := run_plain (linesOf_plain d.entries) none
  have hplain' := run_plain (linesOf_plain d'.entries) none
  rw [sanitizedConfig_text, sanitizedConfig_text]
  intro hsame
  have hsplit := congrArg (Text.split '\n') hsame
  rw [hd] at hplain hsplit
  rw [hd'] at hplain' hsplit
  rw [Text.split_intercalate (by simp [htext]) hplain,
    Text.split_intercalate (by simp [htext']) hplain', htext, htext'] at hsplit
  exact hne (List.cons.inj (List.append_cancel_left hsplit)).1

/-- A document is a variant of itself. -/
theorem variant_refl (entries : List Entry) :
    List.Forall₂ Entry.Variant entries entries := by
  induction entries with
  | nil => exact .nil
  | cons e entries ih =>
      refine .cons ?_ ih
      cases e with
      | other text plain => exact .other text plain
      | secret s => exact .secret s s.value s.fits

/-- So it is with one secret replaced. -/
theorem variant_replace {before behind : List Entry} {s : Secret}
    {v : Toml.Value} (h : Fits s.field v) :
    List.Forall₂ Entry.Variant (before ++ .secret s :: behind)
      (before ++ .secret (s.withValue v h) :: behind) := by
  induction before with
  | nil => exact .cons (.secret s v h) (variant_refl behind)
  | cons e before ih =>
      exact .cons (List.forall₂_cons.mp (variant_refl (e :: before))).1 ih

/-- If every variant is redacted alike, only the port is assigned. -/
theorem onlyPort_of_same {d : Document}
    (h : ∀ d', d.Variant d' → sanitizedConfig d.text = sanitizedConfig d'.text) :
    d.OnlyPort := by
  intro before s behind hentries
  have hknown := run_known known_none (linesOf before)
  -- two values that leak are both redacted like the value of the document
  have hno : ∀ v v', ¬ Leaks (run none (linesOf before)).arrayState s v v' := by
    intro v v' hleaks
    have hvariant : ∀ {v : Toml.Value} (hv : Fits s.field v), d.Variant
        ⟨before ++ .secret (s.withValue v hv) :: behind, by simp, d.crlf⟩ := by
      intro v hv
      unfold Document.Variant
      rw [hentries]
      exact variant_replace hv
    have hsame := (h _ (hvariant hleaks.fits)).symm.trans
      (h _ (hvariant hleaks.fits'))
    exact sanitizedConfig_leaks hleaks rfl rfl hsame
  have hport : s.field = portField := by
    by_cases hfield : s.field = portField
    · exact hfield
    · obtain ⟨v, v', hleaks⟩ := exists_leaks hknown hfield
      exact absurd hleaks (hno v v')
  refine ⟨hport, fun harray => ?_⟩
  by_cases hs : s.Followed
  · exact hs
  · obtain ⟨v, v', hleaks⟩ := exists_leaks_port hport hs
    rw [show (run none (linesOf before)).arrayState = none from harray] at hno
    exact absurd hleaks (hno v v')

-- ========================================================= strings on a line

/-- The sanitizer, somewhere in an array, finds its end with the end of the
text. -/
def Follows (a : RedactedArray) (t : List Char) : Prop :=
  ∃ first later, Text.split '\n' t = first :: later ∧ closes (a.consume first) later

/-- Text that moves both states alike. -/
theorem follows_front {a b : RedactedArray} {front t : List Char}
    (hfront : '\n' ∉ front)
    (h : ∀ rest, a.consume (front ++ rest) = b.consume rest) (ht : Follows b t) :
    Follows a (front ++ t) := by
  obtain ⟨first, later, hsplit, hcloses⟩ := ht
  refine ⟨front ++ first, later, Text.split_front hfront hsplit, ?_⟩
  rwa [h first]

/-- A line break inside an array. -/
theorem follows_newline {a : RedactedArray} {t : List Char} (ha : 0 < a.depth)
    (ht : Follows a t) : Follows a ('\n' :: t) := by
  obtain ⟨first, later, hsplit, hcloses⟩ := ht
  refine ⟨[], first :: later, ?_, ha, hcloses⟩
  rw [Text.split, if_pos rfl, hsplit]

/-- A comment inside an array, ended by its line. -/
theorem follows_comment {a : RedactedArray} {text t : List Char}
    (hescaped : a.escaped = false) (hquote : a.quote = none) (ha : 0 < a.depth)
    (htext : '\n' ∉ text) (ht : Follows a t) :
    Follows a ('#' :: (text ++ '\n' :: t)) := by
  obtain ⟨first, later, hsplit, hcloses⟩ := ht
  have hcomment : a.consume ('#' :: text) = a := by
    rw [consume_cons, if_pos ⟨hescaped, hquote, rfl⟩]
  refine ⟨'#' :: text, first :: later, ?_, ?_⟩
  · rw [← List.cons_append, Text.split_append (by simp [htext]), hsplit]
  · rw [hcomment]
    exact ⟨ha, hcloses⟩

/-- Inside of a basic string. -/
theorem consume_inside {depth : Int} {body : List Char}
    (h : Quoting.Inside body) (rest : List Char) :
    RedactedArray.consume { depth, quote := some '"' } (body ++ '"' :: rest)
      = RedactedArray.consume { depth } rest := by
  induction h with
  | nil => simp [RedactedArray.consume]
  | char hquote hslash _ ih => simpa [RedactedArray.consume, hquote, hslash] using ih
  | escape _ ih => simpa [RedactedArray.consume] using ih

/-- A literal string is left at its quote. -/
theorem consume_literal {depth : Int} {body : List Char} (h : '\'' ∉ body)
    (rest : List Char) :
    RedactedArray.consume { depth, quote := some '\'' } (body ++ '\'' :: rest)
      = RedactedArray.consume { depth } rest := by
  induction body with
  | nil => simp [RedactedArray.consume]
  | cons c body ih =>
      obtain ⟨hc, hbody⟩ := List.ne_and_not_mem_of_not_mem_cons h
      simpa [RedactedArray.consume, Ne.symm hc] using ih hbody

/-- A string on one line ends where TOML says. -/
theorem follows_str {depth : Int} {value : Toml.Str} (h : value.OneLine)
    {t : List Char} (ht : Follows { depth } t) :
    Follows { depth } (value.text ++ t) := by
  cases value with
  | basic body inside plain =>
      apply follows_front (by simp [Toml.Str.text, (Toml.not_mem_of_plain plain).1])
        ?_ ht
      intro rest
      simpa [Toml.Str.text, RedactedArray.consume] using consume_inside inside rest
  | literal body inside plain =>
      apply follows_front (by simp [Toml.Str.text, (Toml.not_mem_of_plain plain).1])
        ?_ ht
      intro rest
      simpa [Toml.Str.text, RedactedArray.consume] using consume_literal inside rest
  | multilineBasic body inside => exact absurd h id
  | multilineLiteral body inside => exact absurd h id

/-- One blank or comma changes nothing. -/
theorem follows_char {depth : Int} {c : Char}
    (hc : Toml.isBlank c = true ∨ c = ',') {t : List Char}
    (ht : Follows { depth } t) : Follows { depth } (c :: t) := by
  have hcases : c = ' ' ∨ c = '\t' ∨ c = ',' := by
    simpa [Toml.isBlank, or_assoc] using hc
  have hfront : '\n' ∉ [c] := by
    rcases hcases with rfl | rfl | rfl <;> decide
  refine follows_front hfront (fun rest => ?_) ht
  rcases hcases with rfl | rfl | rfl <;> simp [RedactedArray.consume]

/-- Blanks, breaks and comments. -/
theorem follows_trivia {depth : Int} (hdepth : 0 < depth)
    (trivia : List Toml.Trivia) {t : List Char} (ht : Follows { depth } t) :
    Follows { depth } (Toml.triviaText trivia ++ t) := by
  induction trivia with
  | nil => exact ht
  | cons piece trivia ih =>
      rw [Toml.triviaText, List.flatMap_cons, List.append_assoc]
      cases piece with
      | blank c hblank => exact follows_char (.inl hblank) ih
      | newline => exact follows_newline hdepth ih
      | comment text plain =>
          rw [Toml.Trivia.text, List.cons_append, List.append_assoc]
          exact follows_comment rfl rfl hdepth (Toml.not_mem_of_plain plain).1 ih

/-- The items of an array. -/
theorem follows_items {depth : Int} (hdepth : 0 < depth)
    {items : List Toml.Item} (h : ∀ item ∈ items, item.value.OneLine)
    {t : List Char} (ht : Follows { depth } t) :
    Follows { depth } ([','].intercalate (items.map Toml.Item.text) ++ t) := by
  have hitem : ∀ {item : Toml.Item} {t : List Char}, item.value.OneLine →
      Follows { depth } t → Follows { depth } (item.text ++ t) := by
    intro item t hvalue ht
    rw [Toml.Item.text, List.append_assoc, List.append_assoc]
    exact follows_trivia hdepth _ (follows_str hvalue (follows_trivia hdepth _ ht))
  induction items with
  | nil => exact ht
  | cons item items ih =>
      obtain ⟨hvalue, hitems⟩ := List.forall_mem_cons.mp h
      cases items with
      | nil =>
          rw [List.map_singleton, List.intercalate_singleton]
          exact hitem hvalue ht
      | cons second items =>
          rw [List.map_cons, List.map_cons, List.intercalate_cons_cons,
            List.append_assoc, List.append_assoc]
          exact hitem hvalue (follows_char (.inr rfl) (ih hitems))

/-- What may stand behind a value. -/
theorem follows_tail {tail : List Char} (hplain : '\n' ∉ tail)
    (hcomment : (tail.dropWhile Toml.isBlank).head?.all (· = '#') = true) :
    Follows { depth := 0 } tail := by
  refine ⟨tail, [], Text.split_of_not_mem hplain, ?_⟩
  have hsame : RedactedArray.consume { depth := 0 } tail = { depth := 0 } := by
    clear hplain
    induction tail with
    | nil => rfl
    | cons c tail ih =>
        by_cases hc : Toml.isBlank c = true
        · have hcases : c = ' ' ∨ c = '\t' := by simpa [Toml.isBlank] using hc
          rw [List.dropWhile_cons_of_pos hc] at hcomment
          rcases hcases with rfl | rfl
          · simpa [RedactedArray.consume] using ih hcomment
          · simpa [RedactedArray.consume] using ih hcomment
        · rw [List.dropWhile_cons_of_neg hc] at hcomment
          have hhash : c = '#' := by simpa using hcomment
          subst hhash
          rfl
  rw [hsame]
  exact Int.le_refl 0

/-- An array whose strings are on one line each is followed to its end. -/
theorem follows_array {a : Toml.StrArray} (h : ∀ item ∈ a.items, item.value.OneLine)
    {tail : List Char} (ht : Follows { depth := 0 } tail) :
    Follows {} (a.text ++ tail) := by
  have hend : Follows { depth := 1 } ([']'] ++ tail) :=
    follows_front (by decide) (fun rest => by simp [RedactedArray.consume]) ht
  have hone : (0 : Int) < 1 := by decide
  have hlast := follows_trivia hone a.last hend
  have hcomma : Follows { depth := 1 } ((if a.comma then [','] else [])
      ++ (Toml.triviaText a.last ++ ([']'] ++ tail))) := by
    cases a.comma with
    | true => exact follows_char (.inr rfl) hlast
    | false => exact hlast
  have hitems := follows_items hone h hcomma
  have hopen : Follows {} (['['] ++ ([','].intercalate (a.items.map Toml.Item.text)
      ++ ((if a.comma then [','] else [])
        ++ (Toml.triviaText a.last ++ ([']'] ++ tail))))) :=
    follows_front (by decide) (fun rest => by simp [RedactedArray.consume]) hitems
  simpa [Toml.StrArray.text] using hopen

/-- A bare key at the beginning of a line whose strings are all on one line is
followed, if no line terminator is in that line. -/
theorem followed_of_oneLine {s : Secret} (hbare : s.key = .bare)
    (hlead : ∀ c ∈ s.lead, Toml.isBlank c = true) (hvalue : s.value.OneLine)
    (hplain : ∀ c ∈ s.value.text ++ s.tail, c ≠ '\n' → isTerminator c = false) :
    s.Followed := by
  have htail := (Toml.not_mem_of_plain s.tail_plain).1
  have hfirst : ∀ {first : Line} {later : List Line},
      Text.split '\n' (s.value.text ++ s.tail) = first :: later →
        untilEnd first = some first := by
    intro first later hsplit
    have hnone : ∀ c ∈ first, (!isTerminator c) = true := by
      intro c hc
      have hmem : first ∈ Text.split '\n' (s.value.text ++ s.tail) :=
        hsplit ▸ List.mem_cons_self
      have hwhole : c ∈ s.value.text ++ s.tail := by
        rw [← Text.intercalate_split '\n' (s.value.text ++ s.tail), hsplit]
        cases later with
        | nil => rwa [List.intercalate_singleton]
        | cons second later =>
            rw [List.intercalate_cons_cons]
            exact List.mem_append_left _ (List.mem_append_left _ hc)
      have hfeed : c ≠ '\n' := by
        rintro rfl
        exact Text.not_mem_of_mem_split hmem hc
      rw [hplain c hwhole hfeed]
      rfl
    obtain ⟨htake, hdrop⟩ := while_append hnone (b := []) (by simp)
    rw [List.append_nil] at htake hdrop
    unfold untilEnd
    rw [htake, hdrop]
  by_cases hdns : s.field = customDnsServers
  · obtain ⟨a, ha⟩ := strings_of_fits (hdns ▸ s.fits)
    rw [ha] at hvalue
    obtain ⟨first, later, hsplit, hcloses⟩ :=
      follows_array hvalue (follows_tail htail s.tail_comment)
    have hlines : Text.split '\n' (s.value.text ++ s.tail) = first :: later := by
      rw [ha]
      exact hsplit
    refine ⟨hbare, hlead, first, first, later, hlines, hfirst hlines, ?_⟩
    rwa [if_pos hdns]
  · have hvalueLine : '\n' ∉ s.value.text := by
      cases hv : s.value with
      | string str =>
          rw [hv] at hvalue
          cases str with
          | basic body _ plain =>
              simp [Toml.Value.text, Toml.Str.text, (Toml.not_mem_of_plain plain).1]
          | literal body _ plain =>
              simp [Toml.Value.text, Toml.Str.text, (Toml.not_mem_of_plain plain).1]
          | multilineBasic body _ => exact absurd hvalue id
          | multilineLiteral body _ => exact absurd hvalue id
      | integer digits alnum _ =>
          exact fun hmem => IsDigit.ne_feed (alnum _ hmem) rfl
      | strings a =>
          have hfits := s.fits
          rw [hv] at hfits
          exact absurd hfits hdns
    have hlines : Text.split '\n' (s.value.text ++ s.tail)
        = [s.value.text ++ s.tail] :=
      Text.split_of_not_mem (by simp [hvalueLine, htail])
    refine ⟨hbare, hlead, _, _, [], hlines, hfirst hlines, ?_⟩
    rw [if_neg hdns]

/-- A document is redacted like all its variants exactly if it assigns none of
the redacted fields but the port; and two documents are redacted alike if the
sanitizer follows both. -/
theorem sanitized_same (d : Document) :
    ((∀ d', d.Variant d' → sanitizedConfig d.text = sanitizedConfig d'.text)
        ↔ d.OnlyPort)
      ∧ ∀ d', d.Variant d' → d.Followed → d'.Followed →
        sanitizedConfig d.text = sanitizedConfig d'.text :=
  ⟨⟨onlyPort_of_same, fun hd _ hvariant => sanitizedConfig_onlyPort hvariant hd⟩,
    fun _ hvariant hd hd' => sanitizedConfig_followed hvariant hd hd'⟩

/-- A string without quotes and backslashes, on one line. -/
def plainString (body : List Char)
    (h : body.all (fun c => c != '"' && c != '\\' && Toml.isPlain c) = true) :
    Toml.Str :=
  .basic body (Quoting.inside_of_plain fun c hc => by
      have hplain := List.all_eq_true.mp h c hc
      simp only [Bool.and_eq_true, bne_iff_ne] at hplain
      exact hplain.1)
    fun c hc => by
      have hplain := List.all_eq_true.mp h c hc
      simp only [Bool.and_eq_true] at hplain
      exact hplain.2

/-- An assignment as most people write it. -/
def plainSecret (field : List Char) (redacted : field ∈ redactedConfigFields)
    (value : Toml.Value) (fits : Fits field value) : Secret where
  field := field
  redacted := redacted
  lead := []
  lead_blank := by simp
  key := .bare
  before := [' ']
  before_blank := by simp [Toml.isBlank]
  behind := [' ']
  behind_blank := by simp [Toml.isBlank]
  value := value
  fits := fits
  tail := []
  tail_plain := by simp
  tail_comment := rfl

/-- A configuration with a host and DNS servers of its own. -/
def hostAndServers (host : Toml.Str) (servers : Toml.StrArray) :
    Document where
  entries := [
    .secret (plainSecret "SELECTED_SNI".toList (by decide) (.string host)
      ⟨by decide, by decide⟩),
    .secret (plainSecret customDnsServers (by decide) (.strings servers) rfl),
    .other "LISTEN_PORT = 44444".toList (by decide)]
  nonempty := by simp
  crlf := fun _ => false

/-- Two such documents are variants of each other. -/
theorem hostAndServers_variant (host host' : Toml.Str)
    (servers servers' : Toml.StrArray) :
    (hostAndServers host servers).Variant (hostAndServers host' servers') :=
  .cons (.secret (plainSecret _ _ _ _) (.string host') _)
    (.cons (.secret (plainSecret _ _ _ _) (.strings servers') _)
      (.cons (.other _ _) .nil))

/-- It is followed if its strings are on one line each. -/
theorem hostAndServers_followed {host : Toml.Str} {servers : Toml.StrArray}
    (hhost : host.OneLine) (hservers : ∀ item ∈ servers.items,
      item.value.OneLine)
    (hall : (host.text ++ servers.text).all
      (fun c => c == '\n' || !isTerminator c) = true)
    (hout : (run none (plainSecret "SELECTED_SNI".toList (by decide)
      (.string host) ⟨by decide, by decide⟩).lines).arrayState = none) :
    (hostAndServers host servers).Followed := by
  have hplain : ∀ c ∈ host.text ++ servers.text, c ≠ '\n' →
      isTerminator c = false := by
    intro c hc hne
    simpa [hne] using List.all_eq_true.mp hall c hc
  refine .cons ?_ (.cons ?_ (.cons (fun s hs => ?_) atSecrets_nil))
  · rintro s ⟨⟩
    refine ⟨rfl, followed_of_oneLine rfl (List.forall_mem_nil _)
      hhost fun c hc => ?_⟩
    refine hplain c (List.mem_append_left _ ?_)
    simpa [plainSecret, Toml.Value.text] using hc
  · rintro s ⟨⟩
    refine ⟨hout, followed_of_oneLine rfl (List.forall_mem_nil _)
      hservers fun c hc => ?_⟩
    refine hplain c (List.mem_append_right _ ?_)
    simpa [plainSecret, Toml.Value.text] using hc
  · cases hs

/-- Two servers on two lines of an array, with a comment. -/
def twoServers : Toml.StrArray where
  items := [
    ⟨[.newline, .blank ' ' rfl], plainString "10.0.0.1".toList (by decide), []⟩,
    ⟨[.comment " mine".toList (List.all_eq_true.mp (by decide)),
        .blank ' ' rfl],
      plainString "10.0.0.2:53".toList (by decide), []⟩]
  comma := true
  last := [.newline]
  comma_behind _ := by simp

/-- An array with one server, on one line. -/
def oneServer : Toml.StrArray where
  items := [⟨[], plainString "1.1.1.1".toList (by decide), []⟩]
  comma := false
  last := []
  comma_behind := nofun

/-- One host and an array over four lines, another host and an array on one
line: both are redacted to the same text. -/
theorem sample_sanitized_same :
    sanitizedConfig (hostAndServers (plainString "private.example.com".toList
        (by decide)) twoServers).text
      = sanitizedConfig (hostAndServers (plainString
        "other.example.com".toList (by decide)) oneServer).text
    ∧ sanitizedConfig (hostAndServers (plainString
        "private.example.com".toList (by decide)) twoServers).text
      = ("SELECTED_SNI = \"<redacted>\"\n"
        ++ "CUSTOM_DNS_SERVERS = \"<redacted>\"\n"
        ++ "LISTEN_PORT = 44444").toList := by
  refine ⟨(sanitized_same _).2 _ (hostAndServers_variant _ _ _ _)
    (hostAndServers_followed trivial ?_ (by decide) (by decide))
    (hostAndServers_followed trivial ?_ (by decide) (by decide)), by decide⟩
  · intro item hitem
    rcases List.mem_cons.mp hitem with rfl | hitem
    · trivial
    · cases List.mem_singleton.mp hitem
      trivial
  · intro item hitem
    cases List.mem_singleton.mp hitem
    trivial

/-- A configuration that selects a host by a string of two lines. -/
def twoLines (host : List Char)
    (h : host.all (fun c => c != '"' && c != '\\' && Toml.isPlain c) = true) :
    Document where
  entries := [
    .other "LISTEN_HOST = \"127.0.0.1\"\nLISTEN_PORT = 44444".toList (by decide),
    .secret {
      field := "SELECTED_SNI".toList
      redacted := by decide
      lead := []
      lead_blank := by simp
      key := .bare
      before := [' ']
      before_blank := by simp [Toml.isBlank]
      behind := [' ']
      behind_blank := by simp [Toml.isBlank]
      value := .string (.multilineBasic ('\n' :: host)
        (.char (by decide) (fun _ => by decide) (.inr rfl) (.plain fun c hc => by
          simpa [and_assoc] using List.all_eq_true.mp h c hc)))
      fits := ⟨by decide, by decide⟩
      tail := []
      tail_plain := by simp
      tail_comment := rfl }]
  nonempty := by simp
  crlf := fun _ => false

/-- The host of one document. -/
def privateHost : List Char := "private.example.com".toList

/-- And of the other. -/
def otherHost : List Char := "other.example.com".toList

/-- The host is shown. -/
theorem multiline_host_is_shown :
    sanitizedConfig (twoLines privateHost (by decide)).text
        = ("LISTEN_HOST = \"127.0.0.1\"\nLISTEN_PORT = 44444\n"
          ++ "SELECTED_SNI = \"<redacted>\"\nprivate.example.com\"\"\"").toList
      ∧ (twoLines privateHost (by decide)).Variant
          (twoLines otherHost (by decide))
      ∧ sanitizedConfig (twoLines privateHost (by decide)).text
        ≠ sanitizedConfig (twoLines otherHost (by decide)).text := by
  refine ⟨by decide, ?_, by decide⟩
  exact .cons (.other _ _) (.cons (.secret _ _ _) .nil)

end ZeroDpi.Android.SupportBundle
