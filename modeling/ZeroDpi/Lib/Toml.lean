/-
Values of a TOML document as they are written: the four kinds of strings,
integers, and arrays of strings over one line or several.

A line break is `\n` here; a text with breaks of either kind is made of it at
the end (`withBreaks`). What stands behind a backslash is not looked into.
-/
import ZeroDpi.Lib.Kotlin
import ZeroDpi.Lib.Quoting

namespace ZeroDpi.Lib.Toml

-- ================================================================= grammar

/-- A character that a comment and a string on one line may hold. -/
def isPlain (c : Char) : Bool :=
  c = '\t' || (0x20 ≤ c.toNat && c.toNat ≠ 0x7F)

/-- Blanks within a line. -/
def isBlank (c : Char) : Bool := c = ' ' || c = '\t'

/-- The body of a string in triple quotes, behind `n` of them; three in a row
would end it. In a basic string a backslash takes the next character. -/
inductive Multiline (quote : Char) (basic : Bool) : Nat → List Char → Prop where
  | nil {n : Nat} : Multiline quote basic n []
  | char {n : Nat} {c : Char} {s : List Char} : c ≠ quote →
      (basic = true → c ≠ '\\') → isPlain c = true ∨ c = '\n' →
        Multiline quote basic 0 s → Multiline quote basic n (c :: s)
  | escape {n : Nat} {c : Char} {s : List Char} : basic = true →
      isPlain c = true ∨ c = '\n' → Multiline quote basic 0 s →
        Multiline quote basic n ('\\' :: c :: s)
  | quote {n : Nat} {s : List Char} : n < 2 → Multiline quote basic (n + 1) s →
      Multiline quote basic n (quote :: s)

/-- The four kinds of string. -/
inductive Str where
  | basic (body : List Char) (inside : Quoting.Inside body)
      (plain : ∀ c ∈ body, isPlain c = true)
  | literal (body : List Char) (inside : '\'' ∉ body)
      (plain : ∀ c ∈ body, isPlain c = true)
  | multilineBasic (body : List Char) (inside : Multiline '"' true 0 body)
  | multilineLiteral (body : List Char) (inside : Multiline '\'' false 0 body)

/-- What may stand between the parts of an array. -/
inductive Trivia where
  | blank (c : Char) (isBlank : isBlank c = true)
  | newline
  | comment (text : List Char) (plain : ∀ c ∈ text, isPlain c = true)

/-- A string in an array, with what surrounds it. -/
structure Item where
  before : List Trivia
  value : Str
  behind : List Trivia

/-- An array of strings; a comma may stand behind the last. -/
structure StrArray where
  items : List Item
  comma : Bool
  last : List Trivia
  comma_behind : comma = true → items ≠ []

/-- The kinds of value that the secrets have. -/
inductive Value where
  | string (s : Str)
  | integer (digits : List Char)
      (alnum : ∀ c ∈ digits, Kotlin.isAsciiAlnum c = true ∨ c = '_' ∨ c = '+')
      (nonempty : digits ≠ [])
  | strings (a : StrArray)

-- =================================================================== texts

/-- The string as it is written. -/
def Str.text : Str → List Char
  | basic body _ _ => '"' :: (body ++ ['"'])
  | literal body _ _ => '\'' :: (body ++ ['\''])
  | multilineBasic body _ => ['"', '"', '"'] ++ body ++ ['"', '"', '"']
  | multilineLiteral body _ => ['\'', '\'', '\''] ++ body ++ ['\'', '\'', '\'']

/-- Strings that cannot have a line break. -/
def Str.OneLine : Str → Prop
  | basic .. => True
  | literal .. => True
  | multilineBasic .. => False
  | multilineLiteral .. => False

/-- Every string stands on one line; an array may have several. -/
def Value.OneLine : Value → Prop
  | string s => s.OneLine
  | integer .. => True
  | strings a => ∀ item ∈ a.items, item.value.OneLine

/-- Blanks, line breaks and comments as they are written. -/
def Trivia.text : Trivia → List Char
  | blank c _ => [c]
  | newline => ['\n']
  | comment text _ => '#' :: (text ++ ['\n'])

/-- Several of them. -/
def triviaText (trivia : List Trivia) : List Char := trivia.flatMap Trivia.text

/-- The item as it is written. -/
def Item.text (item : Item) : List Char :=
  triviaText item.before ++ item.value.text ++ triviaText item.behind

/-- The array as it is written. -/
def StrArray.text (a : StrArray) : List Char :=
  '[' :: ([','].intercalate (a.items.map Item.text)
    ++ (if a.comma then [','] else []) ++ triviaText a.last ++ [']'])

/-- The value as it is written. -/
def Value.text : Value → List Char
  | string s => s.text
  | integer digits _ _ => digits
  | strings a => a.text

/-- The text with `\r\n` for some of its breaks. -/
def withBreaks (crlf : Nat → Bool) : Nat → List Char → List Char
  | _, [] => []
  | n, c :: rest =>
      if c = '\n' then
        (if crlf n then ['\r', '\n'] else ['\n']) ++ withBreaks crlf (n + 1) rest
      else c :: withBreaks crlf n rest

-- =================================================================== lines

/-- Plain characters break no line. -/
theorem not_mem_of_plain {s : List Char} (h : ∀ c ∈ s, isPlain c = true) :
    '\n' ∉ s ∧ '\r' ∉ s :=
  ⟨fun hmem => absurd (h _ hmem) (by decide),
    fun hmem => absurd (h _ hmem) (by decide)⟩

/-- Carriage returns are added with the line breaks only. -/
theorem Multiline.not_mem_return {quote : Char} {basic : Bool} {n : Nat}
    {s : List Char} (h : Multiline quote basic n s) (hquote : quote ≠ '\r') :
    '\r' ∉ s := by
  have hplain : ∀ {c : Char}, isPlain c = true ∨ c = '\n' → '\r' ≠ c := by
    rintro c hc rfl
    exact absurd hc (by decide)
  induction h with
  | nil => exact List.not_mem_nil
  | char _ _ hc _ ih => simp [hplain hc, ih]
  | escape _ hc _ ih => simp [hplain hc, ih]
  | quote _ _ ih => simp [Ne.symm hquote, ih]

/-- So no string has one. -/
theorem Str.not_mem_return (s : Str) : '\r' ∉ s.text := by
  cases s with
  | basic body _ plain => simp [Str.text, (not_mem_of_plain plain).2]
  | literal body _ plain => simp [Str.text, (not_mem_of_plain plain).2]
  | multilineBasic body inside =>
      simp [Str.text, inside.not_mem_return (by decide)]
  | multilineLiteral body inside =>
      simp [Str.text, inside.not_mem_return (by decide)]

theorem not_mem_return_triviaText (trivia : List Trivia) :
    '\r' ∉ triviaText trivia := by
  intro hmem
  obtain ⟨piece, -, hpiece⟩ := List.mem_flatMap.mp hmem
  cases piece with
  | blank c hblank =>
      rw [Trivia.text, List.mem_singleton] at hpiece
      subst hpiece
      cases hblank
  | newline => simp [Trivia.text] at hpiece
  | comment text plain =>
      simp [Trivia.text, (not_mem_of_plain plain).2] at hpiece

theorem not_mem_intercalate {sep c : Char} (hsep : c ≠ sep)
    {pieces : List (List Char)} (h : ∀ piece ∈ pieces, c ∉ piece) :
    c ∉ [sep].intercalate pieces := by
  induction pieces with
  | nil => exact List.not_mem_nil
  | cons piece rest ih =>
      obtain ⟨hpiece, hrest⟩ := List.forall_mem_cons.mp h
      cases rest with
      | nil => rwa [List.intercalate_singleton]
      | cons second rest =>
          rw [List.intercalate_cons_cons]
          simp [hpiece, hsep, ih hrest]

/-- Nor has a value. -/
theorem Value.not_mem_return (v : Value) : '\r' ∉ v.text := by
  cases v with
  | string s => exact s.not_mem_return
  | integer digits alnum _ =>
      intro hmem
      exact absurd (alnum _ hmem) (by decide)
  | strings a =>
      have hitems : '\r' ∉ [','].intercalate (a.items.map Item.text) := by
        apply not_mem_intercalate (by decide)
        intro piece hpiece
        obtain ⟨item, -, rfl⟩ := List.mem_map.mp hpiece
        simp [Item.text, not_mem_return_triviaText, Str.not_mem_return]
      have hlast := not_mem_return_triviaText a.last
      rw [Value.text, StrArray.text]
      cases a.comma <;> simp [hitems, hlast]

/-- The lines are the same for every kind of break. -/
theorem lineSequence_withBreaks (crlf : Nat → Bool) {s : List Char}
    (h : '\r' ∉ s) (n : Nat) :
    Kotlin.lineSequence (withBreaks crlf n s) = Text.split '\n' s := by
  induction s generalizing n with
  | nil => rfl
  | cons c rest ih =>
      obtain ⟨hc, hrest⟩ := List.ne_and_not_mem_of_not_mem_cons h
      unfold withBreaks Text.split
      by_cases hn : c = '\n'
      · rw [if_pos hn, if_pos hn]
        cases crlf n with
        | true =>
            show Kotlin.lineSequence ('\r' :: '\n' :: withBreaks crlf (n + 1) rest) = _
            rw [Kotlin.lineSequence, ih hrest]
        | false =>
            have hfeed : ∀ t, Kotlin.lineSequence ('\n' :: t)
                = [] :: Kotlin.lineSequence t := by
              intro t
              rw [Kotlin.lineSequence]
              · simp
              · simp
            show Kotlin.lineSequence ('\n' :: withBreaks crlf (n + 1) rest) = _
            rw [hfeed, ih hrest]
      · have hchar := Kotlin.lineSequence_char hn (Ne.symm hc)
          (withBreaks crlf n rest)
        rw [ih hrest] at hchar
        rw [if_neg hn, if_neg hn]
        refine hchar.trans ?_
        cases Text.split '\n' rest <;> rfl

/-- A plain text may stand in a multi-line string. -/
theorem Multiline.plain {quote : Char} {basic : Bool} {n : Nat} {s : List Char}
    (h : ∀ c ∈ s, c ≠ quote ∧ c ≠ '\\' ∧ isPlain c = true) :
    Multiline quote basic n s := by
  induction s generalizing n with
  | nil => exact .nil
  | cons c s ih =>
      obtain ⟨⟨hc, hslash, hplain⟩, hs⟩ := List.forall_mem_cons.mp h
      exact .char hc (fun _ => hslash) (.inl hplain) (ih hs)

/-- A line of other characters may stand anywhere in a string of several
lines. -/
theorem Multiline.line {quote : Char} {basic : Bool} {n : Nat}
    (hquote : quote ≠ '\n') {line s : List Char}
    (h : ∀ c ∈ line, c ≠ quote ∧ c ≠ '\\' ∧ isPlain c = true)
    (hs : Multiline quote basic 0 s) :
    Multiline quote basic n (line ++ '\n' :: s) := by
  induction line generalizing n with
  | nil => exact .char (Ne.symm hquote) (fun _ => by decide) (.inr rfl) hs
  | cons c line ih =>
      obtain ⟨⟨hc, hslash, hplain⟩, hline⟩ := List.forall_mem_cons.mp h
      exact .char hc (fun _ => hslash) (.inl hplain) (ih hline)

end ZeroDpi.Lib.Toml
