/-
Text as Kotlin's standard library has it: blanks by `Char.isWhitespace` of
the JVM (the separators of Unicode, the tabs and line ends, and the four
information separators), lengths in UTF-16 units, and digits of every script
in numbers.
-/
import Mathlib.Algebra.Group.Int.Defs
import ZeroDpi.Lib.Text

namespace ZeroDpi.Lib.Kotlin

/-- `Char.isWhitespace`: separators, and the control characters among them.
-/
def isWhitespace (c : Char) : Bool :=
  let n := c.toNat
  (0x09 ≤ n && n ≤ 0x0D) || (0x1C ≤ n && n ≤ 0x20) || n = 0xA0
    || n = 0x1680 || (0x2000 ≤ n && n ≤ 0x200A) || n = 0x2028 || n = 0x2029
    || n = 0x202F || n = 0x205F || n = 0x3000

/-- `String.trim`. -/
def trim (s : List Char) : List Char :=
  ((s.dropWhile isWhitespace).reverse.dropWhile isWhitespace).reverse

/-- `String.trimEnd`. -/
def trimEnd (s : List Char) : List Char :=
  (s.reverse.dropWhile isWhitespace).reverse

/-- `String.isBlank`. -/
def isBlank (s : List Char) : Bool := s.all isWhitespace

/-- `String.length`. -/
def length (s : List Char) : Nat :=
  (s.map fun c => if c.toNat < 0x10000 then 1 else 2).sum

/-- `'a'..'z'` and so on. -/
def isAsciiAlnum (c : Char) : Bool :=
  let n := c.toNat
  (0x30 ≤ n && n ≤ 0x39) || (0x41 ≤ n && n ≤ 0x5A) || (0x61 ≤ n && n ≤ 0x7A)

/-- `String.lineSequence`: a line ends at a line feed, at a carriage return,
or at both. -/
def lineSequence : List Char → List (List Char)
  | [] => [[]]
  | '\r' :: '\n' :: rest => [] :: lineSequence rest
  | c :: rest =>
      if c = '\n' ∨ c = '\r' then [] :: lineSequence rest
      else match lineSequence rest with
        | [] => [[c]]
        | line :: lines => (c :: line) :: lines

/-- `String.substringBefore`. -/
def substringBefore (sep : Char) (s : List Char) : List Char :=
  s.takeWhile (· ≠ sep)

/-- `String.substringAfter`, where the separator occurs. -/
def substringAfter (sep : Char) (s : List Char) : List Char :=
  (s.dropWhile (· ≠ sep)).drop 1

-- ================================================================= numbers

/-- The zeros of the decimal digits in the first plane of Unicode; the nine
others of a kind follow. -/
def digitZeros : List Nat :=
  [0x30, 0x660, 0x6F0, 0x7C0, 0x966, 0x9E6, 0xA66, 0xAE6, 0xB66, 0xBE6, 0xC66,
    0xCE6, 0xD66, 0xDE6, 0xE50, 0xED0, 0xF20, 0x1040, 0x1090, 0x17E0, 0x1810,
    0x1946, 0x19D0, 0x1A80, 0x1A90, 0x1B50, 0x1BB0, 0x1C40, 0x1C50, 0xA620,
    0xA8D0, 0xA900, 0xA9D0, 0xA9F0, 0xAA50, 0xABF0, 0xFF10]

/-- `Character.digit(c, 10)`, of the decimal digits. -/
def digit? (c : Char) : Option Nat :=
  (digitZeros.find? fun zero => zero ≤ c.toNat && c.toNat < zero + 10).map
    fun zero => c.toNat - zero

/-- `Char.isDigit`. -/
def isDigit (c : Char) : Bool := (digit? c).isSome

/-- The number of a sequence of digits; the empty one is zero. -/
def digits? (s : List Char) : Option Nat :=
  s.foldlM (fun n c => (digit? c).map fun d => n * 10 + d) 0

/-- A number of so many bits with its sign. -/
def toSignedOrNull (bits : Nat) (s : List Char) : Option Int :=
  match s with
  | [] => none
  | '-' :: rest =>
      if rest.isEmpty then none
      else (digits? rest).bind fun n =>
        if n ≤ 2 ^ (bits - 1) then some (-n) else none
  | '+' :: rest =>
      if rest.isEmpty then none
      else (digits? rest).bind fun n =>
        if n < 2 ^ (bits - 1) then some n else none
  | s => (digits? s).bind fun n => if n < 2 ^ (bits - 1) then some n else none

/-- `String.toIntOrNull`. -/
def toIntOrNull (s : List Char) : Option Int := toSignedOrNull 32 s

/-- `String.toLongOrNull`. -/
def toLongOrNull (s : List Char) : Option Int := toSignedOrNull 64 s

/-- The number so far and one digit more. -/
theorem digits?_from_ge {s : List Char} {n m : Nat}
    (h : s.foldlM (fun n c => (digit? c).map fun d => n * 10 + d) n = some m) :
    n * 10 ^ s.length ≤ m := by
  induction s generalizing n with
  | nil =>
      cases h
      simp
  | cons c rest ih =>
      rw [List.foldlM_cons] at h
      cases hd : digit? c with
      | none => simp [hd] at h
      | some d =>
          simp only [hd, Option.map_some, Option.bind_eq_bind,
            Option.bind_some] at h
          calc n * 10 ^ (rest.length + 1)
              = n * 10 * 10 ^ rest.length := by
                rw [Nat.pow_succ', Nat.mul_assoc]
            _ ≤ (n * 10 + d) * 10 ^ rest.length :=
                Nat.mul_le_mul_right _ (Nat.le_add_right _ _)
            _ ≤ m := ih h

/-- ASCII digits are digits. -/
theorem digit?_eq_of_ascii {c : Char} {d : Nat}
    (h : Text.digit? c = some d) : digit? c = some d := by
  unfold Text.digit? at h
  split at h
  case isTrue hc =>
    cases h
    have h0 : 48 ≤ c.toNat := UInt32.le_iff_toNat_le.mp hc.1
    have h9 : c.toNat ≤ 57 := UInt32.le_iff_toNat_le.mp hc.2
    have hfirst : (48 ≤ c.toNat && c.toNat < 48 + 10) = true := by
      simp [h0]
      omega
    simp only [digit?, digitZeros, List.find?_cons, hfirst]
    rfl
  case isFalse => cases h

/-- Numbers of ASCII digits are read alike. -/
theorem foldlM_eq_foldl_of_ascii {s : List Char}
    (h : ∀ c ∈ s, (Text.digit? c).isSome = true) (n : Nat) :
    s.foldlM (fun n c => (digit? c).map fun d => n * 10 + d) n
      = s.foldl Text.pushDigit (some n) := by
  induction s generalizing n with
  | nil => rfl
  | cons c rest ih =>
      obtain ⟨d, hd⟩ := Option.isSome_iff_exists.mp
        (h c List.mem_cons_self)
      have hstep : Text.pushDigit (some n) c = some (n * 10 + d) := by
        simp [Text.pushDigit, hd, Nat.mul_comm]
      rw [List.foldlM_cons, digit?_eq_of_ascii hd, List.foldl_cons, hstep]
      exact ih (fun x hx => h x (List.mem_cons_of_mem _ hx)) (n * 10 + d)

/-- A number in ASCII digits is read the same everywhere. -/
theorem digits?_eq_of_ascii {s : List Char} (hne : s ≠ [])
    (h : ∀ c ∈ s, (Text.digit? c).isSome = true) :
    digits? s = Text.digits? s := by
  cases s with
  | nil => exact absurd rfl hne
  | cons c rest => exact foldlM_eq_foldl_of_ascii h 0

/-- Without a leading zero, many digits are a large number. -/
theorem digits?_large {c : Char} {rest : List Char} {m : Nat}
    (hc : c ≠ '0') (hascii : (Text.digit? c).isSome = true)
    (h : digits? (c :: rest) = some m) : 10 ^ rest.length ≤ m := by
  obtain ⟨d, hd⟩ := Option.isSome_iff_exists.mp hascii
  have hpos : 1 ≤ d := by
    unfold Text.digit? at hd
    split at hd
    case isTrue hrange =>
      have h0 : 48 ≤ c.toNat := UInt32.le_iff_toNat_le.mp hrange.1
      have hne : c.toNat ≠ 48 := fun heq => hc (Char.toNat_inj.mp heq)
      cases hd
      show 1 ≤ c.toNat - 48
      omega
    case isFalse => cases hd
  unfold digits? at h
  rw [List.foldlM_cons, digit?_eq_of_ascii hd] at h
  have hge := digits?_from_ge h
  calc 10 ^ rest.length
      ≤ d * 10 ^ rest.length := Nat.le_mul_of_pos_left _ hpos
    _ = (0 * 10 + d) * 10 ^ rest.length := by rw [Nat.zero_mul, Nat.zero_add]
    _ ≤ m := hge

/-- A number that starts with a digit has no sign. -/
theorem toSignedOrNull_digit {bits : Nat} {c : Char} {rest : List Char}
    (h : isDigit c = true) :
    toSignedOrNull bits (c :: rest)
      = (digits? (c :: rest)).bind fun n =>
          if n < 2 ^ (bits - 1) then some (n : Int) else none := by
  have hminus : c ≠ '-' := by
    rintro rfl
    exact absurd h (by decide)
  have hplus : c ≠ '+' := by
    rintro rfl
    exact absurd h (by decide)
  unfold toSignedOrNull
  split
  case h_1 hnil => cases hnil
  case h_2 heq => exact absurd (List.cons.inj heq).1 hminus
  case h_3 heq => exact absurd (List.cons.inj heq).1 hplus
  case h_4 => rfl

/-- Only digits are read. -/
theorem isDigit_of_foldlM {s : List Char} {n m : Nat}
    (h : s.foldlM (fun n c => (digit? c).map fun d => n * 10 + d) n = some m) :
    ∀ c ∈ s, isDigit c = true := by
  induction s generalizing n with
  | nil => exact nofun
  | cons c rest ih =>
      rw [List.foldlM_cons] at h
      cases hd : digit? c with
      | none => simp [hd] at h
      | some d =>
          simp only [hd, Option.map_some, Option.bind_eq_bind,
            Option.bind_some] at h
          have hc : isDigit c = true := by simp [isDigit, hd]
          exact List.forall_mem_cons.mpr ⟨hc, ih h⟩

/-- With a sign in front. -/
theorem numeral_of_toSignedOrNull {bits : Nat} {s : List Char} {n : Int}
    (h : toSignedOrNull bits s = some n) :
    ∀ c ∈ s, c = '-' ∨ c = '+' ∨ isDigit c = true := by
  have hdigits : ∀ {rest : List Char} {m : Nat}, digits? rest = some m →
      ∀ c ∈ rest, c = '-' ∨ c = '+' ∨ isDigit c = true :=
    fun hrest c hc => .inr (.inr (isDigit_of_foldlM hrest c hc))
  unfold toSignedOrNull at h
  split at h
  case h_1 => cases h
  case h_2 rest =>
    split at h
    · cases h
    · obtain ⟨m, hm, -⟩ := Option.bind_eq_some_iff.mp h
      exact List.forall_mem_cons.mpr ⟨.inl rfl, hdigits hm⟩
  case h_3 rest =>
    split at h
    · cases h
    · obtain ⟨m, hm, -⟩ := Option.bind_eq_some_iff.mp h
      exact List.forall_mem_cons.mpr ⟨.inr (.inl rfl), hdigits hm⟩
  case h_4 =>
    obtain ⟨m, hm, -⟩ := Option.bind_eq_some_iff.mp h
    exact hdigits hm

-- ================================================================ trimming

/-- A text of blanks. -/
def AllBlank (s : List Char) : Prop := ∀ c ∈ s, isWhitespace c = true

/-- No blanks at either end. -/
structure Trimmed (s : List Char) : Prop where
  front : ∀ c ∈ s.head?, isWhitespace c = false
  back : ∀ c ∈ s.getLast?, isWhitespace c = false

/-- Blanks in front are dropped. -/
theorem dropWhile_allBlank {s : List Char} (h : AllBlank s) (t : List Char) :
    (s ++ t).dropWhile isWhitespace = t.dropWhile isWhitespace :=
  List.dropWhile_append_of_pos h

/-- A trimmed text has none. -/
theorem Trimmed.dropWhile {s : List Char} (h : Trimmed s) :
    s.dropWhile isWhitespace = s := by
  cases s with
  | nil => rfl
  | cons c rest => rw [List.dropWhile_cons_of_neg (by simp [h.front c rfl])]

/-- At either end. -/
theorem Trimmed.reverse {s : List Char} (h : Trimmed s) :
    Trimmed s.reverse where
  front := by
    rw [List.head?_reverse]
    exact h.back
  back := by
    rw [List.getLast?_reverse]
    exact h.front

/-- Blanks behind are dropped. -/
theorem trimEnd_append {s t : List Char} (ht : AllBlank t) :
    trimEnd (s ++ t) = trimEnd s := by
  unfold trimEnd
  rw [List.reverse_append, dropWhile_allBlank]
  exact fun c hc => ht c (List.mem_reverse.mp hc)

/-- And there are none. -/
theorem Trimmed.trimEnd {s : List Char} (h : Trimmed s) :
    trimEnd s = s := by
  unfold Kotlin.trimEnd
  rw [h.reverse.dropWhile, List.reverse_reverse]

theorem trim_eq_trimEnd (s : List Char) :
    trim s = trimEnd (s.dropWhile isWhitespace) := rfl

/-- So that a text may be put between blanks. -/
theorem trim_append {s t : List Char} (hs : AllBlank s) :
    trim (s ++ t) = trim t := by
  rw [trim_eq_trimEnd, trim_eq_trimEnd, dropWhile_allBlank hs]

/-- The blanks around a text are all that `trim` takes away. -/
theorem trim_surrounded {front s behind : List Char} (hfront : AllBlank front)
    (h : Trimmed s) (hbehind : AllBlank behind) :
    trim (front ++ s ++ behind) = s := by
  rw [List.append_assoc, trim_append hfront, trim_eq_trimEnd]
  cases s with
  | nil =>
      rw [List.nil_append]
      have hnil : behind.dropWhile isWhitespace = [] := by
        have hdrop := dropWhile_allBlank hbehind []
        rwa [List.append_nil] at hdrop
      rw [hnil]
      rfl
  | cons c rest =>
      rw [List.cons_append, List.dropWhile_cons_of_neg (by simp [h.front c rfl]),
        ← List.cons_append, trimEnd_append hbehind, h.trimEnd]

/-- A trimmed text is what it is. -/
theorem Trimmed.trim {s : List Char} (h : Trimmed s) : trim s = s := by
  have hnone : AllBlank [] := nofun
  have htrim := trim_surrounded hnone h hnone
  rwa [List.nil_append, List.append_nil] at htrim

/-- What is dropped is blank. -/
theorem allBlank_takeWhile (s : List Char) :
    AllBlank (s.takeWhile isWhitespace) :=
  List.all_eq_true.mp List.all_takeWhile

/-- And so at the end. -/
theorem exists_trimEnd (s : List Char) :
    ∃ behind, s = trimEnd s ++ behind ∧ AllBlank behind := by
  refine ⟨(s.reverse.takeWhile isWhitespace).reverse, ?_, ?_⟩
  · unfold trimEnd
    rw [← List.reverse_append, List.takeWhile_append_dropWhile,
      List.reverse_reverse]
  · intro c hc
    exact allBlank_takeWhile _ c (List.mem_reverse.mp hc)

/-- A text is trimmed once. -/
theorem trimmed_trim (s : List Char) : Trimmed (trim s) where
  front := by
    intro c hc
    obtain ⟨behind, hs, -⟩ := exists_trimEnd (s.dropWhile isWhitespace)
    rw [← trim_eq_trimEnd] at hs
    have hhead : (s.dropWhile isWhitespace).head? = some c := by
      rw [hs, List.head?_append, hc]
      rfl
    have hnot := List.head?_dropWhile_not isWhitespace s
    rw [hhead] at hnot
    simpa using hnot
  back := by
    intro c hc
    rw [trim_eq_trimEnd, trimEnd, List.getLast?_reverse] at hc
    have hnot := List.head?_dropWhile_not isWhitespace
      (s.dropWhile isWhitespace).reverse
    rw [hc] at hnot
    simpa using hnot

/-- A text is what `trim` leaves of it between blanks. -/
theorem exists_trim (s : List Char) :
    ∃ front behind, s = front ++ trim s ++ behind ∧ AllBlank front
      ∧ AllBlank behind := by
  obtain ⟨behind, hs, hbehind⟩ := exists_trimEnd (s.dropWhile isWhitespace)
  refine ⟨s.takeWhile isWhitespace, behind, ?_, allBlank_takeWhile s,
    hbehind⟩
  rw [List.append_assoc, trim_eq_trimEnd, ← hs,
    List.takeWhile_append_dropWhile]

/-- A text that does not start with a blank keeps its first character. -/
theorem trim_cons {c : Char} (h : isWhitespace c = false) (s : List Char) :
    ∃ rest, trim (c :: s) = c :: rest := by
  obtain ⟨behind, hs, hbehind⟩ := exists_trimEnd (c :: s)
  rw [trim_eq_trimEnd, List.dropWhile_cons_of_neg (by simp [h])]
  cases htrim : trimEnd (c :: s) with
  | nil =>
      rw [htrim, List.nil_append] at hs
      have hc := hbehind c (hs ▸ List.mem_cons_self)
      rw [h] at hc
      cases hc
  | cons d rest =>
      rw [htrim, List.cons_append] at hs
      exact ⟨rest, by rw [(List.cons.inj hs).1]⟩

/-- Trimming adds nothing. -/
theorem mem_of_mem_trim {s : List Char} {c : Char} (h : c ∈ trim s) :
    c ∈ s := by
  obtain ⟨front, behind, hs, -, -⟩ := exists_trim s
  rw [hs]
  exact List.mem_append_left _ (List.mem_append_right _ h)

theorem mem_of_mem_trimEnd {s : List Char} {c : Char} (h : c ∈ trimEnd s) :
    c ∈ s := by
  obtain ⟨behind, hs, -⟩ := exists_trimEnd s
  rw [hs]
  exact List.mem_append_left behind h

/-- Blanks at the end do not matter. -/
theorem trim_append_blank (s : List Char) {t : List Char} (ht : AllBlank t) :
    trim (s ++ t) = trim s := by
  obtain ⟨front, behind, hs, hfront, hbehind⟩ := exists_trim s
  have hall : AllBlank (behind ++ t) := by
    intro c hc
    rcases List.mem_append.mp hc with hc | hc
    · exact hbehind c hc
    · exact ht c hc
  calc trim (s ++ t)
      = trim (front ++ trim s ++ (behind ++ t)) := by
        rw [← List.append_assoc, ← hs]
    _ = trim s := trim_surrounded hfront (trimmed_trim s) hall

/-- Twice at the end is once. -/
theorem trim_trimEnd (s : List Char) : trim (trimEnd s) = trim s := by
  obtain ⟨behind, hs, hbehind⟩ := exists_trimEnd s
  calc trim (trimEnd s)
      = trim (trimEnd s ++ behind) := (trim_append_blank _ hbehind).symm
    _ = trim s := by rw [← hs]

-- =================================================================== lines

/-- No carriage return but those of `\r\n`. -/
def PlainBreaks : List Char → Prop
  | [] => True
  | '\r' :: '\n' :: rest => PlainBreaks rest
  | c :: rest => c ≠ '\r' ∧ PlainBreaks rest

/-- The test of `PlainBreaks`. -/
def plainBreaks : List Char → Bool
  | [] => true
  | '\r' :: '\n' :: rest => plainBreaks rest
  | c :: rest => c != '\r' && plainBreaks rest

/-- The check, as a property. -/
theorem plainBreaks_iff (s : List Char) :
    plainBreaks s = true ↔ PlainBreaks s := by
  induction s using PlainBreaks.induct with
  | case1 => simp [plainBreaks, PlainBreaks]
  | case2 rest ih => rw [plainBreaks, PlainBreaks, ih]
  | case3 c rest hbreak ih =>
      rw [plainBreaks, PlainBreaks]
      · simp [ih]
      · exact hbreak
      · exact hbreak

instance (s : List Char) : Decidable (PlainBreaks s) :=
  decidable_of_iff (plainBreaks s = true) (plainBreaks_iff s)

/-- Only the last character counts. -/
theorem stripLast_cons {c d : Char} (h : c ≠ d) (s : List Char) :
    Text.stripLast d (c :: s) = (Text.stripLast d s).map (c :: ·) := by
  cases s with
  | nil => simp [Text.stripLast, h]
  | cons e s =>
      unfold Text.stripLast
      rw [List.getLast?_cons_cons]
      by_cases hl : (e :: s).getLast? = some d
      · rw [if_pos hl, if_pos hl]
        rfl
      · rw [if_neg hl, if_neg hl]
        rfl

/-- So a line keeps its first. -/
theorem lineText_cons {c : Char} {piece : List Char} (hn : c ≠ '\n')
    (hr : c ≠ '\r') : Text.lineText (c :: piece) = c :: Text.lineText piece := by
  unfold Text.lineText
  rw [stripLast_cons hn]
  cases Text.stripLast '\n' piece with
  | none => rfl
  | some body =>
      simp only [Option.map_some]
      rw [stripLast_cons hr]
      cases Text.stripLast '\r' body <;> rfl

/-- The lines, and an empty one behind the last line end. -/
theorem lineSequence_eq_lines {text : List Char} (h : PlainBreaks text) :
    lineSequence text = Text.lines text
      ∨ lineSequence text = Text.lines text ++ [[]] := by
  induction text using PlainBreaks.induct with
  | case1 => exact .inr rfl
  | case2 rest ih =>
      have hlines : Text.lines ('\r' :: '\n' :: rest)
          = [] :: Text.lines rest := rfl
      have hseq : lineSequence ('\r' :: '\n' :: rest)
          = [] :: lineSequence rest := by
        rw [lineSequence]
      rw [hlines, hseq]
      rcases ih (by simpa [PlainBreaks] using h) with ih | ih <;> simp [ih]
  | case3 c rest hbreak ih =>
      have hplain : c ≠ '\r' ∧ PlainBreaks rest := by
        rw [PlainBreaks] at h
        · exact h
        · exact hbreak
      have ih := ih hplain.2
      by_cases hn : c = '\n'
      · have hlines : Text.lines (c :: rest) = [] :: Text.lines rest := by
          rw [hn]
          rfl
        have hseq : lineSequence (c :: rest) = [] :: lineSequence rest := by
          rw [hn, lineSequence]
          · simp
          · simp
        rw [hlines, hseq]
        rcases ih with ih | ih <;> simp [ih]
      · have hseq : lineSequence (c :: rest) = (match lineSequence rest with
            | [] => [[c]]
            | line :: lines => (c :: line) :: lines) := by
          rw [lineSequence]
          · rw [if_neg (by simp [hn, hplain.1])]
          · exact hbreak
        have hlines : Text.lines (c :: rest) = (match Text.lines rest with
            | [] => [[c]]
            | line :: lines => (c :: line) :: lines) := by
          unfold Text.lines
          rw [Text.splitInclusive, if_neg hn]
          cases Text.splitInclusive '\n' rest with
          | nil => simp [Text.lineText, Text.stripLast, hn]
          | cons piece pieces => simp [lineText_cons hn hplain.1]
        rw [hlines, hseq]
        rcases ih with ih | ih
        · exact .inl (by rw [ih])
        · rw [ih]
          cases Text.lines rest with
          | nil => exact .inl rfl
          | cons line lines => exact .inr rfl

/-- A line without the carriage return before its line feed. -/
def dropReturn (line : List Char) : List Char :=
  (Text.stripLast '\r' line).getD line

/-- The pieces between the line feeds of a text with plain breaks: a carriage
return stands at the end of a piece only, and not in the last one. -/
inductive PlainLines : List (List Char) → Prop where
  | last {line : List Char} : '\r' ∉ line → PlainLines [line]
  | cons {line : List Char} {rest : List (List Char)} :
      '\r' ∉ dropReturn line → PlainLines rest → PlainLines (line :: rest)

/-- At most one character is dropped. -/
theorem dropReturn_cases (line : List Char) :
    line = dropReturn line ∨ line = dropReturn line ++ ['\r'] := by
  unfold dropReturn
  cases h : Text.stripLast '\r' line with
  | none => exact .inl rfl
  | some body => exact .inr (Text.eq_append_of_stripLast h)

/-- And not the first of many. -/
theorem dropReturn_cons {c : Char} (h : c ≠ '\r') (line : List Char) :
    dropReturn (c :: line) = c :: dropReturn line := by
  unfold dropReturn
  rw [stripLast_cons h]
  cases Text.stripLast '\r' line <;> rfl

/-- Nothing is dropped where there is none. -/
theorem dropReturn_of_not_mem {line : List Char} (h : '\r' ∉ line) :
    dropReturn line = line := by
  rcases dropReturn_cases line with hline | hline
  · exact hline.symm
  · rw [hline] at h
    simp at h

/-- It is a blank anyway. -/
theorem trim_dropReturn (line : List Char) :
    trim (dropReturn line) = trim line := by
  rcases dropReturn_cases line with hline | hline
  · rw [← hline]
  · have hreturn : AllBlank ['\r'] := by
      intro c hc
      rw [List.mem_singleton.mp hc]
      decide
    calc trim (dropReturn line)
        = trim (dropReturn line ++ ['\r']) :=
          (trim_append_blank _ hreturn).symm
      _ = trim line := by rw [← hline]

/-- The carriage return is one of the last part. -/
theorem dropReturn_append (front : List Char) {line : List Char}
    (h : line ≠ []) : dropReturn (front ++ line) = front ++ dropReturn line := by
  have hlast : (front ++ line).getLast? = line.getLast? := by
    rw [List.getLast?_append]
    cases hl : line.getLast? with
    | none => exact absurd (List.getLast?_eq_none_iff.mp hl) h
    | some c => rfl
  unfold dropReturn Text.stripLast
  rw [hlast]
  by_cases hr : line.getLast? = some '\r'
  · rw [if_pos hr, if_pos hr, List.dropLast_append_of_ne_nil h]
    rfl
  · rw [if_neg hr, if_neg hr]
    rfl

theorem mem_of_mem_dropReturn {line : List Char} {c : Char}
    (h : c ∈ dropReturn line) : c ∈ line := by
  rcases dropReturn_cases line with hline | hline
  · rwa [hline]
  · rw [hline]
    exact List.mem_append_left _ h

/-- The first character is in the first line. -/
theorem lineSequence_char {c : Char} (hn : c ≠ '\n') (hr : c ≠ '\r')
    (s : List Char) :
    lineSequence (c :: s) = match lineSequence s with
      | [] => [[c]]
      | line :: lines => (c :: line) :: lines := by
  rw [lineSequence]
  · rw [if_neg (by simp [hn, hr])]
  · exact fun _ hc => absurd hc hr

/-- So is any text without breaks. -/
theorem lineSequence_body {body : List Char} (hn : '\n' ∉ body)
    (hr : '\r' ∉ body) {s line : List Char} {lines : List (List Char)}
    (h : lineSequence s = line :: lines) :
    lineSequence (body ++ s) = (body ++ line) :: lines := by
  induction body with
  | nil => exact h
  | cons c body ih =>
      obtain ⟨hcn, hbodyn⟩ := List.ne_and_not_mem_of_not_mem_cons hn
      obtain ⟨hcr, hbodyr⟩ := List.ne_and_not_mem_of_not_mem_cons hr
      rw [List.cons_append, lineSequence_char (Ne.symm hcn) (Ne.symm hcr),
        ih hbodyn hbodyr]
      rfl

/-- A line ends at its line feed, with the carriage return before it. -/
theorem lineSequence_line {line : List Char} (hn : '\n' ∉ line)
    (hr : '\r' ∉ dropReturn line) (s : List Char) :
    lineSequence (line ++ '\n' :: s) = dropReturn line :: lineSequence s := by
  have hbody : '\n' ∉ dropReturn line :=
    fun h => hn (mem_of_mem_dropReturn h)
  rcases dropReturn_cases line with hline | hline
  · have hfeed : lineSequence ('\n' :: s) = [] :: lineSequence s := by
      rw [lineSequence]
      · simp
      · simp
    calc lineSequence (line ++ '\n' :: s)
        = lineSequence (dropReturn line ++ '\n' :: s) := by rw [← hline]
      _ = dropReturn line :: lineSequence s := by
          rw [lineSequence_body hbody hr hfeed, List.append_nil]
  · have hboth : lineSequence ('\r' :: '\n' :: s) = [] :: lineSequence s := by
      rw [lineSequence]
    calc lineSequence (line ++ '\n' :: s)
        = lineSequence (dropReturn line ++ '\r' :: '\n' :: s) := by
          conv => lhs; rw [hline]
          rw [List.append_assoc]
          rfl
      _ = dropReturn line :: lineSequence s := by
          rw [lineSequence_body hbody hr hboth, List.append_nil]

/-- Lines that are put together are cut again. -/
theorem lineSequence_intercalate {lines : List (List Char)}
    (h : PlainLines lines) (hn : ∀ line ∈ lines, '\n' ∉ line) :
    lineSequence (['\n'].intercalate lines) = lines.map dropReturn := by
  induction h with
  | @last line hr =>
      have hend : lineSequence [] = [[]] := rfl
      have hbody := lineSequence_body (hn line List.mem_cons_self) hr hend
      rw [List.append_nil] at hbody
      rw [List.intercalate_singleton, hbody, List.map_singleton,
        dropReturn_of_not_mem hr]
  | @cons line rest hr hrest ih =>
      have hline := hn line List.mem_cons_self
      have htail := fun l hl => hn l (List.mem_cons_of_mem line hl)
      obtain ⟨second, later, rfl⟩ : ∃ second later, rest = second :: later := by
        cases hrest with
        | last => exact ⟨_, _, rfl⟩
        | cons => exact ⟨_, _, rfl⟩
      rw [List.intercalate_cons_cons, List.append_assoc,
        List.singleton_append, lineSequence_line hline hr, ih htail]
      rfl

/-- Plain breaks, seen from the pieces between the line feeds. -/
theorem plainLines_split {text : List Char} (h : PlainBreaks text) :
    PlainLines (Text.split '\n' text) := by
  induction text using PlainBreaks.induct with
  | case1 => exact .last List.not_mem_nil
  | case2 rest ih =>
      have hrest : PlainBreaks rest := by simpa [PlainBreaks] using h
      exact .cons (List.not_mem_nil) (ih hrest)
  | case3 c rest hbreak ih =>
      have hplain : c ≠ '\r' ∧ PlainBreaks rest := by
        rw [PlainBreaks] at h
        · exact h
        · exact hbreak
      have hpieces := ih hplain.2
      unfold Text.split
      by_cases hc : c = '\n'
      · rw [if_pos hc]
        exact .cons List.not_mem_nil hpieces
      · rw [if_neg hc]
        generalize Text.split '\n' rest = pieces at hpieces ⊢
        cases hpieces with
        | last hr => exact .last (by simp [Ne.symm hplain.1, hr])
        | cons hr hlater =>
            refine .cons ?_ hlater
            rw [dropReturn_cons hplain.1]
            simp [Ne.symm hplain.1, hr]

/-- One line for another. -/
theorem PlainLines.replace {before : List (List Char)} {old new : List Char}
    {behind : List (List Char)} (h : PlainLines (before ++ old :: behind))
    (hnew : '\r' ∉ new) : PlainLines (before ++ new :: behind) := by
  induction before with
  | nil =>
      cases h with
      | last => exact .last hnew
      | cons _ hrest =>
          exact .cons (fun hr => hnew (mem_of_mem_dropReturn hr)) hrest
  | cons line rest ih =>
      generalize hlater : rest ++ old :: behind = later at h ih
      have hcons : line :: rest ++ old :: behind = line :: later := by
        rw [List.cons_append, hlater]
      rw [hcons] at h
      cases h with
      | last => cases rest <;> cases hlater
      | cons hline hrest => exact .cons hline (ih hrest)

/-- One line more. -/
theorem PlainLines.append {lines : List (List Char)} {new : List Char}
    (h : PlainLines lines) (hnew : '\r' ∉ new) :
    PlainLines (lines ++ [new]) := by
  induction h with
  | last hline =>
      exact .cons (fun hr => hline (mem_of_mem_dropReturn hr)) (.last hnew)
  | cons hline _ ih => exact .cons hline ih

/-- No line holds a break. -/
theorem not_mem_lineSequence {text line : List Char}
    (h : line ∈ lineSequence text) : '\n' ∉ line ∧ '\r' ∉ line := by
  induction text using lineSequence.induct generalizing line with
  | case1 =>
      rw [List.mem_singleton.mp h]
      exact ⟨List.not_mem_nil, List.not_mem_nil⟩
  | case2 rest ih =>
      rw [lineSequence] at h
      rcases List.mem_cons.mp h with rfl | hrest
      · exact ⟨List.not_mem_nil, List.not_mem_nil⟩
      · exact ih hrest
  | case3 c rest hbreak hc ih =>
      rw [lineSequence, if_pos hc] at h
      · rcases List.mem_cons.mp h with rfl | hrest
        · exact ⟨List.not_mem_nil, List.not_mem_nil⟩
        · exact ih hrest
      · exact hbreak
  | case4 c rest hbreak hc hnil ih =>
      rw [lineSequence, if_neg hc, hnil] at h
      · rw [List.mem_singleton.mp h]
        obtain ⟨hn, hr⟩ := not_or.mp hc
        simp [Ne.symm hn, Ne.symm hr]
      · exact hbreak
  | case5 c rest hbreak hc first later hcons ih =>
      rw [lineSequence, if_neg hc, hcons] at h
      · rcases List.mem_cons.mp h with rfl | hrest
        · obtain ⟨hn, hr⟩ := not_or.mp hc
          obtain ⟨hfirstn, hfirstr⟩ := ih (hcons ▸ List.mem_cons_self)
          simp [Ne.symm hn, Ne.symm hr, hfirstn, hfirstr]
        · exact ih (hcons ▸ List.mem_cons_of_mem first hrest)
      · exact hbreak

end ZeroDpi.Lib.Kotlin
