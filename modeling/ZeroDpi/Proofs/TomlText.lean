/-
The readers and writers of a configuration's TOML agree: what is quoted is
read back (`decodeTomlString_quoteToml`), so is an array in canonical form
(`parseTomlStringArray_canonical`), and the scanner that looks for a comment
passes every string and every array that the readers take
(`outside_quoteToml`, `outside_of_parseTomlStringArray`).

A value stands on its line between a blank and the comment;
`stripped_literal` and `trailingComment_literal` take the two apart again.
-/
import ZeroDpi.Android.TomlText

namespace ZeroDpi.Android

open Lib Quoting

-- ================================================================= strings

/-- The pair of functions meets what a quoting needs. -/
theorem escapes_toml : Escapes escapeTomlChar unescapeToml := by
  intro c
  unfold escapeTomlChar
  split
  · exact .inr ⟨_, rfl, rfl⟩
  · exact .inr ⟨_, rfl, rfl⟩
  · exact .inr ⟨_, rfl, rfl⟩
  · exact .inr ⟨_, rfl, rfl⟩
  · exact .inr ⟨_, rfl, rfl⟩
  case h_6 hslash hquote _ _ _ => exact .inl ⟨rfl, hquote, hslash⟩

/-- So what is quoted is read back. -/
theorem readString_quoted (value behind : List Char) :
    readString unescapeToml (escapeTomlString value ++ '"' :: behind)
      = some (value, behind) :=
  readString_flatMap escapes_toml value behind

/-- The decoder undoes the quoting. -/
theorem decodeTomlString_quoteToml (value : List Char) :
    decodeTomlString (quoteToml value) = some value := by
  unfold decodeTomlString quoteToml
  simp only [readString_quoted]
  rfl

/-- A quoted string hides no comment. -/
theorem outside_quoteToml (value : List Char) : Outside (quoteToml value) :=
  outside_string (inside_escape escapes_toml value)

/-- An escaped text has no line breaks. -/
theorem unbroken_escapeTomlString (value : List Char) :
    ∀ c ∈ escapeTomlString value, c ≠ '\n' ∧ c ≠ '\r' := by
  intro c hc
  obtain ⟨d, -, hd⟩ := List.mem_flatMap.mp hc
  unfold escapeTomlChar at hd
  split at hd
  case h_6 hn hr _ =>
    rw [List.mem_singleton.mp hd]
    exact ⟨hn, hr⟩
  all_goals
    simp only [List.mem_cons, List.not_mem_nil, or_false] at hd
    rcases hd with rfl | rfl <;> exact by decide

-- ================================================================== arrays

/-- Nor do blanks. -/
theorem outside_of_allBlank {s : List Char} (h : Kotlin.AllBlank s) :
    Outside s := by
  apply outside_of_plain
  intro c hc
  have hblank := h c hc
  constructor
  · rintro rfl
    exact absurd hblank (by decide)
  · rintro rfl
    exact absurd hblank (by decide)

/-- Blanks in front of a text do not matter for its strings. -/
theorem outside_of_dropWhile {s : List Char}
    (h : Outside (s.dropWhile Kotlin.isWhitespace)) : Outside s := by
  have hfront := (outside_of_allBlank (Kotlin.allBlank_takeWhile s)).append h
  rwa [List.takeWhile_append_dropWhile] at hfront

/-- One turn of the loop, without the count of turns. -/
theorem parseItems_succ (fuel : Nat) (body : List Char) :
    parseItems (fuel + 1) body
      = match body.dropWhile Kotlin.isWhitespace with
        | [] => some []
        | '"' :: rest =>
            match readString unescapeToml rest with
            | none => none
            | some (item, rest) =>
                match rest.dropWhile Kotlin.isWhitespace with
                | [] => some [item]
                | ',' :: rest =>
                    if (rest.dropWhile Kotlin.isWhitespace).isEmpty then none
                    else (parseItems fuel rest).map (item :: ·)
                | _ => none
        | _ => none := rfl

/-- Nor does an array of strings. -/
theorem outside_of_parseItems {fuel : Nat} {body : List Char}
    {items : List (List Char)} (h : parseItems fuel body = some items) :
    Outside body := by
  induction fuel generalizing body items with
  | zero => cases h
  | succ fuel ih =>
      apply outside_of_dropWhile
      rw [parseItems_succ] at h
      generalize body.dropWhile Kotlin.isWhitespace = front at h ⊢
      split at h
      case h_1 => exact .nil
      case h_2 rest =>
        split at h
        case h_1 => cases h
        case h_2 item behind hread =>
          obtain ⟨text, htext, rfl⟩ := readString_inside hread
          apply Outside.string htext
          apply outside_of_dropWhile
          generalize behind.dropWhile Kotlin.isWhitespace = next at h ⊢
          split at h
          case h_1 => exact .nil
          case h_2 later =>
            split at h
            · cases h
            · obtain ⟨items', hitems, -⟩ := Option.map_eq_some_iff.mp h
              exact .char (by decide) (by decide) (ih hitems)
          case h_3 => cases h
      case h_3 => cases h

/-- The strings of an array, with commas between them. -/
def commaSeparated (values : List (List Char)) : List Char :=
  [',', ' '].intercalate (values.map quoteToml)

/-- Items in sequence. -/
theorem commaSeparated_cons (value second : List Char)
    (rest : List (List Char)) :
    commaSeparated (value :: second :: rest)
      = quoteToml value ++ ',' :: ' ' :: commaSeparated (second :: rest) := by
  simp [commaSeparated, List.intercalate_cons_cons]

theorem commaSeparated_head (value : List Char) (rest : List (List Char)) :
    ∃ tail, commaSeparated (value :: rest) = '"' :: tail := by
  cases rest with
  | nil => exact ⟨_, List.intercalate_singleton⟩
  | cons second rest =>
      rw [commaSeparated_cons]
      exact ⟨_, rfl⟩

theorem length_le_commaSeparated (values : List (List Char)) :
    values.length ≤ (commaSeparated values).length := by
  induction values with
  | nil => exact Nat.zero_le _
  | cons value rest ih =>
      cases rest with
      | nil =>
          obtain ⟨tail, htail⟩ := commaSeparated_head value []
          rw [htail, List.length_cons]
          exact Nat.le_add_left 1 _
      | cons second rest =>
          rw [commaSeparated_cons]
          simp only [List.length_append, List.length_cons] at ih ⊢
          omega

/-- A string at the front of an array is its first item. -/
theorem parseItems_quoted (fuel : Nat) (value behind : List Char) :
    parseItems (fuel + 1) (quoteToml value ++ behind)
      = match behind.dropWhile Kotlin.isWhitespace with
        | [] => some [value]
        | ',' :: rest =>
            if (rest.dropWhile Kotlin.isWhitespace).isEmpty then none
            else (parseItems fuel rest).map (value :: ·)
        | _ => none := by
  have hfront : (quoteToml value ++ behind).dropWhile Kotlin.isWhitespace
      = '"' :: (escapeTomlString value ++ '"' :: behind) := by
    simp only [quoteToml, List.cons_append, List.append_assoc,
      List.nil_append]
    exact List.dropWhile_cons_of_neg (by decide)
  rw [parseItems_succ, hfront]
  simp only [readString_quoted]

theorem parseItems_blank (fuel : Nat) (body : List Char) :
    parseItems fuel (' ' :: body) = parseItems fuel body := by
  cases fuel with
  | zero => rfl
  | succ fuel =>
      rw [parseItems_succ, parseItems_succ,
        List.dropWhile_cons_of_pos (by decide)]

/-- So the items of an array are read back, in order. -/
theorem parseItems_commaSeparated {fuel : Nat} {values : List (List Char)}
    (h : values.length < fuel) :
    parseItems fuel (commaSeparated values) = some values := by
  induction values generalizing fuel with
  | nil =>
      cases fuel with
      | zero => cases h
      | succ fuel => rfl
  | cons value rest ih =>
      obtain ⟨fuel, rfl⟩ : ∃ n, fuel = n + 1 :=
        ⟨fuel - 1, by omega⟩
      cases rest with
      | nil =>
          have hone := parseItems_quoted fuel value []
          rw [List.append_nil] at hone
          rw [commaSeparated, List.map_singleton, List.intercalate_singleton,
            hone]
          rfl
      | cons second rest =>
          have hlater := @ih fuel (by simpa using h)
          obtain ⟨tail, htail⟩ := commaSeparated_head second rest
          rw [commaSeparated_cons, parseItems_quoted,
            List.dropWhile_cons_of_neg (by decide)]
          show (if ((' ' :: commaSeparated (second :: rest)).dropWhile
              Kotlin.isWhitespace).isEmpty then none
            else (parseItems fuel (' ' :: commaSeparated (second :: rest))).map
              (value :: ·)) = _
          rw [parseItems_blank, hlater, htail,
            List.dropWhile_cons_of_pos (by decide),
            List.dropWhile_cons_of_neg (by decide)]
          rfl

/-- An array has no blanks around it. -/
theorem bracketed_trimmed (items : List (List Char)) :
    Kotlin.Trimmed (bracketed items) where
  front := by
    rintro c ⟨⟩
    decide
  back := by
    rintro c hc
    rw [bracketed, ← List.cons_append, List.getLast?_concat] at hc
    cases hc
    decide

/-- An array in canonical form holds what it was made of. -/
theorem parseTomlStringArray_canonical (values : List (List Char)) :
    parseTomlStringArray (canonicalStringArray values) = some values := by
  have hfuel : values.length
      < (commaSeparated values ++ [']']).length + 1 := by
    have hlength := length_le_commaSeparated values
    rw [List.length_append]
    omega
  have htrim : Kotlin.trim (canonicalStringArray values)
      = '[' :: (commaSeparated values ++ [']']) :=
    (bracketed_trimmed _).trim
  unfold parseTomlStringArray
  simp only [htrim, List.getLast?_concat, if_true, List.dropLast_concat]
  exact parseItems_commaSeparated hfuel

/-- An array that can be read has its strings closed and no comment. -/
theorem outside_of_parseTomlStringArray {raw : List Char}
    {items : List (List Char)} (h : parseTomlStringArray raw = some items) :
    Outside (Kotlin.trim raw) := by
  unfold parseTomlStringArray at h
  generalize Kotlin.trim raw = trimmed at h ⊢
  split at h
  case h_1 rest =>
    split at h
    case isTrue hlast =>
      obtain ⟨body, rfl⟩ := List.getLast?_eq_some_iff.mp hlast
      rw [List.dropLast_concat] at h
      have hbody := (outside_of_parseItems h).append
        (outside_of_plain (s := [']']) (by simp))
      exact .char (by decide) (by decide) hbody
    case isFalse => cases h
  case h_2 => cases h

-- ================================================================ comments

/-- `raw`, behind the `=` of a line, has a comment, `comment` without the
blanks around it. -/
def TrailsWith (raw comment : List Char) : Prop :=
  ∃ found, HasComment raw found ∧ comment = Kotlin.trim found

/-- The scan may start behind the blanks. -/
theorem commentAt_dropWhile (raw : List Char) :
    commentAt false false raw
      = (commentAt false false (raw.dropWhile Kotlin.isWhitespace)).map
        (· + (raw.takeWhile Kotlin.isWhitespace).length) := by
  have hscan := commentAt_outside
    (outside_of_allBlank (Kotlin.allBlank_takeWhile raw))
    (raw.dropWhile Kotlin.isWhitespace)
  rwa [List.takeWhile_append_dropWhile] at hscan

theorem drop_dropWhile (raw : List Char) (i : Nat) :
    raw.drop (i + (raw.takeWhile Kotlin.isWhitespace).length)
      = (raw.dropWhile Kotlin.isWhitespace).drop i := by
  calc raw.drop (i + (raw.takeWhile Kotlin.isWhitespace).length)
      = (raw.takeWhile Kotlin.isWhitespace
          ++ raw.dropWhile Kotlin.isWhitespace).drop
            ((raw.takeWhile Kotlin.isWhitespace).length + i) := by
        rw [List.takeWhile_append_dropWhile, Nat.add_comm]
    _ = (raw.dropWhile Kotlin.isWhitespace).drop i := by
        rw [← List.drop_drop, List.drop_left]

/-- A comment, where there is one. -/
theorem trailingComment_of_hasComment {raw found : List Char}
    (h : HasComment raw found) :
    trailingComment raw = Kotlin.trim found := by
  obtain ⟨i, hi, rfl⟩ := hasComment_iff.mp h
  rw [commentAt_dropWhile] at hi
  obtain ⟨j, hj, rfl⟩ := Option.map_eq_some_iff.mp hi
  simp only [trailingComment, findUnquotedCommentIndex, hj]
  rw [drop_dropWhile]

/-- And where there is none. -/
theorem trailingComment_of_none {raw : List Char}
    (h : commentAt false false raw = none) : trailingComment raw = [] := by
  rw [commentAt_dropWhile] at h
  simp only [trailingComment, findUnquotedCommentIndex,
    Option.map_eq_none_iff.mp h]

/-- What `trailingComment` can answer. -/
inductive CommentText : List Char → Prop where
  | none : CommentText []
  | comment {rest : List Char} : Kotlin.Trimmed ('#' :: rest) →
      CommentText ('#' :: rest)

theorem trim_comment {found : List Char} (h : found.head? = some '#') :
    ∃ rest, Kotlin.trim found = '#' :: rest := by
  cases found with
  | nil => cases h
  | cons c rest =>
      cases h
      exact Kotlin.trim_cons (by decide) rest

/-- It is a comment or nothing. -/
theorem commentText_trailingComment (raw : List Char) :
    CommentText (trailingComment raw) := by
  cases h : commentAt false false raw with
  | none =>
      rw [trailingComment_of_none h]
      exact .none
  | some i =>
      have hfound := hasComment_iff.mpr ⟨i, h, rfl⟩
      rw [trailingComment_of_hasComment hfound]
      obtain ⟨-, -, -, hhash⟩ := hfound
      obtain ⟨rest, hrest⟩ := trim_comment hhash
      have htrimmed := Kotlin.trimmed_trim (raw.drop i)
      rw [hrest] at htrimmed ⊢
      exact .comment htrimmed

/-- The function finds the comment that the grammar tells. -/
theorem trailsWith_iff {raw comment : List Char} :
    TrailsWith raw comment
      ↔ trailingComment raw = comment ∧ comment ≠ [] := by
  constructor
  · rintro ⟨found, hfound, rfl⟩
    refine ⟨trailingComment_of_hasComment hfound, ?_⟩
    obtain ⟨-, -, -, hhash⟩ := hfound
    obtain ⟨rest, hrest⟩ := trim_comment hhash
    rw [hrest]
    exact List.cons_ne_nil '#' rest
  · rintro ⟨rfl, hne⟩
    cases h : commentAt false false raw with
    | none => exact absurd (trailingComment_of_none h) hne
    | some i =>
        have hfound := hasComment_iff.mpr ⟨i, h, rfl⟩
        exact ⟨_, hfound, trailingComment_of_hasComment hfound⟩

-- ======================================================== a value on its line

/-- A value as it stands on a line. -/
structure Literal (value : List Char) : Prop where
  outside : Outside value
  trimmed : Kotlin.Trimmed value
  unbroken : ∀ c ∈ value, c ≠ '\n' ∧ c ≠ '\r'

/-- What `replaceOrAppendField` puts behind a value. -/
def commentTail (comment : List Char) : List Char :=
  if Kotlin.isBlank comment then [] else ' ' :: comment

theorem commentTail_nil : commentTail [] = [] := rfl

theorem commentTail_comment (rest : List Char) :
    commentTail ('#' :: rest) = ' ' :: '#' :: rest := by
  unfold commentTail
  rw [if_neg]
  simp [Kotlin.isBlank, show Kotlin.isWhitespace '#' = false by decide]

theorem allBlank_space : Kotlin.AllBlank [' '] := by
  intro c hc
  rw [List.mem_singleton.mp hc]
  decide

theorem outside_spaced {value : List Char} (h : Outside value) :
    Outside (' ' :: value) := .char (by decide) (by decide) h

/-- A literal is found in front of its comment. -/
theorem stripInlineComment_literal {value comment : List Char}
    (h : Literal value) (hcomment : CommentText comment) :
    Kotlin.trim (stripInlineComment (' ' :: (value ++ commentTail comment)))
      = value := by
  have houtside := outside_spaced h.outside
  unfold stripInlineComment
  cases hcomment with
  | none =>
      rw [commentTail_nil, List.append_nil, commentAt_none houtside]
      have htrim := Kotlin.trim_surrounded allBlank_space h.trimmed
        (show Kotlin.AllBlank [] from nofun)
      rw [List.append_nil] at htrim
      simp only [Kotlin.trim_trimEnd]
      exact htrim
  | @comment rest htrimmed =>
      have hspaced := houtside.append (outside_of_allBlank allBlank_space)
      have hraw : ' ' :: (value ++ commentTail ('#' :: rest))
          = (' ' :: value ++ [' ']) ++ '#' :: rest := by
        rw [commentTail_comment]
        simp
      have htrim := Kotlin.trim_surrounded allBlank_space h.trimmed
        allBlank_space
      rw [hraw, commentAt_comment hspaced]
      simp only [List.take_left, Kotlin.trim_trimEnd]
      exact htrim

/-- And the comment behind it. -/
theorem trailingComment_literal {value comment : List Char}
    (h : Outside value) (hcomment : CommentText comment) :
    trailingComment (' ' :: (value ++ commentTail comment)) = comment := by
  have houtside := outside_spaced h
  cases hcomment with
  | none =>
      apply trailingComment_of_none
      rw [commentTail_nil, List.append_nil]
      exact commentAt_none houtside
  | @comment rest htrimmed =>
      have hspaced := houtside.append (outside_of_allBlank allBlank_space)
      have hfound : HasComment (' ' :: (value ++ commentTail ('#' :: rest)))
          ('#' :: rest) := by
        refine ⟨' ' :: value ++ [' '], hspaced, ?_, rfl⟩
        rw [commentTail_comment]
        simp
      rw [trailingComment_of_hasComment hfound, htrimmed.trim]

-- ================================================================ patterns

/-- No character of a key is a space, an equals sign or a `#`. -/
structure KeyClass (inKey : Char → Bool) : Prop where
  space : ∀ c, isSpace c = true → inKey c = false
  equals : inKey '=' = false
  blank : ∀ c, inKey c = true → Kotlin.isWhitespace c = false
  hash : inKey '#' = false

/-- The pattern's spaces are blanks. -/
theorem isWhitespace_of_isSpace {c : Char} (h : isSpace c = true) :
    Kotlin.isWhitespace c = true := by
  simp only [isSpace, Kotlin.isWhitespace, Bool.or_eq_true,
    Bool.and_eq_true, decide_eq_true_eq] at h ⊢
  omega

/-- Keys in upper case. -/
theorem keyClass_isUpperKeyChar : KeyClass isUpperKeyChar where
  space := by
    intro c hc
    simp only [isSpace, isUpperKeyChar, Bool.or_eq_true, Bool.and_eq_true,
      decide_eq_true_eq, Bool.or_eq_false_iff, Bool.and_eq_false_iff,
      decide_eq_false_iff_not] at hc ⊢
    omega
  equals := by decide
  blank := by
    intro c hc
    simp only [Kotlin.isWhitespace, isUpperKeyChar, Bool.or_eq_true,
      Bool.and_eq_true, decide_eq_true_eq, Bool.or_eq_false_iff,
      Bool.and_eq_false_iff, decide_eq_false_iff_not] at hc ⊢
    omega
  hash := by decide

/-- A front of one class is all that is taken where the rest starts with
another character. -/
theorem span_append {p : Char → Bool} {front rest : List Char}
    (hfront : ∀ c ∈ front, p c = true) (hrest : ∀ c ∈ rest.head?, p c = false) :
    (front ++ rest).takeWhile p = front
      ∧ (front ++ rest).dropWhile p = rest := by
  rw [List.takeWhile_append_of_pos hfront, List.dropWhile_append_of_pos hfront]
  cases rest with
  | nil => exact ⟨List.append_nil front, rfl⟩
  | cons c rest =>
      have hc := hrest c rfl
      rw [List.takeWhile_cons_of_neg (by simp [hc]),
        List.dropWhile_cons_of_neg (by simp [hc])]
      exact ⟨List.append_nil front, rfl⟩

/-- `line` assigns to `key`, and has `rest` behind the `=`. -/
structure Assigns (inKey : Char → Bool) (line key front gap rest : List Char) :
    Prop where
  eq : line = front ++ (key ++ (gap ++ '=' :: rest))
  frontSpaces : ∀ c ∈ front, isSpace c = true
  gapSpaces : ∀ c ∈ gap, isSpace c = true
  keyChars : ∀ c ∈ key, inKey c = true
  nonempty : key ≠ []

/-- A key that is found stands in front of a `=`. -/
theorem assigns_of_keyBefore {inKey : Char → Bool} {line key : List Char}
    (h : keyBefore inKey line = some key) :
    ∃ front gap rest, Assigns inKey line key front gap rest := by
  simp only [keyBefore] at h
  split at h
  case h_1 rest heq =>
    split at h
    · cases h
    case isFalse hne =>
      cases h
      refine ⟨line.takeWhile isSpace,
        ((line.dropWhile isSpace).dropWhile inKey).takeWhile isSpace, rest,
        ?_, ?_, ?_, ?_, ?_⟩
      · rw [← heq, List.takeWhile_append_dropWhile,
          List.takeWhile_append_dropWhile, List.takeWhile_append_dropWhile]
      · exact List.all_eq_true.mp List.all_takeWhile
      · exact List.all_eq_true.mp List.all_takeWhile
      · exact List.all_eq_true.mp List.all_takeWhile
      · simpa using hne
  case h_2 => cases h

/-- A key in front of a `=` is found. -/
theorem Assigns.keyBefore {inKey : Char → Bool} (hclass : KeyClass inKey)
    {line key front gap rest : List Char}
    (h : Assigns inKey line key front gap rest) :
    keyBefore inKey line = some key := by
  have hequals : isSpace '=' = false := by decide
  have hgap : ∀ c ∈ (gap ++ '=' :: rest).head?, inKey c = false := by
    intro c hc
    cases gap with
    | nil =>
        cases hc
        exact hclass.equals
    | cons d gap =>
        cases hc
        exact hclass.space c (h.gapSpaces c List.mem_cons_self)
  have hkey : ∀ c ∈ (key ++ (gap ++ '=' :: rest)).head?,
      isSpace c = false := by
    intro c hc
    cases hk : key with
    | nil => exact absurd hk h.nonempty
    | cons d key' =>
        rw [hk] at hc
        cases hc
        have hin := h.keyChars c (hk ▸ List.mem_cons_self)
        cases hspace : isSpace c with
        | false => rfl
        | true =>
            rw [hclass.space c hspace] at hin
            cases hin
  have hrest : ∀ c ∈ ('=' :: rest).head?, isSpace c = false := by
    rintro c ⟨⟩
    exact hequals
  unfold Android.keyBefore
  rw [h.eq]
  simp only [(span_append h.frontSpaces hkey).2, (span_append h.keyChars hgap).1,
    (span_append h.keyChars hgap).2, (span_append h.gapSpaces hrest).2]
  rw [if_neg (by simpa using h.nonempty)]

/-- What is behind the first `=`. -/
theorem Assigns.substringAfter {inKey : Char → Bool}
    (hclass : KeyClass inKey) {line key front gap rest : List Char}
    (h : Assigns inKey line key front gap rest) :
    Kotlin.substringAfter '=' line = rest := by
  have hspace : ∀ s : List Char, (∀ c ∈ s, isSpace c = true) →
      ∀ c ∈ s, decide (c ≠ '=') = true := by
    rintro s hs c hc
    apply decide_eq_true
    rintro rfl
    exact absurd (hs '=' hc) (by decide)
  have hkey : ∀ c ∈ key, decide (c ≠ '=') = true := by
    intro c hc
    apply decide_eq_true
    rintro rfl
    have hin := h.keyChars '=' hc
    rw [hclass.equals] at hin
    cases hin
  unfold Kotlin.substringAfter
  rw [h.eq, List.dropWhile_append_of_pos (hspace front h.frontSpaces),
    List.dropWhile_append_of_pos hkey,
    List.dropWhile_append_of_pos (hspace gap h.gapSpaces),
    List.dropWhile_cons_of_neg (by simp)]
  rfl

/-- A line that assigns is neither empty nor a comment. -/
theorem Assigns.not_skipped {inKey : Char → Bool} (hclass : KeyClass inKey)
    {line key front gap rest : List Char}
    (h : Assigns inKey line key front gap rest) :
    ∃ c tail, Kotlin.trim line = c :: tail ∧ c ≠ '#' := by
  cases hk : key with
  | nil => exact absurd hk h.nonempty
  | cons c key' =>
      have hc := h.keyChars c (hk ▸ List.mem_cons_self)
      have hblank : Kotlin.AllBlank front :=
        fun d hd => isWhitespace_of_isSpace (h.frontSpaces d hd)
      rw [h.eq, Kotlin.trim_append hblank, hk, List.cons_append]
      obtain ⟨tail, htail⟩ := Kotlin.trim_cons (hclass.blank c hc) _
      refine ⟨c, tail, htail, ?_⟩
      rintro rfl
      rw [hclass.hash] at hc
      cases hc

/-- Whatever comes behind. -/
theorem Assigns.append {inKey : Char → Bool}
    {line key front gap rest : List Char}
    (h : Assigns inKey line key front gap rest) (tail : List Char) :
    Assigns inKey (line ++ tail) key front gap (rest ++ tail) where
  eq := by simp [h.eq]
  frontSpaces := h.frontSpaces
  gapSpaces := h.gapSpaces
  keyChars := h.keyChars
  nonempty := h.nonempty

/-- The carriage return of a line belongs to no key. -/
theorem keyBefore_return {inKey : Char → Bool} (hclass : KeyClass inKey)
    (line : List Char) :
    keyBefore inKey (line ++ ['\r']) = keyBefore inKey line := by
  cases hline : keyBefore inKey line with
  | some key =>
      obtain ⟨front, gap, rest, h⟩ := assigns_of_keyBefore hline
      exact (h.append ['\r']).keyBefore hclass
  | none =>
      cases hreturn : keyBefore inKey (line ++ ['\r']) with
      | none => rfl
      | some key =>
          obtain ⟨front, gap, rest, h⟩ := assigns_of_keyBefore hreturn
          have heq := h.eq
          rcases List.eq_nil_or_concat rest with rfl | ⟨rest', d, rfl⟩
          · -- the last character would be the equals sign
            rw [← List.append_assoc, ← List.append_assoc] at heq
            have hlast := (List.append_inj' heq rfl).2
            exact absurd hlast (by decide)
          · have hconcat : line ++ ['\r']
                = front ++ (key ++ (gap ++ '=' :: rest')) ++ [d] := by
              simpa using heq
            have hassigns : Assigns inKey line key front gap rest' :=
              ⟨(List.append_inj' hconcat rfl).1, h.frontSpaces, h.gapSpaces,
                h.keyChars, h.nonempty⟩
            rw [hassigns.keyBefore hclass] at hline
            cases hline

/-- So a carriage return does not matter. -/
theorem keyBefore_dropReturn {inKey : Char → Bool} (hclass : KeyClass inKey)
    (line : List Char) :
    keyBefore inKey (Kotlin.dropReturn line) = keyBefore inKey line := by
  rcases Kotlin.dropReturn_cases line with hline | hline
  · rw [← hline]
  · calc keyBefore inKey (Kotlin.dropReturn line)
        = keyBefore inKey (Kotlin.dropReturn line ++ ['\r']) :=
          (keyBefore_return hclass _).symm
      _ = keyBefore inKey line := by rw [← hline]

end ZeroDpi.Android
