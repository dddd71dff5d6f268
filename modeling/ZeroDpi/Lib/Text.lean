/-
Character-level readings of the standard string operations that a parser
of configurations and lists leans on: trimming, ASCII case, splitting at a
separator and into lines, and decimal and hexadecimal numerals. Everything
works on lists of characters so that a closed input evaluates in the
kernel.
-/
import Mathlib.Algebra.Ring.Nat

namespace ZeroDpi.Lib.Text

/-- The Unicode `White_Space` characters. -/
def isWhitespace (c : Char) : Bool :=
  let n := c.toNat
  (9 ≤ n && n ≤ 13) || n == 0x20 || n == 0x85 || n == 0xA0 || n == 0x1680
    || (0x2000 ≤ n && n ≤ 0x200A) || n == 0x2028 || n == 0x2029
    || n == 0x202F || n == 0x205F || n == 0x3000

/-- Leading and trailing whitespace removed. -/
def trim (s : List Char) : List Char :=
  ((s.dropWhile isWhitespace).reverse.dropWhile isWhitespace).reverse

/-- ASCII capitals lowered, every other character kept. -/
def toAsciiLowercase (s : List Char) : List Char :=
  s.map fun c =>
    if 'A' ≤ c ∧ c ≤ 'Z' then Char.ofNat (c.toNat + 32) else c

/-- The text before and after the first `sep`, if there is one. -/
def splitOnce (sep : Char) : List Char → Option (List Char × List Char)
  | [] => none
  | c :: rest =>
      if c = sep then some ([], rest)
      else (splitOnce sep rest).map fun (a, b) => (c :: a, b)

/-- The pieces between the separators. -/
def split (sep : Char) : List Char → List (List Char)
  | [] => [[]]
  | c :: rest =>
      if c = sep then [] :: split sep rest
      else match split sep rest with
        | [] => [[c]]
        | piece :: pieces => (c :: piece) :: pieces

/-- The first pieces, and in the last of `n` all that is left. -/
def splitn : Nat → Char → List Char → List (List Char)
  | 0, _, _ => []
  | 1, _, s => [s]
  | n + 2, sep, s =>
      match splitOnce sep s with
      | none => [s]
      | some (piece, rest) => piece :: splitn (n + 1) sep rest

/-- The pieces that end with `sep`, and what is left behind the last. -/
def splitInclusive (sep : Char) : List Char → List (List Char)
  | [] => []
  | c :: rest =>
      if c = sep then [c] :: splitInclusive sep rest
      else match splitInclusive sep rest with
        | [] => [[c]]
        | piece :: pieces => (c :: piece) :: pieces

/-- A text without its last character, if that is `c`. -/
def stripLast (c : Char) (s : List Char) : Option (List Char) :=
  if s.getLast? = some c then some s.dropLast else none

/-- A piece of text without its line end, `\n` or `\r\n`. -/
def lineText (piece : List Char) : List Char :=
  match stripLast '\n' piece with
  | none => piece
  | some body => (stripLast '\r' body).getD body

/-- The lines of a text. -/
def lines (s : List Char) : List (List Char) :=
  (splitInclusive '\n' s).map lineText

/-- `prefix` removed from the front, if it is there. -/
def stripPrefix : List Char → List Char → Option (List Char)
  | [], s => some s
  | _ :: _, [] => none
  | p :: ps, c :: cs => if p = c then stripPrefix ps cs else none

/-- The value of a decimal digit. -/
def digit? (c : Char) : Option Nat :=
  if '0' ≤ c ∧ c ≤ '9' then some (c.toNat - '0'.toNat) else none

/-- The value of a hexadecimal digit of either case. -/
def hexDigit? (c : Char) : Option Nat :=
  if '0' ≤ c ∧ c ≤ '9' then some (c.toNat - '0'.toNat)
  else if 'a' ≤ c ∧ c ≤ 'f' then some (c.toNat - 'a'.toNat + 10)
  else if 'A' ≤ c ∧ c ≤ 'F' then some (c.toNat - 'A'.toNat + 10)
  else none

/-- A non-empty run of decimal digits as a number. -/
def digits? : List Char → Option Nat
  | [] => none
  | cs => cs.foldl (fun acc c => do pure (10 * (← acc) + (← digit? c))) (some 0)

/-- An unsigned numeral below `bound`, with an optional plus sign. -/
def parseUnsigned (bound : Nat) (s : List Char) : Option Nat :=
  let n := match s with
    | '+' :: rest => digits? rest
    | _ => digits? s
  n.filter (· < bound)

/-- A signed 32-bit numeral, with an optional sign. -/
def parseInt32 (s : List Char) : Option Int32 :=
  let n : Option Int := match s with
    | '-' :: rest => (digits? rest).map fun n => -(n : Int)
    | '+' :: rest => (digits? rest).map fun n => (n : Int)
    | _ => (digits? s).map fun n => (n : Int)
  (n.filter fun n => decide (-0x80000000 ≤ n ∧ n < 0x80000000)).map Int32.ofInt

-- =============================================================== the pieces

/-- Pieces as `splitInclusive` makes them: `sep` ends every piece and
stands nowhere else, except that the last may lack it. -/
inductive Pieces (sep : Char) : List (List Char) → Prop where
  | nil : Pieces sep []
  | last {piece : List Char} : piece ≠ [] → sep ∉ piece → Pieces sep [piece]
  | cons {body : List Char} {rest : List (List Char)} : sep ∉ body →
      Pieces sep rest → Pieces sep ((body ++ [sep]) :: rest)

/-- Every piece but the last has its separator. -/
theorem pieces_splitInclusive (sep : Char) (s : List Char) :
    Pieces sep (splitInclusive sep s) := by
  induction s with
  | nil => exact .nil
  | cons c rest ih =>
      unfold splitInclusive
      by_cases hc : c = sep
      · rw [if_pos hc, hc]
        exact .cons (List.not_mem_nil) ih
      · rw [if_neg hc]
        generalize splitInclusive sep rest = pieces at ih ⊢
        cases ih with
        | nil => exact .last (by simp) (by simpa using Ne.symm hc)
        | last hne hsep =>
            exact .last (by simp) (by simp [Ne.symm hc, hsep])
        | @cons body rest hsep hrest =>
            have hbody : sep ∉ c :: body := by simp [Ne.symm hc, hsep]
            exact .cons hbody hrest

/-- So it is with some of them. -/
theorem Pieces.sublist {sep : Char} {l l' : List (List Char)}
    (h : Pieces sep l) (hsub : l'.Sublist l) : Pieces sep l' := by
  induction h generalizing l' with
  | nil =>
      rw [List.sublist_nil.mp hsub]
      exact .nil
  | last hne hsep =>
      cases hsub with
      | cons _ hrest =>
          rw [List.sublist_nil.mp hrest]
          exact .nil
      | cons_cons _ hrest =>
          rw [List.sublist_nil.mp hrest]
          exact .last hne hsep
  | cons hsep _ ih =>
      cases hsub with
      | cons _ hrest => exact ih hrest
      | cons_cons _ hrest => exact .cons hsep (ih hrest)

/-- Nothing is lost between the pieces. -/
theorem flatten_splitInclusive (sep : Char) (s : List Char) :
    (splitInclusive sep s).flatten = s := by
  induction s with
  | nil => rfl
  | cons c rest ih =>
      unfold splitInclusive
      split
      · rw [List.flatten_cons, ih]
        rfl
      · generalize splitInclusive sep rest = pieces at ih ⊢
        cases pieces with
        | nil => rw [← ih]; rfl
        | cons piece pieces => rw [← ih]; rfl

/-- The first piece. -/
theorem splitInclusive_append {sep : Char} {body rest : List Char}
    (h : sep ∉ body) :
    splitInclusive sep (body ++ [sep] ++ rest)
      = (body ++ [sep]) :: splitInclusive sep rest := by
  induction body with
  | nil => simp [splitInclusive]
  | cons c body ih =>
      obtain ⟨hc, hbody⟩ := List.ne_and_not_mem_of_not_mem_cons h
      simp only [List.cons_append, splitInclusive, if_neg (Ne.symm hc),
        ih hbody]

/-- The last one. -/
theorem splitInclusive_last {sep : Char} {piece : List Char}
    (hne : piece ≠ []) (h : sep ∉ piece) :
    splitInclusive sep piece = [piece] := by
  induction piece with
  | nil => exact absurd rfl hne
  | cons c rest ih =>
      obtain ⟨hc, hrest⟩ := List.ne_and_not_mem_of_not_mem_cons h
      unfold splitInclusive
      rw [if_neg (Ne.symm hc)]
      cases rest with
      | nil => rfl
      | cons d rest => rw [ih (by simp) hrest]

/-- Pieces put together are split at the same places. -/
theorem Pieces.split_flatten {sep : Char} {l : List (List Char)}
    (h : Pieces sep l) : splitInclusive sep l.flatten = l := by
  induction h with
  | nil => rfl
  | last hne hsep => simp [splitInclusive_last hne hsep]
  | cons hsep _ ih => rw [List.flatten_cons, splitInclusive_append hsep, ih]

-- ================================================================= trimming

/-- Whitespace at the end does not matter. -/
theorem trim_concat {s : List Char} {c : Char} (h : isWhitespace c = true) :
    trim (s ++ [c]) = trim s := by
  unfold trim
  rw [List.dropWhile_append]
  by_cases hs : (s.dropWhile isWhitespace).isEmpty = true
  · rw [if_pos hs, List.isEmpty_iff.mp hs]
    simp [h]
  · rw [if_neg hs]
    simp [h]

/-- What was stripped was there. -/
theorem eq_append_of_stripLast {c : Char} {s body : List Char}
    (h : stripLast c s = some body) : s = body ++ [c] := by
  unfold stripLast at h
  split at h
  case isTrue hlast =>
    cases h
    obtain ⟨init, hinit⟩ := List.getLast?_eq_some_iff.mp hlast
    simp [hinit]
  case isFalse => cases h

/-- A line's end is whitespace. -/
theorem trim_lineText (piece : List Char) :
    trim (lineText piece) = trim piece := by
  unfold lineText
  split
  case h_1 => rfl
  case h_2 body hn =>
    rw [eq_append_of_stripLast hn, trim_concat (by decide)]
    cases hr : stripLast '\r' body with
    | none => rfl
    | some body' =>
        rw [eq_append_of_stripLast hr, trim_concat (by decide)]
        rfl

-- ==================================================================== lines

/-- A first line is the front of its text, without a line feed. -/
theorem prefix_of_head_lines {s line : List Char}
    (h : (lines s).head? = some line) : line <+: s ∧ '\n' ∉ line := by
  have hpieces := pieces_splitInclusive '\n' s
  have hflat := flatten_splitInclusive '\n' s
  unfold lines at h
  generalize splitInclusive '\n' s = pieces at h hpieces hflat
  cases hpieces with
  | nil => cases h
  | @last piece hne hsep =>
      have hline : lineText piece = line := Option.some.inj h
      have hplain : stripLast '\n' piece = none := by
        unfold stripLast
        rw [if_neg fun hlast => hsep (List.mem_of_getLast? hlast)]
      rw [lineText, hplain] at hline
      subst hline
      exact ⟨⟨[], by simpa using hflat⟩, hsep⟩
  | @cons body rest hsep hrest =>
      have hline : lineText (body ++ ['\n']) = line := Option.some.inj h
      have hstrip : stripLast '\n' (body ++ ['\n']) = some body := by
        unfold stripLast
        rw [List.getLast?_concat, if_pos rfl, List.dropLast_concat]
      rw [lineText, hstrip] at hline
      simp only at hline
      have hfront : body <+: s := by
        rw [← hflat, List.flatten_cons, List.append_assoc]
        exact List.prefix_append _ _
      cases hreturn : stripLast '\r' body with
      | none =>
          rw [hreturn] at hline
          subst hline
          exact ⟨hfront, hsep⟩
      | some shorter =>
          rw [hreturn] at hline
          subst hline
          have hbody := eq_append_of_stripLast hreturn
          refine ⟨List.IsPrefix.trans ⟨['\r'], hbody.symm⟩ hfront, fun hmem => ?_⟩
          rw [hbody] at hsep
          exact hsep (List.mem_append_left _ hmem)

/-- A text without a line feed is one line. -/
theorem lines_of_not_mem {s : List Char} (hne : s ≠ []) (h : '\n' ∉ s) :
    lines s = [s] := by
  have hplain : stripLast '\n' s = none := by
    unfold stripLast
    rw [if_neg fun hlast => h (List.mem_of_getLast? hlast)]
  rw [lines, splitInclusive_last hne h, List.map_singleton, lineText, hplain]

-- ================================================================ numerals

/-- One decimal digit more. -/
def pushDigit (acc : Option Nat) (c : Char) : Option Nat := do
  pure (10 * (← acc) + (← digit? c))

/-- A number that is none stays none. -/
theorem foldl_pushDigit_none (s : List Char) :
    s.foldl pushDigit none = none := by
  induction s with
  | nil => rfl
  | cons c rest ih => exact ih

/-- Only ASCII digits make a number. -/
theorem isDigit_of_foldl_pushDigit {s : List Char} {acc : Option Nat} {n : Nat}
    (h : s.foldl pushDigit acc = some n) :
    ∀ c ∈ s, (digit? c).isSome = true := by
  induction s generalizing acc with
  | nil => simp
  | cons c rest ih =>
      have hstep : pushDigit acc c ≠ none := by
        intro hnone
        rw [List.foldl_cons, hnone, foldl_pushDigit_none] at h
        cases h
      have hc : (digit? c).isSome = true := by
        cases hd : digit? c with
        | some d => rfl
        | none => exact absurd (by cases acc <;> simp [pushDigit, hd]) hstep
      intro d hmem
      rcases List.mem_cons.mp hmem with rfl | hrest
      · exact hc
      · exact ih h d hrest

/-- Numbers are digits. -/
theorem isDigit_of_digits? {s : List Char} {n : Nat}
    (h : digits? s = some n) : ∀ c ∈ s, (digit? c).isSome = true := by
  cases s with
  | nil => cases h
  | cons c rest => exact isDigit_of_foldl_pushDigit h

-- =============================================================== separators

/-- Every other character lies in a piece. -/
theorem exists_mem_split {sep c : Char} {s : List Char} (hne : c ≠ sep)
    (hc : c ∈ s) : ∃ piece ∈ split sep s, c ∈ piece := by
  induction s with
  | nil => cases hc
  | cons d rest ih =>
      unfold split
      by_cases hd : d = sep
      · rw [if_pos hd]
        rcases List.mem_cons.mp hc with rfl | hrest
        · exact absurd hd hne
        · obtain ⟨piece, hpiece, hin⟩ := ih hrest
          exact ⟨piece, List.mem_cons_of_mem _ hpiece, hin⟩
      · rw [if_neg hd]
        cases hs : split sep rest with
        | nil =>
            rw [hs] at ih
            refine ⟨[d], List.mem_cons_self, ?_⟩
            rcases List.mem_cons.mp hc with rfl | hrest
            · exact List.mem_cons_self
            · obtain ⟨_, hpiece, _⟩ := ih hrest
              cases hpiece
        | cons first pieces =>
            rw [hs] at ih
            rcases List.mem_cons.mp hc with rfl | hrest
            · exact ⟨_, List.mem_cons_self, List.mem_cons_self⟩
            · obtain ⟨piece, hpiece, hin⟩ := ih hrest
              rcases List.mem_cons.mp hpiece with rfl | hlater
              · exact ⟨_, List.mem_cons_self, List.mem_cons_of_mem _ hin⟩
              · exact ⟨piece, List.mem_cons_of_mem _ hlater, hin⟩

/-- A prefix is stripped off. -/
theorem stripPrefix_append (p s : List Char) :
    stripPrefix p (p ++ s) = some s := by
  induction p with
  | nil => rfl
  | cons c rest ih => rw [List.cons_append, stripPrefix, if_pos rfl, ih]

/-- The first separator divides. -/
theorem splitOnce_append {sep : Char} {a b : List Char} (h : sep ∉ a) :
    splitOnce sep (a ++ sep :: b) = some (a, b) := by
  induction a with
  | nil => simp [splitOnce]
  | cons c rest ih =>
      obtain ⟨hc, hrest⟩ := List.ne_and_not_mem_of_not_mem_cons h
      rw [List.cons_append, splitOnce, if_neg (Ne.symm hc), ih hrest]
      rfl

/-- There is none. -/
theorem splitOnce_of_not_mem {sep : Char} {s : List Char} (h : sep ∉ s) :
    splitOnce sep s = none := by
  induction s with
  | nil => rfl
  | cons c rest ih =>
      obtain ⟨hc, hrest⟩ := List.ne_and_not_mem_of_not_mem_cons h
      rw [splitOnce, if_neg (Ne.symm hc), ih hrest]
      rfl

/-- What is divided was there. -/
theorem eq_append_of_splitOnce {sep : Char} {s a b : List Char}
    (h : splitOnce sep s = some (a, b)) : s = a ++ sep :: b ∧ sep ∉ a := by
  induction s generalizing a with
  | nil => cases h
  | cons c rest ih =>
      unfold splitOnce at h
      by_cases hc : c = sep
      · rw [if_pos hc] at h
        cases h
        exact ⟨by rw [hc, List.nil_append], List.not_mem_nil⟩
      · rw [if_neg hc] at h
        obtain ⟨⟨a', b'⟩, hrest, hab⟩ := Option.map_eq_some_iff.mp h
        cases hab
        obtain ⟨rfl, hmem⟩ := ih hrest
        exact ⟨rfl, by simp [Ne.symm hc, hmem]⟩

/-- The first piece of all. -/
theorem split_append {sep : Char} {piece rest : List Char}
    (h : sep ∉ piece) :
    split sep (piece ++ sep :: rest) = piece :: split sep rest := by
  induction piece with
  | nil => simp [split]
  | cons c piece ih =>
      obtain ⟨hc, hpiece⟩ := List.ne_and_not_mem_of_not_mem_cons h
      rw [List.cons_append, split, if_neg (Ne.symm hc), ih hpiece]

/-- The only one. -/
theorem split_of_not_mem {sep : Char} {s : List Char} (h : sep ∉ s) :
    split sep s = [s] := by
  induction s with
  | nil => rfl
  | cons c rest ih =>
      obtain ⟨hc, hrest⟩ := List.ne_and_not_mem_of_not_mem_cons h
      rw [split, if_neg (Ne.symm hc), ih hrest]

/-- Pieces with a separator between each two are split at the same
places. -/
theorem split_intercalate {sep : Char} {pieces : List (List Char)}
    (hne : pieces ≠ []) (h : ∀ piece ∈ pieces, sep ∉ piece) :
    split sep ([sep].intercalate pieces) = pieces := by
  induction pieces with
  | nil => exact absurd rfl hne
  | cons piece rest ih =>
      have hpiece := h piece List.mem_cons_self
      cases rest with
      | nil =>
          rw [List.intercalate_singleton]
          exact split_of_not_mem hpiece
      | cons second rest =>
          rw [List.intercalate_cons_cons, List.append_assoc,
            List.singleton_append, split_append hpiece,
            ih (by simp) fun p hp => h p (List.mem_cons_of_mem piece hp)]

theorem split_ne_nil (sep : Char) (s : List Char) : split sep s ≠ [] := by
  cases s with
  | nil => simp [split]
  | cons c rest =>
      unfold split
      split
      · simp
      · cases split sep rest <;> simp

/-- A front without the separator belongs to the first piece. -/
theorem split_front {sep : Char} {front s first : List Char}
    {later : List (List Char)} (h : sep ∉ front)
    (hs : split sep s = first :: later) :
    split sep (front ++ s) = (front ++ first) :: later := by
  induction front with
  | nil => exact hs
  | cons c front ih =>
      obtain ⟨hc, hfront⟩ := List.ne_and_not_mem_of_not_mem_cons h
      rw [List.cons_append, split, if_neg (Ne.symm hc), ih hfront]
      rfl

/-- Texts on both sides of a separator are split each for itself. -/
theorem split_append_sep (sep : Char) (s t : List Char) :
    split sep (s ++ sep :: t) = split sep s ++ split sep t := by
  induction s with
  | nil => simp [split]
  | cons c s ih =>
      rw [List.cons_append, split, split]
      by_cases hc : c = sep
      · rw [if_pos hc, if_pos hc, ih]
        rfl
      · rw [if_neg hc, if_neg hc, ih]
        cases hs : split sep s with
        | nil => exact absurd hs (split_ne_nil sep s)
        | cons piece pieces => rfl

/-- Texts put together fall apart in their own pieces. -/
theorem split_intercalate_flatMap {sep : Char} {texts : List (List Char)}
    (hne : texts ≠ []) :
    split sep ([sep].intercalate texts) = texts.flatMap (split sep) := by
  induction texts with
  | nil => exact absurd rfl hne
  | cons text rest ih =>
      cases rest with
      | nil => rw [List.intercalate_singleton, List.flatMap_cons,
          List.flatMap_nil, List.append_nil]
      | cons second rest =>
          rw [List.intercalate_cons_cons, List.append_assoc,
            List.singleton_append, split_append_sep, ih (by simp)]
          rfl

/-- Pieces put together are the text. -/
theorem intercalate_split (sep : Char) (s : List Char) :
    [sep].intercalate (split sep s) = s := by
  induction s with
  | nil => rfl
  | cons c rest ih =>
      unfold split
      by_cases hc : c = sep
      · rw [if_pos hc, hc]
        cases hs : split sep rest with
        | nil => exact absurd hs (split_ne_nil sep rest)
        | cons first pieces =>
            rw [List.intercalate_cons_cons, ← hs, ih]
            rfl
      · rw [if_neg hc]
        cases hs : split sep rest with
        | nil => exact absurd hs (split_ne_nil sep rest)
        | cons first pieces =>
            rw [hs] at ih
            rw [← ih]
            cases pieces with
            | nil => rfl
            | cons second pieces =>
                rw [List.intercalate_cons_cons, List.intercalate_cons_cons]
                rfl

/-- No piece holds the separator. -/
theorem not_mem_of_mem_split {sep : Char} {s piece : List Char}
    (h : piece ∈ split sep s) : sep ∉ piece := by
  induction s generalizing piece with
  | nil =>
      rw [List.mem_singleton.mp h]
      exact List.not_mem_nil
  | cons c rest ih =>
      unfold split at h
      by_cases hc : c = sep
      · rw [if_pos hc] at h
        rcases List.mem_cons.mp h with rfl | hrest
        · exact List.not_mem_nil
        · exact ih hrest
      · rw [if_neg hc] at h
        cases hs : split sep rest with
        | nil => exact absurd hs (split_ne_nil sep rest)
        | cons first pieces =>
            rw [hs] at h ih
            rcases List.mem_cons.mp h with rfl | hrest
            · intro hmem
              rcases List.mem_cons.mp hmem with rfl | hfirst
              · exact hc rfl
              · exact ih List.mem_cons_self hfirst
            · exact ih (List.mem_cons_of_mem first hrest)

-- ================================================================== lengths

/-- The bytes of a text, by its characters. -/
theorem utf8ByteSize_ofList (s : List Char) :
    (String.ofList s).utf8ByteSize = (s.map Char.utf8Size).sum := by
  induction s with
  | nil => rfl
  | cons c rest ih =>
      have hcons : String.ofList (c :: rest)
          = String.singleton c ++ String.ofList rest := by
        rw [String.singleton_eq_ofList, ← String.ofList_append]
        rfl
      rw [hcons, String.utf8ByteSize_append, String.utf8ByteSize_singleton,
        ih, List.map_cons, List.sum_cons]

/-- ASCII is one byte. -/
theorem utf8Size_of_ascii {c : Char} (h : c.toNat ≤ 0x7F) :
    c.utf8Size = 1 := by
  unfold Char.utf8Size
  rw [if_pos]
  exact UInt32.le_iff_toNat_le.mpr h

/-- A letter is as long in either case. -/
theorem utf8ByteSize_toAsciiLowercase (s : List Char) :
    (String.ofList (toAsciiLowercase s)).utf8ByteSize
      = (String.ofList s).utf8ByteSize := by
  rw [utf8ByteSize_ofList, utf8ByteSize_ofList, toAsciiLowercase,
    List.map_map]
  congr 1
  apply List.map_congr_left
  intro c _
  show Char.utf8Size (if 'A' ≤ c ∧ c ≤ 'Z' then _ else c) = c.utf8Size
  by_cases hc : 'A' ≤ c ∧ c ≤ 'Z'
  · have hZ : c.toNat ≤ 90 := UInt32.le_iff_toNat_le.mp hc.2
    have hvalid : (c.toNat + 32).isValidChar := .inl (by omega)
    have hlower : (Char.ofNat (c.toNat + 32)).toNat = c.toNat + 32 := by
      rw [Char.ofNat, dif_pos hvalid]
      rfl
    rw [if_pos hc, utf8Size_of_ascii (by omega),
      utf8Size_of_ascii (by omega)]
  · rw [if_neg hc]

/-- A property of every character of an ASCII text, checked on its bytes. -/
theorem forall_toList {p : Char → Prop} {s : String}
    (h : ∀ b ∈ s.toByteArray.data.toList,
      b.toNat < 0x80 ∧ p (Char.ofNat b.toNat)) :
    ∀ c ∈ s.toList, p c := by
  intro c hc
  have hbytes : (String.ofList s.toList).toByteArray.data.toList
      = s.toList.flatMap String.utf8EncodeChar := by
    rw [String.toByteArray_ofList, List.utf8Encode,
      List.toList_data_toByteArray]
  rw [String.ofList_toList] at hbytes
  have hin : ∀ b ∈ String.utf8EncodeChar c,
      b.toNat < 0x80 ∧ p (Char.ofNat b.toNat) := fun b hb =>
    h b (hbytes ▸ List.mem_flatMap.mpr ⟨c, hc, hb⟩)
  have hascii : c.toNat ≤ 0x7F := by
    apply Nat.not_lt.mp
    intro hlarge
    -- the first byte of several has its highest bit set
    have hfirst : ∃ b ∈ String.utf8EncodeChar c, 0xC0 ≤ b.toNat := by
      have hc : c.val.toNat = c.toNat := rfl
      have hlt := UInt32.toNat_lt c.val
      unfold String.utf8EncodeChar
      simp only [hc]
      rw [if_neg (by omega)]
      split
      · refine ⟨_, List.mem_cons_self, ?_⟩
        rw [UInt8.toNat_ofNat']
        omega
      · split
        · refine ⟨_, List.mem_cons_self, ?_⟩
          rw [UInt8.toNat_ofNat']
          omega
        · refine ⟨_, List.mem_cons_self, ?_⟩
          rw [UInt8.toNat_ofNat']
          omega
    obtain ⟨b, hb, hbig⟩ := hfirst
    have hsmall := (hin b hb).1
    omega
  have hencode : String.utf8EncodeChar c = [UInt8.ofNat c.toNat] := by
    unfold String.utf8EncodeChar
    exact if_pos hascii
  have hp := (hin _ (hencode ▸ List.mem_singleton_self _)).2
  have hback : (UInt8.ofNat c.toNat).toNat = c.toNat := by
    rw [UInt8.toNat_ofNat']
    omega
  rwa [hback, Char.ofNat_toNat] at hp

end ZeroDpi.Lib.Text
