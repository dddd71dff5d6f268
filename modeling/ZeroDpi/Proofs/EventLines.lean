/-
Lines of events: what the program prints, the app reads.

# The key search

The parser searches the line for a quoted key and a colon. A quote in the
text of a line opens or closes a string, or is escaped inside of one. Behind
an opening or an escaped quote the key can only match up to the closing one,
and behind that there is no colon, unless the string is a name; behind a
closing quote stands no letter. So a match is a name (`findKey_members`).

# Values

Each of the readers takes a value of its kind back to what it was written
from and refuses the others, whatever follows the value (`Reader.of`). With
that, the parser works on the members of the object and no longer on text.
-/
import ZeroDpi.Android.RunnerEvent
import ZeroDpi.Runtime.Events

namespace ZeroDpi.Android.RuntimeEventLineParser

open Lib JsonText

-- ==================================================================== keys

/-- Characters that are never escaped. -/
def plainChar (c : Char) : Bool := Kotlin.isAsciiAlnum c || c = '_'

/-- A key as the program's: letters, digits and underscores. -/
def PlainKey (key : List Char) : Prop :=
  key ≠ [] ∧ ∀ c ∈ key, plainChar c = true

instance (key : List Char) : Decidable (PlainKey key) :=
  @instDecidableAnd _ _ _ (List.decidableBAll _ key)

/-- They are none of JSON's own. -/
theorem ne_of_plainChar {c d : Char} (hc : plainChar c = true)
    (hd : plainChar d = false) : c ≠ d := by
  rintro rfl
  rw [hd] at hc
  cases hc

/-- What stands behind a value. -/
def Delim (s : List Char) : Prop :=
  ∃ c rest, s = c :: rest ∧ (c = ',' ∨ c = '}' ∨ c = ']')

/-- What ends a value. -/
theorem delim_cons {c : Char} {rest : List Char}
    (h : c = ',' ∨ c = '}' ∨ c = ']') : Delim (c :: rest) :=
  ⟨c, rest, rfl, h⟩

/-- A plain character is its own escape. -/
theorem escape_plain {c : Char} (h : plainChar c = true) :
    escape c = [c] := by
  have hge : 0x30 ≤ c.toNat := by
    unfold plainChar Kotlin.isAsciiAlnum at h
    simp only [Bool.or_eq_true, Bool.and_eq_true, decide_eq_true_eq] at h
    rcases h with ((h | h) | h) | rfl
    · exact h.1
    · omega
    · omega
    · decide
  unfold escape
  rw [if_neg (ne_of_plainChar h (by decide)),
    if_neg (ne_of_plainChar h (by decide))]
  repeat' rw [if_neg (by omega)]

/-- A plain string is only put in quotes. -/
theorem quoted_plain {s : List Char} (h : ∀ c ∈ s, plainChar c = true) :
    quoted s = '"' :: (s ++ ['"']) := by
  have hbody : s.flatMap escape = s := by
    induction s with
    | nil => rfl
    | cons c rest ih =>
        rw [List.flatMap_cons, escape_plain (h c List.mem_cons_self),
          ih fun d hd => h d (List.mem_cons_of_mem _ hd)]
        rfl
  rw [quoted, hbody]

-- ========================================================== the key search

variable {key : List Char}

/-- The search starts at quotes. -/
theorem findKey_skip {c : Char} (h : c ≠ '"') (rest : List Char) :
    findKey key (c :: rest) = findKey key rest := by
  have hmatch : matchKey key (c :: rest) = none := by
    unfold matchKey
    rw [Text.stripPrefix, if_neg (Ne.symm h)]
    rfl
  rw [findKey, hmatch]

/-- So it passes a text without any. -/
theorem findKey_append {s : List Char} (h : '"' ∉ s) (rest : List Char) :
    findKey key (s ++ rest) = findKey key rest := by
  induction s with
  | nil => rfl
  | cons c s ih =>
      obtain ⟨hc, hs⟩ := List.ne_and_not_mem_of_not_mem_cons h
      rw [List.cons_append, findKey_skip (Ne.symm hc), ih hs]

/-- From inside of a string on, a key reaches the closing quote at most. -/
theorem stripPrefix_escaped (hkey : ∀ c ∈ key, plainChar c = true)
    {s rest found : List Char}
    (h : Text.stripPrefix (key ++ ['"']) (s.flatMap escape ++ '"' :: rest)
      = some found) : found = rest := by
  induction key generalizing s with
  | nil =>
      cases s with
      | nil => exact (Option.some.inj h).symm
      | cons c s =>
          rcases escape_cases c with ⟨e, he⟩ | ⟨he, hc, -⟩
          · simp [he, Text.stripPrefix] at h
          · simp [he, Text.stripPrefix, Ne.symm hc] at h
  | cons k key ih =>
      have hk := hkey k List.mem_cons_self
      have hrest := fun c hc => hkey c (List.mem_cons_of_mem _ hc)
      cases s with
      | nil =>
          have hquote := ne_of_plainChar hk (show plainChar '"' = false by decide)
          simp [Text.stripPrefix, hquote] at h
      | cons c s =>
          rcases escape_cases c with ⟨e, he⟩ | ⟨he, -⟩
          · have hslash := ne_of_plainChar hk
              (show plainChar '\\' = false by decide)
            simp [he, Text.stripPrefix, hslash] at h
          · simp only [List.cons_append, List.flatMap_cons, he,
              List.nil_append, Text.stripPrefix] at h
            split at h
            · exact ih hrest h
            · cases h

/-- A string that no colon follows is not the key. -/
theorem matchKey_delim {s rest : List Char}
    (hstrip : ∀ found, Text.stripPrefix ('"' :: (key ++ ['"'])) s = some found →
      found = rest) (hrest : Delim rest) : matchKey key s = none := by
  unfold matchKey
  cases hs : Text.stripPrefix ('"' :: (key ++ ['"'])) s with
  | none => rfl
  | some found =>
      rw [hstrip found hs]
      obtain ⟨c, tail, rfl, hc⟩ := hrest
      rcases hc with rfl | rfl | rfl <;> rfl

/-- No key at a quote of which the string goes on. -/
theorem matchKey_string (hkey : PlainKey key) (s : List Char)
    {rest : List Char} (hrest : Delim rest) :
    matchKey key ('"' :: (s.flatMap escape ++ '"' :: rest)) = none := by
  refine matchKey_delim (fun found hfound => ?_) hrest
  rw [Text.stripPrefix, if_pos rfl] at hfound
  exact stripPrefix_escaped hkey.2 hfound

/-- No key at a closing quote. -/
theorem matchKey_closing (hkey : PlainKey key) {c : Char}
    (hc : plainChar c = false) (rest : List Char) :
    matchKey key ('"' :: c :: rest) = none := by
  obtain ⟨k, tail, rfl⟩ := List.exists_cons_of_ne_nil hkey.1
  have hk := ne_of_plainChar (hkey.2 k List.mem_cons_self) hc
  simp [matchKey, Text.stripPrefix, hk]

/-- Escapes have no bare quote. -/
theorem quote_not_mem_escape {c : Char} (h : c ≠ '"') :
    '"' ∉ escape c := by
  have hhex : ∀ n < 16, '"' ≠ JsonText.hexDigit n := by decide
  unfold escape
  rw [if_neg h]
  repeat' split
  all_goals simp only [List.mem_cons, List.not_mem_nil, or_false, not_or]
  iterate 6 decide
  · exact ⟨by decide, by decide, by decide, by decide,
      hhex _ (by omega), hhex _ (by omega)⟩
  · exact Ne.symm h

/-- The search passes the inside of a string. -/
theorem findKey_escaped (hkey : PlainKey key) (s : List Char)
    {rest : List Char} (hrest : Delim rest) :
    findKey key (s.flatMap escape ++ '"' :: rest) = findKey key rest := by
  induction s with
  | nil =>
      obtain ⟨c, tail, rfl, hc⟩ := hrest
      have hplain : plainChar c = false := by
        rcases hc with rfl | rfl | rfl <;> decide
      show findKey key ('"' :: c :: tail) = _
      rw [findKey, matchKey_closing hkey hplain]
  | cons c s ih =>
      rw [List.flatMap_cons, List.append_assoc]
      by_cases hc : c = '"'
      · rw [hc]
        show findKey key ('\\' :: '"' :: (s.flatMap escape ++ '"' :: rest)) = _
        rw [findKey_skip (by decide), findKey, matchKey_string hkey s hrest]
        exact ih
      · rw [findKey_append (quote_not_mem_escape hc), ih]

/-- And a whole one. -/
theorem findKey_quoted (hkey : PlainKey key) (s : List Char)
    {rest : List Char} (hrest : Delim rest) :
    findKey key (quoted s ++ rest) = findKey key rest := by
  have htext : quoted s ++ rest
      = '"' :: (s.flatMap escape ++ '"' :: rest) := by
    simp [quoted]
  rw [htext, findKey, matchKey_string hkey s hrest]
  exact findKey_escaped hkey s hrest

/-- And a list of them. -/
theorem findKey_items (hkey : PlainKey key) (l : List (List Char))
    {rest : List Char} :
    findKey key (items l ++ rest) = findKey key rest := by
  induction l using items.induct with
  | case1 => exact findKey_skip (by decide) rest
  | case2 s =>
      rw [items, List.append_assoc, List.singleton_append,
        findKey_quoted hkey s (delim_cons (by simp))]
      exact findKey_skip (by decide) rest
  | case3 s t l ih =>
      rw [items, List.append_assoc, List.cons_append,
        findKey_quoted hkey s (delim_cons (by simp)),
        findKey_skip (by decide), ih]

/-- The search passes over a value. -/
theorem findKey_text (hkey : PlainKey key) (v : Value) {rest : List Char}
    (hrest : Delim rest) :
    findKey key (v.text ++ rest) = findKey key rest := by
  cases v with
  | str s => exact findKey_quoted hkey s hrest
  | num n =>
      apply findKey_append
      intro hmem
      have := Nat.isDigit_of_mem_toDigits (by decide) (by decide) hmem
      exact absurd this (by decide)
  | bool b => cases b <;> exact findKey_append (by decide) rest
  | null => exact findKey_append (by decide) rest
  | strs l =>
      rw [Value.text, List.cons_append, findKey_skip (by decide)]
      exact findKey_items hkey l

/-- A prefix is stripped off. -/
theorem stripPrefix_append (s rest : List Char) :
    Text.stripPrefix s (s ++ rest) = some rest := by
  induction s with
  | nil => cases rest <;> rfl
  | cons c s ih => rw [List.cons_append, Text.stripPrefix, if_pos rfl, ih]

/-- And was there. -/
theorem eq_of_stripPrefix {s t rest : List Char}
    (h : Text.stripPrefix s t = some rest) : t = s ++ rest := by
  induction s generalizing t with
  | nil =>
      rw [Text.stripPrefix] at h
      exact Option.some.inj h
  | cons c s ih =>
      cases t with
      | nil => cases h
      | cons d t =>
          rw [Text.stripPrefix] at h
          split at h
          case isTrue hcd => rw [hcd, ih h, List.cons_append]
          case isFalse => cases h

/-- The search stops at the name it looks for. -/
theorem findKey_name_eq (hkey : PlainKey key) (rest : List Char) :
    findKey key (quoted key ++ ':' :: rest) = some rest := by
  have htext : quoted key ++ ':' :: rest
      = '"' :: (key ++ ['"']) ++ ':' :: rest := by
    rw [quoted_plain hkey.2]
  have hmatch : matchKey key (quoted key ++ ':' :: rest) = some rest := by
    rw [htext, matchKey, stripPrefix_append]
    rfl
  rw [htext] at hmatch ⊢
  rw [List.cons_append] at hmatch ⊢
  rw [findKey, hmatch]

/-- It passes over the other names. -/
theorem findKey_name_ne (hkey : PlainKey key) {name : List Char}
    (hname : PlainKey name) (hne : name ≠ key) (rest : List Char) :
    findKey key (quoted name ++ ':' :: rest) = findKey key rest := by
  have htext : quoted name ++ ':' :: rest
      = '"' :: (name ++ '"' :: ':' :: rest) := by
    simp [quoted_plain hname.2]
  have hopening : matchKey key ('"' :: (name ++ '"' :: ':' :: rest))
      = none := by
    unfold matchKey
    cases hs : Text.stripPrefix ('"' :: (key ++ ['"']))
        ('"' :: (name ++ '"' :: ':' :: rest)) with
    | none => rfl
    | some found =>
        -- the first quote ends both of them
        have heq := eq_of_stripPrefix hs
        have hsplit : name ++ '"' :: ':' :: rest = key ++ '"' :: found := by
          simpa using heq
        have htake := congrArg (List.takeWhile plainChar) hsplit
        rw [List.takeWhile_append_of_pos hname.2,
          List.takeWhile_append_of_pos hkey.2,
          List.takeWhile_cons_of_neg (by decide),
          List.takeWhile_cons_of_neg (by decide), List.append_nil,
          List.append_nil] at htake
        exact absurd htake hne
  have hquote : '"' ∉ name := fun hmem =>
    absurd (hname.2 _ hmem) (by decide)
  rw [htext, findKey, hopening]
  show findKey key (name ++ '"' :: ':' :: rest) = _
  rw [findKey_append hquote, findKey,
    matchKey_closing hkey (by decide)]
  exact findKey_skip (by decide) rest

/-- What stands behind a member. -/
def tailOf : List JsonMember → List Char
  | [] => ['}']
  | m :: l => ',' :: members (m :: l)

/-- A member is followed by a comma or the end. -/
theorem delim_tailOf (l : List JsonMember) : Delim (tailOf l) := by
  cases l with
  | nil => exact delim_cons (by simp)
  | cons m l => exact delim_cons (by simp)

/-- Members in sequence. -/
theorem members_cons (m : JsonMember) (l : List JsonMember) :
    members (m :: l) = member m ++ tailOf l := by
  cases l <;> rfl

/-- The text from the value of the first member of that name on. -/
def found (name : String) : List JsonMember → Option (List Char)
  | [] => none
  | m :: l => if m.1 = name then some (m.2.text ++ tailOf l) else found name l

/-- The search finds names and nothing else. -/
theorem findKey_members {name : String} (hkey : PlainKey name.toList)
    {l : List JsonMember} (hl : ∀ m ∈ l, PlainKey m.1.toList) :
    findKey name.toList (members l) = found name l := by
  have htail : ∀ l, findKey name.toList (tailOf l)
      = findKey name.toList (members l) := by
    intro l
    cases l with
    | nil => rfl
    | cons m l => exact findKey_skip (by decide) _
  induction l with
  | nil => exact findKey_skip (by decide) []
  | cons m l ih =>
      have htext : members (m :: l)
          = quoted m.1.toList ++ ':' :: (m.2.text ++ tailOf l) := by
        rw [members_cons]
        simp [member]
      rw [htext, found]
      by_cases hname : m.1 = name
      · rw [if_pos hname, hname, findKey_name_eq hkey]
      · have hne : m.1.toList ≠ name.toList := fun heq =>
          hname (String.toList_inj.mp heq)
        rw [if_neg hname, findKey_name_ne hkey (hl m List.mem_cons_self) hne,
          findKey_text hkey m.2 (delim_tailOf l), htail]
        exact ih fun x hx => hl x (List.mem_cons_of_mem _ hx)

/-- With the text there goes a value. -/
theorem found_eq (name : String) (l : List JsonMember) :
    (found name l = none ∧ lookup l name = none)
      ∨ ∃ v rest, Delim rest ∧ found name l = some (v.text ++ rest)
        ∧ lookup l name = some v := by
  induction l with
  | nil => exact .inl ⟨rfl, rfl⟩
  | cons m l ih =>
      by_cases hname : m.1 = name
      · refine .inr ⟨m.2, tailOf l, delim_tailOf l, ?_, ?_⟩
        · rw [found, if_pos hname]
        · simp [lookup, hname]
      · have hfound : found name (m :: l) = found name l := by
          rw [found, if_neg hname]
        have hlook : lookup (m :: l) name = lookup l name := by
          simp [lookup, hname]
        rw [hfound, hlook]
        exact ih

-- ================================================================== values

/-- A value, read as a string. -/
def asString : Value → Option String
  | .str s => some (String.ofList s)
  | _ => none

/-- As a `Long`. -/
def asLong : Value → Option Int
  | .num n => if n < 2 ^ 63 then some n else none
  | _ => none

/-- As a boolean. -/
def asBool : Value → Option Bool
  | .bool b => some b
  | _ => none

/-- As strings. -/
def asStrings : Value → List String
  | .strs l => l.map String.ofList
  | _ => []

/-- The reader of strings, at a plain character. -/
theorem parseString_plain {c : Char} (hquote : c ≠ '"') (hslash : c ≠ '\\')
    (rest : List Char) :
    parseString (c :: rest)
      = (parseString rest).map fun (value, next) => (c :: value, next) := by
  rw [parseString]
  · exact hquote
  · intro a b d e r h
    exact absurd h hslash
  · intro e r h
    exact absurd h hslash
  · intro h
    exact absurd h hslash

/-- At a short escape. -/
theorem parseString_simple {e c : Char} (he : unescape? e = some c)
    (rest : List Char) :
    parseString ('\\' :: e :: rest)
      = (parseString rest).map fun (value, next) => (c :: value, next) := by
  have hu : e ≠ 'u' := by
    rintro rfl
    cases he
  rw [parseString, he]
  · rfl
  · intro a b d f r h
    exact absurd h hu

/-- At a `\u` escape, as a control character has it. -/
theorem parseString_code {c : Char} (h : c.toNat < 0x20) (rest : List Char) :
    parseString ('\\' :: 'u' :: '0' :: '0'
        :: JsonText.hexDigit (c.toNat / 16)
        :: JsonText.hexDigit (c.toNat % 16) :: rest)
      = (parseString rest).map fun (value, next) => (c :: value, next) := by
  have hcode : ∀ n < 32, hexValue?
      ['0', '0', JsonText.hexDigit (n / 16), JsonText.hexDigit (n % 16)]
        = some (n : Int) ∧ (toChar n).toNat = n := by decide
  obtain ⟨hvalue, hchar⟩ := hcode c.toNat h
  have hc : toChar (c.toNat : Int) = c := Char.toNat_inj.mp hchar
  rw [parseString, hvalue, Option.bind_some, hc]

/-- In all three cases it reads what was escaped. -/
theorem parseString_escape (c : Char) (rest : List Char) :
    parseString (escape c ++ rest)
      = (parseString rest).map fun (value, next) => (c :: value, next) := by
  have hchar : ∀ {n : Nat}, c.toNat = n → Char.ofNat n = c := by
    rintro n rfl
    exact Char.ofNat_toNat c
  unfold escape
  by_cases h1 : c = '"'
  · rw [if_pos h1, h1]
    exact parseString_simple rfl rest
  rw [if_neg h1]
  by_cases h2 : c = '\\'
  · rw [if_pos h2, h2]
    exact parseString_simple rfl rest
  rw [if_neg h2]
  by_cases h3 : c.toNat = 0x08
  · rw [if_pos h3]
    exact @parseString_simple 'b' c (congrArg some (hchar h3)) rest
  rw [if_neg h3]
  by_cases h4 : c.toNat = 0x09
  · rw [if_pos h4]
    exact @parseString_simple 't' c (congrArg some (hchar h4)) rest
  rw [if_neg h4]
  by_cases h5 : c.toNat = 0x0A
  · rw [if_pos h5]
    exact @parseString_simple 'n' c (congrArg some (hchar h5)) rest
  rw [if_neg h5]
  by_cases h6 : c.toNat = 0x0C
  · rw [if_pos h6]
    exact @parseString_simple 'f' c (congrArg some (hchar h6)) rest
  rw [if_neg h6]
  by_cases h7 : c.toNat = 0x0D
  · rw [if_pos h7]
    exact @parseString_simple 'r' c (congrArg some (hchar h7)) rest
  rw [if_neg h7]
  by_cases h8 : c.toNat < 0x20
  · rw [if_pos h8]
    exact parseString_code h8 rest
  · rw [if_neg h8]
    exact parseString_plain h1 h2 rest

/-- A string is read back to its end. -/
theorem parseString_escaped (s rest : List Char) :
    parseString (s.flatMap escape ++ '"' :: rest) = some (s, rest) := by
  induction s with
  | nil => rfl
  | cons c s ih =>
      rw [List.flatMap_cons, List.append_assoc, parseString_escape, ih]
      rfl

/-- A number starts with a digit. -/
theorem toDigits_head (n : Nat) :
    ∃ c rest, Nat.toDigits 10 n = c :: rest ∧ c.isDigit = true := by
  obtain ⟨c, rest, h⟩ := List.exists_cons_of_ne_nil (@Nat.toDigits_ne_nil n 10)
  have hc : c ∈ Nat.toDigits 10 n := by simp [h]
  exact ⟨c, rest, h, Nat.isDigit_of_mem_toDigits (by decide) (by decide) hc⟩

/-- Digits are none of JSON's own characters. -/
theorem ne_of_isDigit {c d : Char} (hc : c.isDigit = true)
    (hd : d.isDigit = false) : c ≠ d := by
  rintro rfl
  rw [hd] at hc
  cases hc

/-- Kotlin reads them alike. -/
theorem digit?_of_isDigit {c : Char} (h : c.isDigit = true) :
    Kotlin.digit? c = some (c.toNat - '0'.toNat) := by
  apply Kotlin.digit?_eq_of_ascii
  unfold Text.digit?
  rw [if_pos]
  unfold Char.isDigit at h
  simp only [Bool.and_eq_true, decide_eq_true_eq] at h
  exact h

/-- So it reads a number that is written. -/
theorem digits?_toDigits (n : Nat) :
    Kotlin.digits? (Nat.toDigits 10 n) = some n := by
  have hfold : ∀ (s : List Char) (m : Nat), (∀ c ∈ s, c.isDigit = true) →
      s.foldlM (fun n c => (Kotlin.digit? c).map fun d => n * 10 + d) m
        = some (Nat.ofDigitChars 10 s m) := by
    intro s
    induction s with
    | nil => exact fun m _ => congrArg some Nat.ofDigitChars_nil.symm
    | cons c s ih =>
        intro m hs
        rw [List.foldlM_cons, digit?_of_isDigit (hs c List.mem_cons_self),
          Nat.ofDigitChars_cons, Nat.mul_comm 10 m]
        exact ih _ fun d hd => hs d (List.mem_cons_of_mem _ hd)
  have hdigits := fun c hc => @Nat.isDigit_of_mem_toDigits 10 n c (by decide)
    (by decide) hc
  unfold Kotlin.digits?
  rw [hfold _ _ hdigits, Nat.ofDigitChars_ten_toDigits]

/-- An ASCII digit is a digit to Kotlin. -/
theorem isDigit_of_isDigit {c : Char} (h : c.isDigit = true) :
    Kotlin.isDigit c = true := by
  rw [Kotlin.isDigit, digit?_of_isDigit h]
  rfl

/-- As a `Long`, if it fits. -/
theorem toLongOrNull_toDigits (n : Nat) :
    Kotlin.toLongOrNull (Nat.toDigits 10 n)
      = if n < 2 ^ 63 then some (n : Int) else none := by
  obtain ⟨c, rest, htext, hc⟩ := toDigits_head n
  have hdigits := digits?_toDigits n
  rw [htext] at hdigits ⊢
  rw [Kotlin.toLongOrNull, Kotlin.toSignedOrNull_digit (isDigit_of_isDigit hc),
    hdigits]
  rfl

/-- The digits of a number end with it. -/
theorem numeral_toDigits (n : Nat) {rest : List Char} (hrest : Delim rest) :
    numeral (Nat.toDigits 10 n ++ rest) = Nat.toDigits 10 n := by
  have hall : ∀ c ∈ Nat.toDigits 10 n, Kotlin.isDigit c = true := fun c hc =>
    isDigit_of_isDigit (Nat.isDigit_of_mem_toDigits (by decide) (by decide) hc)
  have hend : rest.takeWhile Kotlin.isDigit = [] := by
    obtain ⟨d, tail, rfl, hd⟩ := hrest
    rcases hd with rfl | rfl | rfl <;> rfl
  obtain ⟨c, tail, htext, hc⟩ := toDigits_head n
  have hnumeral : numeral (Nat.toDigits 10 n ++ rest)
      = (Nat.toDigits 10 n ++ rest).takeWhile Kotlin.isDigit := by
    rw [htext, List.cons_append, numeral]
    intro r h
    exact absurd (List.cons.inj h).1 (ne_of_isDigit hc (by decide))
  rw [hnumeral, List.takeWhile_append_of_pos hall, hend, List.append_nil]

-- ============================================================== the readers

variable {rest : List Char}

/-- Values do not start with whitespace. -/
theorem skipWhitespace_text (v : Value) :
    skipWhitespace (v.text ++ rest) = v.text ++ rest := by
  cases v with
  | num n =>
      obtain ⟨c, tail, htext, hc⟩ := toDigits_head n
      have hblank : Kotlin.isWhitespace c = false := by
        unfold Char.isDigit at hc
        simp only [Bool.and_eq_true, decide_eq_true_eq] at hc
        have h0 : 48 ≤ c.toNat := UInt32.le_iff_toNat_le.mp hc.1
        have h9 : c.toNat ≤ 57 := UInt32.le_iff_toNat_le.mp hc.2
        unfold Kotlin.isWhitespace
        simp
        omega
      rw [Value.text, htext, List.cons_append, skipWhitespace,
        List.dropWhile_cons_of_neg (by simp [hblank])]
  | str s => rfl
  | bool b => cases b <;> rfl
  | null => rfl
  | strs l => rfl

/-- Each reader, at the text of a value: strings. -/
theorem stringAt_text (v : Value) :
    stringAt (v.text ++ rest) = asString v := by
  cases v with
  | str s =>
      have htext : (Value.str s).text ++ rest
          = '"' :: (s.flatMap escape ++ '"' :: rest) := by
        simp [Value.text, quoted]
      rw [htext]
      show (parseString (s.flatMap escape ++ '"' :: rest)).map _ = _
      rw [parseString_escaped]
      rfl
  | num n =>
      obtain ⟨c, tail, htext, hc⟩ := toDigits_head n
      rw [Value.text, htext, List.cons_append, stringAt]
      · exact ite_self _
      · intro r h
        exact absurd (List.cons.inj h).1 (ne_of_isDigit hc (by decide))
  | bool b => cases b <;> rfl
  | null => rfl
  | strs l => rfl

/-- Numbers. -/
theorem longAt_text (v : Value) (hrest : Delim rest) :
    longAt (v.text ++ rest) = asLong v := by
  cases v with
  | num n =>
      obtain ⟨c, tail, htext, hc⟩ := toDigits_head n
      have hnull : startsWith null (Nat.toDigits 10 n ++ rest) = false := by
        rw [htext]
        simp [startsWith, null, List.isPrefixOf,
          Ne.symm (ne_of_isDigit hc (show 'n'.isDigit = false by decide))]
      have hsign : ¬ ((Nat.toDigits 10 n).isEmpty
          || decide (Nat.toDigits 10 n = ['-'])) = true := by
        rw [htext]
        simp [ne_of_isDigit hc (show '-'.isDigit = false by decide)]
      rw [Value.text, longAt, hnull, numeral_toDigits n hrest]
      simp only [Bool.false_eq_true, if_false]
      rw [if_neg hsign, toLongOrNull_toDigits]
      rfl
  | str s => rfl
  | bool b => cases b <;> rfl
  | null => rfl
  | strs l => rfl

/-- Booleans. -/
theorem boolAt_text (v : Value) : boolAt (v.text ++ rest) = asBool v := by
  cases v with
  | num n =>
      obtain ⟨c, tail, htext, hc⟩ := toDigits_head n
      rw [Value.text, htext]
      simp [boolAt, startsWith, List.isPrefixOf, asBool,
        Ne.symm (ne_of_isDigit hc (show 't'.isDigit = false by decide)),
        Ne.symm (ne_of_isDigit hc (show 'f'.isDigit = false by decide))]
  | bool b => cases b <;> rfl
  | str s => rfl
  | null => rfl
  | strs l => rfl

/-- A string has two quotes. -/
theorem length_quoted_ge (s : List Char) : 2 ≤ (quoted s).length := by
  simp [quoted]

/-- So the reader's fuel is enough for a list. -/
theorem length_items_ge (l : List (List Char)) :
    2 * l.length ≤ (items l).length := by
  induction l using items.induct with
  | case1 => simp
  | case2 s =>
      have := length_quoted_ge s
      simp only [items, List.length_append, List.length_cons, List.length_nil]
      omega
  | case3 s t l ih =>
      have := length_quoted_ge s
      simp only [items, List.length_append, List.length_cons] at ih ⊢
      omega

/-- The loop takes one turn for a string and one for what follows it. -/
theorem stringsFrom_items (l : List (List Char)) {fuel : Nat}
    (hfuel : 2 * l.length ≤ fuel) :
    stringsFrom fuel (items l ++ rest) = l.map String.ofList := by
  have hstring : ∀ (fuel : Nat) (s next : List Char),
      stringsFrom (fuel + 1) (quoted s ++ next)
        = String.ofList s :: stringsFrom fuel next := by
    intro fuel s next
    have htext : quoted s ++ next
        = '"' :: (s.flatMap escape ++ '"' :: next) := by
      simp [quoted]
    have hskip : skipWhitespace ('"' :: (s.flatMap escape ++ '"' :: next))
        = '"' :: (s.flatMap escape ++ '"' :: next) := rfl
    rw [htext, stringsFrom, hskip]
    simp only
    rw [parseString_escaped]
  induction l using items.induct generalizing fuel with
  | case1 => cases fuel <;> rfl
  | case2 s =>
      obtain ⟨fuel, rfl⟩ := Nat.exists_eq_add_of_le hfuel
      show stringsFrom (2 + fuel) _ = _
      rw [Nat.add_comm 2 fuel, items, List.append_assoc, hstring]
      rfl
  | case3 s t l ih =>
      obtain ⟨fuel, rfl⟩ := Nat.exists_eq_add_of_le
        (show 2 ≤ fuel by simp at hfuel; omega)
      have hrest : 2 * (t :: l).length ≤ fuel := by
        simp only [List.length_cons] at hfuel ⊢
        omega
      rw [Nat.add_comm 2 fuel, items, List.append_assoc, hstring,
        List.map_cons, ← ih hrest]
      rfl

/-- Lists. -/
theorem stringsAt_text (v : Value) :
    stringsAt (v.text ++ rest) = asStrings v := by
  cases v with
  | strs l =>
      have hfuel : 2 * l.length ≤ (items l ++ rest).length := by
        rw [List.length_append]
        have := length_items_ge l
        omega
      exact stringsFrom_items l hfuel
  | num n =>
      obtain ⟨c, tail, htext, hc⟩ := toDigits_head n
      rw [Value.text, htext, List.cons_append, stringsAt]
      · rfl
      · intro r h
        exact absurd (List.cons.inj h).1 (ne_of_isDigit hc (by decide))
  | str s => rfl
  | bool b => cases b <;> rfl
  | null => rfl

variable {l : List JsonMember} {name : String}

/-- The search finds the member of that name, if there is one. -/
theorem valueStart_object (hkey : PlainKey name.toList)
    (hl : ∀ m ∈ l, PlainKey m.1.toList) :
    valueStart (object l) name = found name l := by
  have hbrace : findKey name.toList (object l)
      = findKey name.toList (members l) := findKey_skip (by decide) _
  rw [valueStart, hbrace, findKey_members hkey hl]
  rcases found_eq name l with ⟨hnone, -⟩ | ⟨v, rest, -, hsome, -⟩
  · rw [hnone]
    rfl
  · rw [hsome, Option.map_some, skipWhitespace_text]

/-- The values by their names, without the text. -/
def Reader.of (l : List JsonMember) : Reader where
  string name := (lookup l name).bind asString
  long name := (lookup l name).bind asLong
  bool name := (lookup l name).bind asBool
  strings name := ((lookup l name).map asStrings).getD []

/-- So reading the line is reading its members. -/
theorem reader_object (hkey : PlainKey name.toList)
    (hl : ∀ m ∈ l, PlainKey m.1.toList) :
    (reader (object l)).string name = (Reader.of l).string name
      ∧ (reader (object l)).long name = (Reader.of l).long name
      ∧ (reader (object l)).bool name = (Reader.of l).bool name
      ∧ (reader (object l)).strings name = (Reader.of l).strings name := by
  have hstart := valueStart_object hkey hl
  simp only [reader, Reader.of, stringValue, longValue, boolValue,
    stringArrayValue, hstart]
  rcases found_eq name l with ⟨hnone, hv⟩ | ⟨v, rest, hrest, hsome, hv⟩
  · rw [hnone, hv]
    exact ⟨rfl, rfl, rfl, rfl⟩
  · rw [hsome, hv]
    exact ⟨stringAt_text v, longAt_text v hrest, boolAt_text v,
      congrArg (fun x => (some x).getD []) (stringsAt_text v)⟩

/-- The parser asks for plain keys only. -/
theorem event_object (json : List Char)
    (hl : ∀ m ∈ l, PlainKey m.1.toList) :
    event json (reader (object l)) = event json (Reader.of l) := by
  have hstring : ∀ name, PlainKey name.toList →
      (reader (object l)).string name = (Reader.of l).string name :=
    fun _ hkey => (reader_object hkey hl).1
  have hlong : ∀ name, PlainKey name.toList →
      (reader (object l)).long name = (Reader.of l).long name :=
    fun _ hkey => (reader_object hkey hl).2.1
  have hbool : ∀ name, PlainKey name.toList →
      (reader (object l)).bool name = (Reader.of l).bool name :=
    fun _ hkey => (reader_object hkey hl).2.2.1
  have hstrings : ∀ name, PlainKey name.toList →
      (reader (object l)).strings name = (Reader.of l).strings name :=
    fun _ hkey => (reader_object hkey hl).2.2.2
  unfold event
  simp (disch := decide) only [hstring, hlong, hbool, hstrings]

-- =============================================================== the events

open ZeroDpi.Runtime

/-- Integers that the app's types can hold. -/
def Fits : RuntimeEvent → Prop
  | .scanStarted _ _ total => ∀ n ∈ total, n.toNat < 2 ^ 31
  | .scanProgress _ _ completed total _ _ _ =>
      completed.toNat < 2 ^ 31 ∧ ∀ n ∈ total, n.toNat < 2 ^ 31
  | .scanCompleted _ results => results.toNat < 2 ^ 31
  | .nextScanScheduled _ intervalSecs => intervalSecs.toNat < 2 ^ 63
  | .rescanFinished _ found _ durationMs _ =>
      found.toNat < 2 ^ 31 ∧ durationMs.toNat < 2 ^ 63
  | .relayBytes _ c2sBytes s2cBytes _ =>
      c2sBytes.toNat < 2 ^ 63 ∧ s2cBytes.toNat < 2 ^ 63
  | .networkRecoveryFailed attempt nextRetryMs _ =>
      attempt.toNat < 2 ^ 31 ∧ nextRetryMs.toNat < 2 ^ 63
  | _ => True

/-- The app's event for each of the program's, field by field. -/
def corresponding : RuntimeEvent → Option ZeroDpiRunnerEvent
  | .startup .. => none
  | .helperAuthenticated pid uid _ _ _ =>
      some (.rootHelperAuthenticated pid.toNat uid.toNat)
  | .configLoaded _ mode bypassMethod listenHost listenPort _ _ needsRoot =>
      some (.configLoaded mode bypassMethod listenHost listenPort.toNat
        needsRoot)
  | .scanStarted scan _ total =>
      some (.scanStarted scan.name (total.map (·.toNat)))
  | .scanProgress scan phase completed total sni ip score =>
      some (.scanProgress scan.name phase completed.toNat
        (total.map (·.toNat)) sni ip (score.map (·.toNat)))
  | .scanCompleted scan results =>
      some (.scanCompleted scan.name results.toNat)
  | .nextScanScheduled scan intervalSecs =>
      some (.nextScanScheduled scan.name intervalSecs.toNat)
  | .rescanStarted scan => some (.rescanStarted scan.name)
  | .rescanFinished scan found bestScore durationMs switched =>
      some (.rescanFinished scan.name found.toNat (bestScore.map (·.toNat))
        durationMs.toNat switched)
  | .selectedTarget target sni ip score =>
      some (.selectedTarget target.name sni ip (score.map (·.toNat)))
  | .listenerStarted mode listenAddr =>
      some (.listenerStarted mode listenAddr)
  | .connectionAccepted peer srcPort =>
      some (.connectionAccepted peer srcPort.toNat)
  | .bypassFinished srcPort status =>
      some (.bypassFinished srcPort.toNat status.name)
  | .relayBytes srcPort c2sBytes s2cBytes isFinal =>
      some (.relayBytes srcPort.toNat c2sBytes.toNat s2cBytes.toNat isFinal)
  | .activeTargetChanged target sni ip score =>
      some (.activeTargetChanged target.name sni ip (score.map (·.toNat)))
  | .rootRequired _ _ message rootlessAlternatives =>
      some (.rootRequired message rootlessAlternatives)
  | .networkUnavailable message => some (.networkUnavailable message)
  | .networkChanged source interfaceIp =>
      some (.networkChanged source.name interfaceIp)
  | .networkRecoveryFailed attempt nextRetryMs message =>
      some (.networkRecoveryFailed attempt.toNat nextRetryMs.toNat message)
  | .networkRecovered interfaceIp targetVerified targetSwitched =>
      some (.networkRecovered interfaceIp targetVerified targetSwitched)
  | .fatalError message => some (.fatalError message)
  | .gracefulShutdown reason => some (.gracefulShutdown reason)

/-- The names of an event's members are plain. -/
theorem members_plain (e : RuntimeEvent) :
    ∀ m ∈ e.members, PlainKey m.1.toList := by
  cases e
  all_goals
    simp only [RuntimeEvent.members, List.forall_mem_cons]
    decide

/-- Reading back what was written. -/
@[simp] theorem asString_str (s : String) : asString (str s) = some s := by
  simp [asString, str]

@[simp] theorem asString_orNull (s : Option String) :
    asString (orNull str s) = s := by
  cases s <;> simp [orNull, asString, str]

@[simp] theorem asStrings_strs (l : List String) : asStrings (strs l) = l := by
  simp [asStrings, strs]

/-- Numbers below 2^63. -/
theorem asLong_num {n : Nat} (h : n < 2 ^ 63) : asLong (.num n) = some (n : Int) :=
  if_pos h

/-- A number below 2^31 is an `Int`. -/
theorem toInt_eq {n : Nat} (h : n < 2 ^ 31) : toInt (n : Int) = n := by
  unfold toInt
  rw [Int.bmod_eq_of_le]
  · omega
  · omega

/-- An optional number below 2^31. -/
theorem map_toInt_orNull {α : Type} {value : α → Value} {nat : α → Nat}
    (hvalue : ∀ a, value a = .num (nat a)) {n : Option α}
    (h : ∀ a ∈ n, nat a < 2 ^ 31) :
    (asLong (orNull value n)).map toInt = n.map fun a => (nat a : Int) := by
  cases n with
  | none => rfl
  | some a =>
      have ha := h a rfl
      rw [orNull, hvalue, asLong_num (by omega), Option.map_some,
        toInt_eq ha]
      rfl

/-- Small numbers, as an `Int`. -/
@[simp] theorem map_toInt_u8 (n : Option UInt8) :
    (asLong (orNull u8 n)).map toInt = n.map fun a => (a.toNat : Int) :=
  map_toInt_orNull (fun _ => rfl) fun a _ => by
    have := a.toNat_lt
    omega

/-- An `Int` that fits. -/
theorem intOr0_num {n : Nat} (h : n < 2 ^ 31) :
    intOr0 (asLong (.num n)) = n := by
  rw [asLong_num (by omega), intOr0, Option.map_some, toInt_eq h]
  rfl

@[simp] theorem intOr0_u16 (n : UInt16) : intOr0 (asLong (u16 n)) = n.toNat := by
  have := n.toNat_lt
  exact intOr0_num (by omega)

/-- Process and user ids. -/
@[simp] theorem asLong_u32 (n : UInt32) :
    asLong (u32 n) = some (n.toNat : Int) := by
  have := n.toNat_lt
  exact asLong_num (by omega)

/-- The members of an event make the event that corresponds to it. -/
theorem event_members {e : RuntimeEvent} {ev : ZeroDpiRunnerEvent}
    (hev : corresponding e = some ev) (hfits : Fits e) (json : List Char) :
    event json (Reader.of e.members) = some ev := by
  cases e with
  | startup => cases hev
  | scanStarted scan path total =>
      have htotal := map_toInt_orNull (fun _ => rfl : ∀ n, u64 n = _) hfits
      simp [← hev, event, Reader.of, lookup, RuntimeEvent.members, orEmpty,
        corresponding, htotal]
  | scanProgress scan phase completed total sni ip score =>
      have htotal := map_toInt_orNull (fun _ => rfl : ∀ n, u64 n = _) hfits.2
      have hcompleted : intOr0 (asLong (u64 completed)) = _ :=
        intOr0_num hfits.1
      simp [← hev, event, Reader.of, lookup, RuntimeEvent.members, orEmpty,
        corresponding, htotal, hcompleted]
  | scanCompleted scan results =>
      have hresults : intOr0 (asLong (u64 results)) = _ := intOr0_num hfits
      simp [← hev, event, Reader.of, lookup, RuntimeEvent.members, orEmpty,
        corresponding, hresults]
  | nextScanScheduled scan intervalSecs =>
      have hsecs : asLong (u64 intervalSecs) = _ := asLong_num hfits
      simp [← hev, event, Reader.of, lookup, RuntimeEvent.members, orEmpty,
        corresponding, hsecs]
  | rescanFinished scan found bestScore durationMs switched =>
      have hfound : intOr0 (asLong (u64 found)) = _ := intOr0_num hfits.1
      have hduration : asLong (u64 durationMs) = _ := asLong_num hfits.2
      simp [← hev, event, Reader.of, lookup, RuntimeEvent.members, orEmpty,
        corresponding, asBool, hfound, hduration]
  | relayBytes srcPort c2sBytes s2cBytes isFinal =>
      have hc2s : asLong (u64 c2sBytes) = _ := asLong_num hfits.1
      have hs2c : asLong (u64 s2cBytes) = _ := asLong_num hfits.2
      simp [← hev, event, Reader.of, lookup, RuntimeEvent.members,
        corresponding, asBool, hc2s, hs2c]
  | networkRecoveryFailed attempt nextRetryMs message =>
      have hattempt : intOr0 (asLong (u32 attempt)) = _ := intOr0_num hfits.1
      have hretry : asLong (u64 nextRetryMs) = _ := asLong_num hfits.2
      rw [asLong_u32] at hattempt
      simp [← hev, event, Reader.of, lookup, RuntimeEvent.members, orEmpty,
        corresponding, hattempt, hretry]
  | _ =>
      simp [← hev, event, Reader.of, lookup, RuntimeEvent.members, orEmpty,
        corresponding, asBool]

/-- An object has nothing to trim. -/
theorem trim_object (l : List JsonMember) : Kotlin.trim (object l) = object l := by
  have htrimmed : Kotlin.Trimmed (object l) := by
    refine ⟨?_, ?_⟩
    · rintro c ⟨⟩
      decide
    · rw [getLast?_object]
      rintro c ⟨⟩
      decide
  exact htrimmed.trim

/-- A line has its braces. -/
theorem isObject_object (l : List JsonMember) : isObject (object l) = true := by
  rw [isObject, getLast?_object]
  rfl

/-- The parser, over the members of a line. -/
theorem parse_object {l : List JsonMember} (hl : ∀ m ∈ l, PlainKey m.1.toList) :
    parse (object l) = event (object l) (Reader.of l) := by
  unfold parse
  simp only [trim_object, isObject_object, if_true]
  exact event_object _ hl

/-- The line of an event is parsed to the event that corresponds to it. A
key is found where the member of that name is and nowhere else, and the line
is one line. -/
theorem parse_line_of_event (e : RuntimeEvent) (ev : ZeroDpiRunnerEvent)
    (hev : corresponding e = some ev) (hfits : Fits e) :
    parse e.line = some ev
      ∧ (∀ name : String, PlainKey name.toList →
        valueStart e.line name = found name e.members)
      ∧ '\n' ∉ e.line ∧ '\r' ∉ e.line := by
  have hplain := members_plain e
  have hprintable := printable_object e.members
  refine ⟨?_, fun name hkey => valueStart_object hkey hplain, ?_, ?_⟩
  · rw [RuntimeEvent.line, parse_object hplain]
    exact event_members hev hfits _
  · intro hmem
    exact absurd (hprintable _ hmem) (by decide)
  · intro hmem
    exact absurd (hprintable _ hmem) (by decide)

/-- Quotes, escapes and the text of a key in the values. -/
def trickyEvent : RuntimeEvent :=
  .scanProgress .ip (some "\"ip\":\\") 3 none (some "ip") none (some 4)

/-- A path that looks like a member is read as a path. -/
theorem tricky_event_survives :
    parse trickyEvent.line = some (.scanProgress "ip" (some "\"ip\":\\") 3
      none (some "ip") none (some 4)) :=
  (parse_line_of_event trickyEvent _ rfl
    ⟨by decide, by intro n hn; cases hn⟩).1

end ZeroDpi.Android.RuntimeEventLineParser
