/-
`String.toDoubleOrNull`: the grammar of Java's `Double.valueOf` (decimal and
hexadecimal numerals, a type suffix, `NaN` and `Infinity`, with spaces and
control characters around it), rounded to the nearest double.

A double is known by its value; the two zeros are one, as comparisons have
it.
-/
import ZeroDpi.Lib.Kotlin

namespace ZeroDpi.Lib.Kotlin

/-- A `Double`, exactly. -/
inductive Double where
  | finite (value : Rat)
  | infinite (negative : Bool)
  | nan
  deriving DecidableEq

/-- `isFinite()`. -/
def Double.isFinite : Double → Bool
  | .finite _ => true
  | _ => false

/-- `x > 0.0`. -/
def Double.isPositive : Double → Bool
  | .finite value => 0 < value
  | .infinite negative => !negative
  | .nan => false

/-- `x in 0.0..1.0`. -/
def Double.inUnitInterval : Double → Bool
  | .finite value => 0 ≤ value && value ≤ 1
  | _ => false

-- ================================================================ rounding

/-- A power of two, also a negative one. -/
def pow2 (e : Int) : Rat :=
  if 0 ≤ e then (2 ^ e.toNat : Nat) else 1 / (2 ^ (-e).toNat : Nat)

/-- To the nearest, and to the even one of two. -/
def roundHalfEven (q : Rat) : Int :=
  let below := q.floor
  let part := q - below
  if part < 1 / 2 ∨ (part = 1 / 2 ∧ below % 2 = 0) then below else below + 1

/-- The double nearest to `q`, which is not negative, with a sign. -/
def nearestDouble (negative : Bool) (q : Rat) : Double :=
  if q = 0 then .finite 0
  else
    let estimate : Int := (q.num.toNat.log2 : Int) - q.den.log2
    let log := if pow2 estimate ≤ q then estimate else estimate - 1
    let unit := pow2 (max (log - 52) (-1074))
    let rounded := roundHalfEven (q / unit) * unit
    if pow2 1024 ≤ rounded then .infinite negative
    else .finite (if negative then -rounded else rounded)

-- ================================================================ numerals

/-- An optional sign: whether it is a minus, and what is behind it. -/
def readSign : List Char → Bool × List Char
  | '-' :: rest => (true, rest)
  | '+' :: rest => (false, rest)
  | s => (false, s)

/-- Decimal digits. -/
def isDecimal (c : Char) : Bool := (Text.digit? c).isSome

/-- Hexadecimal digits. -/
def isHexadecimal (c : Char) : Bool := (Text.hexDigit? c).isSome

/-- The digits of a number in a base. -/
def digitsValue (base : Nat) (digits : List Char) : Nat :=
  digits.foldl (fun n c => n * base + (Text.hexDigit? c).getD 0) 0

/-- The digits before and after an optional point, and what is behind. -/
def readPoint (isDigit : Char → Bool) (s : List Char) :
    List Char × List Char × List Char :=
  let whole := s.takeWhile isDigit
  match s.dropWhile isDigit with
  | '.' :: rest => (whole, rest.takeWhile isDigit, rest.dropWhile isDigit)
  | rest => (whole, [], rest)

/-- An exponent behind one of the letters. -/
def readExponent (letters : List Char) : List Char → Option (Int × List Char)
  | [] => none
  | c :: rest =>
      let (negative, rest) := readSign rest
      let digits := rest.takeWhile isDecimal
      if letters.contains c && !digits.isEmpty then
        let n : Int := digitsValue 10 digits
        some (if negative then -n else n, rest.dropWhile isDecimal)
      else none

/-- A type suffix, or nothing. -/
def isSuffix (s : List Char) : Bool :=
  s.isEmpty || [['f'], ['F'], ['d'], ['D']].contains s

/-- A decimal numeral. -/
def readDecimal (s : List Char) : Option Rat :=
  let (whole, fraction, rest) := readPoint isDecimal s
  let (exponent, rest) := (readExponent ['e', 'E'] rest).getD (0, rest)
  if !(whole ++ fraction).isEmpty && isSuffix rest then
    let e := exponent - fraction.length
    let n : Rat := (digitsValue 10 (whole ++ fraction) : Nat)
    some (if 0 ≤ e then n * (10 ^ e.toNat : Nat)
      else n / (10 ^ (-e).toNat : Nat))
  else none

/-- A hexadecimal numeral behind its `0x`; the exponent is not optional. -/
def readHexadecimal (s : List Char) : Option Rat :=
  let (whole, fraction, rest) := readPoint isHexadecimal s
  match readExponent ['p', 'P'] rest with
  | none => none
  | some (exponent, rest) =>
      if !(whole ++ fraction).isEmpty && isSuffix rest then
        some ((digitsValue 16 (whole ++ fraction) : Nat)
          * pow2 (exponent - 4 * fraction.length))
      else none

/-- The value of a numeral without its sign. -/
def readNumeral (s : List Char) : Option Rat :=
  match s with
  | '0' :: 'x' :: rest => readHexadecimal rest
  | '0' :: 'X' :: rest => readHexadecimal rest
  | s => readDecimal s

/-- The characters that `java.lang.String.trim` takes away. -/
def isControl (c : Char) : Bool := c.toNat ≤ 0x20

/-- Java's `trim`, which takes control characters for blanks. -/
def javaTrim (s : List Char) : List Char :=
  ((s.dropWhile isControl).reverse.dropWhile isControl).reverse

/-- `toDoubleOrNull`. -/
def toDoubleOrNull (s : List Char) : Option Double :=
  let (negative, s) := readSign (javaTrim s)
  if s = ['N', 'a', 'N'] then some .nan
  else if s = ['I', 'n', 'f', 'i', 'n', 'i', 't', 'y'] then
    some (.infinite negative)
  else (readNumeral s).map (nearestDouble negative)

example : toDoubleOrNull " -1.5e3f ".toList = some (.finite (-1500)) := by
  decide +kernel

-- ============================================== the characters of a numeral

/-- No quote and no `#`. -/
def Unquoted (s : List Char) : Prop := ∀ c ∈ s, c ≠ '"' ∧ c ≠ '#'

/-- Texts without quotes and hashes. -/
theorem Unquoted.append {s t : List Char} (hs : Unquoted s)
    (ht : Unquoted t) : Unquoted (s ++ t) := by
  intro c hc
  rcases List.mem_append.mp hc with hc | hc
  · exact hs c hc
  · exact ht c hc

/-- A class of characters without the quote and the `#`. -/
structure Excludes (p : Char → Bool) : Prop where
  quote : p '"' = false
  hash : p '#' = false

/-- Characters of a class without them. -/
theorem unquoted_takeWhile {p : Char → Bool} (h : Excludes p)
    (s : List Char) : Unquoted (s.takeWhile p) := by
  intro c hc
  have hp := List.all_eq_true.mp (List.all_takeWhile (p := p)) c hc
  constructor
  · rintro rfl
    exact absurd hp (by simp [h.quote])
  · rintro rfl
    exact absurd hp (by simp [h.hash])

/-- And what is behind. -/
theorem unquoted_of_dropWhile {p : Char → Bool} (h : Excludes p)
    {s : List Char} (hrest : Unquoted (s.dropWhile p)) : Unquoted s := by
  have hsplit := (unquoted_takeWhile h s).append hrest
  rwa [List.takeWhile_append_dropWhile] at hsplit

theorem unquoted_cons {c : Char} {s : List Char} (hc : c ≠ '"' ∧ c ≠ '#')
    (hs : Unquoted s) : Unquoted (c :: s) :=
  List.forall_mem_cons.mpr ⟨hc, hs⟩

/-- A numeral has neither, part by part: its sign, -/
theorem unquoted_of_readSign {s : List Char} (h : Unquoted (readSign s).2) :
    Unquoted s := by
  unfold readSign at h
  split at h
  · exact unquoted_cons (by decide) h
  · exact unquoted_cons (by decide) h
  · exact h

theorem excludes_isDecimal : Excludes isDecimal := ⟨by decide, by decide⟩

theorem excludes_isHexadecimal : Excludes isHexadecimal :=
  ⟨by decide, by decide⟩

/-- its digits, -/
theorem unquoted_of_readPoint {p : Char → Bool} (h : Excludes p)
    {s : List Char} (hrest : Unquoted (readPoint p s).2.2) : Unquoted s := by
  apply unquoted_of_dropWhile h
  unfold readPoint at hrest
  split at hrest
  case h_1 rest hpoint =>
    rw [hpoint]
    exact unquoted_cons (by decide) (unquoted_of_dropWhile h hrest)
  case h_2 => exact hrest

/-- its exponent, -/
theorem unquoted_of_readExponent {letters s rest : List Char} {e : Int}
    (hletters : Unquoted letters) (h : readExponent letters s = some (e, rest))
    (hrest : Unquoted rest) : Unquoted s := by
  cases s with
  | nil => cases h
  | cons c s =>
      simp only [readExponent, Option.ite_none_right_eq_some,
        Option.some.injEq, Prod.mk.injEq, Bool.and_eq_true] at h
      obtain ⟨⟨hletter, -⟩, -, rfl⟩ := h
      have hc := hletters c (List.contains_iff_mem.mp hletter)
      exact unquoted_cons hc
        (unquoted_of_readSign (unquoted_of_dropWhile excludes_isDecimal hrest))

/-- its suffix. -/
theorem unquoted_of_isSuffix {s : List Char} (h : isSuffix s = true) :
    Unquoted s := by
  unfold isSuffix at h
  rcases Bool.or_eq_true_iff.mp h with hnil | hletter
  · rw [List.isEmpty_iff.mp hnil]
    exact nofun
  · have hmem := List.contains_iff_mem.mp hletter
    simp only [List.mem_cons, List.not_mem_nil, or_false] at hmem
    have hall : ∀ suffix ∈ [['f'], ['F'], ['d'], ['D']],
        ∀ c ∈ suffix, c ≠ '"' ∧ c ≠ '#' := by simp
    exact hall s (by simpa using hmem)

theorem unquoted_of_readDecimal {s : List Char} {q : Rat}
    (h : readDecimal s = some q) : Unquoted s := by
  apply unquoted_of_readPoint excludes_isDecimal
  unfold readDecimal at h
  generalize readPoint isDecimal s = point at h ⊢
  obtain ⟨whole, fraction, rest⟩ := point
  simp only [Option.ite_none_right_eq_some, Bool.and_eq_true] at h
  obtain ⟨⟨-, hsuffix⟩, -⟩ := h
  cases hread : readExponent ['e', 'E'] rest with
  | none =>
      rw [hread] at hsuffix
      exact unquoted_of_isSuffix hsuffix
  | some read =>
      obtain ⟨exponent, behind⟩ := read
      rw [hread] at hsuffix
      exact unquoted_of_readExponent (by simp [Unquoted]) hread
        (unquoted_of_isSuffix hsuffix)

theorem unquoted_of_readHexadecimal {s : List Char} {q : Rat}
    (h : readHexadecimal s = some q) : Unquoted s := by
  apply unquoted_of_readPoint excludes_isHexadecimal
  unfold readHexadecimal at h
  generalize readPoint isHexadecimal s = point at h ⊢
  obtain ⟨whole, fraction, rest⟩ := point
  cases hread : readExponent ['p', 'P'] rest with
  | none => simp [hread] at h
  | some read =>
      obtain ⟨exponent, behind⟩ := read
      simp only [hread, Option.ite_none_right_eq_some,
        Bool.and_eq_true] at h
      exact unquoted_of_readExponent (by simp [Unquoted]) hread
        (unquoted_of_isSuffix h.1.2)

/-- So a number hides no comment. -/
theorem unquoted_of_readNumeral {s : List Char} {q : Rat}
    (h : readNumeral s = some q) : Unquoted s := by
  unfold readNumeral at h
  split at h
  · exact unquoted_cons (by decide)
      (unquoted_cons (by decide) (unquoted_of_readHexadecimal h))
  · exact unquoted_cons (by decide)
      (unquoted_cons (by decide) (unquoted_of_readHexadecimal h))
  · exact unquoted_of_readDecimal h

/-- A text that is a double has no quote in it and no `#`. -/
theorem unquoted_of_toDoubleOrNull {s : List Char} {d : Double}
    (h : toDoubleOrNull s = some d) : Unquoted s := by
  have hcontrol : Excludes isControl := ⟨by decide, by decide⟩
  have hword : ∀ word ∈ [['N', 'a', 'N'],
      ['I', 'n', 'f', 'i', 'n', 'i', 't', 'y']],
      ∀ c ∈ word, c ≠ '"' ∧ c ≠ '#' := by simp
  have htrim : Unquoted (javaTrim s) := by
    apply unquoted_of_readSign
    unfold toDoubleOrNull at h
    generalize readSign (javaTrim s) = signed at h ⊢
    obtain ⟨negative, body⟩ := signed
    by_cases hnan : body = ['N', 'a', 'N']
    · rw [hnan]
      exact hword _ (by simp)
    · by_cases hinf : body = ['I', 'n', 'f', 'i', 'n', 'i', 't', 'y']
      · rw [hinf]
        exact hword _ (by simp)
      · simp only [hnan, hinf, if_false] at h
        obtain ⟨q, hq, -⟩ := Option.map_eq_some_iff.mp h
        exact unquoted_of_readNumeral hq
  apply unquoted_of_dropWhile hcontrol
  have hreverse : Unquoted (s.dropWhile isControl).reverse :=
    unquoted_of_dropWhile hcontrol fun c hc =>
      htrim c (List.mem_reverse.mpr hc)
  exact fun c hc => hreverse c (List.mem_reverse.mpr hc)

/-- Nor has a whole number. -/
theorem unquoted_of_toSignedOrNull {bits : Nat} {s : List Char} {n : Int}
    (h : toSignedOrNull bits s = some n) : Unquoted s := by
  have hdigit : ∀ c, isDigit c = true → c ≠ '"' ∧ c ≠ '#' := by
    intro c hc
    constructor
    · rintro rfl
      exact absurd hc (by decide)
    · rintro rfl
      exact absurd hc (by decide)
  intro c hc
  rcases numeral_of_toSignedOrNull h c hc with rfl | rfl | hc
  · decide
  · decide
  · exact hdigit c hc

end ZeroDpi.Lib.Kotlin
