/-
Compact JSON as `serde_json` writes it.

A value is its rendering, a list of bytes: the combinators follow the
formatter (no blanks, names in the order given, numbers in decimal, the
escapes of `format_escaped_str_contents`). What is proved here is how long
a rendering is.
-/

namespace ZeroDpi.Lib.Json

-- ============================================================ renderings

/-- A hexadecimal digit, in lower case. -/
def hexDigit (n : Nat) : UInt8 :=
  if n < 10 then (0x30 + n).toUInt8 else (0x57 + n).toUInt8

/-- One byte of a string. -/
def escape (b : UInt8) : List UInt8 :=
  if b = 0x22 then [0x5C, 0x22]
  else if b = 0x5C then [0x5C, 0x5C]
  else if b = 0x08 then [0x5C, 0x62]
  else if b = 0x09 then [0x5C, 0x74]
  else if b = 0x0A then [0x5C, 0x6E]
  else if b = 0x0C then [0x5C, 0x66]
  else if b = 0x0D then [0x5C, 0x72]
  else if b < 0x20 then
    [0x5C, 0x75, 0x30, 0x30, hexDigit (b.toNat / 16), hexDigit (b.toNat % 16)]
  else [b]

/-- Text between quotes. -/
def quoted (body : List UInt8) : List UInt8 := 0x22 :: (body ++ [0x22])

/-- The bytes of a string in UTF-8. -/
def utf8 (s : String) : List UInt8 := s.toByteArray.data.toList

/-- A string, escaped. -/
def string (s : String) : List UInt8 := quoted ((utf8 s).flatMap escape)

/-- Decimal digits. -/
def number (n : Nat) : List UInt8 :=
  (Nat.toDigits 10 n).map fun c => c.toNat.toUInt8

/-- `true` or `false`. -/
def bool : Bool → List UInt8
  | true => [0x74, 0x72, 0x75, 0x65]
  | false => [0x66, 0x61, 0x6C, 0x73, 0x65]

/-- `null`. -/
def null : List UInt8 := [0x6E, 0x75, 0x6C, 0x6C]

/-- Renderings with a separator between them. -/
def separated (sep : UInt8) : List (List UInt8) → List UInt8
  | [] => []
  | [v] => v
  | v :: w :: vs => v ++ sep :: separated sep (w :: vs)

/-- Values between brackets. -/
def array (values : List (List UInt8)) : List UInt8 :=
  0x5B :: (separated 0x2C values ++ [0x5D])

/-- A name and its value. -/
def field (f : String × List UInt8) : List UInt8 :=
  string f.1 ++ 0x3A :: f.2

/-- Fields between braces. -/
def object (fields : List (String × List UInt8)) : List UInt8 :=
  0x7B :: (separated 0x2C (fields.map field) ++ [0x7D])

-- =============================================================== lengths

/-- The decimal digits of a number. -/
def digits (n : Nat) : Nat := (Nat.toDigits 10 n).length

/-- The digits of a number. -/
theorem length_number (n : Nat) : (number n).length = digits n :=
  List.length_map _

/-- A bound by the size of the number. -/
theorem digits_le {n k : Nat} (hk : 0 < k) (h : n < Nat.pow 10 k) :
    digits n ≤ k :=
  (Nat.length_toDigits_le_iff (by decide) hk).mpr h

/-- The sum of a list of widths. -/
def total (widths : List Nat) : Nat := widths.foldr (· + ·) 0

@[simp] theorem total_nil : total [] = 0 := rfl

@[simp] theorem total_cons (w : Nat) (widths : List Nat) :
    total (w :: widths) = w + total widths := rfl

/-- Equal widths. -/
theorem total_replicate (n w : Nat) :
    total (List.replicate n w) = n * w := by
  induction n with
  | zero => exact (Nat.zero_mul w).symm
  | succ n ih =>
      rw [List.replicate_succ, total_cons, ih, Nat.succ_mul]
      omega

/-- Two quotes. -/
theorem length_quoted (body : List UInt8) :
    (quoted body).length = body.length + 2 := by
  simp [quoted]

/-- A separator between any two. -/
theorem length_separated (sep : UInt8) (values : List (List UInt8)) :
    (separated sep values).length
      = total (values.map List.length) + (values.length - 1) := by
  induction values with
  | nil => rfl
  | cons v vs ih =>
      cases vs with
      | nil => simp [separated]
      | cons w vs =>
          simp only [separated, List.length_append, List.length_cons, ih,
            List.map_cons, total_cons]
          omega

/-- And two brackets. -/
theorem length_array (values : List (List UInt8)) :
    (array values).length
      = total (values.map List.length) + (values.length - 1) + 2 := by
  simp [array, length_separated]

/-- What the names of an object take, quotes included. -/
def nameWidth (fields : List (String × List UInt8)) : Nat :=
  total (fields.map fun f => (string f.1).length)

/-- What the values of an object take. -/
def valueWidth (fields : List (String × List UInt8)) : Nat :=
  total (fields.map fun f => f.2.length)

@[simp] theorem nameWidth_nil : nameWidth [] = 0 := rfl

@[simp] theorem nameWidth_cons (f : String × List UInt8)
    (fields : List (String × List UInt8)) :
    nameWidth (f :: fields) = (string f.1).length + nameWidth fields := rfl

@[simp] theorem valueWidth_nil : valueWidth [] = 0 := rfl

@[simp] theorem valueWidth_cons (f : String × List UInt8)
    (fields : List (String × List UInt8)) :
    valueWidth (f :: fields) = f.2.length + valueWidth fields := rfl

/-- Names, values, colons, commas and two braces. -/
theorem length_object (fields : List (String × List UInt8)) :
    (object fields).length
      = nameWidth fields + valueWidth fields + fields.length
        + (fields.length - 1) + 2 := by
  have hfields : total ((fields.map field).map List.length)
      = nameWidth fields + valueWidth fields + fields.length := by
    induction fields with
    | nil => rfl
    | cons f fields ih =>
        simp only [nameWidth_cons, valueWidth_cons, field, List.map_cons,
          total_cons, List.length_append, List.length_cons, ih]
        omega
  simp only [object, List.length_cons, List.length_append,
    length_separated, hfields, List.length_map, List.length_nil]

/-- An escape takes six bytes at most. -/
theorem length_escape_le (b : UInt8) : (escape b).length ≤ 6 := by
  unfold escape
  repeat' split
  all_goals simp only [List.length_cons, List.length_nil]
  all_goals omega

theorem length_utf8 (s : String) : (utf8 s).length = s.utf8ByteSize := rfl

/-- Six characters for a byte at most. -/
theorem length_string_le (s : String) :
    (string s).length ≤ 6 * s.utf8ByteSize + 2 := by
  have hbody : ∀ bytes : List UInt8,
      (bytes.flatMap escape).length ≤ 6 * bytes.length := by
    intro bytes
    induction bytes with
    | nil => exact Nat.le_refl _
    | cons b bytes ih =>
        have hb := length_escape_le b
        simp only [List.flatMap_cons, List.length_append, List.length_cons]
        omega
  have hs := hbody (utf8 s)
  rw [length_utf8] at hs
  rw [string, length_quoted]
  omega

end ZeroDpi.Lib.Json
