/-
Flat JSON objects as text: strings, numbers, flags, `null` and lists of
strings, in compact form, with the escapes of `serde_json`.

`Json` has the same renderings as bytes; here they are characters, for a
reader that works on text.
-/

namespace ZeroDpi.Lib.JsonText

/-- The values that are written. -/
inductive Value where
  | str (s : List Char)
  | num (n : Nat)
  | bool (b : Bool)
  | null
  | strs (items : List (List Char))
  deriving DecidableEq

/-- A digit of an escape. -/
def hexDigit (n : Nat) : Char := Char.ofNat (if n < 10 then 0x30 + n else 0x57 + n)

/-- One character of a string. -/
def escape (c : Char) : List Char :=
  if c = '"' then ['\\', '"']
  else if c = '\\' then ['\\', '\\']
  else if c.toNat = 0x08 then ['\\', 'b']
  else if c.toNat = 0x09 then ['\\', 't']
  else if c.toNat = 0x0A then ['\\', 'n']
  else if c.toNat = 0x0C then ['\\', 'f']
  else if c.toNat = 0x0D then ['\\', 'r']
  else if c.toNat < 0x20 then
    ['\\', 'u', '0', '0', hexDigit (c.toNat / 16), hexDigit (c.toNat % 16)]
  else [c]

/-- A string in quotes. -/
def quoted (s : List Char) : List Char := '"' :: (s.flatMap escape ++ ['"'])

/-- The items of a list, up to its end. -/
def items : List (List Char) → List Char
  | [] => [']']
  | [s] => quoted s ++ [']']
  | s :: t :: rest => quoted s ++ ',' :: items (t :: rest)

/-- The value as it is written. -/
def Value.text : Value → List Char
  | str s => quoted s
  | num n => Nat.toDigits 10 n
  | bool true => ['t', 'r', 'u', 'e']
  | bool false => ['f', 'a', 'l', 's', 'e']
  | null => ['n', 'u', 'l', 'l']
  | strs l => '[' :: items l

/-- A name and its value. -/
abbrev JsonMember := String × Value

/-- As it is written. -/
def member (m : JsonMember) : List Char := quoted m.1.toList ++ ':' :: m.2.text

/-- The members of an object, up to its end. -/
def members : List JsonMember → List Char
  | [] => ['}']
  | [m] => member m ++ ['}']
  | m :: n :: rest => member m ++ ',' :: members (n :: rest)

/-- Members between braces. -/
def object (l : List JsonMember) : List Char := '{' :: members l

/-- The value of the first member of that name. -/
def lookup (l : List JsonMember) (name : String) : Option Value :=
  (l.find? fun m => m.1 = name).map Prod.snd

-- ================================================================== escapes

/-- A character is escaped, or stands for itself. -/
theorem escape_cases (c : Char) :
    (∃ rest, escape c = '\\' :: rest)
      ∨ (escape c = [c] ∧ c ≠ '"' ∧ c ≠ '\\' ∧ 0x20 ≤ c.toNat) := by
  unfold escape
  by_cases h1 : c = '"'
  · exact .inl ⟨_, if_pos h1⟩
  rw [if_neg h1]
  by_cases h2 : c = '\\'
  · exact .inl ⟨_, if_pos h2⟩
  rw [if_neg h2]
  by_cases h3 : c.toNat < 0x20
  · refine .inl ?_
    repeat' split
    all_goals exact ⟨_, rfl⟩
  · refine .inr ⟨?_, h1, h2, by omega⟩
    repeat' rw [if_neg (by omega)]

/-- Digits are printable. -/
theorem toNat_hexDigit {n : Nat} (h : n < 16) : 0x20 ≤ (hexDigit n).toNat := by
  have hall : ∀ n < 16, 0x20 ≤ (hexDigit n).toNat := by decide
  exact hall n h

/-- Nothing that is written is a control character. -/
theorem printable_escape {c d : Char} (h : d ∈ escape c) : 0x20 ≤ d.toNat := by
  unfold escape at h
  repeat' split at h
  all_goals simp only [List.mem_cons, List.not_mem_nil, or_false] at h
  iterate 7 (rcases h with rfl | rfl <;> decide)
  · rcases h with rfl | rfl | rfl | rfl | rfl | rfl
    · decide
    · decide
    · decide
    · decide
    · exact toNat_hexDigit (by omega)
    · exact toNat_hexDigit (by omega)
  · rw [h]
    omega

/-- No control characters. -/
def Printable (s : List Char) : Prop := ∀ c ∈ s, 0x20 ≤ c.toNat

/-- In sequence. -/
theorem printable_append {s t : List Char} (hs : Printable s)
    (ht : Printable t) : Printable (s ++ t) := by
  intro c hc
  rcases List.mem_append.mp hc with h | h
  · exact hs c h
  · exact ht c h

theorem printable_cons {c : Char} {s : List Char} (hc : 0x20 ≤ c.toNat)
    (hs : Printable s) : Printable (c :: s) := by
  intro d hd
  rcases List.mem_cons.mp hd with rfl | h
  · exact hc
  · exact hs d h

/-- What is quoted is printable. -/
theorem printable_quoted (s : List Char) : Printable (quoted s) := by
  apply printable_cons (by decide)
  apply printable_append _ (printable_cons (by decide) (by simp [Printable]))
  intro c hc
  obtain ⟨d, -, hd⟩ := List.mem_flatMap.mp hc
  exact printable_escape hd

theorem printable_items (l : List (List Char)) : Printable (items l) := by
  induction l using items.induct with
  | case1 => exact printable_cons (by decide) (by simp [Printable])
  | case2 s =>
      exact printable_append (printable_quoted s)
        (printable_cons (by decide) (by simp [Printable]))
  | case3 s t rest ih =>
      exact printable_append (printable_quoted s)
        (printable_cons (by decide) ih)

/-- So is a value. -/
theorem printable_text (v : Value) : Printable v.text := by
  cases v with
  | str s => exact printable_quoted s
  | num n =>
      intro c hc
      have hdigit := Nat.isDigit_of_mem_toDigits (by decide) (by decide) hc
      unfold Char.isDigit at hdigit
      simp only [Bool.and_eq_true, decide_eq_true_eq] at hdigit
      have h0 : 48 ≤ c.toNat := UInt32.le_iff_toNat_le.mp hdigit.1
      omega
  | bool b => cases b <;> simp [Value.text, Printable]
  | null => simp [Value.text, Printable]
  | strs l => exact printable_cons (by decide) (printable_items l)

theorem printable_members (l : List JsonMember) : Printable (members l) := by
  have hmember : ∀ m : JsonMember, Printable (member m) := fun m =>
    printable_append (printable_quoted _)
      (printable_cons (by decide) (printable_text _))
  induction l using members.induct with
  | case1 => exact printable_cons (by decide) (by simp [Printable])
  | case2 m =>
      exact printable_append (hmember m)
        (printable_cons (by decide) (by simp [Printable]))
  | case3 m n rest ih =>
      exact printable_append (hmember m) (printable_cons (by decide) ih)

/-- So the text of an object is one line. -/
theorem printable_object (l : List JsonMember) : Printable (object l) :=
  printable_cons (by decide) (printable_members l)

/-- An object ends with its brace. -/
theorem getLast?_object (l : List JsonMember) :
    (object l).getLast? = some '}' := by
  have hmembers : ∀ l, (members l).getLast? = some '}' := by
    intro l
    induction l using members.induct with
    | case1 => rfl
    | case2 m => simp [members]
    | case3 m n rest ih =>
        simp [members, List.getLast?_append, List.getLast?_cons, ih]
  rw [object, List.getLast?_cons, hmembers]
  rfl

end ZeroDpi.Lib.JsonText
