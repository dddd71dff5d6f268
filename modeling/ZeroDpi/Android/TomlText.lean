/-
How the Android app reads and writes the TOML of a configuration: strings,
arrays of strings, comments, and the regular expressions of its lines and
values (config/ZeroDpiConfig.kt).
-/
import ZeroDpi.Lib.Kotlin
import ZeroDpi.Lib.Quoting

namespace ZeroDpi.Android

open Lib

-- ================================================================= strings

/-- The character of an escape, `'n'` and so on. -/
def unescapeToml : Char → Option Char
  | '"' => some '"'
  | '\\' => some '\\'
  | 'n' => some '\n'
  | 'r' => some '\r'
  | 't' => some '\t'
  | _ => none

/-- The characters that are escaped. -/
def escapeTomlChar : Char → List Char
  | '\\' => ['\\', '\\']
  | '"' => ['\\', '"']
  | '\n' => ['\\', 'n']
  | '\r' => ['\\', 'r']
  | '\t' => ['\\', 't']
  | c => [c]

/-- `escapeTomlString`. -/
def escapeTomlString (value : List Char) : List Char :=
  value.flatMap escapeTomlChar

/-- `quoteToml`. -/
def quoteToml (value : List Char) : List Char :=
  '"' :: (escapeTomlString value ++ ['"'])

/-- A quoted string, and nothing behind it. -/
def decodeTomlString : List Char → Option (List Char)
  | '"' :: rest =>
      match Quoting.readString unescapeToml rest with
      | some (value, trailing) =>
          if (Kotlin.trim trailing).isEmpty then some value else none
      | none => none
  | _ => none

-- ================================================================== arrays

/-- The loop of `parseTomlStringArray`, which takes two characters or more
in a turn. -/
def parseItems : Nat → List Char → Option (List (List Char))
  | 0, _ => none
  | fuel + 1, body =>
      match body.dropWhile Kotlin.isWhitespace with
      | [] => some []
      | '"' :: rest =>
          match Quoting.readString unescapeToml rest with
          | none => none
          | some (item, rest) =>
              match rest.dropWhile Kotlin.isWhitespace with
              | [] => some [item]
              | ',' :: rest =>
                  if (rest.dropWhile Kotlin.isWhitespace).isEmpty then none
                  else (parseItems fuel rest).map (item :: ·)
              | _ => none
      | _ => none

/-- `parseTomlStringArray`; `null` if it is none. -/
def parseTomlStringArray (raw : List Char) : Option (List (List Char)) :=
  match Kotlin.trim raw with
  | '[' :: rest =>
      if rest.getLast? = some ']' then
        parseItems (rest.length + 1) rest.dropLast
      else none
  | _ => none

/-- `joinToString(prefix = "[", separator = ", ", postfix = "]")`. -/
def bracketed (items : List (List Char)) : List Char :=
  '[' :: ([',', ' '].intercalate items ++ [']'])

/-- Strings, quoted and escaped. -/
def canonicalStringArray (values : List (List Char)) : List Char :=
  bracketed (values.map quoteToml)

/-- Names, quoted as they are. -/
def canonicalMethodArray (methods : List (List Char)) : List Char :=
  bracketed (methods.map fun it => '"' :: (it ++ ['"']))

/-- Names of combinations, as they were once written. -/
def expandMethodAlias (name : List Char) : List (List Char) :=
  match String.ofList name with
  | "wrong_seq_wrong_md5" => ["wrong_seq".toList, "wrong_md5".toList]
  | "wrong_seq_tls_frag" => ["wrong_seq".toList, "tls_frag".toList]
  | "wrong_md5_tls_frag" => ["wrong_md5".toList, "tls_frag".toList]
  | "wrong_seq_tls_record_frag" =>
      ["wrong_seq".toList, "tls_record_frag".toList]
  | _ => [name]

-- ================================================================ comments

/-- A value without its comment. -/
def stripInlineComment (raw : List Char) : List Char :=
  match Quoting.commentAt false false raw with
  | some index => Kotlin.trimEnd (raw.take index)
  | none => Kotlin.trimEnd raw

/-- Where the comment starts. -/
def findUnquotedCommentIndex (raw : List Char) : Option Nat :=
  Quoting.commentAt false false raw

/-- The comment, or nothing. -/
def trailingComment (raw : List Char) : List Char :=
  let stripped := raw.dropWhile Kotlin.isWhitespace
  match findUnquotedCommentIndex stripped with
  | some commentStart => Kotlin.trim (stripped.drop commentStart)
  | none => []

-- ================================================================ patterns

/-- `\s` of a regular expression. -/
def isSpace (c : Char) : Bool :=
  let n := c.toNat
  (0x09 ≤ n && n ≤ 0x0D) || n = 0x20

/-- `[A-Z0-9_]`. -/
def isUpperKeyChar (c : Char) : Bool :=
  let n := c.toNat
  (0x30 ≤ n && n ≤ 0x39) || (0x41 ≤ n && n ≤ 0x5A) || n = 0x5F

/-- `[A-Za-z0-9_]`. -/
def isKeyChar (c : Char) : Bool := Kotlin.isAsciiAlnum c || c = '_'

/-- The group of `^\s*([…]+)\s*=`. -/
def keyBefore (inKey : Char → Bool) (line : List Char) :
    Option (List Char) :=
  let body := line.dropWhile isSpace
  let key := body.takeWhile inKey
  match (body.dropWhile inKey).dropWhile isSpace with
  | '=' :: _ => if key.isEmpty then none else some key
  | _ => none

/-- Of the editor. -/
def assignmentPattern (line : List Char) : Option (List Char) :=
  keyBefore isUpperKeyChar line

/-- Of the parser of lines. -/
def keyValuePattern (line : List Char) : Option (List Char) :=
  keyBefore isKeyChar line

/-- `\d+`, or `-?\d+`, at the front of a text. -/
def numeralBefore (signed : Bool) (s : List Char) :
    Option (List Char × List Char) :=
  let (sign, rest) := match s with
    | '-' :: rest => if signed then (['-'], rest) else ([], s)
    | _ => ([], s)
  let digits := rest.takeWhile Char.isDigit
  if digits.isEmpty then none
  else some (sign ++ digits, rest.dropWhile Char.isDigit)

/-- The two groups of `^\s*(\d+)(?:\s*-\s*(\d+))?\s*$`, or with `-?\d+`; the
second one may be missing. -/
def rangePattern (signed : Bool) (s : List Char) :
    Option (List Char × Option (List Char)) :=
  match numeralBefore signed (s.dropWhile isSpace) with
  | none => none
  | some (first, rest) =>
      match rest.dropWhile isSpace with
      | [] => some (first, none)
      | '-' :: rest =>
          match numeralBefore signed (rest.dropWhile isSpace) with
          | none => none
          | some (second, rest) =>
              if rest.all isSpace then some (first, some second) else none
      | _ => none

/-- A number, or two. -/
def integerRangePattern (s : List Char) :
    Option (List Char × Option (List Char)) :=
  rangePattern true s

/-- Likewise, without signs. -/
def packetRangePattern (s : List Char) :
    Option (List Char × Option (List Char)) :=
  rangePattern false s

end ZeroDpi.Android
