/-
The configuration of a support bundle (storage/SupportBundle.kt):
`SupportBundleSanitizer.sanitizedConfig`, which redacts it line by line.

`$` matches at the end of a line and before a line terminator at its end, and
`.` matches no line terminator; a line of `lineSequence` has no line feed and
no carriage return left, but may have one of the others.
-/
import ZeroDpi.Android.TomlText

namespace ZeroDpi.Android.SupportBundle

open Lib

/-- `REDACTED_CONFIG_FIELDS`. -/
def redactedConfigFields : List (List Char) :=
  ["SELECTED_SNI".toList, "SELECTED_IP".toList, "CUSTOM_DNS_SERVERS".toList,
    "SNI_LIST".toList, "IP_LIST".toList, "SCAN_OUTPUT".toList,
    "METHOD_SCAN_OUTPUT".toList, "SCAN_UPLOAD_PATH".toList,
    "IP_SCAN_SNI".toList, "PROXY_TEST_SOCKS5_HOST".toList,
    "PROXY_TEST_SOCKS5_PORT".toList, "PROXY_TEST_URL".toList]

/-- The one with an array. -/
def customDnsServers : List Char := "CUSTOM_DNS_SERVERS".toList

-- ================================================================= the lines

/-- A line terminator of a regular expression. -/
def isTerminator (c : Char) : Bool :=
  let n := c.toNat
  n = 0x0A || n = 0x0D || n = 0x85 || n = 0x2028 || n = 0x2029

/-- The group of `(.*)$`, where it matches. -/
def untilEnd (s : List Char) : Option (List Char) :=
  match s.dropWhile fun c => !isTerminator c with
  | [] | [_] => some (s.takeWhile fun c => !isTerminator c)
  | _ => none

/-- The groups of `^(\s*)([A-Z0-9_]+)(\s*=\s*)(.*)$`. -/
structure Assignment where
  indent : List Char
  key : List Char
  equals : List Char
  rest : List Char
  deriving DecidableEq

/-- A line with a key in upper case. -/
def assignmentPattern (line : List Char) : Option Assignment :=
  let indent := line.takeWhile isSpace
  let body := line.dropWhile isSpace
  let key := body.takeWhile isUpperKeyChar
  let behind := body.dropWhile isUpperKeyChar
  match behind.dropWhile isSpace with
  | '=' :: s =>
      if key.isEmpty then none
      else
        (untilEnd (s.dropWhile isSpace)).map fun rest =>
          { indent
            key
            equals := behind.takeWhile isSpace ++ '=' :: s.takeWhile isSpace
            rest }
  | _ => none

-- ================================================================== an array

/-- The scanner inside an array that is redacted. -/
structure RedactedArray where
  depth : Int := 0
  quote : Option Char := none
  escaped : Bool := false
  deriving DecidableEq

/-- `consume`; a `#` outside of a string ends the line. -/
def RedactedArray.consume (a : RedactedArray) : List Char → RedactedArray
  | [] => a
  | c :: rest =>
      if a.escaped then RedactedArray.consume { a with escaped := false } rest
      else
        match a.quote with
        | some quote =>
            if c = '\\' ∧ quote = '"' then
              RedactedArray.consume { a with escaped := true } rest
            else if c = quote then
              RedactedArray.consume { a with quote := none } rest
            else a.consume rest
        | none =>
            if c = '#' then a
            else if c = '"' ∨ c = '\'' then
              RedactedArray.consume { a with quote := some c } rest
            else if c = '[' then
              RedactedArray.consume { a with depth := a.depth + 1 } rest
            else if c = ']' then
              RedactedArray.consume { a with depth := a.depth - 1 } rest
            else a.consume rest

-- ================================================================== the text

/-- What is put in place of a value. -/
def redacted : List Char := "\"<redacted>\"".toList

/-- The lines so far, and the array that is open. -/
structure State where
  lines : List (List Char) := []
  arrayState : Option RedactedArray := none
  deriving DecidableEq

/-- An array that is still open. -/
def open? (a : RedactedArray) : Option RedactedArray :=
  if a.depth ≤ 0 then none else some a

/-- The array that a redacted assignment leaves open. -/
def arrayBehind (found : Assignment) : Option RedactedArray :=
  if found.key = customDnsServers
      ∧ (found.rest.dropWhile Kotlin.isWhitespace).head? = some '[' then
    open? (({} : RedactedArray).consume found.rest)
  else none

/-- One line more. -/
def State.line (s : State) (line : List Char) : State :=
  match s.arrayState with
  | some activeArray => { s with arrayState := open? (activeArray.consume line) }
  | none =>
      match assignmentPattern line with
      | none => { s with lines := s.lines ++ [line] }
      | some found =>
          if found.key ∈ redactedConfigFields then
            { lines := s.lines ++ [found.indent ++ found.key ++ found.equals
                ++ redacted]
              arrayState := arrayBehind found }
          else { s with lines := s.lines ++ [line] }

/-- `sanitizedConfig`. -/
def sanitizedConfig (configText : List Char) : List Char :=
  ['\n'].intercalate ((Kotlin.lineSequence configText).foldl State.line {}).lines

end ZeroDpi.Android.SupportBundle
