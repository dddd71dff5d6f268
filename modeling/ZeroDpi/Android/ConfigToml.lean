/-
The configuration editor of the Android app: how `ZeroDpiConfigToml` of
config/ZeroDpiConfig.kt reads a text into the texts of the fields
(`parseFieldText`) and these into values (`parseValue`), and writes a value
back into the text (`replaceOrAppendField`).

`String.toLong` throws where a number does not fit. The words that
`lowercase` is compared with have no capitals outside of ASCII.
-/
import ZeroDpi.Android.ConfigSchema
import ZeroDpi.Lib.KotlinDouble

namespace ZeroDpi.Android

open Lib

-- ================================================================== values

/-- A value as the editor keeps it. -/
inductive ConfigValue where
  | text (value : List Char)
  | boolean (value : Bool)
  | integer (value : Int)
  | float (value : Kotlin.Double)
  deriving DecidableEq

/-- The values of the schema's fields. -/
structure ZeroDpiConfig where
  values : String → Option ConfigValue

namespace ZeroDpiConfig

/-- A field read as text; a field of another type is empty. -/
def text (config : ZeroDpiConfig) (name : String) : List Char :=
  match config.values name with
  | some (.text value) => value
  | _ => []

/-- A field read as a list of methods. -/
def methodList (config : ZeroDpiConfig) (name : String) : List String :=
  ((parseTomlStringArray (config.text name)).getD []).map String.ofList

/-- As a boolean. -/
def boolean (config : ZeroDpiConfig) (name : String) : Bool :=
  match config.values name with
  | some (.boolean value) => value
  | _ => false

/-- As an integer. -/
def integer (config : ZeroDpiConfig) (name : String) : Int :=
  match config.values name with
  | some (.integer value) => value
  | _ => 0

/-- As a number. -/
def decimal (config : ZeroDpiConfig) (name : String) : Kotlin.Double :=
  match config.values name with
  | some (.float value) => value
  | _ => .finite 0

end ZeroDpiConfig

/-- What is wrong, and with which field. -/
structure ConfigValidationIssue where
  fieldName : Option String
  message : String
  deriving DecidableEq

/-- What `String.toLong` throws. -/
structure NumberFormatException where
  input : List Char
  deriving DecidableEq

/-- `String.toLong`. -/
def toLong (s : List Char) : Except NumberFormatException Int :=
  match Kotlin.toLongOrNull s with
  | some n => .ok n
  | none => .error ⟨s⟩

/-- `joinToString()`. -/
def joined (items : List String) : String := ", ".intercalate items

namespace ZeroDpiConfigToml

open ZeroDpiConfigSchema

/-- The largest values of the types. -/
def ubyteMax : Int := 255

/-- Likewise. -/
def ushortMax : Int := 65535

/-- Likewise. -/
def uintMax : Int := 4294967295

/-- `Long.MIN_VALUE`. -/
def longMin : Int := -9223372036854775808

/-- `Long.MAX_VALUE`. -/
def longMax : Int := 9223372036854775807

-- ========================================================== the fields' texts

/-- The fields that have been read so far. -/
structure ParsedFieldText where
  fieldText : String → Option (List Char)
  issues : List ConfigValidationIssue
  seen : List String

/-- What the editor shows for a raw value. -/
def rawTomlToDisplay (schema : ConfigFieldSchema) (rawValue : List Char) :
    Option (List Char) :=
  match schema.type with
  | .stringList => (parseTomlStringArray rawValue).map canonicalStringArray
  | .multiSelect =>
      if (Kotlin.trim rawValue).head? = some '[' then
        (parseTomlStringArray rawValue).map fun it =>
          canonicalMethodArray (it.flatMap expandMethodAlias)
      else if rawValue.head? = some '"' then
        (decodeTomlString rawValue).map fun it =>
          canonicalMethodArray (expandMethodAlias it)
      else none
  | .text | .optionalText | .enum | .packetSelector =>
      if rawValue.head? ≠ some '"' then none else decodeTomlString rawValue
  | .integerRange =>
      if rawValue.head? = some '"' then decodeTomlString rawValue
      else some rawValue
  | .boolean | .uint8 | .uint16 | .uint32 | .uint64 | .usize | .float =>
      some rawValue

/-- What is wrong with a line that assigns no field. -/
def unknownLine (lineIndex : Nat) (key : Option (List Char)) :
    ConfigValidationIssue :=
  match key.map String.ofList with
  | none => ⟨none, s!"Line {lineIndex + 1}: config.toml must use flat "
      ++ "KEY = value assignments."⟩
  | some key =>
      ⟨some key, s!"Line {lineIndex + 1}: unknown config field {key}."⟩

/-- One turn of `parseFieldText`. -/
def parseLine (parsed : ParsedFieldText) (lineIndex : Nat)
    (line : List Char) : ParsedFieldText :=
  let trimmedLine := Kotlin.trim line
  if trimmedLine.isEmpty || trimmedLine.head? = some '#' then parsed
  else
    match assignmentPattern line with
    | none =>
        { parsed with
          issues := parsed.issues
            ++ [unknownLine lineIndex (keyValuePattern line)] }
    | some fieldName =>
        match fieldsByName (String.ofList fieldName) with
        | none =>
            { parsed with
              issues := parsed.issues
                ++ [unknownLine lineIndex (some fieldName)] }
        | some schema =>
            let rawValue := Kotlin.trim
              (stripInlineComment (Kotlin.substringAfter '=' line))
            let repeated := if parsed.seen.contains schema.name then
                [⟨some schema.name, s!"{schema.name} is assigned more than "
                  ++ "once; TOML requires one value per key."⟩]
              else []
            let displayValue := rawTomlToDisplay schema rawValue
            let malformed := if displayValue.isNone then
                [⟨some schema.name, s!"Line {lineIndex + 1}: {schema.name} "
                  ++ s!"has invalid TOML syntax for {schema.type.label}."⟩]
              else []
            { fieldText := fun name =>
                if name = schema.name then some (displayValue.getD rawValue)
                else parsed.fieldText name
              issues := parsed.issues ++ repeated ++ malformed
              seen := schema.name :: parsed.seen }

/-- Line by line; a later assignment wins. -/
def parseLines (parsed : ParsedFieldText) :
    List (List Char × Nat) → ParsedFieldText
  | [] => parsed
  | (line, lineIndex) :: rest =>
      parseLines (parseLine parsed lineIndex line) rest

/-- The fields before any line is read. -/
def defaultFieldText : ParsedFieldText where
  fieldText := fun name => (fieldsByName name).map (·.defaultValue)
  issues := []
  seen := []

/-- `parseFieldText`: the lines, and the required fields that are missing.
-/
def parseFieldText (text : List Char) : ParsedFieldText :=
  let parsed := parseLines defaultFieldText (Kotlin.lineSequence text).zipIdx
  let missing := fields.filter fun schema =>
    schema.required && !parsed.seen.contains schema.name
  { parsed with
    issues := parsed.issues ++ missing.map fun schema => ⟨some schema.name,
      s!"{schema.name} is required by ZeroDPI config.toml."⟩ }

-- ========================================================= the fields' values

/-- The ends of a range; one number is both of them. -/
def rangeEnds (groups : List Char × Option (List Char)) :
    Except NumberFormatException (Int × Int) := do
  let start ← toLong groups.1
  match groups.2 with
  | some second => return (start, ← toLong second)
  | none => return (start, start)

/-- `tlshello`, or a range of packet numbers. -/
def validatePacketSelector (value : List Char) :
    Except NumberFormatException (Option String) :=
  let trimmed := Kotlin.trim value
  if trimmed = "tlshello".toList then .ok none
  else
    match packetRangePattern trimmed with
    | none => .ok (some
        "must be tlshello, a 1-based index, or a 1-based range.")
    | some groups => do
        let (start, stop) ← rangeEnds groups
        return if start < 1 then some "range start must be >= 1."
          else if stop < start then
            some "range end must not be lower than start."
          else none

/-- A number or a range, from the least value on. -/
def validateIntegerRange (value : List Char) (min : Int) :
    Except NumberFormatException (Option String) :=
  match integerRangePattern (Kotlin.trim value) with
  | none => .ok (some "must be an integer or inclusive range.")
  | some groups => do
      let (start, stop) ← rangeEnds groups
      return if start < min then some s!"minimum must be >= {min}."
        else if stop < start then
          some "range end must not be lower than start."
        else none

/-- A value, or an issue, or both. -/
structure ParsedConfigValue where
  value : Option ConfigValue
  issue : Option String
  deriving DecidableEq

namespace ParsedConfigValue

/-- A value without an issue. -/
def accepted (value : ConfigValue) : ParsedConfigValue := ⟨some value, none⟩

/-- An issue without a value. -/
def refused (issue : String) : ParsedConfigValue := ⟨none, some issue⟩

/-- A text that stays as it is, unless there is something wrong with it. -/
def ofIssue (text : List Char) : Option String → ParsedConfigValue
  | none => accepted (.text text)
  | some issue => refused issue

end ParsedConfigValue

open ParsedConfigValue

/-- An integer within the field's bounds. -/
def parseIntegerValue (schema : ConfigFieldSchema) (text : List Char)
    (min max : Int) : ParsedConfigValue :=
  let issue := s!"{schema.name} must be an integer from {min} through {max}."
  match Kotlin.toLongOrNull (Kotlin.trim text) with
  | none => refused issue
  | some value =>
      if value < min ∨ max < value then refused issue
      else accepted (.integer value)

/-- An array of names that are known. -/
def parseMethods (schema : ConfigFieldSchema) (text : List Char) :
    ParsedConfigValue :=
  match parseTomlStringArray text with
  | none => refused s!"{schema.name} must be a TOML array of method names."
  | some methods =>
      let names := methods.map String.ofList
      let invalid := names.filter fun it => !schema.options.contains it
      let duplicates := names.eraseDups.filter fun it => 1 < names.count it
      if methods.isEmpty then refused s!"{schema.name} must not be empty."
      else if !invalid.isEmpty then
        refused s!"{schema.name} has unknown method(s): {joined invalid}."
      else if !duplicates.isEmpty then
        refused s!"{schema.name} has duplicate method(s): {joined duplicates}."
      else accepted (.text (canonicalMethodArray methods))

/-- `true` or `false`, in any case. -/
def parseBoolean (schema : ConfigFieldSchema) (text : List Char) :
    ParsedConfigValue :=
  let word := Text.toAsciiLowercase (Kotlin.trim text)
  if word = "true".toList then accepted (.boolean true)
  else if word = "false".toList then accepted (.boolean false)
  else refused s!"{schema.name} must be true or false."

/-- A finite number. -/
def parseFloat (schema : ConfigFieldSchema) (text : List Char) :
    ParsedConfigValue :=
  let issue := s!"{schema.name} must be a finite number."
  match Kotlin.toDoubleOrNull (Kotlin.trim text) with
  | none => refused issue
  | some value =>
      if value.isFinite then accepted (.float value) else refused issue

/-- `parseValue`, by the field's type. -/
def parseValue (schema : ConfigFieldSchema) (text : List Char) :
    Except NumberFormatException ParsedConfigValue :=
  match schema.type with
  | .stringList =>
      match parseTomlStringArray text with
      | none => .ok (refused s!"{schema.name} must be a TOML array of strings.")
      | some items => .ok (accepted (.text (canonicalStringArray items)))
  | .text | .optionalText => .ok (accepted (.text text))
  | .enum =>
      if schema.options.contains (String.ofList text) then
        .ok (accepted (.text text))
      else .ok (refused
        s!"{schema.name} must be one of {joined schema.options}.")
  | .packetSelector => (validatePacketSelector text).map (ofIssue text)
  | .integerRange => (validateIntegerRange text longMin).map (ofIssue text)
  | .multiSelect => .ok (parseMethods schema text)
  | .boolean => .ok (parseBoolean schema text)
  | .uint8 => .ok (parseIntegerValue schema text 0 ubyteMax)
  | .uint16 => .ok (parseIntegerValue schema text 0 ushortMax)
  | .uint32 => .ok (parseIntegerValue schema text 0 uintMax)
  | .uint64 | .usize => .ok (parseIntegerValue schema text 0 longMax)
  | .float => .ok (parseFloat schema text)

/-- The default, parsed like any other value. -/
def defaultValueFor (schema : ConfigFieldSchema) :
    Except NumberFormatException ConfigValue := do
  let parsed ← parseValue schema schema.defaultValue
  return parsed.value.getD (.text schema.defaultValue)

-- =================================================================== editing

/-- The pattern `-?\d+`. -/
def isPlainInteger (text : List Char) : Bool :=
  match numeralBefore true text with
  | some (_, rest) => rest.isEmpty
  | none => false

/-- How a value is written. -/
def toTomlLiteral (schema : ConfigFieldSchema) (value : List Char) :
    List Char :=
  match schema.type with
  | .multiSelect | .stringList => Kotlin.trim value
  | .text | .optionalText | .enum | .packetSelector => quoteToml value
  | .integerRange =>
      if isPlainInteger (Kotlin.trim value) then Kotlin.trim value
      else quoteToml value
  | .boolean | .uint8 | .uint16 | .uint32 | .uint64 | .usize | .float =>
      if (Kotlin.trim value).isEmpty then ['"', '"'] else Kotlin.trim value

/-- `fieldName = replacementValue`, and a comment behind it. -/
def assignment (fieldName : String) (replacementValue comment : List Char) :
    List Char :=
  fieldName.toList ++ " = ".toList ++ replacementValue
    ++ if Kotlin.isBlank comment then [] else ' ' :: comment

/-- The loop of `replaceOrAppendField`: the lines with the first assignment
replaced, if there is one. -/
def replaceField (fieldName : String) (replacementValue : List Char) :
    List (List Char) → Option (List (List Char))
  | [] => none
  | line :: rest =>
      if (assignmentPattern line).map String.ofList = some fieldName then
        let comment := trailingComment (Kotlin.substringAfter '=' line)
        some (assignment fieldName replacementValue comment :: rest)
      else (replaceField fieldName replacementValue rest).map (line :: ·)

/-- A new line at the end, behind a blank one. -/
def appendField (fieldName : String) (replacementValue : List Char)
    (lines : List (List Char)) : List (List Char) :=
  let blank := match lines.getLast? with
    | some line => if line.isEmpty then [] else [[]]
    | none => []
  lines ++ blank ++ [assignment fieldName replacementValue []]

/-- `replaceOrAppendField`: an edit of one field. -/
def replaceOrAppendField (text : List Char) (fieldName : String)
    (value : List Char) : List Char :=
  match fieldsByName fieldName with
  | none => text
  | some schema =>
      let replacementValue := toTomlLiteral schema value
      let lines := Text.split '\n' text
      let edited := (replaceField fieldName replacementValue lines).getD
        (appendField fieldName replacementValue lines)
      ['\n'].intercalate edited

end ZeroDpiConfigToml

end ZeroDpi.Android
