/-
The analysis of a configuration in the Android app: `analyze` of
`ZeroDpiConfigToml` (config/ZeroDpiConfig.kt), with the checks that the engine
makes (`addRustValidationIssues`) and what the mode asks of the device.

Nothing between `String.toLong` and `analyze` catches what it throws.
-/
import ZeroDpi.Android.ConfigToml
import ZeroDpi.Android.ListValidator

namespace ZeroDpi.Android

open Lib

/-- Whether the config needs root, and what to say about it. -/
structure RootRequirementInfo where
  requiresRoot : Bool
  message : String
  alternatives : List String
  deriving DecidableEq

/-- What the editor shows of a text. -/
structure ConfigEditorState where
  config : ZeroDpiConfig
  fieldText : String → Option (List Char)
  issues : List ConfigValidationIssue
  rootRequirement : RootRequirementInfo

namespace ConfigEditorState

/-- The text of a field, empty if there is none. -/
def valueFor (state : ConfigEditorState) (fieldName : String) : List Char :=
  (state.fieldText fieldName).getD []

end ConfigEditorState

/-- An index, or one of the words; else what is wrong with it. -/
def validateSniPosition (value : List Char) (allowedWords : List String) :
    Option String :=
  let trimmed := Kotlin.trim value
  if allowedWords.contains (String.ofList trimmed) then none
  else if ((Kotlin.toLongOrNull trimmed).map fun n => decide (0 ≤ n))
      = some true then none
  else
    let words := ", ".intercalate allowedWords
    some s!"must be one of {words} or a non-negative index."

namespace ZeroDpiConfigToml

open ZeroDpiConfigSchema

/-- The longest name a ClientHello has room for. -/
def maxSniLenBytes : Nat := 219

/-- `Int.MAX_VALUE`. -/
def intMax : Int := 2147483647

-- ============================================== the checks of the engine

/-- Issues, unless a conversion throws. -/
abbrev Checks := Except NumberFormatException (List ConfigValidationIssue)

/-- One check after the other. -/
def inOrder : List Checks → Checks
  | [] => .ok []
  | check :: rest => do
      let found ← check
      let later ← inOrder rest
      return found ++ later

/-- One issue, if the condition fails. -/
def requireField (fieldName : String) (condition : Bool) (message : String) :
    List ConfigValidationIssue :=
  if condition then [] else [⟨some fieldName, message⟩]

/-- The combinations of methods that the core refuses, in its order. -/
def validateMethodCombination (methods : List String) : Option String :=
  let has (name : String) := methods.contains name
  let only (names : List String) := methods.all names.contains
  let shapers := ["ip_frag", "disorder", "seqovl"].filter has
  if has "tls_record_split" && has "sni_boundary_frag" then
    some ("BYPASS_METHOD \"tls_record_split\" cannot be combined with "
      ++ "\"sni_boundary_frag\".")
  else if has "urg_sni_split" && 1 < methods.length
      && !only ["urg_sni_split", "tls_frag"] then
    some ("BYPASS_METHOD \"urg_sni_split\" can only be combined with "
      ++ "\"tls_frag\".")
  else if has "sni_boundary_frag" && 1 < methods.length
      && (has "tls_record_frag" || has "urg_sni_split") then
    some ("BYPASS_METHOD \"sni_boundary_frag\" cannot be combined with "
      ++ "\"tls_record_frag\" or \"urg_sni_split\".")
  else if has "seqovl" && has "sni_boundary_frag" then
    some ("BYPASS_METHOD \"seqovl\" cannot be combined with "
      ++ "\"sni_boundary_frag\".")
  else if 1 < shapers.length then
    some ("BYPASS_METHOD may contain at most one of \"ip_frag\", "
      ++ "\"disorder\", \"seqovl\" (each decides how the first data packet "
      ++ "is emitted).")
  else if has "urg_sni_split" && (has "tls_record_frag" || !shapers.isEmpty)
  then
    some ("BYPASS_METHOD \"urg_sni_split\" cannot be chained with "
      ++ "\"tls_record_frag\" or an emission shaper.")
  else none

/-- What a literal is. -/
inductive IpKind where
  | ipv4
  | ipv6
  deriving DecidableEq

/-- The list validator's own check. -/
def isValidIpv4 (value : List Char) : Bool :=
  RuntimeListValidator.isValidIpv4Literal value

/-- Only characters an IPv6 address can have, so that no name is resolved.
-/
def isLikelyIpv6Literal (value : List Char) : Bool :=
  value.contains ':' && value.all fun c =>
    Kotlin.isDigit c || ('a' ≤ c.toLower && c.toLower ≤ 'f') || c = ':'
      || c = '.'

/-- `parseIpKind`; `none` is no address. -/
def parseIpKind (value : List Char) : Option IpKind :=
  if isValidIpv4 value then some .ipv4
  else if isLikelyIpv6Literal value then
    if RuntimeListValidator.isInet6Address value then some .ipv6 else none
  else none

/-- A port in `1..65535`. -/
def isPort (text : List Char) : Bool :=
  match Kotlin.toIntOrNull text with
  | some port => 1 ≤ port && port ≤ 65535
  | none => false

/-- An address with an optional port, IPv6 in brackets where it has one. -/
def isValidCustomDnsServer (rawValue : List Char) : Bool :=
  let value := Kotlin.trim rawValue
  if value.isEmpty then false
  else if value.head? = some '[' then
    let closeBracket := value.idxOf ']'
    if value.length ≤ closeBracket || closeBracket ≤ 1
        || closeBracket = value.length - 1 then false
    else
      let ip := (value.take closeBracket).drop 1
      let portText := value.drop (closeBracket + 1)
      portText.head? = some ':' && isPort (portText.drop 1)
        && parseIpKind ip = some .ipv6
  else if (parseIpKind value).isSome then true
  else if value.count ':' ≠ 1 || value.head? = some ':' then false
  else
    parseIpKind (Kotlin.substringBefore ':' value) = some .ipv4
      && isPort (Kotlin.substringAfter ':' value)

/-- The pattern `^(0x)?[0-9a-fA-F]{4}$`. -/
def isRecordVersion (text : List Char) : Bool :=
  let digits := match text with
    | '0' :: 'x' :: rest => rest
    | digits => digits
  digits.length = 4 && digits.all Kotlin.isHexadecimal

section

variable (config : ZeroDpiConfig) (invalidFields : List String)

/-- Fields with an issue of their own are not checked further. -/
def whenValid (fieldName : String) (validate : Checks) : Checks :=
  if invalidFields.contains fieldName then .ok [] else validate

/-- `requireField` about the value of an integer field, when it is valid. -/
def requireInteger (fieldName : String) (condition : Int → Bool)
    (message : String) : Checks :=
  whenValid invalidFields fieldName
    (.ok (requireField fieldName (condition (config.integer fieldName))
      message))

/-- `validateIntegerRange` of a field, as an issue. -/
def rangeIssue (fieldName : String) (text : List Char) (min : Int) :
    Checks := do
  match ← validateIntegerRange text min with
  | none => return []
  | some it => return [⟨some fieldName, s!"{fieldName} {it}"⟩]

/-- A range of numbers with a least start. -/
def requireRange (fieldName : String) (min : Int) : Checks :=
  whenValid invalidFields fieldName
    (rangeIssue fieldName (config.text fieldName) min)

/-- The servers are checked one by one, when they are in use. -/
def customDnsIssues : List ConfigValidationIssue :=
  if !invalidFields.contains "CUSTOM_DNS_ENABLED"
      && config.boolean "CUSTOM_DNS_ENABLED"
      && !invalidFields.contains "CUSTOM_DNS_SERVERS" then
    let servers := (parseTomlStringArray
      (config.text "CUSTOM_DNS_SERVERS")).getD []
    requireField "CUSTOM_DNS_SERVERS" (!servers.isEmpty)
        "CUSTOM_DNS_SERVERS must not be empty when CUSTOM_DNS_ENABLED is true."
      ++ servers.zipIdx.flatMap fun (server, index) =>
          requireField "CUSTOM_DNS_SERVERS" (isValidCustomDnsServer server)
            (s!"CUSTOM_DNS_SERVERS[{index}] must be a literal IP address "
              ++ "with an optional non-zero port.")
  else []

/-- The path goes into a request line. -/
def uploadPathIssues : List ConfigValidationIssue :=
  let path := config.text "SCAN_UPLOAD_PATH"
  requireField "SCAN_UPLOAD_PATH"
    (!path.isEmpty && path.head? = some '/' && !path.contains '\r'
      && !path.contains '\n')
    ("SCAN_UPLOAD_PATH must be non-empty, start with '/', and contain "
      ++ "no CR/LF.")

/-- The core reads an `i32`. -/
def segSizeIssues : List ConfigValidationIssue :=
  let size := config.integer "TCP_SEG_SIZE"
  requireField "TCP_SEG_SIZE" (1 ≤ size) "TCP_SEG_SIZE must be >= 1."
    ++ requireField "TCP_SEG_SIZE" (size ≤ intMax)
      "TCP_SEG_SIZE must be <= i32::MAX."

/-- The methods that keep the real SNI. -/
def ipBypassPlusMethods : List String :=
  ["tls_record_frag", "tls_record_split", "tls_frag", "tls_padding",
    "mixed_case_sni", "sni_boundary_frag", "ccs_prefix", "ip_frag",
    "disorder", "seqovl"]

/-- The methods that this mode refuses. -/
def ipBypassPlusIssues : List ConfigValidationIssue :=
  let rejected := (config.methodList "BYPASS_METHOD").filter fun it =>
    !ipBypassPlusMethods.contains it
  if !invalidFields.contains "MODE" && !invalidFields.contains "BYPASS_METHOD"
      && config.text "MODE" = "ip_bypass_plus".toList && !rejected.isEmpty then
    [⟨some "BYPASS_METHOD", "MODE = \"ip_bypass_plus\" does not support: "
      ++ s!"{joined rejected} (real-SNI-preserving methods only)."⟩]
  else []

/-- `FAKE_TLS_FORWARD_REAL` is a boolean, and has no text to be compared. -/
def bypassMethodIssues : List ConfigValidationIssue :=
  let methods := config.methodList "BYPASS_METHOD"
  let has (name : String) := methods.contains name
  let chainedFakeTls := has "fake_tls" && (has "tls_record_frag"
    || ["ip_frag", "disorder", "seqovl"].any has)
  (match validateMethodCombination methods with
    | some it => [⟨some "BYPASS_METHOD", it⟩]
    | none => [])
  ++ requireField "FAKE_TLS_FORWARD_REAL"
      (!(chainedFakeTls
        && config.text "FAKE_TLS_FORWARD_REAL" = "false".toList))
      ("FAKE_TLS_FORWARD_REAL must be true when \"fake_tls\" is chained with "
        ++ "another data-stage method.")

/-- Both ends of the delay. -/
def chainDelayChecks : Checks := do
  let text := Kotlin.trim (config.text "FAKE_TLS_CHAIN_DELAY_MS")
  let issues ← rangeIssue "FAKE_TLS_CHAIN_DELAY_MS" text 0
  match integerRangePattern text with
  | none => return issues
  | some (first, second) =>
      let ends := [Kotlin.toLongOrNull first,
        second.bind Kotlin.toLongOrNull].filterMap id
      return issues ++ requireField "FAKE_TLS_CHAIN_DELAY_MS"
        (ends.all fun it => it ≤ 100)
        "FAKE_TLS_CHAIN_DELAY_MS must be <= 100."

/-- Fragments are cut in units of eight bytes. -/
def ipFragSizeIssues : List ConfigValidationIssue :=
  let size := config.integer "IP_FRAG_SIZE"
  requireField "IP_FRAG_SIZE" (8 ≤ size) "IP_FRAG_SIZE must be >= 8."
    ++ requireField "IP_FRAG_SIZE" (size % 8 = 0)
      "IP_FRAG_SIZE must be a multiple of 8."

/-- Empty is the default. -/
def seqovlSizeIssues : List ConfigValidationIssue :=
  let text := Kotlin.trim (config.text "SEQOVL_SIZE")
  if text.isEmpty then []
  else
    match Kotlin.toLongOrNull text with
    | none => [⟨some "SEQOVL_SIZE", "SEQOVL_SIZE must be an integer."⟩]
    | some size => requireField "SEQOVL_SIZE" (size ≤ 1024)
        "SEQOVL_SIZE must be <= 1024."

/-- `removePrefix`. -/
def removePrefix (front s : List Char) : List Char :=
  (Text.stripPrefix front s).getD s

/-- Hexadecimal digits, with separators between them. -/
def seqovlPatternIssues : List ConfigValidationIssue :=
  let text := Kotlin.trim (config.text "SEQOVL_PATTERN")
  if text.isEmpty then []
  else
    let digits := removePrefix "0X".toList (removePrefix "0x".toList text)
    let digits := digits.filter fun it => !(":-_ ".toList.contains it)
    requireField "SEQOVL_PATTERN"
      (!digits.isEmpty && Kotlin.length digits % 2 = 0
        && digits.all fun it => Kotlin.isDigit it || Kotlin.isHexadecimal it)
      "SEQOVL_PATTERN must be an even number of hex digits."

/-- `toLong` throws where the end is no `Long`. -/
def paddingSizeChecks : Checks := do
  let text := config.text "TLS_PADDING_SIZE"
  let issues ← rangeIssue "TLS_PADDING_SIZE" text 1
  match integerRangePattern (Kotlin.trim text) with
  | none => return issues
  | some (first, second) =>
      let stop ← toLong (second.getD first)
      return issues ++ requireField "TLS_PADDING_SIZE" (stop ≤ 16000)
        "TLS_PADDING_SIZE maximum must be <= 16000."

/-- `validateSniPosition` of a field, as an issue. -/
def positionIssues (fieldName : String) (allowedWords : List String) :
    List ConfigValidationIssue :=
  match validateSniPosition (config.text fieldName) allowedWords with
  | none => []
  | some it => [⟨some fieldName, s!"{fieldName} {it}"⟩]

/-- An address, and the right family for the mode. -/
def selectedIpIssues : List ConfigValidationIssue :=
  let selectedIp := Kotlin.trim (config.text "SELECTED_IP")
  if selectedIp.isEmpty then []
  else
    match parseIpKind selectedIp with
    | none => [⟨some "SELECTED_IP", s!"SELECTED_IP '"
        ++ s!"{String.ofList selectedIp}' is not a valid IP address."⟩]
    | some ipKind =>
        if !invalidFields.contains "MODE"
            && config.text "MODE" = "ip_bypass_plus".toList
            && ipKind = .ipv6 then
          [⟨some "SELECTED_IP", "MODE = \"ip_bypass_plus\" is IPv4-only; "
            ++ "SELECTED_IP is IPv6."⟩]
        else []

/-- The checks of `addRustValidationIssues`, in its order. -/
def rustValidationChecks : List Checks :=
  let valid (fieldName : String) (issues : List ConfigValidationIssue) :=
    whenValid invalidFields fieldName (.ok issues)
  let integer := requireInteger config invalidFields
  let range := requireRange config invalidFields
  let decimal (fieldName : String) := valid fieldName
    (requireField fieldName ((config.decimal fieldName).isFinite
        && (config.decimal fieldName).isPositive)
      s!"{fieldName} must be finite and > 0.")
  [ .ok (customDnsIssues config invalidFields),
    integer "SCAN_TIMEOUT_SECS" (0 < ·) "SCAN_TIMEOUT_SECS must be > 0.",
    integer "BYPASS_TIMEOUT_SECS" (0 < ·) "BYPASS_TIMEOUT_SECS must be > 0.",
    integer "SNI_SWITCH_MIN_SCORE" (· ≤ 100)
      "SNI_SWITCH_MIN_SCORE must be <= 100.",
    integer "SCAN_DOWNLOAD_CAP" (0 < ·) "SCAN_DOWNLOAD_CAP must be > 0.",
    integer "SCAN_UPLOAD_CAP" (0 < ·) "SCAN_UPLOAD_CAP must be > 0.",
    valid "SCAN_UPLOAD_PATH" (uploadPathIssues config),
    decimal "SPEED_CAP_BPS",
    decimal "UPLOAD_SPEED_CAP_BPS",
    valid "SELECTED_SNI" (requireField "SELECTED_SNI"
      ((String.ofList (config.text "SELECTED_SNI")).utf8ByteSize
        ≤ maxSniLenBytes)
      s!"SELECTED_SNI must not exceed {maxSniLenBytes} UTF-8 bytes."),
    integer "WRONG_CHECKSUM_DELTA" (1 ≤ ·)
      "WRONG_CHECKSUM_DELTA must be >= 1.",
    integer "WRONG_ACK_OFFSET" (1 ≤ ·) "WRONG_ACK_OFFSET must be >= 1.",
    integer "WRONG_TIMESTAMP_OFFSET" (1 ≤ ·)
      "WRONG_TIMESTAMP_OFFSET must be >= 1.",
    integer "TLS_RECORD_FRAG_SIZE" (1 ≤ ·)
      "TLS_RECORD_FRAG_SIZE must be >= 1.",
    valid "TCP_SEG_SIZE" (segSizeIssues config),
    range "TLS_FRAG_LENGTH" 1,
    range "TLS_FRAG_INTERVAL_MS" 0,
    .ok (ipBypassPlusIssues config invalidFields),
    valid "BYPASS_METHOD" (bypassMethodIssues config),
    integer "FAKE_TLS_REPEATS" (fun it => 1 ≤ it && it ≤ 8)
      "FAKE_TLS_REPEATS must be between 1 and 8.",
    whenValid invalidFields "FAKE_TLS_CHAIN_DELAY_MS"
      (chainDelayChecks config),
    valid "METHOD_SCAN_METHODS" (requireField "METHOD_SCAN_METHODS"
      (!(config.methodList "METHOD_SCAN_METHODS").isEmpty)
      "METHOD_SCAN_METHODS must not be empty."),
    integer "METHOD_SCAN_SAMPLES" (1 ≤ ·)
      "METHOD_SCAN_SAMPLES must be >= 1.",
    integer "METHOD_SCAN_TIMEOUT_SECS" (0 < ·)
      "METHOD_SCAN_TIMEOUT_SECS must be > 0.",
    integer "LOW_TTL_VALUE" (fun it => 1 ≤ it && it ≤ 64)
      "LOW_TTL_VALUE must be from 1 through 64.",
    integer "LOW_TTL_DISCOVER_MAX" (fun it => 1 ≤ it && it ≤ 64)
      "LOW_TTL_DISCOVER_MAX must be from 1 through 64.",
    integer "LOW_TTL_DISCOVER_TIMEOUT_MS" (100 ≤ ·)
      "LOW_TTL_DISCOVER_TIMEOUT_MS must be >= 100.",
    valid "IP_FRAG_SIZE" (ipFragSizeIssues config),
    integer "DISORDER_SEGMENTS" (fun it => it = 2 || it = 3)
      "DISORDER_SEGMENTS must be 2 or 3.",
    integer "DISORDER_DELAY_MS" (· ≤ 1000)
      "DISORDER_DELAY_MS must be <= 1000.",
    valid "SEQOVL_SIZE" (seqovlSizeIssues config),
    valid "SEQOVL_PATTERN" (seqovlPatternIssues config),
    integer "SEQOVL_SEGMENTS" (fun it => it = 2 || it = 3)
      "SEQOVL_SEGMENTS must be 2 or 3.",
    integer "SEQOVL_DELAY_MS" (· ≤ 1000)
      "SEQOVL_DELAY_MS must be <= 1000.",
    range "TLS_RECORD_SPLIT_DELAY_MS" 0,
    whenValid invalidFields "TLS_PADDING_SIZE" (paddingSizeChecks config),
    valid "TLS_PADDING_POSITION" (requireField "TLS_PADDING_POSITION"
      (["before", "after"].contains
        (String.ofList (config.text "TLS_PADDING_POSITION")))
      "TLS_PADDING_POSITION must be \"before\" or \"after\"."),
    valid "CCS_PREFIX_RECORD_VERSION" (requireField "CCS_PREFIX_RECORD_VERSION"
      (isRecordVersion (Kotlin.trim (config.text "CCS_PREFIX_RECORD_VERSION")))
      ("CCS_PREFIX_RECORD_VERSION must be two hex bytes "
        ++ "(e.g. \"0x0303\").")),
    valid "SNI_SPLIT_POSITION" (positionIssues config "SNI_SPLIT_POSITION"
      ["middle", "start", "end"]),
    valid "SNI_BOUNDARY_FRAG_SPLIT_POINT" (positionIssues config
      "SNI_BOUNDARY_FRAG_SPLIT_POINT" ["extension_length", "middle"]),
    range "SNI_BOUNDARY_FRAG_DELAY_MS" 0,
    valid "PROXY_TEST_SNI_WEIGHT" (requireField "PROXY_TEST_SNI_WEIGHT"
      (config.decimal "PROXY_TEST_SNI_WEIGHT").inUnitInterval
      "PROXY_TEST_SNI_WEIGHT must be in [0.0, 1.0]."),
    integer "PROXY_TEST_TIMEOUT_SECS" (0 < ·)
      "PROXY_TEST_TIMEOUT_SECS must be > 0.",
    valid "SELECTED_IP" (selectedIpIssues config invalidFields) ]

/-- The issues it adds. -/
def addRustValidationIssues : Checks :=
  inOrder (rustValidationChecks config invalidFields)

end

-- ============================================================== the analysis

/-- Methods that need no packet interception. -/
def socketOnlyMethods : List String :=
  ["tls_frag", "ccs_prefix", "tls_padding", "mixed_case_sni",
    "sni_boundary_frag", "tls_record_split"]

/-- A mode with a bypass, and a method that is not on the socket. -/
def requiresPacketInterception (mode : String)
    (bypassMethods : List String) : Bool :=
  ["sni_spoof", "proxy_scan", "ip_bypass_plus", "sni_method_scan",
      "ip_method_scan"].contains mode
    && bypassMethods.any fun it => !socketOnlyMethods.contains it

/-- `rootRequirementFor`. Issues of the fields it reads leave it undecided.
-/
def rootRequirementFor (config : ZeroDpiConfig)
    (issues : List ConfigValidationIssue) : RootRequirementInfo :=
  let undecided := issues.any fun it => it.fieldName = some "MODE"
    || it.fieldName = some "BYPASS_METHOD"
    || it.fieldName = some "METHOD_SCAN_METHODS"
  if undecided then
    { requiresRoot := false
      message := "Fix MODE and bypass-method fields before root impact can "
        ++ "be determined."
      alternatives := [] }
  else
    let mode := String.ofList (config.text "MODE")
    let methods := if methodScanModes.contains mode then
        config.methodList "METHOD_SCAN_METHODS"
      else config.methodList "BYPASS_METHOD"
    let named := " + ".intercalate methods
    if requiresPacketInterception mode methods then
      { requiresRoot := true
        message := s!"MODE = \"{mode}\" with method(s) {named} "
          ++ "uses Android/Linux packet interception and will require root "
          ++ "through su."
        alternatives := ["MODE = \"ip_bypass\"", "MODE = \"sni_scan\"",
          "MODE = \"ip_scan\"", "Socket-only methods only: tls_frag, "
            ++ "ccs_prefix, tls_padding, mixed_case_sni, sni_boundary_frag"] }
    else
      { requiresRoot := false
        message := "This MODE/method combination is rootless for the Android "
          ++ "app."
        alternatives := [] }

/-- What `analyze` gathers about the fields. -/
structure Analysis where
  issues : List ConfigValidationIssue
  invalidFields : List String
  values : String → Option ConfigValue

/-- One turn of `analyze`. -/
def analyzeField (fieldText : String → Option (List Char))
    (analysis : Analysis) (schema : ConfigFieldSchema) :
    Except NumberFormatException Analysis := do
  let valueText := (fieldText schema.name).getD schema.defaultValue
  let parsed ← parseValue schema valueText
  let value ← match parsed.value with
    | some value => pure value
    | none => defaultValueFor schema
  let values := fun name =>
    if name = schema.name then some value else analysis.values name
  match parsed.issue with
  | some issue =>
      return { issues := analysis.issues ++ [⟨some schema.name, issue⟩]
               invalidFields := schema.name :: analysis.invalidFields
               values := values }
  | none => return { analysis with values := values }

/-- The fields of the schema, in its order. -/
def analyzeFields (fieldText : String → Option (List Char))
    (analysis : Analysis) :
    List ConfigFieldSchema → Except NumberFormatException Analysis
  | [] => .ok analysis
  | schema :: rest => do
      let analysis ← analyzeField fieldText analysis schema
      analyzeFields fieldText analysis rest

/-- `analyze`: the text, its values, and all issues. -/
def analyze (text : List Char) :
    Except NumberFormatException ConfigEditorState := do
  let parsedText := parseFieldText text
  let analysis ← analyzeFields parsedText.fieldText
    { issues := parsedText.issues
      invalidFields := parsedText.issues.filterMap (·.fieldName)
      values := fun _ => none } fields
  let config : ZeroDpiConfig := ⟨analysis.values⟩
  let found ← addRustValidationIssues config analysis.invalidFields
  let issues := analysis.issues ++ found
  return { config := config
           fieldText := parsedText.fieldText
           issues := issues
           rootRequirement := rootRequirementFor config issues }

end ZeroDpiConfigToml

end ZeroDpi.Android
