/-
The lists that the Android app accepts (list/RuntimeListValidator.kt).

`IDN.toASCII` is given.

# IPv6 literals

`InetAddress.getByName` reads the text forms of RFC 2373, also in brackets:
pieces of one to four hexadecimal digits, one `::` for pieces of zero, and at
the end possibly an IPv4 address, whose parts are `1*3DIGIT` there. It answers
with an `Inet6Address` unless the address is an IPv4 one mapped into IPv6.
-/
import ZeroDpi.Lib.Kotlin
import ZeroDpi.IpList
import ZeroDpi.Android.ProfileRepository

namespace ZeroDpi.Android.RuntimeListValidator

open Lib IpList

/-- A line, and what is wrong with it. -/
structure RuntimeListIssue where
  lineNumber : Nat
  entry : List Char
  message : String
  deriving DecidableEq

/-- What the editor shows for a list. -/
structure RuntimeListValidation where
  kind : RuntimeFileKind
  activeEntries : Nat
  issues : List RuntimeListIssue
  warnings : List String
  deriving DecidableEq

/-- Warnings do not count. -/
def RuntimeListValidation.isValid (v : RuntimeListValidation) : Bool :=
  v.issues.isEmpty

-- ============================================================== the entries

/-- A line that is neither blank nor a comment. -/
def activeEntry (line : List Char) : Option (List Char) :=
  let trimmed := Kotlin.trim line
  if !trimmed.isEmpty && trimmed.head? ≠ some '#' then some trimmed else none

/-- Four octets, leading zeros included. -/
def isValidIpv4Literal (value : List Char) : Bool :=
  let parts := Text.split '.' value
  parts.length = 4 && parts.all fun part =>
    !part.isEmpty && part.all Kotlin.isDigit
      && (match Kotlin.toIntOrNull part with
        | some n => decide (0 ≤ n ∧ n ≤ 255)
        | none => false)

/-- A literal without its brackets, if it has them. -/
def unbracket (value : List Char) : List Char :=
  match value with
  | '[' :: rest => if rest.getLast? = some ']' then rest.dropLast else value
  | _ => value

/-- A piece of one to four hexadecimal digits. -/
def hex4? (piece : List Char) : Option Nat :=
  if piece.isEmpty || 4 < piece.length then none
  else (piece.mapM Text.hexDigit?).map fun digits =>
    digits.foldl (fun n d => n * 16 + d) 0

/-- `1*3DIGIT`: leading zeros are no matter. -/
def decimalOctet? (part : List Char) : Option Nat :=
  if 3 < part.length then none
  else (Text.digits? part).filter (· ≤ 255)

/-- An IPv4 address in an IPv6 literal, as the two pieces it stands for. -/
def embeddedIpv4? (value : List Char) : Option (List Nat) :=
  match (Text.split '.' value).mapM decimalOctet? with
  | some [a, b, c, d] => some [a * 256 + b, c * 256 + d]
  | _ => none

/-- Pieces, which may be none at all. -/
def hexPieces? (value : List Char) : Option (List Nat) :=
  if value.isEmpty then some []
  else (Text.split ':' value).mapM hex4?

/-- Pieces, the last of which may be an IPv4 address. -/
def closingPieces? (value : List Char) : Option (List Nat) :=
  if value.isEmpty then some []
  else do
    let pieces := Text.split ':' value
    let front ← pieces.dropLast.mapM hex4?
    let last := pieces.getLastD []
    let back ← ((hex4? last).map fun n => [n]).or (embeddedIpv4? last)
    return front ++ back

/-- The text on both sides of the `::`. -/
def compression : List Char → Option (List Char × List Char)
  | [] => none
  | c :: rest =>
      if c = ':' ∧ rest.head? = some ':' then some ([], rest.tail)
      else (compression rest).map fun (front, back) => (c :: front, back)

/-- The eight pieces of a literal without brackets. -/
def ipv6Pieces? (value : List Char) : Option (List Nat) :=
  match compression value with
  | none => (closingPieces? value).filter (·.length = 8)
  | some (front, back) => do
      let before ← hexPieces? front
      let after ← closingPieces? back
      if before.length + after.length < 8 then
        some (before
          ++ List.replicate (8 - before.length - after.length) 0 ++ after)
      else none

/-- `::ffff:a.b.c.d`. -/
def isMapped (pieces : List Nat) : Bool :=
  pieces.take 6 = [0, 0, 0, 0, 0, 0xFFFF]

/-- `InetAddress.getByName(value) is Inet6Address`, for a value with a
colon. -/
def isInet6Address (value : List Char) : Bool :=
  match ipv6Pieces? (unbracket value) with
  | some pieces => !isMapped pieces
  | none => false

/-- An address without a zone. -/
def isValidIpv6Literal (value : List Char) : Bool :=
  if !(value.contains ':') || value.contains '%' then false
  else isInet6Address value

/-- The largest prefix lengths. -/
def ipv4PrefixBits : Int := 32

/-- Likewise. -/
def ipv6PrefixBits : Int := 128

/-- What is wrong with an entry of an IP list. -/
def validateIpOrCidr (entry : List Char) : Option String :=
  if entry.any Kotlin.isWhitespace then
    some "Entries cannot contain whitespace."
  else if entry.count '/' = 0 then
    if isValidIpv4Literal entry || isValidIpv6Literal entry then none
    else some "Enter a valid IPv4 address, IPv6 address, or CIDR range."
  else if entry.count '/' > 1 then
    some "CIDR entries must contain only one '/'."
  else
    let address := Kotlin.substringBefore '/' entry
    match Kotlin.toIntOrNull (Kotlin.substringAfter '/' entry) with
    | none => some "CIDR prefix must be a number."
    | some bits =>
        if isValidIpv4Literal address then
          if 0 ≤ bits ∧ bits ≤ ipv4PrefixBits then none
          else some "IPv4 CIDR prefix must be between 0 and 32."
        else if isValidIpv6Literal address then
          if 0 ≤ bits ∧ bits ≤ ipv6PrefixBits then none
          else some "IPv6 CIDR prefix must be between 0 and 128."
        else some "CIDR address must be a valid IPv4 or IPv6 literal."

/-- Of the whole name. -/
def maxHostnameLength : Nat := 253

/-- Of each label. -/
def maxHostnameLabelLength : Nat := 63

/-- `HOSTNAME_LABEL_REGEX`. -/
def matchesLabel (label : List Char) : Bool :=
  label.all (fun c => Kotlin.isAsciiAlnum c || c = '-')
    && (label.head?.map Kotlin.isAsciiAlnum).getD false
    && (label.getLast?.map Kotlin.isAsciiAlnum).getD false
    && label.length ≤ 63

/-- What is wrong with a label. -/
def labelIssue (label : List Char) : Option String :=
  let length := Kotlin.length label
  if length < 1 || length > maxHostnameLabelLength then
    some "Each hostname label must be 1 to 63 characters."
  else if !matchesLabel label then
    some ("Hostname labels must use letters, digits, and hyphens, "
      ++ "and cannot start or end with a hyphen.")
  else none

/-- `IDN.toASCII(entry, USE_STD3_ASCII_RULES)`, where it does not throw. -/
abbrev ToAscii := List Char → Option (List Char)

/-- What is wrong with an entry of a list of names. -/
def validateHostname (toAscii : ToAscii) (entry : List Char) :
    Option String :=
  if entry.any Kotlin.isWhitespace then
    some "Hostnames cannot contain whitespace."
  else if entry.contains '/' || entry.contains ':' then
    some "Enter one hostname only, without a scheme, port, or path."
  else if isValidIpv4Literal entry then
    some "Use a hostname, not an IP address."
  else
    match toAscii entry with
    | none => some "Hostname contains characters that are not valid for SNI."
    | some ascii =>
        let length := Kotlin.length ascii
        if length < 1 || length > maxHostnameLength then
          some "Hostname must be 1 to 253 characters."
        else if ascii.head? = some '.' || ascii.getLast? = some '.' then
          some "Hostname labels cannot be empty."
        else (Text.split '.' ascii).findSome? labelIssue

-- ================================================================ the lists

/-- The entries of a list, with the numbers of their lines. -/
def entries (text : List Char) : List (Nat × List Char) :=
  (Kotlin.lineSequence text).zipIdx.filterMap fun (line, index) =>
    (activeEntry line).map fun entry => (index + 1, entry)

/-- The loop of `validateSniList` and `validateIpList`. -/
def issuesOf (check : List Char → Option String) (text : List Char) :
    List RuntimeListIssue :=
  (entries text).filterMap fun (lineNumber, entry) =>
    (check entry).map fun message => ⟨lineNumber, entry, message⟩

/-- Every entry is checked, each line is named. -/
def validateSniList (toAscii : ToAscii) (text : List Char) :
    RuntimeListValidation where
  kind := .sniList
  activeEntries := (entries text).length
  issues := issuesOf (validateHostname toAscii) text
  warnings := []

/-- Likewise; a mode may warn about a family. -/
def validateIpList (text : List Char) (mode : String) :
    RuntimeListValidation where
  kind := .ipList
  activeEntries := (entries text).length
  issues := issuesOf validateIpOrCidr text
  warnings := if mode = "ip_bypass_plus" then
      ["ip_bypass_plus is IPv4-only; use IPv4 addresses or IPv4 CIDR ranges for that mode."]
    else []

/-- `validate`; a config is none of the lists. -/
def validate (toAscii : ToAscii) (kind : RuntimeFileKind) (text : List Char)
    (mode : String) : RuntimeListValidation :=
  match kind with
  | .config => ⟨.config, 0, [], []⟩
  | .sniList => validateSniList toAscii text
  | .ipList => validateIpList text mode

end ZeroDpi.Android.RuntimeListValidator
