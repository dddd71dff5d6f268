/-
The profiles of the Android app (profile/ProfileModels.kt).

The checks of a class's `init` are fields of its structure, so that a value
that the constructor refuses cannot be built; `ZeroDpiProfile.new` is the
constructor, and `copy` goes through it.

`java.net.URI` and `lowercase(Locale.US)` are given (`Jvm`).
-/
import ZeroDpi.Lib.Kotlin

namespace ZeroDpi.Android

open Lib

-- ============================================================== validation

/-- A field, and what is wrong with it. -/
structure ProfileValidationIssue where
  field : String
  message : String
  deriving DecidableEq

/-- Errors and warnings; only errors make it invalid. -/
structure ProfileValidationResult where
  errors : List ProfileValidationIssue
  warnings : List ProfileValidationIssue
  deriving DecidableEq

/-- What is thrown. -/
inductive Failure where
  | illegalArgument (message : String)
  | illegalState (message : String)
  | repository (message : String)
  /-- A file or a directory could not be read or written. -/
  | io
  deriving DecidableEq

namespace ProfileValidationResult

/-- No errors. -/
def isValid (r : ProfileValidationResult) : Bool := r.errors.isEmpty

/-- It throws with all errors in one message. -/
def requireValid (r : ProfileValidationResult) (subject : String) :
    Except Failure Unit :=
  if r.isValid then .ok ()
  else
    let details := "; ".intercalate
      (r.errors.map fun issue => issue.field ++ ": " ++ issue.message)
    .error (.illegalArgument (subject ++ " is invalid: " ++ details))

/-- The same issues, under a label. -/
def prefixed (r : ProfileValidationResult) (label : String) :
    ProfileValidationResult :=
  let relabel (issue : ProfileValidationIssue) : ProfileValidationIssue :=
    { issue with
      field := if Kotlin.isBlank issue.field.toList then label
        else label ++ "." ++ issue.field }
  { errors := r.errors.map relabel, warnings := r.warnings.map relabel }

end ProfileValidationResult

/-- Kotlin's `require`. -/
def require (condition : Bool) (message : String) : Except Failure Unit :=
  if condition then .ok () else .error (.illegalArgument message)

-- ========================================================= remote settings

/-- What is read of a URI. -/
structure Uri where
  scheme : Option String
  host : Option String
  deriving DecidableEq

/-- What the profiles use of the platform. -/
structure Jvm where
  /-- `URI(text)`, where it does not throw. -/
  uri : String → Option Uri
  /-- `String.lowercase(Locale.US)`. -/
  lowercase : String → String

/-- Who asked for an update. -/
inductive ProfileUpdateMode where
  | manual
  | automatic
  deriving DecidableEq

/-- The outcome of the last update. -/
structure ProfileUpdateStatus where
  mode : ProfileUpdateMode
  successful : Bool
  message : String
  completedAtEpochMs : Int
  nonneg : 0 ≤ completedAtEpochMs
  deriving DecidableEq

/-- Where a profile is updated from, and when it was. -/
structure ProfileRemoteSettings where
  configUrl : String := ""
  sniListUrl : String := ""
  ipListUrl : String := ""
  autoUpdateEnabled : Bool := false
  autoUpdateIntervalHours : Int := 24
  lastUpdateAttemptEpochMs : Option Int := none
  lastSuccessfulUpdateEpochMs : Option Int := none
  lastUpdateStatus : Option ProfileUpdateStatus := none
  deriving DecidableEq

namespace ProfileRemoteSettings

variable (jvm : Jvm)

/-- In the order of the files. -/
def remoteUrls (r : ProfileRemoteSettings) : List String :=
  [r.configUrl, r.sniListUrl, r.ipListUrl]

/-- `validateRemoteUrl`: its error or its warning. -/
def validateRemoteUrl (field value : String) : ProfileValidationResult :=
  let trimmed := Kotlin.trim value.toList
  if Kotlin.isBlank trimmed then ⟨[], []⟩
  else if value.toList ≠ trimmed then
    ⟨[⟨field, "Remote URL must be trimmed."⟩], []⟩
  else
    let refused : ProfileValidationResult :=
      ⟨[⟨field, "Remote URL must be an absolute http or https URL."⟩], []⟩
    match jvm.uri value with
    | none => refused
    | some uri =>
        let scheme := uri.scheme.map jvm.lowercase
        let hostless := (uri.host.map fun h => Kotlin.isBlank h.toList).getD true
        if uri.scheme.isNone || hostless
            || !(scheme = some "http" || scheme = some "https") then refused
        else if scheme = some "http" then
          ⟨[], [⟨field, "HTTP remote URLs are not encrypted."⟩]⟩
        else ⟨[], []⟩

/-- The check of a time that may be missing. -/
def validateTime (field message : String) (time : Option Int) :
    List ProfileValidationIssue :=
  match time with
  | some t => if t < 0 then [⟨field, message⟩] else []
  | none => []

/-- `validate`; settings without a URL are valid unless one is required. -/
def validate (r : ProfileRemoteSettings) (requireConfigured : Bool) :
    ProfileValidationResult :=
  let interval : List ProfileValidationIssue :=
    if r.autoUpdateIntervalHours ≤ 0 then
      [⟨"autoUpdateIntervalHours",
        "Automatic update interval must be positive."⟩]
    else []
  let attempt := validateTime "lastUpdateAttemptEpochMs"
    "Last update attempt timestamp must be non-negative."
    r.lastUpdateAttemptEpochMs
  let success := validateTime "lastSuccessfulUpdateEpochMs"
    "Last successful update timestamp must be non-negative."
    r.lastSuccessfulUpdateEpochMs
  let configured := r.remoteUrls.countP fun url => !Kotlin.isBlank url.toList
  let remote : List ProfileValidationIssue :=
    if (requireConfigured || r.autoUpdateEnabled || 0 < configured)
        && configured ≠ r.remoteUrls.length then
      [⟨"remote",
        "Config, SNI list, and IP list URLs are all required for profile updates."⟩]
    else []
  let urls := [validateRemoteUrl jvm "configUrl" r.configUrl,
    validateRemoteUrl jvm "sniListUrl" r.sniListUrl,
    validateRemoteUrl jvm "ipListUrl" r.ipListUrl]
  { errors := interval ++ attempt ++ success ++ remote
      ++ urls.flatMap (·.errors)
    warnings := urls.flatMap (·.warnings) }

/-- With all three URLs. -/
def validateForUpdate (r : ProfileRemoteSettings) : ProfileValidationResult :=
  validate jvm r true

end ProfileRemoteSettings

-- ================================================================ profiles

namespace ZeroDpiProfile

/-- The profile of a first start. -/
def defaultProfileId : String := "default"

/-- Its name. -/
def defaultProfileName : String := "Default"

/-- In UTF-16 units. -/
def maxIdLength : Nat := 64

/-- Likewise. -/
def maxNameLength : Nat := 64

/-- `idPattern`. -/
def matchesIdPattern : List Char → Bool
  | [] => false
  | first :: rest => Kotlin.isAsciiAlnum first && rest.length ≤ 63
      && rest.all fun c => Kotlin.isAsciiAlnum c || c = '_' || c = '-'

/-- An id is part of a path, so that its characters are few. -/
def validateId (id : String) : ProfileValidationResult :=
  let blank : List ProfileValidationIssue :=
    if Kotlin.isBlank id.toList then [⟨"id", "Profile id cannot be blank."⟩]
    else []
  let long : List ProfileValidationIssue :=
    if Kotlin.length id.toList > maxIdLength then
      [⟨"id", "Profile id cannot exceed 64 characters."⟩]
    else []
  let shape : List ProfileValidationIssue :=
    if matchesIdPattern id.toList then []
    else [⟨"id",
      "Profile id may contain only letters, numbers, underscores, and dashes."⟩]
  ⟨blank ++ long ++ shape, []⟩

/-- A name is trimmed before it is measured. -/
def validateName (name : String) : ProfileValidationResult :=
  let trimmed := Kotlin.trim name.toList
  let blank : List ProfileValidationIssue :=
    if trimmed.isEmpty then [⟨"name", "Profile name cannot be blank."⟩] else []
  let long : List ProfileValidationIssue :=
    if Kotlin.length trimmed > maxNameLength then
      [⟨"name", "Profile name cannot exceed 64 characters."⟩]
    else []
  let untrimmed : List ProfileValidationIssue :=
    if name.toList ≠ trimmed then [⟨"name", "Profile name must be trimmed."⟩]
    else []
  ⟨blank ++ long ++ untrimmed, []⟩

/-- Names are compared without case and blanks. -/
def duplicateKeyForName (jvm : Jvm) (name : String) : String :=
  jvm.lowercase (String.ofList (Kotlin.trim name.toList))

end ZeroDpiProfile

open ZeroDpiProfile in

/-- A profile, with what its constructor requires. -/
structure ZeroDpiProfile where
  id : String
  name : String
  createdAtEpochMs : Int
  updatedAtEpochMs : Int
  remote : ProfileRemoteSettings
  idValid : (validateId id).isValid = true
  nameValid : (validateName name).isValid = true
  created : 0 ≤ createdAtEpochMs
  updated : createdAtEpochMs ≤ updatedAtEpochMs
  deriving DecidableEq

namespace ZeroDpiProfile

/-- The constructor. The first check that fails throws. -/
def new (id name : String) (createdAtEpochMs updatedAtEpochMs : Int)
    (remote : ProfileRemoteSettings) : Except Failure ZeroDpiProfile := do
  (validateId id).requireValid "Profile id"
  (validateName name).requireValid "Profile name"
  require (0 ≤ createdAtEpochMs)
    "Profile created timestamp must be non-negative."
  require (0 ≤ updatedAtEpochMs)
    "Profile updated timestamp must be non-negative."
  require (createdAtEpochMs ≤ updatedAtEpochMs)
    "Profile updated timestamp cannot be older than created timestamp."
  if h : (validateId id).isValid = true ∧ (validateName name).isValid = true
      ∧ 0 ≤ createdAtEpochMs ∧ createdAtEpochMs ≤ updatedAtEpochMs then
    return {
      id, name, createdAtEpochMs, updatedAtEpochMs, remote
      idValid := h.1
      nameValid := h.2.1
      created := h.2.2.1
      updated := h.2.2.2 }
  else
    -- the checks above are these
    .error (.illegalArgument "")

/-- The profile of a first start. -/
def default (createdAtEpochMs : Int) : Except Failure ZeroDpiProfile :=
  new defaultProfileId defaultProfileName createdAtEpochMs createdAtEpochMs {}

/-- What the index requires of a profile. -/
def validate (jvm : Jvm) (p : ZeroDpiProfile) : ProfileValidationResult :=
  let created : List ProfileValidationIssue :=
    if p.createdAtEpochMs < 0 then
      [⟨"createdAtEpochMs", "Created timestamp must be non-negative."⟩]
    else []
  let updated : List ProfileValidationIssue :=
    if p.updatedAtEpochMs < 0 then
      [⟨"updatedAtEpochMs", "Updated timestamp must be non-negative."⟩]
    else []
  let order : List ProfileValidationIssue :=
    if 0 ≤ p.createdAtEpochMs && 0 ≤ p.updatedAtEpochMs
        && p.updatedAtEpochMs < p.createdAtEpochMs then
      [⟨"updatedAtEpochMs",
        "Updated timestamp cannot be older than created timestamp."⟩]
    else []
  let remoteResult := (p.remote.validate jvm false).prefixed "remote"
  { errors := (validateId p.id).errors ++ (validateName p.name).errors
      ++ created ++ updated ++ order ++ remoteResult.errors
    warnings := remoteResult.warnings }

end ZeroDpiProfile

-- =============================================================== the index

/-- The index of all profiles. -/
structure ProfileIndex where
  schemaVersion : Int
  activeProfileId : String
  profiles : List ZeroDpiProfile
  deriving DecidableEq

namespace ProfileIndex

/-- The only version there is. -/
def profileIndexSchemaVersion : Int := 1

/-- An index with that profile only. -/
def default (createdAtEpochMs : Int) : Except Failure ProfileIndex := do
  let profile ← ZeroDpiProfile.default createdAtEpochMs
  return {
    schemaVersion := profileIndexSchemaVersion
    activeProfileId := ZeroDpiProfile.defaultProfileId
    profiles := [profile] }

variable (jvm : Jvm)

/-- The keys of `groupingBy { .. }.eachCount()` with a count above one. -/
def duplicates (keys : List String) : List String :=
  keys.filter fun key => 1 < keys.count key

/-- Everything that is wrong with an index. -/
def validate (index : ProfileIndex) : ProfileValidationResult :=
  let schema : List ProfileValidationIssue :=
    if index.schemaVersion ≠ profileIndexSchemaVersion then
      [⟨"schemaVersion", "Unsupported profile index schema version: "
        ++ toString index.schemaVersion ++ "."⟩]
    else []
  let active := ((ZeroDpiProfile.validateId index.activeProfileId).prefixed
    "activeProfileId").errors
  let empty : List ProfileValidationIssue :=
    if index.profiles.isEmpty then
      [⟨"profiles", "At least one profile is required."⟩]
    else []
  let ids : List ProfileValidationIssue :=
    if (duplicates (index.profiles.map (·.id))).isEmpty then []
    else [⟨"profiles", "Profile ids must be unique."⟩]
  let names : List ProfileValidationIssue :=
    if (duplicates (index.profiles.map fun p =>
        ZeroDpiProfile.duplicateKeyForName jvm p.name)).isEmpty then []
    else [⟨"profiles", "Profile names must be unique."⟩]
  let missing : List ProfileValidationIssue :=
    if index.profiles.any fun p => p.id = index.activeProfileId then []
    else [⟨"activeProfileId",
      "Active profile id must reference an existing profile."⟩]
  let results := index.profiles.zipIdx.map fun (p, i) =>
    (p.validate jvm).prefixed ("profiles[" ++ toString i ++ "]")
  { errors := schema ++ active ++ empty ++ ids ++ names ++ missing
      ++ results.flatMap (·.errors)
    warnings := results.flatMap (·.warnings) }

/-- The index, if it is valid. -/
def requireValid (index : ProfileIndex) : Except Failure ProfileIndex := do
  (index.validate jvm).requireValid "Profile index"
  return index

end ProfileIndex

end ZeroDpi.Android
