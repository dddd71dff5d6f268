/-
The store of the profiles (profile/ProfileRepository.kt).

Every operation holds the repository's lock from start to end, so a history
is a sequence of operations. What `toJson` wrote is decoded to what it was:
a file holds the index itself, or a text that is decoded as one or is not
(`App.decode`).

The paths of a profile lie below its directory because an id has no
separators and the names are fixed; `ProfilePaths.childFile` accepts them
all.
-/
import ZeroDpi.Android.Files

namespace ZeroDpi.Android

open Lib Throwing

/-- The files of a profile. -/
inductive RuntimeFileKind where
  | config
  | sniList
  | ipList
  deriving DecidableEq

namespace RuntimeFileKind

/-- `RuntimeFileKind.fileName`. -/
def fileName : RuntimeFileKind → String
  | .config => "config.toml"
  | .sniList => "sni_list.txt"
  | .ipList => "ip_list.txt"

/-- In the order of the enum. -/
def entries : List RuntimeFileKind := [.config, .sniList, .ipList]

end RuntimeFileKind

/-- What a file holds. The index is not spelled out as JSON. -/
inductive Content where
  | index (i : ProfileIndex)
  | text (s : String)
  deriving DecidableEq

/-- What the app is built with. -/
structure App where
  jvm : Jvm
  asset : RuntimeFileKind → String
  cfAsset : String
  /-- `profileJson.decodeFromString`. -/
  decode : String → Option ProfileIndex

/-- The three texts that an update brings. -/
structure ProfileUpdateFileContents where
  configText : String
  sniListText : String
  ipListText : String
  deriving DecidableEq

namespace ProfileUpdateFileContents

/-- The text for a file. -/
def textFor (files : ProfileUpdateFileContents) : RuntimeFileKind → String
  | .config => files.configText
  | .sniList => files.sniListText
  | .ipList => files.ipListText

end ProfileUpdateFileContents

/-- A file that is about to be replaced, and its copy. -/
structure ProfileFileRollback where
  target : Path
  rollback : Path
  existed : Bool
  deriving DecidableEq

namespace ProfileRepository

/-- Code of the repository. -/
abbrev Repo := Storage Content

/-- `profiles/index.json`. -/
def indexFile : Path := ⟨.profiles, "index.json"⟩

variable (app : App)

-- ================================================================== files

/-- `filePathsFor(profileId)`, where the id is valid. -/
def filePathsFor (profileId : String) : Repo (RuntimeFileKind → Path) := do
  Storage.lift ((ZeroDpiProfile.validateId profileId).requireValid "Profile id")
  return fun kind => ⟨.profile profileId, kind.fileName⟩

/-- `cf.txt`, which the app ships and no update touches. -/
def cfFile (profileId : String) : Path := ⟨.profile profileId, "cf.txt"⟩

/-- Both directories, and `cf.txt`. -/
def ensureProfileDirectories (profileId : String) : Repo Unit := do
  Storage.ensureDirectory
  Storage.ensureDirectory
  Storage.seedAssetIfMissing (.text app.cfAsset) (cfFile profileId)

/-- Files that are missing come from their backup, or else from the assets.
-/
def seedProfileFilesFromAssetsLocked (profileId : String)
    (paths : RuntimeFileKind → Path) : Repo Unit := do
  ensureProfileDirectories app profileId
  forEach RuntimeFileKind.entries fun kind => do
    Storage.restorePrimaryFromBackupIfMissing (paths kind)
    Storage.seedAssetIfMissing (.text (app.asset kind)) (paths kind)

/-- A file of the time before profiles, or its backup. -/
def legacySourceFor (kind : RuntimeFileKind) : Repo (Option Path) := do
  let primary : Path := ⟨.runtime, kind.fileName⟩
  if (← Storage.fileExists primary) then return some primary
  let backup : Path := ⟨.runtime, kind.fileName ++ ".bak"⟩
  if (← Storage.fileExists backup) then return some backup
  return none

/-- The first profile takes the old files over. -/
def seedDefaultProfileFromLegacyOrAssetsLocked (profileId : String)
    (paths : RuntimeFileKind → Path) : Repo Unit := do
  ensureProfileDirectories app profileId
  forEach RuntimeFileKind.entries fun kind => do
    Storage.restorePrimaryFromBackupIfMissing (paths kind)
    if !(← Storage.fileExists (paths kind)) then
      match ← legacySourceFor kind with
      | some source => Storage.copyFileAtomic source (paths kind)
      | none => Storage.seedAssetIfMissing (.text (app.asset kind)) (paths kind)

/-- The files of one profile, as those of another. -/
def copyProfileFilesLocked (sourcePaths : RuntimeFileKind → Path)
    (targetId : String) (targetPaths : RuntimeFileKind → Path) :
    Repo Unit := do
  ensureProfileDirectories app targetId
  forEach RuntimeFileKind.entries fun kind =>
    Storage.copyFileAtomic (sourcePaths kind) (targetPaths kind)

/-- The three files, one after the other; each is atomic, all of them are
not. -/
def writeProfileFilesLocked (paths : RuntimeFileKind → Path)
    (files : ProfileUpdateFileContents) : Repo Unit :=
  forEach RuntimeFileKind.entries fun kind =>
    Storage.atomicWrite (paths kind) (.text (files.textFor kind))
      (some (Storage.backupFor (paths kind)))

/-- Copies of the files, under names with the time in them. -/
def createRollbackFilesLocked (paths : RuntimeFileKind → Path) :
    Repo (List ProfileFileRollback) :=
  mapEach RuntimeFileKind.entries fun kind => do
    let target := paths kind
    let nano ← Storage.nanoTime
    let rollback : Path := { target with
      name := "." ++ target.name ++ "." ++ toString nano ++ ".rollback" }
    let existed ← Storage.fileExists target
    if existed then Storage.copyFileAtomic target rollback
    return ⟨target, rollback, existed⟩

/-- The files as they were: copied back, or deleted if there was none. -/
def restoreRollbackFilesLocked (rollbackFiles : List ProfileFileRollback) :
    Repo Unit :=
  forEach rollbackFiles fun file => do
    if file.existed then Storage.copyFileAtomic file.rollback file.target
    else if (← Storage.fileExists file.target) then
      update (Storage.deleteFile file.target)
      if (← Storage.fileExists file.target) then
        throw (.illegalState "Failed to remove new profile file")

/-- The copies go, whether that works or not. -/
def cleanupRollbackFilesLocked (rollbackFiles : List ProfileFileRollback)
    (w : World Content) : World Content :=
  rollbackFiles.foldl (fun w file => Storage.deleteFile file.rollback w) w

-- ============================================================== the index

/-- `ProfileIndex.fromJson`. -/
def fromJson (content : Content) : Except Failure ProfileIndex :=
  match content with
  | .index i => i.requireValid app.jvm
  | .text s =>
      match app.decode s with
      | some i => i.requireValid app.jvm
      | none => .error (.illegalArgument "not an index")

/-- The index, which must be valid. -/
def readIndexLocked : Repo ProfileIndex :=
  tryCatch (do
      let content ← Storage.readFile indexFile
      Storage.lift (fromJson app content))
    fun _ => throw (.repository
      "Profile index is unreadable; profile files were left unchanged.")

/-- A valid index is written, with its backup. -/
def writeIndexLocked (index : ProfileIndex) : Repo ProfileIndex := do
  let validIndex ← Storage.lift (index.requireValid app.jvm)
  tryCatch (do
      -- `toJson` checks once more
      let _ ← Storage.lift (validIndex.requireValid app.jvm)
      Storage.atomicWrite indexFile (.index validIndex)
        (some (Storage.backupFor indexFile)))
    fun _ => throw (.repository "Failed to write profile index.")
  return validIndex

/-- The index of a first start. -/
def createDefaultIndexLocked : Repo ProfileIndex := do
  let now ← Storage.clock
  let index ← Storage.lift (ProfileIndex.default now)
  let defaultPaths ← filePathsFor ZeroDpiProfile.defaultProfileId
  seedDefaultProfileFromLegacyOrAssetsLocked app
    ZeroDpiProfile.defaultProfileId defaultPaths
  writeIndexLocked app index

/-- Every profile has its files. -/
def ensureProfileStorageLocked (index : ProfileIndex) : Repo Unit :=
  forEach index.profiles fun profile => do
    let paths ← filePathsFor profile.id
    seedProfileFilesFromAssetsLocked app profile.id paths

/-- The index, read or created, with the files of all profiles. -/
def loadIndexLocked : Repo ProfileIndex := do
  Storage.ensureDirectory
  Storage.ensureDirectory
  Storage.restorePrimaryFromBackupIfMissing indexFile
  let index ← if (← Storage.fileExists indexFile) then readIndexLocked app
    else createDefaultIndexLocked app
  ensureProfileStorageLocked app index
  return index

/-- `loadIndex`. -/
def loadIndex : Repo ProfileIndex := loadIndexLocked app

/-- A profile that must be there. -/
def requireProfile (index : ProfileIndex) (profileId : String) :
    Except Failure ZeroDpiProfile := do
  (ZeroDpiProfile.validateId profileId).requireValid "Profile id"
  match index.profiles.find? fun p => p.id = profileId with
  | some profile => return profile
  | none => .error (.illegalArgument ("Unknown profile id: " ++ profileId))

/-- The paths of a profile that is there, with its files. -/
def filePathsForKnownProfileLocked (index : ProfileIndex)
    (profileId : String) : Repo (RuntimeFileKind → Path) := do
  let _ ← Storage.lift (requireProfile index profileId)
  let paths ← filePathsFor profileId
  seedProfileFilesFromAssetsLocked app profileId paths
  return paths

/-- `profiles.map { if (it.id == profile.id) profile else it }`. -/
def withProfile (index : ProfileIndex) (profile : ZeroDpiProfile) :
    ProfileIndex :=
  { index with
    profiles := index.profiles.map fun existing =>
      if existing.id = profile.id then profile else existing }

/-- The index with a profile replaced, if that is valid. -/
def withUpdatedProfile (index : ProfileIndex) (profile : ZeroDpiProfile) :
    Except Failure ProfileIndex :=
  (withProfile index profile).requireValid app.jvm

/-- `MAX_ID_GENERATION_ATTEMPTS`. -/
def maxIdGenerationAttempts : Nat := 20

/-- `generateProfileId`, with the attempts that are left. -/
def generateProfileId (existingIds : List String) : Nat → Repo String
  | 0 => throw (.repository "Failed to generate a unique profile id.")
  | attempts + 1 => do
      let candidate ← Storage.idGenerator
      if candidate ∉ existingIds
          ∧ (ZeroDpiProfile.validateId candidate).isValid = true then
        return candidate
      else generateProfileId existingIds attempts

-- ============================================================= operations

/-- `createProfile`: the files are seeded before the index names them. -/
def createProfile (name : String) : Repo ProfileIndex := do
  let current ← loadIndexLocked app
  let now ← Storage.clock
  let id ← generateProfileId (current.profiles.map (·.id))
    maxIdGenerationAttempts
  let profile ← Storage.lift (ZeroDpiProfile.new id name now now {})
  let next ← Storage.lift (ProfileIndex.requireValid app.jvm
    { current with profiles := current.profiles ++ [profile] })
  let paths ← filePathsFor profile.id
  seedProfileFilesFromAssetsLocked app profile.id paths
  writeIndexLocked app next

/-- `renameProfile`. -/
def renameProfile (profileId name : String) : Repo ProfileIndex := do
  let current ← loadIndexLocked app
  let existing ← Storage.lift (requireProfile current profileId)
  let now ← Storage.clock
  let renamed ← Storage.lift (ZeroDpiProfile.new existing.id name
    existing.createdAtEpochMs now existing.remote)
  let next ← Storage.lift (withUpdatedProfile app current renamed)
  writeIndexLocked app next

/-- `updateProfile`: a profile as the caller has it. -/
def updateProfile (profile : ZeroDpiProfile) : Repo ProfileIndex := do
  let current ← loadIndexLocked app
  let _ ← Storage.lift (requireProfile current profile.id)
  let next ← Storage.lift (withUpdatedProfile app current profile)
  writeIndexLocked app next

/-- `updateRemoteSettings`: only the settings change. -/
def updateRemoteSettings (profileId : String)
    (remote : ProfileRemoteSettings) : Repo ProfileIndex := do
  let current ← loadIndexLocked app
  let existing ← Storage.lift (requireProfile current profileId)
  let now ← Storage.clock
  let updated ← Storage.lift (ZeroDpiProfile.new existing.id existing.name
    existing.createdAtEpochMs now remote)
  let next ← Storage.lift (withUpdatedProfile app current updated)
  writeIndexLocked app next

/-- The constructor of `ProfileUpdateStatus`. -/
def newStatus (mode : ProfileUpdateMode) (successful : Bool)
    (message : String) (completedAtEpochMs : Int) :
    Except Failure ProfileUpdateStatus :=
  if h : 0 ≤ completedAtEpochMs then
    .ok ⟨mode, successful, message, completedAtEpochMs, h⟩
  else .error (.illegalArgument
    "Profile update completion timestamp must be non-negative.")

/-- A profile with the outcome of an update in its settings. -/
def withRemoteUpdateStatus (profile : ZeroDpiProfile)
    (remote : ProfileRemoteSettings) (mode : ProfileUpdateMode)
    (successful : Bool) (message : String) (completedAtEpochMs : Int) :
    Except Failure ZeroDpiProfile := do
  let status ← newStatus mode successful message completedAtEpochMs
  let updatedRemote := { remote with
    lastUpdateAttemptEpochMs := some completedAtEpochMs
    lastSuccessfulUpdateEpochMs :=
      if successful then some completedAtEpochMs
      else remote.lastSuccessfulUpdateEpochMs
    lastUpdateStatus := some status }
  ZeroDpiProfile.new profile.id profile.name profile.createdAtEpochMs
    (max (max profile.createdAtEpochMs profile.updatedAtEpochMs)
      completedAtEpochMs)
    updatedRemote

/-- `recordRemoteUpdateFailure`: no file is touched. -/
def recordRemoteUpdateFailure (profileId : String) (mode : ProfileUpdateMode)
    (message : String) (remote : Option ProfileRemoteSettings) :
    Repo ProfileIndex := do
  let current ← loadIndexLocked app
  let existing ← Storage.lift (requireProfile current profileId)
  let remoteForStatus := remote.getD existing.remote
  Storage.lift ((remoteForStatus.validate app.jvm false).requireValid
    "Profile remote settings")
  let now ← Storage.clock
  let updated ← Storage.lift (withRemoteUpdateStatus existing remoteForStatus
    mode false message now)
  let next ← Storage.lift (withUpdatedProfile app current updated)
  writeIndexLocked app next

/-- `applyRemoteUpdate`: the files and the index, or all of it rolled back.
-/
def applyRemoteUpdate (profileId : String) (remote : ProfileRemoteSettings)
    (files : ProfileUpdateFileContents) (mode : ProfileUpdateMode)
    (message : String) : Repo ProfileIndex := do
  Storage.lift ((remote.validateForUpdate app.jvm).requireValid
    "Profile remote settings")
  let current ← loadIndexLocked app
  let existing ← Storage.lift (requireProfile current profileId)
  let paths ← filePathsForKnownProfileLocked app current profileId
  let now ← Storage.clock
  let updatedProfile ← Storage.lift (withRemoteUpdateStatus existing remote
    mode true message now)
  let next ← Storage.lift (withUpdatedProfile app current updatedProfile)
  let rollbackFiles ← createRollbackFilesLocked paths
  tryFinally
    (tryCatch (do
        writeProfileFilesLocked paths files
        writeIndexLocked app next)
      fun _ => do
        tryCatch (restoreRollbackFilesLocked rollbackFiles)
          fun _ => throw (.repository
            "Failed to apply remote update and restore previous profile files.")
        throw (.repository
          "Failed to apply remote update; previous profile files were restored."))
    (cleanupRollbackFilesLocked rollbackFiles)

/-- `duplicateProfile`: the files are copied before the index names them. -/
def duplicateProfile (sourceProfileId name : String) : Repo ProfileIndex := do
  let current ← loadIndexLocked app
  let source ← Storage.lift (requireProfile current sourceProfileId)
  let now ← Storage.clock
  let id ← generateProfileId (current.profiles.map (·.id))
    maxIdGenerationAttempts
  let duplicate ← Storage.lift (ZeroDpiProfile.new id name now now
    source.remote)
  let next ← Storage.lift (ProfileIndex.requireValid app.jvm
    { current with profiles := current.profiles ++ [duplicate] })
  let sourcePaths ← filePathsForKnownProfileLocked app current sourceProfileId
  let duplicatePaths ← filePathsFor duplicate.id
  copyProfileFilesLocked app sourcePaths duplicate.id duplicatePaths
  writeIndexLocked app next

/-- `deleteProfile`, of any profile but the last. -/
def deleteProfile (profileId : String) : Repo ProfileIndex := do
  let current ← loadIndexLocked app
  let _ ← Storage.lift (requireProfile current profileId)
  Storage.lift (require (1 < current.profiles.length)
    "Cannot delete the last profile.")
  let remaining := current.profiles.filter fun p => p.id ≠ profileId
  let nextActiveProfileId ←
    if current.activeProfileId = profileId then
      match remaining with
      | first :: _ => pure first.id
      | [] => throw (.illegalArgument "List is empty.")
    else pure current.activeProfileId
  let next ← Storage.lift (ProfileIndex.requireValid app.jvm { current with
    activeProfileId := nextActiveProfileId
    profiles := remaining })
  let written ← writeIndexLocked app next
  let _ ← filePathsFor profileId
  update (Storage.deleteRecursively (.profile profileId))
  return written

/-- `selectProfile`. -/
def selectProfile (profileId : String) : Repo ProfileIndex := do
  let current ← loadIndexLocked app
  let _ ← Storage.lift (requireProfile current profileId)
  let next ← Storage.lift (ProfileIndex.requireValid app.jvm
    { current with activeProfileId := profileId })
  writeIndexLocked app next

-- =============================================================== histories

/-- The nine operations that write the index. -/
inductive Operation where
  | create (name : String)
  | rename (profileId name : String)
  | update (profile : ZeroDpiProfile)
  | updateRemoteSettings (profileId : String) (remote : ProfileRemoteSettings)
  | recordRemoteUpdateFailure (profileId : String) (mode : ProfileUpdateMode)
      (message : String) (remote : Option ProfileRemoteSettings)
  | applyRemoteUpdate (profileId : String) (remote : ProfileRemoteSettings)
      (files : ProfileUpdateFileContents) (mode : ProfileUpdateMode)
      (message : String)
  | duplicate (sourceProfileId name : String)
  | delete (profileId : String)
  | select (profileId : String)

/-- An operation is its function. -/
def Operation.run : Operation → Repo ProfileIndex
  | .create name => createProfile app name
  | .rename profileId name => renameProfile app profileId name
  | .update profile => ProfileRepository.updateProfile app profile
  | .updateRemoteSettings profileId remote =>
      ProfileRepository.updateRemoteSettings app profileId remote
  | .recordRemoteUpdateFailure profileId mode message remote =>
      ProfileRepository.recordRemoteUpdateFailure app profileId mode message
        remote
  | .applyRemoteUpdate profileId remote files mode message =>
      ProfileRepository.applyRemoteUpdate app profileId remote files mode
        message
  | .duplicate sourceProfileId name =>
      duplicateProfile app sourceProfileId name
  | .delete profileId => deleteProfile app profileId
  | .select profileId => selectProfile app profileId

/-- The device behind an operation. -/
def after (w : World Content) (op : Operation) : World Content :=
  (op.run app w).2

end ProfileRepository

end ZeroDpi.Android
