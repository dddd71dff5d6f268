/-
Updates of a profile from its remote files (profile/ProfileUpdateManager.kt,
and its use by profile/ProfileAutoUpdateWorker.kt).

Calls of the repository are atomic; an update suspends between them, and
there others go on. The manager is called with settings that the worker
took from the index before (`take`), or without any (`call`), and then takes
those it finds. What a download brings is given, and so is what
`validateFiles` says about the files.

`edited` is a history variable: the settings of the last call of
`updateRemoteSettings` that succeeded.
-/
import ZeroDpi.Android.ProfileRepository

namespace ZeroDpi.Android.ProfileUpdate

open Lib ProfileRepository

/-- Where an update is. -/
inductive Phase where
  /-- `updateProfile` was called. -/
  | called (remote : Option ProfileRemoteSettings)
  | downloading (remote : ProfileRemoteSettings)
  /-- The files are valid; `beforeApply` comes next. -/
  | applying (remote : ProfileRemoteSettings)
      (files : ProfileUpdateFileContents)
  /-- About to call `recordRemoteUpdateFailure`. -/
  | failing (remote : Option ProfileRemoteSettings) (message : String)
  /-- `updateProfile` has thrown; the worker records that. -/
  | thrown (message : String)
  | ended
  deriving DecidableEq

/-- An update that is under way. -/
structure Update where
  mode : ProfileUpdateMode
  /-- What the worker took, if it is the worker's. -/
  taken : Option ProfileRemoteSettings
  phase : Phase
  deriving DecidableEq

/-- The files, the updates, and the last edit. -/
structure System where
  world : World Content
  updates : List Update
  edited : Option ProfileRemoteSettings

/-- What the code outside of the repository answers to a step. -/
structure Answer where
  /-- The files, or the message of a download that failed. -/
  download : Except String ProfileUpdateFileContents
  /-- `beforeApply` throws with this message. -/
  beforeApply : Option String

variable (app : App) (profileId : String)
  (validateFiles : ProfileUpdateFileContents → Option String)

/-- `ifBlank`. -/
def ifBlank (text fallback : String) : String :=
  if Kotlin.isBlank text.toList then fallback else text

/-- `takeIf { it.validate().isValid }`. -/
def takeIfValid (remote : ProfileRemoteSettings) :
    Option ProfileRemoteSettings :=
  if (remote.validate app.jvm false).isValid then some remote else none

/-- The message of what a repository call threw. -/
def messageOf : Failure → String
  | .illegalArgument message => message
  | .illegalState message => message
  | .repository message => message
  | .io => "Failed to apply remote profile update."

/-- `updateProfile` up to the download. -/
def begin (remote : Option ProfileRemoteSettings) (index : ProfileIndex) :
    Phase :=
  match index.profiles.find? fun p => p.id = profileId with
  | none => .thrown ("Unknown profile id: " ++ profileId)
  | some profile =>
      let remoteSettings := remote.getD profile.remote
      let validation := remoteSettings.validateForUpdate app.jvm
      if validation.isValid then .downloading remoteSettings
      else .failing (takeIfValid app remoteSettings)
        (ifBlank ("; ".intercalate (validation.errors.map (·.message)))
          "Configure all three valid remote URLs before updating.")

/-- The next step of an update: its phase and the device behind it. -/
def Update.next (u : Update) (answer : Answer) (w : World Content) :
    Phase × World Content :=
  match u.phase with
  | .called remote =>
      match loadIndex app w with
      | (.ok index, w') => (begin app profileId remote index, w')
      | (.error e, w') => (.thrown (messageOf e), w')
  | .downloading remote =>
      match answer.download with
      | .error message => (.failing (some remote) message, w)
      | .ok files =>
          match validateFiles files with
          | some message => (.failing (some remote) message, w)
          | none => (.applying remote files, w)
  | .applying remote files =>
      match answer.beforeApply with
      | some message => (.failing (some remote) message, w)
      | none =>
          match applyRemoteUpdate app profileId remote files u.mode
              "Updated profile from remote." w with
          | (.ok _, w') => (.ended, w')
          | (.error e, w') => (.failing (some remote) (messageOf e), w')
  | .failing remote message =>
      match recordRemoteUpdateFailure app profileId u.mode message remote w with
      | (.ok _, w') => (.ended, w')
      | (.error e, w') => (.thrown (messageOf e), w')
  | .thrown message =>
      match u.taken with
      | none => (.ended, w)
      | some remote => (.ended, (recordRemoteUpdateFailure app profileId
          .automatic message (takeIfValid app remote) w).2)
  | .ended => (.ended, w)

/-- What happens next: the user edits, the worker starts, or an update goes
on. -/
inductive Action where
  /-- The user's call of `updateRemoteSettings`. -/
  | edit (remote : ProfileRemoteSettings)
  /-- The worker looks at the index and calls the manager. -/
  | take
  /-- The manager is called without settings. -/
  | call (mode : ProfileUpdateMode)
  | step (i : Nat) (answer : Answer)
  /-- Time passes on the device: its clock, faults and ids are others. -/
  | device (stuck : Path → Bool) (faults : List Bool) (nanos : List Nat)
      (clock : List Int) (ids : List String)

namespace System

/-- An edit; it counts if it was stored. -/
def edit (s : System) (remote : ProfileRemoteSettings) : System :=
  match updateRemoteSettings app profileId remote s.world with
  | (.ok _, w') => { s with world := w', edited := some remote }
  | (.error _, w') => { s with world := w' }

/-- The worker takes the settings of the index. -/
def take (s : System) : System :=
  match loadIndex app s.world with
  | (.error _, w') => { s with world := w' }
  | (.ok index, w') =>
      match index.profiles.find? fun p => p.id = profileId with
      | none => { s with world := w' }
      | some profile => { s with
          world := w'
          updates := s.updates ++ [{
            mode := .automatic
            taken := some profile.remote
            phase := .called (some profile.remote) }] }

/-- One of these. -/
def step (s : System) : Action → System
  | .edit remote => s.edit app profileId remote
  | .take => s.take app profileId
  | .call mode => { s with
      updates := s.updates ++ [⟨mode, none, .called none⟩] }
  | .step i answer =>
      match s.updates[i]? with
      | none => s
      | some u =>
          let (phase, world) := u.next app profileId validateFiles answer s.world
          { s with
            world := world
            updates := s.updates.set i { u with phase := phase } }
  | .device stuck faults nanos clock ids => { s with
      world := { files := s.world.files, stuck, faults, nanos, clock, ids } }

end System

/-- Nothing runs yet. -/
def System.start (w : World Content) : System where
  world := w
  updates := []
  edited := none

end ZeroDpi.Android.ProfileUpdate
