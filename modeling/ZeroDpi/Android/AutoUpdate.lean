/-
The worker of the automatic updates (profile/ProfileAutoUpdateWorker.kt,
profile/ProfileAutoUpdatePolicy.kt) beside the service, whose marker it
reads.

The worker has a thread of its own, so that the service goes on between any
two of its accesses to what both share: the files, of which one call of the
repository is atomic, and the marker. `beforeApply` and the call of
`applyRemoteUpdate` behind it are two of its steps.

The work manager runs one worker at a time, and again when it has ended.
What reconciling the schedule does is left out.
-/
import ZeroDpi.Android.ProfileUpdate
import ZeroDpi.Android.Service

namespace ZeroDpi.Android

open ProfileRepository

open ProfileUpdate (Update takeIfValid ifBlank)

-- ============================================================== the policy

namespace ProfileAutoUpdatePolicy

/-- `MIN_INTERVAL_HOURS`. -/
def minIntervalHours : Int := 1

/-- `MILLIS_PER_HOUR`. -/
def millisPerHour : Int := 60 * 60 * 1000

/-- The profiles that are updated automatically. -/
def enabledProfiles (index : ProfileIndex) : List ZeroDpiProfile :=
  index.profiles.filter fun profile => profile.remote.autoUpdateEnabled

/-- The last attempt is an interval ago, or in the future. -/
def isDue (remote : ProfileRemoteSettings) (nowEpochMs : Int) : Bool :=
  if !remote.autoUpdateEnabled then false
  else
    match remote.lastUpdateAttemptEpochMs with
    | none => true
    | some lastAttempt =>
        if nowEpochMs < lastAttempt then false
        else
          let intervalMillis :=
            max remote.autoUpdateIntervalHours minIntervalHours
              * millisPerHour
          decide (intervalMillis ≤ nowEpochMs - lastAttempt)

/-- Those that are due. -/
def dueProfiles (index : ProfileIndex) (nowEpochMs : Int) :
    List ZeroDpiProfile :=
  (enabledProfiles index).filter fun profile => isDue profile.remote nowEpochMs

end ProfileAutoUpdatePolicy

-- ============================================================== the worker

/-- Where `doWork` is. -/
inductive WorkPoint where
  | loadIndex
  | reconcile (index : ProfileIndex)
  /-- About to look at the marker, before any profile. -/
  | checkAll (dueProfiles : List ZeroDpiProfile)
  /-- At the head of the `forEach`. -/
  | nextProfile (rest : List ZeroDpiProfile)
  /-- `recordAutomaticFailure` for some profiles, and then the rest. -/
  | recordFailure (failed : List ZeroDpiProfile) (message : String)
      (rest : List ZeroDpiProfile)
  /-- In `updateProfile`. -/
  | update (profile : ZeroDpiProfile) (update : Update)
      (rest : List ZeroDpiProfile)
  /-- There, behind a `beforeApply` that did not throw. -/
  | apply (profile : ZeroDpiProfile) (update : Update)
      (rest : List ZeroDpiProfile)
  | ended
  deriving DecidableEq

/-- The device: the service, the worker, and the files. -/
structure Device where
  service : Service
  worker : WorkPoint := .ended
  world : World Content

namespace Device

/-- Said when the first check refuses. -/
def skippedMessage : String :=
  "Automatic update skipped because ZeroDPI is running."

/-- And when the second does. -/
def startedMessage : String :=
  "Automatic update skipped because ZeroDPI started running."

/-- `isRuntimeActive`, and the device behind it. -/
def isRuntimeActive (d : Device) : Bool × Device :=
  let (active, marker) :=
    d.service.marker.isRuntimeActive d.service.foreground d.service.epochMs
  (active, { d with service := { d.service with marker := marker } })

/-- Behind the look at the marker, at the head of the `forEach`. -/
def checkProfile (app : App) (profile : ZeroDpiProfile)
    (rest : List ZeroDpiProfile) : WorkPoint :=
  let validation := profile.remote.validateForUpdate app.jvm
  if validation.isValid then
    .update profile ⟨.automatic, some profile.remote,
      .called (some profile.remote)⟩ rest
  else
    .recordFailure [profile]
      (ifBlank ("; ".intercalate (validation.errors.map (·.message)))
        "Configure all three valid remote URLs before automatic updates.")
      rest

/-- Behind a step of `updateProfile`. -/
def updated (profile : ZeroDpiProfile) (update : Update)
    (rest : List ZeroDpiProfile) : WorkPoint :=
  match update.phase with
  | .ended => .nextProfile rest
  | _ => .update profile update rest

variable (app : App)
  (validateFiles : ProfileUpdateFileContents → Option String)

/-- A step of `updateProfile`, and of the worker's `onFailure`. -/
def advance (profile : ZeroDpiProfile) (update : Update)
    (rest : List ZeroDpiProfile) (answer : ProfileUpdate.Answer)
    (d : Device) : Device :=
  let (phase, world) := update.next app profile.id validateFiles answer d.world
  { d with
    worker := updated profile { update with phase := phase } rest
    world := world }

/-- The next step of the worker; `download` is what the remote client
brings. -/
def work (download : Except String ProfileUpdateFileContents) (d : Device) :
    Device :=
  match d.worker with
  | .loadIndex =>
      match loadIndex app d.world with
      -- `Result.retry`
      | (.error _, world) => { d with worker := .ended, world := world }
      | (.ok index, world) =>
          { d with worker := .reconcile index, world := world }
  | .reconcile index =>
      match ProfileAutoUpdatePolicy.dueProfiles index d.service.epochMs with
      | [] => { d with worker := .ended }
      | due => { d with worker := .checkAll due }
  | .checkAll due =>
      let (active, d) := d.isRuntimeActive
      { d with worker :=
          if active then .recordFailure due skippedMessage []
          else .nextProfile due }
  | .nextProfile [] => { d with worker := .ended }
  | .nextProfile (profile :: rest) =>
      let (active, d) := d.isRuntimeActive
      { d with worker :=
          if active then .recordFailure [profile] startedMessage []
          else checkProfile app profile rest }
  | .recordFailure [] _ rest => { d with worker := .nextProfile rest }
  | .recordFailure (profile :: failed) message rest =>
      { d with
        worker := .recordFailure failed message rest
        world := (recordRemoteUpdateFailure app profile.id .automatic message
          (takeIfValid app profile.remote) d.world).2 }
  | .update profile update rest =>
      match update.phase with
      | .applying _ _ =>
          let (active, d) := d.isRuntimeActive
          if active then
            advance app validateFiles profile update rest
              ⟨download, some startedMessage⟩ d
          else { d with worker := .apply profile update rest }
      | _ => advance app validateFiles profile update rest ⟨download, none⟩ d
  | .apply profile update rest =>
      advance app validateFiles profile update rest ⟨download, none⟩ d
  | .ended => d

end Device

/-- What happens next on a device: in the service, in the app, or in the
worker. -/
inductive DeviceLabel where
  | service (label : ServiceLabel)
  /-- `startService` of the app: it marks the runtime before the service
  gets the call. -/
  | appMarks (profileId : String)
  | onStartCommand
  | doWork
  | work (download : Except String ProfileUpdateFileContents)
  /-- The app or the processes change the files. -/
  | files (world : World Content)

/-- The worker starts only when it has ended. -/
inductive Device.Steps (app : App)
    (validateFiles : ProfileUpdateFileContents → Option String) (d : Device) :
    DeviceLabel → Device → Prop where
  | service {label : ServiceLabel} {s : Service}
      (h : d.service.step label = some s) :
      Steps app validateFiles d (.service label) { d with service := s }
  | appMarks (profileId : String) :
      Steps app validateFiles d (.appMarks profileId)
        { d with service := d.service.markRuntimeActive (some profileId) }
  | onStartCommand :
      Steps app validateFiles d .onStartCommand
        { d with service := d.service.ensureForeground }
  | doWork (h : d.worker = .ended) :
      Steps app validateFiles d .doWork { d with worker := .loadIndex }
  | work (download : Except String ProfileUpdateFileContents) :
      Steps app validateFiles d (.work download)
        (d.work app validateFiles download)
  | files (world : World Content) :
      Steps app validateFiles d (.files world) { d with world := world }

end ZeroDpi.Android
