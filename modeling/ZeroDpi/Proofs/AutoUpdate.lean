/-
The automatic updates beside a run of the service: the worker looks at the
service's marker before it starts, before each profile, and before it
writes.

# Main results

`Device.worker_refuses`: in every run of the device that opens no
standalone pick session, and in which each end of a foreground run finds no
process and no coroutine on its way to launch one, the worker is refused by
each of its checks as long as a process of the service may be running.

The checks are all there is. A worker that is past the last of them writes,
and does not look at the service again (`Device.apply_unchecked`): a run
that starts between the check and the write finds its files replaced under
it (`Device.started_behind_the_check`).
-/
import ZeroDpi.Android.AutoUpdate
import ZeroDpi.Proofs.RuntimeMarker
import ZeroDpi.Proofs.ProfileUpdate

namespace ZeroDpi.Android

open Lib ProfileRepository

namespace Device

/-- The step is the worker's or another one's, or one of the service that
the marker is made for. -/
def Marked (d : Device) : DeviceLabel → Prop
  | .service label => d.service.Marked label
  | _ => True

variable (app : App)
  (validateFiles : ProfileUpdateFileContents → Option String)

/-- The marker is seen, and each check of the worker refuses: the files
stay as they are. -/
structure Refused (d : Device) : Prop where
  active : d.isRuntimeActive = (true, d)
  all : ∀ download due, d.worker = .checkAll due →
    d.work app validateFiles download
      = { d with worker := .recordFailure due skippedMessage [] }
  each : ∀ download profile rest, d.worker = .nextProfile (profile :: rest) →
    d.work app validateFiles download
      = { d with worker := .recordFailure [profile] startedMessage [] }
  beforeApply : ∀ download profile update remote files rest,
    d.worker = .update profile update rest →
    update.phase = .applying remote files →
    d.work app validateFiles download
      = { d with worker := .update profile { update with
          phase := .failing (some remote) startedMessage } rest }

variable {app validateFiles} {d d' : Device}

theorem isRuntimeActive_of_backed (h : d.service.Backed) :
    d.isRuntimeActive = (true, d) := by
  unfold isRuntimeActive
  rw [h.isRuntimeActive]

theorem refused_of_backed (h : d.service.Backed) :
    Refused app validateFiles d := by
  have hactive := isRuntimeActive_of_backed h
  refine ⟨hactive, ?_, ?_, ?_⟩
  · intro download due hworker
    unfold work
    rw [hworker]
    dsimp only
    rw [hactive]
    rfl
  · intro download profile rest hworker
    unfold work
    rw [hworker]
    dsimp only
    rw [hactive]
    rfl
  · intro download profile update remote files rest hworker hphase
    unfold work
    rw [hworker]
    dsimp only
    rw [hphase, hactive]
    simp only [if_true, advance, ProfileUpdate.Update.next, hphase, updated]

/-- The worker leaves the service as it is, or as a look at the marker
does. -/
theorem service_work (download : Except String ProfileUpdateFileContents)
    (d : Device) :
    (d.work app validateFiles download).service = d.service
      ∨ (d.work app validateFiles download).service
        = d.isRuntimeActive.2.service := by
  unfold work
  cases d.worker with
  | loadIndex =>
      dsimp only
      split
      · exact .inl rfl
      · exact .inl rfl
  | reconcile index =>
      dsimp only
      split
      · exact .inl rfl
      · exact .inl rfl
  | checkAll due => exact .inr rfl
  | nextProfile rest =>
      cases rest with
      | nil => exact .inl rfl
      | cons profile rest => exact .inr rfl
  | recordFailure failed message rest =>
      cases failed with
      | nil => exact .inl rfl
      | cons profile failed => exact .inl rfl
  | update profile update rest =>
      dsimp only
      split
      · split
        · exact .inr rfl
        · exact .inr rfl
      · exact .inl rfl
  | apply profile update rest => exact .inl rfl
  | ended => exact .inl rfl

theorem safe_isRuntimeActive (h : d.service.Safe) :
    d.isRuntimeActive.2.service.Safe := by
  rcases h with hidle | hbacked
  · exact .inl ⟨hidle.clear, hidle.run, hidle.session⟩
  · rw [isRuntimeActive_of_backed hbacked]
    exact .inr hbacked

theorem Steps.safe {label : DeviceLabel}
    (h : Steps app validateFiles d label d') (hmarked : d.Marked label)
    (hsafe : d.service.Safe) : d'.service.Safe := by
  cases h with
  | service hstep => exact hsafe.step hmarked hstep
  | appMarks profileId =>
      rcases hsafe with hidle | hbacked
      · exact .inl ⟨hidle.clear, hidle.run, hidle.session⟩
      · exact .inr ⟨rfl, rfl, hbacked.foreground⟩
  | onStartCommand =>
      rcases hsafe with hidle | hbacked
      · exact .inl ⟨hidle.clear, hidle.run, hidle.session⟩
      · exact .inr ⟨hbacked.active, hbacked.expected, rfl⟩
  | doWork _ => exact hsafe
  | work download =>
      rcases @service_work app validateFiles download d with hsame | hlooked
      · rw [hsame]
        exact hsafe
      · rw [hlooked]
        exact safe_isRuntimeActive hsafe
  | files world => exact hsafe

/-- As long as a process of the service may be running, the worker is
refused. -/
theorem worker_refuses (app : App)
    (validateFiles : ProfileUpdateFileContents → Option String)
    (marker : RuntimeMarker) (epochMs : Int) (worker : WorkPoint)
    (world : World Content) (labels : List DeviceLabel) (d : Device)
    (hrun : Run
      (fun d label d' => Steps app validateFiles d label d' ∧ d.Marked label)
      ⟨.onCreate marker epochMs, worker, world⟩ labels d)
    (hmay : d.service.MayRun) : Refused app validateFiles d := by
  have hsafe : d.service.Safe :=
    hrun.invariant_of (P := fun d : Device => d.service.Safe)
      (fun hs hmarked hstep => hstep.safe hmarked hs)
      (Service.safe_onCreate marker epochMs)
  exact refused_of_backed (hsafe.backed_of_mayRun hmay)

-- ------------------------------------------------ a run, and a pick session

theorem Marked.of_false {d : Device} {label : ServiceLabel}
    (hsession : d.service.opensStandalone label = false)
    (hends : d.service.endsRun label = false) :
    d.Marked (.service label) := by
  refine ⟨hsession, ?_⟩
  rw [hends]
  exact nofun

/-- A device on which nothing runs, and an update is due. -/
def sampleDevice : Device := ⟨.onCreate {} 0, .ended, ProfileUpdate.device⟩

/-- The start of a run, up to its process. -/
def startLabels : List ServiceLabel :=
  [.startZeroDpi "default" none, .resume 0 .done,
    .resume 0 (.contents Service.plainConfig),
    .resume 0 (.prepared ⟨Service.plainConfig, none⟩), .resume 0 .done,
    .resume 0 (.pin none), .launched 0]

theorem worker_refuses_run :
    ∃ d, Run (fun d label d' =>
        Steps ProfileUpdate.remoteApp (fun _ => none) d label d'
          ∧ d.Marked label)
        sampleDevice (startLabels.map .service) d
      ∧ d.service.children = ["default"]
      ∧ Refused ProfileUpdate.remoteApp (fun _ => none) d := by
  have hrun : ∃ d, Run (fun d label d' =>
        Steps ProfileUpdate.remoteApp (fun _ => none) d label d'
          ∧ d.Marked label)
        sampleDevice (startLabels.map .service) d
      ∧ d.service.children = ["default"] := by
    exact ⟨_,
      .cons ⟨.service rfl, .of_false rfl rfl⟩ <|
      .cons ⟨.service rfl, .of_false rfl rfl⟩ <|
      .cons ⟨.service rfl, .of_false rfl rfl⟩ <|
      .cons ⟨.service rfl, .of_false rfl rfl⟩ <|
      .cons ⟨.service rfl, .of_false rfl rfl⟩ <|
      .cons ⟨.service rfl, .of_false rfl rfl⟩ <|
      .cons ⟨.service rfl, .of_false rfl rfl⟩ <| .nil _, rfl⟩
  obtain ⟨d, hrun, hchildren⟩ := hrun
  refine ⟨d, hrun, hchildren, ?_⟩
  refine worker_refuses ProfileUpdate.remoteApp (fun _ => none) {} 0 .ended
    ProfileUpdate.device _ d hrun (.inl ?_)
  rw [hchildren]
  exact List.cons_ne_nil _ _

/-- Steps of the service are steps of the device. -/
theorem run_service {s t : Service} {labels : List ServiceLabel}
    (h : Run Service.Steps s labels t) (worker : WorkPoint)
    (world : World Content) :
    Run (Steps app validateFiles) ⟨s, worker, world⟩
      (labels.map .service) ⟨t, worker, world⟩ := by
  induction h with
  | nil s => exact .nil _
  | cons hstep _ ih => exact .cons (.service hstep) ih

theorem Steps.work_to {download : Except String ProfileUpdateFileContents}
    (h : d.work app validateFiles download = d') :
    Steps app validateFiles d (.work download) d' := by
  rw [← h]
  exact .work download

/-- A standalone pick session, up to the process of its scan. -/
def pickLabels : List ServiceLabel :=
  [.requestTargetPick "default", .resume 0 (.contents Service.plainConfig),
    .resume 0 (.prepared ⟨Service.plainConfig, none⟩), .resume 0 .done,
    .resume 0 .done, .launched 0]

/-- The worker's update of the sample device's profile. -/
def sampleUpdate (phase : ProfileUpdate.Phase) : ProfileUpdate.Update :=
  ⟨.automatic, some ProfileUpdate.oldSettings, phase⟩

/-- Without a marker a check finds nothing. -/
theorem look_inactive {s : Service} (hinactive : s.marker.active = false)
    (worker : WorkPoint) (world : World Content) :
    (⟨s, worker, world⟩ : Device).isRuntimeActive
      = (false, ⟨s, worker, world⟩) := by
  simp [isRuntimeActive, RuntimeMarker.isRuntimeActive, hinactive]

/-- Beside a service without a marker the worker gets past the checks it
makes before it begins with the profile. -/
theorem worker_to_update {s : Service} (hinactive : s.marker.active = false)
    (hepoch : s.epochMs = 0) :
    ∃ labels world, Run (fun d label d' =>
        Steps ProfileUpdate.remoteApp (fun _ => none) d label d'
          ∧ d.Marked label)
      ⟨s, .ended, ProfileUpdate.device⟩ labels
      ⟨s, .update
        (ProfileUpdate.profileWith ProfileUpdate.oldSettings 0 (Int.le_refl 0))
        (sampleUpdate (.called (some ProfileUpdate.oldSettings))) [], world⟩
      ∧ ProfileUpdate.Holding world ProfileUpdate.oldSettings := by
  let profile :=
    ProfileUpdate.profileWith ProfileUpdate.oldSettings 0 (Int.le_refl 0)
  let index := ProfileUpdate.indexWith profile
  let app := ProfileUpdate.remoteApp
  obtain ⟨_, w, hload, hclear, rfl, hi⟩ := ProfileUpdate.Ends.run_ok
    (ProfileUpdate.load_clear ProfileUpdate.device_clear
      ProfileUpdate.device_holds)
  have hload : loadIndexLocked app ProfileUpdate.device = (.ok index, w) :=
    hload
  have hlook := look_inactive hinactive
  have hvalid : (ProfileUpdate.oldSettings.validateForUpdate app.jvm).isValid
      = true := by decide
  -- the worker, step by step
  have hread : (⟨s, .loadIndex, ProfileUpdate.device⟩ : Device).work app
      (fun _ => none) (.ok ⟨"", "", ""⟩) = ⟨s, .reconcile index, w⟩ := by
    simp only [work, app, ProfileRepository.loadIndex, hload]
  have hreconcile : (⟨s, .reconcile index, w⟩ : Device).work app
      (fun _ => none) (.ok ⟨"", "", ""⟩) = ⟨s, .checkAll [profile], w⟩ := by
    simp only [work, hepoch]
    rfl
  have hall : (⟨s, .checkAll [profile], w⟩ : Device).work app
      (fun _ => none) (.ok ⟨"", "", ""⟩) = ⟨s, .nextProfile [profile], w⟩ := by
    simp only [work, hlook]
    rfl
  have heach : (⟨s, .nextProfile [profile], w⟩ : Device).work app
      (fun _ => none) (.ok ⟨"", "", ""⟩)
      = ⟨s, .update profile
          (sampleUpdate (.called (some ProfileUpdate.oldSettings))) [], w⟩ := by
    simp only [work, hlook, checkProfile,
      show profile.remote = ProfileUpdate.oldSettings from rfl, hvalid]
    rfl
  exact ⟨_, w,
    .cons ⟨.doWork rfl, trivial⟩ <| .cons ⟨.work_to hread, trivial⟩ <|
    .cons ⟨.work_to hreconcile, trivial⟩ <|
    .cons ⟨.work_to hall, trivial⟩ <| .cons ⟨.work_to heach, trivial⟩ <|
    .nil _, hclear, 0, Int.le_refl 0, hi⟩

/-- And past the one behind the download, to the write of the profile. -/
theorem worker_to_apply {s : Service} (hinactive : s.marker.active = false)
    (hepoch : s.epochMs = 0) :
    ∃ labels world, Run (fun d label d' =>
        Steps ProfileUpdate.remoteApp (fun _ => none) d label d'
          ∧ d.Marked label)
      ⟨s, .ended, ProfileUpdate.device⟩ labels
      ⟨s, .apply
        (ProfileUpdate.profileWith ProfileUpdate.oldSettings 0 (Int.le_refl 0))
        (sampleUpdate (.applying ProfileUpdate.oldSettings ⟨"", "", ""⟩)) [],
        world⟩ := by
  let profile :=
    ProfileUpdate.profileWith ProfileUpdate.oldSettings 0 (Int.le_refl 0)
  let app := ProfileUpdate.remoteApp
  let files : ProfileUpdateFileContents := ⟨"", "", ""⟩
  obtain ⟨labels, w, hupdate, hclear, time, htime, hi⟩ :=
    worker_to_update hinactive hepoch
  obtain ⟨_, w', hload, -, rfl, -⟩ := ProfileUpdate.Ends.run_ok
    (ProfileUpdate.load_clear hclear hi)
  have hload : loadIndexLocked app w = (.ok (ProfileUpdate.indexWith
      (ProfileUpdate.profileWith ProfileUpdate.oldSettings time htime)), w') :=
    hload
  have hbegin := @ProfileUpdate.begin_of_valid ProfileUpdate.oldSettings
    ProfileUpdate.oldSettings time htime (by decide)
  have hcalled : (⟨s, .update profile
        (sampleUpdate (.called (some ProfileUpdate.oldSettings))) [], w⟩
        : Device).work app (fun _ => none) (.ok files)
      = ⟨s, .update profile
          (sampleUpdate (.downloading ProfileUpdate.oldSettings)) [],
        w'⟩ := by
    simp only [work, sampleUpdate, advance, ProfileUpdate.Update.next, app,
      ProfileRepository.loadIndex, hload]
    rw [show profile.id = "default" from rfl, hbegin]
    rfl
  have hdownload : (⟨s, .update profile
        (sampleUpdate (.downloading ProfileUpdate.oldSettings)) [], w'⟩
        : Device).work app (fun _ => none) (.ok files)
      = ⟨s, .update profile
          (sampleUpdate (.applying ProfileUpdate.oldSettings files)) [],
        w'⟩ := rfl
  have happly : (⟨s, .update profile
        (sampleUpdate (.applying ProfileUpdate.oldSettings files)) [], w'⟩
        : Device).work app (fun _ => none) (.ok files)
      = ⟨s, .apply profile
          (sampleUpdate (.applying ProfileUpdate.oldSettings files)) [],
        w'⟩ := by
    simp only [work, sampleUpdate, look_inactive hinactive]
    rfl
  exact ⟨_, w', hupdate.append <|
    .cons ⟨.work_to hcalled, trivial⟩ <|
    .cons ⟨.work_to hdownload, trivial⟩ <|
    .cons ⟨.work_to happly, trivial⟩ <| .nil _⟩

/-- The scan runs, and the worker comes to the write of its profile. -/
theorem standalone_pick_is_unmarked :
    ∃ labels d profile update,
      Run (Steps ProfileUpdate.remoteApp fun _ => none) sampleDevice labels d
      ∧ d.service.children = ["default"] ∧ d.isRuntimeActive.1 = false
      ∧ d.worker = .apply profile update [] ∧ profile.id = "default"
      ∧ update.phase = .applying ProfileUpdate.oldSettings ⟨"", "", ""⟩
      ∧ ¬ Refused ProfileUpdate.remoteApp (fun _ => none) d := by
  obtain ⟨s, hpick⟩ : ∃ s, pickLabels.foldlM Service.step (.onCreate {} 0)
      = some s := ⟨_, rfl⟩
  have hs : s.children = ["default"] ∧ s.marker.active = false
      ∧ s.epochMs = 0 := by
    cases hpick
    exact ⟨rfl, rfl, rfl⟩
  obtain ⟨hchildren, hinactive, hepoch⟩ := hs
  obtain ⟨labels, world, hworker⟩ := worker_to_apply hinactive hepoch
  have hlook : ∀ worker, (⟨s, worker, world⟩ : Device).isRuntimeActive.1
      = false := fun worker =>
    congrArg Prod.fst (look_inactive hinactive worker world)
  refine ⟨_, _, _, _, (run_service (.of_foldlM hpick) .ended
    ProfileUpdate.device).append (hworker.mono fun h => h.1), hchildren,
    hlook _, rfl, rfl, rfl, ?_⟩
  intro hrefused
  have hactive := congrArg Prod.fst hrefused.active
  rw [hlook] at hactive
  cases hactive

/-- Behind its last check the worker does not look at the service: whatever
that has become in the meantime, the next step writes the same. -/
theorem apply_unchecked {profile : ZeroDpiProfile}
    {update : ProfileUpdate.Update} {rest : List ZeroDpiProfile}
    (h : d.worker = .apply profile update rest) (s : Service)
    (download : Except String ProfileUpdateFileContents) :
    ({ d with service := s }).work app validateFiles download
      = { d.work app validateFiles download with service := s } := by
  unfold work
  rw [h]
  rfl

/-- A run that starts there: its process runs, every check would refuse,
and the worker's next step is the write of the profile, as if nothing
ran. -/
theorem started_behind_the_check :
    ∃ labels d profile update,
      Run (fun d label d' =>
          Steps ProfileUpdate.remoteApp (fun _ => none) d label d'
            ∧ d.Marked label) sampleDevice labels d
      ∧ d.service.children = ["default"]
      ∧ Refused ProfileUpdate.remoteApp (fun _ => none) d
      ∧ d.worker = .apply profile update [] ∧ profile.id = "default"
      ∧ ∀ s download, ({ d with service := s }).work
          ProfileUpdate.remoteApp (fun _ => none) download
        = { d.work ProfileUpdate.remoteApp (fun _ => none) download with
            service := s } := by
  obtain ⟨labels, world, hworker⟩ :=
    worker_to_apply (s := .onCreate {} 0) rfl rfl
  have hstarts : ∀ worker world, ∃ d, Run (fun d label d' =>
        Steps ProfileUpdate.remoteApp (fun _ => none) d label d'
          ∧ d.Marked label)
        ⟨.onCreate {} 0, worker, world⟩ (startLabels.map .service) d
      ∧ d.service.children = ["default"] ∧ d.service.Backed
      ∧ d.worker = worker := by
    intro worker world
    exact ⟨_,
      .cons ⟨.service rfl, .of_false rfl rfl⟩ <|
      .cons ⟨.service rfl, .of_false rfl rfl⟩ <|
      .cons ⟨.service rfl, .of_false rfl rfl⟩ <|
      .cons ⟨.service rfl, .of_false rfl rfl⟩ <|
      .cons ⟨.service rfl, .of_false rfl rfl⟩ <|
      .cons ⟨.service rfl, .of_false rfl rfl⟩ <|
      .cons ⟨.service rfl, .of_false rfl rfl⟩ <| .nil _,
      rfl, ⟨rfl, rfl, rfl⟩, rfl⟩
  obtain ⟨d, hstart, hchildren, hbacked, hat⟩ := hstarts _ world
  exact ⟨_, d, _, _, hworker.append hstart, hchildren,
    refused_of_backed hbacked, hat, rfl, apply_unchecked hat⟩

/-- A stop while the log session is opened ends the run, and the process
starts behind it. -/
theorem late_start_is_unmarked :
    ∃ s, Run Service.Steps (.onCreate {} 0)
        [.startZeroDpi "default" none, .stopZeroDpi,
          .resume 1 (.stopped .alreadyExited), .resume 0 .done,
          .resume 0 (.contents Service.plainConfig),
          .resume 0 (.prepared ⟨Service.plainConfig, none⟩),
          .resume 0 .done, .launched 0] s
      ∧ s.children = ["default"]
      ∧ (s.marker.isRuntimeActive s.foreground s.epochMs).1 = false :=
  ⟨_, .of_foldlM rfl, rfl, rfl⟩

end Device

end ZeroDpi.Android
