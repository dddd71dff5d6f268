/-
Edits of the remote settings beside a running update.

An update writes the whole settings it took at its start, so an edit made
in between is lost (`edit_during_download_is_lost`). Where the settings a
user edits are still those the update took whenever it writes
(`Undisturbed`), they stay those of the last edit: an edit stores its own,
and a write of an update stores the ones that are there.
-/
import ZeroDpi.Android.ProfileUpdate
import ZeroDpi.Proofs.ProfileStore

namespace ZeroDpi.Android.ProfileUpdate

open Lib Throwing Storage ProfileRepository

variable {app : App} {profileId : String}
  {validateFiles : ProfileUpdateFileContents → Option String}

-- ======================================================== the stored profile

variable (app profileId) in
/-- The stored profile has these settings of the user's. -/
def Stored (w : World Content) (remote : ProfileRemoteSettings) : Prop :=
  ∃ index p, Holds app w index ∧ requireProfile index profileId = .ok p
    ∧ userSettings p.remote = userSettings remote

/-- A world holds one index. -/
theorem holds_unique {w : World Content} {i j : ProfileIndex}
    (hi : Holds app w i) (hj : Holds app w j) : i = j := by
  obtain ⟨c, hc, hi⟩ := hi
  obtain ⟨d, hd, hj⟩ := hj
  rw [hc] at hd
  cases hd
  rw [hi] at hj
  cases hj
  rfl

/-- So something is stored. -/
theorem holds_some {w : World Content} {i : ProfileIndex}
    (h : Holds app w i) : stored w ≠ none := by
  obtain ⟨content, hcontent, -⟩ := h
  rw [hcontent]
  exact Option.some_ne_none content

/-- Where an index is stored, the same one is. -/
theorem holds_same {w w' : World Content} {i : ProfileIndex}
    (h : Same app w w') (hi : Holds app w i) : Holds app w' i := by
  rcases h with hsame | ⟨hnone, -⟩
  · unfold Holds
    rw [hsame]
    exact hi
  · exact absurd hnone (holds_some hi)

/-- A change of the profile, where it is stored. -/
theorem done_stored {w w' : World Content} {i i' : ProfileIndex}
    {p : ZeroDpiProfile}
    {R : ProfileRemoteSettings → ProfileRemoteSettings → Prop}
    (h : Done app (Changed profileId R) w i' w') (hi : Holds app w i)
    (hp : requireProfile i profileId = .ok p) :
    Holds app w' i' ∧ ∃ p', requireProfile i' profileId = .ok p'
      ∧ R p.remote p'.remote := by
  obtain ⟨before, loaded, hsame, hloaded, hchanged, hvalid, hstored⟩ := h
  obtain rfl := holds_unique (holds_same hsame hi) hloaded
  obtain ⟨existing, changed, hrequire, hid, rfl, hR⟩ := hchanged
  rw [hp] at hrequire
  cases hrequire
  refine ⟨⟨_, hstored, requireValid_eq_ok.mpr ⟨hvalid, rfl⟩⟩, changed, ?_, hR⟩
  exact requireProfile_withProfile hi.valid hp hid

/-- Settings that are stored stay stored where no profile changes. -/
theorem Stored.same {w w' : World Content} {remote : ProfileRemoteSettings}
    (h : Stored app profileId w remote) (hsame : Same app w w') :
    Stored app profileId w' remote := by
  obtain ⟨index, p, hi, hp, huser⟩ := h
  exact ⟨index, p, holds_same hsame hi, hp, huser⟩

/-- A call that leaves the user's settings of the stored profile leaves
those of the last edit. -/
theorem Stored.changed {w : World Content} {remote : ProfileRemoteSettings}
    {m : Repo ProfileIndex}
    {R : ProfileRemoteSettings → ProfileRemoteSettings → Prop}
    (h : Stored app profileId w remote)
    (hm : Ends m w (Done app (Changed profileId R) w)
      fun _ w' => Same app w w')
    (hR : ∀ index p new, Holds app w index →
      requireProfile index profileId = .ok p → R p.remote new →
      userSettings new = userSettings p.remote) :
    Stored app profileId (m w).2 remote := by
  obtain ⟨index, p, hi, hp, huser⟩ := h
  generalize hrun : m w = ending
  obtain ⟨result, w'⟩ := ending
  cases result with
  | ok i' =>
      obtain ⟨hi', p', hp', hR'⟩ := done_stored (hm.of_ok hrun) hi hp
      exact ⟨i', p', hi', hp', (hR index p _ hi hp hR').trans huser⟩
  | error e => exact Stored.same ⟨index, p, hi, hp, huser⟩ (hm.of_error hrun)

-- ============================================================= the condition

variable (app) in
/-- The settings a step of an update is about to store. -/
def Update.writes (u : Update) (answer : Answer) :
    Option ProfileRemoteSettings :=
  match u.phase with
  | .applying remote _ =>
      match answer.beforeApply with
      | some _ => none
      | none => some remote
  | .failing remote _ => remote
  | .thrown _ => u.taken.bind (takeIfValid app)
  | .called _ | .downloading _ | .ended => none

variable (app profileId) in
/-- Where a step is about to store settings, the user's part of them is the
one that is stored. -/
def Undisturbed (s : System) : Action → Prop
  | .step i answer => ∀ u, s.updates[i]? = some u →
      ∀ remote, u.writes app answer = some remote →
      ∀ index p, Holds app s.world index →
        requireProfile index profileId = .ok p →
        userSettings remote = userSettings p.remote
  | _ => True

variable (app profileId) in
/-- The user's settings are those of the last edit. -/
def Current (s : System) : Prop :=
  ∀ remote, s.edited = some remote → Stored app profileId s.world remote

-- ================================================================= the steps

/-- Loading changes none. -/
theorem loadIndex_same (w : World Content) :
    Same app w (loadIndex app w).2 := by
  have hends := @loadIndexLocked_ends app w
  unfold loadIndex
  generalize hrun : loadIndexLocked app w = ending
  obtain ⟨result, w'⟩ := ending
  cases result with
  | ok index => exact (hends.of_ok hrun).1
  | error e => exact hends.of_error hrun

/-- A step of an update that stores nothing else leaves the edit. -/
theorem Update.next_stored {u : Update} {answer : Answer} {w : World Content}
    {edited : ProfileRemoteSettings} (h : Stored app profileId w edited)
    (hwrites : ∀ remote, u.writes app answer = some remote →
      ∀ index p, Holds app w index → requireProfile index profileId = .ok p →
        userSettings remote = userSettings p.remote) :
    Stored app profileId (u.next app profileId validateFiles answer w).2
      edited := by
  -- recording a failure, with settings or without
  have hrecord : ∀ mode message (remote : Option ProfileRemoteSettings),
      (∀ r, remote = some r → u.writes app answer = some r) →
      Stored app profileId
        (recordRemoteUpdateFailure app profileId mode message remote w).2
        edited := by
    intro mode message remote hremote
    refine h.changed
      (recordRemoteUpdateFailure_ends profileId mode message remote w) ?_
    intro index p new hindex hp hnew
    cases remote with
    | none => exact hnew
    | some r => exact hnew.trans (hwrites r (hremote r rfl) index p hindex hp)
  unfold Update.next
  cases hphase : u.phase with
  | called remote =>
      have hsame := @loadIndex_same app w
      simp only
      generalize loadIndex app w = ending at hsame ⊢
      obtain ⟨result, w'⟩ := ending
      cases result with
      | ok index => exact h.same hsame
      | error e => exact h.same hsame
  | downloading remote =>
      simp only
      split
      · exact h
      · split
        · exact h
        · exact h
  | applying remote files =>
      simp only
      split
      · exact h
      case h_2 hbefore =>
        have hwrite : u.writes app answer = some remote := by
          simp [Update.writes, hphase, hbefore]
        have happly := h.changed (applyRemoteUpdate_ends profileId remote files
          u.mode "Updated profile from remote." w) (by
            intro index p new hindex hp hnew
            exact hnew.trans (hwrites remote hwrite index p hindex hp))
        generalize applyRemoteUpdate app profileId remote files u.mode
          "Updated profile from remote." w = ending at happly ⊢
        obtain ⟨result, w'⟩ := ending
        cases result with
        | ok index => exact happly
        | error e => exact happly
  | failing remote message =>
      have hfailed := hrecord u.mode message remote (by
        intro r hr
        simp [Update.writes, hphase, hr])
      simp only
      generalize recordRemoteUpdateFailure app profileId u.mode message remote
        w = ending at hfailed ⊢
      obtain ⟨result, w'⟩ := ending
      cases result with
      | ok index => exact hfailed
      | error e => exact hfailed
  | thrown message =>
      simp only
      cases htaken : u.taken with
      | none => exact h
      | some remote =>
          refine hrecord _ _ _ ?_
          intro r hr
          simp [Update.writes, hphase, htaken, hr]
  | ended => exact h

/-- An edit stores its settings. -/
theorem done_edit {w w' : World Content} {i : ProfileIndex}
    {remote : ProfileRemoteSettings}
    (h : Done app (Changed profileId fun _ new => new = remote) w i w') :
    Stored app profileId w' remote := by
  obtain ⟨before, loaded, -, hloaded, hchanged, hvalid, hstored⟩ := h
  obtain ⟨existing, changed, hrequire, hid, rfl, hremote⟩ := hchanged
  refine ⟨_, changed, ⟨_, hstored, requireValid_eq_ok.mpr ⟨hvalid, rfl⟩⟩, ?_, ?_⟩
  · exact requireProfile_withProfile hloaded.valid hrequire hid
  · rw [hremote]

/-- The settings of the last edit are current. -/
theorem Current.edit {s : System} (h : Current app profileId s)
    (remote : ProfileRemoteSettings) :
    Current app profileId (s.edit app profileId remote) := by
  have hends := @updateRemoteSettings_ends app profileId remote s.world
  unfold System.edit
  generalize hrun : updateRemoteSettings app profileId remote s.world = ending
  obtain ⟨result, w'⟩ := ending
  cases result with
  | ok i =>
      intro r hr
      cases hr
      exact done_edit (hends.of_ok hrun)
  | error e =>
      intro r hr
      exact (h r hr).same (hends.of_error hrun)

/-- Also when an update takes them. -/
theorem Current.take {s : System} (h : Current app profileId s) :
    Current app profileId (s.take app profileId) := by
  have hsame := @loadIndex_same app s.world
  unfold System.take
  generalize loadIndex app s.world = ending at hsame ⊢
  obtain ⟨result, w'⟩ := ending
  cases result with
  | error e => exact fun r hr => (h r hr).same hsame
  | ok index =>
      simp only
      split
      · exact fun r hr => (h r hr).same hsame
      · exact fun r hr => (h r hr).same hsame

/-- And over every step that does not disturb them. -/
theorem Current.step {s : System} {action : Action}
    (h : Current app profileId s)
    (hundisturbed : Undisturbed app profileId s action) :
    Current app profileId (s.step app profileId validateFiles action) := by
  cases action with
  | edit remote => exact h.edit remote
  | take => exact h.take
  | call mode => exact h
  | step i answer =>
      simp only [System.step]
      cases hu : s.updates[i]? with
      | none => exact h
      | some u =>
          exact fun r hr => Update.next_stored (h r hr) (hundisturbed u hu)
  | device stuck faults nanos clock ids => exact h

/-- In every run of updates and edits in which no edit comes between an
update's start and what it writes, the user's settings are those of the
last edit. -/
theorem edits_survive_undisturbed_updates (w : World Content)
    (actions : List Action)
    (h : Along (System.step app profileId validateFiles)
      (Undisturbed app profileId) (System.start w) actions) :
    Current app profileId
      (actions.foldl (System.step app profileId validateFiles)
        (System.start w)) := by
  refine along_invariant (fun hs hc => Current.step hs hc) ?_ h
  exact fun r hr => nomatch hr

-- =============================================================== a lost edit

/-- A load without faults, where an index is stored. -/
theorem load_clear {w : World Content} {i : ProfileIndex} (h : Clear w)
    (hi : Holds app w i) :
    Ends (loadIndexLocked app) w
      (fun current w' => Clear w' ∧ current = i ∧ Holds app w' i)
      fun _ _ => False := by
  refine ((loadIndexLocked_clear h (.inr ⟨i, hi⟩)).and
    (loadIndexLocked_ends w)).mono ?_ fun _ _ hfalse => hfalse.1
  rintro current w' ⟨hclear, hsame, hcurrent⟩
  have hholds := holds_same hsame hi
  exact ⟨hclear, holds_unique hcurrent hholds, hholds⟩

/-- The end of a call that changes the profile. -/
theorem change_clear {w : World Content} {i : ProfileIndex}
    {q : ZeroDpiProfile} (h : Clear w) (hvalid : Valid app (withProfile i q)) :
    Ends (lift (withUpdatedProfile app i q) >>= writeIndexLocked app) w
      (fun i' w' => Clear w' ∧ i' = withProfile i q ∧ Holds app w' i')
      fun _ _ => False := by
  have hnext : withUpdatedProfile app i q = .ok (withProfile i q) :=
    requireValid_eq_ok.mpr ⟨hvalid, rfl⟩
  rw [hnext]
  refine ((sure_writeIndexLocked hvalid w h).and
    (writeIndexLocked_ends (withProfile i q) w)).mono ?_
    fun _ _ hfalse => hfalse.1
  rintro i' w' ⟨hclear, rfl, -, hstored⟩
  exact ⟨hclear, rfl, _, hstored, requireValid_eq_ok.mpr ⟨hvalid, rfl⟩⟩

/-- With no fault ahead an edit succeeds. -/
theorem updateRemoteSettings_clear {w : World Content} {i : ProfileIndex}
    {p : ZeroDpiProfile} {remote : ProfileRemoteSettings} (h : Clear w)
    (hi : Holds app w i) (hp : requireProfile i profileId = .ok p)
    {q : ∀ now : Int, 0 ≤ now → ZeroDpiProfile}
    (hnew : ∀ now hnow, ZeroDpiProfile.new p.id p.name p.createdAtEpochMs now
      remote = .ok (q now hnow))
    (hvalid : ∀ now hnow, Valid app (withProfile i (q now hnow))) :
    Ends (updateRemoteSettings app profileId remote) w
      (fun i' w' => Clear w' ∧ Holds app w' i'
        ∧ ∃ now hnow, i' = withProfile i (q now hnow))
      fun _ _ => False := by
  refine ends_bind ((load_clear h hi).mono ?_ fun _ _ hfalse => hfalse)
  rintro current w₁ ⟨h₁, rfl, -⟩
  rw [hp]
  refine ends_bind (ends_bind ?_)
  refine ends_clock_clear h₁ fun now w₂ hnow h₂ => ?_
  rw [hnew now hnow]
  refine ends_bind ?_
  refine (change_clear h₂ (hvalid now hnow)).mono ?_ fun _ _ hfalse => hfalse
  rintro i' w' ⟨hclear, hi', hholds⟩
  exact ⟨hclear, hholds, now, hnow, hi'⟩

/-- So does the record of a failure. -/
theorem recordRemoteUpdateFailure_clear {w : World Content}
    {i : ProfileIndex} {p : ZeroDpiProfile} {remote : ProfileRemoteSettings}
    {mode : ProfileUpdateMode} {message : String} (h : Clear w)
    (hi : Holds app w i) (hp : requireProfile i profileId = .ok p)
    (hremote : (remote.validate app.jvm false).isValid = true)
    {q : ∀ now : Int, 0 ≤ now → ZeroDpiProfile}
    (hstatus : ∀ now hnow, withRemoteUpdateStatus p remote mode false message
      now = .ok (q now hnow))
    (hvalid : ∀ now hnow, Valid app (withProfile i (q now hnow))) :
    Ends (recordRemoteUpdateFailure app profileId mode message (some remote)) w
      (fun i' w' => Clear w' ∧ Holds app w' i'
        ∧ ∃ now hnow, i' = withProfile i (q now hnow))
      fun _ _ => False := by
  refine ends_bind ((load_clear h hi).mono ?_ fun _ _ hfalse => hfalse)
  rintro current w₁ ⟨h₁, rfl, -⟩
  have hcheck := (result_requireValid_eq_ok
    (remote.validate app.jvm false) "Profile remote settings").mpr hremote
  rw [hp]
  refine ends_bind ?_
  show Ends (lift ((remote.validate app.jvm false).requireValid _) >>= _) w₁ _ _
  rw [hcheck]
  refine ends_bind (ends_bind ?_)
  refine ends_clock_clear h₁ fun now w₂ hnow h₂ => ?_
  show Ends (lift (withRemoteUpdateStatus p remote mode false message now)
    >>= _) w₂ _ _
  rw [hstatus now hnow]
  refine ends_bind ?_
  refine (change_clear h₂ (hvalid now hnow)).mono ?_ fun _ _ hfalse => hfalse
  rintro i' w' ⟨hclear, hi', hholds⟩
  exact ⟨hclear, hholds, now, hnow, hi'⟩

/-- A run without faults of what ends. -/
theorem Ends.run_ok {m : Repo ProfileIndex} {w : World Content}
    {Q : ProfileIndex → World Content → Prop}
    (h : Ends m w Q fun _ _ => False) : ∃ i w', m w = (.ok i, w') ∧ Q i w' := by
  unfold Ends at h
  generalize m w = ending at h ⊢
  obtain ⟨result, w'⟩ := ending
  cases result with
  | ok i => exact ⟨i, w', rfl, h⟩
  | error e => exact h.elim

/-- Settings in front of the edit. -/
def oldSettings : ProfileRemoteSettings where
  configUrl := "https://h/c"
  sniListUrl := "https://h/s"
  ipListUrl := "https://h/i"
  autoUpdateEnabled := true

/-- The same with automatic updates switched off. -/
def newSettings : ProfileRemoteSettings :=
  { oldSettings with autoUpdateEnabled := false }

/-- An app that knows the URLs of the example. -/
def remoteApp : App where
  jvm := {
    uri := fun text =>
      if "https://h/".toList.isPrefixOf text.toList then
        some ⟨some "https", some "h"⟩
      else none
    lowercase := fun text => String.ofList (text.toList.map Char.toLower) }
  asset := fun _ => ""
  cfAsset := ""
  decode := fun _ => none

/-- The default profile is valid. -/
theorem default_idValid :
    (ZeroDpiProfile.validateId "default").isValid = true := by decide

/-- So is its name. -/
theorem default_nameValid :
    (ZeroDpiProfile.validateName "Default").isValid = true := by decide

/-- The profile with given settings, changed at some time. -/
def profileWith (remote : ProfileRemoteSettings) (now : Int) (h : 0 ≤ now) :
    ZeroDpiProfile where
  id := "default"
  name := "Default"
  createdAtEpochMs := 0
  updatedAtEpochMs := now
  remote := remote
  idValid := default_idValid
  nameValid := default_nameValid
  created := Int.le_refl 0
  updated := h

/-- An index with that profile only. -/
def indexWith (p : ZeroDpiProfile) : ProfileIndex where
  schemaVersion := ProfileIndex.profileIndexSchemaVersion
  activeProfileId := "default"
  profiles := [p]

/-- A device on which the profile has the old settings. -/
def device : World Content :=
  { freshDevice with
    files := fun path =>
      if path = indexFile then
        some (.index (indexWith (profileWith oldSettings 0 (Int.le_refl 0))))
      else none }

/-- An update that times out. -/
def failed : Answer := ⟨.error "timeout", none⟩

/-- The constructor's result. -/
theorem new_profileWith (remote : ProfileRemoteSettings) (now : Int)
    (h : 0 ≤ now) :
    ZeroDpiProfile.new "default" "Default" 0 now remote
      = .ok (profileWith remote now h) :=
  new_ok remote (by decide) (by decide) (Int.le_refl 0) h

/-- The index is valid. -/
theorem indexWith_valid {remote : ProfileRemoteSettings}
    (hremote : (remote.validate remoteApp.jvm false).errors = []) (now : Int)
    (h : 0 ≤ now) : Valid remoteApp (indexWith (profileWith remote now h)) :=
  single_valid (profileWith remote now h) hremote

/-- Settings behind an update that failed. -/
def failedSettings (taken : ProfileRemoteSettings) (now : Int)
    (h : 0 ≤ now) : ProfileRemoteSettings :=
  { taken with
    lastUpdateAttemptEpochMs := some now
    lastUpdateStatus := some ⟨.automatic, false, "timeout", now, h⟩ }

/-- The time of an attempt makes no settings invalid. -/
theorem validate_attempt {jvm : Jvm} {remote : ProfileRemoteSettings}
    {now : Int} (h : 0 ≤ now) (status : Option ProfileUpdateStatus)
    (hvalid : (remote.validate jvm false).errors = []) :
    (ProfileRemoteSettings.validate jvm { remote with
      lastUpdateAttemptEpochMs := some now
      lastUpdateStatus := status } false).errors = [] := by
  have hattempt : ProfileRemoteSettings.validateTime
      "lastUpdateAttemptEpochMs"
      "Last update attempt timestamp must be non-negative." (some now)
      = [] := by
    simp [ProfileRemoteSettings.validateTime, Int.not_lt.mpr h]
  simp only [ProfileRemoteSettings.validate, List.append_eq_nil_iff]
    at hvalid ⊢
  obtain ⟨⟨⟨⟨hinterval, -⟩, hsuccess⟩, hremote⟩, hurls⟩ := hvalid
  exact ⟨⟨⟨⟨hinterval, hattempt⟩, hsuccess⟩, hremote⟩, hurls⟩

/-- A clock that was set back. -/
theorem later_nonneg {time now : Int} (hnow : 0 ≤ now) :
    0 ≤ max (max 0 time) now :=
  Int.le_trans hnow (Int.le_max_right _ _)

/-- The update stores the settings it took, whatever is there. -/
theorem status_profileWith {remote taken : ProfileRemoteSettings} {time : Int}
    (h : 0 ≤ time) (now : Int) (hnow : 0 ≤ now) :
    withRemoteUpdateStatus (profileWith remote time h) taken .automatic
      false "timeout" now = .ok (profileWith (failedSettings taken now hnow)
        (max (max 0 time) now) (later_nonneg hnow)) := by
  unfold withRemoteUpdateStatus newStatus
  rw [dif_pos hnow]
  refine bind_eq_ok.mpr ⟨_, rfl, ?_⟩
  exact new_profileWith (failedSettings taken now hnow)
    (max (max 0 time) now) (later_nonneg hnow)

/-- Both settings are valid. -/
theorem oldSettings_valid :
    (oldSettings.validate remoteApp.jvm false).errors = [] := by decide

theorem newSettings_valid :
    (newSettings.validate remoteApp.jvm false).errors = [] := by decide

/-- The device holds a profile with these settings, and nothing fails. -/
structure Holding (w : World Content) (remote : ProfileRemoteSettings) :
    Prop where
  clear : Clear w
  stored : ∃ time h, Holds remoteApp w (indexWith (profileWith remote time h))

/-- The device holds that index. -/
theorem device_holds : Holds remoteApp device
    (indexWith (profileWith oldSettings 0 (Int.le_refl 0))) := by
  have hfile : device.files indexFile = some (.index
      (indexWith (profileWith oldSettings 0 (Int.le_refl 0)))) := by
    simp [device]
  refine ⟨_, stored_of_index hfile, ?_⟩
  exact requireValid_eq_ok.mpr ⟨indexWith_valid oldSettings_valid 0 _, rfl⟩

/-- No fault is ahead. -/
theorem device_clear : Clear device := ⟨rfl, by simp [device, freshDevice]⟩

/-- And the old settings. -/
theorem device_holding : Holding device oldSettings :=
  ⟨device_clear, 0, Int.le_refl 0, device_holds⟩

section Steps

variable {w : World Content} {remote taken : ProfileRemoteSettings}
  {edited : Option ProfileRemoteSettings}

/-- The worker takes the settings that are stored. -/
theorem step_take (h : Holding w remote) :
    ∃ w', Holding w' remote
      ∧ System.step remoteApp "default" (fun _ => none) ⟨w, [], edited⟩ .take
        = ⟨w', [⟨.automatic, some remote, .called (some remote)⟩], edited⟩ := by
  obtain ⟨hclear, time, htime, hi⟩ := h
  obtain ⟨_, w', hload, hclear', rfl, hi'⟩ :=
    Ends.run_ok (load_clear hclear hi)
  refine ⟨w', ⟨hclear', time, htime, hi'⟩, ?_⟩
  simp only [System.step, System.take, loadIndex, hload]
  rfl

/-- Valid settings are downloaded with. -/
theorem begin_of_valid {time : Int} {htime : 0 ≤ time}
    (htaken : (taken.validateForUpdate remoteApp.jvm).isValid = true) :
    begin remoteApp "default" (some taken)
        (indexWith (profileWith remote time htime)) = .downloading taken := by
  show (if (taken.validateForUpdate remoteApp.jvm).isValid then _ else _) = _
  rw [if_pos htaken]
  rfl

/-- The manager goes on to the download with the settings it was given. -/
theorem step_called (h : Holding w remote)
    (htaken : (taken.validateForUpdate remoteApp.jvm).isValid = true) :
    ∃ w', Holding w' remote
      ∧ System.step remoteApp "default" (fun _ => none)
          ⟨w, [⟨.automatic, some taken, .called (some taken)⟩], edited⟩
          (.step 0 failed)
        = ⟨w', [⟨.automatic, some taken, .downloading taken⟩], edited⟩ := by
  obtain ⟨hclear, time, htime, hi⟩ := h
  obtain ⟨_, w', hload, hclear', rfl, hi'⟩ :=
    Ends.run_ok (load_clear hclear hi)
  refine ⟨w', ⟨hclear', time, htime, hi'⟩, ?_⟩
  simp [System.step, Update.next, loadIndex, hload, begin_of_valid htaken]

/-- The download fails. -/
theorem step_download :
    System.step remoteApp "default" (fun _ => none)
        ⟨w, [⟨.automatic, some taken, .downloading taken⟩], edited⟩
        (.step 0 failed)
      = ⟨w, [⟨.automatic, some taken, .failing (some taken) "timeout"⟩],
        edited⟩ := rfl

/-- An edit stores its settings. -/
theorem step_edit (h : Holding w remote)
    (hvalid : (taken.validate remoteApp.jvm false).errors = [])
    (updates : List Update) :
    ∃ w', Holding w' taken
      ∧ System.step remoteApp "default" (fun _ => none) ⟨w, updates, edited⟩
          (.edit taken)
        = ⟨w', updates, some taken⟩ := by
  obtain ⟨hclear, time, htime, hi⟩ := h
  obtain ⟨_, w', hedit, hclear', hi', now, hnow, rfl⟩ := Ends.run_ok
    (@updateRemoteSettings_clear _ "default" _ _ _ _ hclear hi rfl _
      (fun now hnow => new_profileWith taken now hnow)
      (fun now hnow => indexWith_valid hvalid now hnow))
  refine ⟨w', ⟨hclear', now, hnow, hi'⟩, ?_⟩
  simp only [System.step, System.edit, hedit]

/-- A failed download stores the settings that were taken. -/
theorem step_failing (h : Holding w remote)
    (hvalid : (taken.validate remoteApp.jvm false).errors = []) :
    ∃ w' now hnow, Holding w' (failedSettings taken now hnow)
      ∧ System.step remoteApp "default" (fun _ => none)
          ⟨w, [⟨.automatic, some taken, .failing (some taken) "timeout"⟩],
            edited⟩ (.step 0 failed)
        = ⟨w', [⟨.automatic, some taken, .ended⟩], edited⟩ := by
  obtain ⟨hclear, time, htime, hi⟩ := h
  obtain ⟨_, w', hrecord, hclear', hi', now, hnow, rfl⟩ := Ends.run_ok
    (@recordRemoteUpdateFailure_clear _ "default" _ _ _ _ _ _ hclear hi rfl
      (List.isEmpty_iff.mpr hvalid) _
      (fun now hnow => status_profileWith htime now hnow)
      (fun now hnow => indexWith_valid (validate_attempt hnow _ hvalid) _ _))
  refine ⟨w', now, hnow, ⟨hclear', _, _, hi'⟩, ?_⟩
  simp [System.step, Update.next, hrecord]

end Steps

/-- The user switches automatic updates off; the worker's update takes the
settings, the user saves them once more during the download, and the
download fails. -/
def keptEdit : List Action :=
  [.edit newSettings, .take, .step 0 failed, .edit newSettings,
    .step 0 failed, .step 0 failed]

/-- The update has stored its settings, and the edit is still there. -/
theorem edit_beside_an_update :
    (keptEdit.foldl (System.step remoteApp "default" fun _ => none)
        (System.start device)).edited = some newSettings
      ∧ (∃ index p now, Holds remoteApp (keptEdit.foldl
          (System.step remoteApp "default" fun _ => none)
          (System.start device)).world index
        ∧ requireProfile index "default" = .ok p
        ∧ p.remote.lastUpdateAttemptEpochMs = some now)
      ∧ Current remoteApp "default"
        (keptEdit.foldl (System.step remoteApp "default" fun _ => none)
          (System.start device)) := by
  obtain ⟨w₁, h₁, hedit⟩ := @step_edit _ _ newSettings none device_holding
    newSettings_valid []
  obtain ⟨w₂, h₂, htake⟩ := @step_take _ _ (some newSettings) h₁
  obtain ⟨w₃, h₃, hcalled⟩ := @step_called _ _ newSettings (some newSettings)
    h₂ (by decide)
  obtain ⟨w₄, h₄, hagain⟩ := @step_edit _ _ newSettings (some newSettings) h₃
    newSettings_valid
    [⟨.automatic, some newSettings, .downloading newSettings⟩]
  obtain ⟨w₅, now, hnow, h₅, hfailing⟩ := @step_failing _ _ newSettings
    (some newSettings) h₄ newSettings_valid
  have halong : Along (System.step remoteApp "default" fun _ => none)
      (Undisturbed remoteApp "default") (System.start device) keptEdit := by
    refine ⟨trivial, ?_⟩
    show Along _ _ (System.step _ _ _ ⟨device, [], none⟩ _) _
    rw [hedit]
    refine ⟨trivial, ?_⟩
    rw [htake]
    refine ⟨?_, ?_⟩
    · intro u hu remote hwrites
      cases hu
      cases hwrites
    rw [hcalled]
    refine ⟨trivial, ?_⟩
    rw [hagain]
    refine ⟨?_, ?_⟩
    · intro u hu remote hwrites
      cases hu
      cases hwrites
    rw [step_download]
    refine ⟨?_, trivial⟩
    -- the step that stores: what it stores is what is there
    intro u hu remote hwrites index p hindex hp
    cases hu
    cases hwrites
    obtain ⟨-, time, htime, hi⟩ := h₄
    obtain rfl := holds_unique hi hindex
    cases hp
    rfl
  have hcurrent := edits_survive_undisturbed_updates device keptEdit halong
  have hrun : keptEdit.foldl (System.step remoteApp "default" fun _ => none)
      (System.start device) = ⟨w₅,
        [⟨.automatic, some newSettings, .ended⟩], some newSettings⟩ := by
    simp only [keptEdit, List.foldl_cons, List.foldl_nil, System.start]
    rw [hedit, htake, hcalled, hagain, step_download, hfailing]
  obtain ⟨-, time, htime, hi⟩ := h₅
  rw [hrun] at hcurrent ⊢
  exact ⟨rfl, ⟨_, _, now, hi, rfl, rfl⟩, hcurrent⟩

/-- The worker takes the settings; while it downloads, the user switches
automatic updates off; the download fails. -/
def lostEdit : List Action :=
  [.take, .step 0 failed, .edit newSettings, .step 0 failed, .step 0 failed]

/-- The edit is lost: the update writes the settings it took before it. -/
theorem edit_during_download_is_lost :
    ∃ index p,
      (lostEdit.foldl (System.step remoteApp "default" fun _ => none)
        (System.start device)).edited = some newSettings
      ∧ (lostEdit.foldl (System.step remoteApp "default" fun _ => none)
          (System.start device)).updates.map (·.phase) = [.ended]
      ∧ Holds remoteApp (lostEdit.foldl
          (System.step remoteApp "default" fun _ => none)
          (System.start device)).world index
      ∧ requireProfile index "default" = .ok p
      ∧ p.remote.autoUpdateEnabled ≠ newSettings.autoUpdateEnabled := by
  obtain ⟨w₁, h₁, htake⟩ := @step_take _ _ none device_holding
  obtain ⟨w₂, h₂, hcalled⟩ := @step_called _ _ oldSettings none h₁ (by decide)
  obtain ⟨w₃, h₃, hedit⟩ := @step_edit _ _ newSettings none h₂
    newSettings_valid
    [⟨.automatic, some oldSettings, .downloading oldSettings⟩]
  obtain ⟨w₄, now, hnow, h₄, hfailing⟩ := @step_failing _ _ oldSettings
    (some newSettings) h₃ oldSettings_valid
  have hrun : lostEdit.foldl (System.step remoteApp "default" fun _ => none)
      (System.start device) = ⟨w₄,
        [⟨.automatic, some oldSettings, .ended⟩], some newSettings⟩ := by
    simp only [lostEdit, List.foldl_cons, List.foldl_nil, System.start]
    rw [htake, hcalled, hedit, step_download, hfailing]
  obtain ⟨-, time, htime, hi⟩ := h₄
  rw [hrun]
  refine ⟨_, _, rfl, rfl, hi, rfl, ?_⟩
  show true ≠ false
  decide

end ZeroDpi.Android.ProfileUpdate
