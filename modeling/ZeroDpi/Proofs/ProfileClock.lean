/-
Edits of a profile on a device whose clock was set back.

An edit stamps the profile with the reading of the clock, and a profile that
was updated before it was created cannot be built. So a rename and an edit of
the remote settings succeed exactly when the reading is not before the
profile's creation (`edits_succeed_iff`); the calls of an update take the
latest of the three times, and succeed at any reading
(`recordRemoteUpdateFailure_succeeds`).
-/
import Mathlib.Data.List.Nodup
import ZeroDpi.Proofs.ProfileUpdate

namespace ZeroDpi.Android.ProfileRepository

open Lib Throwing Storage ProfileUpdate

variable {app : App} {profileId name : String} {w : World Content}
  {index : ProfileIndex} {p : ZeroDpiProfile} {remote : ProfileRemoteSettings}

-- ================================================================== validity

theorem duplicates_eq_nil_iff (keys : List String) :
    ProfileIndex.duplicates keys = [] ↔ keys.Nodup := by
  refine ⟨nodup_of_duplicates, fun h => ?_⟩
  refine List.filter_eq_nil_iff.mpr fun key _ => ?_
  have hcount := List.nodup_iff_count.mp h key
  simpa using hcount

theorem ite_singleton_eq_nil {α : Type} {c : Prop} [Decidable c] {a : α} :
    (if c then [a] else []) = [] ↔ ¬ c := by
  by_cases h : c <;> simp [h]

theorem ite_nil_eq_nil {α : Type} {c : Prop} [Decidable c] {a : α} :
    (if c then [] else [a]) = [] ↔ c := by
  by_cases h : c <;> simp [h]

/-- A profile passes its own checks but for its settings. -/
theorem profile_errors_iff (p : ZeroDpiProfile) :
    (p.validate app.jvm).errors = []
      ↔ (p.remote.validate app.jvm false).errors = [] := by
  have hid : (ZeroDpiProfile.validateId p.id).errors = [] :=
    List.isEmpty_iff.mp p.idValid
  have hname : (ZeroDpiProfile.validateName p.name).errors = [] :=
    List.isEmpty_iff.mp p.nameValid
  have hcreated : ¬ p.createdAtEpochMs < 0 := Int.not_lt.mpr p.created
  have hupdated : ¬ p.updatedAtEpochMs < 0 :=
    Int.not_lt.mpr (Int.le_trans p.created p.updated)
  have horder : ¬ p.updatedAtEpochMs < p.createdAtEpochMs :=
    Int.not_lt.mpr p.updated
  simp [ZeroDpiProfile.validate, hid, hname, hcreated, hupdated, horder,
    ProfileValidationResult.prefixed]

/-- What the check of an index asks for. -/
theorem valid_iff : Valid app index
    ↔ index.schemaVersion = ProfileIndex.profileIndexSchemaVersion
      ∧ (ZeroDpiProfile.validateId index.activeProfileId).errors = []
      ∧ WellFormed app index
      ∧ ∀ p ∈ index.profiles, (p.remote.validate app.jvm false).errors = [] := by
  have hactiveId : ((ZeroDpiProfile.validateId
        index.activeProfileId).prefixed "activeProfileId").errors = []
      ↔ (ZeroDpiProfile.validateId index.activeProfileId).errors = [] :=
    List.map_eq_nil_iff
  have hresults : (index.profiles.zipIdx.map fun e =>
        (e.1.validate app.jvm).prefixed
          ("profiles[" ++ toString e.2 ++ "]")).flatMap (·.errors) = []
      ↔ ∀ p ∈ index.profiles, (p.remote.validate app.jvm false).errors = [] := by
    simp only [← profile_errors_iff, List.flatMap_eq_nil_iff, List.mem_map]
    constructor
    · intro h p hp
      obtain ⟨i, hi⟩ := List.getElem?_of_mem hp
      have hnone := h _ ⟨(p, i), List.mem_zipIdx_iff_getElem?.mpr hi, rfl⟩
      simpa [ProfileValidationResult.prefixed] using hnone
    · rintro h _ ⟨⟨p, i⟩, hp, rfl⟩
      have hnone := h p (List.fst_mem_of_mem_zipIdx hp)
      simpa [ProfileValidationResult.prefixed] using hnone
  unfold Valid ProfileValidationResult.isValid ProfileIndex.validate
  simp only [List.isEmpty_iff, List.append_eq_nil_iff, hresults, hactiveId,
    ite_singleton_eq_nil, ite_nil_eq_nil, not_not, duplicates_eq_nil_iff,
    List.any_eq_true, decide_eq_true_eq]
  constructor
  · rintro ⟨⟨⟨⟨⟨⟨hschema, hid⟩, hempty⟩, hids⟩, hnames⟩, hactive⟩, hall⟩
    exact ⟨hschema, hid, ⟨hempty, hids, hnames, hactive⟩, hall⟩
  · rintro ⟨hschema, hid, ⟨hempty, hids, hnames, hactive⟩, hall⟩
    exact ⟨⟨⟨⟨⟨⟨hschema, hid⟩, hempty⟩, hids⟩, hnames⟩, hactive⟩, hall⟩

/-- No other profile has this name. -/
def Unused (app : App) (index : ProfileIndex) (profileId name : String) :
    Prop :=
  ∀ other ∈ index.profiles, other.id ≠ profileId →
    ZeroDpiProfile.duplicateKeyForName app.jvm other.name
      ≠ ZeroDpiProfile.duplicateKeyForName app.jvm name

theorem requireProfile_mem (hp : requireProfile index profileId = .ok p) :
    p ∈ index.profiles := by
  obtain ⟨-, -, front, back, hsplit, -⟩ := requireProfile_eq_ok hp
  rw [hsplit]
  exact List.mem_append_right _ List.mem_cons_self

/-- No two profiles have one name. -/
theorem unused_own_name (hwell : WellFormed app index)
    (hmem : p ∈ index.profiles) (hpid : p.id = profileId) :
    Unused app index profileId p.name := by
  intro other hother hne hkey
  have heq := List.inj_on_of_nodup_map hwell.names hother hmem hkey
  exact hne (heq ▸ hpid)

/-- A profile may be replaced by one of the same id, whose name no other
has. -/
theorem valid_withProfile {q : ZeroDpiProfile} (hvalid : Valid app index)
    (hp : requireProfile index profileId = .ok p) (hid : q.id = profileId)
    (hname : Unused app index profileId q.name)
    (hremote : (q.remote.validate app.jvm false).errors = []) :
    Valid app (withProfile index q) := by
  obtain ⟨hschema, hactiveId, hwell, hall⟩ := valid_iff.mp hvalid
  obtain ⟨-, hpid, front, back, hsplit, -⟩ := requireProfile_eq_ok hp
  have hprofiles := withProfile_split hwell.ids hsplit (hpid.trans hid.symm)
  have hids := hwell.ids
  have hnames := hwell.names
  have hactive := hwell.active
  simp only [hsplit, List.map_append, List.map_cons] at hids hnames
  simp only [hsplit, List.mem_append, List.mem_cons] at hall hactive
  -- the ids of the others are other ids
  have hother : ∀ other, other ∈ front ∨ other ∈ back → other.id ≠ profileId := by
    rintro other hmem rfl
    rw [hpid] at hids
    have hrest := (List.nodup_middle.mp hids)
    refine (List.nodup_cons.mp hrest).1 ?_
    rw [← List.map_append]
    exact List.mem_map_of_mem (List.mem_append.mpr hmem)
  refine valid_iff.mpr ⟨hschema, hactiveId, ?_, ?_⟩
  · refine ⟨?_, ?_, ?_, ?_⟩
    · simp [hprofiles]
    · rw [hprofiles, List.map_append, List.map_cons, hid, ← hpid]
      exact hids
    · rw [hprofiles, List.map_append, List.map_cons]
      have hrest := (List.nodup_cons.mp (List.nodup_middle.mp hnames)).2
      refine List.nodup_middle.mpr (List.nodup_cons.mpr ⟨?_, hrest⟩)
      rw [← List.map_append, List.mem_map]
      rintro ⟨other, hmem, hkey⟩
      have hmem := List.mem_append.mp hmem
      refine hname other ?_ (hother other hmem) hkey
      rw [hsplit]
      rcases hmem with hmem | hmem
      · exact List.mem_append_left _ hmem
      · exact List.mem_append_right _ (List.mem_cons_of_mem _ hmem)
    · obtain ⟨active, hmem, heq⟩ := hactive
      rw [hprofiles]
      rcases hmem with hmem | rfl | hmem
      · exact ⟨active, List.mem_append_left _ hmem, heq⟩
      · refine ⟨q, List.mem_append_right _ List.mem_cons_self, ?_⟩
        exact (hid.trans hpid.symm).trans heq
      · exact ⟨active, List.mem_append_right _ (List.mem_cons_of_mem _ hmem),
          heq⟩
  · rw [hprofiles]
    intro other hmem
    rcases List.mem_append.mp hmem with hmem | hmem
    · exact hall other (.inl hmem)
    · rcases List.mem_cons.mp hmem with rfl | hmem
      · exact hremote
      · exact hall other (.inr (.inr hmem))

-- ================================================================= the clock

theorem ignores_clock {S : Path → Prop} :
    Ignores (World.clock : World Content → List Int) S :=
  ⟨fun _ _ => rfl, fun _ _ => rfl, fun _ _ _ => rfl⟩

/-- A load of an index that is stored does not look at the clock. -/
theorem loadIndexLocked_clock (hi : Holds app w index) :
    Ends (loadIndexLocked app) w (fun _ w' => w'.clock = w.clock)
      fun _ w' => w'.clock = w.clock := by
  have hattempt : ∀ u : World Content, u.files = w.files → u.clock = w.clock →
      Ends (Storage.ensureDirectory : Repo Unit) u
        (fun _ u' => u'.files = w.files ∧ u'.clock = w.clock)
        fun _ u' => u'.clock = w.clock := by
    intro u hfiles hclock
    obtain ⟨faults, hafter⟩ := attempt_eq u
    unfold Ends Storage.ensureDirectory
    generalize (attempt : Repo Unit) u = ending at hafter
    obtain ⟨result, u'⟩ := ending
    obtain rfl : u' = _ := hafter
    cases result with
    | ok _ => exact ⟨hfiles, hclock⟩
    | error e => exact hclock
  refine ends_bind ((hattempt w rfl rfl).mono ?_ fun _ _ h => h)
  rintro - w₁ ⟨hfiles₁, hclock₁⟩
  refine ends_bind ((hattempt w₁ hfiles₁ hclock₁).mono ?_ fun _ _ h => h)
  rintro - w₂ ⟨hfiles₂, hclock₂⟩
  have hrestore : Frames World.clock
      (restorePrimaryFromBackupIfMissing indexFile : Repo Unit) :=
    frames_restorePrimaryFromBackupIfMissing (@ignores_clock fun _ => True)
      ⟨trivial, fun _ => trivial⟩
  refine ends_bind (((restore_ends w₂).and (hrestore.ends w₂)).mono ?_ ?_)
  case refine_2 => exact fun _ w₃ h => h.2.trans hclock₂
  rintro - w₃ ⟨⟨-, hfile⟩, hclock₃⟩
  replace hclock₃ := hclock₃.trans hclock₂
  obtain ⟨content, hcontent, -⟩ := hi
  have hthere : w₃.files indexFile = some content := by
    rw [hfile, ← hcontent]
    simp [stored, hfiles₂]
  refine ends_bind (ends_look ?_)
  rw [hthere]
  refine ends_bind ((readIndexLocked_ends w₃).mono ?_ ?_)
  · rintro i w₄ ⟨rfl, -⟩
    have hensure := @frames_ensureProfileStorageLocked app _ _ ignores_clock i
    refine ends_bind ((hensure.ends w₄).mono ?_ ?_)
    · exact fun _ w₅ h₅ => ends_pure (h₅.trans hclock₃)
    · exact fun _ w₅ h₅ => h₅.trans hclock₃
  · rintro e w₄ rfl
    exact hclock₃

-- ================================================================= the edits

variable (app profileId) in
/-- An edit of a profile: its name and its settings are others, and it was
updated now. -/
def stampedEdit (name : ZeroDpiProfile → String)
    (remote : ZeroDpiProfile → ProfileRemoteSettings) : Repo ProfileIndex := do
  let current ← loadIndexLocked app
  let existing ← Storage.lift (requireProfile current profileId)
  let now ← Storage.clock
  let edited ← Storage.lift (ZeroDpiProfile.new existing.id (name existing)
    existing.createdAtEpochMs now (remote existing))
  let next ← Storage.lift (withUpdatedProfile app current edited)
  writeIndexLocked app next

theorem renameProfile_eq : renameProfile app profileId name
    = stampedEdit app profileId (fun _ => name) (·.remote) := rfl

theorem updateRemoteSettings_eq : updateRemoteSettings app profileId remote
    = stampedEdit app profileId (·.name) (fun _ => remote) := rfl

/-- A profile is not updated before it is created. -/
theorem new_ne_ok {id name : String} {created updated : Int}
    (h : updated < created) (q : ZeroDpiProfile) :
    ZeroDpiProfile.new id name created updated remote ≠ .ok q := by
  intro hok
  unfold ZeroDpiProfile.new at hok
  obtain ⟨-, -, hok⟩ := bind_eq_ok.mp hok
  obtain ⟨-, -, hok⟩ := bind_eq_ok.mp hok
  obtain ⟨-, -, hok⟩ := bind_eq_ok.mp hok
  obtain ⟨-, -, hok⟩ := bind_eq_ok.mp hok
  obtain ⟨⟨⟩, horder, -⟩ := bind_eq_ok.mp hok
  simp [require, Int.not_le.mpr h] at horder

/-- The call returns, and the index it returns is valid and stored. -/
def Succeeds (app : App) (m : Repo ProfileIndex) (w : World Content) : Prop :=
  ∃ index w', m w = (.ok index, w') ∧ Valid app index ∧ Holds app w' index

theorem Succeeds.of_ends {m : Repo ProfileIndex}
    (h : Ends m w (fun i w' => Holds app w' i) fun _ _ => False) :
    Succeeds app m w := by
  obtain ⟨i, w', hrun, hi⟩ := Ends.run_ok h
  exact ⟨i, w', hrun, hi.valid, hi⟩

/-- Where no file step throws, the load of an edit answers with what is
stored and leaves the clock. -/
theorem load_for_edit (h : Clear w) (hi : Holds app w index) :
    Ends (loadIndexLocked app) w
      (fun current w' => Clear w' ∧ current = index ∧ Holds app w' index
        ∧ w'.clock = w.clock)
      fun _ _ => False :=
  ((load_clear h hi).and (loadIndexLocked_clock hi)).mono
    (fun _ _ h => ⟨h.1.1, h.1.2.1, h.1.2.2, h.2⟩) fun _ _ h => h.1

theorem stampedEdit_succeeds_iff {name : ZeroDpiProfile → String}
    {remote : ZeroDpiProfile → ProfileRemoteSettings} (h : Clear w)
    (hi : Holds app w index) (hp : requireProfile index profileId = .ok p)
    (hname : (ZeroDpiProfile.validateName (name p)).isValid = true)
    (hunused : Unused app index profileId (name p))
    (hremote : ((remote p).validate app.jvm false).errors = []) :
    Succeeds app (stampedEdit app profileId name remote) w
      ↔ p.createdAtEpochMs ≤ w.clock.headD 0 := by
  constructor
  · rintro ⟨i, w', hrun, -⟩
    refine Int.not_lt.mp fun hback => ?_
    have hends : Ends (stampedEdit app profileId name remote) w
        (fun _ _ => False) fun _ _ => True := by
      refine ends_bind ((load_for_edit h hi).mono ?_ fun _ _ h => h.elim)
      rintro current w₁ ⟨h₁, rfl, hi₁, hclock⟩
      rw [hp]
      refine ends_bind (ends_bind ?_)
      show Ends (lift (ZeroDpiProfile.new p.id (name p) p.createdAtEpochMs
        (w₁.clock.headD 0) (remote p)) >>= _) _ _ _
      rw [hclock]
      refine ends_bind (ends_lift ?_ fun _ => trivial)
      exact fun q hq => absurd hq (new_ne_ok hback q)
    exact hends.of_ok hrun
  · intro hforward
    refine Succeeds.of_ends ?_
    refine ends_bind ((load_for_edit h hi).mono ?_ fun _ _ h => h)
    rintro current w₁ ⟨h₁, rfl, hi₁, hclock⟩
    rw [hp]
    refine ends_bind (ends_bind ?_)
    show Ends (lift (ZeroDpiProfile.new p.id (name p) p.createdAtEpochMs
      (w₁.clock.headD 0) (remote p)) >>= _)
      { w₁ with clock := w₁.clock.tail } _ _
    have h₂ : Clear { w₁ with clock := w₁.clock.tail } :=
      ⟨h₁.1, fun t ht => h₁.2 t (List.mem_of_mem_tail ht)⟩
    rw [hclock, new_ok (remote p) p.idValid hname p.created hforward]
    have hpid : p.id = profileId := requireProfile_id hp
    have hvalid := valid_withProfile hi.valid hp (q := ⟨p.id, name p,
      p.createdAtEpochMs, w.clock.headD 0, remote p, p.idValid, hname,
      p.created, hforward⟩) hpid hunused hremote
    rw [hclock] at h₂
    refine ends_bind ?_
    show Ends (lift (withUpdatedProfile app current _) >>= writeIndexLocked app)
      _ _ _
    refine (change_clear h₂ hvalid).mono ?_ fun _ _ hfalse => hfalse
    exact fun i' w' hdone => hdone.2.2

/-- On a device without faults, a rename to an unused name and an edit of
the remote settings succeed if and only if the clock does not read a time
before the profile's creation. -/
theorem edits_succeed_iff (h : Clear w) (hi : Holds app w index)
    (hp : requireProfile index profileId = .ok p)
    (hname : (ZeroDpiProfile.validateName name).isValid = true)
    (hunused : Unused app index profileId name)
    (hremote : (remote.validate app.jvm false).errors = []) :
    (Succeeds app (renameProfile app profileId name) w
        ↔ p.createdAtEpochMs ≤ w.clock.headD 0)
      ∧ (Succeeds app (updateRemoteSettings app profileId remote) w
        ↔ p.createdAtEpochMs ≤ w.clock.headD 0) := by
  have hpid : p.id = profileId := requireProfile_id hp
  have hmem := requireProfile_mem hp
  obtain ⟨-, -, hwell, hall⟩ := valid_iff.mp hi.valid
  constructor
  · rw [renameProfile_eq]
    exact stampedEdit_succeeds_iff h hi hp hname hunused (hall p hmem)
  · rw [updateRemoteSettings_eq]
    exact stampedEdit_succeeds_iff h hi hp p.nameValid
      (unused_own_name hwell hmem hpid) hremote

/-- The sibling that takes the latest of the times succeeds at any reading
of the clock. -/
theorem recordRemoteUpdateFailure_succeeds (mode : ProfileUpdateMode)
    (message : String) (h : Clear w) (hi : Holds app w index)
    (hp : requireProfile index profileId = .ok p)
    (hremote : (remote.validate app.jvm false).errors = []) :
    Succeeds app (recordRemoteUpdateFailure app profileId mode message
      (some remote)) w := by
  have hpid : p.id = profileId := requireProfile_id hp
  obtain ⟨-, -, hwell, -⟩ := valid_iff.mp hi.valid
  have hunused := unused_own_name hwell (requireProfile_mem hp) hpid
  have hlatest : ∀ now : Int, p.createdAtEpochMs
      ≤ max (max p.createdAtEpochMs p.updatedAtEpochMs) now := by
    intro now
    exact Int.le_trans (Int.le_max_left _ _) (Int.le_max_left _ _)
  refine Succeeds.of_ends ((recordRemoteUpdateFailure_clear h hi hp
    (List.isEmpty_iff.mpr hremote) (q := fun now hnow => ⟨p.id, p.name,
      p.createdAtEpochMs, max (max p.createdAtEpochMs p.updatedAtEpochMs) now,
      { remote with
        lastUpdateAttemptEpochMs := some now
        lastUpdateStatus := some ⟨mode, false, message, now, hnow⟩ },
      p.idValid, p.nameValid, p.created, hlatest now⟩) ?_ ?_).mono ?_ ?_)
  · intro now hnow
    unfold withRemoteUpdateStatus newStatus
    rw [dif_pos hnow]
    refine bind_eq_ok.mpr ⟨_, rfl, ?_⟩
    exact new_ok _ p.idValid p.nameValid p.created (hlatest now)
  · intro now hnow
    exact valid_withProfile hi.valid hp hpid hunused
      (validate_attempt hnow _ hremote)
  · exact fun _ _ hdone => hdone.2.1
  · exact fun _ _ hfalse => hfalse

-- ============================================================ a clock set back

/-- The profile of the device, made at the time 5. -/
def laterProfile : ZeroDpiProfile where
  id := "default"
  name := "Default"
  createdAtEpochMs := 5
  updatedAtEpochMs := 5
  remote := oldSettings
  idValid := default_idValid
  nameValid := default_nameValid
  created := by decide
  updated := by decide

/-- A device whose clock reads a time. -/
def deviceAt (time : Int) : World Content :=
  { freshDevice with
    files := fun path =>
      if path = indexFile then some (.index (indexWith laterProfile)) else none
    clock := [time] }

theorem laterProfile_valid : Valid remoteApp (indexWith laterProfile) := by
  have hvalid : (oldSettings.validate remoteApp.jvm false).errors = [] := by
    decide
  exact single_valid laterProfile hvalid

theorem deviceAt_holds (time : Int) :
    Holds remoteApp (deviceAt time) (indexWith laterProfile) := by
  have hfile : (deviceAt time).files indexFile
      = some (.index (indexWith laterProfile)) := by
    simp [deviceAt]
  refine ⟨_, stored_of_index hfile, ?_⟩
  exact requireValid_eq_ok.mpr ⟨laterProfile_valid, rfl⟩

theorem deviceAt_clear {time : Int} (h : 0 ≤ time) : Clear (deviceAt time) := by
  refine ⟨rfl, fun t ht => ?_⟩
  obtain rfl : t = time := by simpa [deviceAt] using ht
  exact h

theorem unused_of_single {q : ZeroDpiProfile} (name : String)
    (h : q.id = profileId) : Unused app (indexWith q) profileId name := by
  intro other hother hne
  obtain rfl : other = q := by simpa [indexWith] using hother
  exact absurd h hne

theorem edits_at_creation :
    (Succeeds remoteApp (renameProfile remoteApp "default" "Home") (deviceAt 5)
        ↔ laterProfile.createdAtEpochMs ≤ (deviceAt 5).clock.headD 0)
      ∧ (Succeeds remoteApp (updateRemoteSettings remoteApp "default"
          newSettings) (deviceAt 5)
        ↔ laterProfile.createdAtEpochMs ≤ (deviceAt 5).clock.headD 0) :=
  edits_succeed_iff (deviceAt_clear (by decide)) (deviceAt_holds 5) rfl
    (by decide) (unused_of_single "Home" rfl) (by decide)

/-- The clock reads 0, and neither the rename nor the edit succeeds. -/
theorem edits_before_creation_fail :
    Clear (deviceAt 0)
      ∧ Holds remoteApp (deviceAt 0) (indexWith laterProfile)
      ∧ requireProfile (indexWith laterProfile) "default" = .ok laterProfile
      ∧ Unused remoteApp (indexWith laterProfile) "default" "Home"
      ∧ ¬ Succeeds remoteApp (renameProfile remoteApp "default" "Home")
          (deviceAt 0)
      ∧ ¬ Succeeds remoteApp (updateRemoteSettings remoteApp "default"
          newSettings) (deviceAt 0) := by
  have hclear := deviceAt_clear (Int.le_refl 0)
  have hback : ¬ laterProfile.createdAtEpochMs
      ≤ (deviceAt 0).clock.headD 0 := by decide
  have hp : requireProfile (indexWith laterProfile) "default"
      = .ok laterProfile := rfl
  have hold : (oldSettings.validate remoteApp.jvm false).errors = [] := by
    decide
  have hnew : (newSettings.validate remoteApp.jvm false).errors = [] := by
    decide
  have hrename : Succeeds remoteApp (stampedEdit remoteApp "default"
      (fun _ => "Home") (·.remote)) (deviceAt 0) ↔ _ :=
    stampedEdit_succeeds_iff hclear (deviceAt_holds 0) hp (by decide)
      (unused_of_single "Home" rfl) hold
  have hupdate : Succeeds remoteApp (stampedEdit remoteApp "default" (·.name)
      fun _ => newSettings) (deviceAt 0) ↔ _ :=
    stampedEdit_succeeds_iff hclear (deviceAt_holds 0) hp
      laterProfile.nameValid (unused_of_single laterProfile.name rfl) hnew
  refine ⟨hclear, deviceAt_holds 0, hp, unused_of_single "Home" rfl, ?_, ?_⟩
  · exact fun hdone => hback (hrename.mp hdone)
  · exact fun hdone => hback (hupdate.mp hdone)

end ZeroDpi.Android.ProfileRepository
