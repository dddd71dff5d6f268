/-
The profile store keeps its index.

# The argument

The index is written by one call, which replaces it at once at its end:
`writeIndexLocked` has either written the new index or left the one that is
stored (`stored`: the file, or its backup where the file is missing). All
files of a profile lie in its own directory, so seeding, copying and
restoring them does not touch the index. An operation is a load, a
computation that looks at nothing else, and at most one such write, with
nothing behind it that can throw: `Commits` is that shape, with a rule for
each way an operation is built.

Where nothing is stored yet, the first load creates the default index; an
operation that throws behind it leaves that one (`Same`).
-/
import ZeroDpi.Lib.Run
import ZeroDpi.Android.ProfileRepository
import ZeroDpi.Proofs.Storage

namespace ZeroDpi.Android.ProfileRepository

open Lib Throwing Storage

variable (app : App)

-- ============================================================== the stored

/-- What a load finds. -/
def stored (w : World Content) : Option Content :=
  (w.files indexFile).or (w.files (backupFor indexFile))

/-- What every index that is written or read meets. -/
def Valid (index : ProfileIndex) : Prop :=
  (index.validate app.jvm).isValid = true

/-- The stored index. -/
def Holds (w : World Content) (index : ProfileIndex) : Prop :=
  ∃ content, stored w = some content ∧ fromJson app content = .ok index

/-- The default index of some time. -/
def IsDefault (index : ProfileIndex) : Prop :=
  ∃ now, ProfileIndex.default now = .ok index

/-- What is stored is what was, or the default index where nothing was. -/
def Same (w w' : World Content) : Prop :=
  stored w' = stored w
    ∨ (stored w = none ∧ ∃ index, IsDefault index ∧ Valid app index
      ∧ stored w' = some (.index index))

variable {app}

/-- `requireValid` throws unless there are no errors. -/
theorem result_requireValid_eq_ok (r : ProfileValidationResult)
    (subject : String) :
    r.requireValid subject = .ok () ↔ r.isValid = true := by
  unfold ProfileValidationResult.requireValid
  by_cases h : r.isValid = true
  · simp [h]
  · simp [h]

/-- It returns the index it was given. -/
theorem requireValid_eq_ok {index i : ProfileIndex} :
    index.requireValid app.jvm = .ok i ↔ Valid app index ∧ i = index := by
  unfold ProfileIndex.requireValid
  rw [check_bind_eq_ok (result_requireValid_eq_ok _ _)]
  constructor
  · intro h
    obtain ⟨hvalid, hok⟩ := h
    cases hok
    exact ⟨hvalid, rfl⟩
  · intro h
    obtain ⟨hvalid, rfl⟩ := h
    exact ⟨hvalid, rfl⟩

/-- An index that is stored is valid. -/
theorem Holds.valid {w : World Content} {index : ProfileIndex}
    (h : Holds app w index) : Valid app index := by
  obtain ⟨content, -, hjson⟩ := h
  unfold fromJson at hjson
  split at hjson
  · obtain ⟨hvalid, rfl⟩ := requireValid_eq_ok.mp hjson
    exact hvalid
  · split at hjson
    · obtain ⟨hvalid, rfl⟩ := requireValid_eq_ok.mp hjson
      exact hvalid
    · cases hjson

/-- The files beside the index. -/
def profilesDir (w : World Content) : String → Option Content :=
  fun name => w.files ⟨.profiles, name⟩

/-- The stored index is in the directory of the profiles. -/
theorem stored_of_profilesDir {w w' : World Content}
    (h : profilesDir w' = profilesDir w) : stored w' = stored w := by
  have hindex := congrFun h "index.json"
  have hbackup := congrFun h ("index.json" ++ ".bak")
  unfold profilesDir at hindex hbackup
  unfold stored indexFile backupFor
  rw [hindex, hbackup]

/-- It is the file, or else its backup. -/
theorem stored_of_kept {w w' : World Content} (h : Kept indexFile w w') :
    stored w' = stored w := by
  obtain ⟨hfile, hbackup⟩ := h
  unfold stored
  rw [hfile]
  cases hindex : w.files indexFile with
  | some content => simp
  | none =>
      rcases hbackup with hbackup | hsome
      · rw [hbackup]
      · rw [hindex] at hsome
        cases hsome

/-- The file comes first. -/
theorem stored_of_index {w : World Content} {content : Content}
    (h : w.files indexFile = some content) : stored w = some content := by
  simp [stored, h]

-- ========================================================== reads and writes

/-- A backup that is restored is the index that was stored. -/
theorem restore_ends (w : World Content) :
    Ends (restorePrimaryFromBackupIfMissing indexFile) w
      (fun _ w' => stored w' = stored w ∧ w'.files indexFile = stored w)
      (fun _ w' => stored w' = stored w) := by
  refine ends_bind (ends_look ?_)
  cases hindex : w.files indexFile with
  | some content =>
      refine ends_pure ⟨rfl, ?_⟩
      rw [hindex, stored_of_index hindex]
  | none =>
      refine ends_bind (ends_look ?_)
      have hstored : stored w = w.files (backupFor indexFile) := by
        simp [stored, hindex]
      cases hbackup : w.files (backupFor indexFile) with
      | none =>
          refine ends_pure ⟨rfl, ?_⟩
          rw [hindex, hstored, hbackup]
      | some content =>
          refine (copyFileAtomic_ends w (not_isTemp_backup indexFile)).mono ?_ ?_
          · rintro - w' ⟨hcopied, -⟩
            rw [hcopied, hstored]
            refine ⟨?_, rfl⟩
            rw [hbackup] at hcopied ⊢
            exact stored_of_index hcopied
          · intro e w' hapart
            exact stored_of_kept hapart.kept

/-- Reading checks, and changes nothing. -/
theorem readIndexLocked_ends (w : World Content) :
    Ends (readIndexLocked app) w
      (fun i w' => w' = w ∧ ∃ content, w.files indexFile = some content
        ∧ fromJson app content = .ok i)
      (fun _ w' => w' = w) := by
  refine ends_tryCatch (ends_bind (ends_readFile ?_ fun _ => ends_throw rfl))
  intro content hcontent
  refine ends_lift ?_ fun _ => ends_throw rfl
  intro i hi
  exact ⟨rfl, content, hcontent, hi⟩

/-- The one write of the index. -/
theorem writeIndexLocked_ends (index : ProfileIndex) (w : World Content) :
    Ends (writeIndexLocked app index) w
      (fun i w' => i = index ∧ Valid app index
        ∧ stored w' = some (.index index))
      (fun _ w' => stored w' = stored w) := by
  refine ends_bind (ends_lift ?_ fun _ => rfl)
  intro i hi
  obtain ⟨hvalid, rfl⟩ := requireValid_eq_ok.mp hi
  refine ends_bind (ends_tryCatch (ends_bind (ends_lift ?_ ?_)))
  · intro i' hi'
    refine (atomicWrite_ends w indexFile (.index i)).mono ?_ ?_
    · intro _ w' hwritten
      exact ends_pure ⟨rfl, hvalid, stored_of_index hwritten⟩
    · intro e w' hkept
      exact ends_throw (stored_of_kept hkept)
  · exact fun _ => ends_throw rfl

-- ================================================================== seeding

/-- The files of the profiles. -/
def OfProfile (path : Path) : Prop := ∃ profileId, path.dir = .profile profileId

/-- A profile's files are in its directory, with their backups and temporary
files. -/
theorem covers_ofProfile {profileId : String} {path : Path}
    (h : path.dir = .profile profileId) :
    Storage.Covers OfProfile path := by
  refine ⟨⟨profileId, h⟩, ?_⟩
  rintro temp ⟨nano, rfl⟩
  exact ⟨profileId, h⟩

/-- The index does not lie with them. -/
theorem ignores_profilesDir : Ignores profilesDir OfProfile where
  faults _ _ := rfl
  nanos _ _ := rfl
  file := by
    rintro path ⟨profileId, hdir⟩ content w
    funext name
    have hne : (⟨.profiles, name⟩ : Path) ≠ path := by
      rintro rfl
      cases hdir
    simp [profilesDir, setFile, hne]

/-- The clock, read while the index is open. -/
theorem frames_clock : Frames profilesDir (clock : Repo Int) :=
  fun _ => rfl

/-- The paths of a profile are in its directory. -/
theorem answers_filePathsFor (profileId : String) :
    Answers (fun paths => ∀ kind, (paths kind).dir = .profile profileId)
      (filePathsFor profileId) :=
  answers_bind fun _ => answers_pure fun _ => rfl

section Seeding

variable {γ : Type} {f : World Content → γ} (hf : Ignores f OfProfile)

/-- Code that works in a profile's directory leaves the index alone: here
the paths, and below what is built on them. -/
theorem frames_filePathsFor (profileId : String) :
    Frames f (filePathsFor profileId) :=
  frames_bind (frames_lift _) fun _ => frames_pure _

include hf

theorem frames_ensureProfileDirectories (profileId : String) :
    Frames f (ensureProfileDirectories app profileId) := by
  refine frames_bind (frames_attempt hf) fun _ => ?_
  refine frames_bind (frames_attempt hf) fun _ => ?_
  exact frames_seedAssetIfMissing hf _
    (@covers_ofProfile profileId (cfFile profileId) rfl)

section

variable {profileId : String} {paths : RuntimeFileKind → Path}
  (hpaths : ∀ kind, (paths kind).dir = .profile profileId)

include hpaths

theorem frames_seedProfileFilesFromAssetsLocked :
    Frames f (seedProfileFilesFromAssetsLocked app profileId paths) := by
  refine frames_bind (frames_ensureProfileDirectories hf _) fun _ => ?_
  refine frames_forEach fun kind _ => ?_
  have hcovers := covers_ofProfile (hpaths kind)
  refine frames_bind ?_ fun _ => ?_
  · exact frames_restorePrimaryFromBackupIfMissing hf hcovers
  · exact frames_seedAssetIfMissing hf _ hcovers

theorem frames_seedDefaultProfileFromLegacyOrAssetsLocked :
    Frames f
      (seedDefaultProfileFromLegacyOrAssetsLocked app profileId paths) := by
  refine frames_bind (frames_ensureProfileDirectories hf _) fun _ => ?_
  refine frames_forEach fun kind _ => ?_
  have hcovers := covers_ofProfile (hpaths kind)
  refine frames_bind ?_ fun _ => ?_
  · exact frames_restorePrimaryFromBackupIfMissing hf hcovers
  refine frames_bind (frames_look _) fun there => ?_
  cases there with
  | true => exact frames_pure ()
  | false =>
      refine frames_bind ?_ fun source => ?_
      · refine frames_bind (frames_look _) fun primary => ?_
        cases primary with
        | true => exact frames_pure _
        | false =>
            refine frames_bind (frames_look _) fun backup => ?_
            cases backup with
            | true => exact frames_pure _
            | false => exact frames_pure _
      · cases source with
        | some source => exact frames_copyFileAtomic hf source hcovers
        | none => exact frames_seedAssetIfMissing hf _ hcovers

theorem frames_copyProfileFilesLocked (sourcePaths : RuntimeFileKind → Path) :
    Frames f (copyProfileFilesLocked app sourcePaths profileId paths) := by
  refine frames_bind (frames_ensureProfileDirectories hf _) fun _ => ?_
  refine frames_forEach fun kind _ => ?_
  exact frames_copyFileAtomic hf _ (covers_ofProfile (hpaths kind))

theorem frames_writeProfileFilesLocked (files : ProfileUpdateFileContents) :
    Frames f (writeProfileFilesLocked paths files) := by
  refine frames_forEach fun kind _ => ?_
  refine frames_atomicWrite hf (covers_ofProfile (hpaths kind)) _ ?_
  rintro b ⟨⟩
  have hbackup : (backupFor (paths kind)).dir = .profile profileId := hpaths kind
  exact covers_ofProfile hbackup

end

end Seeding

/-- A file that may be restored lies in the profile's directory, and so
does the copy of it. -/
def InProfile (profileId : String) (file : ProfileFileRollback) : Prop :=
  file.target.dir = .profile profileId
    ∧ file.rollback.dir = .profile profileId

/-- The copies are beside their targets. -/
theorem answers_createRollbackFilesLocked {profileId : String}
    {paths : RuntimeFileKind → Path}
    (hpaths : ∀ kind, (paths kind).dir = .profile profileId) :
    Answers (fun files => ∀ file ∈ files, InProfile profileId file)
      (createRollbackFilesLocked paths) := by
  refine answers_mapEach fun kind _ => ?_
  refine answers_bind fun nano => answers_bind fun existed => ?_
  cases existed with
  | true => exact answers_bind fun _ => answers_pure ⟨hpaths kind, hpaths kind⟩
  | false => exact answers_pure ⟨hpaths kind, hpaths kind⟩

section Rollback

variable {γ : Type} {f : World Content → γ} (hf : Ignores f OfProfile)
  {profileId : String}

include hf

theorem frames_createRollbackFilesLocked {paths : RuntimeFileKind → Path}
    (hpaths : ∀ kind, (paths kind).dir = .profile profileId) :
    Frames f (createRollbackFilesLocked paths) := by
  refine frames_mapEach fun kind _ => ?_
  refine frames_bind (frames_nanoTime hf) fun nano => ?_
  refine frames_bind (frames_look _) fun existed => ?_
  cases existed with
  | true =>
      refine frames_bind ?_ fun _ => frames_pure _
      exact frames_copyFileAtomic hf _ (covers_ofProfile (hpaths kind))
  | false => exact frames_pure _

theorem frames_restoreRollbackFilesLocked {files : List ProfileFileRollback}
    (h : ∀ file ∈ files, InProfile profileId file) :
    Frames f (restoreRollbackFilesLocked files) := by
  refine frames_forEach fun file hfile => ?_
  have hdir := (h file hfile).1
  split
  · exact frames_copyFileAtomic hf _ (covers_ofProfile hdir)
  · refine frames_bind (frames_look _) fun there => ?_
    cases there with
    | false => exact frames_pure ()
    | true =>
        refine frames_bind (frames_update (hf.deleteFile ⟨profileId, hdir⟩))
          fun _ => ?_
        refine frames_bind (frames_look _) fun still => ?_
        cases still with
        | true => exact frames_throw _
        | false => exact frames_pure ()

/-- So the cleanup does not reach the index. -/
theorem cleanup_ignored {files : List ProfileFileRollback}
    (h : ∀ file ∈ files, InProfile profileId file) (w : World Content) :
    f (cleanupRollbackFilesLocked files w) = f w := by
  induction files generalizing w with
  | nil => rfl
  | cons file rest ih =>
      have hrest : ∀ file ∈ rest, InProfile profileId file :=
        fun f hf => h f (List.mem_cons_of_mem file hf)
      have hfile := (h file List.mem_cons_self).2
      exact (ih hrest _).trans (hf.deleteFile ⟨profileId, hfile⟩ w)

end Rollback

section Known

variable {γ : Type} {f : World Content → γ} (hf : Ignores f OfProfile)

include hf

theorem frames_ensureProfileStorageLocked (index : ProfileIndex) :
    Frames f (ensureProfileStorageLocked app index) := by
  refine frames_forEach fun profile _ => ?_
  refine frames_bind_of (answers_filePathsFor profile.id)
    (frames_filePathsFor profile.id) fun paths hpaths => ?_
  exact frames_seedProfileFilesFromAssetsLocked hf hpaths

theorem frames_filePathsForKnownProfileLocked (index : ProfileIndex)
    (profileId : String) :
    Frames f (filePathsForKnownProfileLocked app index profileId) := by
  refine frames_bind (frames_lift _) fun _ => ?_
  refine frames_bind_of (answers_filePathsFor profileId)
    (frames_filePathsFor profileId) fun paths hpaths => ?_
  refine frames_bind ?_ fun _ => frames_pure _
  exact frames_seedProfileFilesFromAssetsLocked hf hpaths

end Known

theorem answers_filePathsForKnownProfileLocked (index : ProfileIndex)
    (profileId : String) :
    Answers (fun paths => ∀ kind, (paths kind).dir = .profile profileId)
      (filePathsForKnownProfileLocked app index profileId) := by
  refine answers_bind fun _ => ?_
  refine answers_bind_of (answers_filePathsFor profileId) fun paths hpaths => ?_
  exact answers_bind fun _ => answers_pure hpaths

/-- Ids are random and not stored. -/
theorem frames_generateProfileId (existingIds : List String) (n : Nat) :
    Frames profilesDir (generateProfileId existingIds n) := by
  induction n with
  | zero => exact frames_throw _
  | succ n ih =>
      refine frames_bind (fun _ => rfl) fun candidate => ?_
      split
      · exact frames_pure _
      · exact ih

-- =================================================================== loads

/-- The first index is there, or nothing is. -/
theorem createDefaultIndexLocked_ends (w : World Content) :
    Ends (createDefaultIndexLocked app) w
      (fun i w' => IsDefault i ∧ Valid app i ∧ stored w' = some (.index i))
      (fun _ w' => stored w' = stored w) := by
  refine ends_bind ?_
  show Ends (lift (ProfileIndex.default (w.clock.headD 0)) >>= _)
    { w with clock := w.clock.tail } _ _
  refine ends_bind (ends_lift ?_ fun _ => rfl)
  intro index hdefault
  refine ends_bind (((answers_filePathsFor _).ends
    ((@frames_filePathsFor _ profilesDir _).ends _)).mono ?_ ?_)
  · rintro paths w₁ ⟨hpaths, h₁⟩
    have hseed := @frames_seedDefaultProfileFromLegacyOrAssetsLocked app _ _
      ignores_profilesDir _ _ hpaths
    refine ends_bind ((hseed.ends w₁).mono ?_ ?_)
    · intro _ w₂ h₂
      have hsame : stored w₂ = stored w := by
        rw [stored_of_profilesDir h₂, stored_of_profilesDir h₁]
        rfl
      refine (writeIndexLocked_ends index w₂).mono ?_ ?_
      · rintro i w₃ ⟨rfl, hvalid, hstored⟩
        exact ⟨⟨_, hdefault⟩, hvalid, hstored⟩
      · intro e w₃ h₃
        exact h₃.trans hsame
    · intro e w₂ h₂
      rw [stored_of_profilesDir h₂, stored_of_profilesDir h₁]
      rfl
  · intro e w₁ h₁
    rw [stored_of_profilesDir h₁]
    rfl

/-- A load answers with what is stored, or creates it. -/
theorem loadIndexLocked_ends (w : World Content) :
    Ends (loadIndexLocked app) w
      (fun i w' => Same app w w' ∧ Holds app w' i)
      (fun _ w' => Same app w w') := by
  refine ends_bind (ends_attempt ?_ ?_)
  case refine_2 =>
    intro e w₁ h₁
    exact .inl (by simp [stored, h₁])
  intro w₁ h₁
  refine ends_bind (ends_attempt ?_ ?_)
  case refine_2 =>
    intro e w₂ h₂
    exact .inl (by simp [stored, h₂, h₁])
  intro w₂ h₂
  have hw₂ : stored w₂ = stored w := by simp [stored, h₂, h₁]
  refine ends_bind ((restore_ends w₂).mono ?_ fun e w₃ h₃ => .inl (h₃.trans hw₂))
  rintro - w₃ ⟨h₃, hfile⟩
  have hw₃ : stored w₃ = stored w := h₃.trans hw₂
  have hensure : ∀ i w₄, Same app w w₄ → Holds app w₄ i →
      Ends (do ensureProfileStorageLocked app i; pure i) w₄
        (fun i w' => Same app w w' ∧ Holds app w' i)
        (fun _ w' => Same app w w') := by
    intro i w₄ hsame hholds
    have hframes := @frames_ensureProfileStorageLocked app _ _ ignores_profilesDir i
    refine ends_bind ((hframes.ends w₄).mono ?_ ?_)
    · intro _ w₅ h₅
      have h₅ := stored_of_profilesDir h₅
      refine ends_pure ⟨?_, ?_⟩
      · unfold Same
        rw [h₅]
        exact hsame
      · unfold Holds
        rw [h₅]
        exact hholds
    · intro e w₅ h₅
      unfold Same
      rw [stored_of_profilesDir h₅]
      exact hsame
  refine ends_bind (ends_look ?_)
  cases hthere : w₃.files indexFile with
  | some content =>
      refine ends_bind ((readIndexLocked_ends w₃).mono ?_ ?_)
      · rintro i w₄ ⟨rfl, content', hcontent, hjson⟩
        exact hensure i w₄ (.inl hw₃)
          ⟨content', stored_of_index hcontent, hjson⟩
      · rintro e w₄ rfl
        exact .inl hw₃
  | none =>
      have hnone : stored w = none := by
        rw [hthere] at hfile
        rw [← hw₂, ← hfile]
      refine ends_bind ((createDefaultIndexLocked_ends w₃).mono ?_ ?_)
      · rintro i w₄ ⟨hdefault, hvalid, hstored⟩
        refine hensure i w₄ (.inr ⟨hnone, i, hdefault, hvalid, hstored⟩) ?_
        exact ⟨_, hstored, requireValid_eq_ok.mpr ⟨hvalid, rfl⟩⟩
      · intro e w₄ h₄
        exact .inl (h₄.trans hw₃)

-- ================================================================= commits

variable (app) in
/-- A computation that stores a valid index of `P` at its end, or throws and
leaves what is stored. -/
def Commits (P : ProfileIndex → Prop) (m : Repo ProfileIndex) : Prop :=
  ∀ w, Ends m w
    (fun i w' => P i ∧ Valid app i ∧ stored w' = some (.index i))
    (fun _ w' => stored w' = stored w)

section Commits

variable {α : Type} {P : ProfileIndex → Prop} {m : Repo ProfileIndex}

/-- Writing an index with the property commits it. -/
theorem commits_write {index : ProfileIndex} (h : P index) :
    Commits app P (writeIndexLocked app index) := by
  intro w
  refine (writeIndexLocked_ends index w).mono ?_ fun _ _ h => h
  rintro i w' ⟨rfl, hvalid, hstored⟩
  exact ⟨h, hvalid, hstored⟩

/-- Checks in front of the write. -/
theorem commits_lift {x : Except Failure α} {g : α → Repo ProfileIndex}
    (h : ∀ a, x = .ok a → Commits app P (g a)) :
    Commits app P (lift x >>= g) :=
  fun w => ends_bind (ends_lift (fun a ha => h a ha w) fun _ => rfl)

/-- A step that does not touch the index. -/
theorem commits_frames_of {A : α → Prop} {n : Repo α}
    {g : α → Repo ProfileIndex} (hA : Answers A n)
    (hn : Frames profilesDir n) (h : ∀ a, A a → Commits app P (g a)) :
    Commits app P (n >>= g) := by
  intro w
  refine ends_bind ((hA.ends (hn.ends w)).mono ?_ ?_)
  · rintro a w' ⟨ha, hw'⟩
    refine (h a ha w').mono (fun _ _ h => h) ?_
    intro e w'' h''
    exact h''.trans (stored_of_profilesDir hw')
  · intro e w' hw'
    exact stored_of_profilesDir hw'

/-- And code that leaves the index alone. -/
theorem commits_frames {n : Repo α} {g : α → Repo ProfileIndex}
    (hn : Frames profilesDir n) (h : ∀ a, Commits app P (g a)) :
    Commits app P (n >>= g) :=
  commits_frames_of (fun _ _ _ => trivial) hn fun a _ => h a

/-- A cleanup behind it, likewise. -/
theorem commits_tryFinally {f : World Content → World Content}
    (hm : Commits app P m) (hf : ∀ w, profilesDir (f w) = profilesDir w) :
    Commits app P (tryFinally m f) := by
  intro w
  refine ends_tryFinally ((hm w).mono ?_ ?_)
  · rintro i w' ⟨hP, hvalid, hstored⟩
    refine ⟨hP, hvalid, ?_⟩
    rw [stored_of_profilesDir (hf w'), hstored]
  · intro e w' hw'
    rw [stored_of_profilesDir (hf w'), hw']

/-- A handler that cleans up and throws. -/
theorem commits_tryCatch {handler : Failure → Repo ProfileIndex}
    (hm : Commits app P m) (hframes : ∀ e, Frames profilesDir (handler e))
    (hthrows : ∀ e, Answers (fun _ => False) (handler e)) :
    Commits app P (tryCatch m handler) := by
  intro w
  refine ends_tryCatch ((hm w).mono (fun _ _ h => h) ?_)
  intro e w' hw'
  refine ((hthrows e).ends ((hframes e).ends w')).mono ?_ ?_
  · rintro i w'' ⟨hfalse, -⟩
    exact hfalse.elim
  · intro e' w'' hw''
    exact (stored_of_profilesDir hw'').trans hw'

/-- Steps behind the write that cannot throw. -/
theorem commits_then {f : World Content → World Content}
    (hm : Commits app P m) (hf : ∀ w, profilesDir (f w) = profilesDir w) :
    Commits app P (m >>= fun i => update f >>= fun _ => pure i) := by
  intro w
  refine ends_bind ((hm w).mono ?_ fun _ _ h => h)
  rintro i w' ⟨hP, hvalid, hstored⟩
  refine ends_bind (ends_update (ends_pure ⟨hP, hvalid, ?_⟩))
  rw [stored_of_profilesDir (hf w'), hstored]

end Commits

-- ============================================================= the effects

/-- One entry is another one of the same id. -/
def Replaced (profileId : String) (before after : ProfileIndex) : Prop :=
  after.activeProfileId = before.activeProfileId
    ∧ ∃ front back existing changed,
      before.profiles = front ++ existing :: back
        ∧ after.profiles = front ++ changed :: back
        ∧ existing.id = profileId ∧ changed.id = profileId

/-- One profile more, at the end. -/
def Appended (name : String) (before after : ProfileIndex) : Prop :=
  after.activeProfileId = before.activeProfileId
    ∧ ∃ profile, after.profiles = before.profiles ++ [profile]
      ∧ profile.name = name

/-- One entry is gone, and it was not the last. -/
def Removed (profileId : String) (before after : ProfileIndex) : Prop :=
  (before.activeProfileId ≠ profileId →
      after.activeProfileId = before.activeProfileId)
    ∧ after.profiles ≠ []
    ∧ ∃ front back existing, before.profiles = front ++ existing :: back
      ∧ after.profiles = front ++ back ∧ existing.id = profileId

/-- What an operation that succeeds does to the index. -/
def Operation.Effect : Operation → ProfileIndex → ProfileIndex → Prop
  | .create name => Appended name
  | .duplicate _ name => Appended name
  | .delete profileId => Removed profileId
  | .select profileId => fun before after =>
      after.profiles = before.profiles ∧ after.activeProfileId = profileId
  | .rename profileId _ => Replaced profileId
  | .update profile => Replaced profile.id
  | .updateRemoteSettings profileId _ => Replaced profileId
  | .recordRemoteUpdateFailure profileId _ _ _ => Replaced profileId
  | .applyRemoteUpdate profileId _ _ _ _ => Replaced profileId

variable (app) in
/-- What a valid index is. -/
structure WellFormed (index : ProfileIndex) : Prop where
  nonempty : index.profiles ≠ []
  ids : (index.profiles.map (·.id)).Nodup
  names : (index.profiles.map fun p =>
    ZeroDpiProfile.duplicateKeyForName app.jvm p.name).Nodup
  active : ∃ p ∈ index.profiles, p.id = index.activeProfileId

/-- No duplicates were found. -/
theorem nodup_of_duplicates {keys : List String}
    (h : ProfileIndex.duplicates keys = []) : keys.Nodup := by
  rw [List.nodup_iff_count]
  intro key
  by_cases hmem : key ∈ keys
  · have hnone := List.filter_eq_nil_iff.mp h key hmem
    simpa using hnone
  · rw [List.count_eq_zero_of_not_mem hmem]
    exact Nat.zero_le 1

/-- What the validation says, as a fact about the lists. -/
theorem Valid.wellFormed {index : ProfileIndex} (h : Valid app index) :
    WellFormed app index := by
  unfold Valid ProfileValidationResult.isValid ProfileIndex.validate at h
  simp only [List.isEmpty_iff, List.append_eq_nil_iff] at h
  obtain ⟨⟨⟨⟨⟨⟨-, -⟩, hempty⟩, hids⟩, hnames⟩, hactive⟩, -⟩ := h
  exact {
    nonempty := by
      intro hnil
      simp [hnil] at hempty
    ids := nodup_of_duplicates (by simpa using hids)
    names := nodup_of_duplicates (by simpa using hnames)
    active := by simpa using hactive }

/-- A profile that the constructor accepts has what it was given. -/
theorem new_eq_ok {id name : String} {created updated : Int}
    {remote : ProfileRemoteSettings} {p : ZeroDpiProfile}
    (h : ZeroDpiProfile.new id name created updated remote = .ok p) :
    p.id = id ∧ p.name = name ∧ p.remote = remote := by
  unfold ZeroDpiProfile.new at h
  obtain ⟨-, -, h⟩ := bind_eq_ok.mp h
  obtain ⟨-, -, h⟩ := bind_eq_ok.mp h
  obtain ⟨-, -, h⟩ := bind_eq_ok.mp h
  obtain ⟨-, -, h⟩ := bind_eq_ok.mp h
  obtain ⟨-, -, h⟩ := bind_eq_ok.mp h
  split at h
  · cases h
    exact ⟨rfl, rfl, rfl⟩
  · cases h

/-- The profile found is the first of its id. -/
theorem requireProfile_eq_ok {index : ProfileIndex} {profileId : String}
    {p : ZeroDpiProfile} (h : requireProfile index profileId = .ok p) :
    (ZeroDpiProfile.validateId profileId).isValid = true ∧ p.id = profileId
      ∧ ∃ front back, index.profiles = front ++ p :: back
        ∧ ∀ q ∈ front, q.id ≠ profileId := by
  unfold requireProfile at h
  obtain ⟨hvalid, h⟩ :=
    (check_bind_eq_ok (result_requireValid_eq_ok _ _)).mp h
  refine ⟨hvalid, ?_⟩
  cases hfind : index.profiles.find? fun p => p.id = profileId with
  | none =>
      rw [hfind] at h
      cases h
  | some q =>
      rw [hfind] at h
      cases h
      obtain ⟨hid, front, back, hsplit, hfront⟩ :=
        List.find?_eq_some_iff_append.mp hfind
      refine ⟨by simpa using hid, front, back, hsplit, ?_⟩
      intro q hq
      simpa using hfront q hq

/-- Of different ids, one entry is replaced. -/
theorem withProfile_split {index : ProfileIndex} {p : ZeroDpiProfile}
    {front back : List ZeroDpiProfile} {existing : ZeroDpiProfile}
    (hids : (index.profiles.map (·.id)).Nodup)
    (hsplit : index.profiles = front ++ existing :: back)
    (hid : existing.id = p.id) :
    (withProfile index p).profiles = front ++ p :: back := by
  rw [hsplit, List.map_append, List.map_cons] at hids
  have hfront : ∀ q ∈ front, q.id ≠ p.id := by
    intro q hq heq
    have hdisjoint := (List.nodup_append.mp hids).2.2
    exact hdisjoint _ (List.mem_map_of_mem hq) _ List.mem_cons_self
      (heq.trans hid.symm)
  have hback : ∀ q ∈ back, q.id ≠ p.id := by
    intro q hq heq
    have htail := (List.nodup_append.mp hids).2.1
    apply (List.nodup_cons.mp htail).1
    rw [hid, ← heq]
    exact List.mem_map_of_mem hq
  have hkeep : ∀ l : List ZeroDpiProfile, (∀ q ∈ l, q.id ≠ p.id) →
      l.map (fun q => if q.id = p.id then p else q) = l := by
    intro l hl
    conv => rhs; rw [← List.map_id l]
    apply List.map_congr_left
    intro q hq
    rw [if_neg (hl q hq), id_eq]
  unfold withProfile
  simp only [hsplit, List.map_append, List.map_cons, hkeep front hfront,
    hkeep back hback, hid, if_true]

/-- The entry of the id is another one, whose remote settings are `R` of
those that were there. -/
def Changed (profileId : String)
    (R : ProfileRemoteSettings → ProfileRemoteSettings → Prop)
    (before after : ProfileIndex) : Prop :=
  ∃ existing changed, requireProfile before profileId = .ok existing
    ∧ changed.id = profileId ∧ after = withProfile before changed
    ∧ R existing.remote changed.remote

/-- In a valid index ids are unique, so that one profile changed. -/
theorem Changed.replaced {profileId : String} {before after : ProfileIndex}
    {R : ProfileRemoteSettings → ProfileRemoteSettings → Prop}
    (h : Changed profileId R before after) (hvalid : Valid app before) :
    Replaced profileId before after := by
  obtain ⟨existing, changed, hrequire, hid, rfl, -⟩ := h
  obtain ⟨-, hexisting, front, back, hsplit, -⟩ := requireProfile_eq_ok hrequire
  refine ⟨rfl, front, back, existing, changed, hsplit, ?_, hexisting, hid⟩
  exact withProfile_split hvalid.wellFormed.ids hsplit
    (hexisting.trans hid.symm)

/-- It is found where the old one was. -/
theorem requireProfile_withProfile {profileId : String} {index : ProfileIndex}
    {existing changed : ZeroDpiProfile} (hvalid : Valid app index)
    (hrequire : requireProfile index profileId = .ok existing)
    (hid : changed.id = profileId) :
    requireProfile (withProfile index changed) profileId = .ok changed := by
  obtain ⟨hvalidId, hexisting, front, back, hsplit, hfront⟩ :=
    requireProfile_eq_ok hrequire
  have hprofiles := withProfile_split hvalid.wellFormed.ids hsplit
    (hexisting.trans hid.symm)
  have hfind : (withProfile index changed).profiles.find?
      (fun p => p.id = profileId) = some changed := by
    rw [hprofiles]
    apply List.find?_eq_some_iff_append.mpr
    refine ⟨by simpa using hid, front, back, rfl, ?_⟩
    intro q hq
    simpa using hfront q hq
  unfold requireProfile
  rw [hfind]
  exact (check_bind_eq_ok (result_requireValid_eq_ok _ _)).mpr ⟨hvalidId, rfl⟩

/-- The check changes nothing. -/
theorem withUpdatedProfile_eq_ok {index next : ProfileIndex}
    {changed : ZeroDpiProfile}
    (h : withUpdatedProfile app index changed = .ok next) :
    next = withProfile index changed :=
  (requireValid_eq_ok.mp h).2

-- ========================================================== the operations

section Operations

variable {current : ProfileIndex}

/-- The end of an operation that changes one entry. -/
theorem commits_changed {profileId : String}
    {R : ProfileRemoteSettings → ProfileRemoteSettings → Prop}
    {existing changed : ZeroDpiProfile}
    (hrequire : requireProfile current profileId = .ok existing)
    (hid : changed.id = profileId) (hR : R existing.remote changed.remote) :
    Commits app (Changed profileId R current)
      (lift (withUpdatedProfile app current changed) >>= writeIndexLocked app) := by
  refine commits_lift fun next hnext => ?_
  rw [withUpdatedProfile_eq_ok hnext]
  exact commits_write ⟨existing, changed, hrequire, hid, rfl, hR⟩

/-- The settings the user edits. -/
def userSettings (r : ProfileRemoteSettings) :
    String × String × String × Bool × Int :=
  (r.configUrl, r.sniListUrl, r.ipListUrl, r.autoUpdateEnabled,
    r.autoUpdateIntervalHours)

/-- Only the remote status of the profile is new. -/
theorem withRemoteUpdateStatus_eq_ok {profile changed : ZeroDpiProfile}
    {remote : ProfileRemoteSettings} {mode : ProfileUpdateMode}
    {successful : Bool} {message : String} {now : Int}
    (h : withRemoteUpdateStatus profile remote mode successful message now
      = .ok changed) :
    changed.id = profile.id
      ∧ userSettings changed.remote = userSettings remote := by
  unfold withRemoteUpdateStatus at h
  obtain ⟨status, -, h⟩ := bind_eq_ok.mp h
  obtain ⟨hid, -, hremote⟩ := new_eq_ok h
  refine ⟨hid, ?_⟩
  rw [hremote]
  rfl

/-- It has the id that was asked for. -/
theorem requireProfile_id {profileId : String} {existing : ZeroDpiProfile}
    (h : requireProfile current profileId = .ok existing) :
    existing.id = profileId :=
  (requireProfile_eq_ok h).2.1

/-- The index that a create or a duplicate writes. -/
theorem appended {profile : ZeroDpiProfile} {id name : String} {now : Int}
    {remote : ProfileRemoteSettings}
    (h : ZeroDpiProfile.new id name now now remote = .ok profile) :
    Appended name current
      { current with profiles := current.profiles ++ [profile] } :=
  ⟨rfl, profile, rfl, (new_eq_ok h).2.1⟩

/-- What is left behind a deletion. -/
theorem removed {profileId activeProfileId : String}
    {existing : ZeroDpiProfile} (hvalid : Valid app current)
    (hrequire : requireProfile current profileId = .ok existing)
    (hnext : Valid app { current with
      activeProfileId := activeProfileId
      profiles := current.profiles.filter fun p => p.id ≠ profileId })
    (hactive : current.activeProfileId ≠ profileId →
      activeProfileId = current.activeProfileId) :
    Removed profileId current { current with
      activeProfileId := activeProfileId
      profiles := current.profiles.filter fun p => p.id ≠ profileId } := by
  obtain ⟨-, hid, front, back, hsplit, hfront⟩ := requireProfile_eq_ok hrequire
  have hids := hvalid.wellFormed.ids
  rw [hsplit, List.map_append, List.map_cons] at hids
  have htail := (List.nodup_append.mp hids).2.1
  have hback : ∀ q ∈ back, q.id ≠ profileId := by
    intro q hq heq
    apply (List.nodup_cons.mp htail).1
    rw [hid, ← heq]
    exact List.mem_map_of_mem hq
  refine ⟨hactive, hnext.wellFormed.nonempty, front, back, existing, hsplit,
    ?_, hid⟩
  have hkeep : ∀ l : List ZeroDpiProfile, (∀ q ∈ l, q.id ≠ profileId) →
      l.filter (fun q => q.id ≠ profileId) = l := by
    intro l hl
    apply List.filter_eq_self.mpr
    intro q hq
    simpa using hl q hq
  show current.profiles.filter (fun q => q.id ≠ profileId) = front ++ back
  rw [hsplit, List.filter_append, List.filter_cons_of_neg (by simp [hid]),
    hkeep front hfront, hkeep back hback]

end Operations

variable (app) in
/-- An operation from `w` on has stored an index that is `P` of the one it
loaded. -/
def Done (P : ProfileIndex → ProfileIndex → Prop) (w : World Content)
    (i : ProfileIndex) (w' : World Content) : Prop :=
  ∃ before loaded, Same app w loaded ∧ Holds app loaded before
    ∧ P before i ∧ Valid app i ∧ stored w' = some (.index i)

/-- An operation is a load and a computation that commits. -/
theorem operation_ends {P : ProfileIndex → ProfileIndex → Prop}
    {body : ProfileIndex → Repo ProfileIndex} {w : World Content}
    (h : ∀ current, Valid app current →
      Commits app (P current) (body current)) :
    Ends (loadIndexLocked app >>= body) w (Done app P w)
      (fun _ w' => Same app w w') := by
  refine ends_bind ((loadIndexLocked_ends w).mono ?_ fun _ _ h => h)
  rintro current w₁ ⟨hsame, hholds⟩
  refine (h current hholds.valid w₁).mono ?_ ?_
  · rintro i w' ⟨hP, hvalid, hstored⟩
    exact ⟨current, w₁, hsame, hholds, hP, hvalid, hstored⟩
  · intro e w' hw'
    unfold Same
    rw [hw']
    exact hsame

/-- A create appends one profile, or changes no profile at all. -/
theorem createProfile_ends (name : String) (w : World Content) :
    Ends (createProfile app name) w (Done app (Appended name) w)
      (fun _ w' => Same app w w') := by
  refine operation_ends fun current _ => ?_
  refine commits_frames frames_clock fun now => ?_
  refine commits_frames (frames_generateProfileId _ _) fun id => ?_
  refine commits_lift fun profile hprofile => commits_lift fun next hnext => ?_
  obtain ⟨-, rfl⟩ := requireValid_eq_ok.mp hnext
  refine commits_frames_of (answers_filePathsFor _) (frames_filePathsFor _)
    fun paths hpaths => ?_
  refine commits_frames (frames_seedProfileFilesFromAssetsLocked ignores_profilesDir hpaths)
    fun _ => ?_
  exact commits_write (appended hprofile)

/-- So does a duplicate. -/
theorem duplicateProfile_ends (sourceProfileId name : String)
    (w : World Content) :
    Ends (duplicateProfile app sourceProfileId name) w
      (Done app (Appended name) w) (fun _ w' => Same app w w') := by
  refine operation_ends fun current _ => commits_lift fun source _ => ?_
  refine commits_frames frames_clock fun now => ?_
  refine commits_frames (frames_generateProfileId _ _) fun id => ?_
  refine commits_lift fun profile hprofile => commits_lift fun next hnext => ?_
  obtain ⟨-, rfl⟩ := requireValid_eq_ok.mp hnext
  refine commits_frames (frames_filePathsForKnownProfileLocked ignores_profilesDir _ _)
    fun sourcePaths => ?_
  refine commits_frames_of (answers_filePathsFor _) (frames_filePathsFor _)
    fun paths hpaths => ?_
  refine commits_frames (frames_copyProfileFilesLocked ignores_profilesDir hpaths _) fun _ => ?_
  exact commits_write (appended hprofile)

/-- A rename changes no settings. -/
theorem renameProfile_ends (profileId name : String) (w : World Content) :
    Ends (renameProfile app profileId name) w
      (Done app (Changed profileId fun old new => new = old) w)
      (fun _ w' => Same app w w') := by
  refine operation_ends fun current _ => ?_
  refine commits_lift fun existing hrequire => ?_
  refine commits_frames frames_clock fun now => ?_
  refine commits_lift fun renamed hnew => ?_
  obtain ⟨hid, -, hremote⟩ := new_eq_ok hnew
  exact commits_changed hrequire (hid.trans (requireProfile_id hrequire)) hremote

/-- An update stores the profile's own. -/
theorem updateProfile_ends (profile : ZeroDpiProfile) (w : World Content) :
    Ends (updateProfile app profile) w
      (Done app (Changed profile.id fun _ new => new = profile.remote) w)
      (fun _ w' => Same app w w') := by
  refine operation_ends fun current _ => ?_
  refine commits_lift fun existing hrequire => ?_
  exact commits_changed hrequire rfl rfl

/-- This one stores new settings. -/
theorem updateRemoteSettings_ends (profileId : String)
    (remote : ProfileRemoteSettings) (w : World Content) :
    Ends (updateRemoteSettings app profileId remote) w
      (Done app (Changed profileId fun _ new => new = remote) w)
      (fun _ w' => Same app w w') := by
  refine operation_ends fun current _ => ?_
  refine commits_lift fun existing hrequire => ?_
  refine commits_frames frames_clock fun now => ?_
  refine commits_lift fun updated hnew => ?_
  obtain ⟨hid, -, hremote⟩ := new_eq_ok hnew
  exact commits_changed hrequire (hid.trans (requireProfile_id hrequire)) hremote

/-- A failure keeps what the user set. -/
theorem recordRemoteUpdateFailure_ends (profileId : String)
    (mode : ProfileUpdateMode) (message : String)
    (remote : Option ProfileRemoteSettings) (w : World Content) :
    Ends (recordRemoteUpdateFailure app profileId mode message remote) w
      (Done app (Changed profileId fun old new =>
        userSettings new = userSettings (remote.getD old)) w)
      (fun _ w' => Same app w w') := by
  refine operation_ends fun current _ => ?_
  refine commits_lift fun existing hrequire => commits_lift fun _ _ => ?_
  refine commits_frames frames_clock fun now => ?_
  refine commits_lift fun updated hstatus => ?_
  obtain ⟨hid, hremote⟩ := withRemoteUpdateStatus_eq_ok hstatus
  exact commits_changed hrequire (hid.trans (requireProfile_id hrequire)) hremote

/-- So does an update that succeeds. -/
theorem applyRemoteUpdate_ends (profileId : String)
    (remote : ProfileRemoteSettings) (files : ProfileUpdateFileContents)
    (mode : ProfileUpdateMode) (message : String) (w : World Content) :
    Ends (applyRemoteUpdate app profileId remote files mode message) w
      (Done app (Changed profileId fun _ new =>
        userSettings new = userSettings remote) w)
      (fun _ w' => Same app w w') := by
  refine ends_bind (ends_lift ?_ fun _ => .inl rfl)
  intro _ _
  refine operation_ends fun current _ => ?_
  refine commits_lift fun existing hrequire => ?_
  refine commits_frames_of (answers_filePathsForKnownProfileLocked _ _)
    (frames_filePathsForKnownProfileLocked ignores_profilesDir _ _) fun paths hpaths => ?_
  refine commits_frames frames_clock fun now => ?_
  refine commits_lift fun updated hstatus => commits_lift fun next hnext => ?_
  obtain ⟨hid, hremote⟩ := withRemoteUpdateStatus_eq_ok hstatus
  refine commits_frames_of (answers_createRollbackFilesLocked hpaths)
    (frames_createRollbackFilesLocked ignores_profilesDir hpaths) fun rollbackFiles hrollback => ?_
  refine commits_tryFinally (commits_tryCatch ?_ ?_ ?_)
    (cleanup_ignored ignores_profilesDir hrollback)
  · refine commits_frames (frames_writeProfileFilesLocked ignores_profilesDir hpaths files)
      fun _ => commits_write ?_
    exact ⟨existing, updated, hrequire,
      hid.trans (requireProfile_id hrequire), withUpdatedProfile_eq_ok hnext,
      hremote⟩
  · intro e
    refine frames_bind (frames_tryCatch ?_ fun _ => frames_throw _)
      fun _ => frames_throw _
    exact frames_restoreRollbackFilesLocked ignores_profilesDir hrollback
  · exact fun e => answers_bind fun _ _ _ h => nomatch h

/-- A delete takes one profile away. -/
theorem deleteProfile_ends (profileId : String) (w : World Content) :
    Ends (deleteProfile app profileId) w (Done app (Removed profileId) w)
      (fun _ w' => Same app w w') := by
  refine operation_ends fun current hvalid => ?_
  refine commits_lift fun existing hrequire => commits_lift fun _ _ => ?_
  have hwrite : ∀ activeProfileId : String,
      (current.activeProfileId ≠ profileId →
        activeProfileId = current.activeProfileId) →
      Commits app (Removed profileId current) (do
        let next ← lift (ProfileIndex.requireValid app.jvm { current with
          activeProfileId := activeProfileId
          profiles := current.profiles.filter fun p => p.id ≠ profileId })
        let written ← writeIndexLocked app next
        let _ ← filePathsFor profileId
        update (deleteRecursively (.profile profileId))
        return written) := by
    intro activeProfileId hactive
    refine commits_lift fun next hnext => ?_
    obtain ⟨hnextValid, rfl⟩ := requireValid_eq_ok.mp hnext
    have hremoved := removed hvalid hrequire hnextValid hactive
    -- the id was checked, so its paths are there
    have hpaths : filePathsFor profileId
        = pure fun kind => ⟨.profile profileId, kind.fileName⟩ := by
      unfold filePathsFor
      rw [(result_requireValid_eq_ok _ _).mpr (requireProfile_eq_ok hrequire).1]
      rfl
    rw [hpaths]
    refine commits_then (commits_write hremoved) ?_
    intro w'
    funext name
    simp [profilesDir, deleteRecursively]
  split
  case isTrue hsame =>
    dsimp only
    split
    · exact hwrite _ fun hne => absurd hsame hne
    · exact fun w => ends_bind (ends_throw rfl)
  case isFalse => exact hwrite _ fun _ => rfl

/-- A selection changes the active profile only. -/
theorem selectProfile_ends (profileId : String) (w : World Content) :
    Ends (selectProfile app profileId) w
      (Done app (Operation.Effect (.select profileId)) w)
      (fun _ w' => Same app w w') := by
  refine operation_ends fun current _ => ?_
  refine commits_lift fun existing hrequire => commits_lift fun next hnext => ?_
  obtain ⟨-, rfl⟩ := requireValid_eq_ok.mp hnext
  exact commits_write ⟨rfl, rfl⟩

/-- What changed, without how. -/
theorem Done.of_changed {profileId : String} {w w' : World Content}
    {R : ProfileRemoteSettings → ProfileRemoteSettings → Prop}
    {i : ProfileIndex} (h : Done app (Changed profileId R) w i w') :
    Done app (Replaced profileId) w i w' := by
  obtain ⟨before, loaded, hsame, hholds, hchanged, hvalid, hstored⟩ := h
  exact ⟨before, loaded, hsame, hholds, hchanged.replaced hholds.valid, hvalid,
    hstored⟩

/-- Every operation has its effect, or leaves what is stored. -/
theorem run_ends (op : Operation) (w : World Content) :
    Ends (op.run app) w (Done app op.Effect w) (fun _ w' => Same app w w') := by
  cases op with
  | create name => exact createProfile_ends name w
  | duplicate sourceProfileId name =>
      exact duplicateProfile_ends sourceProfileId name w
  | delete profileId => exact deleteProfile_ends profileId w
  | select profileId => exact selectProfile_ends profileId w
  | rename profileId name =>
      exact (renameProfile_ends profileId name w).mono
        (fun _ _ => Done.of_changed) fun _ _ h => h
  | update profile =>
      exact (updateProfile_ends profile w).mono
        (fun _ _ => Done.of_changed) fun _ _ h => h
  | updateRemoteSettings profileId remote =>
      exact (updateRemoteSettings_ends profileId remote w).mono
        (fun _ _ => Done.of_changed) fun _ _ h => h
  | recordRemoteUpdateFailure profileId mode message remote =>
      exact (recordRemoteUpdateFailure_ends profileId mode message remote
        w).mono (fun _ _ => Done.of_changed) fun _ _ h => h
  | applyRemoteUpdate profileId remote files mode message =>
      exact (applyRemoteUpdate_ends profileId remote files mode message
        w).mono (fun _ _ => Done.of_changed) fun _ _ h => h

-- ======================================================== loads that return

/-- A valid id has its paths. -/
theorem filePathsFor_of_valid {profileId : String}
    (h : (ZeroDpiProfile.validateId profileId).isValid = true) :
    filePathsFor profileId
      = pure fun kind => ⟨.profile profileId, kind.fileName⟩ := by
  unfold filePathsFor
  rw [(result_requireValid_eq_ok _ _).mpr h]
  rfl

/-- With no fault ahead, all that `loadIndex` does succeeds. -/
theorem sure_ensureProfileDirectories (profileId : String) :
    Sure (ensureProfileDirectories app profileId) := by
  refine sure_bind sure_attempt fun _ => sure_bind sure_attempt fun _ => ?_
  exact sure_seedAssetIfMissing _ _

theorem sure_seedProfileFilesFromAssetsLocked (profileId : String)
    (paths : RuntimeFileKind → Path) :
    Sure (seedProfileFilesFromAssetsLocked app profileId paths) := by
  refine sure_bind (sure_ensureProfileDirectories _) fun _ => ?_
  refine sure_forEach fun kind _ => ?_
  refine sure_bind (sure_restorePrimaryFromBackupIfMissing _) fun _ => ?_
  exact sure_seedAssetIfMissing _ _

theorem sure_ensureProfileStorageLocked (index : ProfileIndex) :
    Sure (ensureProfileStorageLocked app index) := by
  refine sure_forEach fun profile _ => ?_
  rw [filePathsFor_of_valid profile.idValid]
  exact sure_seedProfileFilesFromAssetsLocked profile.id _

/-- The source that is found is there. -/
theorem sure_seedDefaultProfileFromLegacyOrAssetsLocked (profileId : String)
    (paths : RuntimeFileKind → Path) :
    Sure (seedDefaultProfileFromLegacyOrAssetsLocked app profileId paths) := by
  refine sure_bind (sure_ensureProfileDirectories _) fun _ => ?_
  refine sure_forEach fun kind _ => ?_
  refine sure_bind (sure_restorePrimaryFromBackupIfMissing _) fun _ => ?_
  refine sure_bind (sure_look _) fun there => ?_
  cases there with
  | true => exact sure_pure ()
  | false =>
      intro w hclear
      have hcopy : ∀ (source : Path), (w.files source).isSome = true →
          Ends (copyFileAtomic source (paths kind)) w (fun _ w' => Clear w')
            fun _ _ => False := by
        intro source hsome
        obtain ⟨content, hcontent⟩ := Option.isSome_iff_exists.mp hsome
        exact (copyFileAtomic_clear hclear _ hcontent).mono
          (fun _ _ h => h.1) fun _ _ h => h
      refine ends_bind (ends_bind (ends_look ?_))
      cases hprimary : (w.files ⟨.runtime, kind.fileName⟩).isSome with
      | true => exact hcopy _ hprimary
      | false =>
          refine ends_bind (ends_look ?_)
          cases hbackup :
              (w.files ⟨.runtime, kind.fileName ++ ".bak"⟩).isSome with
          | true => exact hcopy _ hbackup
          | false => exact sure_seedAssetIfMissing _ _ w hclear

theorem sure_writeIndexLocked {index : ProfileIndex}
    (h : Valid app index) : Sure (writeIndexLocked app index) := by
  have hvalid : index.requireValid app.jvm = .ok index :=
    requireValid_eq_ok.mpr ⟨h, rfl⟩
  refine sure_lift hvalid (sure_bind (sure_tryCatch ?_ _) fun _ => sure_pure _)
  exact sure_lift hvalid (sure_atomicWrite indexFile _)

/-- The constructor accepts what the checks do. -/
theorem new_ok {id name : String} {created updated : Int}
    (remote : ProfileRemoteSettings)
    (hid : (ZeroDpiProfile.validateId id).isValid = true)
    (hname : (ZeroDpiProfile.validateName name).isValid = true)
    (hcreated : 0 ≤ created) (hupdated : created ≤ updated) :
    ZeroDpiProfile.new id name created updated remote
      = .ok ⟨id, name, created, updated, remote, hid, hname, hcreated,
        hupdated⟩ := by
  have hnonneg : 0 ≤ updated := Int.le_trans hcreated hupdated
  unfold ZeroDpiProfile.new
  simp [require, ProfileValidationResult.requireValid, hid, hname, hcreated,
    hupdated, hnonneg]
  rfl

/-- An index of one profile is valid if the profile's settings are. -/
theorem single_valid (p : ZeroDpiProfile)
    (h : (p.remote.validate app.jvm false).errors = []) :
    Valid app ⟨ProfileIndex.profileIndexSchemaVersion, p.id, [p]⟩ := by
  have hid : (ZeroDpiProfile.validateId p.id).errors = [] :=
    List.isEmpty_iff.mp p.idValid
  have hname : (ZeroDpiProfile.validateName p.name).errors = [] :=
    List.isEmpty_iff.mp p.nameValid
  have hcreated : ¬ p.createdAtEpochMs < 0 := Int.not_lt.mpr p.created
  have hupdated : ¬ p.updatedAtEpochMs < 0 :=
    Int.not_lt.mpr (Int.le_trans p.created p.updated)
  have horder : ¬ p.updatedAtEpochMs < p.createdAtEpochMs :=
    Int.not_lt.mpr p.updated
  have hprofile : (p.validate app.jvm).errors = [] := by
    simp [ZeroDpiProfile.validate, hid, hname, hcreated, hupdated, horder, h,
      ProfileValidationResult.prefixed]
  simp [Valid, ProfileValidationResult.isValid, ProfileIndex.validate, hid,
    hprofile, ProfileValidationResult.prefixed, ProfileIndex.duplicates]

/-- The default index is one. -/
theorem default_ok {now : Int} (h : 0 ≤ now) :
    ∃ index, ProfileIndex.default now = .ok index ∧ Valid app index := by
  have hremote : (ProfileRemoteSettings.validate app.jvm {} false).errors
      = [] := rfl
  have hid : (ZeroDpiProfile.validateId
      ZeroDpiProfile.defaultProfileId).isValid = true := by decide
  have hname : (ZeroDpiProfile.validateName
      ZeroDpiProfile.defaultProfileName).isValid = true := by decide
  have hnew := new_ok {} hid hname h (Int.le_refl now)
  have hdefault : ProfileIndex.default now = .ok ⟨
      ProfileIndex.profileIndexSchemaVersion, ZeroDpiProfile.defaultProfileId,
      [⟨_, _, now, now, {}, hid, hname, h, Int.le_refl now⟩]⟩ := by
    unfold ProfileIndex.default ZeroDpiProfile.default
    rw [hnew]
    rfl
  refine ⟨_, hdefault, ?_⟩
  exact single_valid ⟨_, _, now, now, {}, hid, hname, h, Int.le_refl now⟩
    hremote

theorem sure_createDefaultIndexLocked : Sure (createDefaultIndexLocked app) := by
  have hid : (ZeroDpiProfile.validateId
      ZeroDpiProfile.defaultProfileId).isValid = true := by decide
  intro w h
  refine ends_bind (ends_clock_clear h fun now w₁ hnow h₁ => ?_)
  obtain ⟨index, hdefault, hvalid⟩ := @default_ok app now hnow
  refine sure_lift hdefault ?_ w₁ h₁
  rw [filePathsFor_of_valid hid]
  refine sure_bind (sure_pure _) fun paths => ?_
  refine sure_bind ?_ fun _ => sure_writeIndexLocked hvalid
  exact sure_seedDefaultProfileFromLegacyOrAssetsLocked _ _

variable (app) in
/-- What is stored, if anything is, can be read. -/
def Readable (w : World Content) : Prop :=
  stored w = none ∨ ∃ index, Holds app w index

/-- Without faults a load returns. -/
theorem loadIndexLocked_clear {w : World Content} (h : Clear w)
    (hread : Readable app w) :
    Ends (loadIndexLocked app) w (fun _ w' => Clear w')
      fun _ _ => False := by
  refine ends_bind (ends_attempt_clear h ?_)
  refine ends_bind (ends_attempt_clear h ?_)
  have hensure : ∀ index w₂, Clear w₂ →
      Ends (do ensureProfileStorageLocked app index; pure index) w₂
        (fun _ w' => Clear w') fun _ _ => False := by
    intro index w₂ h₂
    refine ends_bind ((sure_ensureProfileStorageLocked index w₂ h₂).mono ?_
      fun _ _ hfalse => hfalse)
    exact fun _ _ hclear => hclear
  rcases hread with hnone | ⟨index, content, hcontent, hjson⟩
  · -- nothing to restore, and nothing to read
    obtain ⟨hindex, hbackup⟩ := Option.or_eq_none_iff.mp hnone
    refine ends_bind (ends_bind (ends_look ?_))
    rw [hindex]
    refine ends_bind (ends_look ?_)
    rw [hbackup]
    refine ends_bind (ends_look ?_)
    rw [hindex]
    refine ends_bind ((sure_createDefaultIndexLocked w h).mono ?_
      fun _ _ hfalse => hfalse)
    exact fun index w₂ h₂ => hensure index w₂ h₂
  · have hrestore := (sure_restorePrimaryFromBackupIfMissing indexFile w
      h).and (restore_ends w)
    refine ends_bind (hrestore.mono ?_ fun _ _ hfalse => hfalse.1)
    rintro - w₁ ⟨h₁, -, hfile⟩
    rw [hcontent] at hfile
    refine ends_bind (ends_look ?_)
    rw [hfile]
    refine ends_bind (ends_tryCatch (ends_bind ?_))
    unfold Ends readFile
    rw [hfile]
    show Ends (lift (fromJson app content)) w₁ _ _
    rw [hjson]
    exact hensure index w₁ h₁

/-- So it returns an index. -/
theorem loadIndex_returns {w : World Content} (h : Clear w)
    (hread : Readable app w) :
    ∃ index w', loadIndex app w = (.ok index, w') := by
  have hends := loadIndexLocked_clear h hread
  unfold Ends at hends
  unfold loadIndex
  generalize loadIndexLocked app w = ending at hends ⊢
  obtain ⟨result, w'⟩ := ending
  cases result with
  | ok index => exact ⟨index, w', rfl⟩
  | error e => exact hends.elim

-- ============================================================= every history

variable (app) in
/-- What `loadIndex` answers, if it does not throw. -/
def Loads (w : World Content) (index : ProfileIndex) : Prop :=
  Holds app w index ∨ (stored w = none ∧ IsDefault index)

/-- After a call that changed nothing, the index loads as before. -/
theorem Same.loads {w loaded : World Content} {index : ProfileIndex}
    (hsame : Same app w loaded) (hholds : Holds app loaded index) :
    Loads app w index := by
  obtain ⟨content, hcontent, hjson⟩ := hholds
  rcases hsame with hstored | ⟨hnone, d, hdefault, -, hstored⟩
  · exact .inl ⟨content, hstored ▸ hcontent, hjson⟩
  · rw [hstored] at hcontent
    cases hcontent
    obtain ⟨-, rfl⟩ := requireValid_eq_ok.mp hjson
    exact .inr ⟨hnone, hdefault⟩

/-- And can be read as before. -/
theorem Same.readable {w w' : World Content} (hsame : Same app w w')
    (h : Readable app w) : Readable app w' := by
  rcases hsame with hstored | ⟨-, d, -, hvalid, hstored⟩
  · unfold Readable Holds
    rw [hstored]
    exact h
  · exact .inr ⟨d, _, hstored, requireValid_eq_ok.mpr ⟨hvalid, rfl⟩⟩

variable (app) in
/-- What holds of one operation and of the loads behind it. -/
structure OperationSound (w : World Content) (op : Operation) : Prop where
  /-- One that succeeds stores its answer, which differs from the index
  before it only as it may. -/
  succeeded : ∀ index w', op.run app w = (.ok index, w') →
    Holds app w' index
      ∧ ∃ before, Loads app w before ∧ op.Effect before index
  /-- One that throws leaves what is stored. -/
  threw : ∀ e w', op.run app w = (.error e, w') → Same app w w'
  /-- Whatever the device does next, a load behind it answers with that
  index, which is well-formed, -/
  loads : ∀ w', w'.files = (after app w op).files → ∀ index w'',
    loadIndex app w' = (.ok index, w'') →
      WellFormed app index ∧ Loads app (after app w op) index
  /-- and it does answer where no file step throws. -/
  returns : ∀ w', w'.files = (after app w op).files → Clear w' →
    ∃ index w'', loadIndex app w' = (.ok index, w'')

/-- Only the files matter. -/
theorem stored_of_files {w w' : World Content} (h : w'.files = w.files) :
    stored w' = stored w := by
  simp [stored, h]

/-- An index that can be read can be read after any operation. -/
theorem readable_after {w : World Content} (h : Readable app w)
    (op : Operation) : Readable app (after app w op) := by
  have hends := @run_ends app op w
  unfold after
  generalize hrun : op.run app w = ending
  obtain ⟨result, w'⟩ := ending
  cases result with
  | ok index =>
      obtain ⟨-, -, -, -, -, hvalid, hstored⟩ := hends.of_ok hrun
      exact .inr ⟨index, _, hstored, requireValid_eq_ok.mpr ⟨hvalid, rfl⟩⟩
  | error e => exact (hends.of_error hrun).readable h

/-- One operation, from any world whose index can be read. -/
theorem operation_sound {w : World Content} (h : Readable app w)
    (op : Operation) : OperationSound app w op where
  succeeded := by
    intro index w' hrun
    obtain ⟨before, loaded, hsame, hholds, heffect, hvalid, hstored⟩ :=
      (@run_ends app op w).of_ok hrun
    refine ⟨⟨_, hstored, requireValid_eq_ok.mpr ⟨hvalid, rfl⟩⟩, before, ?_, heffect⟩
    exact hsame.loads hholds
  threw := fun e w' hrun => (@run_ends app op w).of_error hrun
  loads := by
    intro w' hfiles index w'' hload
    obtain ⟨hsame, hholds⟩ := (loadIndexLocked_ends w').of_ok hload
    refine ⟨hholds.valid.wellFormed, ?_⟩
    have hloads := hsame.loads hholds
    unfold Loads Holds at hloads ⊢
    rw [stored_of_files hfiles] at hloads
    exact hloads
  returns := by
    intro w' hfiles hclear
    refine loadIndex_returns hclear ?_
    have hreadable := readable_after h op
    unfold Readable Holds at hreadable ⊢
    rw [stored_of_files hfiles]
    exact hreadable

/-- Every history of operations keeps the index: each is sound, from every
device whose stored index, if there is one, can be read. -/
theorem profile_store_invariant (app : App) (w : World Content)
    (h : Readable app w) (ops : List Operation) :
    Along (after app) (OperationSound app) w ops := by
  refine along_of_invariant (P := Readable app) ?_ ?_ h
  · exact fun hs => readable_after hs _
  · exact fun hs => operation_sound hs _

/-- A device on which the app was never started, and an app without
assets. -/
def freshDevice : World Content where
  files := fun _ => none
  stuck := fun _ => false
  faults := []
  nanos := []
  clock := []
  ids := ["p1"]

/-- An app with empty assets. -/
def plainApp : App where
  jvm := { uri := fun _ => none, lowercase := String.toLower }
  asset := fun _ => ""
  cfAsset := ""
  decode := fun _ => none

/-- Three operations on a fresh device. -/
theorem fresh_device_keeps_index :
    Along (after plainApp) (OperationSound plainApp) freshDevice
      [.create "Work", .delete "default", .select "p1"] :=
  profile_store_invariant plainApp freshDevice (.inl rfl) _

end ZeroDpi.Android.ProfileRepository
