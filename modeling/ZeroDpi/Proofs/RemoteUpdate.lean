/-
A remote update of a profile is made as a whole or not at all.

The call first loads the index and seeds what is missing; that leaves every
file that is there. Then it copies the three files aside, replaces them one
after the other, and the index last. A throw on the way restores the copies
(`restoreRollbackFilesLocked_ends`), and the index is as it was because its
write is the last step.

The files that matter have names of their own: no temporary file and no copy
is called like one of them (`Plain`, `rollbackPath_ne`).
-/
import ZeroDpi.Proofs.ProfileUpdate

namespace ZeroDpi.Android

open Lib Throwing

-- ================================================================= the names

namespace Storage

variable {C : Type}

/-- No temporary file is called so. -/
def Plain (p : Path) : Prop := ∀ target, ¬ IsTemp target p

/-- A temporary file's name ends in `.tmp`. -/
theorem plain_of_last {p : Path} {c : Char}
    (h : p.name.toList.getLast? = some c) (hc : c ≠ 'p') : Plain p := by
  rintro target ⟨nano, rfl⟩
  refine hc ?_
  have htemp : (tempName target.name nano).toList
      = ("." ++ target.name ++ "." ++ toString nano).toList
        ++ ['.', 't', 'm', 'p'] := by
    simp [tempName]
  rw [htemp, List.getLast?_append] at h
  simpa using h.symm

/-- The files of a set. -/
def filesIn (S : Path → Prop) (w : World C) : { p // S p } → Option C :=
  fun p => w.files p.val

/-- Equal on a set of paths, equal at each. -/
theorem filesIn_eq {S : Path → Prop} {w w' : World C}
    (h : filesIn S w' = filesIn S w) {p : Path} (hp : S p) :
    w'.files p = w.files p :=
  congrFun h ⟨p, hp⟩

/-- A set ignores what is written outside of it. -/
theorem ignores_filesIn (S : Path → Prop) :
    Ignores (filesIn S : World C → _) fun p => ¬ S p where
  faults _ _ := rfl
  nanos _ _ := rfl
  file := by
    intro path hpath content w
    funext p
    have hne : p.val ≠ path := by
      rintro rfl
      exact hpath p.property
    simp [filesIn, setFile, hne]

/-- The files that a write of `target` leaves alone. -/
def Beside (target p : Path) : Prop :=
  Plain p ∧ p ≠ target ∧ p ≠ backupFor target

/-- A write covers what is beside its target. -/
theorem covers_not_beside (target : Path) :
    Covers (fun p => ¬ Beside target p) target
      ∧ Covers (fun p => ¬ Beside target p) (backupFor target) := by
  constructor
  · exact ⟨fun h => h.2.1 rfl, fun htemp h => h.1 _ htemp⟩
  · exact ⟨fun h => h.2.2 rfl, fun htemp h => h.1 _ htemp⟩

/-- What a write does to the files that are not temporary ones. -/
theorem atomicWrite_files (w : World C) (target : Path) (content : C) :
    Ends (atomicWrite target content (some (backupFor target))) w
      (fun _ w' => w'.files target = some content
        ∧ ∀ p, Beside target p → w'.files p = w.files p)
      (fun _ w' => w'.files target = w.files target
        ∧ ∀ p, Beside target p → w'.files p = w.files p) := by
  obtain ⟨htarget, hbackup⟩ := covers_not_beside target
  have hframes : Frames (filesIn (Beside target))
      (atomicWrite target content (some (backupFor target))) := by
    refine frames_atomicWrite (ignores_filesIn (Beside target)) htarget content ?_
    rintro b ⟨⟩
    exact hbackup
  refine ((atomicWrite_ends w target content).and (hframes.ends w)).mono ?_ ?_
  · exact fun _ w' h => ⟨h.1, fun p hp => filesIn_eq h.2 hp⟩
  · exact fun _ w' h => ⟨h.1.1, fun p hp => filesIn_eq h.2 hp⟩

/-- A file that is there. -/
def There (p : Path) (c : C) (w : World C) : Prop := w.files p = some c

section There

variable {p : Path} {c : C}

/-- One file, likewise. -/
theorem ignores_file (p : Path) :
    Ignores (fun w : World C => w.files p) (· ≠ p) where
  faults _ _ := rfl
  nanos _ _ := rfl
  file := by
    intro path hpath content w
    simp [setFile, Ne.symm hpath]

/-- Writes elsewhere do not reach it. -/
theorem covers_ne (hp : Plain p) {target : Path} (h : target ≠ p) :
    Covers (· ≠ p) target := by
  refine ⟨h, ?_⟩
  rintro temp htemp rfl
  exact hp target htemp

/-- A file that is there stays, when missing ones are restored, -/
theorem preserves_restorePrimaryFromBackupIfMissing (hp : Plain p)
    (target : Path) :
    Preserves (There p c)
      (restorePrimaryFromBackupIfMissing target : Storage C Unit) := by
  by_cases heq : target = p
  · subst heq
    refine preserves_look_bind fun w hw => ?_
    rw [show w.files target = some c from hw]
    exact hw
  · exact preserves_of_frames (frames_restorePrimaryFromBackupIfMissing
      (ignores_file p) (covers_ne hp heq))

/-- and when they are seeded. -/
theorem preserves_seedAssetIfMissing (hp : Plain p) (asset : C)
    (target : Path) :
    Preserves (There p c) (seedAssetIfMissing asset target) := by
  by_cases heq : target = p
  · subst heq
    refine preserves_look_bind fun w hw => ?_
    rw [show w.files target = some c from hw]
    exact hw
  · exact preserves_of_frames (frames_seedAssetIfMissing (ignores_file p) asset
      (covers_ne hp heq))

end There

end Storage

namespace ProfileRepository

open Storage

variable {app : App} {profileId : String}

/-- A file of a profile. -/
def profileFile (profileId : String) (kind : RuntimeFileKind) : Path :=
  ⟨.profile profileId, kind.fileName⟩

/-- Where the copy of a file is put. -/
def rollbackPath (target : Path) (nano : Nat) : Path :=
  { target with name := "." ++ target.name ++ "." ++ toString nano ++ ".rollback" }

/-- The first letter of a file's name tells the three apart. -/
def fileLetter : RuntimeFileKind → Char
  | .config => 'c'
  | .sniList => 's'
  | .ipList => 'i'

/-- The three files start with different letters. -/
theorem fileName_head (kind : RuntimeFileKind) :
    kind.fileName.toList.head? = some (fileLetter kind) := by
  cases kind <;> decide

/-- So a letter tells them apart. -/
theorem letter_inj {kind kind' : RuntimeFileKind}
    (h : fileLetter kind = fileLetter kind') :
    kind = kind' := by
  revert h
  cases kind <;> cases kind' <;> decide

/-- And no name is hidden. -/
theorem letter_ne_dot (kind : RuntimeFileKind) :
    fileLetter kind ≠ '.' := by
  cases kind <;> decide

/-- The files of a profile are neither backups nor temporary. -/
theorem plain_profileFile (kind : RuntimeFileKind) :
    Plain (profileFile profileId kind) := by
  cases kind with
  | config =>
      have hlast : "config.toml".toList.getLast? = some 'l' := by decide
      exact plain_of_last hlast (by decide)
  | sniList =>
      have hlast : "sni_list.txt".toList.getLast? = some 't' := by decide
      exact plain_of_last hlast (by decide)
  | ipList =>
      have hlast : "ip_list.txt".toList.getLast? = some 't' := by decide
      exact plain_of_last hlast (by decide)

/-- Nor is the index. -/
theorem plain_indexFile : Plain indexFile := by
  have hlast : "index.json".toList.getLast? = some 'n' := by decide
  exact plain_of_last hlast (by decide)

/-- Nor are the copies. -/
theorem plain_rollbackPath (target : Path) (nano : Nat) :
    Plain (rollbackPath target nano) := by
  refine plain_of_last (c := 'k') ?_ (by decide)
  have hname : (rollbackPath target nano).name.toList
      = ("." ++ target.name ++ "." ++ toString nano).toList
        ++ ['.', 'r', 'o', 'l', 'l', 'b', 'a', 'c', 'k'] := by
    simp [rollbackPath]
  rw [hname, List.getLast?_append]
  rfl

/-- A copy has the letter of its file. -/
theorem rollbackPath_head (kind : RuntimeFileKind) (nano : Nat) :
    (rollbackPath (profileFile profileId kind) nano).name.toList.take 2
      = ['.', fileLetter kind] := by
  obtain ⟨rest, hrest⟩ : ∃ rest, kind.fileName.toList
      = fileLetter kind :: rest :=
    List.head?_eq_some_iff.mp (fileName_head kind)
  simp [rollbackPath, profileFile, hrest]

/-- Copies of different files are different. -/
theorem rollbackPath_ne {kind kind' : RuntimeFileKind} (h : kind ≠ kind')
    (nano nano' : Nat) :
    rollbackPath (profileFile profileId kind) nano
      ≠ rollbackPath (profileFile profileId kind') nano' := by
  intro heq
  have hhead := congrArg (fun p => p.name.toList.take 2) heq
  simp only [rollbackPath_head] at hhead
  exact h (letter_inj (by simpa using hhead))

/-- So are the files. -/
theorem profileFile_inj {kind kind' : RuntimeFileKind}
    (h : profileFile profileId kind = profileFile profileId kind') :
    kind = kind' := by
  have hhead := congrArg (fun p => p.name.toList.head?) h
  simp only [profileFile, fileName_head] at hhead
  exact letter_inj (by simpa using hhead)

/-- The index, or a file of the profile. -/
def Watched (profileId : String) (p : Path) : Prop :=
  p = indexFile ∨ ∃ kind, p = profileFile profileId kind

/-- The files that are watched, likewise. -/
theorem Watched.plain {p : Path} (h : Watched profileId p) : Plain p := by
  rcases h with rfl | ⟨kind, rfl⟩
  · exact plain_indexFile
  · exact plain_profileFile kind

/-- None of them is a copy. -/
theorem Watched.ne_rollbackPath {p : Path} (h : Watched profileId p)
    (kind : RuntimeFileKind) (nano : Nat) :
    p ≠ rollbackPath (profileFile profileId kind) nano := by
  rintro rfl
  rcases h with heq | ⟨kind', heq⟩
  · exact nomatch congrArg Path.dir heq
  · have hhead := congrArg (fun p => p.name.toList.head?) heq
    have hdot : (rollbackPath (profileFile profileId kind) nano).name.toList.head?
        = some '.' := by simp [rollbackPath]
    have hletter : (profileFile profileId kind').name.toList.head?
        = some (fileLetter kind') := fileName_head kind'
    simp only [hdot, hletter, Option.some.injEq] at hhead
    exact letter_ne_dot kind' hhead.symm

-- =============================================================== the loading

section Loading

variable {p : Path} {c : Content}

/-- Loading the index keeps every plain file, function by function. -/
theorem preserves_ensureProfileDirectories (hp : Plain p)
    (profileId : String) :
    Preserves (There p c) (ensureProfileDirectories app profileId) := by
  have hmkdir : Preserves (There p c) (Storage.ensureDirectory : Repo Unit) :=
    preserves_of_frames (frames_attempt (ignores_file p))
  refine preserves_bind hmkdir fun _ => preserves_bind hmkdir fun _ => ?_
  exact preserves_seedAssetIfMissing hp _ _

theorem preserves_seedProfileFilesFromAssetsLocked (hp : Plain p)
    (profileId : String) (paths : RuntimeFileKind → Path) :
    Preserves (There p c)
      (seedProfileFilesFromAssetsLocked app profileId paths) := by
  refine preserves_bind (preserves_ensureProfileDirectories hp _) fun _ => ?_
  refine preserves_forEach fun kind _ => ?_
  refine preserves_bind ?_ fun _ => preserves_seedAssetIfMissing hp _ _
  exact preserves_restorePrimaryFromBackupIfMissing hp _

theorem preserves_filePathsFor (profileId : String) :
    Preserves (There p c) (filePathsFor profileId) :=
  preserves_of_frames (f := fun w : World Content => w.files p)
    (frames_filePathsFor profileId)

/-- The paths of a known profile. -/
theorem preserves_filePathsForKnownProfileLocked (hp : Plain p)
    (index : ProfileIndex) (profileId : String) :
    Preserves (There p c)
      (filePathsForKnownProfileLocked app index profileId) := by
  refine preserves_bind (preserves_of_frames (frames_lift _)) fun _ => ?_
  refine preserves_bind (preserves_filePathsFor profileId) fun paths => ?_
  refine preserves_bind ?_ fun _ => preserves_of_frames (frames_pure _)
  exact preserves_seedProfileFilesFromAssetsLocked hp _ _

/-- The files of all profiles. -/
theorem preserves_ensureProfileStorageLocked (hp : Plain p)
    (index : ProfileIndex) :
    Preserves (There p c) (ensureProfileStorageLocked app index) := by
  refine preserves_forEach fun profile _ => ?_
  refine preserves_bind (preserves_filePathsFor profile.id) fun paths => ?_
  exact preserves_seedProfileFilesFromAssetsLocked hp _ _

theorem preserves_legacySourceFor (kind : RuntimeFileKind) :
    Preserves (There p c) (legacySourceFor kind) := by
  refine preserves_look_bind fun w hw => ?_
  split
  · exact hw
  · refine preserves_look_bind (fun w hw => ?_) w hw
    split
    · exact hw
    · exact hw

theorem preserves_seedDefaultProfileFromLegacyOrAssetsLocked (hp : Plain p)
    (profileId : String) (paths : RuntimeFileKind → Path) :
    Preserves (There p c)
      (seedDefaultProfileFromLegacyOrAssetsLocked app profileId paths) := by
  refine preserves_bind (preserves_ensureProfileDirectories hp _) fun _ => ?_
  refine preserves_forEach fun kind _ => ?_
  refine preserves_bind ?_ fun _ => ?_
  · exact preserves_restorePrimaryFromBackupIfMissing hp _
  by_cases heq : paths kind = p
  · refine preserves_look_bind fun w hw => ?_
    rw [heq, show w.files p = some c from hw]
    exact hw
  · refine preserves_look_bind fun w hw => ?_
    split
    case isFalse => exact hw
    case isTrue =>
      refine preserves_bind (preserves_legacySourceFor kind) (fun source => ?_)
        w hw
      cases source with
      | some source =>
          exact preserves_of_frames (frames_copyFileAtomic (ignores_file p)
            source (covers_ne hp heq))
      | none => exact preserves_seedAssetIfMissing hp _ _

/-- The index is another file. -/
theorem preserves_writeIndexLocked (hp : Plain p) (hdir : p.dir ≠ .profiles)
    (index : ProfileIndex) :
    Preserves (There p c) (writeIndexLocked app index) := by
  have hcovers : ∀ name, Storage.Covers (· ≠ p) ⟨.profiles, name⟩ := by
    intro name
    refine covers_ne hp ?_
    rintro rfl
    exact hdir rfl
  refine preserves_bind (preserves_of_frames (frames_lift _)) fun _ => ?_
  refine preserves_bind (preserves_of_frames ?_)
    fun _ => preserves_of_frames (frames_pure _)
  refine frames_tryCatch ?_ fun _ => frames_throw _
  refine frames_bind (frames_lift _) fun _ => ?_
  refine frames_atomicWrite (ignores_file p) (hcovers "index.json") _ ?_
  rintro b ⟨⟩
  exact hcovers ("index.json" ++ ".bak")

/-- A first index, outside of its directory. -/
theorem preserves_createDefaultIndexLocked (hp : Plain p)
    (hdir : p.dir ≠ .profiles) :
    Preserves (There p c) (createDefaultIndexLocked app) := by
  refine preserves_bind (fun _ hw => hw) fun now => ?_
  refine preserves_bind (preserves_of_frames (frames_lift _)) fun index => ?_
  refine preserves_bind (preserves_filePathsFor _) fun paths => ?_
  refine preserves_bind ?_ fun _ => preserves_writeIndexLocked hp hdir index
  exact preserves_seedDefaultProfileFromLegacyOrAssetsLocked hp _ _

/-- Reading it. -/
theorem preserves_readIndexLocked :
    Preserves (There p c) (readIndexLocked app) := by
  refine preserves_of_frames (frames_tryCatch ?_ fun _ => frames_throw _)
  exact frames_bind (frames_readFile _) fun _ => frames_lift _

/-- A load leaves every file that is there. -/
theorem preserves_loadIndexLocked (hp : Plain p)
    (hplace : p = indexFile ∨ p.dir ≠ .profiles) :
    Preserves (There p c) (loadIndexLocked app) := by
  have hmkdir : Preserves (There p c) (Storage.ensureDirectory : Repo Unit) :=
    preserves_of_frames (frames_attempt (ignores_file p))
  refine preserves_bind hmkdir fun _ => preserves_bind hmkdir fun _ => ?_
  refine preserves_bind ?_ fun _ => ?_
  · exact preserves_restorePrimaryFromBackupIfMissing hp _
  have hend : ∀ index, Preserves (There p c) (do
      ensureProfileStorageLocked app index
      pure index) := by
    intro index
    refine preserves_bind ?_ fun _ => preserves_of_frames (frames_pure _)
    exact preserves_ensureProfileStorageLocked hp index
  refine preserves_look_bind fun w hw => ?_
  cases hthere : (w.files indexFile).isSome with
  | true => exact preserves_bind preserves_readIndexLocked hend w hw
  | false =>
      rcases hplace with rfl | hdir
      · rw [show w.files indexFile = some c from hw] at hthere
        cases hthere
      · exact preserves_bind (preserves_createDefaultIndexLocked hp hdir) hend
          w hw

end Loading

-- ================================================================ the copies

/-- The copy of one file. -/
def rollbackOf (paths : RuntimeFileKind → Path) (kind : RuntimeFileKind) :
    Repo ProfileFileRollback := do
  let target := paths kind
  let nano ← Storage.nanoTime
  let rollback : Path := { target with
    name := "." ++ target.name ++ "." ++ toString nano ++ ".rollback" }
  let existed ← Storage.fileExists target
  if existed then Storage.copyFileAtomic target rollback
  return ⟨target, rollback, existed⟩

/-- The copies, one by one. -/
theorem createRollbackFilesLocked_eq (paths : RuntimeFileKind → Path) :
    createRollbackFilesLocked paths
      = mapEach RuntimeFileKind.entries (rollbackOf paths) := rfl

/-- The copy holds what the file held before. -/
def Saves (profileId : String) (before : RuntimeFileKind → Option Content)
    (w : World Content) (file : ProfileFileRollback) : Prop :=
  ∃ kind nano, file = ⟨profileFile profileId kind,
      rollbackPath (profileFile profileId kind) nano, (before kind).isSome⟩
    ∧ ((before kind).isSome →
      w.files (rollbackPath (profileFile profileId kind) nano) = before kind)

/-- Only copies of these files are other files than before. -/
def Untouched (profileId : String) (kinds : List RuntimeFileKind)
    (w w' : World Content) : Prop :=
  ∀ p, Plain p → (∀ kind ∈ kinds, ∀ nano,
    p ≠ rollbackPath (profileFile profileId kind) nano) →
  w'.files p = w.files p

/-- A copy has what its file had. -/
theorem rollbackOf_ends (w : World Content) (kind : RuntimeFileKind) :
    Ends (rollbackOf (profileFile profileId) kind) w
      (fun file w' => Saves profileId (fun k => w.files (profileFile profileId k))
          w' file
        ∧ file.target = profileFile profileId kind
        ∧ Untouched profileId [kind] w w')
      (fun _ w' => Untouched profileId [kind] w w') := by
  refine ends_bind ?_
  show Ends _ { w with nanos := w.nanos.tail } _ _
  refine ends_bind (ends_look ?_)
  have hothers : ∀ w', (∀ p, p ≠ rollbackPath (profileFile profileId kind)
      (w.nanos.headD 0) → ¬ IsTemp (rollbackPath (profileFile profileId kind)
        (w.nanos.headD 0)) p → w'.files p = w.files p) →
      Untouched profileId [kind] w w' :=
    fun w' h p hp hne => h p (hne kind (by simp) _) (hp _)
  cases hthere : w.files (profileFile profileId kind) with
  | none =>
      refine ends_pure ⟨⟨kind, w.nanos.headD 0, ?_, ?_⟩, rfl, fun _ _ _ => rfl⟩
      · simp only [hthere]
        rfl
      · intro hsome
        simp [hthere] at hsome
  | some content =>
      refine ends_bind ((copyFileAtomic_ends _ ?_).mono ?_ ?_)
      · exact plain_profileFile kind _
      · rintro - w' ⟨hcopied, hother⟩
        refine ends_pure ⟨⟨kind, w.nanos.headD 0, ?_, ?_⟩, rfl, ?_⟩
        · simp only [hthere]
          rfl
        · exact fun _ => hcopied
        · exact hothers w' hother
      · exact fun _ w' hapart => hothers w' fun p hne htemp => hapart p htemp

/-- More files may have changed. -/
theorem Untouched.mono {kinds kinds' : List RuntimeFileKind}
    {w w' : World Content} (h : Untouched profileId kinds w w')
    (hsub : ∀ kind ∈ kinds, kind ∈ kinds') :
    Untouched profileId kinds' w w' :=
  fun p hp hne => h p hp fun kind hkind => hne kind (hsub kind hkind)

/-- In sequence. -/
theorem Untouched.trans {kinds : List RuntimeFileKind}
    {w w' w'' : World Content} (h : Untouched profileId kinds w w')
    (h' : Untouched profileId kinds w' w'') : Untouched profileId kinds w w'' :=
  fun p hp hne => (h' p hp hne).trans (h p hp hne)

/-- What is watched has not changed. -/
theorem Untouched.watched {kinds : List RuntimeFileKind}
    {w w' : World Content} (h : Untouched profileId kinds w w') {p : Path}
    (hp : Watched profileId p) : w'.files p = w.files p :=
  h p hp.plain fun kind _ nano => hp.ne_rollbackPath kind nano

/-- A copy stays where the copies of other files are made. -/
theorem Saves.untouched {kinds : List RuntimeFileKind}
    {before : RuntimeFileKind → Option Content} {w w' : World Content}
    {file : ProfileFileRollback} {kind : RuntimeFileKind}
    (h : Saves profileId before w file)
    (htarget : file.target = profileFile profileId kind)
    (huntouched : Untouched profileId kinds w w') (hkind : kind ∉ kinds) :
    Saves profileId before w' file := by
  obtain ⟨kind', nano, rfl, hcopy⟩ := h
  obtain rfl := profileFile_inj htarget
  refine ⟨kind', nano, rfl, fun hsome => ?_⟩
  rw [huntouched _ (plain_rollbackPath _ _), hcopy hsome]
  intro other hother nano'
  refine rollbackPath_ne ?_ nano nano'
  rintro rfl
  exact hkind hother

/-- All files are copied aside; induction on the files, each of whose copies
is called otherwise. -/
theorem mapEach_rollbackOf_ends {kinds : List RuntimeFileKind}
    (hnodup : kinds.Nodup) (before : RuntimeFileKind → Option Content)
    (w : World Content)
    (hbefore : ∀ kind, w.files (profileFile profileId kind) = before kind) :
    Ends (mapEach kinds (rollbackOf (profileFile profileId))) w
      (fun files w' => (∀ file ∈ files, Saves profileId before w' file)
        ∧ files.map (·.target) = kinds.map (profileFile profileId)
        ∧ Untouched profileId kinds w w')
      (fun _ w' => Untouched profileId kinds w w') := by
  induction kinds generalizing w with
  | nil => exact ends_pure ⟨by simp, rfl, fun _ _ _ => rfl⟩
  | cons kind rest ih =>
      obtain ⟨hkind, hrest⟩ := List.nodup_cons.mp hnodup
      have hhead : ∀ {w w' : World Content}, Untouched profileId [kind] w w' →
          Untouched profileId (kind :: rest) w w' :=
        fun h => h.mono fun k hk => by
          rw [List.mem_singleton.mp hk]
          exact List.mem_cons_self
      have htail : ∀ {w w' : World Content}, Untouched profileId rest w w' →
          Untouched profileId (kind :: rest) w w' :=
        fun h => h.mono fun k hk => List.mem_cons_of_mem kind hk
      refine ends_bind ((rollbackOf_ends w kind).mono ?_
        fun _ w₁ h₁ => hhead h₁)
      rintro file w₁ ⟨hsaves, htarget, h₁⟩
      have hbefore₁ : ∀ k, w₁.files (profileFile profileId k) = before k := by
        intro k
        rw [h₁.watched (.inr ⟨k, rfl⟩), hbefore k]
      refine ends_bind ((ih hrest w₁ hbefore₁).mono ?_
        fun _ w₂ h₂ => (hhead h₁).trans (htail h₂))
      rintro files w₂ ⟨hfiles, htargets, h₂⟩
      refine ends_pure ⟨?_, ?_, (hhead h₁).trans (htail h₂)⟩
      · intro other hother
        rcases List.mem_cons.mp hother with rfl | hother
        · have hsame : (fun k => w.files (profileFile profileId k)) = before :=
            funext hbefore
          rw [hsame] at hsaves
          exact hsaves.untouched htarget h₂ hkind
        · exact hfiles other hother
      · simp [htarget, htargets]

-- ============================================================= the restoring

/-- What is restored of one file. -/
def restoreOne (file : ProfileFileRollback) : Repo Unit := do
  if file.existed then Storage.copyFileAtomic file.rollback file.target
  else if (← Storage.fileExists file.target) then
    update (Storage.deleteFile file.target)
    if (← Storage.fileExists file.target) then
      throw (.illegalState "Failed to remove new profile file")

/-- A file is restored, or the call throws. -/
theorem restoreOne_ends {before : RuntimeFileKind → Option Content}
    {w : World Content} {file : ProfileFileRollback}
    (h : Saves profileId before w file) :
    Ends (restoreOne file) w
      (fun _ w' => (∃ kind, file.target = profileFile profileId kind
          ∧ w'.files file.target = before kind)
        ∧ ∀ p, Plain p → p ≠ file.target → w'.files p = w.files p)
      (fun _ _ => True) := by
  obtain ⟨kind, nano, rfl, hcopy⟩ := h
  cases hbefore : before kind with
  | some content =>
      refine (copyFileAtomic_ends w ?_).mono ?_ fun _ _ _ => trivial
      · exact plain_rollbackPath _ _ _
      · rintro - w' ⟨hcopied, hother⟩
        refine ⟨⟨kind, rfl, ?_⟩, fun p hp hne => hother p hne (hp _)⟩
        exact hcopied.trans (hcopy (by simp [hbefore]))
  | none =>
      refine ends_bind (ends_look ?_)
      cases hthere : w.files (profileFile profileId kind) with
      | none =>
          exact ends_pure ⟨⟨kind, rfl, hthere.trans hbefore.symm⟩,
            fun _ _ _ => rfl⟩
      | some content =>
          refine ends_bind (ends_update (ends_bind (ends_look ?_)))
          have hother : ∀ p, p ≠ profileFile profileId kind →
              (deleteFile (profileFile profileId kind) w).files p
                = w.files p := by
            intro p hne
            unfold deleteFile
            split
            · rfl
            · simp [setFile, hne]
          cases hleft : (deleteFile (profileFile profileId kind) w).files
              (profileFile profileId kind) with
          | some left => exact ends_throw trivial
          | none =>
              exact ends_pure ⟨⟨kind, rfl, hleft.trans hbefore.symm⟩,
                fun p _ hne => hother p hne⟩

/-- The files are restored, or the call throws; induction on the copies,
which no restored file overwrites. -/
theorem restoreRollbackFilesLocked_ends
    {before : RuntimeFileKind → Option Content}
    {files : List ProfileFileRollback} (w : World Content)
    (h : ∀ file ∈ files, Saves profileId before w file) :
    Ends (restoreRollbackFilesLocked files) w
      (fun _ w' => (∀ file ∈ files, ∃ kind,
          file.target = profileFile profileId kind
            ∧ w'.files file.target = before kind)
        ∧ ∀ p, Plain p → (∀ file ∈ files, p ≠ file.target) →
          w'.files p = w.files p)
      (fun _ _ => True) := by
  induction files generalizing w with
  | nil => exact ends_pure ⟨by simp, fun _ _ _ => rfl⟩
  | cons file rest ih =>
      have hfile := h file List.mem_cons_self
      refine ends_bind ((restoreOne_ends hfile).mono ?_ fun _ _ _ => trivial)
      rintro - w₁ ⟨⟨kind, htarget, hrestored⟩, h₁⟩
      have hrest : ∀ other ∈ rest, Saves profileId before w₁ other := by
        intro other hother
        obtain ⟨kind', nano, rfl, hcopy⟩ := h other
          (List.mem_cons_of_mem file hother)
        refine ⟨kind', nano, rfl, fun hsome => ?_⟩
        rw [h₁ _ (plain_rollbackPath _ _) ?_, hcopy hsome]
        rw [htarget]
        exact (Watched.ne_rollbackPath (.inr ⟨kind, rfl⟩) kind' nano).symm
      refine (ih w₁ hrest).mono ?_ fun _ _ _ => trivial
      rintro - w₂ ⟨hall, h₂⟩
      refine ⟨?_, ?_⟩
      · intro other hother
        rcases List.mem_cons.mp hother with rfl | hother
        · refine ⟨kind, htarget, ?_⟩
          by_cases hagain : ∃ later ∈ rest, later.target = other.target
          · obtain ⟨later, hlater, heq⟩ := hagain
            obtain ⟨kind', htarget', hrestored'⟩ := hall later hlater
            rw [← heq, hrestored']
            rw [heq, htarget] at htarget'
            rw [profileFile_inj htarget']
          · have hne : ∀ later ∈ rest, other.target ≠ later.target := by
              intro later hlater heq
              exact hagain ⟨later, hlater, heq.symm⟩
            have hplain : Plain other.target := by
              rw [htarget]
              exact plain_profileFile kind
            rw [h₂ _ hplain hne, hrestored]
        · exact hall other hother
      · intro p hp hne
        rw [h₂ p hp fun other hother =>
          hne other (List.mem_cons_of_mem file hother)]
        exact h₁ p hp (hne file List.mem_cons_self)

-- ============================================================== the writing

/-- A file of the profile is none that the write of another touches. -/
theorem beside_of_ne {kind kind' : RuntimeFileKind} (h : kind ≠ kind') :
    Beside (profileFile profileId kind') (profileFile profileId kind) := by
  refine ⟨plain_profileFile kind, fun heq => h (profileFile_inj heq), ?_⟩
  intro heq
  have hname := congrArg (fun p => p.name.toList) heq
  revert hname
  cases kind <;> cases kind' <;> simp [profileFile, backupFor,
    RuntimeFileKind.fileName]

/-- A write of the index replaces it or leaves it, and leaves the files of
the profiles. -/
theorem writeIndexLocked_files (index : ProfileIndex) (w : World Content) :
    Ends (writeIndexLocked app index) w
      (fun i w' => i = index ∧ w'.files indexFile = some (.index index)
        ∧ ∀ p, Plain p → p.dir ≠ .profiles → w'.files p = w.files p)
      (fun _ w' => w'.files indexFile = w.files indexFile
        ∧ ∀ p, Plain p → p.dir ≠ .profiles → w'.files p = w.files p) := by
  have hbeside : ∀ p, Plain p → p.dir ≠ .profiles → Beside indexFile p := by
    intro p hp hdir
    refine ⟨hp, ?_, ?_⟩
    · rintro rfl
      exact hdir rfl
    · rintro rfl
      exact hdir rfl
  refine ends_bind (ends_lift ?_ fun _ => ⟨rfl, fun _ _ _ => rfl⟩)
  intro i hi
  obtain ⟨hvalid, rfl⟩ := requireValid_eq_ok.mp hi
  refine ends_bind (ends_tryCatch (ends_bind (ends_lift ?_ ?_)))
  · intro i' hi'
    refine (atomicWrite_files w indexFile (.index i)).mono ?_ ?_
    · rintro - w' ⟨hwritten, hother⟩
      exact ends_pure ⟨rfl, hwritten, fun p hp hdir =>
        hother p (hbeside p hp hdir)⟩
    · rintro e w' ⟨hkept, hother⟩
      exact ends_throw ⟨hkept, fun p hp hdir => hother p (hbeside p hp hdir)⟩
  · exact fun _ => ends_throw ⟨rfl, fun _ _ _ => rfl⟩

/-- The files are written one after the other, and nothing else is. -/
theorem writeFiles_ends (files : ProfileUpdateFileContents)
    {kinds : List RuntimeFileKind} (hnodup : kinds.Nodup) (w : World Content) :
    Ends (forEach kinds fun kind =>
        atomicWrite (profileFile profileId kind)
          (Content.text (files.textFor kind))
          (some (backupFor (profileFile profileId kind)))) w
      (fun _ w' => (∀ kind ∈ kinds, w'.files (profileFile profileId kind)
          = some (.text (files.textFor kind)))
        ∧ ∀ p, (∀ kind ∈ kinds, Beside (profileFile profileId kind) p) →
          w'.files p = w.files p)
      (fun _ w' => ∀ p,
        (∀ kind ∈ kinds, Beside (profileFile profileId kind) p) →
          w'.files p = w.files p) := by
  induction kinds generalizing w with
  | nil => exact ends_pure ⟨by simp, fun _ _ => rfl⟩
  | cons kind rest ih =>
      obtain ⟨hkind, hrest⟩ := List.nodup_cons.mp hnodup
      refine ends_bind ((atomicWrite_files w _ _).mono ?_ ?_)
      case refine_2 =>
        rintro e w₁ ⟨-, hother⟩ p hp
        exact hother p (hp kind List.mem_cons_self)
      rintro - w₁ ⟨hwritten, hother⟩
      have hthrough : ∀ {w₂ : World Content}, (∀ p,
          (∀ k ∈ rest, Beside (profileFile profileId k) p) →
            w₂.files p = w₁.files p) → ∀ p,
          (∀ k ∈ kind :: rest, Beside (profileFile profileId k) p) →
            w₂.files p = w.files p := by
        intro w₂ h₂ p hp
        rw [h₂ p fun k hk => hp k (List.mem_cons_of_mem kind hk)]
        exact hother p (hp kind List.mem_cons_self)
      refine (ih hrest w₁).mono ?_ fun _ w₂ h₂ => hthrough h₂
      rintro - w₂ ⟨hall, h₂⟩
      refine ⟨?_, hthrough h₂⟩
      intro k hk
      rcases List.mem_cons.mp hk with rfl | hk
      · rw [h₂ _ fun k' hk' => beside_of_ne ?_, hwritten]
        rintro rfl
        exact hkind hk'
      · exact hall k hk

-- =============================================================== the update

variable {remote : ProfileRemoteSettings} {files : ProfileUpdateFileContents}
  {mode : ProfileUpdateMode} {message : String}

/-- What an update throws where it could not put the files back. -/
def restoreFailed : Failure :=
  .repository "Failed to apply remote update and restore previous profile files."

/-- The three files and the index are the new ones. -/
def Applied (profileId : String) (remote : ProfileRemoteSettings)
    (files : ProfileUpdateFileContents) (mode : ProfileUpdateMode)
    (message : String) (index : ProfileIndex) (w : World Content) : Prop :=
  (∀ kind, w.files (profileFile profileId kind)
      = some (.text (files.textFor kind)))
    ∧ w.files indexFile = some (.index index)
    ∧ ∃ p now h, requireProfile index profileId = .ok p
      ∧ p.remote = { remote with
          lastUpdateAttemptEpochMs := some now
          lastSuccessfulUpdateEpochMs := some now
          lastUpdateStatus := some ⟨mode, true, message, now, h⟩ }

/-- What was there is what it was. -/
def Untaken (profileId : String) (w w' : World Content) : Prop :=
  ∀ p, Watched profileId p → ∀ c, w.files p = some c → w'.files p = some c

/-- The status of a success. -/
theorem withRemoteUpdateStatus_remote {p changed : ZeroDpiProfile} {now : Int}
    (h : withRemoteUpdateStatus p remote mode true message now = .ok changed) :
    ∃ hnow, changed.remote = { remote with
      lastUpdateAttemptEpochMs := some now
      lastSuccessfulUpdateEpochMs := some now
      lastUpdateStatus := some ⟨mode, true, message, now, hnow⟩ } := by
  unfold withRemoteUpdateStatus at h
  obtain ⟨status, hstatus, h⟩ := bind_eq_ok.mp h
  obtain ⟨-, -, hremote⟩ := new_eq_ok h
  unfold newStatus at hstatus
  split at hstatus
  case isFalse => cases hstatus
  case isTrue hnow =>
    cases hstatus
    exact ⟨hnow, hremote⟩

/-- The paths of a profile. -/
theorem answers_paths (index : ProfileIndex) :
    Answers (fun paths => paths = profileFile profileId)
      (filePathsForKnownProfileLocked app index profileId) := by
  refine answers_bind fun _ => ?_
  have hpaths : Answers (fun paths => paths = profileFile profileId)
      (filePathsFor profileId) :=
    answers_bind fun _ => answers_pure rfl
  refine answers_bind_of hpaths fun paths heq => ?_
  exact answers_bind fun _ => answers_pure heq

/-- The copies and the index stay while the files are written. -/
theorem saved_of_written {before : RuntimeFileKind → Option Content}
    {w w' : World Content} {rollbackFiles : List ProfileFileRollback}
    (hsaves : ∀ file ∈ rollbackFiles, Saves profileId before w file)
    (h : ∀ p, Plain p → p.dir = .profile profileId →
      p.name.toList.head? = some '.' → w'.files p = w.files p) :
    ∀ file ∈ rollbackFiles, Saves profileId before w' file := by
  intro file hfile
  obtain ⟨kind, nano, rfl, hcopy⟩ := hsaves file hfile
  refine ⟨kind, nano, rfl, fun hsome => ?_⟩
  have hdot : (rollbackPath (profileFile profileId kind)
      nano).name.toList.head? = some '.' := by simp [rollbackPath]
  rw [h _ (plain_rollbackPath _ _) rfl hdot, hcopy hsome]

/-- The cleanup deletes copies only. -/
theorem cleanup_files {before : RuntimeFileKind → Option Content}
    {w₀ : World Content} {rollbackFiles : List ProfileFileRollback}
    (hsaves : ∀ file ∈ rollbackFiles, Saves profileId before w₀ file)
    (w : World Content) {p : Path} (hp : Watched profileId p) :
    (cleanupRollbackFilesLocked rollbackFiles w).files p = w.files p := by
  induction rollbackFiles generalizing w with
  | nil => rfl
  | cons file rest ih =>
      have hrest := ih (fun f hf => hsaves f (List.mem_cons_of_mem file hf))
        (deleteFile file.rollback w)
      obtain ⟨kind, nano, rfl, -⟩ := hsaves file List.mem_cons_self
      refine hrest.trans ?_
      exact (ignores_file p).deleteFile (hp.ne_rollbackPath kind nano).symm w

/-- The part of an update that writes. -/
def replaceFiles (app : App) (paths : RuntimeFileKind → Path)
    (files : ProfileUpdateFileContents) (next : ProfileIndex) :
    Repo ProfileIndex := do
  let rollbackFiles ← createRollbackFilesLocked paths
  tryFinally
    (tryCatch (do
        writeProfileFilesLocked paths files
        writeIndexLocked app next)
      fun _ => do
        tryCatch (restoreRollbackFilesLocked rollbackFiles)
          fun _ => throw (.repository
            "Failed to apply remote update and restore previous profile files.")
        throw (.repository
          "Failed to apply remote update; previous profile files were restored."))
    (cleanupRollbackFilesLocked rollbackFiles)

/-- The files and the index are written, or the index and the hidden files
are what they were. -/
theorem writing_ends (next : ProfileIndex) (w : World Content) :
    Ends (do
        writeProfileFilesLocked (profileFile profileId) files
        writeIndexLocked app next) w
      (fun i w' => i = next ∧ w'.files indexFile = some (.index next)
        ∧ ∀ kind, w'.files (profileFile profileId kind)
          = some (.text (files.textFor kind)))
      (fun _ w' => w'.files indexFile = w.files indexFile
        ∧ ∀ p, Plain p → p.dir = .profile profileId →
          p.name.toList.head? = some '.' → w'.files p = w.files p) := by
  have hindex : ∀ kind, Beside (profileFile profileId kind) indexFile := by
    intro kind
    refine ⟨plain_indexFile, ?_, ?_⟩
    · intro heq
      cases congrArg Path.dir heq
    · intro heq
      cases congrArg Path.dir heq
  -- a hidden file is none of the three, and no backup of one
  have hhidden : ∀ p, Plain p → p.name.toList.head? = some '.' →
      ∀ kind, Beside (profileFile profileId kind) p := by
    intro p hp hdot kind
    obtain ⟨rest, hrest⟩ : ∃ rest, kind.fileName.toList
        = fileLetter kind :: rest :=
      List.head?_eq_some_iff.mp (fileName_head kind)
    refine ⟨hp, ?_, ?_⟩
    · rintro rfl
      refine letter_ne_dot kind ?_
      simpa [profileFile, hrest] using hdot
    · rintro rfl
      refine letter_ne_dot kind ?_
      simpa [profileFile, backupFor, hrest] using hdot
  have hnodup : RuntimeFileKind.entries.Nodup := by decide
  refine ends_bind ((writeFiles_ends files hnodup w).mono ?_ ?_)
  case refine_2 =>
    intro e w₁ h₁
    exact ⟨h₁ _ fun kind _ => hindex kind,
      fun p hp _ hdot => h₁ p fun kind _ => hhidden p hp hdot kind⟩
  rintro - w₁ ⟨hwritten, h₁⟩
  refine (writeIndexLocked_files next w₁).mono ?_ ?_
  · rintro i w₂ ⟨rfl, hi, h₂⟩
    refine ⟨rfl, hi, fun kind => ?_⟩
    have hdir : (profileFile profileId kind).dir ≠ .profiles := by
      intro heq
      cases heq
    rw [h₂ _ (plain_profileFile kind) hdir]
    exact hwritten kind (by cases kind <;> decide)
  · rintro e w₂ ⟨hi, h₂⟩
    refine ⟨?_, ?_⟩
    · rw [hi]
      exact h₁ _ fun kind _ => hindex kind
    · intro p hp hdir hdot
      have hne : p.dir ≠ .profiles := by
        rw [hdir]
        intro heq
        cases heq
      rw [h₂ p hp hne]
      exact h₁ p fun kind _ => hhidden p hp hdot kind

/-- The new files and the new index, or an exception on the way. -/
theorem replaceFiles_ends (next : ProfileIndex) (w : World Content) :
    Ends (replaceFiles app (profileFile profileId) files next) w
      (fun i w' => i = next ∧ w'.files indexFile = some (.index next)
        ∧ ∀ kind, w'.files (profileFile profileId kind)
          = some (.text (files.textFor kind)))
      (fun e w' => e ≠ restoreFailed →
        ∀ p, Watched profileId p → w'.files p = w.files p) := by
  unfold replaceFiles
  rw [createRollbackFilesLocked_eq]
  refine ends_bind ((mapEach_rollbackOf_ends (by decide) _ w
    fun kind => rfl).mono ?_ ?_)
  case refine_2 => exact fun _ w₁ h₁ _ p hp => h₁.watched hp
  rintro rollbackFiles w₁ ⟨hsaves, htargets, h₁⟩
  have hcleanup := fun w' p (hp : Watched profileId p) =>
    cleanup_files hsaves w' hp
  refine ends_tryFinally (ends_tryCatch ((writing_ends next w₁).mono ?_ ?_))
  · rintro i w₂ ⟨rfl, hi, hfiles⟩
    refine ⟨rfl, ?_, fun kind => ?_⟩
    · rw [hcleanup w₂ _ (.inl rfl), hi]
    · rw [hcleanup w₂ _ (.inr ⟨kind, rfl⟩), hfiles kind]
  rintro e w₂ ⟨hi, hhidden⟩
  have hsaves₂ := saved_of_written hsaves hhidden
  refine ends_bind (ends_tryCatch
    ((restoreRollbackFilesLocked_ends w₂ hsaves₂).mono ?_ ?_))
  case refine_2 => exact fun _ w₃ _ => ends_throw fun hne => absurd rfl hne
  rintro - w₃ ⟨hrestored, h₃⟩
  refine ends_throw fun _ p hp => ?_
  rw [hcleanup w₃ p hp]
  rcases hp with rfl | ⟨kind, rfl⟩
  · -- no copy is one of the index
    have hother : ∀ file ∈ rollbackFiles, indexFile ≠ file.target := by
      intro file hfile heq
      obtain ⟨kind, htarget, -⟩ := hrestored file hfile
      exact nomatch congrArg Path.dir (heq.trans htarget)
    rw [h₃ _ plain_indexFile hother, hi, h₁.watched (.inl rfl)]
  · have hmem : profileFile profileId kind
        ∈ rollbackFiles.map (·.target) := by
      rw [htargets]
      exact List.mem_map_of_mem (by cases kind <;> decide)
    obtain ⟨file, hfile, htarget⟩ := List.mem_map.mp hmem
    obtain ⟨kind', htarget', hcontent⟩ := hrestored file hfile
    rw [← htarget, hcontent, htarget']

/-- A step that leaves each file that is there leaves them all. -/
theorem preserves_untaken {α : Type} {m : Repo α} {w : World Content}
    (h : ∀ p, Watched profileId p → ∀ c, Preserves (There p c) m) :
    Preserves (Untaken profileId w) m :=
  fun s hs p hp c hc => h p hp c s (hs p hp c hc)

/-- An update of a profile returns with all files and the index replaced, or
throws with what was there before; unless the copies could not be put back. -/
theorem applyRemoteUpdate_all_or_nothing (w : World Content) :
    Ends (applyRemoteUpdate app profileId remote files mode message) w
      (fun index w' => Applied profileId remote files mode message index w')
      (fun e w' => e ≠ restoreFailed → Untaken profileId w w') := by
  have hplace : ∀ p, Watched profileId p → p = indexFile ∨ p.dir ≠ .profiles := by
    rintro p (rfl | ⟨kind, rfl⟩)
    · exact .inl rfl
    · exact .inr nofun
  have hload : Preserves (Untaken profileId w) (loadIndexLocked app) :=
    preserves_untaken fun p hp c => preserves_loadIndexLocked hp.plain (hplace p hp)
  refine ends_bind (ends_lift ?_ fun _ _ _ _ _ h => h)
  intro _ _
  refine ends_bind (((hload.ends fun _ _ _ h => h).and
    (loadIndexLocked_ends w)).mono ?_ fun _ w₁ h₁ _ => h₁.1)
  rintro current w₁ ⟨h₁, -, hholds⟩
  refine ends_bind (ends_lift ?_ fun _ _ => h₁)
  intro existing hrequire
  -- from here on the seeding of the profile's own files
  have hpaths : Preserves (Untaken profileId w)
      (filePathsForKnownProfileLocked app current profileId) :=
    preserves_untaken fun p hp c =>
      preserves_filePathsForKnownProfileLocked hp.plain current profileId
  refine ends_bind (((answers_paths current).ends (hpaths.ends h₁)).mono ?_
    fun _ w₂ h₂ _ => h₂)
  rintro _ w₂ ⟨rfl, h₂⟩
  refine ends_bind ?_
  show Ends (lift (withRemoteUpdateStatus existing remote mode true message
    (w₂.clock.headD 0)) >>= _) { w₂ with clock := w₂.clock.tail } _ _
  refine ends_bind (ends_lift ?_ fun _ _ => h₂)
  intro updated hstatus
  refine ends_bind (ends_lift ?_ fun _ _ => h₂)
  intro next hnext
  refine (replaceFiles_ends next _).mono ?_ ?_
  · rintro i w₃ ⟨rfl, hi, hfiles⟩
    obtain ⟨hnow, hremote⟩ := withRemoteUpdateStatus_remote hstatus
    obtain ⟨hid, -⟩ := withRemoteUpdateStatus_eq_ok hstatus
    refine ⟨hfiles, hi, updated, _, hnow, ?_, hremote⟩
    rw [withUpdatedProfile_eq_ok hnext]
    exact requireProfile_withProfile hholds.valid hrequire
      (hid.trans (requireProfile_id hrequire))
  · intro e w₃ h₃ hne p hp c hc
    rw [h₃ hne p hp]
    exact h₂ p hp c hc

/-- A device with an index and no other file, whose thirteenth step throws:
the seeding of the second file of the profile. -/
def unseededDevice : World Content :=
  { ProfileUpdate.device with faults := List.replicate 12 false ++ [true] }

/-- An update that fails on that device. -/
def failedUpdate : Except Failure ProfileIndex × World Content :=
  applyRemoteUpdate ProfileUpdate.remoteApp "default" ProfileUpdate.oldSettings
    ⟨"c", "s", "i"⟩ .manual "" unseededDevice

/-- The load has seeded the first file before the call throws. -/
theorem failed_update_leaves_seeded_file :
    failedUpdate.1 = .error .io ∧ .io ≠ restoreFailed
      ∧ unseededDevice.files (profileFile "default" .config) = none
      ∧ failedUpdate.2.files (profileFile "default" .config)
        = some (.text "") := by
  refine ⟨?_, by decide, by decide, by decide +kernel⟩
  have hfailed : (match failedUpdate.1 with
      | .error .io => true
      | _ => false) = true := by decide +kernel
  revert hfailed
  generalize failedUpdate.1 = result
  rcases result with e | index
  · cases e <;> simp
  · simp

end ProfileRepository

end ZeroDpi.Android
