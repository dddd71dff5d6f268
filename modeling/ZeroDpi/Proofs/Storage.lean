/-
What the file operations leave alone, and what they do to one file.

A file is replaced by a rename at the end, so a write or a copy that throws
leaves it as it was; the temporary file is called like no other file of the
store. An operation leaves alone whatever ignores the files that it writes
(`Ignores`, `Covers`). Without faults a write and a copy of a file that is
there succeed (`Sure`).
-/
import ZeroDpi.Android.Files

namespace ZeroDpi.Android

open Lib Throwing

-- ================================================================= storage

namespace Storage

variable {C α : Type}

/-- A result that is given. -/
theorem ends_lift {x : Except Failure α} {w : World C}
    {Q : α → World C → Prop} {E : Failure → World C → Prop}
    (hok : ∀ a, x = .ok a → Q a w) (herror : ∀ e, E e w) :
    Ends (lift x : Storage C α) w Q E := by
  cases x with
  | ok a => exact hok a rfl
  | error e => exact herror e

/-- A temporary file of `target`. -/
def IsTemp (target p : Path) : Prop :=
  ∃ nano, p = { target with name := tempName target.name nano }

section Frames

variable {γ : Type} {f : World C → γ} {S : Path → Prop}

variable (f S) in
/-- `f` does not see the files of `S`, nor what the device gives to a file
operation. -/
structure Ignores : Prop where
  faults : ∀ w faults, f { w with faults } = f w
  nanos : ∀ w nanos, f { w with nanos } = f w
  file : ∀ {path : Path}, S path → ∀ content w,
    f (setFile path content w) = f w

/-- A file and its temporary ones. -/
structure Covers (S : Path → Prop) (target : Path) : Prop where
  self : S target
  temp : ∀ {temp : Path}, IsTemp target temp → S temp

/-- Deleting is a write of nothing. -/
theorem Ignores.deleteFile (hf : Ignores f S) {path : Path} (h : S path)
    (w : World C) : f (Storage.deleteFile path w) = f w := by
  unfold Storage.deleteFile
  split
  · rfl
  · exact hf.file h none w

/-- What is given touches nothing. -/
theorem frames_lift (x : Except Failure α) :
    Frames f (lift x : Storage C α) :=
  fun _ => rfl

/-- Nothing but the next step's fate is used up. -/
theorem attempt_eq (w : World C) :
    ∃ faults, ((attempt : Storage C Unit) w).2 = { w with faults } := by
  unfold attempt
  split
  · exact ⟨_, rfl⟩
  · exact ⟨_, rfl⟩
  · exact ⟨w.faults, rfl⟩

/-- A failure that may come leaves the files alone. -/
theorem attempt_files (w : World C) :
    ((attempt : Storage C Unit) w).2.files = w.files := by
  obtain ⟨faults, h⟩ := attempt_eq w
  rw [h]

/-- It only counts. -/
theorem frames_attempt (hf : Ignores f S) :
    Frames f (attempt : Storage C Unit) := by
  intro w
  obtain ⟨faults, h⟩ := attempt_eq w
  rw [h]
  exact hf.faults w faults

/-- The clock is no file. -/
theorem frames_nanoTime (hf : Ignores f S) :
    Frames f (nanoTime : Storage C Nat) :=
  fun w => hf.nanos w w.nanos.tail

/-- Reading writes nothing. -/
theorem frames_readFile (path : Path) :
    Frames f (readFile path : Storage C C) := by
  intro w
  unfold readFile
  split <;> rfl

/-- A write stays in the paths that are ignored; so do the operations built
from it. -/
theorem frames_writeFile (hf : Ignores f S) {path : Path} (h : S path)
    (content : C) : Frames f (writeFile path content : Storage C Unit) :=
  frames_bind (frames_update fun w => hf.file h _ w) fun _ => frames_attempt hf

/-- Both of its ends do. -/
theorem frames_rename (hf : Ignores f S) {source target : Path}
    (hs : S source) (ht : S target) :
    Frames f (rename source target : Storage C Unit) := by
  refine frames_bind (frames_readFile source) fun content => ?_
  refine frames_bind (frames_attempt hf) fun _ => frames_update fun w => ?_
  rw [hf.file hs, hf.file ht]

/-- The temporary name is one of the target's. -/
theorem answers_tempFileFor (target : Path) :
    Answers (IsTemp target) (tempFileFor target : Storage C Path) :=
  answers_bind fun nano => answers_pure ⟨nano, rfl⟩

theorem frames_tempFileFor (hf : Ignores f S) (target : Path) :
    Frames f (tempFileFor target : Storage C Path) :=
  frames_bind (frames_nanoTime hf) fun _ => frames_pure _

/-- A copy writes the target and its temporary file. -/
theorem frames_copyFileAtomic (hf : Ignores f S) (source : Path)
    {target : Path} (h : Covers S target) :
    Frames f (copyFileAtomic source target : Storage C Unit) := by
  refine frames_bind (frames_attempt hf) fun _ => ?_
  refine frames_bind_of (answers_tempFileFor target)
    (frames_tempFileFor hf target) fun temp htemp => ?_
  have ht := h.temp htemp
  refine frames_tryFinally ?_ (hf.deleteFile ht)
  refine frames_bind (frames_readFile source) fun content => ?_
  refine frames_bind (frames_attempt hf) fun _ => ?_
  exact frames_bind (frames_writeFile hf ht content)
    fun _ => frames_rename hf ht h.self

/-- And the backup, where there is one. -/
theorem frames_atomicWrite (hf : Ignores f S) {target : Path}
    (h : Covers S target) (content : C) {backup : Option Path}
    (hb : ∀ b, backup = some b → Covers S b) :
    Frames f (atomicWrite target content backup) := by
  refine frames_bind (frames_attempt hf) fun _ => ?_
  refine frames_bind_of (answers_tempFileFor target)
    (frames_tempFileFor hf target) fun temp htemp => ?_
  have ht := h.temp htemp
  refine frames_tryFinally ?_ (hf.deleteFile ht)
  refine frames_bind (frames_attempt hf) fun _ => ?_
  refine frames_bind (frames_writeFile hf ht content) fun _ => ?_
  cases backup with
  | none => exact frames_rename hf ht h.self
  | some b =>
      refine frames_bind (frames_look _) fun there => ?_
      cases there with
      | false => exact frames_rename hf ht h.self
      | true =>
          exact frames_bind (frames_copyFileAtomic hf target (hb b rfl))
            fun _ => frames_rename hf ht h.self

/-- The backup is only read. -/
theorem frames_restorePrimaryFromBackupIfMissing (hf : Ignores f S)
    {target : Path} (h : Covers S target) :
    Frames f
      (restorePrimaryFromBackupIfMissing target : Storage C Unit) := by
  refine frames_bind (frames_look _) fun there => ?_
  cases there with
  | true => exact frames_pure ()
  | false =>
      refine frames_bind (frames_look _) fun backed => ?_
      cases backed with
      | false => exact frames_pure ()
      | true => exact frames_copyFileAtomic hf _ h

/-- An asset is written under one name. -/
theorem frames_seedAssetIfMissing (hf : Ignores f S) (asset : C)
    {target : Path} (h : Covers S target) :
    Frames f (seedAssetIfMissing asset target) := by
  refine frames_bind (frames_look _) fun there => ?_
  cases there with
  | true => exact frames_pure ()
  | false =>
      show Frames f (atomicWrite target asset none)
      exact frames_atomicWrite hf h asset nofun

end Frames

-- ===================================================== replacing one file

/-- Either way, with the files as they were. -/
theorem ends_attempt {w : World C} {Q : Unit → World C → Prop}
    {E : Failure → World C → Prop}
    (hok : ∀ w', w'.files = w.files → Q () w')
    (herror : ∀ e w', w'.files = w.files → E e w') :
    Ends (attempt : Storage C Unit) w Q E := by
  have hfiles := attempt_files w
  unfold Ends
  generalize (attempt : Storage C Unit) w = ending at hfiles ⊢
  obtain ⟨result, w'⟩ := ending
  cases result with
  | ok a => exact hok w' hfiles
  | error e => exact herror e w' hfiles

/-- The content, if the file is there. -/
theorem ends_readFile {path : Path} {w : World C} {Q : C → World C → Prop}
    {E : Failure → World C → Prop}
    (hok : ∀ content, w.files path = some content → Q content w)
    (herror : ∀ e, E e w) : Ends (readFile path) w Q E := by
  unfold Ends readFile
  cases hpath : w.files path with
  | some content => exact hok content hpath
  | none => exact herror .io

/-- Temporary names are longer than the name. -/
theorem tempName_ne (name : String) (nano : Nat) : tempName name nano ≠ name := by
  intro heq
  have hlength := congrArg String.length heq
  have hdot : ".".length = 1 := rfl
  simp only [tempName, String.length_append, hdot] at hlength
  omega

/-- And end differently from its backup. -/
theorem tempName_ne_backup (name : String) (nano : Nat) :
    tempName name nano ≠ name ++ ".bak" := by
  intro heq
  have hlength := congrArg String.length heq
  have hdot : ".".length = 1 := rfl
  have htmp : ".tmp".length = 4 := rfl
  have hbak : ".bak".length = 4 := rfl
  simp only [tempName, String.length_append, hdot, htmp, hbak] at hlength
  omega

/-- A time's digits are not the backup's ending. -/
theorem tempName_ne_backup_temp (name : String) (nano nano' : Nat) :
    tempName name nano ≠ tempName (name ++ ".bak") nano' := by
  intro heq
  have hlist := congrArg String.toList heq
  have hrest : Nat.toDigits 10 nano ++ ".tmp".toList
      = 'b' :: 'a' :: 'k' :: '.' :: (Nat.toDigits 10 nano' ++ ".tmp".toList) := by
    simpa [tempName] using hlist
  obtain ⟨digit, rest, hdigits⟩ : ∃ digit rest,
      Nat.toDigits 10 nano = digit :: rest :=
    List.exists_cons_of_ne_nil Nat.toDigits_ne_nil
  have hdigit : digit.isDigit := by
    have hmem : digit ∈ Nat.toDigits 10 nano := by
      rw [hdigits]
      exact List.mem_cons_self
    exact Nat.isDigit_of_mem_toDigits (by decide) (by decide) hmem
  rw [hdigits, List.cons_append] at hrest
  have hb : digit = 'b' := (List.cons.inj hrest).1
  rw [hb] at hdigit
  exact absurd hdigit (by decide)

/-- A target is not its own temporary file. -/
theorem not_isTemp_self (target : Path) : ¬ IsTemp target target := by
  rintro ⟨nano, heq⟩
  exact tempName_ne target.name nano (congrArg Path.name heq).symm

/-- All files but the temporary ones of `target` are as they were. -/
def Apart (target : Path) (w w' : World C) : Prop :=
  ∀ p, ¬ IsTemp target p → w'.files p = w.files p

/-- Equal files are equal apart from the target. -/
theorem apart_of_files {target : Path} {w w' : World C}
    (h : w'.files = w.files) : Apart target w w' :=
  fun _ _ => by rw [h]

/-- `Apart` is kept by steps one after the other. -/
theorem Apart.trans {target : Path} {w w' w'' : World C}
    (h : Apart target w w') (h' : Apart target w' w'') : Apart target w w'' :=
  fun p hp => (h' p hp).trans (h p hp)

/-- A temporary file may be written. -/
theorem apart_setFile {target temp : Path} (h : IsTemp target temp)
    (content : Option C) (w : World C) :
    Apart target w (setFile temp content w) := by
  intro p hp
  have hne : p ≠ temp := by
    rintro rfl
    exact hp h
  simp [setFile, hne]

/-- And deleted. -/
theorem apart_deleteFile {target temp : Path} (h : IsTemp target temp)
    (w : World C) : Apart target w (deleteFile temp w) := by
  unfold deleteFile
  split
  · exact apart_of_files rfl
  · exact apart_setFile h none w

/-- A temporary name, and the same files. -/
theorem ends_tempFileFor {target : Path} {w : World C}
    {Q : Path → World C → Prop} {E : Failure → World C → Prop}
    (h : ∀ temp w', IsTemp target temp → w'.files = w.files → Q temp w') :
    Ends (tempFileFor target) w Q E :=
  h _ _ ⟨_, rfl⟩ rfl

/-- A write, done or failed; the file may be written in both cases. -/
theorem ends_writeFile {path : Path} {content : C} {w : World C}
    {Q : Unit → World C → Prop} {E : Failure → World C → Prop}
    (hok : ∀ w', w'.files = (setFile path (some content) w).files → Q () w')
    (herror : ∀ e w', w'.files = (setFile path (some content) w).files →
      E e w') : Ends (writeFile path content) w Q E :=
  ends_bind (ends_update (ends_attempt hok herror))

/-- A rename happens or not; there is nothing between. -/
theorem ends_rename {source target : Path} {w : World C}
    {Q : Unit → World C → Prop} {E : Failure → World C → Prop}
    (hok : ∀ content w', w.files source = some content → w'.files
      = (setFile source none (setFile target (some content) w)).files →
        Q () w')
    (herror : ∀ e w', w'.files = w.files → E e w') :
    Ends (rename source target) w Q E := by
  refine ends_bind (ends_readFile ?_ fun e => herror e w rfl)
  intro content hcontent
  refine ends_bind (ends_attempt ?_ herror)
  intro w₁ h₁
  refine ends_update (hok content _ hcontent ?_)
  simp [setFile, h₁]

/-- The file that a rename puts in place. -/
theorem renamed_target {temp target : Path} (h : IsTemp target temp)
    {w w' : World C} {content : C}
    (hw : w'.files = (setFile temp none
      (setFile target (some content) w)).files) :
    (deleteFile temp w').files target = some content := by
  have hne : target ≠ temp := by
    rintro rfl
    exact not_isTemp_self _ h
  rw [apart_deleteFile h w' target (not_isTemp_self target), hw]
  simp [setFile, hne]

/-- What a rename and its cleanup leave alone. -/
theorem renamed_other {temp target p : Path} (h : IsTemp target temp)
    {w w' : World C} {content : C}
    (hw : w'.files = (setFile temp none
      (setFile target (some content) w)).files) (hp : p ≠ target)
    (htemp : ¬ IsTemp target p) :
    (deleteFile temp w').files p = w.files p := by
  have hne : p ≠ temp := by
    rintro rfl
    exact htemp h
  rw [apart_deleteFile h w' p htemp, hw]
  simp [setFile, hne, hp]

/-- A copy is made as a whole or not at all. -/
theorem copyFileAtomic_ends (w : World C) {source target : Path}
    (hsource : ¬ IsTemp target source) :
    Ends (copyFileAtomic source target) w
      (fun _ w' => w'.files target = w.files source
        ∧ ∀ p, p ≠ target → ¬ IsTemp target p → w'.files p = w.files p)
      (fun _ w' => Apart target w w') := by
  refine ends_bind (ends_attempt ?_ fun _ w₁ h₁ => apart_of_files h₁)
  intro w₁ h₁
  refine ends_bind (ends_tempFileFor ?_)
  intro temp w₂ htemp h₂
  have hw₂ : Apart target w w₂ := apart_of_files (h₂.trans h₁)
  have hdelete : ∀ {w' : World C}, Apart target w w' →
      Apart target w (deleteFile temp w') :=
    fun h => h.trans (apart_deleteFile htemp _)
  refine ends_tryFinally (ends_bind (ends_readFile ?_ fun _ => hdelete hw₂))
  intro content hcontent
  refine ends_bind (ends_attempt ?_ fun _ w₃ h₃ =>
    hdelete (hw₂.trans (apart_of_files h₃)))
  intro w₃ h₃
  have hw₃ : Apart target w w₃ := hw₂.trans (apart_of_files h₃)
  have hwritten : ∀ w₄ : World C,
      w₄.files = (setFile temp (some content) w₃).files → Apart target w w₄ :=
    fun w₄ h₄ => (hw₃.trans (apart_setFile htemp _ w₃)).trans
      (apart_of_files h₄)
  refine ends_bind (ends_writeFile ?_ fun _ w₄ h₄ => hdelete (hwritten w₄ h₄))
  intro w₄ h₄
  have hw₄ := hwritten w₄ h₄
  refine ends_rename ?_ fun _ w₅ h₅ => hdelete (hw₄.trans (apart_of_files h₅))
  intro content' w₅ hcontent' h₅
  have hsame : content' = content := by
    rw [h₄] at hcontent'
    simpa [setFile] using hcontent'.symm
  subst hsame
  constructor
  · rw [renamed_target htemp h₅, ← hw₂ source hsource, hcontent]
  · intro p hp hptemp
    rw [renamed_other htemp h₅ hp hptemp, hw₄ p hptemp]

/-- A backup is another file. -/
theorem ne_backupFor (target : Path) : target ≠ backupFor target := by
  intro heq
  have hlength := congrArg (fun p => p.name.length) heq
  have hbak : ".bak".length = 4 := rfl
  simp only [backupFor, String.length_append, hbak] at hlength
  omega

/-- It is no temporary file of the target. -/
theorem not_isTemp_backup (target : Path) : ¬ IsTemp target (backupFor target) := by
  rintro ⟨nano, heq⟩
  exact tempName_ne_backup target.name nano (congrArg Path.name heq).symm

/-- Nor the other way round. -/
theorem not_isTemp_of_backup (target : Path) : ¬ IsTemp (backupFor target) target := by
  rintro ⟨nano, heq⟩
  have hlength := congrArg (fun p => p.name.length) heq
  have hdot : ".".length = 1 := rfl
  simp only [backupFor, tempName, String.length_append, hdot] at hlength
  omega

/-- Temporary files of a target are none of its backup. -/
theorem not_isTemp_temp {target temp : Path} (h : IsTemp target temp) :
    ¬ IsTemp (backupFor target) temp := by
  obtain ⟨nano, rfl⟩ := h
  rintro ⟨nano', heq⟩
  exact tempName_ne_backup_temp target.name nano nano'
    (congrArg Path.name heq)

/-- The file is what it was, and its backup is that or what the file was. -/
def Kept (target : Path) (w w' : World C) : Prop :=
  w'.files target = w.files target
    ∧ (w'.files (backupFor target) = w.files (backupFor target)
      ∨ (w.files target).isSome)

/-- What is apart from the target keeps the backup too. -/
theorem Apart.kept {target : Path} {w w' : World C}
    (h : Apart target w w') : Kept target w w' :=
  ⟨h target (not_isTemp_self target),
    .inl (h _ (not_isTemp_backup target))⟩

/-- The cleanup of a temporary file. -/
theorem Kept.deleteFile {target temp : Path} {w w' : World C}
    (h : Kept target w w') (htemp : IsTemp target temp) :
    Kept target w (deleteFile temp w') := by
  have hapart := apart_deleteFile htemp w'
  refine ⟨(hapart target (not_isTemp_self target)).trans h.1, ?_⟩
  rw [hapart _ (not_isTemp_backup target)]
  exact h.2

/-- Only the files matter. -/
theorem Kept.of_files {target : Path} {w w' w'' : World C}
    (h : Kept target w w') (hfiles : w''.files = w'.files) :
    Kept target w w'' := by
  unfold Kept
  rw [hfiles]
  exact h

/-- The copy to the backup, before the file is replaced. -/
theorem backup_ends (w : World C) {target temp : Path}
    (htemp : IsTemp target temp) (hsome : (w.files target).isSome) :
    Ends (copyFileAtomic target (backupFor target)) w
      (fun _ w' => Kept target w w' ∧ w'.files temp = w.files temp)
      (fun _ w' => Kept target w w') := by
  refine (copyFileAtomic_ends w (not_isTemp_of_backup target)).mono ?_ ?_
  · rintro - w' ⟨-, hother⟩
    have hne : temp ≠ backupFor target := by
      rintro rfl
      exact not_isTemp_backup target htemp
    refine ⟨⟨?_, .inr hsome⟩, hother temp hne (not_isTemp_temp htemp)⟩
    exact hother target (ne_backupFor target) (not_isTemp_of_backup target)
  · intro e w' hapart
    exact ⟨hapart target (not_isTemp_of_backup target), .inr hsome⟩

/-- A file is replaced as a whole or not at all. -/
theorem atomicWrite_ends (w : World C) (target : Path) (content : C) :
    Ends (atomicWrite target content (some (backupFor target))) w
      (fun _ w' => w'.files target = some content)
      (fun _ w' => Kept target w w') := by
  refine ends_bind (ends_attempt ?_ fun _ w₁ h₁ => (apart_of_files h₁).kept)
  intro w₁ h₁
  refine ends_bind (ends_tempFileFor ?_)
  intro temp w₂ htemp h₂
  have hw₂ : Apart target w w₂ := apart_of_files (h₂.trans h₁)
  refine ends_tryFinally (ends_bind (ends_attempt ?_ fun _ w₃ h₃ =>
    (hw₂.trans (apart_of_files h₃)).kept.deleteFile htemp))
  intro w₃ h₃
  have hw₃ : Apart target w w₃ := hw₂.trans (apart_of_files h₃)
  have hwritten : ∀ w₄ : World C,
      w₄.files = (setFile temp (some content) w₃).files → Apart target w w₄ :=
    fun w₄ h₄ => (hw₃.trans (apart_setFile htemp _ w₃)).trans
      (apart_of_files h₄)
  refine ends_bind (ends_writeFile ?_ fun _ w₄ h₄ =>
    (hwritten w₄ h₄).kept.deleteFile htemp)
  intro w₄ h₄
  have hw₄ := hwritten w₄ h₄
  have hcontent : w₄.files temp = some content := by
    rw [h₄]
    simp [setFile]
  -- the last step, wherever it is taken
  have hrename : ∀ w₅ : World C, Kept target w w₅ →
      w₅.files temp = some content →
      Ends (rename temp target) w₅
        (fun _ w' => (Storage.deleteFile temp w').files target = some content)
        (fun _ w' => Kept target w (Storage.deleteFile temp w')) := by
    intro w₅ hkept htempfile
    refine ends_rename ?_ fun _ w₆ h₆ => (hkept.of_files h₆).deleteFile htemp
    intro content' w₆ hcontent' h₆
    rw [htempfile] at hcontent'
    cases hcontent'
    exact renamed_target htemp h₆
  refine ends_bind (ends_look ?_)
  cases hthere : (w₄.files target).isSome with
  | false => exact hrename w₄ hw₄.kept hcontent
  | true =>
      refine ends_bind ((backup_ends w₄ htemp hthere).mono ?_ ?_)
      · rintro - w₅ ⟨hkept, htempfile⟩
        refine hrename w₅ ?_ (htempfile.trans hcontent)
        have hsame := hw₄ target (not_isTemp_self target)
        exact ⟨hkept.1.trans hsame, .inr (hsame ▸ hthere)⟩
      · intro e w₅ hkept
        have hsame := hw₄ target (not_isTemp_self target)
        exact Kept.deleteFile
          ⟨hkept.1.trans hsame, .inr (hsame ▸ hthere)⟩ htemp

-- =========================================================== without faults

/-- No step throws from here on, and the clock does not run before 1970. -/
def Clear (w : World C) : Prop := w.faults = [] ∧ ∀ t ∈ w.clock, 0 ≤ t

/-- Without faults the computation succeeds. -/
def Sure (m : Storage C α) : Prop :=
  ∀ w, Clear w → Ends m w (fun _ w' => Clear w') fun _ _ => False

/-- With no faults ahead an attempt succeeds; so do the operations below. -/
theorem ends_attempt_clear {w : World C} (h : Clear w)
    {Q : Unit → World C → Prop} {E : Failure → World C → Prop} (hQ : Q () w) :
    Ends (attempt : Storage C Unit) w Q E := by
  have hattempt : (attempt : Storage C Unit) w = (.ok (), w) := by
    unfold attempt
    rw [h.1]
  unfold Ends
  rw [hattempt]
  exact hQ

/-- The content is there. -/
theorem ends_writeFile_clear {w : World C} (h : Clear w) {path : Path}
    {content : C} {Q : Unit → World C → Prop} {E : Failure → World C → Prop}
    (hQ : Q () (setFile path (some content) w)) :
    Ends (writeFile path content) w Q E := by
  have hset : Clear (setFile path (some content) w) := h
  exact ends_bind (ends_update (ends_attempt_clear hset hQ))

/-- The content has moved. -/
theorem ends_rename_clear {w : World C} (h : Clear w) {source target : Path}
    {content : C} (hsource : w.files source = some content)
    {Q : Unit → World C → Prop} {E : Failure → World C → Prop}
    (hQ : Q () (setFile source none (setFile target (some content) w))) :
    Ends (rename source target) w Q E := by
  refine ends_bind ?_
  unfold Ends readFile
  rw [hsource]
  exact ends_bind (ends_attempt_clear h (ends_update hQ))

/-- A temporary file is put in place. -/
theorem clear_renamed {w : World C} (h : Clear w) (temp target : Path)
    (content : Option C) :
    Clear (deleteFile temp (setFile temp none (setFile target content w))) := by
  unfold deleteFile
  split
  · exact h
  · exact h

/-- `Sure` code succeeds where no fault is ahead, one rule for each
construct. -/
theorem sure_pure (a : α) : Sure (pure a : Storage C α) :=
  fun _ h => h

theorem sure_bind {β : Type} {m : Storage C α} {g : α → Storage C β}
    (hm : Sure m) (hg : ∀ a, Sure (g a)) : Sure (m >>= g) :=
  fun w h => ends_bind ((hm w h).mono (fun a w' h' => hg a w' h')
    fun _ _ h => h)

theorem sure_lift {β : Type} {x : Except Failure α} {a : α}
    {g : α → Storage C β} (hx : x = .ok a) (hg : Sure (g a)) :
    Sure (lift x >>= g) := by
  subst hx
  exact hg

/-- The handler is not reached. -/
theorem sure_tryCatch {m : Storage C α} (hm : Sure m)
    (handler : Failure → Storage C α) : Sure (tryCatch m handler) :=
  fun w h => ends_tryCatch ((hm w h).mono (fun _ _ h => h)
    fun _ _ hfalse => hfalse.elim)

theorem sure_attempt : Sure (attempt : Storage C Unit) :=
  fun _ h => ends_attempt_clear h h

/-- The clock does not go below zero. -/
theorem ends_clock_clear {w : World C} (h : Clear w)
    {Q : Int → World C → Prop} {E : Failure → World C → Prop}
    (hQ : ∀ now w', 0 ≤ now → Clear w' → Q now w') :
    Ends (clock : Storage C Int) w Q E := by
  refine hQ (w.clock.headD 0) { w with clock := w.clock.tail } ?_ ?_
  · cases hclock : w.clock with
    | nil => simp
    | cons now rest => exact h.2 now (by simp [hclock])
  · exact ⟨h.1, fun t ht => h.2 t (List.mem_of_mem_tail ht)⟩

theorem sure_look (f : World C → α) : Sure (look f : Storage C α) :=
  fun _ h => h

theorem sure_forEach {β : Type} {l : List β} {g : β → Storage C Unit}
    (h : ∀ b ∈ l, Sure (g b)) : Sure (forEach l g) := by
  induction l with
  | nil => exact sure_pure ()
  | cons b rest ih =>
      refine sure_bind (h b List.mem_cons_self) fun _ => ?_
      exact ih fun c hc => h c (List.mem_cons_of_mem b hc)

/-- A file that is there is copied. -/
theorem copyFileAtomic_clear {w : World C} (h : Clear w)
    {source : Path} (target : Path) {content : C}
    (hsource : w.files source = some content) :
    Ends (copyFileAtomic source target) w
      (fun _ w' => Clear w' ∧ ∀ p, p ≠ target → ¬ IsTemp target p →
        w'.files p = w.files p)
      fun _ _ => False := by
  refine ends_bind (ends_attempt_clear h (ends_bind ?_))
  let temp : Path := { target with
    name := tempName target.name (w.nanos.headD 0) }
  let w₁ : World C := { w with nanos := w.nanos.tail }
  have h₁ : Clear w₁ := h
  have htemp : IsTemp target temp := ⟨_, rfl⟩
  show Ends (tryFinally _ (deleteFile temp)) w₁ _ _
  refine ends_tryFinally (ends_bind ?_)
  have hread : readFile source w₁ = (.ok content, w₁) := by
    unfold readFile
    rw [show w₁.files source = some content from hsource]
  unfold Ends
  rw [hread]
  refine ends_bind (ends_attempt_clear h₁ ?_)
  refine ends_bind (ends_writeFile_clear h₁ ?_)
  let w₂ := setFile temp (some content) w₁
  have h₂ : Clear w₂ := h
  have hcontent : w₂.files temp = some content := by simp [w₂, setFile]
  refine ends_rename_clear h₂ hcontent ⟨clear_renamed h₂ _ _ _, ?_⟩
  intro p hp hptemp
  rw [renamed_other htemp rfl hp hptemp, apart_setFile htemp _ w₁ p hptemp]

/-- A new file is written. -/
theorem sure_atomicWrite_new (target : Path) (content : C) :
    Sure (atomicWrite target content none) := by
  intro w h
  refine ends_bind (ends_attempt_clear h (ends_bind ?_))
  let temp : Path := { target with
    name := tempName target.name (w.nanos.headD 0) }
  let w₁ : World C := { w with nanos := w.nanos.tail }
  have h₁ : Clear w₁ := h
  show Ends (tryFinally _ (deleteFile temp)) w₁ _ _
  refine ends_tryFinally (ends_bind (ends_attempt_clear h₁ ?_))
  refine ends_bind (ends_writeFile_clear h₁ ?_)
  let w₂ := setFile temp (some content) w₁
  have h₂ : Clear w₂ := h
  have hcontent : w₂.files temp = some content := by simp [w₂, setFile]
  exact ends_rename_clear h₂ hcontent (clear_renamed h₂ _ _ _)

/-- A file is replaced. -/
theorem sure_atomicWrite (target : Path) (content : C) :
    Sure (atomicWrite target content (some (backupFor target))) := by
  intro w h
  refine ends_bind (ends_attempt_clear h (ends_bind ?_))
  let temp : Path := { target with
    name := tempName target.name (w.nanos.headD 0) }
  let w₁ : World C := { w with nanos := w.nanos.tail }
  have h₁ : Clear w₁ := h
  have htemp : IsTemp target temp := ⟨_, rfl⟩
  show Ends (tryFinally _ (deleteFile temp)) w₁ _ _
  refine ends_tryFinally (ends_bind (ends_attempt_clear h₁ ?_))
  refine ends_bind (ends_writeFile_clear h₁ ?_)
  let w₂ := setFile temp (some content) w₁
  have h₂ : Clear w₂ := h
  have hcontent : w₂.files temp = some content := by simp [w₂, setFile]
  refine ends_bind (ends_look ?_)
  cases hthere : w₂.files target with
  | none => exact ends_rename_clear h₂ hcontent (clear_renamed h₂ _ _ _)
  | some old =>
      have hcopy := copyFileAtomic_clear h₂ (backupFor target) hthere
      refine ends_bind (hcopy.mono ?_ fun _ _ hfalse => hfalse)
      rintro - w₃ ⟨h₃, hother⟩
      have hne : temp ≠ backupFor target := by
        intro heq
        exact not_isTemp_backup target (heq ▸ htemp)
      have htempfile : w₃.files temp = some content :=
        (hother temp hne (not_isTemp_temp htemp)).trans hcontent
      exact ends_rename_clear h₃ htempfile (clear_renamed h₃ _ _ _)

/-- There is a backup, or nothing to do. -/
theorem sure_restorePrimaryFromBackupIfMissing (target : Path) :
    Sure (restorePrimaryFromBackupIfMissing target : Storage C Unit) := by
  intro w h
  refine ends_bind (ends_look ?_)
  cases w.files target with
  | some old => exact ends_pure h
  | none =>
      refine ends_bind (ends_look ?_)
      cases hbackup : w.files (backupFor target) with
      | none => exact ends_pure h
      | some old =>
          exact (copyFileAtomic_clear h target hbackup).mono
            (fun _ _ hcopied => hcopied.1) fun _ _ hfalse => hfalse

/-- An asset can always be written. -/
theorem sure_seedAssetIfMissing (asset : C) (target : Path) :
    Sure (seedAssetIfMissing asset target) := by
  refine sure_bind (sure_look _) fun there => ?_
  cases there with
  | true => exact sure_pure ()
  | false => exact sure_atomicWrite_new target asset

end Storage

end ZeroDpi.Android
