/-
The files of the Android app (storage/RuntimeFileOps.kt).

# Faults

Every step that creates, writes, copies or renames a file or makes a
directory may throw: `faults` says which of the coming ones do. A file that
cannot be deleted stays (`stuck`). Renaming replaces a file at once or
throws; `fsyncDirectory` throws nothing and changes no file.

What a half-written temporary file holds is left out: nothing reads it.

# Names

A file is named by its directory and its name in it. The temporary files
of `System.nanoTime()` begin with a dot.
-/
import ZeroDpi.Lib.Throwing
import ZeroDpi.Android.Profile

namespace ZeroDpi.Android

open Lib

/-- The directories of the app. -/
inductive Dir where
  /-- `filesDir/zerodpi`. -/
  | runtime
  /-- `filesDir/zerodpi/profiles`. -/
  | profiles
  | profile (id : String)
  deriving DecidableEq

/-- A file in one of them. -/
structure Path where
  dir : Dir
  name : String
  deriving DecidableEq

/-- The files, and what the device gives to whoever asks. -/
structure World (C : Type) where
  files : Path → Option C
  stuck : Path → Bool
  faults : List Bool
  nanos : List Nat
  clock : List Int
  ids : List String

/-- Code on the files. -/
abbrev Storage (C : Type) := Throwing Failure (World C)

namespace Storage

variable {C : Type}

open Throwing

-- ============================================================= single steps

/-- A step that may throw. -/
def attempt : Storage C Unit := fun w =>
  match w.faults with
  | true :: rest => (.error .io, { w with faults := rest })
  | false :: rest => (.ok (), { w with faults := rest })
  | [] => (.ok (), w)

/-- `System.nanoTime()`. -/
def nanoTime : Storage C Nat := fun w =>
  (.ok (w.nanos.headD 0), { w with nanos := w.nanos.tail })

/-- `clock()`. -/
def clock : Storage C Int := fun w =>
  (.ok (w.clock.headD 0), { w with clock := w.clock.tail })

/-- `idGenerator()`. -/
def idGenerator : Storage C String := fun w =>
  (.ok (w.ids.headD ""), { w with ids := w.ids.tail })

/-- A result of pure code. -/
def lift {α : Type} (x : Except Failure α) : Storage C α := fun w => (x, w)

/-- A file with that content, or none. -/
def setFile (path : Path) (content : Option C) (w : World C) : World C :=
  { w with files := fun p => if p = path then content else w.files p }

/-- `File.exists`, and `File.isFile`: the paths here are of files. -/
def fileExists (path : Path) : Storage C Bool := look fun w => (w.files path).isSome

/-- A file that is not there throws. -/
def readFile (path : Path) : Storage C C := fun w =>
  match w.files path with
  | some content => (.ok content, w)
  | none => (.error .io, w)

/-- The file may be there even if the write throws. -/
def writeFile (path : Path) (content : C) : Storage C Unit := do
  update (setFile path (some content))
  attempt

/-- `Os.rename`. -/
def rename (source target : Path) : Storage C Unit := do
  let content ← readFile source
  attempt
  update fun w => setFile source none (setFile target (some content) w)

/-- `File.delete`, whose answer is not looked at. -/
def deleteFile (path : Path) (w : World C) : World C :=
  if w.stuck path then w else setFile path none w

/-- `File.deleteRecursively` of a profile's directory. -/
def deleteRecursively (dir : Dir) (w : World C) : World C :=
  { w with files := fun p =>
      if p.dir = dir ∧ w.stuck p = false then none else w.files p }

-- ======================================================== RuntimeFileOps

/-- Directories are not modelled, only that it may fail. -/
def ensureDirectory : Storage C Unit := attempt

/-- The name with `.bak`. -/
def backupFor (target : Path) : Path :=
  { target with name := target.name ++ ".bak" }

/-- A hidden name with the time in it. -/
def tempName (name : String) (nano : Nat) : String :=
  "." ++ name ++ "." ++ toString nano ++ ".tmp"

/-- A temporary file beside the target. -/
def tempFileFor (target : Path) : Storage C Path := do
  let nano ← nanoTime
  return { target with name := tempName target.name nano }

/-- A copy by way of a temporary file. -/
def copyFileAtomic (source target : Path) : Storage C Unit := do
  ensureDirectory
  let temp ← tempFileFor target
  tryFinally (do
      let content ← readFile source
      attempt
      writeFile temp content
      rename temp target)
    (deleteFile temp)

/-- A write by way of a temporary file, with a backup behind it. -/
def atomicWrite (target : Path) (content : C) (backup : Option Path) :
    Storage C Unit := do
  ensureDirectory
  let temp ← tempFileFor target
  tryFinally (do
      attempt
      writeFile temp content
      match backup with
      | some backup =>
          if (← fileExists target) then copyFileAtomic target backup
      | none => pure ()
      rename temp target)
    (deleteFile temp)

/-- The backup, where the file is missing. -/
def restorePrimaryFromBackupIfMissing (target : Path) : Storage C Unit := do
  if !(← fileExists target) then
    if (← fileExists (backupFor target)) then
      copyFileAtomic (backupFor target) target

/-- `asset` is the text of the asset, which is part of the app. -/
def seedAssetIfMissing (asset : C) (target : Path) : Storage C Unit := do
  if !(← fileExists target) then
    atomicWrite target asset none

end Storage

end ZeroDpi.Android
