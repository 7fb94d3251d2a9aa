import StsDelegate.Rotate
import StsDelegate.Lib.Files
import StsDelegate.Lib.Implement
import Mathlib.Data.Nat.Bitwise

/-!
# Rotations over the file system

A rotation replaces a file with `atomic_write_bytes`: it creates a temporary file beside
it, writes that file, sets its permissions and renames it over the old one. Any of these
calls can fail, a process can stop between any two of them, and other rotations go on in
between. The lock file is created and removed, and the two files are read, through the
same file system.

`linearizes` shows that all of this is, to the processes and to whoever reads the files,
what the rotations of `Rotate.lean` do in one call each: a file is replaced at the
rename, and read as it was when it was opened.
-/

namespace StsDelegate

open Text Effectful Prog

/-! ### The file system -/

/-- A path: its directory (empty for the working directory) and the name in it. -/
structure KeyPath where
  parent : String
  name : String
  deriving DecidableEq

def KeyPath.display (path : KeyPath) : String :=
  if path.parent = "" then path.name else path.parent ++ "/" ++ path.name

/-- `unique_temp_path_for`, for a process and a clock reading. -/
def tempPathFor (path : KeyPath) (processId nanos : Nat) : KeyPath where
  parent := path.parent
  name := "." ++ path.name ++ "." ++ toString processId ++ "." ++ toString nanos ++ ".tmp"

/-- The lock file of a key file. -/
def lockPath (keyFile : KeyPath) : KeyPath := { keyFile with name := keyFile.name ++ ".rotate.lock" }

/-- What a rotation asks of the file system, and for its keys. -/
inductive KeyFsCall
  /-- `fs::create_dir_all`. -/
  | createDirAll (dir : String)
  /-- Read the clock and the process id for a temporary path. -/
  | uniqueTempPath (path : KeyPath)
  /-- `OpenOptions::new().write(true).create_new(true).mode(mode).open`. -/
  | createNew (path : KeyPath) (mode : Nat)
  /-- `write_all` and `sync_all`. -/
  | writeAll (file : Nat) (text : FileText)
  | setPermissions (path : KeyPath) (mode : Nat)
  | rename (source target : KeyPath)
  | removeFile (path : KeyPath)
  /-- `File::open` of a directory and `sync_all`. -/
  | syncDir (dir : String)
  /-- The first half of `fs::read_to_string`. -/
  | openRead (path : KeyPath)
  /-- The second half. -/
  | readToEnd (file : Nat)
  | generateRsa
  | generateMlDsa (algorithm : MlDsaAlgorithm) (kid : Option String)

def KeyFsCall.Answer : KeyFsCall → Type
  | .createDirAll _ => Except String Unit
  | .uniqueTempPath _ => KeyPath
  | .createNew _ _ => Except String Nat
  | .writeAll _ _ => Except String Unit
  | .setPermissions _ _ => Except String Unit
  | .rename _ _ => Except String Unit
  | .removeFile _ => Except String Unit
  | .syncDir _ => Unit
  | .openRead _ => Except IoError Nat
  | .readToEnd _ => FileText
  | .generateRsa => Except JoseError GeneratedKey
  | .generateMlDsa _ _ => Except JoseError GeneratedKey

/-- The calls of a rotation into the file system, with their answers. -/
def keyFs : Signature := ⟨KeyFsCall, KeyFsCall.Answer⟩

/-- What the environment decides at a call: an I/O failure with its text, what a failing
write has left in the file, and the values that the process reads. -/
structure KeyFsInput where
  failure : Option String
  written : FileText
  umask : Nat
  processId : Nat
  nanos : Nat
  entropy : Bytes

/-- The files that the rotations share. -/
abbrev KeyDir : Type := Files KeyPath StoredFile

section FileSystem

variable [Crates] [KeyCrates]

/-- The file system answers a call. An error of `fs::read_to_string` is decided when the
file is opened: it has no effect either way. -/
def keyFsAnswer (c : KeyFsCall) (input : KeyFsInput) (t : KeyDir) : c.Answer × KeyDir :=
  match c with
  | .createDirAll _ =>
      match input.failure with
      | some text => (.error text, t)
      | none => (.ok (), t)
  | .uniqueTempPath path => (tempPathFor path input.processId input.nanos, t)
  | .createNew path mode =>
      match input.failure, t.find path with
      | some text, _ => (.error text, t)
      | none, some _ => (.error "File exists (os error 17)", t)
      | none, none =>
          (.ok t.next, t.create path ⟨.other "", mode.ldiff input.umask⟩)
  | .writeAll file text =>
      match input.failure with
      | some err => (.error err, t.write file ⟨input.written, (t.contents file).mode⟩)
      | none => (.ok (), t.write file ⟨text, (t.contents file).mode⟩)
  | .setPermissions path mode =>
      match input.failure, t.find path with
      | some text, _ => (.error text, t)
      | none, none => (.error "No such file or directory (os error 2)", t)
      | none, some file => (.ok (), t.write file ⟨(t.contents file).text, mode⟩)
  | .rename source target =>
      match input.failure, t.find source with
      | some text, _ => (.error text, t)
      | none, none => (.error "No such file or directory (os error 2)", t)
      | none, some _ => (.ok (), t.rename source target)
  | .removeFile path =>
      match input.failure, t.find path with
      | some text, _ => (.error text, t)
      | none, none => (.error "No such file or directory (os error 2)", t)
      | none, some _ => (.ok (), t.remove path)
  | .syncDir _ => ((), t)
  | .openRead path =>
      match input.failure, t.find path with
      | some text, _ => (.error ⟨false, text⟩, t)
      | none, none => (.error ⟨true, "No such file or directory (os error 2)"⟩, t)
      | none, some file => (.ok file, t)
  | .readToEnd file => ((t.contents file).text, t)
  | .generateRsa => (RsaJoseSigner.generatePrivateJwk input.entropy, t)
  | .generateMlDsa algorithm kid =>
      (MlDsaJoseSigner.generatePrivateJwk algorithm kid input.entropy, t)

def keyFileSystem : Machine keyFs KeyDir KeyFsInput := ⟨keyFsAnswer⟩

end FileSystem

abbrev KeyFsProg (α : Type) : Type := Prog keyFs CliError α

/-! ### `atomic_write_bytes` -/

/-- Remove the temporary file, whether or not that works, and fail. -/
def discardTemp (temp : KeyPath) (message : String) : KeyFsProg Unit := do
  let _ ← perform (σ := keyFs) (KeyFsCall.removeFile temp)
  .fail (.runtime message)

/-- The file takes its place. -/
def renameTemp (temp path : KeyPath) : KeyFsProg Unit := do
  match ← perform (σ := keyFs) (KeyFsCall.rename temp path) with
  | .error err => discardTemp temp ("failed to replace " ++ path.display ++ " atomically: " ++ err)
  | .ok _ => perform (σ := keyFs) (KeyFsCall.syncDir path.parent)

def protectTemp (temp path : KeyPath) (mode : Nat) : KeyFsProg Unit := do
  match ← perform (σ := keyFs) (KeyFsCall.setPermissions temp mode) with
  | .error err =>
      discardTemp temp ("failed to set permissions on " ++ temp.display ++ ": " ++ err)
  | .ok _ => renameTemp temp path

def fillTemp (temp : KeyPath) (file : Nat) (path : KeyPath) (text : FileText) (mode : Nat) :
    KeyFsProg Unit := do
  match ← perform (σ := keyFs) (KeyFsCall.writeAll file text) with
  | .error err => discardTemp temp ("failed to write temp file " ++ temp.display ++ ": " ++ err)
  | .ok _ => protectTemp temp path mode

def createTemp (temp path : KeyPath) (text : FileText) (mode : Nat) : KeyFsProg Unit := do
  match ← perform (σ := keyFs) (KeyFsCall.createNew temp mode) with
  | .error err => .fail (.runtime ("failed to create temp file " ++ temp.display ++ ": " ++ err))
  | .ok file => fillTemp temp file path text mode

def writeBeside (path : KeyPath) (text : FileText) (mode : Nat) : KeyFsProg Unit := do
  let temp ← perform (σ := keyFs) (KeyFsCall.uniqueTempPath path)
  createTemp temp path text mode

/-- Replace a file by a new one with these contents and permissions. -/
def atomicWriteBytes (path : KeyPath) (text : FileText) (mode : Nat) : KeyFsProg Unit :=
  if path.parent = "" then writeBeside path text mode
  else do
    match ← perform (σ := keyFs) (KeyFsCall.createDirAll path.parent) with
    | .error err =>
        .fail (.runtime ("failed to create directory " ++ path.parent ++ ": " ++ err))
    | .ok _ => writeBeside path text mode

/-! ### The calls of a rotation -/

/-- Where a rotation finds its files. -/
structure KeyPaths where
  key : KeyPath
  overlap : KeyPath
  key_ne_overlap : key ≠ overlap
  overlap_ne_lock : overlap ≠ lockPath key
  /-- Neither file lies where a temporary file of the other may be created. -/
  key_ne_temp : ∀ processId nanos, key ≠ tempPathFor overlap processId nanos
  overlap_ne_temp : ∀ processId nanos, overlap ≠ tempPathFor key processId nanos

/-- `fs::read_to_string`. -/
def readFile (path : KeyPath) : KeyFsProg (Except IoError FileText) := do
  match ← perform (σ := keyFs) (KeyFsCall.openRead path) with
  | .error err => pure (.error err)
  | .ok file => do
      let text ← perform (σ := keyFs) (KeyFsCall.readToEnd file)
      pure (.ok text)

/-- `RotationLock::acquire`, where the directory of the lock file exists. -/
def createLock (lock : KeyPath) : KeyFsProg (Except IoError Unit) := do
  match ← perform (σ := keyFs) (KeyFsCall.createNew lock 0o666) with
  | .error err => pure (.error ⟨false, err⟩)
  | .ok _ => pure (.ok ())

/-- The lock is dropped. -/
def removeLock (lock : KeyPath) : KeyFsProg Unit := do
  let _ ← perform (σ := keyFs) (KeyFsCall.removeFile lock)
  pure ()

/-- How the file system carries out what a rotation asks for. -/
def carryOut (paths : KeyPaths) : (c : RotateCall) → KeyFsProg c.Answer
  | .acquireLock => createLock (lockPath paths.key)
  | .releaseLock => removeLock (lockPath paths.key)
  | .readKeyFile => readFile paths.key
  | .readOverlapFile => readFile paths.overlap
  | .generateRsa => perform (σ := keyFs) KeyFsCall.generateRsa
  | .generateMlDsa algorithm kid => perform (σ := keyFs) (KeyFsCall.generateMlDsa algorithm kid)
  | .replaceOverlapFile document =>
      (atomicWriteBytes paths.overlap (.json document.toValue) 0o644).attempt
  | .replaceKeyFile privateJwk => (atomicWriteBytes paths.key (.json privateJwk) 0o600).attempt

/-- A program of the rotations, over the file system. -/
def onDisk {Q : Type} (paths : KeyPaths) (rotate : Q → RotateProg RotationReport) :
    Q → KeyFsProg RotationReport :=
  fun args => (rotate args).expand (carryOut paths)

/-- What the processes see of the files. -/
def keyFilesOf (paths : KeyPaths) (t : KeyDir) : KeyFiles :=
  ⟨(t.find (lockPath paths.key)).isSome, t.read paths.key, t.read paths.overlap⟩

/-! ### Where a process stands -/

/-- What a process relies on between two calls into the file system. -/
inductive FileStage
  | idle
  /-- It has created this file under a temporary path. -/
  | owns (temp : KeyPath) (file : Nat) (stored : StoredFile)
  /-- It is reading this file. -/
  | opened (file : Nat) (stored : StoredFile)

namespace FileStage

/-- The file that the process may change. -/
def owned : FileStage → Option Nat
  | .owns _ file _ => some file
  | _ => none

/-- The file that the process relies on. -/
def used : FileStage → Option Nat
  | .idle => none
  | .owns _ file _ => some file
  | .opened file _ => some file

/-- Neither of two processes relies on a file that the other may change. -/
structure Apart (s u : FileStage) : Prop where
  left : ∀ file, s.owned = some file → u.used ≠ some file
  right : ∀ file, u.owned = some file → s.used ≠ some file

theorem Apart.symm {s u : FileStage} (h : Apart s u) : Apart u s := ⟨h.right, h.left⟩

theorem apart_idle (u : FileStage) : Apart .idle u where
  left _ h := by cases h
  right _ _ h := by cases h

end FileStage

section Stages

variable (paths : KeyPaths)

/-- A path that is none of those the rotations meet at. -/
def IsTemp (temp : KeyPath) : Prop :=
  temp ≠ paths.key ∧ temp ≠ paths.overlap ∧ temp ≠ lockPath paths.key

/-- What holds of the files while a process is at a stage. -/
def StageHolds : FileStage → KeyDir → Prop
  | .idle, _ => True
  | .owns temp file stored, t =>
      IsTemp paths temp ∧ t.find temp = some file ∧ t.contents file = stored
  | .opened file stored, t => file < t.next ∧ t.contents file = stored

/-- `StageMoves` for the stages of the rotations. -/
abbrev FileMoves : FileStage → KeyDir → FileStage → KeyDir → Prop :=
  StageMoves Files.Separate (StageHolds paths) FileStage.Apart

end Stages

section Moves

variable {paths : KeyPaths} {t : KeyDir} {s u : FileStage} {temp path target : KeyPath} {file : Nat}
  {stored stored' : StoredFile}

/-- The file of a process is not one of the files that all processes meet at. -/
theorem find_ne_of_owns (hinv : t.Separate) (h : StageHolds paths (.owns temp file stored) t)
    (hpath : path ≠ temp) : t.find path ≠ some file := by
  obtain ⟨-, hfind, -⟩ := h
  exact fun hpath' => hpath (hinv path temp file hpath' hfind)

/-- What a process relies on has been created. -/
theorem lt_next_of_used (h : StageHolds paths u t) (hused : u.used = some file) : file < t.next := by
  cases u with
  | idle => cases hused
  | owns temp' file' stored' =>
      cases hused
      exact t.lt_next _ _ h.2.1
  | opened file' stored' =>
      cases hused
      exact h.1

theorem moves_stay (hinv : t.Separate) (h : StageHolds paths s t) : FileMoves paths s t s t :=
  ⟨hinv, h, fun _ hu hapart => ⟨hu, hapart⟩⟩

theorem moves_idle (hinv : t.Separate) : FileMoves paths s t .idle t :=
  ⟨hinv, trivial, fun u hu _ => ⟨hu, FileStage.apart_idle u⟩⟩

/-- A file that all processes meet at is opened: nobody owns it. -/
theorem moves_open (hinv : t.Separate) (hpath : ¬ IsTemp paths path) (hfind : t.find path = some file) :
    FileMoves paths .idle t (.opened file (t.contents file)) t := by
  refine ⟨hinv, ⟨t.lt_next path file hfind, rfl⟩, fun u hu _ => ⟨hu, ?_, ?_⟩⟩
  · intro file' howned
    cases howned
  · intro file' howned hused
    cases hused
    cases u with
    | idle => cases howned
    | opened file' stored' => cases howned
    | owns temp' file' stored' =>
        cases howned
        obtain ⟨htemp, hfind', -⟩ := hu
        rw [hinv temp' path _ hfind' hfind] at htemp
        exact hpath htemp

/-- What holds at a stage still holds when nothing has happened to its file and path. -/
theorem StageHolds.of_eq {t' : KeyDir} (h : StageHolds paths u t) (hnext : t.next ≤ t'.next)
    (hfind : ∀ temp file stored, u = .owns temp file stored → t'.find temp = t.find temp)
    (hcontents : ∀ file, u.used = some file → t'.contents file = t.contents file) :
    StageHolds paths u t' := by
  cases u with
  | idle => trivial
  | owns temp file stored =>
      obtain ⟨htemp, hfind', hstored⟩ := h
      exact ⟨htemp, by rw [hfind temp file stored rfl, hfind'], by rw [hcontents file rfl, hstored]⟩
  | opened file stored =>
      obtain ⟨hlt, hstored⟩ := h
      exact ⟨Nat.lt_of_lt_of_le hlt hnext, by rw [hcontents file rfl, hstored]⟩

/-- A path that was free is not one of a process. -/
theorem ne_of_owns_of_free (h : StageHolds paths (.owns temp file stored) t)
    (hfree : t.find path = none) : temp ≠ path := by
  intro heq
  obtain ⟨-, hfind, -⟩ := h
  rw [heq, hfree] at hfind
  cases hfind

theorem holds_create (h : StageHolds paths u t) (hfree : t.find path = none) :
    StageHolds paths u (t.create path stored) := by
  refine h.of_eq (by simp) ?_ ?_
  · rintro temp file stored' rfl
    exact Files.find_create_ne (ne_of_owns_of_free h hfree)
  · intro file hused
    exact Files.contents_create_of_lt (lt_next_of_used h hused)

/-- A temporary file is created. -/
theorem moves_create (hinv : t.Separate) (htemp : IsTemp paths temp) (hfree : t.find temp = none) :
    FileMoves paths .idle t (.owns temp t.next stored) (t.create temp stored) := by
  refine ⟨hinv.create temp stored, ⟨htemp, by simp, by simp⟩, fun u hu _ => ⟨holds_create hu hfree, ?_, ?_⟩⟩
  · -- nobody uses the new file yet
    intro file hfile hused
    cases hfile
    exact absurd (lt_next_of_used hu hused) (Nat.lt_irrefl _)
  · intro file howned hfile
    cases hfile
    have hused : u.used = some t.next := by
      cases u with
      | idle => cases howned
      | opened => cases howned
      | owns => exact howned
    exact absurd (lt_next_of_used hu hused) (Nat.lt_irrefl _)

/-- The lock file is created. -/
theorem moves_lock (hinv : t.Separate) (hfree : t.find path = none) :
    FileMoves paths .idle t .idle (t.create path stored) :=
  ⟨hinv.create path stored, trivial, fun u hu _ => ⟨holds_create hu hfree, FileStage.apart_idle u⟩⟩

/-- A process changes its own file. -/
theorem moves_write (hinv : t.Separate) (h : StageHolds paths (.owns temp file stored) t) :
    FileMoves paths (.owns temp file stored) t (.owns temp file stored') (t.write file stored') := by
  obtain ⟨htemp, hfind, -⟩ := h
  refine ⟨hinv.write file stored', ⟨htemp, hfind, by simp⟩, fun u hu hapart => ⟨?_, hapart.left, hapart.right⟩⟩
  refine hu.of_eq (by simp) (fun _ _ _ _ => rfl) fun file' hused => ?_
  refine Files.contents_write_ne fun heq => ?_
  exact hapart.left file rfl (heq ▸ hused)

/-- The paths of two processes that are apart differ. -/
theorem temp_ne_of_apart {temp' : KeyPath} {file' : Nat} (h : StageHolds paths (.owns temp file stored) t)
    (h' : StageHolds paths (.owns temp' file' stored') t)
    (hapart : FileStage.Apart (.owns temp file stored) (.owns temp' file' stored')) : temp' ≠ temp := by
  intro heq
  have hfile : t.find temp' = some file := heq ▸ h.2.1
  rw [h'.2.1] at hfile
  exact hapart.left file rfl hfile

/-- The temporary file takes the place of another one. -/
theorem moves_rename (hinv : t.Separate) (h : StageHolds paths (.owns temp file stored) t)
    (htarget : ¬ IsTemp paths target) :
    FileMoves paths (.owns temp file stored) t .idle (t.rename temp target) := by
  refine ⟨hinv.rename temp target, trivial, fun u hu hapart => ⟨?_, FileStage.apart_idle u⟩⟩
  refine hu.of_eq (by simp) ?_ fun _ _ => rfl
  rintro temp' file' stored' rfl
  refine Files.find_rename_ne (temp_ne_of_apart h hu hapart) fun heq => htarget ?_
  exact heq ▸ hu.1

/-- The temporary file is removed. -/
theorem moves_discard (hinv : t.Separate) (h : StageHolds paths (.owns temp file stored) t) :
    FileMoves paths (.owns temp file stored) t .idle (t.remove temp) := by
  refine ⟨hinv.remove temp, trivial, fun u hu hapart => ⟨?_, FileStage.apart_idle u⟩⟩
  refine hu.of_eq (by simp) ?_ fun _ _ => rfl
  rintro temp' file' stored' rfl
  exact Files.find_remove_ne (temp_ne_of_apart h hu hapart)

/-- The lock file is removed. -/
theorem moves_unlock (hinv : t.Separate) (hpath : ¬ IsTemp paths path) :
    FileMoves paths .idle t .idle (t.remove path) := by
  refine ⟨hinv.remove path, trivial, fun u hu _ => ⟨?_, FileStage.apart_idle u⟩⟩
  refine hu.of_eq (by simp) ?_ fun _ _ => rfl
  rintro temp' file' stored' rfl
  exact Files.find_remove_ne fun heq => hpath (heq ▸ hu.1)

end Moves

/-! ### What the processes see -/

section Views

variable {paths : KeyPaths} {t : KeyDir} {temp path : KeyPath} {file : Nat}
  {stored stored' : StoredFile}

theorem not_isTemp_key : ¬ IsTemp paths paths.key := fun h => h.1 rfl

theorem not_isTemp_overlap : ¬ IsTemp paths paths.overlap := fun h => h.2.1 rfl

theorem not_isTemp_lock : ¬ IsTemp paths (lockPath paths.key) := fun h => h.2.2 rfl

theorem lockPath_ne_key : lockPath paths.key ≠ paths.key := by
  intro h
  have hname := congrArg (fun path => path.name.length) h
  simp [lockPath] at hname

/-- A file under a temporary path is not seen. -/
theorem keyFilesOf_create (h : IsTemp paths temp) :
    keyFilesOf paths (t.create temp stored) = keyFilesOf paths t := by
  obtain ⟨hkey, hoverlap, hlock⟩ := h
  rw [keyFilesOf, Files.find_create_ne hlock.symm, Files.read_create_ne hkey.symm,
    Files.read_create_ne hoverlap.symm, keyFilesOf]

theorem keyFilesOf_write (hinv : t.Separate) (h : StageHolds paths (.owns temp file stored) t) :
    keyFilesOf paths (t.write file stored') = keyFilesOf paths t := by
  obtain ⟨hkey, hoverlap, -⟩ := h.1
  rw [keyFilesOf, Files.find_write, Files.read_write (find_ne_of_owns hinv h hkey.symm),
    Files.read_write (find_ne_of_owns hinv h hoverlap.symm), keyFilesOf]

theorem keyFilesOf_remove (h : IsTemp paths temp) :
    keyFilesOf paths (t.remove temp) = keyFilesOf paths t := by
  obtain ⟨hkey, hoverlap, hlock⟩ := h
  rw [keyFilesOf, Files.find_remove_ne hlock.symm, Files.read_remove_ne hkey.symm,
    Files.read_remove_ne hoverlap.symm, keyFilesOf]

theorem keyFilesOf_lock :
    keyFilesOf paths (t.create (lockPath paths.key) stored) =
      { keyFilesOf paths t with locked := true } := by
  rw [keyFilesOf, Files.find_create_self, Files.read_create_ne lockPath_ne_key.symm,
    Files.read_create_ne paths.overlap_ne_lock, keyFilesOf, Option.isSome_some]

theorem keyFilesOf_unlock :
    keyFilesOf paths (t.remove (lockPath paths.key)) =
      { keyFilesOf paths t with locked := false } := by
  rw [keyFilesOf, Files.find_remove_self, Files.read_remove_ne lockPath_ne_key.symm,
    Files.read_remove_ne paths.overlap_ne_lock, keyFilesOf, Option.isSome_none]

theorem keyFilesOf_rename_key (h : StageHolds paths (.owns temp file stored) t) :
    keyFilesOf paths (t.rename temp paths.key) =
      { keyFilesOf paths t with keyFile := some stored } := by
  obtain ⟨⟨hkey, hoverlap, hlock⟩, hfind, hstored⟩ := h
  rw [keyFilesOf, Files.find_rename_ne hlock.symm lockPath_ne_key, Files.read_rename_target,
    Files.read_rename_ne hoverlap.symm paths.key_ne_overlap.symm, keyFilesOf, Files.read, hfind,
    Option.map_some, hstored]

theorem keyFilesOf_rename_overlap (h : StageHolds paths (.owns temp file stored) t) :
    keyFilesOf paths (t.rename temp paths.overlap) =
      { keyFilesOf paths t with overlapFile := some stored } := by
  obtain ⟨⟨hkey, hoverlap, hlock⟩, hfind, hstored⟩ := h
  rw [keyFilesOf, Files.find_rename_ne hlock.symm paths.overlap_ne_lock.symm,
    Files.read_rename_target, Files.read_rename_ne hkey.symm paths.key_ne_overlap, keyFilesOf,
    Files.read.eq_def t temp, hfind, Option.map_some, hstored]

theorem tempPathFor_ne_self (path : KeyPath) (processId nanos : Nat) :
    tempPathFor path processId nanos ≠ path := by
  intro h
  have hname := congrArg (fun path => path.name.toList.length) h
  simp [tempPathFor] at hname
  omega

/-- A temporary path ends in `.tmp`, the path of a lock in `.lock`. -/
theorem tempPathFor_ne_lockPath (path keyFile : KeyPath) (processId nanos : Nat) :
    tempPathFor path processId nanos ≠ lockPath keyFile := by
  intro h
  have hname := congrArg (fun path => path.name.toList.getLast?) h
  simp only [tempPathFor, lockPath, String.toList_append, List.getLast?_append] at hname
  have htemp : ".tmp".toList.getLast? = some 'p' := rfl
  have hlock : ".rotate.lock".toList.getLast? = some 'k' := rfl
  rw [htemp, hlock, Option.some_or, Option.some_or, Option.some.injEq] at hname
  exact absurd hname (by decide)

/-- The temporary files of both files lie elsewhere. -/
theorem isTemp_tempPathFor (h : path = paths.key ∨ path = paths.overlap) (processId nanos : Nat) :
    IsTemp paths (tempPathFor path processId nanos) := by
  refine ⟨?_, ?_, tempPathFor_ne_lockPath path paths.key processId nanos⟩
  · obtain rfl | rfl := h
    · exact tempPathFor_ne_self paths.key processId nanos
    · exact fun h => paths.key_ne_temp processId nanos h.symm
  · obtain rfl | rfl := h
    · exact fun h => paths.overlap_ne_temp processId nanos h.symm
    · exact tempPathFor_ne_self paths.overlap processId nanos

end Views

/-! ### One call above, one effect below -/

section Effects

variable {paths : KeyPaths}

/-- What is left of a file's replacement before it takes effect. -/
inductive Writing (paths : KeyPaths) (path : KeyPath) (text : FileText) (mode : Nat) :
    FileStage → KeyFsProg (Except CliError Unit) → Prop
  | start : Writing paths path text mode .idle (atomicWriteBytes path text mode).attempt
  | beside : Writing paths path text mode .idle (writeBeside path text mode).attempt
  | create (temp : KeyPath) (h : IsTemp paths temp) :
      Writing paths path text mode .idle (createTemp temp path text mode).attempt
  | fill (temp : KeyPath) (file umask : Nat) (created : FileText) :
      Writing paths path text mode (.owns temp file ⟨created, mode.ldiff umask⟩)
        (fillTemp temp file path text mode).attempt
  | protect (temp : KeyPath) (file created : Nat) :
      Writing paths path text mode (.owns temp file ⟨text, created⟩)
        (protectTemp temp path mode).attempt
  | rename (temp : KeyPath) (file : Nat) :
      Writing paths path text mode (.owns temp file ⟨text, mode⟩) (renameTemp temp path).attempt
  | discard (temp : KeyPath) (file : Nat) (stored : StoredFile) (message : String) :
      Writing paths path text mode (.owns temp file stored) (discardTemp temp message).attempt

/-- The file has been replaced, and its directory is yet to be synced. -/
def syncing (dir : String) : KeyFsProg (Except CliError Unit) :=
  .call (σ := keyFs) (KeyFsCall.syncDir dir) fun _ => .done (.ok ())

theorem call_of_writing {path : KeyPath} {text : FileText} {mode : Nat} {s : FileStage}
    {l : KeyFsProg (Except CliError Unit)} (h : Writing paths path text mode s l) :
    ∃ d k, l = .call (σ := keyFs) d k := by
  cases h with
  | start =>
      rw [atomicWriteBytes]
      split
      · exact ⟨_, _, rfl⟩
      · exact ⟨_, _, rfl⟩
  | beside => exact ⟨_, _, rfl⟩
  | create => exact ⟨_, _, rfl⟩
  | fill => exact ⟨_, _, rfl⟩
  | protect => exact ⟨_, _, rfl⟩
  | rename => exact ⟨_, _, rfl⟩
  | discard => exact ⟨_, _, rfl⟩

variable [Crates] [KeyCrates]

/-- **One step of a replacement.** Nothing is seen of it until the rename, which puts
the whole file in place. -/
theorem writing_step {path : KeyPath} {text : FileText} {mode : Nat} {s : FileStage}
    {d : KeyFsCall} {k : d.Answer → KeyFsProg (Except CliError Unit)} {t : KeyDir}
    (hpath : path = paths.key ∨ path = paths.overlap) (input : KeyFsInput) (hinv : t.Separate)
    (hholds : StageHolds paths s t)
    (h : Writing paths path text mode s (.call (σ := keyFs) d k)) :
    ∃ s', FileMoves paths s t s' (keyFsAnswer d input t).2 ∧
      ((keyFilesOf paths (keyFsAnswer d input t).2 = keyFilesOf paths t ∧
          (Writing paths path text mode s' (k (keyFsAnswer d input t).1) ∨
            ∃ message, k (keyFsAnswer d input t).1 = .done (.error (.runtime message)))) ∨
        ∃ temp file, StageHolds paths (.owns temp file ⟨text, mode⟩) t ∧
          (keyFsAnswer d input t).2 = t.rename temp path ∧
          k (keyFsAnswer d input t).1 = syncing path.parent) := by
  have htarget : ¬ IsTemp paths path := by
    obtain rfl | rfl := hpath
    · exact not_isTemp_key
    · exact not_isTemp_overlap
  have hbeside : (.call (σ := keyFs) d k : KeyFsProg (Except CliError Unit)) =
      (writeBeside path text mode).attempt →
      ∃ s', FileMoves paths .idle t s' (keyFsAnswer d input t).2 ∧
        keyFilesOf paths (keyFsAnswer d input t).2 = keyFilesOf paths t ∧
        Writing paths path text mode s' (k (keyFsAnswer d input t).1) := by
    intro hl
    cases hl
    exact ⟨.idle, moves_idle hinv, rfl, .create _ (isTemp_tempPathFor hpath _ _)⟩
  generalize hl : (Prog.call (σ := keyFs) d k : KeyFsProg (Except CliError Unit)) = l at h
  cases h with
  | start =>
      rw [atomicWriteBytes] at hl
      split at hl
      · obtain ⟨s', hmoves, hview, hl'⟩ := hbeside hl
        exact ⟨s', hmoves, Or.inl ⟨hview, Or.inl hl'⟩⟩
      · cases hl
        cases hfailure : input.failure with
        | some err =>
            simp only [keyFsAnswer, hfailure]
            exact ⟨.idle, moves_idle hinv, Or.inl ⟨trivial, Or.inr ⟨_, rfl⟩⟩⟩
        | none =>
            simp only [keyFsAnswer, hfailure]
            exact ⟨.idle, moves_idle hinv, Or.inl ⟨trivial, Or.inl .beside⟩⟩
  | beside =>
      obtain ⟨s', hmoves, hview, hl'⟩ := hbeside hl
      exact ⟨s', hmoves, Or.inl ⟨hview, Or.inl hl'⟩⟩
  | create temp htemp =>
      cases hl
      cases hfailure : input.failure with
      | some err =>
          simp only [keyFsAnswer, hfailure]
          exact ⟨.idle, moves_idle hinv, Or.inl ⟨trivial, Or.inr ⟨_, rfl⟩⟩⟩
      | none =>
          cases hfind : t.find temp with
          | some file =>
              simp only [keyFsAnswer, hfailure, hfind]
              exact ⟨.idle, moves_idle hinv, Or.inl ⟨trivial, Or.inr ⟨_, rfl⟩⟩⟩
          | none =>
              simp only [keyFsAnswer, hfailure, hfind]
              exact ⟨_, moves_create hinv htemp hfind,
                Or.inl ⟨keyFilesOf_create htemp, Or.inl (.fill temp t.next _ _)⟩⟩
  | fill temp file umask created =>
      cases hl
      cases hfailure : input.failure with
      | some err =>
          simp only [keyFsAnswer, hfailure]
          exact ⟨_, moves_write hinv hholds, Or.inl ⟨keyFilesOf_write hinv hholds,
            Or.inl (.discard temp file _ _)⟩⟩
      | none =>
          simp only [keyFsAnswer, hfailure]
          exact ⟨_, moves_write hinv hholds, Or.inl ⟨keyFilesOf_write hinv hholds,
            Or.inl (.protect temp file _)⟩⟩
  | protect temp file created =>
      cases hl
      obtain ⟨htemp, hfind, hstored⟩ := hholds
      cases hfailure : input.failure with
      | some err =>
          simp only [keyFsAnswer, hfailure]
          exact ⟨_, moves_stay hinv ⟨htemp, hfind, hstored⟩, Or.inl ⟨trivial,
            Or.inl (.discard temp file _ _)⟩⟩
      | none =>
          simp only [keyFsAnswer, hfailure, hfind, hstored]
          exact ⟨_, moves_write hinv ⟨htemp, hfind, hstored⟩,
            Or.inl ⟨keyFilesOf_write hinv ⟨htemp, hfind, hstored⟩, Or.inl (.rename temp file)⟩⟩
  | rename temp file =>
      cases hl
      have hfind : t.find temp = some file := hholds.2.1
      cases hfailure : input.failure with
      | some err =>
          simp only [keyFsAnswer, hfailure]
          exact ⟨_, moves_stay hinv hholds, Or.inl ⟨trivial, Or.inl (.discard temp file _ _)⟩⟩
      | none =>
          simp only [keyFsAnswer, hfailure, hfind]
          exact ⟨_, moves_rename hinv hholds htarget, Or.inr ⟨temp, file, hholds, rfl, rfl⟩⟩
  | discard temp file stored message =>
      cases hl
      have hfind : t.find temp = some file := hholds.2.1
      cases hfailure : input.failure with
      | some err =>
          simp only [keyFsAnswer, hfailure]
          exact ⟨_, moves_idle hinv, Or.inl ⟨trivial, Or.inr ⟨message, rfl⟩⟩⟩
      | none =>
          simp only [keyFsAnswer, hfailure, hfind]
          exact ⟨_, moves_discard hinv hholds,
            Or.inl ⟨keyFilesOf_remove hholds.1, Or.inr ⟨message, rfl⟩⟩⟩

/-- What is left of a call before it takes effect. -/
def CallPending (paths : KeyPaths) : (c : RotateCall) → FileStage → KeyFsProg c.Answer → Prop
  | .replaceOverlapFile document, s, l =>
      Writing paths paths.overlap (.json document.toValue) 0o644 s l
  | .replaceKeyFile privateJwk, s, l => Writing paths paths.key (.json privateJwk) 0o600 s l
  | c, s, l => s = .idle ∧ l = carryOut paths c

/-- A file has been opened, and what it holds is yet to be read. -/
def Reading (a : Except IoError FileText) (s : FileStage)
    (l : KeyFsProg (Except IoError FileText)) : Prop :=
  ∃ file stored, s = .opened file stored ∧ a = .ok stored.text ∧
    l = .call (σ := keyFs) (KeyFsCall.readToEnd file) fun text => .done (.ok text)

/-- A file has been replaced. -/
def Replaced (a : Except CliError Unit) (l : KeyFsProg (Except CliError Unit)) : Prop :=
  a = .ok () ∧ ∃ dir, l = syncing dir

/-- What is left of a call after it has taken effect. -/
def CallAnswered : (c : RotateCall) → c.Answer → FileStage → KeyFsProg c.Answer → Prop
  | .readKeyFile, a, s, l => l = .done a ∨ Reading a s l
  | .readOverlapFile, a, s, l => l = .done a ∨ Reading a s l
  | .replaceOverlapFile _, a, _, l => l = .done a ∨ Replaced a l
  | .replaceKeyFile _, a, _, l => l = .done a ∨ Replaced a l
  | _, a, _, l => l = .done a

/-- The calls that generate a key. -/
def RotateCall.Generates : RotateCall → Prop
  | .generateRsa => True
  | .generateMlDsa _ _ => True
  | _ => False

/-- The same calls, below. -/
def KeyFsCall.generates : KeyFsCall → Option RotateCall
  | .generateRsa => some .generateRsa
  | .generateMlDsa algorithm kid => some (.generateMlDsa algorithm kid)
  | _ => none

/-- A restriction of the keys that are generated, below. -/
def GeneratesBelow (paths : KeyPaths) (above : RotateCall → RotateInput → KeyFiles → Prop) :
    KeyFsCall → KeyFsInput → KeyDir → Prop :=
  fun d input t => ∀ c, d.generates = some c → above c ⟨none, input.entropy⟩ (keyFilesOf paths t)

/-- The step at which a call takes effect, as the call does above. -/
def TakesEffect (paths : KeyPaths) (above : RotateCall → RotateInput → KeyFiles → Prop)
    (c : RotateCall) (t t' : KeyDir) (s' : FileStage) (l : KeyFsProg c.Answer) : Prop :=
  ∃ i, above c i (keyFilesOf paths t) ∧
    keyFilesOf paths t' = (rotateAnswer c i (keyFilesOf paths t)).2 ∧
    CallAnswered c (rotateAnswer c i (keyFilesOf paths t)).1 s' l

section Steps

variable {above : RotateCall → RotateInput → KeyFiles → Prop} {t : KeyDir} {d : KeyFsCall}

/-- Opening a file decides what is read. -/
theorem open_step {path : KeyPath} {k : d.Answer → KeyFsProg (Except IoError FileText)}
    (hpath : ¬ IsTemp paths path) (input : KeyFsInput) (hinv : t.Separate)
    (hl : (.call (σ := keyFs) d k : KeyFsProg (Except IoError FileText)) = readFile path) :
    (keyFsAnswer d input t).2 = t ∧ ∃ s' i, FileMoves paths .idle t s' t ∧
      (k (keyFsAnswer d input t).1 = .done (readStored (t.read path) i) ∨
        Reading (readStored (t.read path) i) s' (k (keyFsAnswer d input t).1)) := by
  cases hl
  cases hfailure : input.failure with
  | some err =>
      simp only [keyFsAnswer, hfailure]
      refine ⟨trivial, .idle, ⟨some err, input.entropy⟩, moves_idle hinv, Or.inl ?_⟩
      cases t.read path <;> rfl
  | none =>
      cases hfind : t.find path with
      | none =>
          have hread : t.read path = none := by rw [Files.read, hfind, Option.map_none]
          simp only [keyFsAnswer, hfailure, hfind, hread]
          exact ⟨trivial, .idle, ⟨none, input.entropy⟩, moves_idle hinv, Or.inl rfl⟩
      | some file =>
          have hread : t.read path = some (t.contents file) := by
            rw [Files.read, hfind, Option.map_some]
          simp only [keyFsAnswer, hfailure, hfind, hread]
          exact ⟨trivial, _, ⟨none, input.entropy⟩, moves_open hinv hpath hfind,
            Or.inr ⟨file, _, rfl, rfl, rfl⟩⟩

/-- Taking the lock. -/
theorem lock_step {k : d.Answer → KeyFsProg (Except IoError Unit)} (input : KeyFsInput)
    (hinv : t.Separate)
    (hl : (.call (σ := keyFs) d k : KeyFsProg (Except IoError Unit)) =
      createLock (lockPath paths.key)) :
    ∃ i, FileMoves paths .idle t .idle (keyFsAnswer d input t).2 ∧
      keyFilesOf paths (keyFsAnswer d input t).2 =
        (rotateAnswer .acquireLock i (keyFilesOf paths t)).2 ∧
      k (keyFsAnswer d input t).1 =
        .done (rotateAnswer .acquireLock i (keyFilesOf paths t)).1 := by
  cases hl
  cases hfailure : input.failure with
  | some err =>
      simp only [keyFsAnswer, hfailure]
      exact ⟨⟨some err, input.entropy⟩, moves_idle hinv, rfl, rfl⟩
  | none =>
      refine ⟨⟨none, input.entropy⟩, ?_⟩
      cases hfind : t.find (lockPath paths.key) with
      | some file =>
          have hlocked : (keyFilesOf paths t).locked = true := by
            rw [keyFilesOf, hfind, Option.isSome_some]
          simp only [keyFsAnswer, hfailure, hfind, rotateAnswer, hlocked, if_true]
          exact ⟨moves_idle hinv, trivial, rfl⟩
      | none =>
          have hlocked : (keyFilesOf paths t).locked = false := by
            rw [keyFilesOf, hfind, Option.isSome_none]
          simp only [keyFsAnswer, hfailure, hfind, rotateAnswer, hlocked]
          exact ⟨moves_lock hinv hfind, keyFilesOf_lock, rfl⟩

/-- Giving the lock back. -/
theorem unlock_step {k : d.Answer → KeyFsProg Unit} (input : KeyFsInput) (hinv : t.Separate)
    (hl : (.call (σ := keyFs) d k : KeyFsProg Unit) = removeLock (lockPath paths.key)) :
    ∃ i, FileMoves paths .idle t .idle (keyFsAnswer d input t).2 ∧
      keyFilesOf paths (keyFsAnswer d input t).2 =
        (rotateAnswer .releaseLock i (keyFilesOf paths t)).2 ∧
      k (keyFsAnswer d input t).1 = .done () := by
  cases hl
  cases hfailure : input.failure with
  | some err =>
      simp only [keyFsAnswer, hfailure]
      exact ⟨⟨some err, input.entropy⟩, moves_idle hinv, rfl, rfl⟩
  | none =>
      refine ⟨⟨none, input.entropy⟩, ?_⟩
      cases hfind : t.find (lockPath paths.key) with
      | some file =>
          simp only [keyFsAnswer, hfailure, hfind, rotateAnswer]
          exact ⟨moves_unlock hinv not_isTemp_lock, keyFilesOf_unlock, rfl⟩
      | none =>
          simp only [keyFsAnswer, hfailure, hfind, rotateAnswer]
          refine ⟨moves_idle hinv, ?_, rfl⟩
          rw [keyFilesOf, hfind, Option.isSome_none]

/-- **One step of a call that has not taken effect.** -/
theorem callPending_step {c : RotateCall} {s : FileStage} {k : d.Answer → KeyFsProg c.Answer}
    (habove : ∀ c i s, ¬ c.Generates → above c i s) (input : KeyFsInput) (hinv : t.Separate)
    (hholds : StageHolds paths s t) (h : CallPending paths c s (.call (σ := keyFs) d k))
    (hbelow : GeneratesBelow paths above d input t) :
    ∃ s', FileMoves paths s t s' (keyFsAnswer d input t).2 ∧
      ((keyFilesOf paths (keyFsAnswer d input t).2 = keyFilesOf paths t ∧
          CallPending paths c s' (k (keyFsAnswer d input t).1)) ∨
        TakesEffect paths above c t (keyFsAnswer d input t).2 s' (k (keyFsAnswer d input t).1)) := by
  cases c with
  | acquireLock =>
      obtain ⟨rfl, hl⟩ := h
      obtain ⟨i, hmoves, hview, hk⟩ := lock_step input hinv hl
      exact ⟨.idle, hmoves, Or.inr ⟨i, habove _ _ _ id, hview, hk⟩⟩
  | releaseLock =>
      obtain ⟨rfl, hl⟩ := h
      obtain ⟨i, hmoves, hview, hk⟩ := unlock_step input hinv hl
      exact ⟨.idle, hmoves, Or.inr ⟨i, habove _ _ _ id, hview, hk⟩⟩
  | readKeyFile =>
      obtain ⟨rfl, hl⟩ := h
      obtain ⟨ht, s', i, hmoves, hk⟩ := open_step not_isTemp_key input hinv hl
      rw [ht]
      exact ⟨s', hmoves, Or.inr ⟨i, habove _ _ _ id, rfl, hk⟩⟩
  | readOverlapFile =>
      obtain ⟨rfl, hl⟩ := h
      obtain ⟨ht, s', i, hmoves, hk⟩ := open_step not_isTemp_overlap input hinv hl
      rw [ht]
      exact ⟨s', hmoves, Or.inr ⟨i, habove _ _ _ id, rfl, hk⟩⟩
  | generateRsa =>
      obtain ⟨rfl, hl⟩ := h
      cases hl
      exact ⟨.idle, moves_idle hinv, Or.inr ⟨⟨none, input.entropy⟩, hbelow _ rfl, rfl, rfl⟩⟩
  | generateMlDsa algorithm kid =>
      obtain ⟨rfl, hl⟩ := h
      cases hl
      exact ⟨.idle, moves_idle hinv, Or.inr ⟨⟨none, input.entropy⟩, hbelow _ rfl, rfl, rfl⟩⟩
  | replaceOverlapFile document =>
      obtain ⟨s', hmoves, ⟨hview, hl' | ⟨message, hk⟩⟩ | ⟨temp, file, howns, ht, hk⟩⟩ :=
        writing_step (Or.inr rfl) input hinv hholds h
      · exact ⟨s', hmoves, Or.inl ⟨hview, hl'⟩⟩
      · exact ⟨s', hmoves, Or.inr ⟨⟨some message, input.entropy⟩, habove _ _ _ id, hview,
          Or.inl hk⟩⟩
      · refine ⟨s', hmoves, Or.inr ⟨⟨none, input.entropy⟩, habove _ _ _ id, ?_,
          Or.inr ⟨rfl, _, hk⟩⟩⟩
        rw [ht]
        exact keyFilesOf_rename_overlap howns
  | replaceKeyFile privateJwk =>
      obtain ⟨s', hmoves, ⟨hview, hl' | ⟨message, hk⟩⟩ | ⟨temp, file, howns, ht, hk⟩⟩ :=
        writing_step (Or.inl rfl) input hinv hholds h
      · exact ⟨s', hmoves, Or.inl ⟨hview, hl'⟩⟩
      · exact ⟨s', hmoves, Or.inr ⟨⟨some message, input.entropy⟩, habove _ _ _ id, hview,
          Or.inl hk⟩⟩
      · refine ⟨s', hmoves, Or.inr ⟨⟨none, input.entropy⟩, habove _ _ _ id, ?_,
          Or.inr ⟨rfl, _, hk⟩⟩⟩
        rw [ht]
        exact keyFilesOf_rename_key howns

/-- What has been opened is what is read. -/
theorem reading_step {a : Except IoError FileText} {s : FileStage}
    {k : d.Answer → KeyFsProg (Except IoError FileText)} (input : KeyFsInput)
    (hholds : StageHolds paths s t) (h : Reading a s (.call (σ := keyFs) d k)) :
    (keyFsAnswer d input t).2 = t ∧ k (keyFsAnswer d input t).1 = .done a := by
  obtain ⟨file, stored, rfl, rfl, hl⟩ := h
  cases hl
  obtain ⟨-, hstored⟩ := hholds
  rw [← hstored]
  exact ⟨rfl, rfl⟩

theorem replaced_step {a : Except CliError Unit} {k : d.Answer → KeyFsProg (Except CliError Unit)}
    (input : KeyFsInput) (h : Replaced a (.call (σ := keyFs) d k)) :
    (keyFsAnswer d input t).2 = t ∧ k (keyFsAnswer d input t).1 = .done a := by
  obtain ⟨rfl, dir, hl⟩ := h
  cases hl
  exact ⟨rfl, rfl⟩

/-- **One step of a call that has taken effect.** -/
theorem callAnswered_step {c : RotateCall} {a : c.Answer} {s : FileStage}
    {k : d.Answer → KeyFsProg c.Answer} (input : KeyFsInput) (hholds : StageHolds paths s t)
    (h : CallAnswered c a s (.call (σ := keyFs) d k)) :
    (keyFsAnswer d input t).2 = t ∧ CallAnswered c a .idle (k (keyFsAnswer d input t).1) := by
  cases c with
  | acquireLock => cases h
  | releaseLock => cases h
  | generateRsa => cases h
  | generateMlDsa => cases h
  | readKeyFile =>
      obtain hdone | hreading := h
      · cases hdone
      · obtain ⟨ht, hk⟩ := reading_step input hholds hreading
        exact ⟨ht, Or.inl hk⟩
  | readOverlapFile =>
      obtain hdone | hreading := h
      · cases hdone
      · obtain ⟨ht, hk⟩ := reading_step input hholds hreading
        exact ⟨ht, Or.inl hk⟩
  | replaceOverlapFile =>
      obtain hdone | hreplaced := h
      · cases hdone
      · obtain ⟨ht, hk⟩ := replaced_step input hreplaced
        exact ⟨ht, Or.inl hk⟩
  | replaceKeyFile =>
      obtain hdone | hreplaced := h
      · cases hdone
      · obtain ⟨ht, hk⟩ := replaced_step input hreplaced
        exact ⟨ht, Or.inl hk⟩

end Steps

omit [Crates] [KeyCrates] in
theorem call_of_callPending {c : RotateCall} {s : FileStage} {l : KeyFsProg c.Answer}
    (h : CallPending paths c s l) : ∃ d k, l = .call (σ := keyFs) d k := by
  cases c with
  | acquireLock => exact ⟨_, _, h.2⟩
  | releaseLock => exact ⟨_, _, h.2⟩
  | readKeyFile => exact ⟨_, _, h.2⟩
  | readOverlapFile => exact ⟨_, _, h.2⟩
  | generateRsa => exact ⟨_, _, h.2⟩
  | generateMlDsa => exact ⟨_, _, h.2⟩
  | replaceOverlapFile => exact call_of_writing h
  | replaceKeyFile => exact call_of_writing h

omit [Crates] [KeyCrates] in
theorem leaf_of_callAnswered {c : RotateCall} {a : c.Answer} {s : FileStage}
    {l : KeyFsProg c.Answer} (h : CallAnswered c a s l) :
    l = .done a ∨ ∃ d k, l = .call (σ := keyFs) d k := by
  cases c with
  | acquireLock => exact Or.inl h
  | releaseLock => exact Or.inl h
  | generateRsa => exact Or.inl h
  | generateMlDsa => exact Or.inl h
  | readKeyFile =>
      obtain hdone | hreading := h
      · exact Or.inl hdone
      · obtain ⟨_, _, _, _, hl⟩ := hreading
        exact Or.inr ⟨_, _, hl⟩
  | readOverlapFile =>
      obtain hdone | hreading := h
      · exact Or.inl hdone
      · obtain ⟨_, _, _, _, hl⟩ := hreading
        exact Or.inr ⟨_, _, hl⟩
  | replaceOverlapFile =>
      obtain hdone | hreplaced := h
      · exact Or.inl hdone
      · obtain ⟨_, _, hl⟩ := hreplaced
        exact Or.inr ⟨_, _, hl⟩
  | replaceKeyFile =>
      obtain hdone | hreplaced := h
      · exact Or.inl hdone
      · obtain ⟨_, _, hl⟩ := hreplaced
        exact Or.inr ⟨_, _, hl⟩

omit [Crates] [KeyCrates] in
variable (paths) in
theorem callPending_start (c : RotateCall) : CallPending paths c .idle (carryOut paths c) := by
  cases c with
  | replaceOverlapFile => exact .start
  | replaceKeyFile => exact .start
  | _ => exact ⟨rfl, rfl⟩

/-- The file system carries out what a rotation asks for. Calls that generate no key are
not restricted. -/
def linearizes (paths : KeyPaths) (above : RotateCall → RotateInput → KeyFiles → Prop)
    (habove : ∀ c i s, ¬ c.Generates → above c i s) :
    Linearizes keyStore keyFileSystem (carryOut paths) above (GeneratesBelow paths above) where
  view := keyFilesOf paths
  Inv := Files.Separate
  Stage := FileStage
  idle := .idle
  Holds := StageHolds paths
  Apart := FileStage.Apart
  holds_idle _ := trivial
  apart_idle := FileStage.apart_idle
  apart_symm h := h.symm
  Pending := CallPending paths
  Answered := CallAnswered
  pending_start := callPending_start paths
  call_of_pending := call_of_callPending
  leaf_of_answered := leaf_of_callAnswered
  pending_step input hinv hholds h hbelow := callPending_step habove input hinv hholds h hbelow
  answered_step input hinv hholds h _ := by
    obtain ⟨ht, hl⟩ := callAnswered_step input hholds h
    refine ⟨.idle, ?_, congrArg (keyFilesOf paths) ht, hl⟩
    show FileMoves paths _ _ .idle (keyFsAnswer _ input _).2
    rw [ht]
    exact moves_idle hinv

end Effects

end StsDelegate
