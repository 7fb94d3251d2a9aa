import StsDelegate.Crates
import StsDelegate.ReplaySpec
import StsDelegate.Lib.Decimal
import StsDelegate.Lib.Directory
import StsDelegate.Lib.Pool

/-!
# The file-backed replay store

`FileReplayStore` of `sts-replay`: any number of processes share a directory with
one file for each recorded key, named by a digest of the key and holding the
expiry. A call of `check_and_record` is a program over the file system: it sweeps
expired files now and then, counts the files, sweeps again when there is no room,
removes the file of its own key if that is expired, and creates it anew.

Each call into the file system is atomic, and calls of different processes are
interleaved in any order; reading a file is two calls, opening it and reading what
it holds then. The environment decides for every call whether it fails, and of a
failing write how much of the text reaches the disk. The mutex of the sweep counter
is not modelled: calls of one process may overlap in a sweep, which only adds
interleavings.
-/

namespace StsDelegate

open Text Effectful Prog

/-! ### The file system -/

/-- The kinds of I/O errors that are told apart. -/
inductive IoErrorKind
  | notFound
  | alreadyExists
  | other

/-- What a file-backed store asks of its surroundings. -/
inductive FsCall
  /-- Count a call of the store value `store`, and say how many there are. -/
  | countCall (store : Nat)
  | resetCalls (store : Nat)
  /-- `fs::read_dir`. -/
  | readDir
  /-- The next entry of a directory that is being read. -/
  | nextEntry
  /-- `Path::is_file`. -/
  | isFile (name : String)
  /-- Count the files in the directory. -/
  | countFiles
  /-- `OpenOptions::new().read(true).open`. -/
  | openRead (name : String)
  | readToString (file : Nat)
  | removeFile (name : String)
  /-- `OpenOptions::new().write(true).create_new(true).open`. -/
  | createNew (name : String)
  | write (file : Nat) (text : String)

def FsCall.Answer : FsCall → Type
  | .countCall _ => Nat
  | .resetCalls _ => Unit
  | .readDir => Except IoErrorKind (List String)
  | .nextEntry => Except IoErrorKind Unit
  | .isFile _ => Bool
  | .countFiles => Except IoErrorKind Nat
  | .openRead _ => Except IoErrorKind Nat
  | .readToString _ => Except IoErrorKind String
  | .removeFile _ => Except IoErrorKind Unit
  | .createNew _ => Except IoErrorKind Nat
  | .write _ _ => Except IoErrorKind Unit

/-- The calls of the file-backed store with their answers. -/
def fs : Signature := ⟨FsCall, FsCall.Answer⟩

/-- What happens at a call: does it fail, and how much does a failing write get to
the disk? -/
structure Io where
  fails : Bool
  written : Nat

/-- The shared directory, and for every store value the calls since its last sweep. -/
structure SharedDir where
  dir : Directory
  callsSinceSweep : Nat → Nat

/-- A directory without files. -/
def SharedDir.empty : SharedDir := ⟨.empty, fun _ => 0⟩

/-- The file system answers a call. -/
def fsAnswer (c : FsCall) (io : Io) (s : SharedDir) : c.Answer × SharedDir :=
  match c with
  | .countCall store =>
      (s.callsSinceSweep store + 1,
        { s with callsSinceSweep :=
          Function.update s.callsSinceSweep store (s.callsSinceSweep store + 1) })
  | .resetCalls store =>
      ((), { s with callsSinceSweep := Function.update s.callsSinceSweep store 0 })
  | .readDir => if io.fails then (.error .other, s) else (.ok s.dir.names, s)
  | .nextEntry => if io.fails then (.error .other, s) else (.ok (), s)
  | .isFile name => if io.fails then (false, s) else ((s.dir.find name).isSome, s)
  | .countFiles => if io.fails then (.error .other, s) else (.ok s.dir.size, s)
  | .openRead name =>
      if io.fails then (.error .other, s)
      else match s.dir.find name with
        | some file => (.ok file, s)
        | none => (.error .notFound, s)
  | .readToString file =>
      if io.fails then (.error .other, s) else (.ok (s.dir.contents file), s)
  | .removeFile name =>
      if io.fails then (.error .other, s)
      else match s.dir.find name with
        | some _ => (.ok (), { s with dir := s.dir.remove name })
        | none => (.error .notFound, s)
  | .createNew name =>
      if io.fails then (.error .other, s)
      else match s.dir.find name with
        | some _ => (.error .alreadyExists, s)
        | none => (.ok s.dir.next, { s with dir := s.dir.create name })
  | .write file text =>
      if io.fails then
        (.error .other,
          { s with dir := s.dir.write file (String.ofList (text.toList.take io.written)) })
      else (.ok (), { s with dir := s.dir.write file text })

def fileSystem : Machine fs SharedDir Io := ⟨fsAnswer⟩

/-! ### The store -/

/-- A store value: its own counter, and its limits. The directory is shared. -/
structure FileReplayStore where
  id : Nat
  maxSeen : Nat
  sweepEvery : Nat
  sweepEvery_pos : 1 ≤ sweepEvery

def FileReplayStore.new (id maxSeen sweepEvery : Nat) : FileReplayStore :=
  ⟨id, maxSeen, max sweepEvery 1, one_le_max sweepEvery⟩

def replayStoreUnavailable : ReplayError := ⟨.storeFull, "replay store unavailable, retry shortly"⟩

/-- The name of the file that records a key. -/
def replayFilename [Crates] (jti : String) : String :=
  hexLower (Crates.sha256 (asBytes "sts-replay-file-v1" ++ [0] ++ asBytes jti)) ++ ".jti"

/-- What is written to the file of a key that expires then. -/
def expLine (exp : Int64) : String := Decimal.displayI64 exp ++ "\n"

/-- The expiry a file's contents stand for. -/
def parseExp (content : String) : Option Int64 := Decimal.parseI64 (trim content)

/-- The line that is written is read back. -/
theorem parseExp_expLine (exp : Int64) : parseExp (expLine exp) = some exp := by
  rw [parseExp, expLine, Decimal.trim_displayI64_line, Decimal.parseI64_displayI64]

theorem parseExp_empty : parseExp "" = none := by decide

abbrev FsProg (α : Type) : Type := Prog fs ReplayError α

def countCall (store : Nat) : FsProg Nat := perform (σ := fs) (FsCall.countCall store)

def resetCalls (store : Nat) : FsProg Unit := perform (σ := fs) (FsCall.resetCalls store)

def readDir : FsProg (Except IoErrorKind (List String)) := perform (σ := fs) FsCall.readDir

def nextEntry : FsProg (Except IoErrorKind Unit) := perform (σ := fs) FsCall.nextEntry

def isFile (path : String) : FsProg Bool := perform (σ := fs) (FsCall.isFile path)

def countFiles : FsProg (Except IoErrorKind Nat) := perform (σ := fs) FsCall.countFiles

def openRead (path : String) : FsProg (Except IoErrorKind Nat) :=
  perform (σ := fs) (FsCall.openRead path)

def readToString (file : Nat) : FsProg (Except IoErrorKind String) :=
  perform (σ := fs) (FsCall.readToString file)

def removeFile (path : String) : FsProg (Except IoErrorKind Unit) :=
  perform (σ := fs) (FsCall.removeFile path)

def createNew (path : String) : FsProg (Except IoErrorKind Nat) :=
  perform (σ := fs) (FsCall.createNew path)

def write (file : Nat) (text : String) : FsProg (Except IoErrorKind Unit) :=
  perform (σ := fs) (FsCall.write file text)

/-- An I/O error makes the store unavailable. -/
def orUnavailable {α : Type} : Except IoErrorKind α → FsProg α
  | .ok a => .done a
  | .error _ => .fail replayStoreUnavailable

def readExp (path : String) : FsProg (Option Int64) := do
  match ← openRead path with
  | .error _ => pure none
  | .ok file =>
      match ← readToString file with
      | .error _ => pure none
      | .ok content => pure (parseExp content)

def removeReplayFile (path : String) : FsProg Unit := do
  match ← removeFile path with
  | .ok _ => pure ()
  | .error .notFound => pure ()
  | .error _ => .fail replayStoreUnavailable

/-- Remove the file if it has expired. -/
def removeIfExpired (path : String) (now : Int64) : FsProg Unit := do
  let stored ← readExp path
  if stored.any (· < now) then removeReplayFile path else pure ()

/-- Look at one entry of a directory that was read. -/
def sweepEntry (now : Int64) (path : String) : FsProg Unit := do
  let entry ← nextEntry
  orUnavailable entry
  let regular ← isFile path
  if regular then removeIfExpired path now else pure ()

/-- Go through the entries of a directory that was read. -/
def sweepEntries (now : Int64) : List String → FsProg Unit
  | [] => pure ()
  | path :: rest => do
      sweepEntry now path
      sweepEntries now rest

def sweepExpired (now : Int64) : FsProg Unit := do
  let entries ← readDir
  let names ← orUnavailable entries
  sweepEntries now names

def activeEntryCount : FsProg Nat := do
  let count ← countFiles
  orUnavailable count

/-- Create the file of a key, and write its expiry. -/
def createEntry (path : String) (exp : Int64) : FsProg Unit := do
  match ← createNew path with
  | .ok file => do
      let written ← write file (expLine exp)
      orUnavailable written
  | .error .alreadyExists => .fail ⟨.replayDetected, "actor_token replay detected"⟩
  | .error _ => .fail replayStoreUnavailable

namespace FileReplayStore

def maybeSweep (store : FileReplayStore) (now : Int64) : FsProg Unit := do
  let calls ← countCall store.id
  if store.sweepEvery ≤ calls then do
    sweepExpired now
    resetCalls store.id
  else pure ()

/-- Sweep when there is no room. -/
def sweepIfFull (store : FileReplayStore) (now : Int64) : FsProg Unit := do
  let count ← activeEntryCount
  if store.maxSeen ≤ count then sweepExpired now else pure ()

/-- Refuse a key when there is still no room. -/
def ensureRoom (store : FileReplayStore) : FsProg Unit := do
  let count ← activeEntryCount
  if store.maxSeen ≤ count then .fail ⟨.storeFull, "replay store full, retry shortly"⟩
  else pure ()

/-- Record the key, unless it is recorded. -/
def recordEntry [Crates] (c : RecordCall) : FsProg Unit := do
  removeIfExpired (replayFilename c.jti) c.now
  createEntry (replayFilename c.jti) c.exp

/-- Refuse a replayed key, else record it. -/
def checkAndRecord [Crates] (store : FileReplayStore) (c : RecordCall) : FsProg Unit :=
  if isBlank c.jti then .fail ⟨.invalidRequest, "jti must not be empty"⟩
  else do
    store.maybeSweep c.now
    store.sweepIfFull c.now
    store.ensureRoom
    recordEntry c

end FileReplayStore

/-! ### The stages of a call -/

/-- Calls into the file system that neither create nor write a file. -/
def FsCall.Quiet : FsCall → Prop
  | .createNew _ => False
  | .write _ _ => False
  | _ => True

theorem only_orUnavailable {α : Type} {P : FsCall → Prop} (r : Except IoErrorKind α) :
    Only P (orUnavailable r) := by
  cases r with
  | ok a => exact only_done
  | error e => exact only_fail

theorem only_readExp {P : FsCall → Prop} (path : String) (hopen : P (.openRead path))
    (hread : ∀ file, P (.readToString file)) : Only P (readExp path) := by
  refine only_bind (only_perform hopen) fun opened => ?_
  cases opened with
  | error e => exact only_done
  | ok file =>
      refine only_bind (only_perform (hread file)) fun content => ?_
      cases content with
      | error e => exact only_done
      | ok content => exact only_done

theorem only_removeReplayFile {P : FsCall → Prop} (path : String) (hremove : P (.removeFile path)) :
    Only P (removeReplayFile path) := by
  refine only_bind (only_perform hremove) fun removed => ?_
  rcases removed with (_ | _ | _) | _
  · exact only_done
  · exact only_fail
  · exact only_fail
  · exact only_done

theorem only_removeIfExpired {P : FsCall → Prop} (path : String) (now : Int64)
    (hopen : P (.openRead path)) (hread : ∀ file, P (.readToString file))
    (hremove : P (.removeFile path)) : Only P (removeIfExpired path now) := by
  refine only_bind (only_readExp path hopen hread) fun stored => ?_
  split
  · exact only_removeReplayFile path hremove
  · exact only_done

/-- A sweep reads and removes files, and does nothing else. -/
def FsCall.Sweeps : FsCall → Prop
  | .readDir | .nextEntry | .isFile _ | .openRead _ | .readToString _ | .removeFile _ => True
  | _ => False

theorem only_sweepEntry (now : Int64) (path : String) :
    Only FsCall.Sweeps (sweepEntry now path) := by
  refine only_bind (only_perform trivial) fun entry => ?_
  refine only_bind (only_orUnavailable entry) fun _ => ?_
  refine only_bind (only_perform trivial) fun regular => ?_
  split
  · exact only_removeIfExpired path now trivial (fun _ => trivial) trivial
  · exact only_done

theorem only_sweepEntries (now : Int64) (names : List String) :
    Only FsCall.Sweeps (sweepEntries now names) := by
  induction names with
  | nil => exact only_done
  | cons path rest ih => exact only_bind (only_sweepEntry now path) fun _ => ih

theorem only_sweepExpired (now : Int64) : Only FsCall.Sweeps (sweepExpired now) := by
  refine only_bind (only_perform trivial) fun entries => ?_
  refine only_bind (only_orUnavailable entries) fun names => ?_
  exact only_sweepEntries now names

theorem FsCall.Sweeps.quiet {c : FsCall} (h : c.Sweeps) : c.Quiet := by
  cases c <;> trivial

namespace FileReplayStore

variable {store : FileReplayStore} {now : Int64}

theorem only_maybeSweep : Only FsCall.Quiet (store.maybeSweep now) := by
  refine only_bind (only_perform trivial) fun calls => ?_
  split
  · exact only_bind (fun t c hc => (only_sweepExpired now t c hc).quiet)
      fun _ => only_perform trivial
  · exact only_done

theorem only_activeEntryCount : Only FsCall.Quiet activeEntryCount :=
  only_bind (only_perform trivial) fun count => only_orUnavailable count

theorem only_sweepIfFull : Only FsCall.Quiet (store.sweepIfFull now) := by
  refine only_bind only_activeEntryCount fun count => ?_
  split
  · exact fun t c hc => (only_sweepExpired now t c hc).quiet
  · exact only_done

theorem only_ensureRoom : Only FsCall.Quiet store.ensureRoom := by
  refine only_bind only_activeEntryCount fun count => ?_
  split
  · exact only_fail
  · exact only_done

/-- Everything before the file is created. -/
def prepare [Crates] (store : FileReplayStore) (c : RecordCall) : FsProg Unit := do
  store.maybeSweep c.now
  store.sweepIfFull c.now
  store.ensureRoom
  removeIfExpired (replayFilename c.jti) c.now

theorem only_prepare [Crates] (store : FileReplayStore) (c : RecordCall) :
    Only FsCall.Quiet (store.prepare c) :=
  only_bind only_maybeSweep fun _ => only_bind only_sweepIfFull fun _ =>
    only_bind only_ensureRoom fun _ =>
      only_removeIfExpired _ c.now trivial (fun _ => trivial) trivial

theorem checkAndRecord_eq [Crates] (store : FileReplayStore) (c : RecordCall) :
    store.checkAndRecord c =
      if isBlank c.jti then .fail ⟨.invalidRequest, "jti must not be empty"⟩
      else store.prepare c >>= fun _ => createEntry (replayFilename c.jti) c.exp := by
  simp only [checkAndRecord, prepare, recordEntry, bind_assoc]

end FileReplayStore

/-- What follows the attempt to create the file. -/
def afterCreate (exp : Int64) : Except IoErrorKind Nat → FsProg Unit
  | .ok file => .call (FsCall.write file (expLine exp)) fun written => orUnavailable written
  | .error .alreadyExists => .fail ⟨.replayDetected, "actor_token replay detected"⟩
  | .error _ => .fail replayStoreUnavailable

theorem createEntry_eq (path : String) (exp : Int64) :
    createEntry path exp = .call (FsCall.createNew path) (afterCreate exp) := by
  refine congrArg (Prog.call (σ := fs) (FsCall.createNew path)) (funext fun created => ?_)
  rcases created with (_ | _ | _) | _
  · rfl
  · rfl
  · rfl
  · rfl

/-- How far a call has come: it has not created its file yet, it was refused the
file, it has created the file and is about to write, or it has written. -/
inductive Stage [Crates] (c : RecordCall) : List (Event fs) → FsProg Unit → Prop
  | before {t : List (Event fs)} {p : FsProg Unit} (quiet : ∀ ev ∈ t, FsCall.Quiet ev.1)
      (running : ∀ a, p ≠ .done a)
      (next : ∀ (call : FsCall) k, p = .call call k →
        call.Quiet ∨ p = .call (FsCall.createNew (replayFilename c.jti)) (afterCreate c.exp)) :
      Stage c t p
  | refused {t : List (Event fs)} {kind : IoErrorKind} {err : ReplayError}
      (quiet : ∀ ev ∈ t, FsCall.Quiet ev.1) :
      Stage c (t ++ [⟨FsCall.createNew (replayFilename c.jti), .error kind⟩]) (.fail err)
  | created {t : List (Event fs)} {file : Nat} (quiet : ∀ ev ∈ t, FsCall.Quiet ev.1) :
      Stage c (t ++ [⟨FsCall.createNew (replayFilename c.jti), .ok file⟩])
        (.call (FsCall.write file (expLine c.exp)) fun written => orUnavailable written)
  | written {t : List (Event fs)} {file : Nat} {r : Except IoErrorKind Unit}
      (quiet : ∀ ev ∈ t, FsCall.Quiet ev.1) :
      Stage c (t ++ [⟨FsCall.createNew (replayFilename c.jti), .ok file⟩,
        ⟨FsCall.write file (expLine c.exp), r⟩]) (orUnavailable r)

/-- A call is always at one of these stages. -/
theorem stage_of_steps [Crates] {store : FileReplayStore} {c : RecordCall} {t : List (Event fs)}
    {p : FsProg Unit} (h : Steps (store.checkAndRecord c) t p) : Stage c t p := by
  rw [FileReplayStore.checkAndRecord_eq] at h
  split at h
  · obtain ⟨rfl, rfl⟩ := steps_fail.mp h
    exact .before (by simp) (fun a => by simp) fun call k heq => by cases heq
  · have honly := FileReplayStore.only_prepare store c
    rcases steps_bind.mp h with ⟨p', hp', rfl⟩ | ⟨_, t₁, t₂, rfl, hp, hcreate⟩
    · -- the call is still preparing
      have hquiet := honly.of_mem hp'
      cases p' with
      | done a =>
          refine .before hquiet (fun a => ?_) fun call k _ => Or.inr (createEntry_eq _ _)
          rw [done_bind, createEntry_eq]
          simp
      | fail e =>
          exact .before hquiet (fun a => by simp) fun call k heq => by
            rw [fail_bind] at heq
            cases heq
      | call call k =>
          refine .before hquiet (fun a => by simp) fun call' k' heq => ?_
          rw [call_bind] at heq
          injection heq with hcall
          exact Or.inl (hcall ▸ honly t call ⟨k, hp'⟩)
    · have hquiet := honly.of_mem hp
      rw [createEntry_eq] at hcreate
      cases hcreate with
      | refl =>
          rw [List.append_nil]
          exact .before hquiet (fun a => by simp) fun call k _ => Or.inr rfl
      | @call _ _ created t' _ hafter =>
          rcases created with kind | file
          · have hfail : ∃ err, afterCreate c.exp (.error kind) = .fail err := by
              cases kind <;> exact ⟨_, rfl⟩
            obtain ⟨err, herr⟩ := hfail
            rw [herr] at hafter
            obtain ⟨rfl, rfl⟩ := steps_fail.mp hafter
            exact .refused hquiet
          · rw [afterCreate] at hafter
            cases hafter with
            | refl => exact .created hquiet
            | @call _ _ r t'' _ hend =>
                have hleaf : t'' = [] ∧ p = orUnavailable r := by
                  cases r with
                  | ok _ => exact steps_done.mp hend
                  | error kind => exact steps_fail.mp hend
                obtain ⟨rfl, rfl⟩ := hleaf
                exact .written hquiet

/-! ### Processes -/

/-- A call that some process makes on its store value. -/
structure FileCall where
  store : FileReplayStore
  call : RecordCall

/-- The program of a call. -/
def FileCall.prog [Crates] (q : FileCall) : FsProg Unit := q.store.checkAndRecord q.call

/-- Processes in the middle of their calls. -/
abbrev FilePool : Type := Pool fs ReplayError Unit SharedDir FileCall

/-- A run of calls from a given directory. -/
def FilePool.run [Crates] (s : SharedDir) (moves : List (Move FileCall Io)) : Option FilePool :=
  Pool.exec fileSystem FileCall.prog (Pool.initial s) moves

end StsDelegate
