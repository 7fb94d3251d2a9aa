import StsDelegate.RotateDiskQuiet
import StsDelegate.RotateRuns

/-!
# Rotations that run at the same time, over the file system

What the rotations do in any interleaving of their calls into the file system, with any
failures and with processes that stop anywhere.

* `disk_runs_refine`: it is what they do when a file is replaced, or read, in one step.
* `files_always_whole`: nobody ever finds a file that is written in part.
* `published_keys_stay_on_disk`: RSA rotations lose no key that a server has published.
* `private_keys_stay_private`: no file with a private key, temporary files and those that
  a process has left behind included, is ever open to others.
-/

namespace StsDelegate

open Text Fallible Effectful Prog

section Runs

variable [Crates] [KeyCrates] {Q : Type} {paths : KeyPaths} {rotate : Q → RotateProg RotationReport}

/-- Processes that call into the file system. -/
abbrev KeyFsPool (Q : Type) : Type := Pool keyFs CliError RotationReport KeyDir Q

/-- Every run over the file system is one in which each call is a single step. -/
theorem exec_disk {above : RotateCall → RotateInput → KeyFiles → Prop}
    (habove : ∀ c i s, ¬ c.Generates → above c i s) {w w' : KeyFsPool Q}
    {v : Pool rotation CliError RotationReport KeyFiles Q}
    {stages : Nat → (linearizes paths above habove).Stage} {ms : List (Move Q KeyFsInput)}
    (h : (linearizes paths above habove).Simulates w v stages)
    (hok : Pool.Along keyFileSystem (onDisk paths rotate)
      (Pool.StepOk (Guarded (GeneratesBelow paths above))) w ms)
    (hrun : w.exec keyFileSystem (onDisk paths rotate) ms = some w') :
    ∃ ms' v' stages', v.exec keyStore rotate ms' = some v' ∧
      Pool.Along keyStore rotate (Pool.StepOk (Guarded above)) v ms' ∧
      (linearizes paths above habove).Simulates w' v' stages' :=
  h.exec hok hrun

/-- What every step meets is met along every run. -/
theorem along_unrestricted {w : KeyFsPool Q} {ms : List (Move Q KeyFsInput)} :
    Pool.Along keyFileSystem (onDisk paths rotate)
      (Pool.StepOk (Guarded (GeneratesBelow paths fun _ _ _ => True))) w ms :=
  Pool.along_of_prefix fun _ _ _ _ _ _ _ _ _ _ _ _ _ _ _ _ => trivial

/-- **Replacing and reading a file are as good as one step.** Whatever any number of
rotations do in whatever interleaving of their calls into the file system, with failures
and with processes that stop anywhere: there is a run of the same rotations in which each
file is replaced, and read, in one call, that leaves the same lock and the same two
files, and in which every process that has ended has ended in the same way. -/
theorem disk_runs_refine {t : KeyDir} (hinv : t.Separate) {ms : List (Move Q KeyFsInput)}
    {w : KeyFsPool Q}
    (hrun : (Pool.initial t).exec keyFileSystem (onDisk paths rotate) ms = some w) :
    ∃ ms' v, (Pool.initial (keyFilesOf paths t)).exec keyStore rotate ms' = some v ∧
      v.state = keyFilesOf paths w.state ∧ v.threads.length = w.threads.length ∧
      ∀ (i : Nat) (args : Q) (r : Except CliError RotationReport),
        w.threads[i]? = some (args, ofExcept r) → v.threads[i]? = some (args, ofExcept r) := by
  obtain ⟨ms', v, stages, hexec, -, hsim⟩ :=
    exec_disk (fun _ _ _ _ => trivial)
      (Linearizes.simulates_initial (L := linearizes paths (fun _ _ _ => True) _) hinv)
      along_unrestricted hrun
  exact ⟨ms', v, hexec, hsim.state, hsim.length, fun i args r hi => hsim.ended hi⟩

/-! ### Whole files -/

/-- The files are those of the start, or whole files that a rotation has written. -/
structure WholeFiles (files s : KeyFiles) : Prop where
  key : s.keyFile = files.keyFile ∨ ∃ privateJwk, s.keyFile = some ⟨.json privateJwk, 0o600⟩
  overlap : s.overlapFile = files.overlapFile ∨
    ∃ document : JwksDocument, s.overlapFile = some ⟨.json document.toValue, 0o644⟩

/-- One call of a rotation leaves whole files. -/
theorem WholeFiles.answer {files s : KeyFiles} (h : WholeFiles files s) (c : RotateCall)
    (input : RotateInput) : WholeFiles files (rotateAnswer c input s).2 := by
  cases c with
  | acquireLock =>
      simp only [rotateAnswer]
      split
      · exact h
      · split
        · exact h
        · exact ⟨h.key, h.overlap⟩
  | releaseLock =>
      simp only [rotateAnswer]
      split
      · exact h
      · exact ⟨h.key, h.overlap⟩
  | readKeyFile => exact h
  | readOverlapFile => exact h
  | generateRsa => exact h
  | generateMlDsa => exact h
  | replaceOverlapFile document =>
      simp only [rotateAnswer]
      split
      · exact h
      · exact ⟨h.key, Or.inr ⟨document, rfl⟩⟩
  | replaceKeyFile privateJwk =>
      simp only [rotateAnswer]
      split
      · exact h
      · exact ⟨Or.inr ⟨privateJwk, rfl⟩, h.overlap⟩

/-- **Nobody finds a file that is written in part.** At every moment of every run, the key
file and the overlap file are as they were at the start, or are complete documents with
the permissions that belong to them. -/
theorem files_always_whole {t : KeyDir} (hinv : t.Separate) {ms : List (Move Q KeyFsInput)}
    {w : KeyFsPool Q}
    (hrun : (Pool.initial t).exec keyFileSystem (onDisk paths rotate) ms = some w) :
    (w.state.read paths.key = t.read paths.key ∨
      ∃ privateJwk, w.state.read paths.key = some ⟨.json privateJwk, 0o600⟩) ∧
    (w.state.read paths.overlap = t.read paths.overlap ∨
      ∃ document : JwksDocument,
        w.state.read paths.overlap = some ⟨.json document.toValue, 0o644⟩) := by
  obtain ⟨ms', v, stages, hexec, -, hsim⟩ :=
    exec_disk (fun _ _ _ _ => trivial)
      (Linearizes.simulates_initial (L := linearizes paths (fun _ _ _ => True) _) hinv)
      along_unrestricted hrun
  have hwhole : WholeFiles (keyFilesOf paths t) v.state := by
    refine Pool.exec_invariant (C := fun _ _ => True)
      (P := fun v => WholeFiles (keyFilesOf paths t) v.state) ?_
      ⟨Or.inl rfl, Or.inl rfl⟩ Pool.along_true hexec
    intro v m v' hv _ hmove
    obtain ⟨q, rfl, rfl⟩ | ⟨i, input, q, c, k, rfl, -, rfl⟩ := Pool.move_cases hmove
    · exact hv
    · exact hv.answer c input
  rw [hsim.state] at hwhole
  exact ⟨hwhole.key, hwhole.overlap⟩

/-! ### Published keys -/

theorem freshRsaKey_of_not_generates (c : RotateCall) (input : RotateInput) (s : KeyFiles)
    (h : ¬ c.Generates) : FreshRsaKey c input s := by
  rintro rfl
  exact absurd trivial h

/-- **Published keys stay published**, over the file system: a key that a server would
publish when it is started on the files at some moment is published, under its id, by a
server that is started at any later moment. -/
theorem published_keys_stay_on_disk (laws : LawfulRsa) (config : KeyFileConfig) {t : KeyDir}
    (hinv : t.Separate) {before after : List (Move RotateArgs KeyFsInput)}
    {w w' : KeyFsPool RotateArgs} {jwks : JwksDocument}
    (hfresh : Pool.Along keyFileSystem (onDisk paths rotateSigningKey)
      (Pool.StepOk (Guarded (GeneratesBelow paths FreshRsaKey))) (Pool.initial t)
      (before ++ after))
    (hbefore : (Pool.initial t).exec keyFileSystem (onDisk paths rotateSigningKey) before = some w)
    (hafter : w.exec keyFileSystem (onDisk paths rotateSigningKey) after = some w')
    (hjwks : (keyFilesOf paths w.state).published config = some jwks) :
    ∃ jwks', (keyFilesOf paths w'.state).published config = some jwks' ∧
      KeepsKeys jwks.keys jwks'.keys := by
  obtain ⟨hfreshBefore, hfreshAfter⟩ := (Pool.along_append hbefore).mp hfresh
  obtain ⟨ms, v, stages, hexec, halong, hsim⟩ :=
    exec_disk freshRsaKey_of_not_generates
      (Linearizes.simulates_initial (L := linearizes paths FreshRsaKey _) hinv) hfreshBefore hbefore
  obtain ⟨ms', v', stages', hexec', halong', hsim'⟩ :=
    exec_disk freshRsaKey_of_not_generates hsim hfreshAfter hafter
  obtain ⟨⟨holder, htaken⟩, -⟩ :=
    (Turns.taken_initial (signingKeyTurns laws config) (keyFilesOf paths t)).run halong hexec
  obtain ⟨-, hkeeps⟩ := htaken.run halong' hexec'
  have hkeeps : KeepsPublished config v.state v'.state := hkeeps
  rw [hsim.state, hsim'.state] at hkeeps
  exact hkeeps jwks hjwks

/-! ### Private keys -/

/-- A JSON object with a private member. -/
def PrivateText : FileText → Prop
  | .json (.object members) => ∃ name ∈ privateJwkMembers, Json.containsKey members name = true
  | _ => False

/-- Every file with a private key is closed to the group and to others. -/
def OwnerOnly (t : KeyDir) : Prop :=
  ∀ file, file < t.next → PrivateText (t.contents file).text → (t.contents file).mode &&& 0o077 = 0

/-- A write that fails leaves no private key in the file when it was not to write one. -/
def WritesAtMost (d : KeyFsCall) (input : KeyFsInput) (_ : KeyDir) : Prop :=
  ∀ file text, d = .writeAll file text → PrivateText input.written → PrivateText text

omit [Crates] [KeyCrates] in
theorem not_privateText_document (document : JwksDocument) :
    ¬ PrivateText (.json document.toValue) := by
  intro hprivate
  obtain ⟨name, hname, hmember⟩ := hprivate
  have hall : privateJwkMembers.all (fun name => !Json.containsKey
      [("keys", Json.array (document.keys.map fun key => .object key.toMembers))] name) = true := rfl
  have hnot := List.all_eq_true.mp hall name hname
  rw [hmember] at hnot
  cases hnot

omit [Crates] [KeyCrates] in
/-- A umask only takes permissions away. -/
theorem ldiff_and_eq_zero {mode others : Nat} (umask : Nat) (h : mode &&& others = 0) :
    mode.ldiff umask &&& others = 0 := by
  refine Nat.eq_of_testBit_eq fun bit => ?_
  have hbit : (mode &&& others).testBit bit = (0 : Nat).testBit bit := by rw [h]
  rw [Nat.testBit_and, Nat.zero_testBit] at hbit
  rw [Nat.testBit_and, Nat.testBit_ldiff, Nat.zero_testBit]
  cases hmode : mode.testBit bit
  · simp
  · rw [hmode, Bool.true_and] at hbit
    simp [hbit]

section Private

variable {t : KeyDir} {temp path : KeyPath} {file mode : Nat} {text : FileText}
  {stored : StoredFile} {s : FileStage} {d : KeyFsCall}

omit [Crates] [KeyCrates] in
theorem OwnerOnly.create (h : OwnerOnly t) (hstored : ¬ PrivateText stored.text) :
    OwnerOnly (t.create path stored) := by
  intro file hlt htext
  rw [Files.next_create] at hlt
  by_cases hfile : file = t.next
  · rw [hfile, Files.contents_create_next] at htext
    exact absurd htext hstored
  · have hold : file < t.next := by omega
    rw [Files.contents_create_of_lt hold] at htext ⊢
    exact h file hold htext

omit [Crates] [KeyCrates] in
theorem OwnerOnly.write (h : OwnerOnly t)
    (hstored : PrivateText stored.text → stored.mode &&& 0o077 = 0) :
    OwnerOnly (t.write file stored) := by
  intro file' hlt htext
  by_cases hfile : file' = file
  · rw [hfile, Files.contents_write_self] at htext ⊢
    exact hstored htext
  · rw [Files.contents_write_ne hfile] at htext ⊢
    exact h file' hlt htext

/-- A file is replaced without ever being open to others, if its permissions say so. -/
theorem ownerOnly_of_writing {k : d.Answer → KeyFsProg (Except CliError Unit)} (input : KeyFsInput)
    (hmode : PrivateText text → mode &&& 0o077 = 0) (hholds : StageHolds paths s t)
    (h : Writing paths path text mode s (.call (σ := keyFs) d k))
    (hatMost : WritesAtMost d input t) (howner : OwnerOnly t) :
    OwnerOnly (keyFsAnswer d input t).2 := by
  generalize hl : (Prog.call (σ := keyFs) d k : KeyFsProg (Except CliError Unit)) = l at h
  cases h with
  | start =>
      rw [atomicWriteBytes] at hl
      split at hl
      · cases hl
        exact howner
      · cases hl
        simp only [keyFsAnswer]
        split <;> exact howner
  | beside =>
      cases hl
      exact howner
  | create temp htemp =>
      cases hl
      simp only [keyFsAnswer]
      split
      · exact howner
      · exact howner
      · exact howner.create id
  | fill temp file umask created =>
      cases hl
      obtain ⟨-, -, hstored⟩ := hholds
      simp only [keyFsAnswer, hstored]
      split
      · refine howner.write fun htext => ?_
        exact ldiff_and_eq_zero umask (hmode (hatMost file text rfl htext))
      · exact howner.write fun htext => ldiff_and_eq_zero umask (hmode htext)
  | protect temp file created =>
      cases hl
      obtain ⟨-, hfind, hstored⟩ := hholds
      simp only [keyFsAnswer, hfind]
      split
      · exact howner
      · next heq => cases heq
      · next heq =>
          cases heq
          rw [hstored]
          exact howner.write hmode
  | rename temp file =>
      cases hl
      simp only [keyFsAnswer]
      split <;> exact howner
  | discard temp file stored message =>
      cases hl
      simp only [keyFsAnswer]
      split <;> exact howner

/-- No step of a rotation opens a private key to others. -/
theorem ownerOnly_of_callPending {c : RotateCall} {k : d.Answer → KeyFsProg c.Answer}
    (input : KeyFsInput) (hholds : StageHolds paths s t)
    (h : CallPending paths c s (.call (σ := keyFs) d k)) (hatMost : WritesAtMost d input t)
    (howner : OwnerOnly t) : OwnerOnly (keyFsAnswer d input t).2 := by
  cases c with
  | replaceOverlapFile document =>
      exact ownerOnly_of_writing input
        (fun htext => absurd htext (not_privateText_document document)) hholds h hatMost howner
  | replaceKeyFile privateJwk =>
      exact ownerOnly_of_writing input (fun _ => rfl) hholds h hatMost howner
  | acquireLock =>
      obtain ⟨-, hl⟩ := h
      cases hl
      simp only [keyFsAnswer]
      split
      · exact howner
      · exact howner
      · exact howner.create id
  | releaseLock =>
      obtain ⟨-, hl⟩ := h
      cases hl
      simp only [keyFsAnswer]
      split <;> exact howner
  | readKeyFile =>
      obtain ⟨-, hl⟩ := h
      cases hl
      simp only [keyFsAnswer]
      split <;> exact howner
  | readOverlapFile =>
      obtain ⟨-, hl⟩ := h
      cases hl
      simp only [keyFsAnswer]
      split <;> exact howner
  | generateRsa =>
      obtain ⟨-, hl⟩ := h
      cases hl
      exact howner
  | generateMlDsa algorithm kid =>
      obtain ⟨-, hl⟩ := h
      cases hl
      exact howner

end Private

/-- The invariant of the private keys, beside those of `linearizes`. -/
def keepsPrivate (paths : KeyPaths) :
    Linearizes keyStore keyFileSystem (carryOut paths) (fun _ _ _ => True)
      fun d input t => WritesAtMost d input t :=
  (linearizes paths (fun _ _ _ => True) fun _ _ _ _ => trivial).withInvariant OwnerOnly
    (fun _ _ _ _ _ _ => trivial)
    (fun input _ hholds h hatMost howner =>
      ownerOnly_of_callPending input hholds h hatMost howner)
    (fun input _ hholds h _ howner => by
      obtain ⟨ht, -⟩ := callAnswered_step input hholds h
      show OwnerOnly (keyFsAnswer _ input _).2
      rw [ht]
      exact howner)

/-- **Private keys stay private.** In any interleaving of any rotations, with any
failures, with processes that stop anywhere and under any umask: if every file with a
private key is closed to the group and to others at the start, so is every such file at
every moment, also a temporary file and one that a stopped process has left behind. -/
theorem private_keys_stay_private {t : KeyDir} (hinv : t.Separate) (howner : OwnerOnly t)
    {ms : List (Move Q KeyFsInput)} {w : KeyFsPool Q}
    (hatMost : Pool.Along keyFileSystem (onDisk paths rotate)
      (Pool.StepOk (Guarded WritesAtMost)) (Pool.initial t) ms)
    (hrun : (Pool.initial t).exec keyFileSystem (onDisk paths rotate) ms = some w) :
    OwnerOnly w.state := by
  obtain ⟨ms', v, stages, -, -, hsim⟩ :=
    (Linearizes.simulates_initial (L := keepsPrivate paths) ⟨hinv, howner⟩).exec hatMost hrun
  exact hsim.inv.2

end Runs

open KeySample

namespace KeySample

theorem ownerOnly_keyDir : OwnerOnly keyDir := by
  intro file _ _
  show (0o600 : Nat) &&& 0o077 = 0
  decide

/-- A write that fails would write nothing private. -/
def WritesNothingPrivate (input : KeyFsInput) : Prop := ¬ PrivateText input.written

theorem calm_written (n : Nat) : WritesNothingPrivate (ticking n) := id

/-- It writes no private key where it is to write none. -/
theorem writesAtMost_keyDir :
    Pool.RunOk keyFileSystem (Guarded WritesAtMost) rsaArgs
      (onDisk keyPaths rotateSigningKey rsaArgs) ticking keyDir := by
  refine runOk_of_only (P := fun _ => True) (fun _ _ _ => trivial) calm_written ?_
  intro d input t _ hwritten file text _ hprivate
  exact absurd hprivate hwritten

end KeySample

/-- The rotation over the file system is one with atomic steps. -/
theorem sample_disk_runs_refine :
    ∃ ms v, (Pool.initial (files rsaKey0.privateJwk [])).exec keyStore rotateSigningKey ms =
        some v ∧
      v.state = files rsaKey1.privateJwk [rsaKey0.publicJwk] ∧
      v.threads[0]? = some (rsaArgs, Prog.ofExcept (.ok rotationReport)) := by
  obtain ⟨ms, w, hexec, -, hview, hended⟩ := @exec_keyDir (fun _ _ _ _ => True) Pool.runOk_true
  obtain ⟨ms', v, hexec', hstate, -, hthreads⟩ := disk_runs_refine separate_keyDir hexec
  exact ⟨ms', v, hexec', hstate.trans hview, hthreads 0 rsaArgs _ hended⟩

/-- At its end the key file is a whole file. -/
theorem sample_files_always_whole :
    ∃ ms w privateJwk, (Pool.initial keyDir).exec keyFileSystem (onDisk keyPaths rotateSigningKey) ms =
        some w ∧ w.state.read keyPaths.key = some ⟨.json privateJwk, 0o600⟩ := by
  obtain ⟨ms, w, hexec, -, hview, -⟩ := @exec_keyDir (fun _ _ _ _ => True) Pool.runOk_true
  obtain ⟨hkey | hkey, -⟩ := files_always_whole separate_keyDir hexec
  · exact ⟨ms, w, rsaKey0.privateJwk, hexec, hkey⟩
  · obtain ⟨privateJwk, hkey⟩ := hkey
    exact ⟨ms, w, privateJwk, hexec, hkey⟩

/-- After it, the first key is still published. -/
theorem sample_published_keys_stay_on_disk :
    ∃ ms w jwks, (Pool.initial keyDir).exec keyFileSystem (onDisk keyPaths rotateSigningKey) ms =
        some w ∧
      keyFilesOf keyPaths w.state = files rsaKey1.privateJwk [rsaKey0.publicJwk] ∧
      (keyFilesOf keyPaths w.state).published rsaConfig = some jwks ∧
      lookupKey jwks.keys rsaKey0.publicJwk.kid = some rsaKey0.publicJwk := by
  obtain ⟨ms, w, hexec, halong, hview, -⟩ := exec_keyDir runOk_keyDir
  have hbefore : (Pool.initial keyDir).exec keyFileSystem (onDisk keyPaths rotateSigningKey) [] =
      some (Pool.initial keyDir) := rfl
  obtain ⟨jwks, hjwks, hkeeps⟩ := published_keys_stay_on_disk lawfulRsa rsaConfig separate_keyDir
    halong hbefore hexec published_rsaKey0
  refine ⟨ms, w, jwks, hexec, hview, hjwks, hkeeps _ _ ?_⟩
  rw [lookupKey_cons, if_pos rfl]

/-- At its end all private keys are closed to others. -/
theorem sample_private_keys_stay_private :
    ∃ ms w, (Pool.initial keyDir).exec keyFileSystem (onDisk keyPaths rotateSigningKey) ms = some w ∧
      keyFilesOf keyPaths w.state = files rsaKey1.privateJwk [rsaKey0.publicJwk] ∧
      OwnerOnly w.state := by
  obtain ⟨ms, w, hexec, halong, hview, -⟩ := exec_keyDir writesAtMost_keyDir
  exact ⟨ms, w, hexec, hview,
    private_keys_stay_private separate_keyDir ownerOnly_keyDir halong hexec⟩

end StsDelegate
