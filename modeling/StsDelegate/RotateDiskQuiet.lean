import StsDelegate.RotateDisk
import StsDelegate.RotateRuns

/-!
# A rotation over the file system that nothing disturbs

`RotateDisk.lean` says that rotations over the file system do nothing but what rotations
do that replace each file in one step. Here is the other half: when no call fails and the
temporary paths are free, they do all of it, whatever the clock, the process ids and the
umask are, and leave no temporary file.
-/

namespace StsDelegate

open Text Fallible Effectful Prog

section Undisturbed

variable [Crates] [KeyCrates] {paths : KeyPaths} {t₀ t : KeyDir} {entropy : Bytes}

/-- No call fails, and the temporary paths were free at the start. -/
structure Calm (paths : KeyPaths) (t₀ : KeyDir) (entropy : Bytes) (input : KeyFsInput) : Prop where
  failure : input.failure = none
  entropy : input.entropy = entropy
  temps : ∀ path, path = paths.key ∨ path = paths.overlap →
    t₀.find (tempPathFor path input.processId input.nanos) = none

/-- The temporary paths lead where they led at the start. -/
structure Tidy (paths : KeyPaths) (t₀ t : KeyDir) : Prop where
  separate : t.Separate
  temps : ∀ temp, IsTemp paths temp → t.find temp = t₀.find temp

/-- A file `temp` stands ready to take the place of another, and nobody has seen it. -/
structure Ready (paths : KeyPaths) (t₀ : KeyDir) (temp : KeyPath) (stored : StoredFile)
    (view : KeyFiles) (t : KeyDir) : Prop where
  separate : t.Separate
  holds : ∃ file, StageHolds paths (.owns temp file stored) t
  free : t₀.find temp = none
  temps : ∀ other, IsTemp paths other → other ≠ temp → t.find other = t₀.find other
  view_eq : keyFilesOf paths t = view

/-- A file has taken its place. -/
def Installed (paths : KeyPaths) (t₀ : KeyDir) (temp path : KeyPath) (stored : StoredFile)
    (view : KeyFiles) (t' : KeyDir) : Prop :=
  ∃ t, Ready paths t₀ temp stored view t ∧ t' = t.rename temp path

/-! ### One file is replaced -/

section Replace

variable {temp path : KeyPath} {file mode : Nat} {text : FileText} {stored stored' : StoredFile}
  {view : KeyFiles}

omit [Crates] [KeyCrates] in
theorem Ready.write (h : Ready paths t₀ temp stored view t) (hfind : t.find temp = some file) :
    Ready paths t₀ temp stored' view (t.write file stored') where
  separate := h.separate.write file stored'
  holds := by
    obtain ⟨file', htemp, -, -⟩ := h.holds
    exact ⟨file, htemp, hfind, Files.contents_write_self⟩
  free := h.free
  temps := h.temps
  view_eq := by
    obtain ⟨file', htemp, hfind', hstored⟩ := h.holds
    rw [hfind] at hfind'
    cases hfind'
    exact (keyFilesOf_write h.separate ⟨htemp, hfind, hstored⟩).trans h.view_eq

omit [Crates] [KeyCrates] in
theorem Tidy.ready (h : Tidy paths t₀ t) (htemp : IsTemp paths temp) (hfree : t₀.find temp = none) :
    Ready paths t₀ temp stored (keyFilesOf paths t) (t.create temp stored) where
  separate := h.separate.create temp stored
  holds := ⟨t.next, htemp, Files.find_create_self, Files.contents_create_next⟩
  free := hfree
  temps other hother hne := by rw [Files.find_create_ne hne, h.temps other hother]
  view_eq := keyFilesOf_create htemp

omit [Crates] [KeyCrates] in
/-- After a replacement, the temporary paths are as they were. -/
theorem Installed.tidy (h : Installed paths t₀ temp path stored view t) (hpath : ¬ IsTemp paths path) :
    Tidy paths t₀ t := by
  obtain ⟨t, hready, rfl⟩ := h
  refine ⟨hready.separate.rename temp path, fun other hother => ?_⟩
  have hne : other ≠ path := by
    rintro rfl
    exact hpath hother
  by_cases htemp : other = temp
  · subst htemp
    rw [Files.find_rename_source hne, hready.free]
  · rw [Files.find_rename_ne htemp hne, hready.temps other hother htemp]

theorem achieves_renameTemp (h : Ready paths t₀ temp stored view t) (path : KeyPath) :
    Achieves keyFileSystem (Calm paths t₀ entropy) (renameTemp temp path) t (.ok ())
      (Installed paths t₀ temp path stored view) := by
  refine achieves_call fun input hcalm => ?_
  obtain ⟨file, -, hfind, -⟩ := h.holds
  simp only [keyFileSystem, keyFsAnswer, hcalm.failure, hfind]
  exact achieves_call fun _ _ => achieves_done ⟨t, h, rfl⟩

theorem achieves_protectTemp (h : Ready paths t₀ temp stored view t) (path : KeyPath) (mode : Nat) :
    Achieves keyFileSystem (Calm paths t₀ entropy) (protectTemp temp path mode) t (.ok ())
      (Installed paths t₀ temp path ⟨stored.text, mode⟩ view) := by
  refine achieves_call fun input hcalm => ?_
  obtain ⟨file, -, hfind, hstored⟩ := h.holds
  simp only [keyFileSystem, keyFsAnswer, hcalm.failure, hfind, hstored]
  exact achieves_renameTemp (h.write hfind) path

theorem achieves_fillTemp (h : Ready paths t₀ temp stored view t) (hfind : t.find temp = some file)
    (path : KeyPath) (text : FileText) (mode : Nat) :
    Achieves keyFileSystem (Calm paths t₀ entropy) (fillTemp temp file path text mode) t (.ok ())
      (Installed paths t₀ temp path ⟨text, mode⟩ view) := by
  refine achieves_call fun input hcalm => ?_
  simp only [keyFileSystem, keyFsAnswer, hcalm.failure]
  exact achieves_protectTemp (h.write hfind) path mode

/-- A file is replaced. -/
theorem achieves_atomicWriteBytes (h : Tidy paths t₀ t) (hpath : path = paths.key ∨ path = paths.overlap)
    (text : FileText) (mode : Nat) :
    Achieves keyFileSystem (Calm paths t₀ entropy) (atomicWriteBytes path text mode) t (.ok ())
      fun t' => ∃ temp, Installed paths t₀ temp path ⟨text, mode⟩ (keyFilesOf paths t) t' := by
  have hbeside : Achieves keyFileSystem (Calm paths t₀ entropy) (writeBeside path text mode) t (.ok ())
      fun t' => ∃ temp, Installed paths t₀ temp path ⟨text, mode⟩ (keyFilesOf paths t) t' := by
    refine achieves_call fun input hcalm => achieves_call fun input' hcalm' => ?_
    have htemp := isTemp_tempPathFor hpath input.processId input.nanos
    have hfree := hcalm.temps path hpath
    have hfind : t.find (tempPathFor path input.processId input.nanos) = none :=
      (h.temps _ htemp).trans hfree
    simp only [keyFileSystem, keyFsAnswer, hcalm'.failure, hfind]
    exact (achieves_fillTemp (h.ready htemp hfree) Files.find_create_self path text mode).mono
      fun t' hinstalled => ⟨_, hinstalled⟩
  rw [atomicWriteBytes]
  split
  · exact hbeside
  · refine achieves_call fun input hcalm => ?_
    simp only [keyFileSystem, keyFsAnswer, hcalm.failure]
    exact hbeside

end Replace

/-! ### One call -/

theorem achieves_readFile (path : KeyPath) :
    Achieves keyFileSystem (Calm paths t₀ entropy) (readFile path) t
      (.ok (readStored (t.read path) ⟨none, entropy⟩)) fun t' => t' = t := by
  refine achieves_call fun input hcalm => ?_
  cases hfind : t.find path with
  | none =>
      simp only [keyFileSystem, keyFsAnswer, hcalm.failure, hfind]
      rw [Files.read, hfind]
      exact achieves_done rfl
  | some file =>
      simp only [keyFileSystem, keyFsAnswer, hcalm.failure, hfind]
      rw [Files.read, hfind]
      exact achieves_call fun _ _ => achieves_done rfl

/-- **One call** that is not disturbed is carried out. -/
theorem carriesOut_calm :
    CarriesOut keyStore keyFileSystem (carryOut paths) (keyFilesOf paths) (Calm paths t₀ entropy)
      ⟨none, entropy⟩ (Tidy paths t₀) := by
  intro c t htidy
  cases c with
  | acquireLock =>
      refine achieves_call fun input hcalm => ?_
      cases hfind : t.find (lockPath paths.key) with
      | some file =>
          have hlocked : (keyFilesOf paths t).locked = true := by rw [keyFilesOf, hfind]; rfl
          simp only [keyFileSystem, keyFsAnswer, hcalm.failure, hfind, keyStore, rotateAnswer, hlocked,
            if_true]
          exact achieves_done ⟨rfl, htidy⟩
      | none =>
          have hlocked : (keyFilesOf paths t).locked = false := by rw [keyFilesOf, hfind]; rfl
          simp only [keyFileSystem, keyFsAnswer, hcalm.failure, hfind, keyStore, rotateAnswer, hlocked]
          refine achieves_done ⟨keyFilesOf_lock, htidy.separate.create _ _, fun temp htemp => ?_⟩
          rw [Files.find_create_ne htemp.2.2, htidy.temps temp htemp]
  | releaseLock =>
      refine achieves_call fun input hcalm => ?_
      cases hfind : t.find (lockPath paths.key) with
      | none =>
          simp only [keyFileSystem, keyFsAnswer, hcalm.failure, hfind, keyStore, rotateAnswer]
          exact achieves_done ⟨by rw [keyFilesOf, hfind]; rfl, htidy⟩
      | some file =>
          simp only [keyFileSystem, keyFsAnswer, hcalm.failure, hfind, keyStore, rotateAnswer]
          refine achieves_done ⟨keyFilesOf_unlock, htidy.separate.remove _, fun temp htemp => ?_⟩
          rw [Files.find_remove_ne htemp.2.2, htidy.temps temp htemp]
  | readKeyFile =>
      refine (achieves_readFile paths.key).mono fun t' ht => ?_
      subst ht
      exact ⟨rfl, htidy⟩
  | readOverlapFile =>
      refine (achieves_readFile paths.overlap).mono fun t' ht => ?_
      subst ht
      exact ⟨rfl, htidy⟩
  | generateRsa =>
      refine achieves_call fun input hcalm => ?_
      simp only [keyFileSystem, keyFsAnswer, hcalm.entropy]
      exact achieves_done ⟨rfl, htidy⟩
  | generateMlDsa algorithm kid =>
      refine achieves_call fun input hcalm => ?_
      simp only [keyFileSystem, keyFsAnswer, hcalm.entropy]
      exact achieves_done ⟨rfl, htidy⟩
  | replaceOverlapFile document =>
      refine (achieves_attempt (achieves_atomicWriteBytes htidy (Or.inr rfl)
        (.json document.toValue) 0o644)).mono fun t' hinstalled => ?_
      obtain ⟨temp, hinstalled⟩ := hinstalled
      refine ⟨?_, hinstalled.tidy not_isTemp_overlap⟩
      obtain ⟨t'', hready, rfl⟩ := hinstalled
      obtain ⟨file, hholds⟩ := hready.holds
      rw [keyFilesOf_rename_overlap hholds, hready.view_eq]
      rfl
  | replaceKeyFile privateJwk =>
      refine (achieves_attempt (achieves_atomicWriteBytes htidy (Or.inl rfl)
        (.json privateJwk) 0o600)).mono fun t' hinstalled => ?_
      obtain ⟨temp, hinstalled⟩ := hinstalled
      refine ⟨?_, hinstalled.tidy not_isTemp_key⟩
      obtain ⟨t'', hready, rfl⟩ := hinstalled
      obtain ⟨file, hholds⟩ := hready.holds
      rw [keyFilesOf_rename_key hholds, hready.view_eq]
      rfl

/-- **A rotation that nothing disturbs** does over the file system what it does when each
file is replaced in one step: it ends in the same way, with the same lock and the same
two files. It leaves no temporary file behind. -/
theorem undisturbed_rotation {Q : Type} (rotate : Q → RotateProg RotationReport) (args : Q)
    (hinv : t.Separate) {env : Nat → KeyFsInput} (henv : ∀ n, Calm paths t entropy (env n)) :
    ((onDisk paths rotate args).run keyFileSystem env t).outcome =
        ((rotate args).run keyStore (fun _ => ⟨none, entropy⟩) (keyFilesOf paths t)).outcome ∧
      keyFilesOf paths ((onDisk paths rotate args).run keyFileSystem env t).state =
        ((rotate args).run keyStore (fun _ => ⟨none, entropy⟩) (keyFilesOf paths t)).state ∧
      ∀ temp, IsTemp paths temp →
        ((onDisk paths rotate args).run keyFileSystem env t).state.find temp = t.find temp := by
  obtain ⟨houtcome, hview, htidy⟩ :=
    carriesOut_calm.achieves (rotate args) ⟨hinv, fun _ _ => rfl⟩ env henv
  exact ⟨houtcome, hview, htidy.temps⟩

/-- A rotation that is never interrupted, in a pool. -/
theorem exec_onDisk {Q : Type} {rotate : Q → RotateProg RotationReport} {args : Q}
    {ok : Q → KeyFsProg RotationReport → KeyFsInput → KeyDir → Prop} {env : Nat → KeyFsInput}
    (hok : Pool.RunOk keyFileSystem ok args (onDisk paths rotate args) env t) :
    ∃ ms w, (Pool.initial t).exec keyFileSystem (onDisk paths rotate) ms = some w ∧
      Pool.Along keyFileSystem (onDisk paths rotate) (Pool.StepOk ok) (Pool.initial t) ms ∧
      w.state = ((onDisk paths rotate args).run keyFileSystem env t).state ∧
      w.threads =
        [(args, .ofExcept ((onDisk paths rotate args).run keyFileSystem env t).outcome)] := by
  obtain ⟨ms, hexec, halong⟩ := Pool.exec_start_run_ok (w := Pool.initial t) hok
  exact ⟨ms, _, hexec, halong, rfl, rfl⟩

/-! ### The keys that are generated -/

/-- The calls that generate no key. -/
def KeyFsCall.Plain (d : KeyFsCall) : Prop := d.generates = none

omit [Crates] [KeyCrates] in
theorem only_discardTemp (temp : KeyPath) (message : String) :
    Only KeyFsCall.Plain (discardTemp temp message) :=
  only_bind (only_perform rfl) fun _ => only_fail

omit [Crates] [KeyCrates] in
theorem only_renameTemp (temp path : KeyPath) : Only KeyFsCall.Plain (renameTemp temp path) := by
  refine only_bind (only_perform rfl) fun renamed => ?_
  cases renamed with
  | error err => exact only_discardTemp temp _
  | ok _ => exact only_perform rfl

omit [Crates] [KeyCrates] in
theorem only_protectTemp (temp path : KeyPath) (mode : Nat) :
    Only KeyFsCall.Plain (protectTemp temp path mode) := by
  refine only_bind (only_perform rfl) fun protected' => ?_
  cases protected' with
  | error err => exact only_discardTemp temp _
  | ok _ => exact only_renameTemp temp path

omit [Crates] [KeyCrates] in
theorem only_createTemp (temp path : KeyPath) (text : FileText) (mode : Nat) :
    Only KeyFsCall.Plain (createTemp temp path text mode) := by
  refine only_bind (only_perform rfl) fun created => ?_
  cases created with
  | error err => exact only_fail
  | ok file =>
      refine only_bind (only_perform rfl) fun written => ?_
      cases written with
      | error err => exact only_discardTemp temp _
      | ok _ => exact only_protectTemp temp path mode

omit [Crates] [KeyCrates] in
theorem only_atomicWriteBytes (path : KeyPath) (text : FileText) (mode : Nat) :
    Only KeyFsCall.Plain (atomicWriteBytes path text mode) := by
  have hbeside : Only KeyFsCall.Plain (writeBeside path text mode) :=
    only_bind (only_perform rfl) fun temp => only_createTemp temp path text mode
  rw [atomicWriteBytes]
  split
  · exact hbeside
  · refine only_bind (only_perform rfl) fun created => ?_
    cases created with
    | error err => exact only_fail
    | ok _ => exact hbeside

omit [Crates] [KeyCrates] in
theorem only_readFile (path : KeyPath) : Only KeyFsCall.Plain (readFile path) := by
  refine only_bind (only_perform rfl) fun opened => ?_
  cases opened with
  | error err => exact only_done
  | ok file => exact only_bind (only_perform rfl) fun _ => only_done

omit [Crates] [KeyCrates] in
theorem only_carryOut {c : RotateCall} (h : ¬ c.Generates) :
    Only KeyFsCall.Plain (carryOut paths c) := by
  cases c with
  | acquireLock =>
      refine only_bind (only_perform rfl) fun created => ?_
      cases created with
      | error err => exact only_done
      | ok _ => exact only_done
  | releaseLock => exact only_bind (only_perform rfl) fun _ => only_done
  | readKeyFile => exact only_readFile paths.key
  | readOverlapFile => exact only_readFile paths.overlap
  | generateRsa => exact absurd trivial h
  | generateMlDsa algorithm kid => exact absurd trivial h
  | replaceOverlapFile document => exact only_attempt (only_atomicWriteBytes _ _ _)
  | replaceKeyFile privateJwk => exact only_attempt (only_atomicWriteBytes _ _ _)

/-- A rotation that nothing disturbs generates below what it generates above. -/
theorem runOk_onDisk {Q : Type} {q : Q} {above : RotateCall → RotateInput → KeyFiles → Prop}
    {p : RotateProg RotationReport} (hinv : t.Separate) {env : Nat → KeyFsInput}
    (henv : ∀ n, Calm paths t entropy (env n))
    (h : Pool.RunOk keyStore (Guarded above) q p (fun _ => ⟨none, entropy⟩) (keyFilesOf paths t)) :
    Pool.RunOk keyFileSystem (Guarded (GeneratesBelow paths above)) q (p.expand (carryOut paths))
      env t := by
  have hcarries : CarriesOut keyStore keyFileSystem (carryOut paths) (keyFilesOf paths)
      (Calm paths t entropy) ⟨none, entropy⟩ (Tidy paths t) := carriesOut_calm
  refine hcarries.runOk (fun c t' env' _ henv' habove => ?_) henv ⟨hinv, fun _ _ => rfl⟩ h
  have hfree : ∀ d j (u : KeyDir), d.Plain → Calm paths t entropy j →
      GeneratesBelow paths above d j u := by
    intro d j u hplain _ c' hgenerates
    rw [hplain] at hgenerates
    cases hgenerates
  -- the calls that generate are carried out by one call
  have hgenerates : ∀ d, d.generates = some c → Pool.RunOk keyFileSystem
      (Guarded (GeneratesBelow paths above)) q (perform (σ := keyFs) d : KeyFsProg _) env' t' := by
    intro d hd
    refine ⟨fun d' k heq c' hc' => ?_, trivial⟩
    cases heq
    rw [hd] at hc'
    cases hc'
    rw [(henv' 0).entropy]
    exact habove
  cases c with
  | generateRsa => exact hgenerates _ rfl
  | generateMlDsa algorithm kid => exact hgenerates _ rfl
  | acquireLock => exact runOk_of_only (only_carryOut id) henv' hfree
  | releaseLock => exact runOk_of_only (only_carryOut id) henv' hfree
  | readKeyFile => exact runOk_of_only (only_carryOut id) henv' hfree
  | readOverlapFile => exact runOk_of_only (only_carryOut id) henv' hfree
  | replaceOverlapFile document => exact runOk_of_only (only_carryOut id) henv' hfree
  | replaceKeyFile privateJwk => exact runOk_of_only (only_carryOut id) henv' hfree

end Undisturbed

open KeySample

namespace KeySample

/-! ### A rotation to the second RSA key, over the file system -/

theorem key_ne_overlap : (⟨"", "sts-key.json"⟩ : KeyPath) ≠ ⟨"", "extra-jwks.json"⟩ := by decide

theorem overlap_ne_lock : (⟨"", "extra-jwks.json"⟩ : KeyPath) ≠ lockPath ⟨"", "sts-key.json"⟩ := by
  decide

/-- A temporary path begins with a dot. -/
theorem ne_tempPathFor {path : KeyPath} (h : path.name.toList.head? ≠ some '.') (other : KeyPath)
    (processId nanos : Nat) : path ≠ tempPathFor other processId nanos := by
  rintro rfl
  refine h ?_
  simp [tempPathFor, String.toList_append]

theorem key_ne_temp (processId nanos : Nat) :
    (⟨"", "sts-key.json"⟩ : KeyPath) ≠ tempPathFor ⟨"", "extra-jwks.json"⟩ processId nanos :=
  ne_tempPathFor (by decide) _ processId nanos

theorem overlap_ne_temp (processId nanos : Nat) :
    (⟨"", "extra-jwks.json"⟩ : KeyPath) ≠ tempPathFor ⟨"", "sts-key.json"⟩ processId nanos :=
  ne_tempPathFor (by decide) _ processId nanos

def keyPaths : KeyPaths :=
  ⟨⟨"", "sts-key.json"⟩, ⟨"", "extra-jwks.json"⟩, key_ne_overlap, overlap_ne_lock, key_ne_temp,
    overlap_ne_temp⟩

/-- Where the key file is the only file. -/
def onlyKeyFile (path : KeyPath) : Option Nat := if path = keyPaths.key then some 0 else none

theorem onlyKeyFile_lt (path : KeyPath) (file : Nat) (h : onlyKeyFile path = some file) : file < 1 := by
  rw [onlyKeyFile] at h
  split at h
  · cases h
    exact Nat.one_pos
  · cases h

/-- A directory with the first RSA key. -/
def keyDir : KeyDir := ⟨onlyKeyFile, fun _ => ⟨.json rsaKey0.privateJwk, 0o600⟩, 1, onlyKeyFile_lt⟩

theorem separate_keyDir : keyDir.Separate := by
  intro path other file hpath hother
  have hkey : ∀ path, keyDir.find path = some file → path = keyPaths.key := by
    intro path h
    by_contra hne
    have hnone : keyDir.find path = none := if_neg hne
    rw [hnone] at h
    cases h
  rw [hkey path hpath, hkey other hother]

theorem keyFilesOf_keyDir : keyFilesOf keyPaths keyDir = files rsaKey0.privateJwk [] := rfl

/-- A clock that ticks, and the randomness of the second key. -/
def ticking (n : Nat) : KeyFsInput := ⟨none, .other "", 0o022, 1, n, [1]⟩

theorem calm_ticking (n : Nat) : Calm keyPaths keyDir [1] (ticking n) where
  failure := rfl
  entropy := rfl
  temps path hpath := by
    refine if_neg fun heq => ?_
    obtain rfl | rfl := hpath
    · exact tempPathFor_ne_self _ _ _ heq
    · exact key_ne_temp _ _ heq.symm

def rotationReport : RotationReport :=
  ⟨true, rsaKey0.publicJwk.kid, some rsaKey1.publicJwk.kid, none, some 1⟩

/-- The rotation to the second key, with each file replaced in one step. -/
theorem run_rsaKey0 :
    ((rotateSigningKey rsaArgs).run keyStore (fun _ => ⟨none, [1]⟩)
        (files rsaKey0.privateJwk [])).outcome = .ok rotationReport ∧
      ((rotateSigningKey rsaArgs).run keyStore (fun _ => ⟨none, [1]⟩)
        (files rsaKey0.privateJwk [])).state = files rsaKey1.privateJwk [rsaKey0.publicJwk] := by
  have hrotate : Yields keyStore (Quiet [1]) (rotateSigningKey rsaArgs)
      (files rsaKey0.privateJwk []) _ _ :=
    yields_rotateSigningKey rfl rfl rfl (current_rsaKey0 _) rfl generate_rsaKey1
  obtain ⟨t, hrun⟩ := hrotate (fun _ => ⟨none, [1]⟩) fun _ => rfl
  rw [hrun]
  exact ⟨rfl, rfl⟩

/-- The same rotation over the file system. -/
theorem rotated_keyDir :
    ((onDisk keyPaths rotateSigningKey rsaArgs).run keyFileSystem ticking keyDir).outcome =
        .ok rotationReport ∧
      keyFilesOf keyPaths
          ((onDisk keyPaths rotateSigningKey rsaArgs).run keyFileSystem ticking keyDir).state =
        files rsaKey1.privateJwk [rsaKey0.publicJwk] := by
  obtain ⟨houtcome, hview, -⟩ :=
    carriesOut_calm.achieves (rotateSigningKey rsaArgs)
      (⟨separate_keyDir, fun _ _ => rfl⟩ : Tidy keyPaths keyDir keyDir) ticking calm_ticking
  rw [keyFilesOf_keyDir] at houtcome hview
  exact ⟨houtcome.trans run_rsaKey0.1, hview.trans run_rsaKey0.2⟩

/-- It generates a fresh key. -/
theorem runOk_keyDir :
    Pool.RunOk keyFileSystem (Guarded (GeneratesBelow keyPaths FreshRsaKey)) rsaArgs
      (onDisk keyPaths rotateSigningKey rsaArgs) ticking keyDir := by
  refine runOk_onDisk separate_keyDir calm_ticking ?_
  refine runOk_rotateSigningKey fun _ generated hgenerated => ?_
  rw [generate_rsaKey1] at hgenerated
  cases hgenerated
  exact freshKid_rsaKey1

/-- The pool in which the rotation has run to its end. -/
theorem exec_keyDir {ok : RotateArgs → KeyFsProg RotationReport → KeyFsInput → KeyDir → Prop}
    (hok : Pool.RunOk keyFileSystem ok rsaArgs (onDisk keyPaths rotateSigningKey rsaArgs) ticking
      keyDir) :
    ∃ ms w, (Pool.initial keyDir).exec keyFileSystem (onDisk keyPaths rotateSigningKey) ms = some w ∧
      Pool.Along keyFileSystem (onDisk keyPaths rotateSigningKey) (Pool.StepOk ok)
        (Pool.initial keyDir) ms ∧
      keyFilesOf keyPaths w.state = files rsaKey1.privateJwk [rsaKey0.publicJwk] ∧
      w.threads[0]? = some (rsaArgs, Prog.ofExcept (.ok rotationReport)) := by
  obtain ⟨ms, w, hexec, halong, hstate, hthreads⟩ := exec_onDisk hok
  obtain ⟨houtcome, hview⟩ := rotated_keyDir
  refine ⟨ms, w, hexec, halong, by rw [hstate, hview], ?_⟩
  rw [hthreads, houtcome, List.getElem?_cons_zero]

end KeySample

/-- The rotation over the file system leaves the second key, and the first one staged. -/
theorem sample_undisturbed_rotation :
    keyFilesOf keyPaths
        ((onDisk keyPaths rotateSigningKey rsaArgs).run keyFileSystem ticking keyDir).state =
      files rsaKey1.privateJwk [rsaKey0.publicJwk] := by
  obtain ⟨-, hview, -⟩ :=
    undisturbed_rotation rotateSigningKey rsaArgs separate_keyDir calm_ticking
  rw [hview, keyFilesOf_keyDir, run_rsaKey0.2]

end StsDelegate
