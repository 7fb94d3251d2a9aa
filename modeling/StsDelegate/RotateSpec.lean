import StsDelegate.Sample.Keys

/-!
# What a rotation leaves behind

Both rotations in one description: a rotation that succeeds has read the current key
and the overlap keys from the files it found, has generated a replacement, and leaves
the replacement in the key file and the current key with the other overlap keys in the
overlap file (`Rotated`, `rotated_of_run`).

The server starts on what a rotation leaves, unless a key that was carried over from
the old overlap file is not for signatures.
-/

namespace StsDelegate

open Text Fallible Effectful Prog

section Rotations

variable [Crates] [KeyCrates]

/-- Either rotation. -/
inductive Rotation
  | signingKey (args : RotateArgs)
  | pqcKey (args : PqcKeyRotateArgs)

namespace Rotation

def dryRun : Rotation → Bool
  | .signingKey args => args.dryRun
  | .pqcKey args => args.dryRun

def prog : Rotation → RotateProg RotationReport
  | .signingKey args => rotateSigningKey args
  | .pqcKey args => rotatePqcKey args

/-- The public part of the key in the key file. -/
def currentKey : Rotation → FileText → Except CliError PublicJwk
  | .signingKey args, text => currentSigningKey args.keyFile text
  | .pqcKey args, text => currentPqcSigningKey args.keyFile text

/-- The replacement that is generated for the current key. -/
def replacement : Rotation → PublicJwk → (entropy : Bytes) → Option GeneratedKey
  | .signingKey _, _, entropy => (RsaJoseSigner.generatePrivateJwk entropy).toOption
  | .pqcKey args, current, entropy => do
      let algorithm ← (parseMldsaAlgorithm current.alg).toOption
      (MlDsaJoseSigner.generatePrivateJwk algorithm args.kid entropy).toOption

/-- The overlap keys that are written. -/
def staged (rot : Rotation) (current generated : PublicJwk) (overlap : List PublicJwk) :
    List PublicJwk :=
  match rot with
  | .signingKey _ => otherKeys current generated overlap ++ [current]
  | .pqcKey _ => current :: otherKeys current generated overlap

omit [Crates] [KeyCrates] in
theorem mem_staged {rot : Rotation} {current generated key : PublicJwk} {overlap : List PublicJwk} :
    key ∈ rot.staged current generated overlap ↔
      key = current ∨ key ∈ otherKeys current generated overlap := by
  cases rot with
  | signingKey args => simp [staged, or_comm]
  | pqcKey args => simp [staged]

end Rotation

/-- The keys of the overlap file; no file counts as an empty one. -/
def overlapKeys : Option StoredFile → Except CliError (List PublicJwk)
  | none => .ok []
  | some file => parsePublicJwksDocument file.text "overlap JWKS"

theorem existingOverlap_readStored {path : String} {file : Option StoredFile} {input : RotateInput}
    (h : input.failure = none) : existingOverlap path (readStored file input) = overlapKeys file := by
  cases file with
  | none => simp [readStored, h, existingOverlap, overlapKeys]
  | some file => simp [readStored, h, existingOverlap, overlapKeys]

theorem overlapKeys_of_read {path : String} {file : Option StoredFile} {input : RotateInput}
    {overlap : List PublicJwk} (h : existingOverlap path (readStored file input) = .ok overlap) :
    overlapKeys file = .ok overlap := by
  cases hfailure : input.failure with
  | some text => simp [readStored, hfailure, existingOverlap] at h
  | none => rwa [existingOverlap_readStored hfailure] at h

omit [Crates] [KeyCrates] in
theorem keyFile_of_read {file : Option StoredFile} {input : RotateInput} {text : FileText}
    (h : readStored file input = .ok text) : ∃ stored, file = some stored ∧ stored.text = text := by
  unfold readStored at h
  cases hfailure : input.failure with
  | some _ => simp [hfailure] at h
  | none =>
      cases file with
      | none => simp [hfailure] at h
      | some stored => exact ⟨stored, rfl, by simpa [hfailure] using h⟩

/-- What a rotation has read, and what it leaves behind. -/
structure Rotated (rot : Rotation) (files files' : KeyFiles) (current : PublicJwk)
    (overlap : List PublicJwk) (generated : GeneratedKey) : Prop where
  readsKey : ∃ file, files.keyFile = some file ∧ rot.currentKey file.text = .ok current
  readsOverlap : overlapKeys files.overlapFile = .ok overlap
  generates : ∃ entropy, rot.replacement current entropy = some generated
  writesKey : files'.keyFile = some ⟨.json generated.privateJwk, 0o600⟩
  writesOverlap : files'.overlapFile = some ⟨.json (JwksDocument.toValue
    ⟨rot.staged current generated.publicJwk overlap⟩), 0o644⟩

/-! ### One call at a time -/

section Calls

variable {α : Type} {s s' : KeyFiles} {result : α}

theorem ends_acquireRotationLock {path : String} {f : Unit → RotateProg α}
    (h : Ends keyStore (acquireRotationLock path >>= f) s (.ok result) s') :
    Ends keyStore (f ()) { s with locked := true } (.ok result) s' := by
  rw [acquireRotationLock, bind_assoc] at h
  obtain ⟨input, h⟩ := h
  obtain ⟨_, hacquired, h⟩ := ends_ofExcept_bind.mp h
  simp only [keyStore, rotateAnswer] at hacquired h
  cases hfailure : input.failure with
  | some text => simp [hfailure] at hacquired
  | none =>
      simp only [hfailure] at hacquired h
      by_cases hlocked : s.locked = true
      · simp [hlocked] at hacquired
      · simpa [hlocked, keyStore] using h

theorem ends_replaceOverlapFile {document : JwksDocument} {f : Unit → RotateProg α}
    (h : Ends keyStore (replaceOverlapFile document >>= f) s (.ok result) s') :
    Ends keyStore (f ()) { s with overlapFile := some ⟨.json document.toValue, 0o644⟩ }
      (.ok result) s' := by
  rw [replaceOverlapFile, bind_assoc] at h
  obtain ⟨input, h⟩ := h
  obtain ⟨_, hwritten, h⟩ := ends_ofExcept_bind.mp h
  simp only [keyStore, rotateAnswer] at hwritten h
  cases hfailure : input.failure with
  | some text => simp [hfailure] at hwritten
  | none => simpa [hfailure, keyStore] using h

theorem ends_replaceKeyFile {privateJwk : Json} {f : Unit → RotateProg α}
    (h : Ends keyStore (replaceKeyFile privateJwk >>= f) s (.ok result) s') :
    Ends keyStore (f ()) { s with keyFile := some ⟨.json privateJwk, 0o600⟩ } (.ok result) s' := by
  rw [replaceKeyFile, bind_assoc] at h
  obtain ⟨input, h⟩ := h
  obtain ⟨_, hwritten, h⟩ := ends_ofExcept_bind.mp h
  simp only [keyStore, rotateAnswer] at hwritten h
  cases hfailure : input.failure with
  | some text => simp [hfailure] at hwritten
  | none => simpa [hfailure, keyStore] using h

theorem ends_loadCurrentSigningKey {path : String} {f : PublicJwk → RotateProg α}
    (h : Ends keyStore (loadCurrentSigningKey path >>= f) s (.ok result) s') :
    ∃ file current, s.keyFile = some file ∧ currentSigningKey path file.text = .ok current ∧
      Ends keyStore (f current) s (.ok result) s' := by
  rw [loadCurrentSigningKey, bind_assoc] at h
  obtain ⟨input, h⟩ := h
  obtain ⟨current, hcurrent, h⟩ := ends_ofExcept_bind.mp h
  simp only [keyStore, rotateAnswer, bind_eq_ok, mapError_eq_ok] at hcurrent
  obtain ⟨text, hread, hcurrent⟩ := hcurrent
  obtain ⟨file, hfile, htext⟩ := keyFile_of_read hread
  exact ⟨file, current, hfile, by rw [htext, hcurrent], h⟩

theorem ends_loadCurrentPqcSigningKey {path : String} {f : PublicJwk → RotateProg α}
    (h : Ends keyStore (loadCurrentPqcSigningKey path >>= f) s (.ok result) s') :
    ∃ file current, s.keyFile = some file ∧ currentPqcSigningKey path file.text = .ok current ∧
      Ends keyStore (f current) s (.ok result) s' := by
  rw [loadCurrentPqcSigningKey, bind_assoc] at h
  obtain ⟨input, h⟩ := h
  obtain ⟨current, hcurrent, h⟩ := ends_ofExcept_bind.mp h
  simp only [keyStore, rotateAnswer, bind_eq_ok, mapError_eq_ok] at hcurrent
  obtain ⟨text, hread, hcurrent⟩ := hcurrent
  obtain ⟨file, hfile, htext⟩ := keyFile_of_read hread
  exact ⟨file, current, hfile, by rw [htext, hcurrent], h⟩

theorem ends_loadExistingOverlap {path : String} {f : List PublicJwk → RotateProg α}
    (h : Ends keyStore (loadExistingOverlap path >>= f) s (.ok result) s') :
    ∃ overlap, overlapKeys s.overlapFile = .ok overlap ∧
      Ends keyStore (f overlap) s (.ok result) s' := by
  rw [loadExistingOverlap, bind_assoc] at h
  obtain ⟨input, h⟩ := h
  obtain ⟨overlap, hread, h⟩ := ends_ofExcept_bind.mp h
  exact ⟨overlap, overlapKeys_of_read hread, h⟩

/-- Giving the lock back leaves the files alone. -/
theorem ends_ensuring_release {p : RotateProg α}
    (h : Ends keyStore (p.ensuring RotateCall.releaseLock) s (.ok result) s') :
    ∃ s₁, Ends keyStore p s (.ok result) s₁ ∧ s'.keyFile = s₁.keyFile ∧
      s'.overlapFile = s₁.overlapFile := by
  obtain ⟨s₁, input, hends, heq⟩ := ends_ensuring.mp h
  refine ⟨s₁, hends, ?_⟩
  subst heq
  cases hfailure : input.failure <;> simp [keyStore, rotateAnswer, hfailure]

end Calls

theorem ends_rotateSigningKey {args : RotateArgs} {files files' : KeyFiles}
    {report : RotationReport} (hlive : args.dryRun = false)
    (h : Ends keyStore (rotateSigningKey args) files (.ok report) files') :
    ∃ current overlap generated, Rotated (.signingKey args) files files' current overlap generated := by
  rw [rotateSigningKey, hlive, if_neg (by decide)] at h
  obtain ⟨files₁, h, hkey, hoverlap⟩ := ends_ensuring_release (ends_acquireRotationLock h)
  rw [RotateSigningKey.locked] at h
  obtain ⟨file, current, hfile, hcurrent, h⟩ := ends_loadCurrentSigningKey h
  -- the replacement is generated before the overlap file is read
  rw [RotateSigningKey.afterCurrent] at h
  obtain ⟨input, h⟩ := h
  obtain ⟨generated, hgenerated, h⟩ := ends_ofExcept_bind.mp h
  rw [RotateSigningKey.afterGenerated] at h
  obtain ⟨overlap, hread, h⟩ := ends_loadExistingOverlap h
  rw [RotateSigningKey.stage] at h
  have h := ends_replaceOverlapFile h
  rw [RotateSigningKey.install] at h
  obtain ⟨-, hend⟩ := ends_replaceKeyFile h
  subst hend
  refine ⟨current, overlap, generated, ⟨file, hfile, hcurrent⟩, hread, ⟨input.entropy, ?_⟩, hkey,
    hoverlap⟩
  exact toOption_eq_some.mpr (mapError_eq_ok.mp hgenerated)

theorem ends_rotatePqcKey {args : PqcKeyRotateArgs} {files files' : KeyFiles}
    {report : RotationReport} (hlive : args.dryRun = false)
    (h : Ends keyStore (rotatePqcKey args) files (.ok report) files') :
    ∃ current overlap generated, Rotated (.pqcKey args) files files' current overlap generated := by
  rw [rotatePqcKey] at h
  obtain ⟨file, current, hfile, hcurrent, h⟩ := ends_loadCurrentPqcSigningKey h
  obtain ⟨overlap, hread, h⟩ := ends_loadExistingOverlap h
  rw [hlive, if_neg (by decide), RotatePqcKey.lockAndRotate] at h
  obtain ⟨files₁, h, hkey, hoverlap⟩ := ends_ensuring_release (ends_acquireRotationLock h)
  rw [RotatePqcKey.locked] at h
  obtain ⟨algorithm, halgorithm, h⟩ := ends_ofExcept_bind.mp h
  obtain ⟨input, h⟩ := h
  obtain ⟨generated, hgenerated, h⟩ := ends_ofExcept_bind.mp h
  rw [RotatePqcKey.stage] at h
  have h := ends_replaceOverlapFile h
  rw [RotatePqcKey.install] at h
  obtain ⟨-, hend⟩ := ends_replaceKeyFile h
  subst hend
  refine ⟨current, overlap, generated, ⟨file, hfile, hcurrent⟩, hread, ⟨input.entropy, ?_⟩, hkey,
    hoverlap⟩
  exact Option.bind_eq_some_iff.mpr ⟨algorithm, toOption_eq_some.mpr halgorithm,
    toOption_eq_some.mpr (mapError_eq_ok.mp hgenerated)⟩

/-- **A rotation that succeeds.** It has read both files, and it leaves the replacement
and the staged keys. -/
theorem rotated_of_run (rot : Rotation) {env : Nat → RotateInput} {files : KeyFiles}
    {report : RotationReport} (hlive : rot.dryRun = false)
    (h : (rot.prog.run keyStore env files).outcome = .ok report) :
    ∃ current overlap generated,
      Rotated rot files (rot.prog.run keyStore env files).state current overlap generated := by
  have hends := ends_run keyStore rot.prog env files
  rw [h] at hends
  cases rot with
  | signingKey args => exact ends_rotateSigningKey hlive hends
  | pqcKey args => exact ends_rotatePqcKey hlive hends

/-! ### A rotation that is not disturbed -/

section Undisturbed

/-- Nothing fails, and there is one source of randomness. -/
def Quiet (entropy : Bytes) (input : RotateInput) : Prop := input = ⟨none, entropy⟩

variable {s : KeyFiles} {file : StoredFile} {current : PublicJwk} {overlap : List PublicJwk}
  {generated : GeneratedKey} {entropy : Bytes}

/-- A call whose answer passes the check on it. -/
theorem yields_call {α β : Type} {c : RotateCall} {check : c.Answer → Except CliError β}
    {f : β → RotateProg α} {s s' : KeyFiles} {b : β} {result : Except CliError α}
    (hcheck : check (rotateAnswer c ⟨none, entropy⟩ s).1 = .ok b)
    (hf : Yields keyStore (Quiet entropy) (f b) (rotateAnswer c ⟨none, entropy⟩ s).2 result s') :
    Yields keyStore (Quiet entropy)
      (perform (σ := rotation) c >>= fun a => ofExcept (check a) >>= f) s result s' := by
  have hperform : Yields keyStore (Quiet entropy) (perform (σ := rotation) c : RotateProg _) s
      (.ok (rotateAnswer c ⟨none, entropy⟩ s).1) (rotateAnswer c ⟨none, entropy⟩ s).2 := by
    refine yields_perform fun input hinput => ?_
    rw [hinput]
    rfl
  refine yields_bind hperform ?_
  rw [hcheck, ofExcept_ok, done_bind]
  exact hf

/-- The lock is free, and nothing fails: the rotation gets it. -/
theorem rotateAnswer_acquireLock (entropy : Bytes) (hfree : s.locked = false) :
    rotateAnswer RotateCall.acquireLock ⟨none, entropy⟩ s =
      ((.ok () : Except IoError Unit), { s with locked := true }) := by
  simp only [rotateAnswer, hfree]
  rfl

/-- Work under the lock. -/
theorem yields_underLock {α : Type} {path : String} {p : RotateProg α} {result : Except CliError α}
    {keyFile overlapFile : Option StoredFile} (hfree : s.locked = false)
    (h : Yields keyStore (Quiet entropy) p { s with locked := true } result
      ⟨true, keyFile, overlapFile⟩) :
    Yields keyStore (Quiet entropy)
      (acquireRotationLock path >>= fun _ => p.ensuring RotateCall.releaseLock) s result
      ⟨false, keyFile, overlapFile⟩ := by
  have hacquire := rotateAnswer_acquireLock entropy hfree
  rw [acquireRotationLock, bind_assoc]
  refine yields_call (by rw [hacquire]; rfl) ?_
  rw [hacquire]
  refine yields_ensuring h fun input hinput => ?_
  rw [hinput]
  rfl

/-- What an RSA rotation does under the lock, with files it can read. -/
theorem yields_rotateSigningKey_locked {args : RotateArgs}
    (hfile : s.keyFile = some file)
    (hcurrent : currentSigningKey args.keyFile file.text = .ok current)
    (hoverlap : overlapKeys s.overlapFile = .ok overlap)
    (hgenerated : RsaJoseSigner.generatePrivateJwk entropy = .ok generated) :
    Yields keyStore (Quiet entropy) (RotateSigningKey.locked args) s
      (.ok ⟨true, current.kid, some generated.publicJwk.kid, none,
        some (otherKeys current generated.publicJwk overlap ++ [current]).length⟩)
      ⟨s.locked, some ⟨.json generated.privateJwk, 0o600⟩, some ⟨.json (JwksDocument.toValue
        ⟨otherKeys current generated.publicJwk overlap ++ [current]⟩), 0o644⟩⟩ := by
  rw [RotateSigningKey.locked, loadCurrentSigningKey, bind_assoc]
  refine yields_call (by simpa [rotateAnswer, readStored, hfile] using hcurrent) ?_
  rw [RotateSigningKey.afterCurrent]
  refine yields_call (mapError_eq_ok.mpr hgenerated) ?_
  rw [RotateSigningKey.afterGenerated, loadExistingOverlap, bind_assoc]
  refine yields_call ((existingOverlap_readStored rfl).trans hoverlap) ?_
  rw [RotateSigningKey.stage, replaceOverlapFile, bind_assoc]
  refine yields_call rfl ?_
  rw [RotateSigningKey.install, replaceKeyFile, bind_assoc]
  exact yields_call rfl (yields_done _ _)

/-- With a free lock and files it can read, an RSA rotation succeeds. -/
theorem yields_rotateSigningKey {args : RotateArgs} (hlive : args.dryRun = false)
    (hfree : s.locked = false) (hfile : s.keyFile = some file)
    (hcurrent : currentSigningKey args.keyFile file.text = .ok current)
    (hoverlap : overlapKeys s.overlapFile = .ok overlap)
    (hgenerated : RsaJoseSigner.generatePrivateJwk entropy = .ok generated) :
    Yields keyStore (Quiet entropy) (rotateSigningKey args) s
      (.ok ⟨true, current.kid, some generated.publicJwk.kid, none,
        some (otherKeys current generated.publicJwk overlap ++ [current]).length⟩)
      ⟨false, some ⟨.json generated.privateJwk, 0o600⟩, some ⟨.json (JwksDocument.toValue
        ⟨otherKeys current generated.publicJwk overlap ++ [current]⟩), 0o644⟩⟩ := by
  rw [rotateSigningKey, hlive, if_neg (by decide)]
  exact yields_underLock hfree
    (yields_rotateSigningKey_locked hfile hcurrent hoverlap hgenerated)

/-- What an ML-DSA rotation does under the lock. -/
theorem yields_rotatePqcKey_locked {args : PqcKeyRotateArgs} {algorithm : MlDsaAlgorithm}
    (halg : parseMldsaAlgorithm current.alg = .ok algorithm)
    (hgenerated : MlDsaJoseSigner.generatePrivateJwk algorithm args.kid entropy = .ok generated) :
    Yields keyStore (Quiet entropy) (RotatePqcKey.locked args current overlap) s
      (.ok ⟨true, current.kid, some generated.publicJwk.kid, some generated.publicJwk.alg, none⟩)
      ⟨s.locked, some ⟨.json generated.privateJwk, 0o600⟩, some ⟨.json (JwksDocument.toValue
        ⟨current :: otherKeys current generated.publicJwk overlap⟩), 0o644⟩⟩ := by
  rw [RotatePqcKey.locked, halg, ofExcept_ok, done_bind]
  refine yields_call (mapError_eq_ok.mpr hgenerated) ?_
  rw [RotatePqcKey.stage, replaceOverlapFile, bind_assoc]
  refine yields_call rfl ?_
  rw [RotatePqcKey.install, replaceKeyFile, bind_assoc]
  exact yields_call rfl (yields_done _ _)

/-- With a free lock, an ML-DSA rotation that has read the files succeeds. -/
theorem yields_lockAndRotate {args : PqcKeyRotateArgs} {algorithm : MlDsaAlgorithm}
    (hfree : s.locked = false) (halg : parseMldsaAlgorithm current.alg = .ok algorithm)
    (hgenerated : MlDsaJoseSigner.generatePrivateJwk algorithm args.kid entropy = .ok generated) :
    Yields keyStore (Quiet entropy) (RotatePqcKey.lockAndRotate args current overlap) s
      (.ok ⟨true, current.kid, some generated.publicJwk.kid, some generated.publicJwk.alg, none⟩)
      ⟨false, some ⟨.json generated.privateJwk, 0o600⟩, some ⟨.json (JwksDocument.toValue
        ⟨current :: otherKeys current generated.publicJwk overlap⟩), 0o644⟩⟩ :=
  yields_underLock hfree (yields_rotatePqcKey_locked halg hgenerated)

theorem yields_rotatePqcKey {args : PqcKeyRotateArgs} {result : Except CliError RotationReport}
    {s' : KeyFiles} (hlive : args.dryRun = false) (hfile : s.keyFile = some file)
    (hcurrent : currentPqcSigningKey args.keyFile file.text = .ok current)
    (hoverlap : overlapKeys s.overlapFile = .ok overlap)
    (h : Yields keyStore (Quiet entropy) (RotatePqcKey.lockAndRotate args current overlap) s
      result s') :
    Yields keyStore (Quiet entropy) (rotatePqcKey args) s result s' := by
  rw [rotatePqcKey, loadCurrentPqcSigningKey, bind_assoc]
  refine yields_call (by simpa [rotateAnswer, readStored, hfile] using hcurrent) ?_
  rw [loadExistingOverlap, bind_assoc]
  refine yields_call ((existingOverlap_readStored rfl).trans hoverlap) ?_
  rw [hlive, if_neg (by decide)]
  exact h

end Undisturbed

/-! ### Starting on what a rotation left -/

/-- The overlap keys are keys the rotation accepts. -/
theorem checked_of_overlapKeys {file : Option StoredFile} {overlap : List PublicJwk}
    (h : overlapKeys file = .ok overlap) : ∀ key ∈ overlap, CheckedJwk key := by
  intro key hmem
  cases file with
  | none =>
      cases h
      cases hmem
  | some file =>
      obtain ⟨text, mode⟩ := file
      cases text with
      | other raw => cases h
      | json value =>
          obtain ⟨objects, -, -, hkeys⟩ := parsePublicJwksDocument_eq_ok.mp h
          obtain ⟨_, -, -, hchecked⟩ := exists_of_forall₂_mem hkeys hmem
          exact hchecked

/-- The server accepts the key that is staged. -/
theorem accepted_of_currentKey (laws : LawfulRsa) (rot : Rotation) {text : FileText}
    {current : PublicJwk} (h : rot.currentKey text = .ok current) : AcceptedJwk current := by
  cases rot with
  | signingKey args =>
      obtain ⟨_, signer, -, -, hsigner, heq⟩ := currentSigningKey_eq_ok h ""
      rw [← heq]
      exact accepted_rsa laws hsigner
  | pqcKey args =>
      obtain ⟨_, _, signer, -, -, -, heq⟩ := currentPqcSigningKey_eq_ok h
      rw [← heq]
      exact accepted_mlDsa signer

/-- Every key in a list of staged keys is accepted exactly when those that were carried
over are for signatures. -/
theorem accepted_staged_iff {rot : Rotation} {file : Option StoredFile}
    {current generated : PublicJwk} {overlap : List PublicJwk}
    (hcurrent : AcceptedJwk current) (hoverlap : overlapKeys file = .ok overlap) :
    (∀ key ∈ rot.staged current generated overlap, AcceptedJwk key) ↔
      ∀ key ∈ otherKeys current generated overlap, key.use = "sig" := by
  have hchecked := checked_of_overlapKeys hoverlap
  constructor
  · intro haccepted key hmem
    exact (acceptedJwk_iff.mp (haccepted key (Rotation.mem_staged.mpr (Or.inr hmem)))).1
  · intro huse key hmem
    rcases Rotation.mem_staged.mp hmem with heq | hmem
    · rw [heq]
      exact hcurrent
    · have hkept : key ∈ overlap := (List.mem_filter.mp hmem).1
      exact acceptedJwk_iff.mpr ⟨huse key hmem, hchecked key hkept⟩

omit [Crates] [KeyCrates] in
theorem staged_ne_nil {rot : Rotation} {current generated : PublicJwk} {overlap : List PublicJwk} :
    rot.staged current generated overlap ≠ [] :=
  List.ne_nil_of_mem (Rotation.mem_staged.mpr (Or.inl rfl))

/-- What the server makes of the overlap file a rotation left. -/
theorem loadPublicJwksFile_staged (rot : Rotation) {file : Option StoredFile}
    {current generated : PublicJwk} {overlap : List PublicJwk} {label : String} {allow : Bool}
    {document : JwksDocument} (hcurrent : AcceptedJwk current)
    (hoverlap : overlapKeys file = .ok overlap) :
    loadPublicJwksFile ⟨.json (JwksDocument.toValue ⟨rot.staged current generated overlap⟩), 0o644⟩
        label allow = .ok document ↔
      (∀ key ∈ otherKeys current generated overlap, key.use = "sig") ∧
        document = ⟨rot.staged current generated overlap⟩ := by
  rw [loadPublicJwksFile_written staged_ne_nil, accepted_staged_iff hcurrent hoverlap]

/-- The replacement of an ML-DSA key has its algorithm. -/
theorem replacement_pqcKey {args : PqcKeyRotateArgs} {current : PublicJwk}
    {algorithm : MlDsaAlgorithm} {entropy : Bytes} {generated : GeneratedKey}
    (halg : current.alg = algorithm.joseAlg)
    (h : (Rotation.pqcKey args).replacement current entropy = some generated) :
    MlDsaJoseSigner.generatePrivateJwk algorithm args.kid entropy = .ok generated := by
  have hparse : parseMldsaAlgorithm current.alg = .ok algorithm := by
    simp [parseMldsaAlgorithm, halg, MlDsaAlgorithm.fromJoseAlg_joseAlg]
  obtain ⟨algorithm', halgorithm, hgenerated⟩ := Option.bind_eq_some_iff.mp h
  rw [hparse] at halgorithm
  cases halgorithm
  exact toOption_eq_some.mp hgenerated

/-- A server that ran with the old key file runs with the new one. -/
theorem loadFileSigner_replacement (laws : LawfulRsa) {rot : Rotation} {config : KeyFileConfig}
    {file : StoredFile} {signer : JoseSigner} {current : PublicJwk} {generated : GeneratedKey}
    {entropy : Bytes} (hload : loadFileSigner config file = .ok signer)
    (hcurrent : rot.currentKey file.text = .ok current)
    (hgenerated : rot.replacement current entropy = some generated) :
    ∃ signer', loadFileSigner config ⟨.json generated.privateJwk, 0o600⟩ = .ok signer' ∧
      signer'.publicJwk = generated.publicJwk := by
  cases rot with
  | signingKey args =>
      obtain ⟨hclassical, -⟩ := loadFileSigner_current hcurrent hload
      exact loadFileSigner_generated laws hclassical (toOption_eq_some.mp hgenerated)
  | pqcKey args =>
      obtain ⟨_, _, requested, algorithm, -, -, hpqc, hselected, halg, -⟩ :=
        loadFileSigner_currentPqc hcurrent hload
      exact loadFileSigner_generatedPqc hpqc hselected (replacement_pqcKey halg hgenerated)

/-- **What a rotation writes, the server loads, but for the use of the keys.** After a
rotation that succeeded the server loads the overlap file, and starts on both files with
a configuration it ran with before, exactly when every key that was carried over from the
old overlap file is for signatures. -/
theorem rotated_files_load_iff (laws : LawfulRsa) (rot : Rotation) {env : Nat → RotateInput}
    {files : KeyFiles} {report : RotationReport} (hlive : rot.dryRun = false)
    (h : (rot.prog.run keyStore env files).outcome = .ok report) :
    ∃ current overlap generated keyFile overlapFile,
      Rotated rot files (rot.prog.run keyStore env files).state current overlap generated ∧
      (rot.prog.run keyStore env files).state.keyFile = some keyFile ∧
      (rot.prog.run keyStore env files).state.overlapFile = some overlapFile ∧
      (∀ label allow, (∃ document, loadPublicJwksFile overlapFile label allow = .ok document) ↔
        ∀ key ∈ overlap, key.kid ≠ current.kid → key.kid ≠ generated.publicJwk.kid →
          key.use = "sig") ∧
      ∀ config file signer, files.keyFile = some file → loadFileSigner config file = .ok signer →
        ((∃ jwks, bootstrapJwks config keyFile (some overlapFile) = .ok jwks) ↔
          ∀ key ∈ overlap, key.kid ≠ current.kid → key.kid ≠ generated.publicJwk.kid →
            key.use = "sig") := by
  obtain ⟨current, overlap, generated, hrotated⟩ := rotated_of_run rot hlive h
  have hkept : (∀ key ∈ otherKeys current generated.publicJwk overlap, key.use = "sig") ↔
      ∀ key ∈ overlap, key.kid ≠ current.kid → key.kid ≠ generated.publicJwk.kid →
        key.use = "sig" := by
    simp [otherKeys]
  obtain ⟨file', hfile', hcurrent⟩ := hrotated.readsKey
  have haccepted := accepted_of_currentKey laws rot hcurrent
  -- the two keys of the rotation are for signatures, which leaves the keys carried over
  have hloads : ∀ label allow, (∃ document, loadPublicJwksFile ⟨.json (JwksDocument.toValue
      ⟨rot.staged current generated.publicJwk overlap⟩), 0o644⟩ label allow = .ok document) ↔
        ∀ key ∈ overlap, key.kid ≠ current.kid → key.kid ≠ generated.publicJwk.kid →
          key.use = "sig" := by
    intro label allow
    simp only [loadPublicJwksFile_staged rot haccepted hrotated.readsOverlap, exists_and_left, exists_eq,
      and_true, hkept]
  refine ⟨current, overlap, generated, _, _, hrotated, hrotated.writesKey, hrotated.writesOverlap,
    hloads, fun config file signer hfile hload => ?_⟩
  rw [hfile] at hfile'
  cases hfile'
  obtain ⟨entropy, hgenerated⟩ := hrotated.generates
  obtain ⟨signer', hload', -⟩ := loadFileSigner_replacement laws hload hcurrent hgenerated
  rw [← hloads "extra STS JWKS" config.allowInsecureJwks]
  simp only [bootstrapJwks, hload', ok_bind, bind_eq_ok, pure_eq_ok]
  constructor
  · intro hall
    obtain ⟨jwks, document, hdocument, _⟩ := hall
    exact ⟨document, hdocument⟩
  · intro hall
    obtain ⟨document, hdocument⟩ := hall
    exact ⟨_, document, hdocument, rfl⟩

end Rotations

open KeySample

namespace KeySample

theorem overlapKeys_files (keyFile : Json) {overlap : List PublicJwk}
    (hchecked : ∀ key ∈ overlap, CheckedJwk key) :
    overlapKeys (files keyFile overlap).overlapFile = .ok overlap := by
  cases overlap with
  | nil => rfl
  | cons key rest => exact parsePublicJwksDocument_toValue (List.cons_ne_nil _ _) hchecked _

def pqcArgs : PqcKeyRotateArgs := ⟨"sts-key.json", "extra-jwks.json", none, false⟩

theorem current_key0 (path : String) :
    currentPqcSigningKey path (.json key0.privateJwk) = .ok key0.publicJwk :=
  (generatePrivateJwk_mlDsa generate_key0).2.1 path

theorem checked_key1 : CheckedJwk key1.publicJwk :=
  checked_of_currentPqcSigningKey ((generatePrivateJwk_mlDsa generate_key1).2.1 "")

/-- A key that is not for signatures. -/
def encryptionKey : PublicJwk := { key1.publicJwk with use := "enc" }

theorem checked_encryptionKey : CheckedJwk encryptionKey := checked_key1

theorem encryptionKey_kept :
    encryptionKey ∈ otherKeys key0.publicJwk key2.publicJwk [encryptionKey] := by
  refine List.mem_filter.mpr ⟨List.mem_singleton.mpr rfl, ?_⟩
  rw [Bool.and_eq_true, bne_iff_ne, bne_iff_ne]
  exact ⟨kid_ne.1.symm, kid_ne.2.2⟩

/-- The rotation from the first key to the third. -/
theorem run_rotatePqcKey {overlap : List PublicJwk} (hchecked : ∀ key ∈ overlap, CheckedJwk key) :
    ∃ report t, (rotatePqcKey pqcArgs).run keyStore (fun _ => ⟨none, seed 2⟩)
        (files key0.privateJwk overlap) =
      ⟨.ok report, ⟨false, some ⟨.json key2.privateJwk, 0o600⟩, some ⟨.json (JwksDocument.toValue
        ⟨key0.publicJwk :: otherKeys key0.publicJwk key2.publicJwk overlap⟩), 0o644⟩⟩, t⟩ := by
  have hrotate : Yields keyStore (Quiet (seed 2)) (rotatePqcKey pqcArgs)
      (files key0.privateJwk overlap) _ _ :=
    yields_rotatePqcKey rfl rfl (current_key0 _) (overlapKeys_files _ hchecked)
      (yields_lockAndRotate rfl rfl generate_key2)
  exact ⟨_, hrotate (fun _ => ⟨none, seed 2⟩) fun _ => rfl⟩

end KeySample

/-- A rotation that succeeds and leaves an overlap file the server refuses: the overlap
file had a key for encryption. -/
theorem encryption_key_carried_over :
    ∃ report written,
      (((Rotation.pqcKey pqcArgs).prog.run keyStore (fun _ => ⟨none, seed 2⟩)
        (files key0.privateJwk [encryptionKey])).outcome = .ok report) ∧
      ((Rotation.pqcKey pqcArgs).prog.run keyStore (fun _ => ⟨none, seed 2⟩)
        (files key0.privateJwk [encryptionKey])).state.overlapFile =
          some written ∧
      ∀ label allow document, loadPublicJwksFile written label allow ≠ .ok document := by
  have hchecked : ∀ key ∈ [encryptionKey], CheckedJwk key := by
    intro key hmem
    rw [List.mem_singleton.mp hmem]
    exact checked_encryptionKey
  obtain ⟨report, t, hrun⟩ := run_rotatePqcKey hchecked
  refine ⟨report, _, congrArg Result.outcome hrun, congrArg (fun r => r.state.overlapFile) hrun, ?_⟩
  intro label allow document hload
  have hcurrent : (Rotation.pqcKey pqcArgs).currentKey (.json key0.privateJwk) =
      .ok key0.publicJwk := current_key0 pqcArgs.keyFile
  have haccepted := accepted_of_currentKey lawfulRsa (.pqcKey pqcArgs) hcurrent
  obtain ⟨huse, -⟩ := (loadPublicJwksFile_staged (.pqcKey pqcArgs) haccepted
    (overlapKeys_files key0.privateJwk hchecked)).mp hload
  exact absurd (huse _ encryptionKey_kept) (by decide)

/-- A rotation of a key file with one overlap key, and the files load. -/
theorem sample_rotated_files_load :
    ∃ report written document,
      ((Rotation.pqcKey pqcArgs).prog.run keyStore (fun _ => ⟨none, seed 2⟩)
        (files key0.privateJwk [key1.publicJwk])).outcome = .ok report ∧
      ((Rotation.pqcKey pqcArgs).prog.run keyStore (fun _ => ⟨none, seed 2⟩)
        (files key0.privateJwk [key1.publicJwk])).state.overlapFile = some written ∧
      loadPublicJwksFile written "extra STS JWKS" false = .ok document := by
  have hchecked : ∀ key ∈ [key1.publicJwk], CheckedJwk key := by
    intro key hmem
    rw [List.mem_singleton.mp hmem]
    exact checked_key1
  obtain ⟨report, t, hrun⟩ := run_rotatePqcKey hchecked
  have houtcome := congrArg Result.outcome hrun
  obtain ⟨current, overlap, generated, _, written, hrotated, -, hwritten, hloads, -⟩ :=
    rotated_files_load_iff lawfulRsa (.pqcKey pqcArgs) rfl houtcome
  have hread := hrotated.readsOverlap
  rw [overlapKeys_files _ hchecked] at hread
  cases hread
  obtain ⟨document, hdocument⟩ := (hloads "extra STS JWKS" false).mpr fun key hmem _ _ => by
    rw [List.mem_singleton.mp hmem]
    rfl
  exact ⟨report, written, document, houtcome, hwritten, hdocument⟩

end StsDelegate
