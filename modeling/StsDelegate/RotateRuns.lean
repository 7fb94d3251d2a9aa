import StsDelegate.RotateTokens

/-!
# RSA rotations that run at the same time

Any number of rotations share the key file, the overlap file and the lock file. Each may
be interrupted by the others after any call, and each may stop at any point for good.

The RSA rotation reads under the lock, so nothing happens between what it has read and
what it writes: both of its writes keep every published key, and so does every run.
-/

namespace StsDelegate

open Text Fallible Effectful Prog

section Rotations

variable [Crates] [KeyCrates]

/-! ### The published keys -/

/-- The key set a server publishes when it starts on these files, if it does. -/
def KeyFiles.published (config : KeyFileConfig) (s : KeyFiles) : Option JwksDocument :=
  s.keyFile.bind fun file => (bootstrapJwks config file s.overlapFile).toOption

/-- A server that starts on the first files starts on the second, and every id keeps its
key. -/
def KeepsPublished (config : KeyFileConfig) (s s' : KeyFiles) : Prop :=
  ∀ jwks, s.published config = some jwks →
    ∃ jwks', s'.published config = some jwks' ∧ KeepsKeys jwks.keys jwks'.keys

theorem published_eq_some {config : KeyFileConfig} {s : KeyFiles} {jwks : JwksDocument} :
    s.published config = some jwks ↔ ∃ file signer keys, s.keyFile = some file ∧
      loadFileSigner config file = .ok signer ∧ ServesOverlap config s.overlapFile keys ∧
      jwks = ⟨addKeys [signer.publicJwk] keys⟩ := by
  simp only [KeyFiles.published, Option.bind_eq_some_iff, toOption_eq_some, bootstrapJwks_eq_ok]
  constructor
  · intro ⟨file, hfile, signer, keys, h⟩
    exact ⟨file, signer, keys, hfile, h⟩
  · intro ⟨file, signer, keys, hfile, h⟩
    exact ⟨file, hfile, signer, keys, h⟩

theorem KeepsPublished.refl {config : KeyFileConfig} (s : KeyFiles) : KeepsPublished config s s :=
  fun jwks h => ⟨jwks, h, fun _ _ hkey => hkey⟩

theorem KeepsPublished.trans {config : KeyFileConfig} {s s' s'' : KeyFiles}
    (h : KeepsPublished config s s') (h' : KeepsPublished config s' s'') :
    KeepsPublished config s s'' := by
  intro jwks hjwks
  obtain ⟨jwks', hjwks', hkeeps⟩ := h jwks hjwks
  obtain ⟨jwks'', hjwks'', hkeeps'⟩ := h' jwks' hjwks'
  exact ⟨jwks'', hjwks'', fun kid key hkey => hkeeps' kid key (hkeeps kid key hkey)⟩

/-- The lock file does not matter to a server. -/
theorem keepsPublished_locked {config : KeyFileConfig} (s : KeyFiles) (locked : Bool) :
    KeepsPublished config s { s with locked := locked } := KeepsPublished.refl s

/-! ### Both writes of an RSA rotation keep the published keys -/

section Writes

variable {config : KeyFileConfig} {s : KeyFiles} {path : String} {file : StoredFile}
  {current : PublicJwk} {overlap : List PublicJwk} {generated : GeneratedKey}

/-- The overlap file is replaced. -/
theorem keepsPublished_stage (laws : LawfulRsa) (args : RotateArgs) (hfile : s.keyFile = some file)
    (hcurrent : currentSigningKey args.keyFile file.text = .ok current)
    (hoverlap : overlapKeys s.overlapFile = .ok overlap)
    (hfresh : ∀ key ∈ overlap, key.kid ≠ generated.publicJwk.kid) :
    KeepsPublished config s { s with overlapFile := some ⟨.json (JwksDocument.toValue
      ⟨otherKeys current generated.publicJwk overlap ++ [current]⟩), 0o644⟩ } := by
  intro jwks hjwks
  obtain ⟨file', signer, keys, hfile', hload, hserves, heq⟩ := published_eq_some.mp hjwks
  rw [hfile] at hfile'
  cases hfile'
  obtain ⟨hagree, haccepted⟩ := hserves.agree hoverlap
  subst hagree heq
  obtain ⟨-, hpublic⟩ := loadFileSigner_current hcurrent hload
  have huse : ∀ key ∈ otherKeys current generated.publicJwk overlap, key.use = "sig" := by
    intro key hmem
    exact (acceptedJwk_iff.mp (haccepted key (List.mem_filter.mp hmem).1)).1
  have hserves' : ServesOverlap config (some ⟨.json (JwksDocument.toValue
      ⟨otherKeys current generated.publicJwk overlap ++ [current]⟩), 0o644⟩)
      (otherKeys current generated.publicJwk overlap ++ [current]) :=
    (loadPublicJwksFile_staged (.signingKey args)
      (accepted_of_currentKey laws (.signingKey args) hcurrent) hoverlap).mpr ⟨huse, rfl⟩
  refine ⟨_, published_eq_some.mpr ⟨file, signer, _, hfile, hload, hserves', rfl⟩, ?_⟩
  rw [hpublic]
  exact keepsKeys_stage hfresh

/-- The key file is replaced, after the current key was staged. -/
theorem keepsPublished_install (laws : LawfulRsa) (args : RotateArgs) {overlapFile : Option StoredFile}
    {entropy : Bytes} (hfile : s.keyFile = some file)
    (hcurrent : currentSigningKey args.keyFile file.text = .ok current)
    (hoverlap : overlapKeys overlapFile = .ok overlap)
    (hstaged : s.overlapFile = some ⟨.json (JwksDocument.toValue
      ⟨otherKeys current generated.publicJwk overlap ++ [current]⟩), 0o644⟩)
    (hgenerated : RsaJoseSigner.generatePrivateJwk entropy = .ok generated)
    (hne : current.kid ≠ generated.publicJwk.kid) :
    KeepsPublished config s { s with keyFile := some ⟨.json generated.privateJwk, 0o600⟩ } := by
  intro jwks hjwks
  obtain ⟨file', signer, keys, hfile', hload, hserves, heq⟩ := published_eq_some.mp hjwks
  rw [hfile] at hfile'
  cases hfile'
  obtain ⟨hclassical, hpublic⟩ := loadFileSigner_current hcurrent hload
  obtain ⟨signer', hload', hpublic'⟩ := loadFileSigner_generated laws hclassical hgenerated
  have hserves' := hserves
  rw [hstaged] at hserves'
  obtain ⟨-, hkeys⟩ := (loadPublicJwksFile_staged (.signingKey args)
    (accepted_of_currentKey laws (.signingKey args) hcurrent) hoverlap).mp hserves'
  refine ⟨_, published_eq_some.mpr ⟨_, signer', keys, rfl, hload', hserves, rfl⟩, ?_⟩
  cases hkeys
  rw [heq, hpublic, hpublic']
  exact keepsKeys_install hne

end Writes

/-! ### Runs of RSA rotations -/

/-- The id is neither that of the key in the key file nor that of an overlap key. -/
structure FreshKid (s : KeyFiles) (kid : String) : Prop where
  key : ∀ path file current, s.keyFile = some file →
    currentSigningKey path file.text = .ok current → current.kid ≠ kid
  overlap : ∀ overlap, overlapKeys s.overlapFile = .ok overlap → ∀ key ∈ overlap, key.kid ≠ kid

/-- An RSA key that is generated has a fresh id. -/
def FreshRsaKey (c : RotateCall) (input : RotateInput) (s : KeyFiles) : Prop :=
  c = .generateRsa → ∀ generated, RsaJoseSigner.generatePrivateJwk input.entropy = .ok generated →
    FreshKid s generated.publicJwk.kid

/-- A step of a pool of RSA rotations that generates, if it does, a key with a fresh id. -/
def FreshRsaKeys {Q : Type} : Q → RotateProg RotationReport → RotateInput → KeyFiles → Prop :=
  fun _ p input s => ∀ c k, p = .call c k → FreshRsaKey c input s

/-- The lock of the rotations, around changes that keep the published keys. -/
def publishedLock (config : KeyFileConfig) : Locking keyStore where
  taken s := s.locked = true
  release := RotateCall.releaseLock
  guard := FreshRsaKey
  R := KeepsPublished config
  refl := KeepsPublished.refl
  trans := KeepsPublished.trans
  release_step input s := by
    cases hfailure : input.failure with
    | some text =>
        simp only [keyStore, rotateAnswer, hfailure]
        exact KeepsPublished.refl s
    | none =>
        simp only [keyStore, rotateAnswer, hfailure]
        exact keepsPublished_locked s false

/-- While it holds the lock, a rotation keeps the published keys. -/
theorem keeps_rotateSigningKey_locked (laws : LawfulRsa) (config : KeyFileConfig) (args : RotateArgs)
    {s : KeyFiles} (hlocked : s.locked = true) :
    (publishedLock config).Keeps (RotateSigningKey.locked args) s := by
  have hrefl : KeepsPublished config s s := KeepsPublished.refl s
  rw [RotateSigningKey.locked, loadCurrentSigningKey, bind_assoc]
  intro readKey _
  refine ⟨hlocked, hrefl, Locking.keeps_ofExcept_bind fun current hcurrent => ?_⟩
  obtain ⟨text, hread, hcurrent⟩ := bind_eq_ok.mp hcurrent
  obtain ⟨file, hfile, htext⟩ := keyFile_of_read (mapError_eq_ok.mp hread)
  rw [← htext] at hcurrent
  rw [RotateSigningKey.afterCurrent]
  intro generate hfresh
  refine ⟨hlocked, hrefl, Locking.keeps_ofExcept_bind fun generated hgenerated => ?_⟩
  have hgenerated := mapError_eq_ok.mp hgenerated
  have hfresh := hfresh rfl generated hgenerated
  rw [RotateSigningKey.afterGenerated, loadExistingOverlap, bind_assoc]
  intro readOverlap _
  refine ⟨hlocked, hrefl, Locking.keeps_ofExcept_bind fun overlap hoverlap => ?_⟩
  have hoverlap := overlapKeys_of_read hoverlap
  -- everything that was read is still there; what follows are the two writes
  rw [RotateSigningKey.stage, replaceOverlapFile, bind_assoc]
  intro writeOverlap _
  cases hstaged : writeOverlap.failure with
  | some text =>
      simp only [keyStore, rotateAnswer, hstaged]
      exact ⟨hlocked, hrefl, trivial⟩
  | none =>
      simp only [keyStore, rotateAnswer, hstaged]
      refine ⟨hlocked, keepsPublished_stage laws args hfile hcurrent hoverlap
        (hfresh.overlap overlap hoverlap), ?_⟩
      show (publishedLock config).Keeps (RotateSigningKey.install current generated _) _
      rw [RotateSigningKey.install, replaceKeyFile, bind_assoc]
      intro writeKey _
      cases hinstalled : writeKey.failure with
      | some text =>
          simp only [keyStore, rotateAnswer, hinstalled]
          exact ⟨hlocked, KeepsPublished.refl _, trivial⟩
      | none =>
          simp only [keyStore, rotateAnswer, hinstalled]
          exact ⟨hlocked, keepsPublished_install laws args hfile hcurrent hoverlap rfl hgenerated
            (hfresh.key _ file current hfile hcurrent), trivial⟩

/-- A rotation waits for the lock, or only reads. -/
theorem orderly_rotateSigningKey (laws : LawfulRsa) (config : KeyFileConfig) (args : RotateArgs) :
    (publishedLock config).Orderly FreshRsaKeys args (rotateSigningKey args) := by
  unfold rotateSigningKey
  split
  · -- a dry run reads both files and ends
    rw [loadCurrentSigningKey, bind_assoc]
    intro readKey s _
    refine Or.inl ⟨Locking.orderly_ofExcept_bind fun current _ => ?_, rfl⟩
    rw [loadExistingOverlap, bind_assoc]
    intro readOverlap s' _
    exact Or.inl ⟨Locking.orderly_ofExcept_bind fun overlap _ => trivial, rfl⟩
  · rw [acquireRotationLock, bind_assoc]
    intro acquire s _
    cases hfailure : acquire.failure with
    | some text =>
        simp only [keyStore, rotateAnswer, hfailure]
        exact Or.inl ⟨trivial, trivial⟩
    | none =>
        by_cases htaken : s.locked = true
        · simp only [keyStore, rotateAnswer, hfailure, htaken, if_true]
          exact Or.inl ⟨trivial, trivial⟩
        · simp only [keyStore, rotateAnswer, hfailure, htaken]
          refine Or.inr ⟨htaken, rfl, keepsPublished_locked s true, RotateSigningKey.locked args, rfl,
            keeps_rotateSigningKey_locked laws config args rfl⟩

/-- RSA rotations take turns. -/
def signingKeyTurns (laws : LawfulRsa) (config : KeyFileConfig) :
    Turns keyStore rotateSigningKey FreshRsaKeys :=
  (publishedLock config).turns rotateSigningKey (fun hok => hok _ _ rfl)
    (orderly_rotateSigningKey laws config)

/-- Taking the lock, or failing to, leaves the files alone. -/
theorem acquireLock_files (input : RotateInput) (s : KeyFiles) :
    ∃ locked, (keyStore.answer RotateCall.acquireLock input s).2 = { s with locked := locked } := by
  cases hfailure : input.failure with
  | some text => exact ⟨s.locked, by simp [keyStore, rotateAnswer, hfailure]⟩
  | none =>
      by_cases hlocked : s.locked = true
      · refine ⟨s.locked, ?_⟩
        simp only [keyStore, rotateAnswer, hfailure, hlocked, if_true]
        rw [← hlocked]
      · exact ⟨true, by simp only [keyStore, rotateAnswer, hfailure, hlocked]; rfl⟩

theorem freshRsaKeys_of_ne {Q : Type} {q : Q} {c : RotateCall}
    {k : c.Answer → RotateProg RotationReport} {input : RotateInput} {s : KeyFiles}
    (h : c ≠ .generateRsa) : FreshRsaKeys q (Prog.call (σ := rotation) c k) input s := by
  intro c' k' heq hc
  cases heq
  exact absurd hc h

/-- A rotation that is not disturbed generates a fresh key if the id is fresh in the
files it finds. -/
theorem runOk_rotateSigningKey {args : RotateArgs} {env : Nat → RotateInput} {s : KeyFiles}
    (hfresh : ∀ n generated, RsaJoseSigner.generatePrivateJwk (env n).entropy = .ok generated →
      FreshKid s generated.publicJwk.kid) :
    Pool.RunOk keyStore FreshRsaKeys args (rotateSigningKey args) env s := by
  have hrelease : ∀ {input : RotateInput} {s : KeyFiles} k, FreshRsaKeys args
      (Prog.call (σ := rotation) RotateCall.releaseLock k) input s :=
    fun k => freshRsaKeys_of_ne (by simp)
  unfold rotateSigningKey
  split
  · rw [loadCurrentSigningKey, bind_assoc]
    refine ⟨freshRsaKeys_of_ne (by simp), Pool.runOk_ofExcept_bind fun current _ => ?_⟩
    rw [loadExistingOverlap, bind_assoc]
    exact ⟨freshRsaKeys_of_ne (by simp), Pool.runOk_ofExcept_bind fun overlap _ => trivial⟩
  · rw [acquireRotationLock, bind_assoc]
    refine ⟨freshRsaKeys_of_ne (by simp), Pool.runOk_ofExcept_bind fun _ _ => ?_⟩
    obtain ⟨locked, hlocked⟩ := acquireLock_files (env 0) s
    rw [hlocked, RotateSigningKey.locked, loadCurrentSigningKey, bind_assoc]
    refine ⟨freshRsaKeys_of_ne (by simp),
      Pool.runOk_ensuring_ofExcept_bind hrelease fun current _ => ?_⟩
    rw [RotateSigningKey.afterCurrent]
    refine ⟨?_, Pool.runOk_ensuring_ofExcept_bind hrelease fun generated _ => ?_⟩
    -- the one step that generates a key
    · intro c k _ _ generated hgenerated
      obtain ⟨hkey, hoverlap⟩ := hfresh _ generated hgenerated
      exact ⟨hkey, hoverlap⟩
    rw [RotateSigningKey.afterGenerated, loadExistingOverlap, bind_assoc]
    refine ⟨freshRsaKeys_of_ne (by simp),
      Pool.runOk_ensuring_ofExcept_bind hrelease fun overlap _ => ?_⟩
    rw [RotateSigningKey.stage, replaceOverlapFile, bind_assoc]
    refine ⟨freshRsaKeys_of_ne (by simp),
      Pool.runOk_ensuring_ofExcept_bind hrelease fun _ _ => ?_⟩
    rw [RotateSigningKey.install, replaceKeyFile, bind_assoc]
    exact ⟨freshRsaKeys_of_ne (by simp),
      Pool.runOk_ensuring_ofExcept_bind hrelease fun _ _ => ⟨hrelease _, trivial⟩⟩

/-! ### Two rotations at the lock -/

/-- What a rotation ends with that finds the lock taken. -/
def lockTaken (keyFile : String) : CliError :=
  .runtime ("failed to acquire rotation lock " ++ keyFile ++ ".rotate.lock: " ++
    "File exists (os error 17)")

section Competing

variable {Q : Type} (handler : Q → RotateProg RotationReport)
  {ok : Q → RotateProg RotationReport → RotateInput → KeyFiles → Prop}
  {w : Pool rotation CliError RotationReport KeyFiles Q} {i j : Nat} {q q' : Q} {path : String}
  {f : Unit → RotateProg RotationReport}

/-- A rotation gets the lock. -/
theorem leads_lockAcquired (entropy : Bytes)
    (hi : w.threads[i]? = some (q, acquireRotationLock path >>= f)) (hfree : w.state.locked = false)
    (hok : ok q (acquireRotationLock path >>= f) ⟨none, entropy⟩ w.state) :
    ∃ log, Pool.LeadsAlong keyStore handler (Pool.StepOk ok) w
      ⟨{ w.state with locked := true }, w.threads.set i (q, f ()), log⟩ := by
  have hanswer : keyStore.answer RotateCall.acquireLock ⟨none, entropy⟩ w.state = _ :=
    rotateAnswer_acquireLock entropy hfree
  rw [acquireRotationLock, bind_assoc] at hi hok
  obtain ⟨log, hleads⟩ := Pool.leads_check keyStore handler ⟨none, entropy⟩ hi
    (by rw [hanswer]; rfl) hok
  rw [hanswer] at hleads
  exact ⟨log, hleads⟩

/-- The lock is taken: the rotation fails, and leaves everything as it is. -/
theorem leads_lockTaken (entropy : Bytes)
    (hi : w.threads[i]? = some (q, acquireRotationLock path >>= f)) (htaken : w.state.locked = true)
    (hok : ok q (acquireRotationLock path >>= f) ⟨none, entropy⟩ w.state) :
    ∃ log, Pool.LeadsAlong keyStore handler (Pool.StepOk ok) w
      ⟨w.state, w.threads.set i (q, .fail (lockTaken path)), log⟩ := by
  have hanswer : keyStore.answer RotateCall.acquireLock ⟨none, entropy⟩ w.state =
      ((.error ⟨false, "File exists (os error 17)"⟩ : Except IoError Unit), w.state) := by
    simp only [keyStore, rotateAnswer, htaken, if_true]
    rfl
  rw [acquireRotationLock, bind_assoc] at hi hok
  obtain ⟨log, hleads⟩ := Pool.leads_call keyStore handler ⟨none, entropy⟩ hi hok
  rw [hanswer] at hleads
  exact ⟨log, hleads⟩

/-- A rotation makes its last call. -/
theorem leads_lockReleased {result : Except CliError RotationReport} {entropy : Bytes}
    (hi : w.threads[i]? = some (q, (ofExcept result).ensuring RotateCall.releaseLock))
    (hok : Pool.RunOk keyStore ok q ((ofExcept result).ensuring RotateCall.releaseLock)
      (fun _ => ⟨none, entropy⟩) w.state) :
    ∃ log, Pool.LeadsAlong keyStore handler (Pool.StepOk ok) w
      ⟨{ w.state with locked := false }, w.threads.set i (q, ofExcept result), log⟩ := by
  cases result with
  | ok report => exact Pool.leads_call keyStore handler ⟨none, entropy⟩ hi hok.1
  | error err => exact Pool.leads_call keyStore handler ⟨none, entropy⟩ hi hok.1

/-- One rotation gets the lock and goes through its work; before it releases the lock,
another tries to take it. -/
theorem leads_competing {p : RotateProg RotationReport} {path' : String} {entropy : Bytes}
    {result : Except CliError RotationReport} {s : KeyFiles} (hij : i ≠ j)
    (hi : w.threads[i]? = some (q, acquireRotationLock path >>= fun _ => p.ensuring RotateCall.releaseLock))
    (hj : w.threads[j]? = some (q', acquireRotationLock path' >>= f))
    (hfree : w.state.locked = false)
    (hp : Yields keyStore (Quiet entropy) p { w.state with locked := true } result s)
    (htaken : s.locked = true)
    (hok : Pool.RunOk keyStore ok q (acquireRotationLock path >>= fun _ =>
      p.ensuring RotateCall.releaseLock) (fun _ => ⟨none, entropy⟩) w.state)
    (hrefused : ok q' (acquireRotationLock path' >>= f) ⟨none, entropy⟩ s) :
    ∃ log, Pool.LeadsAlong keyStore handler (Pool.StepOk ok) w ⟨{ s with locked := false },
      (w.threads.set i (q, ofExcept result)).set j (q', .fail (lockTaken path')), log⟩ := by
  have hlt : i < w.threads.length := (List.getElem?_eq_some_iff.mp hi).1
  have hanswer : keyStore.answer RotateCall.acquireLock ⟨none, entropy⟩ w.state = _ :=
    rotateAnswer_acquireLock entropy hfree
  obtain ⟨log₁, hacquired⟩ := leads_lockAcquired handler entropy hi hfree hok.1
  have hwork := hok.2
  rw [hanswer] at hwork
  -- it works until its last call, which is still to be made
  obtain ⟨hworked, hrest⟩ := Pool.leads_run_within keyStore handler
    (fun p => p.ensuring RotateCall.releaseLock) (fun _ _ => rfl) ok ⟨_, _, log₁⟩ i q p _
    (List.getElem?_set_self hlt) hwork
  obtain ⟨t, hrun⟩ := hp (fun _ => ⟨none, entropy⟩) fun _ => rfl
  simp only [hrun, List.set_set] at hworked hrest
  obtain ⟨log₂, hrefused⟩ := leads_lockTaken handler (w := ⟨s, _, _⟩) entropy
    ((List.getElem?_set_ne hij).trans hj) htaken hrefused
  obtain ⟨log₃, hreleased⟩ := leads_lockReleased handler (w := ⟨s, _, log₂⟩)
    ((List.getElem?_set_ne hij.symm).trans (List.getElem?_set_self hlt)) hrest
  rw [List.set_comm _ _ hij.symm, List.set_set] at hreleased
  exact ⟨log₃, ((hacquired.trans hworked).trans hrefused).trans hreleased⟩

end Competing

/-- **Published keys stay published.** Any number of RSA rotations, interleaved in any
way and stopped at any point: a key that a server would publish at some moment is
published at every later moment, and so every token that was verifiable stays so. -/
theorem published_keys_stay (laws : LawfulRsa) (config : KeyFileConfig) {files : KeyFiles}
    {before after : List (Move RotateArgs RotateInput)}
    {w w' : Pool rotation CliError RotationReport KeyFiles RotateArgs} {jwks : JwksDocument}
    (hfresh : Pool.Along keyStore rotateSigningKey (Pool.StepOk FreshRsaKeys)
      (Pool.initial files) (before ++ after))
    (hbefore : (Pool.initial files).exec keyStore rotateSigningKey before = some w)
    (hafter : w.exec keyStore rotateSigningKey after = some w')
    (hjwks : w.state.published config = some jwks) :
    ∃ jwks', w'.state.published config = some jwks' ∧ (∀ key ∈ jwks.keys, key ∈ jwks'.keys) ∧
      ∀ (T : Type) (fromSlice : Bytes → Except String T) token allowedAlgs v,
        verifyClaimsAgainstJwksInner fromSlice token jwks allowedAlgs = .ok v →
        verifyClaimsAgainstJwksInner fromSlice token jwks' allowedAlgs = .ok v := by
  obtain ⟨hfreshBefore, hfreshAfter⟩ := (Pool.along_append hbefore).mp hfresh
  obtain ⟨⟨holder, htaken⟩, -⟩ :=
    (Turns.taken_initial (signingKeyTurns laws config) files).run hfreshBefore hbefore
  obtain ⟨-, hkeeps⟩ := htaken.run hfreshAfter hafter
  obtain ⟨jwks', hjwks', hkeys⟩ : ∃ jwks', w'.state.published config = some jwks' ∧
      KeepsKeys jwks.keys jwks'.keys := hkeeps jwks hjwks
  refine ⟨jwks', hjwks', fun key hmem => ?_, fun T fromSlice token allowedAlgs v hverified =>
    verify_of_lookup hkeys hverified⟩
  obtain ⟨file, signer, keys, -, -, -, heq⟩ := published_eq_some.mp hjwks
  rw [heq] at hmem
  refine mem_of_lookupKey (hkeys key.kid key ?_)
  rw [heq]
  exact lookupKey_of_mem hmem

end Rotations

open KeySample

namespace KeySample

/-- A server with an RSA key. -/
def rsaConfig : KeyFileConfig := ⟨"RS256", "sts-delegate-key-1", false, false⟩

def rsaArgs : RotateArgs := ⟨"sts-key.json", "extra-jwks.json", false⟩

theorem current_rsaKey0 (path : String) :
    currentSigningKey path (.json rsaKey0.privateJwk) = .ok rsaKey0.publicJwk :=
  currentSigningKey_generated lawfulRsa generate_rsaKey0 (by decide +kernel) path

/-- The server publishes the first RSA key. -/
theorem published_rsaKey0 :
    (files rsaKey0.privateJwk []).published rsaConfig = some ⟨[rsaKey0.publicJwk]⟩ := by
  have hclassical : BackendSelection.parse rsaConfig.stsSigningAlg = .classical := rfl
  obtain ⟨signer, hload, hpublic⟩ :=
    loadFileSigner_generated lawfulRsa hclassical generate_rsaKey0
  exact published_eq_some.mpr ⟨_, signer, [], rfl, hload, rfl, by rw [hpublic]; rfl⟩

theorem freshKid_rsaKey1 : FreshKid (files rsaKey0.privateJwk []) rsaKey1.publicJwk.kid where
  key path file current hfile hcurrent := by
    cases hfile
    rw [current_rsaKey0 path] at hcurrent
    cases hcurrent
    exact rsaKid_ne
  overlap overlap hoverlap key hmem := by
    cases hoverlap
    cases hmem

end KeySample

/-- Two rotations. The first gets the lock and goes to the second RSA key; before it
releases the lock the other tries to take it, and fails. The first key is still
published. -/
theorem sample_published_keys_stay :
    ∃ ms w report jwks, (Pool.initial (files rsaKey0.privateJwk [])).exec keyStore rotateSigningKey
        ms = some w ∧
      w.threads = [(rsaArgs, .done report), (rsaArgs, .fail (lockTaken rsaArgs.keyFile))] ∧
      w.state.keyFile = some ⟨.json rsaKey1.privateJwk, 0o600⟩ ∧
      w.state.published rsaConfig = some jwks ∧ rsaKey0.publicJwk ∈ jwks.keys := by
  have hwork : Yields keyStore (Quiet [1]) (RotateSigningKey.locked rsaArgs)
      { files rsaKey0.privateJwk [] with locked := true } _ _ :=
    yields_rotateSigningKey_locked rfl (current_rsaKey0 _) rfl generate_rsaKey1
  have hfresh : Pool.RunOk keyStore FreshRsaKeys rsaArgs (rotateSigningKey rsaArgs)
      (fun _ => ⟨none, [1]⟩) (files rsaKey0.privateJwk []) := by
    refine runOk_rotateSigningKey fun _ generated hgenerated => ?_
    rw [generate_rsaKey1] at hgenerated
    cases hgenerated
    exact freshKid_rsaKey1
  have hfirst := Pool.leads_start keyStore rotateSigningKey FreshRsaKeys
    (Pool.initial (files rsaKey0.privateJwk [])) rsaArgs
  have hsecond := hfirst.trans (Pool.leads_start keyStore rotateSigningKey FreshRsaKeys _ rsaArgs)
  obtain ⟨log, hcompeting⟩ := leads_competing rotateSigningKey
    (w := ⟨files rsaKey0.privateJwk [], [(rsaArgs, rotateSigningKey rsaArgs),
      (rsaArgs, rotateSigningKey rsaArgs)], []⟩) (i := 0) (j := 1) (by decide) rfl rfl rfl hwork rfl
    hfresh (freshRsaKeys_of_ne (by simp))
  obtain ⟨ms, hexec, halong⟩ := hsecond.trans hcompeting
  have hbefore : (Pool.initial (files rsaKey0.privateJwk [])).exec keyStore rotateSigningKey [] =
      some (Pool.initial _) := rfl
  obtain ⟨jwks, hjwks, hkeys, -⟩ :=
    published_keys_stay lawfulRsa rsaConfig halong hbefore hexec published_rsaKey0
  exact ⟨ms, _, _, jwks, hexec, rfl, rfl, hjwks, hkeys _ (List.mem_singleton.mpr rfl)⟩

end StsDelegate
