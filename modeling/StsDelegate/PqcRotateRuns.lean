import StsDelegate.RotateRuns

/-!
# ML-DSA rotations that run at the same time

The ML-DSA rotation reads both files before it takes the lock, so another rotation may
have replaced them when it gets the lock. A run of such rotations loses no key as long as
each of them, when it gets the lock, still finds what it has read; otherwise it may.
-/

namespace StsDelegate

open Text Fallible Effectful Prog

section Rotations

variable [Crates] [KeyCrates]

/-! ### Runs of ML-DSA rotations -/

/-- The key in the key file, as an ML-DSA rotation reads it. -/
def KeyFiles.installedKey (s : KeyFiles) : Option PublicJwk :=
  s.keyFile.bind fun file => (currentPqcSigningKey "" file.text).toOption

/-- The path only names the file in an error. -/
theorem currentPqcSigningKey_path {path : String} {text : FileText} {current : PublicJwk}
    (h : currentPqcSigningKey path text = .ok current) (path' : String) :
    currentPqcSigningKey path' text = .ok current := by
  cases text with
  | other raw => cases h
  | json value =>
      simp only [currentPqcSigningKey, bind_eq_ok, okOr_eq_ok, rejectIf_eq_ok, mapError_eq_ok] at h ⊢
      exact h

theorem installedKey_of_read {s : KeyFiles} {path : String} {file : StoredFile}
    {current : PublicJwk} (hfile : s.keyFile = some file)
    (h : currentPqcSigningKey path file.text = .ok current) : s.installedKey = some current := by
  rw [KeyFiles.installedKey, hfile, Option.bind_some, toOption_eq_some]
  exact currentPqcSigningKey_path h ""

/-- A key that is not lost: it is in the key file, or it is an overlap key and the next
rotation will not drop it. -/
def Kept (s : KeyFiles) (key : PublicJwk) : Prop :=
  s.installedKey = some key ∨ ∃ overlap, overlapKeys s.overlapFile = .ok overlap ∧ key ∈ overlap ∧
    ∀ current, s.installedKey = some current → current.kid ≠ key.kid

def KeepsInstalled (s s' : KeyFiles) : Prop := ∀ key, Kept s key → Kept s' key

/-- An ML-DSA key that is generated has a fresh id. -/
def FreshMlDsaKey (c : RotateCall) (input : RotateInput) (s : KeyFiles) : Prop :=
  ∀ algorithm kid generated, c = .generateMlDsa algorithm kid →
    MlDsaJoseSigner.generatePrivateJwk algorithm kid input.entropy = .ok generated →
    (∀ current, s.installedKey = some current → current.kid ≠ generated.publicJwk.kid) ∧
    ∀ overlap, overlapKeys s.overlapFile = .ok overlap →
      ∀ key ∈ overlap, key.kid ≠ generated.publicJwk.kid

section PqcWrites

variable {s : KeyFiles} {current generated : PublicJwk} {overlap : List PublicJwk}

theorem checked_of_installedKey (h : s.installedKey = some current) : CheckedJwk current := by
  obtain ⟨file, -, hcurrent⟩ := Option.bind_eq_some_iff.mp h
  exact checked_of_currentPqcSigningKey (toOption_eq_some.mp hcurrent)

/-- The overlap keys once the current key is staged. -/
theorem overlapKeys_staged {file : Option StoredFile} (hcurrent : CheckedJwk current)
    (hoverlap : overlapKeys file = .ok overlap) :
    overlapKeys (some ⟨.json (JwksDocument.toValue
      ⟨current :: otherKeys current generated overlap⟩), 0o644⟩) =
      .ok (current :: otherKeys current generated overlap) := by
  refine parsePublicJwksDocument_toValue (List.cons_ne_nil _ _) (fun key hmem => ?_) _
  rcases List.mem_cons.mp hmem with heq | hmem
  · exact heq ▸ hcurrent
  · exact checked_of_overlapKeys hoverlap key (List.mem_filter.mp hmem).1

/-- The overlap file is replaced. -/
theorem keepsInstalled_stage (hinstalled : s.installedKey = some current)
    (hoverlap : overlapKeys s.overlapFile = .ok overlap)
    (hfresh : ∀ key ∈ overlap, key.kid ≠ generated.kid) :
    KeepsInstalled s { s with overlapFile := some ⟨.json (JwksDocument.toValue
      ⟨current :: otherKeys current generated overlap⟩), 0o644⟩ } := by
  intro key hkept
  rcases hkept with hkey | ⟨overlap', hoverlap', hmem, hne⟩
  · exact Or.inl hkey
  · rw [hoverlap] at hoverlap'
    cases hoverlap'
    refine Or.inr ⟨_, overlapKeys_staged (checked_of_installedKey hinstalled) hoverlap, ?_, hne⟩
    refine List.mem_cons_of_mem _ (List.mem_filter.mpr ⟨hmem, ?_⟩)
    simp [hfresh key hmem, (hne current hinstalled).symm]

/-- The key file is replaced, after the current key was staged. -/
theorem keepsInstalled_install {algorithm : MlDsaAlgorithm} {kid : Option String}
    {entropy : Bytes} {replacement : GeneratedKey} {file : Option StoredFile}
    (hinstalled : s.installedKey = some current) (hoverlap : overlapKeys file = .ok overlap)
    (hstaged : s.overlapFile = some ⟨.json (JwksDocument.toValue
      ⟨current :: otherKeys current replacement.publicJwk overlap⟩), 0o644⟩)
    (hgenerated : MlDsaJoseSigner.generatePrivateJwk algorithm kid entropy = .ok replacement)
    (hne : current.kid ≠ replacement.publicJwk.kid) :
    KeepsInstalled s { s with keyFile := some ⟨.json replacement.privateJwk, 0o600⟩ } := by
  have hkeys : overlapKeys s.overlapFile =
      .ok (current :: otherKeys current replacement.publicJwk overlap) := by
    rw [hstaged]
    exact overlapKeys_staged (checked_of_installedKey hinstalled) hoverlap
  -- the overlap file was staged for this key: it holds the old one and all that were kept
  have hnew : ∀ installed, KeyFiles.installedKey
      { s with keyFile := some ⟨.json replacement.privateJwk, 0o600⟩ } = some installed →
        installed = replacement.publicJwk := by
    intro installed h
    rw [installedKey_of_read rfl ((generatePrivateJwk_mlDsa hgenerated).2.1 "")] at h
    exact (Option.some.inj h).symm
  intro key hkept
  rcases hkept with hkey | ⟨overlap', hoverlap', hmem, hne'⟩
  · rw [hinstalled] at hkey
    cases hkey
    refine Or.inr ⟨_, hkeys, List.mem_cons_self .., fun installed h => ?_⟩
    rw [hnew installed h]
    exact hne.symm
  · rw [hkeys] at hoverlap'
    cases hoverlap'
    refine Or.inr ⟨_, hkeys, hmem, fun installed h => ?_⟩
    rw [hnew installed h]
    rcases List.mem_cons.mp hmem with heq | hmem
    · exact absurd (congrArg PublicJwk.kid heq).symm (hne' current hinstalled)
    · have hkept := (List.mem_filter.mp hmem).2
      simp only [Bool.and_eq_true, bne_iff_ne] at hkept
      exact hkept.2.symm

end PqcWrites

/-- The lock of the rotations, around changes that lose no key. -/
def installedLock : Locking keyStore where
  taken s := s.locked = true
  release := RotateCall.releaseLock
  guard := FreshMlDsaKey
  R := KeepsInstalled
  refl _ _ h := h
  trans h h' key hkept := h' key (h key hkept)
  release_step input s := by
    cases hfailure : input.failure with
    | some text =>
        simp only [keyStore, rotateAnswer, hfailure]
        exact fun key hkept => hkept
    | none =>
        simp only [keyStore, rotateAnswer, hfailure]
        exact fun key hkept => hkept

/-- While it holds the lock, a rotation that works with what the files hold loses no
key. -/
theorem keeps_rotatePqcKey_locked (args : PqcKeyRotateArgs) {s : KeyFiles} {current : PublicJwk}
    {overlap : List PublicJwk} (hlocked : s.locked = true)
    (hinstalled : s.installedKey = some current)
    (hoverlap : overlapKeys s.overlapFile = .ok overlap) :
    installedLock.Keeps (RotatePqcKey.locked args current overlap) s := by
  rw [RotatePqcKey.locked]
  refine Locking.keeps_ofExcept_bind fun algorithm _ => ?_
  intro generate hfresh
  refine ⟨hlocked, fun key hkept => hkept,
    Locking.keeps_ofExcept_bind fun generated hgenerated => ?_⟩
  have hgenerated := mapError_eq_ok.mp hgenerated
  obtain ⟨hfreshKey, hfreshOverlap⟩ := hfresh algorithm args.kid generated rfl hgenerated
  rw [RotatePqcKey.stage, replaceOverlapFile, bind_assoc]
  intro writeOverlap _
  cases hstaged : writeOverlap.failure with
  | some text =>
      simp only [keyStore, rotateAnswer, hstaged]
      exact ⟨hlocked, fun key hkept => hkept, trivial⟩
  | none =>
      simp only [keyStore, rotateAnswer, hstaged]
      refine ⟨hlocked, keepsInstalled_stage hinstalled hoverlap
        (hfreshOverlap overlap hoverlap), ?_⟩
      show installedLock.Keeps (RotatePqcKey.install current generated) _
      rw [RotatePqcKey.install, replaceKeyFile, bind_assoc]
      intro writeKey _
      cases hinstall : writeKey.failure with
      | some text =>
          simp only [keyStore, rotateAnswer, hinstall]
          exact ⟨hlocked, fun key hkept => hkept, trivial⟩
      | none =>
          simp only [keyStore, rotateAnswer, hinstall]
          exact ⟨hlocked, keepsInstalled_install hinstalled hoverlap rfl hgenerated
            (hfreshKey current hinstalled), trivial⟩

/-- The rotation is about to take the lock, with what it has read. -/
def AtLock (args : PqcKeyRotateArgs) (p : RotateProg RotationReport) : Prop :=
  ∃ current overlap, p = RotatePqcKey.lockAndRotate args current overlap

/-- What it has read is what the files still hold. -/
def UpToDate (args : PqcKeyRotateArgs) (p : RotateProg RotationReport) (s : KeyFiles) : Prop :=
  ∃ current overlap, p = RotatePqcKey.lockAndRotate args current overlap ∧
    s.installedKey = some current ∧ overlapKeys s.overlapFile = .ok overlap

/-- A step of a pool of ML-DSA rotations that generates, if it does, a key with a fresh
id. -/
def FreshMlDsaKeys {Q : Type} : Q → RotateProg RotationReport → RotateInput → KeyFiles → Prop :=
  fun _ p input s => ∀ c k, p = .call c k → FreshMlDsaKey c input s

/-- A step where in addition a rotation that gets the lock is up to date. -/
def FreshAndUpToDate (args : PqcKeyRotateArgs) (p : RotateProg RotationReport)
    (input : RotateInput) (s : KeyFiles) : Prop :=
  FreshMlDsaKeys args p input s ∧
    (AtLock args p → s.locked = false → input.failure = none → UpToDate args p s)

theorem orderly_lockAndRotate (args : PqcKeyRotateArgs) (current : PublicJwk)
    (overlap : List PublicJwk) :
    installedLock.Orderly FreshAndUpToDate args (RotatePqcKey.lockAndRotate args current overlap) := by
  have hcall : ∀ current overlap, RotatePqcKey.lockAndRotate args current overlap =
      Prog.call (σ := rotation) RotateCall.acquireLock fun acquired =>
        ofExcept (acquired.mapError fun err => .runtime ("failed to acquire rotation lock " ++
          args.keyFile ++ ".rotate.lock: " ++ err.text)) >>= fun _ =>
        (RotatePqcKey.locked args current overlap).ensuring RotateCall.releaseLock := fun _ _ => rfl
  rw [hcall]
  intro acquire s hok
  cases hfailure : acquire.failure with
  | some text =>
      simp only [keyStore, rotateAnswer, hfailure]
      exact Or.inl ⟨trivial, trivial⟩
  | none =>
      by_cases htaken : s.locked = true
      · simp only [keyStore, rotateAnswer, hfailure, htaken, if_true]
        exact Or.inl ⟨trivial, trivial⟩
      · simp only [keyStore, rotateAnswer, hfailure, htaken]
        -- from here on the rotation acts as one that has just read the files
        obtain ⟨current', overlap', heq, hinstalled, hoverlap⟩ :=
          hok.2 ⟨current, overlap, (hcall current overlap).symm⟩ (by simpa using htaken) hfailure
        rw [hcall] at heq
        injection heq with _ hrest
        refine Or.inr ⟨htaken, rfl, fun key hkept => hkept,
          RotatePqcKey.locked args current' overlap', congrFun hrest (.ok ()),
          keeps_rotatePqcKey_locked args rfl hinstalled hoverlap⟩

theorem orderly_rotatePqcKey (args : PqcKeyRotateArgs) :
    installedLock.Orderly FreshAndUpToDate args (rotatePqcKey args) := by
  rw [rotatePqcKey, loadCurrentPqcSigningKey, bind_assoc]
  intro readKey s _
  refine Or.inl ⟨Locking.orderly_ofExcept_bind fun current _ => ?_, rfl⟩
  rw [loadExistingOverlap, bind_assoc]
  intro readOverlap s' _
  refine Or.inl ⟨Locking.orderly_ofExcept_bind fun overlap _ => ?_, rfl⟩
  split
  · trivial
  · exact orderly_lockAndRotate args current overlap

/-- ML-DSA rotations that are up to date when they get the lock take turns. -/
def pqcKeyTurns : Turns keyStore rotatePqcKey FreshAndUpToDate :=
  installedLock.turns rotatePqcKey (fun hok => hok.1 _ _ rfl) orderly_rotatePqcKey

/-- **Up-to-date rotations lose no key.** In every run of ML-DSA rotations in which a
rotation that takes the lock still finds in the files what it has read, a key that is in
the key file at some moment is at every later moment still there or an overlap key. -/
theorem installed_keys_stay {files : KeyFiles}
    {before after : List (Move PqcKeyRotateArgs RotateInput)}
    {w w' : Pool rotation CliError RotationReport KeyFiles PqcKeyRotateArgs} {key : PublicJwk}
    (hok : Pool.Along keyStore rotatePqcKey (Pool.StepOk FreshAndUpToDate)
      (Pool.initial files) (before ++ after))
    (hbefore : (Pool.initial files).exec keyStore rotatePqcKey before = some w)
    (hafter : w.exec keyStore rotatePqcKey after = some w')
    (hkey : w.state.installedKey = some key) :
    w'.state.installedKey = some key ∨
      ∃ overlap, overlapKeys w'.state.overlapFile = .ok overlap ∧ key ∈ overlap := by
  obtain ⟨hokBefore, hokAfter⟩ := (Pool.along_append hbefore).mp hok
  obtain ⟨⟨holder, htaken⟩, -⟩ := (Turns.taken_initial pqcKeyTurns files).run hokBefore hbefore
  obtain ⟨-, hkeeps⟩ := htaken.run hokAfter hafter
  have hkept : Kept w'.state key := hkeeps key (Or.inl hkey)
  rcases hkept with hinstalled | ⟨overlap, hoverlap, hmem, -⟩
  · exact Or.inl hinstalled
  · exact Or.inr ⟨overlap, hoverlap, hmem⟩

/-! ### A rotation that is not disturbed -/

section Undisturbed

variable {ok : PqcKeyRotateArgs → RotateProg RotationReport → RotateInput → KeyFiles → Prop}
  {args : PqcKeyRotateArgs} {env : Nat → RotateInput} {s : KeyFiles}

/-- The replacements the inputs lead to have ids that are fresh in the files. -/
def FreshReplacements (args : PqcKeyRotateArgs) (env : Nat → RotateInput) (s : KeyFiles) : Prop :=
  ∀ n algorithm, FreshMlDsaKey (.generateMlDsa algorithm args.kid) (env n) s

theorem freshMlDsaKey_of_ne {c : RotateCall} {input : RotateInput}
    (h : ∀ algorithm kid, c ≠ .generateMlDsa algorithm kid) : FreshMlDsaKey c input s :=
  fun algorithm kid _ heq => absurd heq (h algorithm kid)

/-- The steps of a rotation from the lock on. -/
theorem runOk_lockAndRotate {current : PublicJwk} {overlap : List PublicJwk}
    (hcall : ∀ (c : RotateCall) k input s, c ≠ .acquireLock → FreshMlDsaKey c input s →
      ok args (Prog.call (σ := rotation) c k) input s)
    (hlock : ok args (RotatePqcKey.lockAndRotate args current overlap) (env 0) s)
    (hfresh : FreshReplacements args env s) :
    Pool.RunOk keyStore ok args (RotatePqcKey.lockAndRotate args current overlap) env s := by
  have hother : ∀ (c : RotateCall) k input s, c ≠ .acquireLock →
      (∀ algorithm kid, c ≠ .generateMlDsa algorithm kid) →
      ok args (Prog.call (σ := rotation) c k) input s :=
    fun c k input s hacquire hgenerate => hcall c k input s hacquire (freshMlDsaKey_of_ne hgenerate)
  have hrelease : ∀ {input : RotateInput} {s : KeyFiles} k,
      ok args (Prog.call (σ := rotation) RotateCall.releaseLock k) input s :=
    fun k => hother _ k _ _ (by simp) (by simp)
  refine ⟨hlock, Pool.runOk_ofExcept_bind fun _ _ => ?_⟩
  obtain ⟨locked, hlocked⟩ := acquireLock_files (env 0) s
  rw [hlocked, RotatePqcKey.locked]
  refine Pool.runOk_ensuring_ofExcept_bind hrelease fun algorithm _ => ?_
  refine ⟨hcall _ _ _ _ (by simp) ?_, Pool.runOk_ensuring_ofExcept_bind hrelease fun generated _ => ?_⟩
  · -- the lock is not among what a fresh id depends on
    exact hfresh 1 algorithm
  rw [RotatePqcKey.stage, replaceOverlapFile, bind_assoc]
  refine ⟨hother _ _ _ _ (by simp) (by simp),
    Pool.runOk_ensuring_ofExcept_bind hrelease fun _ _ => ?_⟩
  rw [RotatePqcKey.install, replaceKeyFile, bind_assoc]
  exact ⟨hother _ _ _ _ (by simp) (by simp),
    Pool.runOk_ensuring_ofExcept_bind hrelease fun _ _ => ⟨hrelease _, trivial⟩⟩

/-- The steps of a rotation. -/
theorem runOk_rotatePqcKey
    (hcall : ∀ (c : RotateCall) k input s, c ≠ .acquireLock → FreshMlDsaKey c input s →
      ok args (Prog.call (σ := rotation) c k) input s)
    (hlock : ∀ current overlap input, s.installedKey = some current →
      overlapKeys s.overlapFile = .ok overlap →
      ok args (RotatePqcKey.lockAndRotate args current overlap) input s)
    (hfresh : FreshReplacements args env s) :
    Pool.RunOk keyStore ok args (rotatePqcKey args) env s := by
  rw [rotatePqcKey, loadCurrentPqcSigningKey, bind_assoc]
  refine ⟨hcall _ _ _ _ (by simp) (freshMlDsaKey_of_ne (by simp)),
    Pool.runOk_ofExcept_bind fun current hcurrent => ?_⟩
  obtain ⟨text, hread, hcurrent⟩ := bind_eq_ok.mp hcurrent
  obtain ⟨file, hfile, htext⟩ := keyFile_of_read (mapError_eq_ok.mp hread)
  rw [← htext] at hcurrent
  rw [loadExistingOverlap, bind_assoc]
  refine ⟨hcall _ _ _ _ (by simp) (freshMlDsaKey_of_ne (by simp)),
    Pool.runOk_ofExcept_bind fun overlap hoverlap => ?_⟩
  split
  · trivial
  · exact runOk_lockAndRotate hcall (hlock current overlap _ (installedKey_of_read hfile hcurrent)
      (overlapKeys_of_read hoverlap)) fun n => hfresh (n + 2)

/-- Two steps, and the rotation is at the lock. -/
theorem leads_reads {w : Pool rotation CliError RotationReport KeyFiles PqcKeyRotateArgs} {i : Nat}
    {file : StoredFile} {current : PublicJwk} {overlap : List PublicJwk} (entropy : Bytes)
    (hi : w.threads[i]? = some (args, rotatePqcKey args)) (hlive : args.dryRun = false)
    (hfile : w.state.keyFile = some file)
    (hcurrent : currentPqcSigningKey args.keyFile file.text = .ok current)
    (hoverlap : overlapKeys w.state.overlapFile = .ok overlap)
    (hcall : ∀ (c : RotateCall) k input s, c ≠ .acquireLock → FreshMlDsaKey c input s →
      ok args (Prog.call (σ := rotation) c k) input s) :
    ∃ log, Pool.LeadsAlong keyStore rotatePqcKey (Pool.StepOk ok) w
      ⟨w.state, w.threads.set i (args, RotatePqcKey.lockAndRotate args current overlap), log⟩ := by
  have hlt : i < w.threads.length := (List.getElem?_eq_some_iff.mp hi).1
  -- reading generates no key, so nothing is asked of these steps
  have hother : ∀ (c : RotateCall) k input s, c ≠ .acquireLock →
      (∀ algorithm kid, c ≠ .generateMlDsa algorithm kid) →
      ok args (Prog.call (σ := rotation) c k) input s :=
    fun c k input s hacquire hgenerate => hcall c k input s hacquire (freshMlDsaKey_of_ne hgenerate)
  have hrest : ∀ overlap, (if args.dryRun then
        pure ⟨false, current.kid, none, some current.alg,
          some ((overlap.filter fun key => key.kid != current.kid).length + 1)⟩
      else RotatePqcKey.lockAndRotate args current overlap : RotateProg RotationReport) =
        RotatePqcKey.lockAndRotate args current overlap := by
    intro overlap
    rw [hlive]
    rfl
  rw [rotatePqcKey, loadCurrentPqcSigningKey, bind_assoc] at hi
  obtain ⟨log, hreadsKey⟩ := Pool.leads_check keyStore rotatePqcKey ⟨none, entropy⟩ hi
    (by simpa [keyStore, rotateAnswer, readStored, hfile] using hcurrent)
    (hother _ _ _ _ (by simp) (by simp))
  have hi' : (w.threads.set i (args, loadExistingOverlap args.extraJwksFile >>=
      RotatePqcKey.lockAndRotate args current))[i]? = some _ := List.getElem?_set_self hlt
  simp only [hrest] at hreadsKey
  rw [loadExistingOverlap, bind_assoc] at hi'
  obtain ⟨log', hreadsOverlap⟩ := Pool.leads_check keyStore rotatePqcKey
    (w := ⟨w.state, _, log⟩) ⟨none, entropy⟩ hi'
    ((existingOverlap_readStored rfl).trans hoverlap) (hother _ _ _ _ (by simp) (by simp))
  rw [List.set_set] at hreadsOverlap
  exact ⟨log', hreadsKey.trans hreadsOverlap⟩

end Undisturbed

end Rotations

open KeySample

namespace KeySample

theorem installedKey_key0 (overlap : List PublicJwk) :
    (files key0.privateJwk overlap).installedKey = some key0.publicJwk :=
  installedKey_of_read rfl (current_key0 "")

/-- The sample crates generate ML-DSA-44 keys only. -/
theorem eq_of_generatePrivateJwk {algorithm : MlDsaAlgorithm} {n : UInt8} {key generated : GeneratedKey}
    (hkey : MlDsaJoseSigner.generatePrivateJwk .mlDsa44 none (seed n) = .ok key)
    (h : MlDsaJoseSigner.generatePrivateJwk algorithm none (seed n) = .ok generated) :
    generated = key := by
  have hunsupported : ∀ keyPair derived, algorithm ≠ .mlDsa44 →
      MlDsaJoseSigner.rawPublicKey algorithm keyPair ≠ .ok derived := by
    intro keyPair derived hne
    cases algorithm with
    | mlDsa44 => exact absurd rfl hne
    | mlDsa65 => simp [MlDsaJoseSigner.rawPublicKey, Crates.mlDsaRawPublicKey]
    | mlDsa87 => simp [MlDsaJoseSigner.rawPublicKey, Crates.mlDsaRawPublicKey]
  by_cases halgorithm : algorithm = .mlDsa44
  · rw [halgorithm, hkey] at h
    exact (Except.ok.inj h).symm
  · simp only [MlDsaJoseSigner.generatePrivateJwk, bind_eq_ok] at h
    obtain ⟨_, -, keyPair, -, derived, hraw, -⟩ := h
    exact absurd hraw (hunsupported keyPair derived halgorithm)

/-- A key of one of the seeds is fresh if it is none of the keys in the files. -/
theorem freshReplacements_seed {n : UInt8} {key : GeneratedKey} {s : KeyFiles} {current : PublicJwk}
    {overlap : List PublicJwk}
    (hkey : MlDsaJoseSigner.generatePrivateJwk .mlDsa44 none (seed n) = .ok key)
    (hinstalled : s.installedKey = some current) (hoverlap : overlapKeys s.overlapFile = .ok overlap)
    (hne : ∀ other ∈ current :: overlap, other.kid ≠ key.publicJwk.kid) :
    FreshReplacements pqcArgs (fun _ => ⟨none, seed n⟩) s := by
  intro _ algorithm algorithm' kid generated heq hgenerated
  cases heq
  rw [eq_of_generatePrivateJwk hkey hgenerated]
  refine ⟨fun current' h => ?_, fun overlap' h other hmem => ?_⟩
  · rw [hinstalled] at h
    cases h
    exact hne _ (List.mem_cons_self ..)
  · rw [hoverlap] at h
    cases h
    exact hne other (List.mem_cons_of_mem _ hmem)

theorem freshReplacements_key1 :
    FreshReplacements pqcArgs (fun _ => ⟨none, seed 1⟩) (files key0.privateJwk []) :=
  freshReplacements_seed generate_key1 (installedKey_key0 []) rfl (by simp [kid_ne.1])

/-- The files after a rotation from the first key to another. -/
def rotatedFiles (key : GeneratedKey) : KeyFiles :=
  ⟨false, some ⟨.json key.privateJwk, 0o600⟩,
    some ⟨.json (JwksDocument.toValue ⟨[key0.publicJwk]⟩), 0o644⟩⟩

theorem overlapKeys_rotatedFiles (key : GeneratedKey) :
    overlapKeys (rotatedFiles key).overlapFile = .ok [key0.publicJwk] := by
  have hnone : overlapKeys none = .ok [] := rfl
  show overlapKeys (some ⟨.json (JwksDocument.toValue
    ⟨key0.publicJwk :: otherKeys key0.publicJwk key.publicJwk []⟩), 0o644⟩) = _
  exact overlapKeys_staged (checked_of_currentPqcSigningKey (current_key0 "")) hnone

theorem installedKey_rotatedFiles {n : UInt8} {key : GeneratedKey}
    (hkey : MlDsaJoseSigner.generatePrivateJwk .mlDsa44 none (seed n) = .ok key) :
    (rotatedFiles key).installedKey = some key.publicJwk :=
  installedKey_of_read rfl ((generatePrivateJwk_mlDsa hkey).2.1 "")

/-- With the first key read and the lock free, another key replaces whatever is there. -/
theorem yields_rotatedFiles {n : UInt8} {key : GeneratedKey} {s : KeyFiles} (hfree : s.locked = false)
    (hkey : MlDsaJoseSigner.generatePrivateJwk .mlDsa44 none (seed n) = .ok key) :
    ∃ report, Yields keyStore (Quiet (seed n))
      (RotatePqcKey.lockAndRotate pqcArgs key0.publicJwk []) s (.ok report) (rotatedFiles key) :=
  ⟨_, yields_lockAndRotate hfree rfl hkey⟩

theorem freshMlDsaKeys_lockAndRotate {args : PqcKeyRotateArgs} (current : PublicJwk)
    (overlap : List PublicJwk) (input : RotateInput) (s : KeyFiles) :
    FreshMlDsaKeys args (RotatePqcKey.lockAndRotate args current overlap) input s := by
  intro c k heq
  cases heq
  exact freshMlDsaKey_of_ne (by simp)

theorem freshMlDsaKeys_call {args : PqcKeyRotateArgs} (c : RotateCall)
    (k : c.Answer → RotateProg RotationReport) (input : RotateInput) (s : KeyFiles)
    (_ : c ≠ .acquireLock) (h : FreshMlDsaKey c input s) :
    FreshMlDsaKeys args (Prog.call (σ := rotation) c k) input s := by
  intro c' k' heq
  cases heq
  exact h

theorem freshAndUpToDate_call {args : PqcKeyRotateArgs} (c : RotateCall)
    (k : c.Answer → RotateProg RotationReport) (input : RotateInput) (s : KeyFiles)
    (hne : c ≠ .acquireLock) (h : FreshMlDsaKey c input s) :
    FreshAndUpToDate args (Prog.call (σ := rotation) c k) input s := by
  refine ⟨freshMlDsaKeys_call c k input s hne h, fun hlock => ?_⟩
  obtain ⟨current, overlap, heq⟩ := hlock
  injection heq with hcall
  exact absurd hcall hne

/-- A rotation that has read the first key. -/
def waiting : RotateProg RotationReport := RotatePqcKey.lockAndRotate pqcArgs key0.publicJwk []

section Waiting

variable {ok : PqcKeyRotateArgs → RotateProg RotationReport → RotateInput → KeyFiles → Prop}

/-- A rotation starts and reads. -/
theorem leads_waiting (threads : List (PqcKeyRotateArgs × RotateProg RotationReport))
    (log : List (Nat × Event rotation))
    (hcall : ∀ (c : RotateCall) k input s, c ≠ .acquireLock → FreshMlDsaKey c input s →
      ok pqcArgs (Prog.call (σ := rotation) c k) input s) :
    ∃ log', Pool.LeadsAlong keyStore rotatePqcKey (Pool.StepOk ok)
      ⟨files key0.privateJwk [], threads, log⟩
      ⟨files key0.privateJwk [], threads ++ [(pqcArgs, waiting)], log'⟩ := by
  obtain ⟨log', hreads⟩ := leads_reads (i := threads.length)
    (w := ⟨files key0.privateJwk [], threads ++ [(pqcArgs, rotatePqcKey pqcArgs)], log⟩) (seed 2)
    (by simp) rfl rfl (current_key0 _) rfl hcall
  rw [List.set_append_right _ _ (Nat.le_refl _), Nat.sub_self, List.set_cons_zero] at hreads
  exact ⟨log', (Pool.leads_start keyStore rotatePqcKey ok _ pqcArgs).trans hreads⟩

end Waiting

/-- Another rotation starts then, and runs to its end. -/
theorem leads_overtaking (log : List (Nat × Event rotation)) :
    ∃ report log', Pool.LeadsAlong keyStore rotatePqcKey (Pool.StepOk FreshMlDsaKeys)
      ⟨files key0.privateJwk [], [(pqcArgs, waiting)], log⟩
      ⟨rotatedFiles key1, [(pqcArgs, waiting), (pqcArgs, .done report)], log'⟩ := by
  obtain ⟨report, hrotated⟩ := yields_rotatedFiles (s := files key0.privateJwk []) rfl generate_key1
  have hrotate : Yields keyStore (Quiet (seed 1)) (rotatePqcKey pqcArgs) (files key0.privateJwk [])
      (.ok report) (rotatedFiles key1) := yields_rotatePqcKey rfl rfl (current_key0 _) rfl hrotated
  obtain ⟨t, hrun⟩ := hrotate (fun _ => ⟨none, seed 1⟩) fun _ => rfl
  have hok : Pool.RunOk keyStore FreshMlDsaKeys pqcArgs (rotatePqcKey pqcArgs)
      (fun _ => ⟨none, seed 1⟩) (files key0.privateJwk []) :=
    runOk_rotatePqcKey freshMlDsaKeys_call (fun _ _ _ _ _ => freshMlDsaKeys_lockAndRotate _ _ _ _)
      freshReplacements_key1
  obtain ⟨ms, hexec, halong⟩ := Pool.exec_start_run_ok
    (w := ⟨files key0.privateJwk [], [(pqcArgs, waiting)], log⟩) hok
  rw [hrun] at hexec
  exact ⟨report, _, ms, hexec, halong⟩

/-- The rotation that has waited gets the lock. -/
theorem leads_overtaken (report : RotationReport) (log : List (Nat × Event rotation)) :
    ∃ report' log', Pool.LeadsAlong keyStore rotatePqcKey (Pool.StepOk FreshMlDsaKeys)
      ⟨rotatedFiles key1, [(pqcArgs, waiting), (pqcArgs, .done report)], log⟩
      ⟨rotatedFiles key2, [(pqcArgs, .done report'), (pqcArgs, .done report)], log'⟩ := by
  obtain ⟨report', hrotated⟩ := yields_rotatedFiles (s := rotatedFiles key1) rfl generate_key2
  obtain ⟨t, hrun⟩ := hrotated (fun _ => ⟨none, seed 2⟩) fun _ => rfl
  have hfresh : FreshReplacements pqcArgs (fun _ => ⟨none, seed 2⟩) (rotatedFiles key1) :=
    freshReplacements_seed generate_key2 (installedKey_rotatedFiles generate_key1)
      (overlapKeys_rotatedFiles key1) (by simp [kid_ne.2.1, kid_ne.2.2])
  have hok : Pool.RunOk keyStore FreshMlDsaKeys pqcArgs waiting (fun _ => ⟨none, seed 2⟩)
      (rotatedFiles key1) :=
    runOk_lockAndRotate freshMlDsaKeys_call (freshMlDsaKeys_lockAndRotate _ _ _ _) hfresh
  obtain ⟨ms, hexec, halong⟩ := Pool.exec_run_ok keyStore rotatePqcKey FreshMlDsaKeys
    ⟨rotatedFiles key1, [(pqcArgs, waiting), (pqcArgs, .done report)], log⟩ 0 pqcArgs waiting
    (fun _ => ⟨none, seed 2⟩) rfl hok
  rw [waiting, hrun] at hexec
  exact ⟨report', _, ms, hexec, halong⟩

end KeySample

/-- Two rotations, both from the first key. The first reads the files, then the second
runs to its end and installs its key, then the first takes the lock and runs to its end:
the key of the second is neither in the key file nor an overlap key. -/
theorem overtaking_key_lost :
    ∃ before after w w',
      Pool.Along keyStore rotatePqcKey (Pool.StepOk FreshMlDsaKeys)
        (Pool.initial (files key0.privateJwk [])) (before ++ after) ∧
      (Pool.initial (files key0.privateJwk [])).exec keyStore rotatePqcKey before = some w ∧
      w.exec keyStore rotatePqcKey after = some w' ∧
      (∀ thread ∈ w'.threads, thread.1 = pqcArgs ∧ ∃ report, thread.2 = .done report) ∧
      w.state.installedKey = some key1.publicJwk ∧
      ¬ (w'.state.installedKey = some key1.publicJwk ∨
        ∃ overlap, overlapKeys w'.state.overlapFile = .ok overlap ∧ key1.publicJwk ∈ overlap) := by
  obtain ⟨log, hreads⟩ := leads_waiting [] [] freshMlDsaKeys_call
  obtain ⟨report, log', hovertaking⟩ := leads_overtaking log
  obtain ⟨report', log'', after, hafter, hafterOk⟩ := leads_overtaken report log'
  obtain ⟨before, hbefore, hbeforeOk⟩ := hreads.trans hovertaking
  refine ⟨before, after, _, _, (Pool.along_append hbefore).mpr ⟨hbeforeOk, hafterOk⟩, hbefore, hafter,
    ?_, installedKey_rotatedFiles generate_key1, ?_⟩
  · intro thread hmem
    rcases List.mem_pair.mp hmem with heq | heq
    · exact heq ▸ ⟨rfl, report', rfl⟩
    · exact heq ▸ ⟨rfl, report, rfl⟩
  · intro hkept
    rcases hkept with hinstalled | ⟨overlap, hoverlap, hmem⟩
    · rw [installedKey_rotatedFiles generate_key2] at hinstalled
      exact kid_ne.2.2 (congrArg PublicJwk.kid (Option.some.inj hinstalled)).symm
    · rw [overlapKeys_rotatedFiles] at hoverlap
      cases hoverlap
      exact kid_ne.1 (congrArg PublicJwk.kid (List.mem_singleton.mp hmem)).symm

/-- Two rotations, both from the first key. Both read the files, and the second gets the
lock and installs the second key. The first tries to take the lock before that one is
released, and fails. The first key is an overlap key. -/
theorem sample_installed_keys_stay :
    ∃ ms w report, (Pool.initial (files key0.privateJwk [])).exec keyStore rotatePqcKey ms = some w ∧
      w.threads = [(pqcArgs, .fail (lockTaken pqcArgs.keyFile)), (pqcArgs, .done report)] ∧
      w.state.installedKey = some key1.publicJwk ∧
      (w.state.installedKey = some key0.publicJwk ∨
        ∃ overlap, overlapKeys w.state.overlapFile = .ok overlap ∧ key0.publicJwk ∈ overlap) := by
  obtain ⟨log, hfirst⟩ := leads_waiting [] [] freshAndUpToDate_call
  obtain ⟨log', hsecond⟩ := leads_waiting [(pqcArgs, waiting)] log freshAndUpToDate_call
  have hwork : Yields keyStore (Quiet (seed 1)) (RotatePqcKey.locked pqcArgs key0.publicJwk [])
      { files key0.privateJwk [] with locked := true } _ _ :=
    yields_rotatePqcKey_locked rfl generate_key1
  have hok : Pool.RunOk keyStore FreshAndUpToDate pqcArgs waiting (fun _ => ⟨none, seed 1⟩)
      (files key0.privateJwk []) :=
    runOk_lockAndRotate freshAndUpToDate_call ⟨freshMlDsaKeys_lockAndRotate _ _ _ _,
      fun _ _ _ => ⟨_, _, rfl, installedKey_key0 [], rfl⟩⟩ freshReplacements_key1
  -- when the first tries, the lock is taken, so what it has read may be out of date
  obtain ⟨log'', hcompeting⟩ := leads_competing rotatePqcKey
    (w := ⟨files key0.privateJwk [], [(pqcArgs, waiting), (pqcArgs, waiting)], log'⟩) (i := 1)
    (j := 0) (by decide) rfl rfl rfl hwork rfl hok
    ⟨freshMlDsaKeys_lockAndRotate _ _ _ _, fun _ hfree => by cases hfree⟩
  obtain ⟨ms, hexec, halong⟩ : Pool.LeadsAlong keyStore rotatePqcKey (Pool.StepOk FreshAndUpToDate)
    (Pool.initial (files key0.privateJwk [])) _ := (hfirst.trans hsecond).trans hcompeting
  have hbefore : (Pool.initial (files key0.privateJwk [])).exec keyStore rotatePqcKey [] =
      some (Pool.initial _) := rfl
  exact ⟨ms, _, _, hexec, rfl, installedKey_rotatedFiles generate_key1,
    installed_keys_stay halong hbefore hexec (installedKey_key0 [])⟩

end StsDelegate
