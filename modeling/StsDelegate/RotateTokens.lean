import StsDelegate.RotateSpec

/-!
# Which tokens stay verifiable

A token is verified with the first published key that has the id in its header. So
two published key sets verify the same tokens as long as an id that stands for a key in
the first stands for the same key in the second (`verify_of_lookup`).

The published set has the signer's own key first and then the overlap keys. Which ids a
rotation keeps is a question about five lists of keys (`kept_iff`); the key files enter
through the ids that the server and the rotation give to the old key.
-/

namespace StsDelegate

open Text Fallible Effectful Prog

/-! ### Keys by id -/

/-- The key an id stands for. -/
def lookupKey (keys : List PublicJwk) (kid : String) : Option PublicJwk :=
  keys.find? fun key => key.kid == kid

/-- Every id that stands for a key still stands for it. -/
def KeepsKeys (old new : List PublicJwk) : Prop :=
  ∀ kid key, lookupKey old kid = some key → lookupKey new kid = some key

theorem lookupKey_cons (key : PublicJwk) (keys : List PublicJwk) (kid : String) :
    lookupKey (key :: keys) kid = if key.kid = kid then some key else lookupKey keys kid := by
  simp only [lookupKey, List.find?_cons]
  by_cases h : key.kid = kid
  · simp [h]
  · rw [beq_eq_false_iff_ne.mpr h, if_neg h]

theorem lookupKey_addKeys (published extra : List PublicJwk) (kid : String) :
    lookupKey (addKeys published extra) kid = lookupKey (published ++ extra) kid :=
  find?_addKeys published extra kid

/-- The ids of the keys that a rotation keeps. -/
theorem lookupKey_otherKeys (current generated : PublicJwk) (overlap : List PublicJwk)
    (kid : String) : lookupKey (otherKeys current generated overlap) kid =
      if kid = current.kid ∨ kid = generated.kid then none else lookupKey overlap kid := by
  unfold lookupKey otherKeys
  rw [List.find?_filter]
  split
  · next hgone =>
      rw [List.find?_eq_none]
      intro key _
      rcases hgone with heq | heq
      · simp only [heq]
        grind
      · simp only [heq]
        grind
  · next hkept =>
      congr 1
      funext key
      grind

/-- A key of the published set is the one its id stands for. -/
theorem lookupKey_of_mem {own key : PublicJwk} {extra : List PublicJwk}
    (h : key ∈ addKeys [own] extra) : lookupKey (addKeys [own] extra) key.kid = some key := by
  have hnodup := nodup_addKeys [own] extra (by simp)
  generalize addKeys [own] extra = keys at h hnodup
  induction keys with
  | nil => cases h
  | cons first rest ih =>
      rw [List.map_cons, List.nodup_cons] at hnodup
      rw [lookupKey_cons]
      rcases List.mem_cons.mp h with heq | hmem
      · rw [heq, if_pos rfl]
      · have hne : first.kid ≠ key.kid := by
          intro heq
          exact hnodup.1 (heq ▸ List.mem_map_of_mem hmem)
        rw [if_neg hne]
        exact ih hmem hnodup.2

theorem mem_of_lookupKey {keys : List PublicJwk} {kid : String} {key : PublicJwk}
    (h : lookupKey keys kid = some key) : key ∈ keys := List.mem_of_find?_eq_some h

section Server

variable [Crates]

/-- A token stays verifiable when the ids of the published set keep their keys. -/
theorem verify_of_lookup {T : Type} {fromSlice : Bytes → Except String T} {token : String}
    {old new : JwksDocument} {allowedAlgs : Option (List String)} {v : VerifiedJws T}
    (hkeeps : KeepsKeys old.keys new.keys)
    (h : verifyClaimsAgainstJwksInner fromSlice token old allowedAlgs = .ok v) :
    verifyClaimsAgainstJwksInner fromSlice token new allowedAlgs = .ok v := by
  simp only [verifyClaimsAgainstJwksInner, bind_eq_ok, okOr_eq_ok] at h ⊢
  obtain ⟨header, hheader, _, halg, kid, hkid, jwk, hjwk, hclaims⟩ := h
  exact ⟨header, hheader, (), halg, kid, hkid, jwk, hkeeps kid jwk hjwk, hclaims⟩

variable [KeyCrates]

/-! ### What a server publishes -/

/-- The keys the server reads from the overlap file. -/
def ServesOverlap (config : KeyFileConfig) (extra : Option StoredFile) (keys : List PublicJwk) :
    Prop :=
  match extra with
  | none => keys = []
  | some file => loadPublicJwksFile file "extra STS JWKS" config.allowInsecureJwks = .ok ⟨keys⟩

theorem bootstrapJwks_eq_ok {config : KeyFileConfig} {keyFile : StoredFile}
    {extra : Option StoredFile} {jwks : JwksDocument} :
    bootstrapJwks config keyFile extra = .ok jwks ↔
      ∃ signer keys, loadFileSigner config keyFile = .ok signer ∧ ServesOverlap config extra keys ∧
        jwks = ⟨addKeys [signer.publicJwk] keys⟩ := by
  unfold bootstrapJwks ServesOverlap
  rw [bind_eq_ok]
  refine exists_congr fun signer => ?_
  cases extra with
  | none =>
      simp only [pure_eq_ok]
      constructor
      · intro h
        obtain ⟨hload, heq⟩ := h
        exact ⟨[], hload, rfl, heq.symm⟩
      · intro h
        obtain ⟨keys, hload, hkeys, heq⟩ := h
        subst hkeys
        exact ⟨hload, heq.symm⟩
  | some file =>
      simp only [bind_eq_ok, pure_eq_ok]
      constructor
      · intro h
        obtain ⟨hload, document, hdocument, heq⟩ := h
        exact ⟨document.keys, hload, hdocument, heq.symm⟩
      · intro h
        obtain ⟨keys, hload, hkeys, heq⟩ := h
        exact ⟨hload, ⟨keys⟩, hkeys, heq.symm⟩

/-- A server and a rotation that read the same overlap file have the same keys, and the
server accepts them. -/
theorem ServesOverlap.agree {config : KeyFileConfig} {extra : Option StoredFile}
    {keys overlap : List PublicJwk} (h : ServesOverlap config extra keys)
    (hoverlap : overlapKeys extra = .ok overlap) :
    overlap = keys ∧ ∀ key ∈ keys, AcceptedJwk key := by
  cases extra with
  | none =>
      cases hoverlap
      rw [show keys = [] from h]
      simp
  | some file =>
      obtain ⟨text, mode⟩ := file
      simp only [ServesOverlap, loadPublicJwksFile, bind_eq_ok, readCheckedFile, rejectIf_eq_ok,
        pure_eq_ok] at h
      obtain ⟨_, ⟨_, -, heq⟩, h⟩ := h
      subst heq
      cases text with
      | other raw => cases hoverlap
      | json value => exact ⟨keys_eq_of_both h hoverlap, accepted_of_normalize h⟩

/-! ### The ids a rotation keeps -/

/-- When the ids keep their keys: the replacement's id does not stand for another key, the
server's old key is found under the id the server gave it, and the rotation's id for it
does not stand for another key. -/
structure KeysKept (served current generated : PublicJwk) (overlap : List PublicJwk) : Prop where
  generated_id : ∀ key, lookupKey (served :: overlap) generated.kid = some key → key = generated
  served_id : served.kid ≠ generated.kid → served.kid ≠ current.kid →
    lookupKey overlap served.kid = some served
  current_id : current.kid ≠ generated.kid → current.kid ≠ served.kid →
    ∀ key, lookupKey overlap current.kid = some key → key = current

omit [Crates] [KeyCrates] in
theorem keepsKeys_iff {served current generated : PublicJwk} {overlap : List PublicJwk}
    (hsame : served.kid = current.kid → served = current) :
    KeepsKeys (served :: overlap) (generated :: current :: otherKeys current generated overlap) ↔
      KeysKept served current generated overlap := by
  have hold : ∀ kid, lookupKey (served :: overlap) kid =
      if served.kid = kid then some served else lookupKey overlap kid := lookupKey_cons _ _
  -- the filter hides only what the two keys in front hide anyway
  have hnew : ∀ kid, lookupKey (generated :: current :: otherKeys current generated overlap) kid =
      if generated.kid = kid then some generated
      else if current.kid = kid then some current else lookupKey overlap kid := by
    intro kid
    rw [lookupKey_cons, lookupKey_cons, lookupKey_otherKeys]
    grind
  unfold KeepsKeys
  simp only [hold, hnew]
  constructor
  · intro hkeeps
    refine ⟨fun key hkey => ?_, fun hne hne' => ?_, fun hne hne' key hkey => ?_⟩
    · have := hkeeps generated.kid key (by rw [← hold, hkey])
      grind
    · have := hkeeps served.kid served (by simp)
      grind
    · have := hkeeps current.kid key (by grind)
      grind
  · intro hkept kid key hkey
    obtain ⟨hreplacement, hserved, hcurrent⟩ := hkept
    simp only [hold] at hreplacement
    by_cases hgenerated : generated.kid = kid
    · subst hgenerated
      simp [hreplacement key hkey]
    · by_cases hstaged : current.kid = kid
      · subst hstaged
        grind
      · grind

omit [Crates] [KeyCrates] in
theorem lookupKey_eq_none {keys : List PublicJwk} {kid : String} :
    lookupKey keys kid = none ↔ ∀ key ∈ keys, key.kid ≠ kid := by
  simp [lookupKey]

omit [Crates] [KeyCrates] in
/-- What the keys of a staged overlap file stand for, behind the server's own key. -/
theorem lookupKey_staged (own current generated : PublicJwk) (overlap : List PublicJwk)
    (kid : String) :
    lookupKey (addKeys [own] (otherKeys current generated overlap ++ [current])) kid =
      if own.kid = kid then some own
      else if current.kid = kid then some current
      else if generated.kid = kid then none else lookupKey overlap kid := by
  have happend : lookupKey (otherKeys current generated overlap ++ [current]) kid =
      (lookupKey (otherKeys current generated overlap) kid).or (lookupKey [current] kid) :=
    List.find?_append
  rw [lookupKey_addKeys, List.singleton_append, lookupKey_cons, happend, lookupKey_otherKeys,
    lookupKey_cons]
  grind [lookupKey]

omit [Crates] [KeyCrates] in
/-- Staging the current key keeps the published ones. -/
theorem keepsKeys_stage {current generated : PublicJwk} {overlap : List PublicJwk}
    (hfresh : ∀ key ∈ overlap, key.kid ≠ generated.kid) : KeepsKeys (addKeys [current] overlap)
      (addKeys [current] (otherKeys current generated overlap ++ [current])) := by
  intro kid key hkey
  rw [lookupKey_addKeys, List.singleton_append, lookupKey_cons] at hkey
  rw [lookupKey_staged]
  have hnone := lookupKey_eq_none.mpr hfresh
  grind

omit [Crates] [KeyCrates] in
/-- Once the current key is staged, the replacement can take its place. -/
theorem keepsKeys_install {current generated : PublicJwk} {overlap : List PublicJwk}
    (hne : current.kid ≠ generated.kid) :
    KeepsKeys (addKeys [current] (otherKeys current generated overlap ++ [current]))
      (addKeys [generated] (otherKeys current generated overlap ++ [current])) := by
  intro kid key hkey
  rw [lookupKey_staged] at hkey ⊢
  grind

/-! ### Rotating an ML-DSA key -/

/-- The old key as the server publishes it: under the id of the key file, or the
configured id, or the thumbprint when that is empty. -/
def servedKey (config : KeyFileConfig) (jwk : PrivateAkpJwk) (current : PublicJwk) : PublicJwk :=
  { current with
    kid := jwk.kid.getD (if config.ourKid.isEmpty then current.akpThumbprint else config.ourKid) }

/-- **The tokens a rotation of an ML-DSA key keeps.** After a rotation that succeeded on
files the server ran with, the server starts, and every id of the old published set keeps
its key exactly when `KeysKept` holds of the ids that the server and the rotation use; the
tokens that were verifiable then still are. -/
theorem pqc_tokens_kept_iff {args : PqcKeyRotateArgs} {config : KeyFileConfig}
    {env : Nat → RotateInput} {files : KeyFiles} {file : StoredFile} {report : RotationReport}
    {old : JwksDocument} (hlive : args.dryRun = false) (hfile : files.keyFile = some file)
    (hold : bootstrapJwks config file files.overlapFile = .ok old)
    (h : ((rotatePqcKey args).run keyStore env files).outcome = .ok report) :
    ∃ value jwk current overlap generated keyFile new,
      file.text = .json value ∧ PrivateAkpJwk.fromValue value = some jwk ∧
      Rotated (.pqcKey args) files ((rotatePqcKey args).run keyStore env files).state current overlap
        generated ∧
      current.kid = jwk.kid.getD current.akpThumbprint ∧
      generated.publicJwk.kid =
        (args.kid.filter fun value => !isBlank value).getD generated.publicJwk.akpThumbprint ∧
      ((rotatePqcKey args).run keyStore env files).state.keyFile = some keyFile ∧
      bootstrapJwks config keyFile ((rotatePqcKey args).run keyStore env files).state.overlapFile =
        .ok new ∧
      (KeepsKeys old.keys new.keys ↔
        KeysKept (servedKey config jwk current) current generated.publicJwk overlap) ∧
      (KeysKept (servedKey config jwk current) current generated.publicJwk overlap →
        ∀ (T : Type) (fromSlice : Bytes → Except String T) token allowedAlgs v,
          verifyClaimsAgainstJwksInner fromSlice token old allowedAlgs = .ok v →
          verifyClaimsAgainstJwksInner fromSlice token new allowedAlgs = .ok v) := by
  obtain ⟨current, overlap, generated, hrotated⟩ := rotated_of_run (.pqcKey args) hlive h
  obtain ⟨signer, keys, hload, hserves, holdKeys⟩ := bootstrapJwks_eq_ok.mp hold
  obtain ⟨file', hfile', hcurrent⟩ := hrotated.readsKey
  rw [hfile] at hfile'
  cases hfile'
  obtain ⟨hagree, haccepted⟩ := hserves.agree hrotated.readsOverlap
  subst hagree
  obtain ⟨value, jwk, requested, algorithm, htext, hjwk, hpqc, hselected, halg, hkid, hserved⟩ :=
    loadFileSigner_currentPqc hcurrent hload
  obtain ⟨entropy, hreplacement⟩ := hrotated.generates
  have hgenerated := replacement_pqcKey halg hreplacement
  obtain ⟨signer', hload', hpublic⟩ := loadFileSigner_generatedPqc hpqc hselected hgenerated
  -- the keys that were carried over were loaded before, so they are for signatures
  have huse : ∀ key ∈ otherKeys current generated.publicJwk overlap, key.use = "sig" := by
    intro key hmem
    exact (acceptedJwk_iff.mp (haccepted key (List.mem_filter.mp hmem).1)).1
  obtain ⟨_, _, staged, -, -, -, hstaged⟩ := currentPqcSigningKey_eq_ok hcurrent
  have hcurrentAccepted : AcceptedJwk current := hstaged ▸ accepted_mlDsa staged
  have hserves' : ServesOverlap config
      ((rotatePqcKey args).run keyStore env files).state.overlapFile
      (current :: otherKeys current generated.publicJwk overlap) := by
    rw [show ((rotatePqcKey args).run keyStore env files).state.overlapFile = _ from
      hrotated.writesOverlap]
    exact (loadPublicJwksFile_staged (.pqcKey args) hcurrentAccepted
      hrotated.readsOverlap).mpr ⟨huse, rfl⟩
  have hnew := bootstrapJwks_eq_ok.mpr ⟨signer', _, hload', hserves', rfl⟩
  have hkeeps : KeepsKeys old.keys
      (addKeys [signer'.publicJwk] (current :: otherKeys current generated.publicJwk overlap)) ↔
        KeysKept (servedKey config jwk current) current generated.publicJwk overlap := by
    rw [← keepsKeys_iff, holdKeys, hserved, hpublic]
    · simp only [KeepsKeys, lookupKey_addKeys, List.singleton_append, servedKey]
    · intro heq
      rw [servedKey, show jwk.kid.getD _ = current.kid from heq]
  refine ⟨value, jwk, current, overlap, generated, _, _, htext, hjwk, hrotated, hkid,
    (generatePrivateJwk_mlDsa hgenerated).1, hrotated.writesKey, hnew, hkeeps, ?_⟩
  intro hkept T fromSlice token allowedAlgs v hverified
  exact verify_of_lookup (hkeeps.mpr hkept) hverified

end Server

open KeySample

namespace KeySample

/-- A server with ML-DSA-44 and the default key id. -/
def config : KeyFileConfig := ⟨"ML-DSA-44", "sts-delegate-key-1", false, false⟩

/-- The first key in a file that gives it no id. -/
def kidlessKey : Json :=
  .object [("kty", .string "AKP"), ("alg", .string "ML-DSA-44"),
    ("pub", .string (Base64.encode public0)), ("priv", .string (Base64.encode (seed 0)))]

theorem read_kidlessKey : PrivateAkpJwk.fromValue kidlessKey =
    some ⟨"AKP", none, "ML-DSA-44", Base64.encode public0, Base64.encode (seed 0)⟩ := rfl

theorem public0_length : public0.length = MlDsaAlgorithm.mlDsa44.publicKeyLen := by
  decide +kernel

/-- A server that starts on a file with the first key and no overlap file. -/
theorem bootstrapJwks_seed0 {value : Json} {kid : Option String}
    (hread : PrivateAkpJwk.fromValue value = some ⟨"AKP", kid, "ML-DSA-44", Base64.encode public0,
      Base64.encode (seed 0)⟩) :
    bootstrapJwks config ⟨.json value, 0o600⟩ none =
      .ok ⟨[(mlDsaKey (kid.getD "sts-delegate-key-1") 0 public0).publicJwk]⟩ := by
  obtain ⟨signer, hsigner, hpublic⟩ :=
    fromPrivateJwkForBackend_seed rfl public0_length hread "sts-delegate-key-1"
  have hparse : BackendSelection.parse config.stsSigningAlg = .parse "ML-DSA-44" := rfl
  have hload := loadFileSigner_mlDsa hparse hsigner
  refine bootstrapJwks_eq_ok.mpr ⟨_, [], hload, rfl, ?_⟩
  rw [show (JoseSigner.mlDsa signer).publicJwk = _ from hpublic]
  rfl

/-- A rotation stages the key of that file under its thumbprint. -/
theorem current_kidlessKey (path : String) :
    currentPqcSigningKey path (.json kidlessKey) = .ok key0.publicJwk := by
  obtain ⟨signer, hsigner, hpublic⟩ :=
    fromPrivateJwkForBackend_seed rfl public0_length read_kidlessKey ""
  have hthumbprint : akpFallbackKid .mlDsa44 public0 "" = Base64.encode akpDigest0 := by
    have hdigest : sha256 (akpInput public0) = akpDigest0 := sha256_of_mem (by simp [digests])
    rw [← hdigest]
    rfl
  rw [Option.getD_none, hthumbprint] at hpublic
  simp only [currentPqcSigningKey, bind_eq_ok, okOr_eq_ok, rejectIf_eq_ok, mapError_eq_ok,
    pure_eq_ok]
  exact ⟨_, rfl, (), rfl, "ML-DSA-44", rfl, signer, hsigner, hpublic⟩

/-- The rotation of that file to the third key, and where the server starts then. -/
theorem run_kidlessKey :
    ∃ report t, (rotatePqcKey pqcArgs).run keyStore (fun _ => ⟨none, seed 2⟩) (files kidlessKey []) =
      ⟨.ok report, ⟨false, some ⟨.json key2.privateJwk, 0o600⟩, some ⟨.json (JwksDocument.toValue
        ⟨[key0.publicJwk]⟩), 0o644⟩⟩, t⟩ := by
  have hrotate : Yields keyStore (Quiet (seed 2)) (rotatePqcKey pqcArgs) (files kidlessKey []) _ _ :=
    yields_rotatePqcKey rfl rfl (current_kidlessKey _) rfl
      (yields_lockAndRotate rfl rfl generate_key2)
  exact ⟨_, hrotate (fun _ => ⟨none, seed 2⟩) fun _ => rfl⟩

theorem bootstrapJwks_key2 : bootstrapJwks config ⟨.json key2.privateJwk, 0o600⟩
    (some ⟨.json (JwksDocument.toValue ⟨[key0.publicJwk]⟩), 0o644⟩) =
      .ok ⟨addKeys [key2.publicJwk] [key0.publicJwk]⟩ := by
  have hparse : BackendSelection.parse config.stsSigningAlg = .parse "ML-DSA-44" := rfl
  obtain ⟨signer, hload, hpublic⟩ := loadFileSigner_generatedPqc hparse
    (selectedPqcAlgorithm_parse .mlDsa44).2 generate_key2
  have haccepted := accepted_of_currentKey lawfulRsa (.pqcKey pqcArgs)
    (show (Rotation.pqcKey pqcArgs).currentKey (.json key0.privateJwk) = .ok key0.publicJwk from
      current_key0 pqcArgs.keyFile)
  have hserves : ServesOverlap config (some ⟨.json (JwksDocument.toValue ⟨[key0.publicJwk]⟩), 0o644⟩)
      [key0.publicJwk] := by
    refine (loadPublicJwksFile_written (List.cons_ne_nil _ _)).mpr ⟨fun key hmem => ?_, rfl⟩
    rw [List.mem_singleton.mp hmem]
    exact haccepted
  exact bootstrapJwks_eq_ok.mpr ⟨signer, [key0.publicJwk], hload, hserves, by rw [hpublic]⟩

theorem headerFromSlice_token : Crates.headerFromSlice token.header =
    .ok ⟨"ML-DSA-44", some "sts-delegate-key-1", some "at+jwt"⟩ := if_pos rfl

/-- The server verifies the token while the key file gives the key no id. -/
theorem verify_token : verifyClaimsAgainstJwksInner Crates.mintedFromSlice token.token
    ⟨[(mlDsaKey "sts-delegate-key-1" 0 public0).publicJwk]⟩ none =
      .ok ⟨Sample.delegatedClaims, "ML-DSA-44", "sts-delegate-key-1", some "at+jwt"⟩ := by
  obtain ⟨signer, -, hpublic, halgorithm, hpublicKey⟩ :=
    fromSeed_seed (n := 0) rfl public0_length "sts-delegate-key-1"
  have hkey := akpPublicKeyFromJwk_mlDsa signer
  rw [hpublic, halgorithm, hpublicKey] at hkey
  have hlength : token.signature.length = MlDsaAlgorithm.mlDsa44.signatureLen := by decide +kernel
  have hverify : Crates.mlDsaVerifyOneshot .mlDsa44 public0 token.signature
      (asBytes (Base64.encode token.header ++ "." ++ Base64.encode token.payload)) = .ok true :=
    congrArg Except.ok (by simp [mlDsaVerify])
  exact verifyClaimsAgainstJwksInner_mlDsa headerFromSlice_token rfl hkey hlength rfl rfl hverify
    (if_pos rfl)

end KeySample

/-- A rotation that succeeds and makes a token unverifiable: the key file has no key id,
so the server signed under the configured id, and the rotation stages the key under its
thumbprint. -/
theorem kidless_token_lost :
    ∃ old new report keyFile,
      bootstrapJwks KeySample.config ⟨.json kidlessKey, 0o600⟩ none = .ok old ∧
      ((rotatePqcKey pqcArgs).run keyStore (fun _ => ⟨none, seed 2⟩) (files kidlessKey [])).outcome =
        .ok report ∧
      ((rotatePqcKey pqcArgs).run keyStore (fun _ => ⟨none, seed 2⟩)
        (files kidlessKey [])).state.keyFile = some keyFile ∧
      bootstrapJwks KeySample.config keyFile ((rotatePqcKey pqcArgs).run keyStore
        (fun _ => ⟨none, seed 2⟩) (files kidlessKey [])).state.overlapFile = .ok new ∧
      (∃ v, verifyClaimsAgainstJwksInner Crates.mintedFromSlice token.token old none = .ok v) ∧
      ∀ v, verifyClaimsAgainstJwksInner Crates.mintedFromSlice token.token new none ≠ .ok v := by
  obtain ⟨report, t, hrun⟩ := run_kidlessKey
  rw [hrun]
  refine ⟨_, _, report, _, bootstrapJwks_seed0 read_kidlessKey, rfl, rfl, bootstrapJwks_key2,
    ⟨_, verify_token⟩, ?_⟩
  intro v hverified
  obtain ⟨hheader, -, jwk, hjwk⟩ := verifyClaimsAgainstJwksInner_ok hverified
  have hkid : v.kid = "sts-delegate-key-1" := by
    have hread : decodeCompactJwsHeader token.token =
        .ok ⟨"ML-DSA-44", some "sts-delegate-key-1", some "at+jwt"⟩ := by
      rw [Sample.Signed.token, decodeCompactJwsHeader_compactJws, headerFromSlice_token, mapError_ok]
    rw [hread] at hheader
    exact (Option.some.inj (congrArg CompactJwsHeader.kid (Except.ok.inj hheader))).symm
  have hlookup : lookupKey (addKeys [key2.publicJwk] [key0.publicJwk]) v.kid = some jwk := hjwk
  rw [lookupKey_addKeys, List.singleton_append, lookupKey_cons, lookupKey_cons, hkid,
    if_neg (by decide +kernel), if_neg (by decide +kernel)] at hlookup
  cases hlookup

/-- A rotation of a key file that names its key keeps the published keys. -/
theorem sample_tokens_kept :
    ∃ old new report keyFile,
      bootstrapJwks KeySample.config ⟨.json key0.privateJwk, 0o600⟩ none = .ok old ∧
      ((rotatePqcKey pqcArgs).run keyStore (fun _ => ⟨none, seed 2⟩)
        (files key0.privateJwk [])).outcome = .ok report ∧
      ((rotatePqcKey pqcArgs).run keyStore (fun _ => ⟨none, seed 2⟩)
        (files key0.privateJwk [])).state.keyFile = some keyFile ∧
      bootstrapJwks KeySample.config keyFile ((rotatePqcKey pqcArgs).run keyStore
        (fun _ => ⟨none, seed 2⟩) (files key0.privateJwk [])).state.overlapFile = .ok new ∧
      KeepsKeys old.keys new.keys := by
  have hchecked : ∀ key ∈ ([] : List PublicJwk), CheckedJwk key := by simp
  obtain ⟨report, t, hrun⟩ := run_rotatePqcKey hchecked
  have houtcome : ((rotatePqcKey pqcArgs).run keyStore (fun _ => ⟨none, seed 2⟩)
      (files key0.privateJwk [])).outcome = .ok report := congrArg Result.outcome hrun
  have hread : PrivateAkpJwk.fromValue key0.privateJwk = some ⟨"AKP", some key0.publicJwk.kid,
      "ML-DSA-44", Base64.encode public0, Base64.encode (seed 0)⟩ := rfl
  have hold : bootstrapJwks KeySample.config ⟨.json key0.privateJwk, 0o600⟩
      (files key0.privateJwk []).overlapFile = _ := bootstrapJwks_seed0 hread
  have hfile : (files key0.privateJwk []).keyFile = some ⟨.json key0.privateJwk, 0o600⟩ := rfl
  obtain ⟨value, jwk, current, overlap, generated, keyFile, new, hvalue, hjwk, hrotated, hcurrent,
    hgenerated, hkeyFile, hnew, hkeeps, -⟩ := pqc_tokens_kept_iff rfl hfile hold houtcome
  refine ⟨_, new, report, keyFile, hold, houtcome, hkeyFile, hnew, hkeeps.mpr ?_⟩
  -- the keys of this run
  have hcurrentKey : current = key0.publicJwk := by
    obtain ⟨file, hfile', hread'⟩ := hrotated.readsKey
    cases hfile'
    exact Except.ok.inj (hread'.symm.trans (current_key0 pqcArgs.keyFile))
  have hoverlap : overlap = [] := (Except.ok.inj hrotated.readsOverlap).symm
  have hgeneratedKey : generated.publicJwk = key2.publicJwk := by
    obtain ⟨entropy, hreplacement⟩ := hrotated.generates
    have hwritten := hrotated.writesKey
    rw [show ((rotatePqcKey pqcArgs).run keyStore (fun _ => ⟨none, seed 2⟩)
      (files key0.privateJwk [])).state.keyFile = _ from
        congrArg (fun r => r.state.keyFile) hrun] at hwritten
    have hprivate : FileText.json key2.privateJwk = .json generated.privateJwk :=
      congrArg StoredFile.text (Option.some.inj hwritten)
    have halg : current.alg = MlDsaAlgorithm.mlDsa44.joseAlg := by rw [hcurrentKey]; rfl
    have hview := (generatePrivateJwk_mlDsa (replacement_pqcKey halg hreplacement)).2.1 ""
    rw [← hprivate] at hview
    exact Except.ok.inj (hview.symm.trans ((generatePrivateJwk_mlDsa generate_key2).2.1 ""))
  have hserved : servedKey KeySample.config jwk current = key0.publicJwk := by
    cases hvalue
    rw [hread] at hjwk
    cases hjwk
    rw [hcurrentKey]
    rfl
  rw [hserved, hcurrentKey, hgeneratedKey, hoverlap]
  refine ⟨fun key hkey => ?_, fun _ hne => absurd rfl hne, fun _ hne => absurd rfl hne⟩
  rw [lookupKey_cons, if_neg kid_ne.2.1] at hkey
  cases hkey

end StsDelegate
