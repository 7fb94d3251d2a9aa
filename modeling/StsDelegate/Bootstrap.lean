import StsDelegate.ConfigSource
import StsDelegate.Discovery
import StsDelegate.FileReplay
import StsDelegate.KeyFiles

/-!
# Starting a server

`build_state_from_config` of `sts-http`, in a build with the default features: the signer
is loaded from a key file or from the mock provider, then the published keys are put
together, and the keys of the identity provider, the actors and the clients are loaded.
Every step may refuse, and the first that does ends the start-up.

`StartsWith` says what all the steps have made of the files and the network when a server
starts.
-/

namespace StsDelegate

open Text Fallible

variable [Crates] [KeyCrates]

/-! ### Files -/

omit [KeyCrates] in
/-- What a text is for the loaders. -/
def fileText (s : String) : FileText :=
  match valueFromStr s with
  | .ok value => .json value
  | .error _ => .other s

omit [KeyCrates] in
/-- A file that is there and is a text. Others may not be able to write to it even if it
is none. -/
def Disk.read (disk : Disk) (path label : String) (allowInsecureWritable : Bool) :
    Except BootstrapError StoredFile :=
  match disk.file path with
  | none => .error (.io label (disk.readError path))
  | some ⟨.text s, mode⟩ => .ok ⟨fileText s, mode⟩
  | some ⟨.binary _, mode⟩ => do
      let _ ← readCheckedFile ⟨.other "", mode⟩ label allowInsecureWritable
      .error (.io label (disk.readError path))

def Disk.loadPublicJwks (disk : Disk) (path label : String) (allowInsecureWritable : Bool) :
    Except BootstrapError JwksDocument := do
  let file ← disk.read path label allowInsecureWritable
  loadPublicJwksFile file label allowInsecureWritable

/-! ### The mock provider -/

/-- `MockExternalRs256Provider`: a key file read as a provider of signatures. -/
def mockExternalRs256Provider (text : FileText) :
    Except JoseError ((entropy signingInput : Bytes) → Except JoseError Bytes) := do
  let jwk ← readRecord "PrivateRsaJwk" "RSA private JWK" PrivateRsaJwk.fromValue text
  rejectIf (jwk.kty != "RSA") ⟨.invalidKey, "unsupported private JWK key type " ++ jwk.kty⟩
  let privateDer ← rsaPrivateJwkToPkcs1Der jwk
  failOn (KeyCrates.rsaFromDerError privateDer) fun e =>
    ⟨.invalidKey, "invalid RSA private key: " ++ e⟩
  rejectIf ((Crates.rsaPublicComponents privateDer).1.length * 8 < 2048)
    ⟨.invalidKey, "RSA signing key modulus must be at least 2048 bits"⟩
  pure fun entropy signingInput =>
    (KeyCrates.rsaSign privateDer entropy signingInput).mapError fun e =>
      ⟨.invalidKey, "external RS256 signing failed: " ++ e⟩

namespace ExternalRs256JoseSigner

omit [KeyCrates]

def new (kid : String) (publicJwk : PublicJwk)
    (provider : (entropy signingInput : Bytes) → Except JoseError Bytes) :
    Except JoseError ExternalRs256JoseSigner := do
  rejectIf (isBlank kid) ⟨.invalidKey, "external signer kid is required"⟩
  match hvalid : validatePublicJwk publicJwk with
  | .error err => .error err
  | .ok () =>
      if htype : publicJwk.kty = "RSA" ∧ publicJwk.alg = "RS256" then
        if hkid : publicJwk.kid = kid then
          pure ⟨kid, publicJwk, provider, hvalid, htype.1, htype.2, hkid⟩
        else .error ⟨.invalidKey, "external signer kid does not match public JWK kid"⟩
      else .error ⟨.unsupportedAlgorithm,
        "external signer currently supports RS256 RSA public keys only"⟩

/-- What a signer has to say about a token of its own. -/
def verifyClaims (signer : ExternalRs256JoseSigner) (token : String) :
    Except JoseError MintedClaims := do
  let header ← decodeCompactJwsHeader token
  rejectIf (header.alg != "RS256") ⟨.verificationFailed, "unexpected JWS algorithm"⟩
  rejectIf (header.kid != some signer.kid) ⟨.verificationFailed, "unexpected JWS kid"⟩
  let verified ← verifyClaimsAgainstJwksWithHeader Crates.mintedFromSlice token
    (JoseSigner.externalRs256 signer).publicJwks
  pure verified.claims

end ExternalRs256JoseSigner

/-- The claims of the token that an external signer signs before it is used. -/
def bootstrapClaims : MintedClaims where
  iss := "bootstrap-self-check"
  sub := "bootstrap-subject"
  aud := "bootstrap-audience"
  scope := "bootstrap.scope"
  iat := 1
  exp := 2
  jti := "bootstrap-jti"
  clientId := "bootstrap-actor"
  act := none
  cnfJkt := none
  authTime := none
  acr := none
  amr := []

omit [KeyCrates] in
def verifyExternalSignerAtBootstrap (signer : ExternalRs256JoseSigner) (entropy : Bytes) :
    Except BootstrapError Unit := do
  let token ← ((JoseSigner.externalRs256 signer).signClaims bootstrapClaims entropy).mapError .jose
  let _ ← (signer.verifyClaims token).mapError .jose
  pure ()

def loadMockExternalSigner (config : StartConfig) (disk : Disk) (entropy : Bytes) :
    Except BootstrapError JoseSigner := do
  rejectIf (BackendSelection.parse config.stsSigningAlg != .classical) (.jose
    ⟨.unsupportedAlgorithm, "mock-external signing provider currently supports RS256 only"⟩)
  let publicJwksFile ← okOr config.stsSigningPublicJwksFile (.config
    ⟨.missingEnv, some "STS_SIGNING_PUBLIC_JWKS_FILE",
      "set STS_SIGNING_PUBLIC_JWKS_FILE when STS_SIGNING_PROVIDER=mock-external"⟩)
  let mockKeyFile ← okOr config.mockExternalSignerKeyFile (.config
    ⟨.missingEnv, some "STS_MOCK_EXTERNAL_SIGNER_KEY_FILE",
      "set STS_MOCK_EXTERNAL_SIGNER_KEY_FILE when STS_SIGNING_PROVIDER=mock-external"⟩)
  let publicJwks ← disk.loadPublicJwks publicJwksFile "STS signing public JWKS"
    config.allowInsecureJwks
  let publicJwk ← okOr (publicJwks.keys.find? fun key => key.kid == config.ourKid)
    (.invalidJwks "STS signing public JWKS"
      ("no public key found for configured kid " ++ config.ourKid))
  let file ← disk.read mockKeyFile "mock external signing key" config.allowInsecureKeyFile
  let text ← readCheckedFile file "mock external signing key" config.allowInsecureKeyFile
  let provider ← (mockExternalRs256Provider text).mapError .jose
  let signer ← (ExternalRs256JoseSigner.new config.ourKid publicJwk provider).mapError .jose
  verifyExternalSignerAtBootstrap signer entropy
  pure (.externalRs256 signer)

def loadSigner (config : StartConfig) (disk : Disk) (entropy : Bytes) :
    Except BootstrapError JoseSigner :=
  if config.stsSigningProvider = "" || config.stsSigningProvider = "file" then do
    let file ← disk.read config.oboStsKeyFile "STS signing key" config.allowInsecureKeyFile
    loadFileSigner config.toKeyFileConfig file
  else if config.stsSigningProvider = "mock-external" then
    loadMockExternalSigner config disk entropy
  else .error (.jose ⟨.unsupportedAlgorithm,
    "unsupported STS signing provider " ++ debug config.stsSigningProvider⟩)

/-- The signers that start-up hands out, with what is known of the key of each. -/
inductive LoadedSigner (config : StartConfig) (disk : Disk) : JoseSigner → Prop
  | rsa {signer : RsaJoseSigner}
      (classical : BackendSelection.parse config.stsSigningAlg = .classical)
      (key : KeyCrates.rsaFromDerError signer.encodingKey = none) :
      LoadedSigner config disk (.rsa signer)
  | mlDsa {signer : MlDsaJoseSigner} {requested : String} {file : StoredFile}
      (selection : BackendSelection.parse config.stsSigningAlg = .requestedPqc requested)
      (read : disk.read config.oboStsKeyFile "STS signing key" config.allowInsecureKeyFile =
        .ok file)
      (key : MlDsaJoseSigner.fromPrivateJwkForBackend (.requestedPqc requested) file.text
        config.ourKid = .ok signer) :
      LoadedSigner config disk (.mlDsa signer)
  | external {signer : ExternalRs256JoseSigner} {path : String} {jwks : JwksDocument}
      (classical : BackendSelection.parse config.stsSigningAlg = .classical)
      (read : disk.loadPublicJwks path "STS signing public JWKS" config.allowInsecureJwks =
        .ok jwks)
      (key : signer.publicJwk ∈ jwks.keys) :
      LoadedSigner config disk (.externalRs256 signer)

/-- The key pair of an RSA signer is one that `RsaKeyPair` reads, wherever it is from. -/
theorem rsaFromDerError_of_classical {text : FileText} {kid : String} {signer : RsaJoseSigner}
    (h : (match pemText text with
      | some raw => RsaJoseSigner.fromPkcs1Pem raw kid
      | none => RsaJoseSigner.fromPrivateJwk text kid) = .ok signer) :
    KeyCrates.rsaFromDerError signer.encodingKey = none := by
  cases hpem : pemText text with
  | some raw =>
      simp only [hpem, RsaJoseSigner.fromPkcs1Pem, RsaJoseSigner.fromPkcs1Der, bind_eq_ok,
        failOn_eq_ok, pure_eq_ok] at h
      obtain ⟨der, -, _, hkey, _, -, heq⟩ := h
      subst heq
      exact hkey
  | none =>
      simp only [hpem] at h
      obtain ⟨_, _, _, _, _, -, -, -, -, -, -, hkey, -⟩ := fromPrivateJwk_eq_ok h
      exact hkey

/-- A key file is loaded as an RSA or an ML-DSA signer, as the selection says. -/
theorem loadedSigner_of_loadFileSigner {config : StartConfig} {disk : Disk} {file : StoredFile}
    {signer : JoseSigner}
    (hread : disk.read config.oboStsKeyFile "STS signing key" config.allowInsecureKeyFile =
      .ok file)
    (h : loadFileSigner config.toKeyFileConfig file = .ok signer) :
    LoadedSigner config disk signer := by
  simp only [loadFileSigner, readCheckedFile, bind_eq_ok, pure_eq_ok] at h
  obtain ⟨text, ⟨_, -, htext⟩, h⟩ := h
  subst htext
  cases hparse : BackendSelection.parse config.stsSigningAlg with
  | classical =>
      simp only [hparse, bind_eq_ok, mapError_eq_ok, pure_eq_ok] at h
      obtain ⟨rsa, hrsa, heq⟩ := h
      subst heq
      exact .rsa hparse (rsaFromDerError_of_classical hrsa)
  | requestedPqc requested =>
      simp only [hparse, loadPqcSigner, bind_eq_ok, mapError_eq_ok, pure_eq_ok] at h
      obtain ⟨_, -, mlDsa, hmlDsa, heq⟩ := h
      subst heq
      exact .mlDsa hparse hread hmlDsa

omit [KeyCrates] in
theorem ExternalRs256JoseSigner.new_eq_ok {kid : String} {publicJwk : PublicJwk}
    {provider : (entropy signingInput : Bytes) → Except JoseError Bytes}
    {signer : ExternalRs256JoseSigner} (h : new kid publicJwk provider = .ok signer) :
    signer.publicJwk = publicJwk ∧ signer.provider = provider := by
  simp only [new, bind_eq_ok] at h
  obtain ⟨_, -, h⟩ := h
  split at h
  · cases h
  · split at h
    · split at h
      · cases h
        exact ⟨rfl, rfl⟩
      · cases h
    · cases h

theorem loadedSigner_of_loadSigner {config : StartConfig} {disk : Disk} {entropy : Bytes}
    {signer : JoseSigner} (h : loadSigner config disk entropy = .ok signer) :
    LoadedSigner config disk signer := by
  unfold loadSigner at h
  split at h
  · simp only [bind_eq_ok] at h
    obtain ⟨file, hread, h⟩ := h
    exact loadedSigner_of_loadFileSigner hread h
  · split at h
    · simp only [loadMockExternalSigner, bind_eq_ok, rejectIf_eq_ok, bne_eq_false_iff_eq,
        okOr_eq_ok, mapError_eq_ok, pure_eq_ok] at h
      obtain ⟨_, hclassical, path, -, _, -, jwks, hjwks, jwk, hjwk, _, -, _, -, provider, -,
        external, hexternal, _, -, heq⟩ := h
      subst heq
      refine .external hclassical hjwks ?_
      rw [(ExternalRs256JoseSigner.new_eq_ok hexternal).1]
      exact List.mem_of_find?_eq_some hjwk
    · cases h

/-! ### Key sets -/

/-- The keys of the overlap file, if one is configured. -/
def loadExtraJwks (config : StartConfig) (disk : Disk) :
    Except BootstrapError (Option JwksDocument) :=
  match config.oboStsExtraJwksFile with
  | none => pure none
  | some extraFile => do
      let extra ← disk.loadPublicJwks extraFile "extra STS JWKS" config.allowInsecureJwks
      pure (some extra)

def loadSubjectJwks (config : StartConfig) (disk : Disk) (web : Web) :
    Except BootstrapError JwksDocument :=
  match config.idpJwksFile with
  | some file => disk.loadPublicJwks file "IdP JWKS" config.allowInsecureJwks
  | none => (resolveIdpJwks web config.idpIssuer config.idpJwksUri).mapError .verify

omit [Crates] [KeyCrates] in
/-- The replay store a server starts with. -/
inductive ReplayPolicy
  | memory (store : InMemoryReplayStore)
  | file (dir : String) (maxSeen sweepEvery : Nat)

omit [Crates] [KeyCrates] in
def buildReplayPolicy (config : StartConfig) (disk : Disk) : Except BootstrapError ReplayPolicy :=
  match config.replayBackend with
  | .memory => pure (.memory (.new config.maxSeenJti 256))
  | .file dir => do
      rejectIf (!disk.createDirAll dir) (.replay replayStoreUnavailable)
      pure (.file dir config.maxSeenJti 256)

/-! ### The state -/

/-- Build a complete HTTP state from an already-validated runtime config. With OpenSSL in
the build every inbound algorithm has a backend. -/
def buildStateFromConfig (config : StartConfig) (disk : Disk) (web : Web) (entropy : Bytes) :
    Except BootstrapError (HttpState × ReplayPolicy) := do
  let signer ← loadSigner config disk entropy
  let extra ← loadExtraJwks config disk
  let subjectJwks ← loadSubjectJwks config disk web
  let actorJwks ←
    disk.loadPublicJwks config.actorJwksFile "actor JWKS" config.allowInsecureActorJwks
  let clientJwks ←
    disk.loadPublicJwks config.clientJwksFile "client JWKS" config.allowInsecureClientJwks
  let replay ← buildReplayPolicy config disk
  pure
    ({ config := config.toRuntimeConfig
       signer
       publishedJwks := publishedJwks signer extra
       subjectJwks
       actorJwks
       clientJwks }, replay)

/-- Build a complete HTTP state from an explicit config source without serving. -/
def buildStateFromSource (source : ConfigSource) (disk : Disk) (web : Web) (entropy : Bytes) :
    Except BootstrapError (HttpState × ReplayPolicy) := do
  let config ← (StartConfig.fromSource source disk).mapError .config
  buildStateFromConfig config disk web entropy

/-- What start-up has made of its surroundings. -/
structure StartsWith (config : StartConfig) (disk : Disk) (web : Web) (entropy : Bytes)
    (state : HttpState) (replay : ReplayPolicy) : Prop where
  config_eq : state.config = config.toRuntimeConfig
  signer : loadSigner config disk entropy = .ok state.signer
  published : ∃ extra, loadExtraJwks config disk = .ok extra ∧
    state.publishedJwks = publishedJwks state.signer extra
  subject : loadSubjectJwks config disk web = .ok state.subjectJwks
  actor : disk.loadPublicJwks config.actorJwksFile "actor JWKS" config.allowInsecureActorJwks =
    .ok state.actorJwks
  client : disk.loadPublicJwks config.clientJwksFile "client JWKS" config.allowInsecureClientJwks =
    .ok state.clientJwks
  replay : buildReplayPolicy config disk = .ok replay

/-- A server starts exactly with what every step has made. -/
theorem buildStateFromConfig_eq_ok {config : StartConfig} {disk : Disk} {web : Web}
    {entropy : Bytes} {state : HttpState} {replay : ReplayPolicy} :
    buildStateFromConfig config disk web entropy = .ok (state, replay) ↔
      StartsWith config disk web entropy state replay := by
  simp only [buildStateFromConfig, bind_eq_ok, pure_eq_ok, Prod.mk.injEq]
  constructor
  · intro h
    obtain ⟨signer, hsigner, extra, hextra, subject, hsubject, actor, hactor, client, hclient,
      policy, hreplay, hstate, hpolicy⟩ := h
    subst hstate hpolicy
    exact ⟨rfl, hsigner, ⟨extra, hextra, rfl⟩, hsubject, hactor, hclient, hreplay⟩
  · intro h
    obtain ⟨hconfig, hsigner, ⟨extra, hextra, hpublished⟩, hsubject, hactor, hclient, hreplay⟩ := h
    refine ⟨_, hsigner, extra, hextra, _, hsubject, _, hactor, _, hclient, _, hreplay, ?_, rfl⟩
    rw [← hconfig, ← hpublished]

end StsDelegate
