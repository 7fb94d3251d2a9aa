import StsDelegate.Sample.Startup

/-!
# Trust anchors

The keys a server trusts from its start on: those of the identity provider, the actors and
the clients, and those it publishes itself. Key files are vetted key by key when they are
loaded. What comes over the network is not, so `trusted_keys_vetted_iff` says of which
servers it is true that every trusted key was vetted.

The digests that the configuration names for two of the files are read, and nothing looks
at them: `pins_enforced_iff` says that they are enforced only where there are none.
-/

namespace StsDelegate

open Text Fallible

section Server

variable [Crates] [KeyCrates]

/-! ### Vetted keys -/

/-- Every key of a loaded file is accepted. -/
theorem accepted_of_loadPublicJwks {disk : Disk} {path label : String} {allow : Bool}
    {jwks : JwksDocument} (h : disk.loadPublicJwks path label allow = .ok jwks) :
    ∀ key ∈ jwks.keys, AcceptedJwk key := by
  simp only [Disk.loadPublicJwks, loadPublicJwksFile, bind_eq_ok] at h
  obtain ⟨file, -, text, -, hload⟩ := h
  cases text with
  | json value => exact accepted_of_normalize hload
  | other raw => cases hload

/-- What is relied on of RSA key pairs: one that is read has at least 2048 bits, and it
hands out its modulus and exponent as octets without leading zeros. -/
structure LawfulRsaKeyPair : Prop where
  bits : ∀ {der : Bytes}, KeyCrates.rsaFromDerError der = none →
    2048 ≤ rsaModulusBits (Crates.rsaPublicComponents der).1
  modulus : ∀ {der : Bytes}, KeyCrates.rsaFromDerError der = none →
    (Crates.rsaPublicComponents der).1.head? ≠ some 0
  exponent : ∀ {der : Bytes}, KeyCrates.rsaFromDerError der = none →
    (Crates.rsaPublicComponents der).2 ≠ [] ∧ (Crates.rsaPublicComponents der).2.head? ≠ some 0

namespace LawfulRsaKeyPair

theorem validatePublicComponents_eq_ok (laws : LawfulRsaKeyPair) {der : Bytes}
    (h : KeyCrates.rsaFromDerError der = none) :
    validatePublicComponents (Crates.rsaPublicComponents der).1
      (Crates.rsaPublicComponents der).2 = .ok () := by
  have hn : (Crates.rsaPublicComponents der).1 ≠ [] := by
    intro hnil
    have hbits := laws.bits h
    rw [hnil] at hbits
    exact absurd hbits (by decide)
  obtain ⟨he, hexponent⟩ := laws.exponent h
  simp only [validatePublicComponents, bind_eq_ok, rejectIf_eq_ok, Bool.or_eq_false_iff,
    beq_eq_false_iff_ne, List.isEmpty_eq_false_iff]
  exact ⟨(), ⟨hn, he⟩, laws.modulus h, hexponent⟩

theorem rsaPublicKeyFromJwk_eq_ok (laws : LawfulRsaKeyPair) {signer : RsaJoseSigner}
    (h : KeyCrates.rsaFromDerError signer.encodingKey = none) :
    rsaPublicKeyFromJwk signer.publicJwk =
      .ok ⟨(Crates.rsaPublicComponents signer.encodingKey).1,
        (Crates.rsaPublicComponents signer.encodingKey).2⟩ :=
  rsaPublicKeyFromJwk_encode rfl rfl rfl rfl (laws.validatePublicComponents_eq_ok h)

theorem accepted_publicJwk (laws : LawfulRsaKeyPair) {signer : RsaJoseSigner}
    (h : KeyCrates.rsaFromDerError signer.encodingKey = none) : AcceptedJwk signer.publicJwk := by
  refine acceptedJwk_iff.mpr ⟨rfl, Or.inl ⟨rfl, _, ?_, laws.bits h⟩⟩
  simp [rsaPublicKeyBitsFromJwk, laws.rsaPublicKeyFromJwk_eq_ok h]

end LawfulRsaKeyPair

/-- The signer's own key would be accepted. -/
theorem accepted_of_loadSigner (laws : LawfulRsaKeyPair) {config : StartConfig} {disk : Disk}
    {entropy : Bytes} {signer : JoseSigner} (h : loadSigner config disk entropy = .ok signer) :
    AcceptedJwk signer.publicJwk := by
  cases loadedSigner_of_loadSigner h with
  | rsa _ hkey => exact laws.accepted_publicJwk hkey
  | mlDsa _ _ _ => exact accepted_mlDsa _
  | external _ hread hmem => exact accepted_of_loadPublicJwks hread _ hmem

omit [Crates] [KeyCrates] in
theorem mem_of_mem_addKeys {published extra : List PublicJwk} {key : PublicJwk}
    (h : key ∈ addKeys published extra) : key ∈ published ∨ key ∈ extra := by
  induction extra generalizing published with
  | nil => exact Or.inl h
  | cons first rest ih =>
      rw [addKeys] at h
      split at h
      · rcases ih h with hold | hrest
        · exact Or.inl hold
        · exact Or.inr (List.mem_cons_of_mem _ hrest)
      · rcases ih h with hold | hrest
        · rcases List.mem_append.mp hold with hpublished | hfirst
          · exact Or.inl hpublished
          · rw [List.mem_singleton.mp hfirst]
            exact Or.inr (List.mem_cons_self ..)
        · exact Or.inr (List.mem_cons_of_mem _ hrest)

/-- Every published key would be accepted. -/
theorem accepted_publishedJwks {config : StartConfig} {disk : Disk} {signer : JoseSigner}
    {extra : Option JwksDocument} (hsigner : AcceptedJwk signer.publicJwk)
    (hextra : loadExtraJwks config disk = .ok extra) :
    ∀ key ∈ (publishedJwks signer extra).keys, AcceptedJwk key := by
  have hown : ∀ key ∈ signer.publicJwks.keys, AcceptedJwk key := by
    intro key hmem
    rw [List.mem_singleton.mp hmem]
    exact hsigner
  cases extra with
  | none => exact hown
  | some document =>
      intro key hmem
      rcases mem_of_mem_addKeys hmem with hmem | hmem
      · exact hown key hmem
      · cases hfile : config.oboStsExtraJwksFile with
        | none =>
            simp only [loadExtraJwks, hfile, pure_eq_ok] at hextra
            cases hextra
        | some file =>
            simp only [loadExtraJwks, hfile, bind_eq_ok, pure_eq_ok, Option.some.injEq] at hextra
            obtain ⟨_, hload, heq⟩ := hextra
            subst heq
            exact accepted_of_loadPublicJwks hload key hmem

omit [KeyCrates] in
/-- The keys that a server trusts. -/
def HttpState.trustedKeys (state : HttpState) : List PublicJwk :=
  state.subjectJwks.keys ++ state.actorJwks.keys ++ state.clientJwks.keys ++
    state.publishedJwks.keys

omit [KeyCrates] in
/-- Every key in the document that the identity provider serves is one that would be
accepted from a file. -/
def ServedKeysAccepted (config : StartConfig) (web : Web) : Prop :=
  ∀ jwks, resolveIdpJwks web config.idpIssuer config.idpJwksUri = .ok jwks →
    ∀ key ∈ jwks.keys, AcceptedJwk key

/-- A server trusts only keys that were vetted exactly if the keys of the identity provider
come from a file, or else happen to be acceptable. -/
theorem trusted_keys_vetted_iff (laws : LawfulRsaKeyPair) {config : StartConfig} {disk : Disk}
    {web : Web} {entropy : Bytes} {state : HttpState} {replay : ReplayPolicy}
    (h : buildStateFromConfig config disk web entropy = .ok (state, replay)) :
    (∀ key ∈ state.trustedKeys, AcceptedJwk key) ↔
      config.idpJwksFile.isSome ∨ ServedKeysAccepted config web := by
  have hstart := buildStateFromConfig_eq_ok.mp h
  obtain ⟨extra, hextra, hpublished⟩ := hstart.published
  have hothers : ∀ key ∈ state.actorJwks.keys ++ state.clientJwks.keys ++
      state.publishedJwks.keys, AcceptedJwk key := by
    intro key hmem
    rw [hpublished] at hmem
    rcases List.mem_append.mp hmem with hmem | hmem
    · rcases List.mem_append.mp hmem with hmem | hmem
      · exact accepted_of_loadPublicJwks hstart.actor key hmem
      · exact accepted_of_loadPublicJwks hstart.client key hmem
    · exact accepted_publishedJwks (accepted_of_loadSigner laws hstart.signer) hextra key hmem
  have hsubject : (∀ key ∈ state.trustedKeys, AcceptedJwk key) ↔
      ∀ key ∈ state.subjectJwks.keys, AcceptedJwk key := by
    rw [HttpState.trustedKeys, List.append_assoc, List.append_assoc, ← List.append_assoc
      state.actorJwks.keys, List.forall_mem_append]
    exact and_iff_left hothers
  rw [hsubject]
  have hload := hstart.subject
  unfold loadSubjectJwks at hload
  cases hfile : config.idpJwksFile with
  | some file =>
      simp only [hfile] at hload
      exact iff_of_true (accepted_of_loadPublicJwks hload) (Or.inl rfl)
  | none =>
      -- the document is trusted as it came
      simp only [hfile, mapError_eq_ok] at hload
      constructor
      · intro haccepted
        refine Or.inr fun jwks hjwks => ?_
        rw [Except.ok.inj (hjwks.symm.trans hload)]
        exact haccepted
      · intro hserved
        rcases hserved with hsome | hserved
        · cases hsome
        · exact hserved _ hload

/-! ### Pins -/

omit [KeyCrates] in
/-- The file has the digest that is configured for it, in hexadecimal, if one is. -/
def PinMatches (disk : Disk) (path : String) (pin : Option String) : Prop :=
  ∀ digest, pin = some digest → ∃ file, disk.file path = some file ∧
    toAsciiLowercase digest = hexLower (Crates.sha256 file.contents.bytes)

omit [KeyCrates] in
/-- Both pinned files have their digests. -/
def PinsMatch (config : StartConfig) (disk : Disk) : Prop :=
  PinMatches disk config.actorJwksFile config.actorJwksSha256 ∧
    PinMatches disk config.clientJwksFile config.clientJwksSha256

/-- The pins of the configuration are enforced: a server starts only on files that have
the configured digests. -/
def PinsEnforced (source : ConfigSource) : Prop :=
  ∀ (disk : Disk) (config : StartConfig) (web : Web) (entropy : Bytes) (state : HttpState)
    (replay : ReplayPolicy), StartConfig.fromSource source disk = .ok config →
      buildStateFromConfig config disk web entropy = .ok (state, replay) → PinsMatch config disk

/-- A server starts alike whatever digests are configured. -/
theorem buildStateFromConfig_pins (config : StartConfig) (actors clients : Option String)
    (disk : Disk) (web : Web) (entropy : Bytes) :
    buildStateFromConfig
        { config with actorJwksSha256 := actors, clientJwksSha256 := clients } disk web entropy =
      buildStateFromConfig config disk web entropy := rfl

def blanks (n : Nat) : String := String.ofList (List.replicate n ' ')

/-- What is relied on of JSON and of SHA-256: blanks before a JSON text do not change the
value that is read, and some number of them changes the digest. -/
structure LawfulBlanks : Prop where
  value : ∀ {text : String} {value : Json} (n : Nat), valueFromStr text = .ok value →
    valueFromStr (blanks n ++ text) = .ok value
  digest : ∀ text : String, ∃ n,
    Crates.sha256 (asBytes (blanks n ++ text)) ≠ Crates.sha256 (asBytes text)

/-! ### A file written in another way -/

omit [Crates] [KeyCrates] in
/-- The disk with another text in one of its files. -/
def Disk.rewrite (disk : Disk) (path text : String) : Disk :=
  { disk with
    file := fun other =>
      if other = path then (disk.file path).map fun file => ⟨.text text, file.mode⟩
      else disk.file other }

section Rewrite

variable {disk : Disk} {path text text' : String} {mode : Nat} {value : Json}

omit [KeyCrates]

/-- The same is read if the text is another one of the same value. -/
theorem read_rewrite (hfile : disk.file path = some ⟨.text text, mode⟩)
    (hvalue : valueFromStr text = .ok value) (hvalue' : valueFromStr text' = .ok value) :
    (disk.rewrite path text').read = disk.read := by
  funext other label allow
  by_cases hpath : other = path
  · subst hpath
    simp only [Disk.read, Disk.rewrite, if_true, hfile, Option.map_some, fileText, hvalue, hvalue']
  · simp only [Disk.read, Disk.rewrite, if_neg hpath]

theorem valueFromStr_rewrite (hfile : disk.file path = some ⟨.text text, mode⟩)
    (hvalue : valueFromStr text = .ok value) (hvalue' : valueFromStr text' = .ok value)
    (other : String) :
    ((disk.rewrite path text').readToString other).map valueFromStr =
      (disk.readToString other).map valueFromStr := by
  by_cases hpath : other = path
  · subst hpath
    simp only [Disk.readToString, Disk.rewrite, if_true, hfile, Option.map_some, hvalue, hvalue']
  · simp only [Disk.readToString, Disk.rewrite, if_neg hpath]

theorem loadTargetPolicyFromSource_congr {source : ConfigSource} {disk' : Disk}
    (h : ∀ path, (disk'.readToString path).map valueFromStr =
      (disk.readToString path).map valueFromStr) :
    loadTargetPolicyFromSource source disk' = loadTargetPolicyFromSource source disk := by
  unfold loadTargetPolicyFromSource
  cases source.get "TARGET_POLICY_JSON" with
  | some raw => rfl
  | none =>
      cases source.get "TARGET_POLICY_FILE" with
      | none => rfl
      | some path =>
          have hpath := h path
          simp only [Option.none_or, Option.bind_some]
          cases hread : disk.readToString path with
          | none =>
              rw [hread, Option.map_none, Option.map_eq_none_iff] at hpath
              rw [hpath]
          | some raw =>
              rw [hread, Option.map_some, Option.map_eq_some_iff] at hpath
              obtain ⟨raw', hread', heq⟩ := hpath
              simp only [hread', heq]

theorem fromSource_congr {source : ConfigSource} {disk' : Disk}
    (h : ∀ path, (disk'.readToString path).map valueFromStr =
      (disk.readToString path).map valueFromStr) :
    StartConfig.fromSource source disk' = StartConfig.fromSource source disk := by
  simp only [StartConfig.fromSource, loadTargetPolicyFromSource_congr h]

end Rewrite

/-- Start-up looks at the files through what is read from them only. -/
theorem buildStateFromConfig_congr {config : StartConfig} {disk disk' : Disk} {web : Web}
    {entropy : Bytes} (hread : disk'.read = disk.read)
    (hdirs : disk'.createDirAll = disk.createDirAll) :
    buildStateFromConfig config disk' web entropy = buildStateFromConfig config disk web entropy := by
  have hload : disk'.loadPublicJwks = disk.loadPublicJwks := by
    funext path label allow
    rw [Disk.loadPublicJwks, Disk.loadPublicJwks, hread]
  simp only [buildStateFromConfig, loadSigner, loadMockExternalSigner, loadExtraJwks, loadSubjectJwks,
    buildReplayPolicy, hread, hload, hdirs]

/-- A key file that is loaded is a JSON text. -/
theorem text_of_loadPublicJwks {disk : Disk} {path label : String} {allow : Bool}
    {jwks : JwksDocument} (h : disk.loadPublicJwks path label allow = .ok jwks) :
    ∃ text mode value, disk.file path = some ⟨.text text, mode⟩ ∧ valueFromStr text = .ok value := by
  simp only [Disk.loadPublicJwks, bind_eq_ok] at h
  obtain ⟨file, hread, hload⟩ := h
  unfold Disk.read at hread
  split at hread
  · cases hread
  · next text mode hfile =>
      cases hread
      refine ⟨text, mode, ?_⟩
      cases hvalue : valueFromStr text with
      | ok value => exact ⟨value, hfile, rfl⟩
      | error err =>
          simp only [loadPublicJwksFile, fileText, hvalue, bind_eq_ok] at hload
          obtain ⟨_, hchecked, hload⟩ := hload
          simp only [readCheckedFile, bind_eq_ok, pure_eq_ok] at hchecked
          obtain ⟨_, -, heq⟩ := hchecked
          subst heq
          cases hload
  · simp only [bind_eq_ok] at hread
    obtain ⟨_, -, hread⟩ := hread
    cases hread

/-- The digest of a file that is loaded is never enforced: the server starts as well on
another text of the same value. -/
theorem unpinned_of_enforced (laws : LawfulBlanks) {source : ConfigSource} {disk : Disk}
    {config : StartConfig} {web : Web} {entropy : Bytes} {state : HttpState} {replay : ReplayPolicy}
    (hsource : StartConfig.fromSource source disk = .ok config)
    (hstart : buildStateFromConfig config disk web entropy = .ok (state, replay))
    (henforced : PinsEnforced source) {path label : String} {allow : Bool} {jwks : JwksDocument}
    (hload : disk.loadPublicJwks path label allow = .ok jwks) {pin : Option String}
    (hpin : ∀ disk, PinsMatch config disk → PinMatches disk path pin) : pin = none := by
  rw [Option.eq_none_iff_forall_ne_some]
  intro digest hdigest
  obtain ⟨text, mode, value, hfile, hvalue⟩ := text_of_loadPublicJwks hload
  obtain ⟨n, hother⟩ := laws.digest text
  have hvalue' := laws.value n hvalue
  have hsource' := (fromSource_congr (valueFromStr_rewrite hfile hvalue hvalue')).trans hsource
  have hstart' : buildStateFromConfig config (disk.rewrite path (blanks n ++ text)) web entropy = _ :=
    (buildStateFromConfig_congr (read_rewrite hfile hvalue hvalue') rfl).trans hstart
  -- one pin cannot be the digest of both texts
  obtain ⟨file₁, hfile₁, hdigest₁⟩ := hpin _ (henforced _ _ _ _ _ _ hsource hstart) digest hdigest
  obtain ⟨file₂, hfile₂, hdigest₂⟩ := hpin _ (henforced _ _ _ _ _ _ hsource' hstart') digest hdigest
  rw [hfile] at hfile₁
  simp only [Disk.rewrite, if_true, hfile, Option.map_some] at hfile₂
  cases hfile₁
  cases hfile₂
  exact hother (hexLower_injective (hdigest₂.symm.trans hdigest₁))

/-- **Configured digests are never enforced.** Take any variables with which a server starts
on some files when no digest is configured. With the digests it starts only on files that
have them exactly if none is configured: otherwise it also starts on files that have others. -/
theorem pins_enforced_iff (laws : LawfulBlanks) {source : ConfigSource} {disk : Disk}
    {config : StartConfig} {web : Web} {entropy : Bytes} {state : HttpState} {replay : ReplayPolicy}
    (hsource : StartConfig.fromSource source disk = .ok config)
    (hstart : buildStateFromConfig { config with actorJwksSha256 := none, clientJwksSha256 := none }
      disk web entropy = .ok (state, replay)) :
    PinsEnforced source ↔
      source.trimmed "ACTOR_JWKS_SHA256" = none ∧ source.trimmed "CLIENT_JWKS_SHA256" = none := by
  have hloaded := StartConfig.loadedFrom_of_fromSource hsource
  constructor
  · intro henforced
    have hstart' := (buildStateFromConfig_pins config none none disk web entropy).symm.trans hstart
    have hstarts := buildStateFromConfig_eq_ok.mp hstart'
    have hactors := unpinned_of_enforced laws hsource hstart' henforced hstarts.actor
      fun _ hmatch => hmatch.1
    have hclients := unpinned_of_enforced laws hsource hstart' henforced hstarts.client
      fun _ hmatch => hmatch.2
    rw [hloaded.actorJwksSha256] at hactors
    rw [hloaded.clientJwksSha256, Option.or_eq_none_iff] at hclients
    exact ⟨hactors, hclients.1⟩
  · intro ⟨hactors, hclients⟩ disk' config' web' entropy' state' replay' hsource' _
    have hloaded' := StartConfig.loadedFrom_of_fromSource hsource'
    have hpinActors : config'.actorJwksSha256 = none := hloaded'.actorJwksSha256.trans hactors
    have hpinClients : config'.clientJwksSha256 = none := by
      rw [hloaded'.clientJwksSha256, hactors, hclients, Option.or_none]
    refine ⟨fun digest hdigest => ?_, fun digest hdigest => ?_⟩
    · rw [hpinActors] at hdigest
      cases hdigest
    · rw [hpinClients] at hdigest
      cases hdigest

end Server

namespace Sample

/-! ### The sample servers -/

theorem lawfulRsaKeyPair : LawfulRsaKeyPair := by
  have hkey : ∀ {der : Bytes}, KeyCrates.rsaFromDerError der = none → der = keyPair := by
    intro der h
    by_contra hne
    have herror : KeyCrates.rsaFromDerError der = some "InvalidEncoding" := if_neg hne
    rw [herror] at h
    cases h
  have hbits : 2048 ≤ rsaModulusBits (modulus keyPair) := by decide +kernel
  have hmodulus : (modulus keyPair).head? ≠ some 0 := by decide +kernel
  refine ⟨fun h => ?_, fun h => ?_, fun h => ?_⟩ <;> rw [hkey h]
  · exact hbits
  · exact hmodulus
  · show [1, 0, 1] ≠ [] ∧ [1, 0, 1].head? ≠ some 0
    decide

/-- A server with all keys in files starts, and every key was vetted. -/
theorem files_are_vetted :
    buildStateFromConfig (startConfig {} none) disk (web idp) [] =
        .ok (state .both 1 (by decide), .memory (.new 1 256)) ∧
      ∀ key ∈ (state .both 1 (by decide)).trustedKeys, AcceptedJwk key := by
  have hstart := buildStateFromConfig_sample {} none (web idp) []
  exact ⟨hstart, (trusted_keys_vetted_iff lawfulRsaKeyPair hstart).mpr (Or.inl rfl)⟩

/-- The variables of a server that fetches the keys of the identity provider. -/
def remoteSource : ConfigSource :=
  sourceOf ([("IDP_JWKS_URI", keysUrl), ("MAX_SEEN_JTI", "1")] ++ commonVariables)

def remoteConfig : StartConfig :=
  { startConfig .standard none with idpJwksFile := none, idpJwksUri := some keysUrl }

set_option maxRecDepth 10000 in
theorem fromSource_remote : StartConfig.fromSource remoteSource disk = .ok remoteConfig := by
  with_unfolding_all rfl

/-- A network in which the identity provider serves this key. -/
def serving (key : PublicJwk) : Web where
  get _ url :=
    if url = keysUrl then .ok ⟨200, .json (JwksDocument.toValue ⟨[key]⟩)⟩
    else .error "error sending request"
  statusText _ := "200 OK"
  decodeError _ _ := refused

theorem resolveIdpJwks_serving (key : PublicJwk) :
    resolveIdpJwks (serving key) idp (some keysUrl) = .ok ⟨[key]⟩ := by
  have hurl : validateJwksUrl keysUrl = .ok keysUrl := toOption_eq_some.mp (by decide)
  have hget : (serving key).get 0 keysUrl = .ok ⟨200, .json (JwksDocument.toValue ⟨[key]⟩)⟩ := rfl
  have htrim : ((some keysUrl).map trim).filter (fun value => !value.isEmpty) = some keysUrl := by
    decide
  have hread : JwksDocument.fromValue (JwksDocument.toValue ⟨[key]⟩) = some ⟨[key]⟩ := by
    simp [JwksDocument.fromValue, JwksDocument.toValue, recordMembers, Json.get,
      PublicJwk.fromValue, PublicJwk.fromMembers_toMembers]
  simp only [resolveIdpJwks, htrim, fetchJwks, hurl, hget, ok_bind, mapError_ok, Web.json, hread,
    okOr_some]
  rfl

theorem buildStateFromSource_remote (key : PublicJwk) :
    buildStateFromSource remoteSource disk (serving key) [] =
      .ok ({ state .both 1 (by decide) with subjectJwks := ⟨[key]⟩ }, .memory (.new 1 256)) := by
  rw [buildStateFromSource, fromSource_remote, mapError_ok, ok_bind, buildStateFromConfig_eq_ok]
  refine
    { config_eq := rfl
      signer := loadSigner_sample rfl rfl rfl []
      published := ⟨none, rfl, rfl⟩
      subject := ?_
      actor := loadPublicJwks_sample (by simp) rfl
      client := loadPublicJwks_sample (by simp) rfl
      replay := rfl }
  show (resolveIdpJwks (serving key) idp (some keysUrl)).mapError _ = _
  rw [resolveIdpJwks_serving, mapError_ok]

/-- A fetched key that is not for signatures is trusted. -/
theorem encryption_key_trusted :
    ¬ ∀ state replay, buildStateFromSource remoteSource disk
        (serving { jwk "idp-1" with use := "enc" }) [] = .ok (state, replay) →
      ∀ key ∈ state.trustedKeys, AcceptedJwk key := by
  intro hvetted
  have haccepted := hvetted _ _ (buildStateFromSource_remote _) { jwk "idp-1" with use := "enc" }
    (List.mem_append_left _ (List.mem_append_left _ (List.mem_append_left _
      (List.mem_singleton.mpr rfl))))
  have huse := (acceptedJwk_iff.mp haccepted).1
  exact absurd huse (by decide)

/-! ### Pinned files -/

/-- The variables of a server with the digest of the actors' keys, which is the one of the
clients' keys as well. -/
def pinnedSource (pin : String) : ConfigSource :=
  source [("MAX_SEEN_JTI", "1"), ("ACTOR_JWKS_SHA256", pin)]

/-- The SHA-256 digest of the file with the actors' keys. -/
def actorsPin : String := "138049812497cbd2d462a13bdc95e99bc4227e3d03783e3b00d1c8c37b222bd8"

/-- A digest that the file does not have. -/
def otherPin : String := "0000000000000000000000000000000000000000000000000000000000000000"

theorem sha256_actors : Crates.sha256 (asBytes (jwksText "agent-1")) = actorsDigest := by
  show swap proofKeyInput proofKeyDigest (swap revocationInput revocationDigest
    (swap actorsInput actorsDigest actorsInput)) = _
  have hactors : swap actorsInput actorsDigest actorsInput = actorsDigest := if_pos rfl
  have hrevocation : swap revocationInput revocationDigest actorsDigest = actorsDigest := by
    rw [swap, if_neg (ne_of_take (n := 1) (by decide)), if_neg (by decide)]
  rw [hactors, hrevocation, swap, if_neg (ne_of_take (n := 1) (by decide)), if_neg (by decide)]

theorem pinMatches_actors (pin : String) :
    PinMatches disk "/keys/actors.json" (some pin) ↔ toAsciiLowercase pin = actorsPin := by
  have hfile : disk.file "/keys/actors.json" = some ⟨.text (jwksText "agent-1"), 0o644⟩ := rfl
  have hdigest : hexLower actorsDigest = actorsPin := by decide
  simp only [PinMatches, hfile, Option.some.injEq, forall_eq', exists_eq_left', Contents.bytes,
    sha256_actors, hdigest]

theorem asBytes_blanks (n : Nat) : asBytes (blanks n) = List.replicate n 32 := by
  have hencode : asBytes (blanks n) = (List.replicate n ' ').flatMap String.utf8EncodeChar := by
    simp [blanks, asBytes, List.utf8Encode]
  rw [hencode]
  clear hencode
  induction n with
  | zero => rfl
  | succ n ih =>
      rw [List.replicate_succ, List.flatMap_cons, ih]
      rfl

theorem lawfulBlanks : LawfulBlanks where
  value {text value} n h := by
    have hskip : (asBytes (blanks n ++ text)).dropWhile (· == 32) =
        (asBytes text).dropWhile (· == 32) := by
      rw [asBytes_append, asBytes_blanks]
      exact List.dropWhile_append_of_pos fun b hb => beq_iff_eq.mpr (List.eq_of_mem_replicate hb)
    show readDocument ((asBytes (blanks n ++ text)).dropWhile (· == 32)) = _
    rw [hskip]
    exact h
  digest text := by
    refine ⟨1, fun h => ?_⟩
    have hlength := congrArg List.length (sha256_injective h)
    rw [asBytes_append, asBytes_blanks, List.length_append] at hlength
    simp at hlength

/-- A server without digests starts, and then there is nothing to enforce. -/
theorem unpinned_enforced :
    (∃ state replay, buildStateFromSource strictSource disk (web idp) [] = .ok (state, replay)) ∧
      PinsEnforced strictSource := by
  have hstart : buildStateFromConfig { startConfig strictKnobs none with
      actorJwksSha256 := none, clientJwksSha256 := none } disk (web idp) [] = _ :=
    buildStateFromConfig_sample strictKnobs none (web idp) []
  exact ⟨⟨_, _, buildStateFromSource_strict (web idp) []⟩,
    (pins_enforced_iff lawfulBlanks fromSource_strict hstart).mpr
      ⟨by with_unfolding_all rfl, by with_unfolding_all rfl⟩⟩

set_option maxRecDepth 10000 in
theorem fromSource_otherPin :
    StartConfig.fromSource (pinnedSource otherPin) disk =
      .ok (startConfig {} (some otherPin)) := by
  with_unfolding_all rfl

/-- A server starts on files that do not have the configured digest. -/
theorem other_pin_ignored :
    StartConfig.fromSource (pinnedSource otherPin) disk =
        .ok (startConfig {} (some otherPin)) ∧
      (∃ state replay, buildStateFromSource (pinnedSource otherPin) disk
        (web idp) [] = .ok (state, replay)) ∧
      ¬ PinsMatch (startConfig {} (some otherPin)) disk := by
  refine ⟨fromSource_otherPin, ?_, ?_⟩
  · rw [buildStateFromSource, fromSource_otherPin, mapError_ok, ok_bind]
    exact ⟨_, _, buildStateFromConfig_sample {} (some otherPin) (web idp) []⟩
  · intro hmatch
    have hpin := (pinMatches_actors otherPin).mp hmatch.1
    exact absurd hpin (by decide)

end Sample

end StsDelegate
