import StsDelegate.MintedJson
import StsDelegate.NoConfusion
import StsDelegate.TrustAnchors

/-!
# Issued tokens verify

A token that the server's signer makes is accepted by `verify_claims_against_jwks` under
the keys the server publishes, and the claims come out as they went in. That takes all of
it together: the JSON form of the claims and the header, the compact form around them, the
signature, and the lookup of the key by its id among the published keys.

`LawfulSigning` is what is relied on of the crates, in the shape that each of the signers
uses them.
-/

namespace StsDelegate

open Text Fallible

section Server

variable [Crates]

/-! ### What is relied on -/

/-- The octets are read as the JSON value of these claims would be. -/
def ReadAs (bytes : Bytes) (claims : MintedClaims) : Prop :=
  (Crates.mintedFromSlice bytes).toOption = MintedClaims.fromValue claims.toValue

/-- OpenSSL takes the key, and the signature is one of this message. -/
structure MlDsaVerifies (algorithm : MlDsaAlgorithm) (publicKey signature message : Bytes) :
    Prop where
  key : Crates.mlDsaPublicKeyError algorithm publicKey = none
  verifier : Crates.mlDsaVerifierError algorithm publicKey = none
  verify : Crates.mlDsaVerifyOneshot algorithm publicKey signature message = .ok true

/-- What is relied on of the crates that write, sign and read tokens. -/
structure LawfulSigning : Prop where
  header : ∀ {header : ProtectedHeader} {bytes : Bytes}, Crates.headerToVec header = .ok bytes →
    Crates.headerFromSlice bytes = .ok header.read
  claims : ∀ {claims : MintedClaims} {bytes : Bytes}, Crates.mintedToVec claims = .ok bytes →
    ReadAs bytes claims
  components : ∀ {n e : String} {nBytes eBytes : Bytes}, Base64.decode n = some nBytes →
    Base64.decode e = some eBytes → Crates.rsaComponentsError n e = none
  rs256 : ∀ {header : ProtectedHeader} {claims : MintedClaims} {key entropy : Bytes}
      {token : String}, Crates.rs256Encode header claims key entropy = .ok token →
    ∃ headerBytes payload signature, token = compactJws headerBytes payload signature ∧
      Crates.headerFromSlice headerBytes = .ok header.read ∧ ReadAs payload claims ∧
      Crates.rs256Decode token (Base64.encode (Crates.rsaPublicComponents key).1)
        (Base64.encode (Crates.rsaPublicComponents key).2) = .ok payload
  mlDsa : ∀ {algorithm : MlDsaAlgorithm} {keyPair publicKey entropy message signature : Bytes},
    Crates.mlDsaRawPublicKey algorithm keyPair = .ok publicKey →
    Crates.mlDsaSignOneshot algorithm keyPair entropy message = .ok signature →
      MlDsaVerifies algorithm publicKey signature message

/-- The signatures of an external provider are those of the configured public key. -/
def JoseSigner.ProviderMatches : JoseSigner → Prop
  | .externalRs256 s => ∀ n e header payload entropy signature,
      s.publicJwk.n = some n → s.publicJwk.e = some e →
      Crates.headerFromSlice header = .ok (JoseSigner.externalRs256 s).header.read →
      s.provider entropy (asBytes (Base64.encode header ++ "." ++ Base64.encode payload)) =
        .ok signature →
      Crates.rs256Decode (compactJws header payload signature) n e = .ok payload
  | .externalMlDsa s => ∀ publicKey entropy message signature,
      akpPublicKeyFromJwk s.publicJwk = .ok ⟨s.algorithm, publicKey⟩ →
      s.provider entropy message = .ok signature →
      MlDsaVerifies s.algorithm publicKey signature message
  | _ => True

/-! ### The parts of a token -/

theorem signCompact_eq_ok {header : ProtectedHeader} {claims : MintedClaims}
    {sign : Bytes → Except JoseError Bytes} {token : String}
    (h : signCompact header claims sign = .ok token) :
    ∃ headerBytes payload signature, token = compactJws headerBytes payload signature ∧
      Crates.headerToVec header = .ok headerBytes ∧ Crates.mintedToVec claims = .ok payload ∧
      sign (asBytes (Base64.encode headerBytes ++ "." ++ Base64.encode payload)) =
        .ok signature := by
  simp only [signCompact, bind_eq_ok, mapError_eq_ok, pure_eq_ok] at h
  obtain ⟨headerBytes, hheader, payload, hpayload, signature, hsignature, heq⟩ := h
  exact ⟨headerBytes, payload, signature, by rw [← heq, compactJws], hheader, hpayload, hsignature⟩

/-- The claims are read back from the payload. -/
theorem ReadAs.eq_ok {bytes : Bytes} {claims : MintedClaims} (h : ReadAs bytes claims)
    (hdepth : claims.actDepth ≤ 126) : Crates.mintedFromSlice bytes = .ok claims := by
  rw [ReadAs, MintedClaims.fromValue_toValue hdepth] at h
  exact toOption_eq_some.mp h

/-! ### Verification under the signer's own key -/

section Verify

variable {signer : JoseSigner} {jwks : JwksDocument} {claims : MintedClaims}

/-- An RS256 token is accepted under a valid key that its signature is for. -/
theorem verify_rs256 (laws : LawfulSigning) {jwk : PublicJwk} {kid typ : String}
    {header payload signature : Bytes} (hkty : jwk.kty = "RSA")
    (hvalid : validatePublicJwk jwk = .ok ())
    (hheader : Crates.headerFromSlice header = .ok ⟨"RS256", some kid, some typ⟩)
    (hjwk : jwks.keys.find? (fun key => key.kid == kid) = some jwk)
    (hdecode : ∀ n e, jwk.n = some n → jwk.e = some e →
      Crates.rs256Decode (compactJws header payload signature) n e = .ok payload)
    (hclaims : Crates.mintedFromSlice payload = .ok claims) :
    verifyClaimsAgainstJwksWithHeader Crates.mintedFromSlice
      (compactJws header payload signature) jwks = .ok ⟨claims, "RS256", kid, some typ⟩ := by
  obtain ⟨key, hkey⟩ : ∃ key, rsaPublicKeyFromJwk jwk = .ok key := by
    simp only [validatePublicJwk, hkty, if_true, bind_eq_ok, pure_eq_ok] at hvalid
    obtain ⟨_, -, key, hkey, -⟩ := hvalid
    exact ⟨key, hkey⟩
  obtain ⟨-, -, hn, he, -⟩ := rsaPublicKeyFromJwk_eq_ok hkey
  obtain ⟨n, hsomeN, hdecodeN⟩ := Option.bind_eq_some_iff.mp hn
  obtain ⟨e, hsomeE, hdecodeE⟩ := Option.bind_eq_some_iff.mp he
  exact verifyClaimsAgainstJwksInner_rs256 hheader (fun _ h => by cases h) hjwk hkey hsomeN hsomeE
    (laws.components hdecodeN hdecodeE) (hdecode n e hsomeN hsomeE) hclaims

/-- An ML-DSA token is accepted under a key that its signature is for. -/
theorem verify_mlDsa {jwk : PublicJwk} {algorithm : MlDsaAlgorithm} {publicKey : Bytes}
    {kid typ : String} {header payload signature : Bytes}
    (hheader : Crates.headerFromSlice header = .ok ⟨algorithm.joseAlg, some kid, some typ⟩)
    (hjwk : jwks.keys.find? (fun key => key.kid == kid) = some jwk)
    (hkey : akpPublicKeyFromJwk jwk = .ok ⟨algorithm, publicKey⟩)
    (hlength : signature.length = algorithm.signatureLen)
    (hsigned : MlDsaVerifies algorithm publicKey signature
      (asBytes (Base64.encode header ++ "." ++ Base64.encode payload)))
    (hclaims : Crates.mintedFromSlice payload = .ok claims) :
    verifyClaimsAgainstJwksWithHeader Crates.mintedFromSlice
      (compactJws header payload signature) jwks =
        .ok ⟨claims, algorithm.joseAlg, kid, some typ⟩ :=
  verifyClaimsAgainstJwksInner_mlDsa hheader hjwk hkey hlength hsigned.key hsigned.verifier
    hsigned.verify hclaims

/-- A token is accepted wherever its key id stands for the signer's key, and gives back the
claims. -/
theorem verify_signClaims (laws : LawfulSigning)
    (hvalid : validatePublicJwk signer.publicJwk = .ok ()) (hprovider : signer.ProviderMatches)
    (hjwk : jwks.keys.find? (fun key => key.kid == signer.kid) = some signer.publicJwk)
    (hdepth : claims.actDepth ≤ 126) {entropy : Bytes} {token : String}
    (h : signer.signClaims claims entropy = .ok token) :
    verifyClaimsAgainstJwksWithHeader Crates.mintedFromSlice token jwks =
      .ok ⟨claims, signer.alg, signer.kid, some "at+jwt"⟩ := by
  cases signer with
  | rsa s =>
      obtain ⟨header, payload, signature, rfl, hheader, hread, hdecode⟩ :=
        laws.rs256 (mapError_eq_ok.mp h)
      refine verify_rs256 laws rfl hvalid hheader hjwk (fun n e hn he => ?_) (hread.eq_ok hdepth)
      rw [← Option.some.inj hn, ← Option.some.inj he]
      exact hdecode
  | externalRs256 s =>
      obtain ⟨header, payload, signature, rfl, hheader, hpayload, hsign⟩ := signCompact_eq_ok h
      exact verify_rs256 laws s.kty_eq hvalid (laws.header hheader) hjwk
        (fun n e hn he => hprovider n e header payload entropy signature hn he
          (laws.header hheader) hsign)
        ((laws.claims hpayload).eq_ok hdepth)
  | mlDsa s =>
      obtain ⟨header, payload, signature, rfl, hheader, hpayload, hsign⟩ := signCompact_eq_ok h
      simp only [opensslSignMldsa, bind_eq_ok, mapError_eq_ok, rejectIf_eq_ok, pure_eq_ok,
        bne_eq_false_iff_eq] at hsign
      obtain ⟨_, -, signature', hsign, _, hlength, heq⟩ := hsign
      subst heq
      exact verify_mlDsa (laws.header hheader) hjwk (akpPublicKeyFromJwk_mlDsa s) hlength
        (laws.mlDsa s.derived hsign) ((laws.claims hpayload).eq_ok hdepth)
  | externalMlDsa s =>
      obtain ⟨header, payload, signature, rfl, hheader, hpayload, hsign⟩ := signCompact_eq_ok h
      simp only [ExternalMlDsaJoseSigner.sign, bind_eq_ok, rejectIf_eq_ok, pure_eq_ok,
        bne_eq_false_iff_eq] at hsign
      obtain ⟨signature', hsign, _, hlength, heq⟩ := hsign
      subst heq
      -- the key of an external signer is one that the server accepted when it started
      obtain ⟨publicKey, hkey⟩ : ∃ publicKey,
          akpPublicKeyFromJwk s.publicJwk = .ok ⟨s.algorithm, publicKey⟩ := by
        have hkty : ¬ s.publicJwk.kty = "RSA" := by
          rw [s.kty_eq]
          decide
        have hvalid' : validatePublicJwk s.publicJwk = .ok () := hvalid
        simp only [validatePublicJwk, if_neg hkty, if_pos s.kty_eq, bind_eq_ok,
          pure_eq_ok] at hvalid'
        obtain ⟨_, -, key, hkey, -⟩ := hvalid'
        obtain ⟨-, halg, -⟩ := akpPublicKeyFromJwk_eq_ok hkey
        rw [s.alg_eq, MlDsaAlgorithm.fromJoseAlg_joseAlg, Option.some.injEq] at halg
        exact ⟨key.publicKey, by rw [hkey, halg]⟩
      exact verify_mlDsa (laws.header hheader) hjwk hkey hlength
        (hprovider publicKey entropy _ signature' hkey hsign)
        ((laws.claims hpayload).eq_ok hdepth)

end Verify

/-! ### The published keys -/

/-- The signer's key comes first. -/
theorem publishedJwks_keys (signer : JoseSigner) (extra : Option JwksDocument) :
    (∃ rest, (publishedJwks signer extra).keys = signer.publicJwk :: rest) ∧
      ((publishedJwks signer extra).keys.map PublicJwk.kid).Nodup := by
  cases extra with
  | none => exact ⟨⟨[], rfl⟩, List.nodup_singleton _⟩
  | some document =>
      refine ⟨?_, nodup_addKeys _ _ (List.nodup_singleton _)⟩
      have hprefix : ∀ (published keys : List PublicJwk), published <+: addKeys published keys := by
        intro published keys
        induction keys generalizing published with
        | nil => exact List.prefix_rfl
        | cons key rest ih =>
            rw [addKeys]
            split
            · exact ih published
            · exact (List.prefix_append published [key]).trans (ih _)
      obtain ⟨rest, hrest⟩ := hprefix signer.publicJwks.keys document.keys
      exact ⟨rest, hrest.symm⟩

omit [Crates] in
/-- No id of the extra keys is lost. -/
theorem kid_mem_addKeys {published extra : List PublicJwk} {key : PublicJwk}
    (h : key ∈ extra) : key.kid ∈ (addKeys published extra).map PublicJwk.kid := by
  have hfind : ((addKeys published extra).find? fun existing => existing.kid == key.kid).isSome := by
    rw [find?_addKeys, List.find?_isSome]
    exact ⟨key, List.mem_append_right _ h, beq_self_eq_true _⟩
  obtain ⟨existing, hmem, hkid⟩ := List.find?_isSome.mp hfind
  exact List.mem_map.mpr ⟨existing, hmem, beq_iff_eq.mp hkid⟩

/-- **Issued tokens verify.** The keys a server publishes start with its own, have different
ids and lose no id of the extra file; and every token its signer makes is accepted under
them, with exactly the claims that were signed. -/
theorem issued_tokens_verify [KeyCrates] (laws : LawfulSigning) (keys : LawfulRsaKeyPair)
    {config : StartConfig} {disk : Disk} {web : Web} {entropy : Bytes} {state : HttpState}
    {replay : ReplayPolicy}
    (h : buildStateFromConfig config disk web entropy = .ok (state, replay))
    (hprovider : state.signer.ProviderMatches) :
    (∃ rest, state.publishedJwks.keys = state.signer.publicJwk :: rest) ∧
      (state.publishedJwks.keys.map PublicJwk.kid).Nodup ∧
      (∀ extra, loadExtraJwks config disk = .ok (some extra) →
        ∀ key ∈ extra.keys, key.kid ∈ state.publishedJwks.keys.map PublicJwk.kid) ∧
      ∀ (claims : MintedClaims) (random : Bytes) (token : String), claims.actDepth ≤ 11 →
        state.signer.signClaims claims random = .ok token →
        verifyClaimsAgainstJwksWithHeader Crates.mintedFromSlice token state.publishedJwks =
          .ok ⟨claims, state.signer.alg, state.signer.kid, some "at+jwt"⟩ := by
  have hstart := buildStateFromConfig_eq_ok.mp h
  obtain ⟨extra, hextra, hpublished⟩ := hstart.published
  rw [hpublished]
  obtain ⟨hfirst, hnodup⟩ := publishedJwks_keys state.signer extra
  refine ⟨hfirst, hnodup, ?_, ?_⟩
  · intro document hdocument key hmem
    have hsome : extra = some document := Except.ok.inj (hextra.symm.trans hdocument)
    rw [hsome]
    exact kid_mem_addKeys hmem
  · intro claims random token hdepth hsign
    have hvalid := (accepted_of_loadSigner keys hstart.signer).1
    exact verify_signClaims laws hvalid hprovider (find?_publishedJwks state.signer extra)
      (hdepth.trans (by decide)) hsign

end Server

namespace Sample

/-- The tokens of the sample have the same header, and short chains of actors. -/
theorem mintedTokens_shape {s : Signed} {claims : MintedClaims} (h : (s, claims) ∈ mintedTokens) :
    s.header = mintedHeader ∧ claims.actDepth ≤ 1 := by
  simp only [mintedTokens, List.mem_cons, List.not_mem_nil, or_false] at h
  rcases h with h | h | h | h | h
  all_goals
    cases h
    exact ⟨rfl, by decide⟩

theorem lawfulSigning : LawfulSigning where
  header h := by cases h
  claims h := by cases h
  components _ _ := rfl
  rs256 h := by
    obtain ⟨rfl, rfl, s, hs, rfl⟩ := rs256Encode_eq_ok h
    obtain ⟨hheader, hdepth⟩ := mintedTokens_shape hs
    refine ⟨s.header, s.payload, s.signature, rfl, ?_, ?_, ?_⟩
    · rw [hheader]
      exact headerFromSlice_minted
    · have hread : Crates.mintedFromSlice s.payload = .ok _ := fromSlice_payload (by decide) hs
      rw [ReadAs, hread, MintedClaims.fromValue_toValue (hdepth.trans (by decide))]
      rfl
    · exact rs256Decode_token (mem_signed_of_mem_mintedTokens hs)
  mlDsa h := by cases h

/-- The token minted by delegation verifies under the published keys. -/
theorem delegation_verifies :
    verifyClaimsAgainstJwksWithHeader Crates.mintedFromSlice mintedDelegation.token
        (state .both 1 (by decide)).publishedJwks =
      .ok ⟨delegatedClaims, "RS256", "sts-1", some "at+jwt"⟩ :=
  (issued_tokens_verify lawfulSigning lawfulRsaKeyPair
    (buildStateFromConfig_sample {} none (web idp) []) trivial).2.2.2 delegatedClaims [] _
      (by decide) (signClaims_minted (List.mem_cons_self ..) [])

end Sample

end StsDelegate
