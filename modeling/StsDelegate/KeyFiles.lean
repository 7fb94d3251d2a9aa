import StsDelegate.Overlap

/-!
# What a key file says

The private key file is read by the rotation, which stages the public part of the
current key (`load_current_signing_key`, `load_current_pqc_signing_key`), and by the
server, which signs with it (`load_file_signer`). Both see the same key; for a file
that has no key id they may give it different ids (`loadFileSigner_currentPqc`). A
generated key file is read back by the server as the key that was generated.

Results about RSA rest on a few facts about the RSA crates, `LawfulRsa`.
-/

namespace StsDelegate

open Text Fallible

/-! ### RSA -/

/-- The PKCS#1 sequence with these components. -/
def pkcs1Block (components : List Bytes) : Asn1Block :=
  .sequence 0 (.integer 0 0 :: components.map fun bytes => .integer 0 (BigEndian.fromBytesBE bytes))

variable [Crates] [KeyCrates]

/-- What is relied on of the RSA crates. A key pair has the modulus and the exponent
of the DER form it is read from, without leading zero octets; a generated key has
2048 bits, its integers are positive and written without leading zero octets, and its
DER form is read. -/
structure LawfulRsa : Prop where
  components : ∀ {n e : Bytes} {rest : List Bytes} {der : Bytes},
    DerCrates.toDer (pkcs1Block (n :: e :: rest)) = .ok der → KeyCrates.rsaFromDerError der = none →
    n.head? ≠ some 0 → e.head? ≠ some 0 → Crates.rsaPublicComponents der = (n, e)
  generated : ∀ {entropy : Bytes} {key : RsaComponents}, KeyCrates.rsaGenerate entropy = .ok key →
    2048 ≤ rsaModulusBits key.n ∧ (∀ component ∈ key.list, component ≠ [] ∧
      component.head? ≠ some 0) ∧
    ∃ der, DerCrates.toDer (pkcs1Block key.list) = .ok der ∧ KeyCrates.rsaFromDerError der = none

omit [Crates] [KeyCrates] in
/-- An integer has no more bits than its octets. -/
theorem rsaModulusBits_le (n : Bytes) : rsaModulusBits n ≤ n.length * 8 := by
  unfold rsaModulusBits
  have hlen := (List.dropWhile_sublist (· == 0) (l := n)).length_le
  cases hbits : n.dropWhile (· == 0) with
  | nil => exact Nat.zero_le _
  | cons first rest =>
      rw [hbits, List.length_cons] at hlen
      have hfirst : first.toNat.log2 < 8 := by
        by_cases hzero : first.toNat = 0
        · rw [hzero]
          decide
        · exact (Nat.log2_lt hzero).mpr first.toNat_lt
      simp only
      omega

theorem rsaPrivateJwkToPkcs1Der_eq_ok {jwk : PrivateRsaJwk} {der : Bytes}
    (h : rsaPrivateJwkToPkcs1Der jwk = .ok der) :
    ∃ n e rest, decodeJwkComponent "n" jwk.n = .ok n ∧ decodeJwkComponent "e" jwk.e = .ok e ∧
      DerCrates.toDer (pkcs1Block (n :: e :: rest)) = .ok der := by
  have hpositive : ∀ {name : String} {bytes : Bytes} {block : Asn1Block},
      positiveIntegerBlock name bytes = .ok block → .integer 0 (BigEndian.fromBytesBE bytes) = block := by
    intro name bytes block hblock
    simp only [positiveIntegerBlock, bind_eq_ok, pure_eq_ok] at hblock
    obtain ⟨-, -, heq⟩ := hblock
    exact heq
  unfold rsaPrivateJwkToPkcs1Der at h
  simp only [bind_eq_ok, mapError_eq_ok] at h
  obtain ⟨n, hn, e, he, d, -, p, -, q, -, dp, -, dq, -, qi, -, n', hn', e', he', d', hd', p', hp',
    q', hq', dp', hdp', dq', hdq', qi', hqi', hder⟩ := h
  rw [← hpositive hn', ← hpositive he', ← hpositive hd', ← hpositive hp', ← hpositive hq',
    ← hpositive hdp', ← hpositive hdq', ← hpositive hqi'] at hder
  exact ⟨n, e, [d, p, q, dp, dq, qi], hn, he, hder⟩

/-- Everything that is checked when an RSA signer is built from a JWK. -/
theorem fromPrivateJwk_eq_ok {text : FileText} {fallbackKid : String} {signer : RsaJoseSigner}
    (h : RsaJoseSigner.fromPrivateJwk text fallbackKid = .ok signer) :
    ∃ value jwk n e rest, text = .json value ∧ PrivateRsaJwk.fromValue value = some jwk ∧
      jwk.kty = "RSA" ∧ validatePublicComponents n e = .ok () ∧ 2048 ≤ rsaModulusBits n ∧
      DerCrates.toDer (pkcs1Block (n :: e :: rest)) = .ok signer.encodingKey ∧
      KeyCrates.rsaFromDerError signer.encodingKey = none ∧
      signer.kid = jwk.kid.getD fallbackKid := by
  unfold RsaJoseSigner.fromPrivateJwk RsaJoseSigner.fromPkcs1Der at h
  simp only [bind_eq_ok, rejectIf_eq_ok, pure_eq_ok, failOn_eq_ok, bne_eq_false_iff_eq,
    decide_eq_false_iff_not, Nat.not_lt] at h
  obtain ⟨jwk, hjwk, _, hkty, n, hn, e, he, _, hvalid, _, hbits, der, hder, _, hread, _, _, heq⟩ := h
  subst heq
  cases text with
  | other raw => cases hjwk
  | json value =>
      obtain ⟨n', e', rest, hn', he', hder⟩ := rsaPrivateJwkToPkcs1Der_eq_ok hder
      rw [hn] at hn'
      rw [he] at he'
      cases hn'
      cases he'
      exact ⟨value, jwk, n, e, rest, rfl, by simpa [readRecord] using hjwk, hkty, hvalid, hbits,
        hder, hread, rfl⟩

/-- The key of an RSA signer that was built from a JWK is accepted. -/
theorem accepted_rsa (laws : LawfulRsa) {text : FileText} {fallbackKid : String}
    {signer : RsaJoseSigner} (h : RsaJoseSigner.fromPrivateJwk text fallbackKid = .ok signer) :
    AcceptedJwk signer.publicJwk := by
  obtain ⟨_, _, n, e, rest, -, -, -, hvalid, hbits, hder, hread, -⟩ := fromPrivateJwk_eq_ok h
  have hminimal : n.head? ≠ some 0 ∧ e.head? ≠ some 0 := by
    simp only [validatePublicComponents, bind_eq_ok, rejectIf_eq_ok, Bool.or_eq_false_iff,
      beq_eq_false_iff_ne] at hvalid
    obtain ⟨-, -, hminimal⟩ := hvalid
    exact hminimal
  have hcomponents := laws.components hder hread hminimal.1 hminimal.2
  have hkey : rsaPublicKeyFromJwk signer.publicJwk = .ok ⟨n, e⟩ :=
    rsaPublicKeyFromJwk_encode rfl rfl (by rw [RsaJoseSigner.publicJwk, hcomponents])
      (by rw [RsaJoseSigner.publicJwk, hcomponents]) hvalid
  refine acceptedJwk_iff.mpr ⟨rfl, Or.inl ⟨rfl, rsaModulusBits n, ?_, hbits⟩⟩
  simp [rsaPublicKeyBitsFromJwk, hkey]

/-- The id of a key file that has one does not depend on the fallback. -/
theorem fromPrivateJwk_fallback {value : Json} {jwk : PrivateRsaJwk} {kid : String}
    (hjwk : PrivateRsaJwk.fromValue value = some jwk) (hkid : jwk.kid = some kid)
    (fallback fallback' : String) : RsaJoseSigner.fromPrivateJwk (.json value) fallback =
      RsaJoseSigner.fromPrivateJwk (.json value) fallback' := by
  simp only [RsaJoseSigner.fromPrivateJwk, readRecord, hjwk, okOr_some, ok_bind, hkid,
    Option.getD_some]

omit [Crates] [KeyCrates] in
theorem kty_of_fromValue {members : List (String × Json)} :
    (∀ {jwk : PrivateRsaJwk}, PrivateRsaJwk.fromValue (.object members) = some jwk →
      requiredText members "kty" = some jwk.kty ∧ optionalText members "kid" = some jwk.kid) ∧
    (∀ {jwk : PrivateAkpJwk}, PrivateAkpJwk.fromValue (.object members) = some jwk →
      requiredText members "kty" = some jwk.kty ∧ optionalText members "kid" = some jwk.kid) := by
  constructor
  · intro jwk h
    simp only [PrivateRsaJwk.fromValue, recordMembers, Option.bind_eq_bind, Option.bind_some,
      Option.bind_eq_some_iff, Option.pure_def, Option.some.injEq] at h
    obtain ⟨kty, hkty, kid, hkid, n, -, e, -, d, -, p, -, q, -, dp, -, dq, -, qi, -, heq⟩ := h
    subst heq
    exact ⟨hkty, hkid⟩
  · intro jwk h
    simp only [PrivateAkpJwk.fromValue, recordMembers, Option.bind_eq_bind, Option.bind_some,
      Option.bind_eq_some_iff, Option.pure_def, Option.some.injEq] at h
    obtain ⟨kty, hkty, kid, hkid, alg, -, pub, -, priv, -, heq⟩ := h
    subst heq
    exact ⟨hkty, hkid⟩

/-- What a rotation takes for the current RSA key: the signer of the file, whatever the
fallback for its id. -/
theorem currentSigningKey_eq_ok {path : String} {text : FileText} {current : PublicJwk}
    (h : currentSigningKey path text = .ok current) (fallbackKid : String) :
    ∃ members signer, text = .json (.object members) ∧ requiredText members "kty" = some "RSA" ∧
      RsaJoseSigner.fromPrivateJwk text fallbackKid = .ok signer ∧ signer.publicJwk = current := by
  cases text with
  | other raw => cases h
  | json value =>
      simp only [currentSigningKey, bind_eq_ok, okOr_eq_ok, rejectIf_eq_ok, mapError_eq_ok,
        pure_eq_ok] at h
      obtain ⟨members, hmembers, _, -, _, hkid, signer, hsigner, heq⟩ := h
      have hvalue : value = .object members := by
        cases value with
        | object o => exact congrArg Json.object (Option.some.inj hmembers)
        | null => cases hmembers
        | bool b => cases hmembers
        | number n => cases hmembers
        | string s => cases hmembers
        | array items => cases hmembers
      subst hvalue
      obtain ⟨_, jwk, _, _, _, htext, hjwk, hkty, -⟩ := fromPrivateJwk_eq_ok hsigner
      cases htext
      obtain ⟨hktyText, hkidText⟩ := kty_of_fromValue.1 hjwk
      -- the key id is a text, or the rotation would have refused the file
      have hsome : ∃ kid, jwk.kid = some kid := by
        cases hget : Json.get members "kid" with
        | none => simp [hget] at hkid
        | some kidValue =>
            cases kidValue with
            | string kid =>
                simp only [optionalText, hget, Json.asStr, Option.map_some,
                  Option.some.injEq] at hkidText
                exact ⟨kid, hkidText.symm⟩
            | null => simp [hget, Json.asStr] at hkid
            | bool b => simp [hget, Json.asStr] at hkid
            | number n => simp [hget, Json.asStr] at hkid
            | array items => simp [hget, Json.asStr] at hkid
            | object o => simp [hget, Json.asStr] at hkid
      obtain ⟨kid, hkid⟩ := hsome
      refine ⟨members, signer, rfl, by rw [hktyText, hkty], ?_, heq⟩
      rw [fromPrivateJwk_fallback hjwk hkid fallbackKid "unused", hsigner]

/-- A generated RSA key file is read back as the key that was generated. -/
theorem fromPrivateJwk_generated (laws : LawfulRsa) {entropy : Bytes} {generated : GeneratedKey}
    (h : RsaJoseSigner.generatePrivateJwk entropy = .ok generated) (fallbackKid : String) :
    ∃ signer, RsaJoseSigner.fromPrivateJwk (.json generated.privateJwk) fallbackKid = .ok signer ∧
      signer.publicJwk = generated.publicJwk := by
  simp only [RsaJoseSigner.generatePrivateJwk, bind_eq_ok, mapError_eq_ok, pure_eq_ok] at h
  obtain ⟨key, hkey, heq⟩ := h
  obtain ⟨hbits, hcomponents, der, hder, hread⟩ := laws.generated hkey
  subst heq
  -- each component is written, and comes back, on its own
  have hdecode : ∀ component ∈ key.list, ∀ name,
      decodeJwkComponent name (Base64.encode component) = .ok component := by
    intro component hmem name
    have hempty : component.isEmpty = false := by
      simpa using (hcomponents component hmem).1
    simp only [decodeJwkComponent, decodeJwkOctets, Base64.decode_encode, okOr_some, ok_bind,
      rejectIf, hempty]
    rfl
  have hpositive : ∀ component ∈ key.list, ∀ name,
      positiveIntegerBlock name component = .ok (.integer 0 (BigEndian.fromBytesBE component)) := by
    intro component hmem name
    obtain ⟨hne, hhead⟩ := hcomponents component hmem
    simp only [positiveIntegerBlock, rejectIf, not_all_zero hne hhead]
    rfl
  simp only [RsaComponents.list, List.forall_mem_cons] at hdecode hpositive hcomponents
  obtain ⟨hn, he, hd, hp, hq, hdp, hdq, hqi, -⟩ := hdecode
  obtain ⟨hn', he', hd', hp', hq', hdp', hdq', hqi', -⟩ := hpositive
  obtain ⟨⟨hnEmpty, hnHead⟩, ⟨heEmpty, heHead⟩, -⟩ := hcomponents
  have hpublic := laws.components hder hread hnHead heHead
  have hvalid : validatePublicComponents key.n key.e = .ok () := by
    simp [validatePublicComponents, hnEmpty, heEmpty, hnHead, heHead]
  have hlarge : ¬ key.n.length * 8 < 2048 := by
    have hle := rsaModulusBits_le key.n
    omega
  refine ⟨⟨rsaJwkThumbprint (Base64.encode key.n) (Base64.encode key.e), der⟩, ?_, ?_⟩
  -- the blocks of the components make up the DER that was generated
  · have hjwk : PrivateRsaJwk.fromValue (Json.object [("kty", .string "RSA"),
        ("kid", .string (rsaJwkThumbprint (Base64.encode key.n) (Base64.encode key.e))),
        ("use", .string "sig"), ("alg", .string "RS256"), ("n", .string (Base64.encode key.n)),
        ("e", .string (Base64.encode key.e)), ("d", .string (Base64.encode key.d)),
        ("p", .string (Base64.encode key.p)), ("q", .string (Base64.encode key.q)),
        ("dp", .string (Base64.encode key.dp)), ("dq", .string (Base64.encode key.dq)),
        ("qi", .string (Base64.encode key.qi))]) =
      some ⟨"RSA", some (rsaJwkThumbprint (Base64.encode key.n) (Base64.encode key.e)),
        Base64.encode key.n, Base64.encode key.e, Base64.encode key.d, Base64.encode key.p,
        Base64.encode key.q, some (Base64.encode key.dp), some (Base64.encode key.dq),
        some (Base64.encode key.qi)⟩ := rfl
    simp only [pkcs1Block, RsaComponents.list, List.map_cons, List.map_nil] at hder
    simp only [RsaJoseSigner.fromPrivateJwk, readRecord, hjwk, okOr_some, ok_bind, bne_self_eq_false,
      rejectIf, Bool.false_eq_true, if_false, hn, he, hvalid, decide_eq_true_eq,
      Nat.not_lt.mpr hbits, rsaPrivateJwkToPkcs1Der, decodeRequiredPrivateComponent, hd, hp, hq,
      hdp, hdq, hqi, hn', he', hd', hp', hq', hdp', hdq', hqi', hder, mapError_ok,
      RsaJoseSigner.fromPkcs1Der, hread, failOn, hpublic, hlarge, Option.getD_some]
    rfl
  · simp [RsaJoseSigner.publicJwk, hpublic]

/-- A rotation reads a generated RSA key file, if the thumbprint is not empty. -/
theorem currentSigningKey_generated (laws : LawfulRsa) {entropy : Bytes} {generated : GeneratedKey}
    (h : RsaJoseSigner.generatePrivateJwk entropy = .ok generated)
    (hkid : generated.publicJwk.kid.isEmpty = false) (path : String) :
    currentSigningKey path (.json generated.privateJwk) = .ok generated.publicJwk := by
  obtain ⟨signer, hsigner, hpublic⟩ := fromPrivateJwk_generated laws h "unused"
  simp only [RsaJoseSigner.generatePrivateJwk, bind_eq_ok, mapError_eq_ok, pure_eq_ok] at h
  obtain ⟨key, -, heq⟩ := h
  subst heq
  simp only [currentSigningKey, bind_eq_ok, okOr_eq_ok, rejectIf_eq_ok, mapError_eq_ok, pure_eq_ok]
  exact ⟨_, rfl, (), rfl, (), hkid, signer, hsigner, hpublic⟩

/-! ### ML-DSA -/

omit [KeyCrates] in
/-- The key of an ML-DSA signer is read back from its JWK. -/
theorem akpPublicKeyFromJwk_mlDsa (signer : MlDsaJoseSigner) :
    akpPublicKeyFromJwk signer.publicJwk = .ok ⟨signer.algorithm, signer.publicKey⟩ := by
  unfold akpPublicKeyFromJwk decodeJwkOctets
  simp only [bind_eq_ok, rejectIf_eq_ok, okOr_eq_ok, pure_eq_ok]
  exact ⟨(), rfl, _, MlDsaAlgorithm.fromJoseAlg_joseAlg _, (), rfl, _, rfl, _,
    Base64.decode_encode _, (), by simp [signer.length_eq], rfl⟩

omit [KeyCrates] in
/-- The key of an ML-DSA signer is accepted. -/
theorem accepted_mlDsa (signer : MlDsaJoseSigner) : AcceptedJwk signer.publicJwk := by
  have hakp : signer.publicJwk.kty = "AKP" := rfl
  have hnot : signer.publicJwk.kty ≠ "RSA" := by
    rw [hakp]
    decide
  refine ⟨?_, fun hkty => absurd hkty hnot⟩
  unfold validatePublicJwk
  rw [if_neg hnot, if_pos hakp]
  simp only [bind_eq_ok, rejectIf_eq_ok, pure_eq_ok]
  exact ⟨(), rfl, _, akpPublicKeyFromJwk_mlDsa signer, trivial⟩

/-- The signer of a seed under another id. -/
theorem fromSeed_kid {algorithm : MlDsaAlgorithm} {kid : String} {seed supplied : Bytes}
    {signer : MlDsaJoseSigner}
    (h : MlDsaJoseSigner.fromSeed algorithm kid seed supplied = .ok signer) (kid' : String) :
    MlDsaJoseSigner.fromSeed algorithm kid' seed supplied = .ok { signer with kid := kid' } ∧
      signer.kid = kid ∧ signer.algorithm = algorithm ∧ signer.publicKey = supplied := by
  unfold MlDsaJoseSigner.fromSeed at h ⊢
  split at h
  · next hlength =>
      rw [bind_eq_ok] at h
      obtain ⟨keyPair, hkeyPair, h⟩ := h
      rw [dif_pos hlength, hkeyPair, ok_bind]
      split at h
      · cases h
      · next derived hraw =>
          split at h
          · next hderived =>
              rw [pure_eq_ok] at h
              subst h
              refine ⟨?_, rfl, rfl, hderived⟩
              rw [dif_pos hderived]
              rfl
          · cases h
  · cases h

/-- The id of an ML-DSA key whose file names none. -/
def akpFallbackKid (algorithm : MlDsaAlgorithm) (publicKey : Bytes) (fallbackKid : String) : String :=
  if fallbackKid.isEmpty then akpJwkThumbprint algorithm.joseAlg (Base64.encode publicKey)
  else fallbackKid

/-- A private AKP JWK, with what its members decode to. -/
structure AkpFile (value : Json) (jwk : PrivateAkpJwk) (algorithm : MlDsaAlgorithm)
    (seed publicKey : Bytes) : Prop where
  read : PrivateAkpJwk.fromValue value = some jwk
  kty : jwk.kty = "AKP"
  alg : MlDsaAlgorithm.fromJoseAlg jwk.alg = some algorithm
  priv : Base64.decode jwk.priv = some seed
  seed_length : seed.length = 32
  pub : Base64.decode jwk.pub = some publicKey

/-- Everything that is checked when an ML-DSA signer is built from a JWK. -/
theorem fromPrivateJwkForBackend_eq_ok {selection : BackendSelection} {value : Json}
    {fallbackKid : String} {signer : MlDsaJoseSigner} :
    MlDsaJoseSigner.fromPrivateJwkForBackend selection (.json value) fallbackKid = .ok signer ↔
      selectedPqcAlgorithm selection = .ok signer.algorithm ∧
      ∃ jwk seed, AkpFile value jwk signer.algorithm seed signer.publicKey ∧
        MlDsaJoseSigner.fromSeed signer.algorithm
          (jwk.kid.getD (akpFallbackKid signer.algorithm signer.publicKey fallbackKid)) seed
          signer.publicKey = .ok signer := by
  unfold MlDsaJoseSigner.fromPrivateJwkForBackend readRecord decodeJwkOctets
  simp only [bind_eq_ok, okOr_eq_ok, rejectIf_eq_ok, bne_eq_false_iff_eq]
  constructor
  · intro h
    obtain ⟨_, _, selected, hselected, jwk, hread, _, hkty, algorithm, halg, _, hsame, seed,
      hseed, _, hlength, supplied, hsupplied, hsigner⟩ := h
    obtain ⟨-, -, halgorithm, hpublic⟩ := fromSeed_kid hsigner ""
    subst hsame halgorithm hpublic
    exact ⟨hselected, jwk, seed, ⟨hread, hkty, halg, hseed, hlength, hsupplied⟩, hsigner⟩
  · intro h
    obtain ⟨hselected, jwk, seed, hfile, hsigner⟩ := h
    have hresolve : resolveBackend selection = .ok () := by
      cases selection with
      | classical => rfl
      | requestedPqc requested =>
          simp only [selectedPqcAlgorithm, okOr_eq_ok] at hselected
          simp [resolveBackend, hselected]
    exact ⟨(), hresolve, signer.algorithm, hselected, jwk, hfile.read, (), hfile.kty,
      signer.algorithm, hfile.alg, (), rfl, seed, hfile.priv, (), hfile.seed_length,
      signer.publicKey, hfile.pub, hsigner⟩

/-- Such a file holds JSON, and the algorithm it names is the requested one. -/
theorem fromPrivateJwkForBackend_requested {requested : String} {text : FileText}
    {fallbackKid : String} {signer : MlDsaJoseSigner}
    (h : MlDsaJoseSigner.fromPrivateJwkForBackend (.requestedPqc requested) text fallbackKid =
      .ok signer) :
    MlDsaAlgorithm.fromSelector requested = some signer.algorithm ∧
      ∃ value jwk, text = .json value ∧ PrivateAkpJwk.fromValue value = some jwk ∧
        jwk.alg = signer.algorithm.joseAlg := by
  cases text with
  | other raw =>
      simp only [MlDsaJoseSigner.fromPrivateJwkForBackend, readRecord, bind_eq_ok] at h
      obtain ⟨_, -, _, -, _, hread, -⟩ := h
      cases hread
  | json value =>
      obtain ⟨hselected, jwk, _, hfile, -⟩ := fromPrivateJwkForBackend_eq_ok.mp h
      simp only [selectedPqcAlgorithm, okOr_eq_ok] at hselected
      exact ⟨hselected, value, jwk, rfl, hfile.read, MlDsaAlgorithm.eq_joseAlg hfile.alg⟩

/-- The same file under another selection and another fallback: the same key, under the
id of the file or the fallback. -/
theorem fromPrivateJwkForBackend_view {selection selection' : BackendSelection} {value : Json}
    {fallbackKid : String} {signer : MlDsaJoseSigner}
    (h : MlDsaJoseSigner.fromPrivateJwkForBackend selection (.json value) fallbackKid = .ok signer)
    (hselected : selectedPqcAlgorithm selection' = .ok signer.algorithm) :
    ∃ jwk, PrivateAkpJwk.fromValue value = some jwk ∧ jwk.kty = "AKP" ∧
      ∀ fallback, MlDsaJoseSigner.fromPrivateJwkForBackend selection' (.json value) fallback =
        .ok { signer with
          kid := jwk.kid.getD (akpFallbackKid signer.algorithm signer.publicKey fallback) } := by
  obtain ⟨-, jwk, seed, hfile, hsigner⟩ := fromPrivateJwkForBackend_eq_ok.mp h
  refine ⟨jwk, hfile.read, hfile.kty, fun fallback => ?_⟩
  exact fromPrivateJwkForBackend_eq_ok.mpr
    ⟨hselected, jwk, seed, hfile, (fromSeed_kid hsigner _).1⟩

/-- What a rotation takes for the current ML-DSA key: the signer of the file, with the
thumbprint for an id the file does not have. -/
theorem currentPqcSigningKey_eq_ok {path : String} {text : FileText} {current : PublicJwk}
    (h : currentPqcSigningKey path text = .ok current) :
    ∃ members selection signer, text = .json (.object members) ∧
      requiredText members "kty" = some "AKP" ∧
      MlDsaJoseSigner.fromPrivateJwkForBackend selection text "" = .ok signer ∧
      signer.publicJwk = current := by
  cases text with
  | other raw => cases h
  | json value =>
      simp only [currentPqcSigningKey, bind_eq_ok, okOr_eq_ok, rejectIf_eq_ok, mapError_eq_ok,
        pure_eq_ok, Bool.or_eq_false_iff, bne_eq_false_iff_eq] at h
      obtain ⟨members, hmembers, _, ⟨-, hkty⟩, alg, -, signer, hsigner, heq⟩ := h
      cases value with
      | object o =>
          cases hmembers
          exact ⟨members, _, signer, rfl, hkty, hsigner, heq⟩
      | null => cases hmembers
      | bool b => cases hmembers
      | number n => cases hmembers
      | string s => cases hmembers
      | array items => cases hmembers

/-- The key a rotation stages passes the check on overlap keys. -/
theorem checked_of_currentPqcSigningKey {path : String} {text : FileText} {current : PublicJwk}
    (h : currentPqcSigningKey path text = .ok current) : CheckedJwk current := by
  obtain ⟨_, _, signer, -, -, -, heq⟩ := currentPqcSigningKey_eq_ok h
  rw [← heq]
  exact (acceptedJwk_iff.mp (accepted_mlDsa signer)).2

/-- The thumbprint of a public AKP key. -/
def PublicJwk.akpThumbprint (jwk : PublicJwk) : String := akpJwkThumbprint jwk.alg (jwk.pub.getD "")

/-- A generated ML-DSA key file is read back as the key that was generated, by a
rotation and by a server that runs with its algorithm. -/
theorem generatePrivateJwk_mlDsa {algorithm : MlDsaAlgorithm} {kid : Option String}
    {entropy : Bytes} {generated : GeneratedKey}
    (h : MlDsaJoseSigner.generatePrivateJwk algorithm kid entropy = .ok generated) :
    generated.publicJwk.kid =
      (kid.filter fun value => !isBlank value).getD generated.publicJwk.akpThumbprint ∧
    (∀ path, currentPqcSigningKey path (.json generated.privateJwk) = .ok generated.publicJwk) ∧
    ∀ selection fallback, selectedPqcAlgorithm selection = .ok algorithm →
      ∃ signer, MlDsaJoseSigner.fromPrivateJwkForBackend selection (.json generated.privateJwk)
        fallback = .ok signer ∧ signer.publicJwk = generated.publicJwk := by
  simp only [MlDsaJoseSigner.generatePrivateJwk, bind_eq_ok, mapError_eq_ok, pure_eq_ok] at h
  obtain ⟨seed, -, keyPair, -, derived, -, signer, hsigner, heq⟩ := h
  subst heq
  generalize hnewKid : (kid.filter fun value => !isBlank value).getD
    (akpJwkThumbprint algorithm.joseAlg (Base64.encode derived)) = newKid at hsigner
  obtain ⟨hselected, jwk, _, hfile, hseed⟩ := fromPrivateJwkForBackend_eq_ok.mp hsigner
  have hjwk : jwk = ⟨"AKP", some newKid, algorithm.joseAlg, Base64.encode derived,
      Base64.encode seed⟩ := (Option.some.inj hfile.read).symm
  subst hjwk
  have halgorithm : algorithm = signer.algorithm := by
    rw [(selectedPqcAlgorithm_parse algorithm).2] at hselected
    exact Except.ok.inj hselected
  have hderived : derived = signer.publicKey := by
    have hpub := hfile.pub
    rw [Base64.decode_encode] at hpub
    exact Option.some.inj hpub
  have hown : signer.kid = newKid := (fromSeed_kid hseed "").2.1
  refine ⟨?_, fun path => ?_, fun selection fallback hselection => ?_⟩
  · rw [show signer.publicJwk.kid = newKid from hown, ← hnewKid, halgorithm, hderived]
    rfl
  · simp only [currentPqcSigningKey, bind_eq_ok, okOr_eq_ok, rejectIf_eq_ok, mapError_eq_ok,
      pure_eq_ok]
    exact ⟨_, rfl, (), rfl, algorithm.joseAlg, rfl, signer, hsigner, rfl⟩
  · rw [halgorithm] at hselection
    obtain ⟨jwk, hjwk, -, hview⟩ := fromPrivateJwkForBackend_view hsigner hselection
    have hkid : jwk.kid = some newKid := (congrArg PrivateAkpJwk.kid (Option.some.inj hjwk)).symm
    refine ⟨_, hview fallback, ?_⟩
    simp [MlDsaJoseSigner.publicJwk, hkid, hown]

/-! ### The server's signer -/

omit [Crates] [KeyCrates] in
/-- A file that only its owner may write to passes the check. -/
theorem readCheckedFile_written (mode : Nat) (h : mode &&& 0o022 = 0) (text : FileText)
    (label : String) (allowInsecureWritable : Bool) :
    readCheckedFile ⟨text, mode⟩ label allowInsecureWritable = .ok text := by
  simp [readCheckedFile, h, rejectIf]

/-- The server loads a written overlap file exactly when it accepts the keys. -/
theorem loadPublicJwksFile_written {keys : List PublicJwk} {label : String} {allow : Bool}
    {document : JwksDocument} (hne : keys ≠ []) :
    loadPublicJwksFile ⟨.json (JwksDocument.toValue ⟨keys⟩), 0o644⟩ label allow = .ok document ↔
      (∀ key ∈ keys, AcceptedJwk key) ∧ document = ⟨keys⟩ := by
  unfold loadPublicJwksFile
  rw [readCheckedFile_written 0o644 (by decide), ok_bind]
  simp only [normalizePublicJwksValue_toValue hne]
  refine and_congr_right fun _ => ?_
  obtain ⟨keys'⟩ := document
  simp [eq_comm]

/-- The signer of a file that holds JSON. -/
theorem loadFileSigner_json {config : KeyFileConfig} {file : StoredFile} {value : Json}
    {signer : JoseSigner} (htext : file.text = .json value)
    (h : loadFileSigner config file = .ok signer) :
    (BackendSelection.parse config.stsSigningAlg = .classical ∧ ∃ rsa, signer = .rsa rsa ∧
      RsaJoseSigner.fromPrivateJwk (.json value) config.ourKid = .ok rsa) ∨
    (∃ requested, BackendSelection.parse config.stsSigningAlg = .requestedPqc requested ∧
      ∃ mlDsa, signer = .mlDsa mlDsa ∧ MlDsaJoseSigner.fromPrivateJwkForBackend
        (.requestedPqc requested) (.json value) config.ourKid = .ok mlDsa) := by
  unfold loadFileSigner readCheckedFile at h
  simp only [bind_eq_ok, rejectIf_eq_ok, pure_eq_ok] at h
  obtain ⟨text, ⟨_, -, heq⟩, h⟩ := h
  rw [htext] at heq
  subst heq
  cases hparse : BackendSelection.parse config.stsSigningAlg with
  | classical =>
      rw [hparse] at h
      simp only [pemText, bind_eq_ok, mapError_eq_ok, pure_eq_ok] at h
      obtain ⟨rsa, hrsa, heq⟩ := h
      exact Or.inl ⟨rfl, rsa, heq.symm, hrsa⟩
  | requestedPqc requested =>
      rw [hparse] at h
      simp only [loadPqcSigner, bind_eq_ok, mapError_eq_ok, pure_eq_ok] at h
      obtain ⟨_, -, mlDsa, hmlDsa, heq⟩ := h
      exact Or.inr ⟨requested, rfl, mlDsa, heq.symm, hmlDsa⟩

/-- A server and a rotation that read the same RSA key file see the same key. -/
theorem loadFileSigner_current {config : KeyFileConfig} {file : StoredFile} {path : String}
    {current : PublicJwk} {signer : JoseSigner}
    (hcurrent : currentSigningKey path file.text = .ok current)
    (h : loadFileSigner config file = .ok signer) :
    BackendSelection.parse config.stsSigningAlg = .classical ∧ signer.publicJwk = current := by
  obtain ⟨members, rsa, htext, hkty, hrsa, hpublic⟩ :=
    currentSigningKey_eq_ok hcurrent config.ourKid
  rw [htext] at hrsa
  rcases loadFileSigner_json htext h with ⟨hclassical, rsa', heq, hrsa'⟩ |
      ⟨requested, -, mlDsa, -, hmlDsa⟩
  · rw [hrsa] at hrsa'
    cases hrsa'
    subst heq
    exact ⟨hclassical, hpublic⟩
  · -- the file would have two key types
    obtain ⟨-, jwk, _, hfile, -⟩ := fromPrivateJwkForBackend_eq_ok.mp hmlDsa
    rw [(kty_of_fromValue.2 hfile.read).1, hfile.kty] at hkty
    exact absurd hkty (by decide)

/-- A server starts on an RSA key file that a rotation writes. -/
theorem loadFileSigner_rsa {config : KeyFileConfig} {value : Json} {rsa : RsaJoseSigner}
    (hclassical : BackendSelection.parse config.stsSigningAlg = .classical)
    (h : RsaJoseSigner.fromPrivateJwk (.json value) config.ourKid = .ok rsa) :
    loadFileSigner config ⟨.json value, 0o600⟩ = .ok (.rsa rsa) := by
  have hread := readCheckedFile_written 0o600 (by decide) (.json value)
    "STS signing key" config.allowInsecureKeyFile
  simp only [loadFileSigner, hread, ok_bind, hclassical, pemText, h, mapError_ok]
  rfl

/-- A PEM file is loaded as the RSA key in it. -/
theorem loadFileSigner_pem {config : KeyFileConfig} {text : FileText} {raw : String}
    {rsa : RsaJoseSigner} (hclassical : BackendSelection.parse config.stsSigningAlg = .classical)
    (hpem : pemText text = some raw)
    (h : RsaJoseSigner.fromPkcs1Pem raw config.ourKid = .ok rsa) :
    loadFileSigner config ⟨text, 0o600⟩ = .ok (.rsa rsa) := by
  have hread := readCheckedFile_written 0o600 (by decide) text "STS signing key"
    config.allowInsecureKeyFile
  simp only [loadFileSigner, hread, ok_bind, hclassical, hpem, h, mapError_ok]
  rfl

/-- A server starts on an ML-DSA key file that a rotation writes. -/
theorem loadFileSigner_mlDsa {config : KeyFileConfig} {requested : String} {value : Json}
    {mlDsa : MlDsaJoseSigner}
    (hpqc : BackendSelection.parse config.stsSigningAlg = .requestedPqc requested)
    (h : MlDsaJoseSigner.fromPrivateJwkForBackend (.requestedPqc requested) (.json value)
      config.ourKid = .ok mlDsa) :
    loadFileSigner config ⟨.json value, 0o600⟩ = .ok (.mlDsa mlDsa) := by
  have hread := readCheckedFile_written 0o600 (by decide) (.json value)
    "STS signing key" config.allowInsecureKeyFile
  simp only [loadFileSigner, hread, ok_bind, hpqc, loadPqcSigner, pemText, h, mapError_ok]
  rfl

/-- A server that ran with an RSA key runs with the generated one. -/
theorem loadFileSigner_generated (laws : LawfulRsa) {config : KeyFileConfig} {entropy : Bytes}
    {generated : GeneratedKey}
    (hclassical : BackendSelection.parse config.stsSigningAlg = .classical)
    (h : RsaJoseSigner.generatePrivateJwk entropy = .ok generated) :
    ∃ signer, loadFileSigner config ⟨.json generated.privateJwk, 0o600⟩ = .ok signer ∧
      signer.publicJwk = generated.publicJwk := by
  obtain ⟨rsa, hrsa, hpublic⟩ := fromPrivateJwk_generated laws h config.ourKid
  exact ⟨.rsa rsa, loadFileSigner_rsa hclassical hrsa, hpublic⟩

/-- A server and a rotation that read the same ML-DSA key file see the same key, each
under the id of the file or its own fallback. -/
theorem loadFileSigner_currentPqc {config : KeyFileConfig} {file : StoredFile} {path : String}
    {current : PublicJwk} {signer : JoseSigner}
    (hcurrent : currentPqcSigningKey path file.text = .ok current)
    (h : loadFileSigner config file = .ok signer) :
    ∃ value jwk requested algorithm, file.text = .json value ∧
      PrivateAkpJwk.fromValue value = some jwk ∧
      BackendSelection.parse config.stsSigningAlg = .requestedPqc requested ∧
      selectedPqcAlgorithm (.requestedPqc requested) = .ok algorithm ∧
      current.alg = algorithm.joseAlg ∧ current.kid = jwk.kid.getD current.akpThumbprint ∧
      signer.publicJwk = { current with
        kid := jwk.kid.getD (if config.ourKid.isEmpty then current.akpThumbprint
          else config.ourKid) } := by
  obtain ⟨members, selection, staged, htext, hkty, hstaged, hpublic⟩ :=
    currentPqcSigningKey_eq_ok hcurrent
  rw [htext] at hstaged
  rcases loadFileSigner_json htext h with ⟨-, rsa, -, hrsa⟩ | ⟨requested, hpqc, mlDsa, heq, hmlDsa⟩
  · obtain ⟨_, jwk, _, _, _, hvalue, hjwk, hrsaKty, -⟩ := fromPrivateJwk_eq_ok hrsa
    cases hvalue
    rw [(kty_of_fromValue.1 hjwk).1, hrsaKty] at hkty
    exact absurd hkty (by decide)
  · obtain ⟨hselected, jwk, _, hfile, -⟩ := fromPrivateJwkForBackend_eq_ok.mp hmlDsa
    obtain ⟨hselection, jwk', _, hfile', hseed⟩ := fromPrivateJwkForBackend_eq_ok.mp hstaged
    have hjwk : jwk' = jwk := Option.some.inj (hfile'.read.symm.trans hfile.read)
    subst hjwk
    have halgorithm : mlDsa.algorithm = staged.algorithm :=
      Option.some.inj (hfile.alg.symm.trans hfile'.alg)
    rw [halgorithm] at hselected
    -- the server's signer is the staged one under the server's id
    obtain ⟨jwk, hread, -, hview⟩ := fromPrivateJwkForBackend_view hstaged hselected
    have hjwk : jwk = jwk' := Option.some.inj (hread.symm.trans hfile.read)
    subst hjwk
    rw [hview config.ourKid] at hmlDsa
    cases hmlDsa
    subst heq hpublic
    refine ⟨_, jwk, requested, staged.algorithm, htext, hread, hpqc, hselected, rfl, ?_, ?_⟩
    · exact (fromSeed_kid hseed "").2.1
    · rfl

/-- A server that ran with an ML-DSA key runs with a generated one of its algorithm. -/
theorem loadFileSigner_generatedPqc {config : KeyFileConfig} {requested : String}
    {algorithm : MlDsaAlgorithm} {kid : Option String} {entropy : Bytes} {generated : GeneratedKey}
    (hpqc : BackendSelection.parse config.stsSigningAlg = .requestedPqc requested)
    (hselected : selectedPqcAlgorithm (.requestedPqc requested) = .ok algorithm)
    (h : MlDsaJoseSigner.generatePrivateJwk algorithm kid entropy = .ok generated) :
    ∃ signer, loadFileSigner config ⟨.json generated.privateJwk, 0o600⟩ = .ok signer ∧
      signer.publicJwk = generated.publicJwk := by
  obtain ⟨mlDsa, hmlDsa, hpublic⟩ :=
    (generatePrivateJwk_mlDsa h).2.2 (.requestedPqc requested) config.ourKid hselected
  exact ⟨.mlDsa mlDsa, loadFileSigner_mlDsa hpqc hmlDsa, hpublic⟩

end StsDelegate
