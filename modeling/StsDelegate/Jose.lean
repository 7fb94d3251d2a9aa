import StsDelegate.Crates
import StsDelegate.Lib.Base64
import StsDelegate.Lib.Fallible

/-!
# JOSE

`sts-jose`: verifying a compact JWS against a key set, and the four signers. The
build modelled is the default one, with the ML-DSA backend compiled in.

Verification picks the key by the header's `kid` and the procedure by the header's
`alg`; whatever the claims are, `fromSlice` reads them from the verified payload.
A signer carries in its type what its constructor has checked about its public
key, so that a signer whose tokens name another key cannot be built.
-/

namespace StsDelegate

open Text Fallible

/-- Failure categories of the JOSE layer. -/
inductive JoseErrorKind
  | invalidKey
  | unsupportedAlgorithm
  | invalidClaims
  | verificationFailed
  | invalidCompactJws
  deriving DecidableEq

structure JoseError where
  kind : JoseErrorKind
  message : String

/-- Deserialized claims plus the protected-header key id selected for
verification. -/
structure VerifiedJws (T : Type) where
  claims : T
  alg : String
  kid : String
  typ : Option String

/-- Decoded public RSA JWK components. -/
structure DecodedRsaPublicKey where
  n : Bytes
  e : Bytes

/-- Decoded public AKP JWK components for RFC 9964 ML-DSA keys. -/
structure DecodedAkpPublicKey where
  algorithm : MlDsaAlgorithm
  publicKey : Bytes

variable [Crates]

/-! ### Compact form -/

/-- Split a compact JWS into its three segments. -/
def parseCompactJws (token : String) : Except JoseError (String × String × String) :=
  match splitAtChar '.' token with
  | [header, payload, signature] => .ok (header, payload, signature)
  | _ :: _ :: _ :: _ :: _ =>
      .error ⟨.invalidCompactJws, "compact JWS must have exactly three parts"⟩
  | _ => .error ⟨.invalidCompactJws, "compact JWS must have three parts"⟩

def decodeCompactSegment (label value : String) : Except JoseError Bytes :=
  okOr (Base64.decode value)
    ⟨.invalidCompactJws,
      "invalid compact " ++ label ++ " encoding: " ++ Crates.base64DecodeError value⟩

def decodeCompactJwsHeader (token : String) : Except JoseError CompactJwsHeader := do
  let (header, _, _) ← parseCompactJws token
  let bytes ← decodeCompactSegment "JWS header" header
  (Crates.headerFromSlice bytes).mapError fun e =>
    ⟨.invalidCompactJws, "invalid compact JWS header: " ++ e⟩

omit [Crates] in
/-- The compact form of three octet strings. -/
def compactJws (header payload signature : Bytes) : String :=
  Base64.encode header ++ "." ++ Base64.encode payload ++ "." ++ Base64.encode signature

omit [Crates] in
/-- The length of a compact token, given the sizes of its parts. -/
def compactLen (header payload signature : Nat) : Nat :=
  Base64.encodedLen header + 1 + Base64.encodedLen payload + 1 + Base64.encodedLen signature

omit [Crates] in
theorem len_compactJws (header payload signature : Bytes) :
    len (compactJws header payload signature) =
      compactLen header.length payload.length signature.length := by
  have hdot : len "." = 1 := by decide
  have happend : ∀ s t : String, len (s ++ t) = len s + len t :=
    fun s t => String.utf8ByteSize_append
  simp only [compactJws, happend, Base64.len_encode, hdot, compactLen]

omit [Crates] in
theorem dot_mem_compactJws (header payload signature : Bytes) :
    '.' ∈ (compactJws header payload signature).toList := by
  simp [compactJws, String.toList_append]

omit [Crates] in
theorem isBlank_compactJws (header payload signature : Bytes) :
    isBlank (compactJws header payload signature) = false := by
  rw [Bool.eq_false_iff, Ne, isBlank_iff]
  intro hall
  exact absurd (hall '.' (dot_mem_compactJws header payload signature)) (by decide)

omit [Crates] in
/-- Segments are found again, because they contain no dot. -/
theorem splitAtChar_compactJws (header payload signature : Bytes) :
    splitAtChar '.' (compactJws header payload signature) =
      [Base64.encode header, Base64.encode payload, Base64.encode signature] := by
  have hdot : ("." : String) = String.singleton '.' := by decide
  rw [compactJws, hdot, String.append_assoc, String.append_assoc, String.append_assoc,
    splitAtChar_append (Base64.dot_not_mem_encode header),
    splitAtChar_append (Base64.dot_not_mem_encode payload),
    splitAtChar_of_notMem (Base64.dot_not_mem_encode signature)]

omit [Crates] in
theorem parseCompactJws_compactJws (header payload signature : Bytes) :
    parseCompactJws (compactJws header payload signature) =
      .ok (Base64.encode header, Base64.encode payload, Base64.encode signature) := by
  rw [parseCompactJws, splitAtChar_compactJws]

/-- The header of a compact token is read from its first segment. -/
theorem decodeCompactJwsHeader_compactJws (header payload signature : Bytes) :
    decodeCompactJwsHeader (compactJws header payload signature) =
      (Crates.headerFromSlice header).mapError fun e =>
        ⟨.invalidCompactJws, "invalid compact JWS header: " ++ e⟩ := by
  rw [decodeCompactJwsHeader, parseCompactJws_compactJws]
  simp only [ok_bind, decodeCompactSegment, Base64.decode_encode, okOr_some]

def decodePayloadClaims {T : Type} (fromSlice : Bytes → Except String T) (payload : String) :
    Except JoseError T := do
  let bytes ← decodeCompactSegment "JWS payload" payload
  (fromSlice bytes).mapError fun e => ⟨.invalidClaims, "invalid token claims: " ++ e⟩

/-! ### Public keys -/

def decodeJwkOctets (label value : String) : Except JoseError Bytes :=
  okOr (Base64.decode value)
    ⟨.invalidKey, "invalid " ++ label ++ " encoding: " ++ Crates.base64DecodeError value⟩

def decodeJwkComponent (name value : String) : Except JoseError Bytes := do
  let bytes ← decodeJwkOctets ("RSA JWK " ++ name) value
  rejectIf bytes.isEmpty
    ⟨.invalidKey, "invalid RSA JWK " ++ name ++ ": empty unsigned integer"⟩
  pure bytes

def validatePublicComponents (n e : Bytes) : Except JoseError Unit := do
  rejectIf (n.isEmpty || e.isEmpty)
    ⟨.invalidKey, "RSA public key components must be non-empty"⟩
  rejectIf (n.head? == some 0 || e.head? == some 0)
    ⟨.invalidKey, "RSA public key components must use minimal unsigned encoding"⟩

/-- Parse a public RSA key from an RSA JWK. -/
def rsaPublicKeyFromJwk (jwk : PublicJwk) : Except JoseError DecodedRsaPublicKey := do
  rejectIf (jwk.kty != "RSA") ⟨.invalidKey, "unsupported JWK key type " ++ jwk.kty⟩
  rejectIf (jwk.alg != "RS256") ⟨.invalidKey, "RSA JWK alg must be RS256, got " ++ jwk.alg⟩
  let n ← okOr jwk.n ⟨.invalidKey, "RSA public JWK missing n"⟩
  let n ← decodeJwkComponent "n" n
  let e ← okOr jwk.e ⟨.invalidKey, "RSA public JWK missing e"⟩
  let e ← decodeJwkComponent "e" e
  validatePublicComponents n e
  pure ⟨n, e⟩

/-- Parse a public AKP key from an RFC 9964 JWK. -/
def akpPublicKeyFromJwk (jwk : PublicJwk) : Except JoseError DecodedAkpPublicKey := do
  rejectIf (jwk.kty != "AKP") ⟨.invalidKey, "unsupported JWK key type " ++ jwk.kty⟩
  let algorithm ← okOr (MlDsaAlgorithm.fromJoseAlg jwk.alg)
    ⟨.invalidKey, "unsupported AKP alg " ++ jwk.alg⟩
  rejectIf (jwk.n.isSome || jwk.e.isSome)
    ⟨.invalidKey, "AKP public JWK must not contain RSA n/e members"⟩
  let pub ← okOr jwk.pub ⟨.invalidKey, "AKP public JWK missing pub"⟩
  let publicKey ← decodeJwkOctets "AKP public JWK pub" pub
  rejectIf (publicKey.length != algorithm.publicKeyLen)
    ⟨.invalidKey, "AKP public JWK pub length must be " ++ toString algorithm.publicKeyLen ++
      " bytes for " ++ algorithm.joseAlg⟩
  pure ⟨algorithm, publicKey⟩

/-- Validate a public JWK without exposing or decoding private material. -/
def validatePublicJwk (jwk : PublicJwk) : Except JoseError Unit := do
  rejectIf (jwk.use != "sig")
    ⟨.invalidKey, "public JWK use must be sig for token signing verification"⟩
  if jwk.kty = "RSA" then
    let _ ← rsaPublicKeyFromJwk jwk
    pure ()
  else if jwk.kty = "AKP" then
    let _ ← akpPublicKeyFromJwk jwk
    pure ()
  else
    .error ⟨.invalidKey, "unsupported JWK key type " ++ jwk.kty⟩

/-! ### Verification -/

def mapJwtDecodeError (err : JwtError) : JoseError :=
  match err.kind with
  | .invalidToken | .base64 | .utf8 => ⟨.invalidCompactJws, "invalid compact JWS: " ++ err.text⟩
  | .json | .missingRequiredClaim | .invalidClaimFormat | .expiredSignature | .invalidIssuer
  | .invalidAudience | .invalidSubject | .immatureSignature =>
      ⟨.invalidClaims, "invalid token claims: " ++ err.text⟩
  | _ => ⟨.verificationFailed, "JWT verification failed: " ++ err.text⟩

def verifyRs256ClaimsAgainstJwk {T : Type} (fromSlice : Bytes → Except String T) (token : String)
    (jwk : PublicJwk) : Except JoseError T := do
  let _ ← rsaPublicKeyFromJwk jwk
  let n ← okOr jwk.n ⟨.invalidKey, "RSA public JWK missing n"⟩
  let e ← okOr jwk.e ⟨.invalidKey, "RSA public JWK missing e"⟩
  failOn (Crates.rsaComponentsError n e) fun err =>
    ⟨.invalidKey, "invalid RSA public JWK: " ++ err⟩
  let payload ← (Crates.rs256Decode token n e).mapError mapJwtDecodeError
  (fromSlice payload).mapError fun err => mapJwtDecodeError ⟨.json, err⟩

def verifyMldsaClaimsAgainstJwk {T : Type} (fromSlice : Bytes → Except String T) (token : String)
    (jwk : PublicJwk) (headerAlg : String) : Except JoseError T := do
  let headerAlgorithm ← okOr (MlDsaAlgorithm.fromJoseAlg headerAlg)
    ⟨.unsupportedAlgorithm, "unsupported ML-DSA algorithm"⟩
  let decodedPublic ← akpPublicKeyFromJwk jwk
  rejectIf (decodedPublic.algorithm != headerAlgorithm)
    ⟨.verificationFailed, "JWS alg does not match AKP public key alg"⟩
  let (headerSegment, payloadSegment, signatureSegment) ← parseCompactJws token
  let signature ← decodeCompactSegment "JWS signature" signatureSegment
  rejectIf (signature.length != headerAlgorithm.signatureLen)
    ⟨.verificationFailed, "JWS signature length must be " ++ toString headerAlgorithm.signatureLen ++
      " bytes for " ++ headerAlgorithm.joseAlg⟩
  let signingInput := headerSegment ++ "." ++ payloadSegment
  failOn (Crates.mlDsaPublicKeyError headerAlgorithm decodedPublic.publicKey) fun err =>
    ⟨.invalidKey, "AKP public JWK pub was rejected by OpenSSL: " ++ err⟩
  failOn (Crates.mlDsaVerifierError headerAlgorithm decodedPublic.publicKey) fun err =>
    ⟨.invalidKey, "create ML-DSA verifier failed: " ++ err⟩
  let valid ← (Crates.mlDsaVerifyOneshot headerAlgorithm decodedPublic.publicKey signature
    (asBytes signingInput)).mapError fun err =>
      ⟨.verificationFailed, "ML-DSA verification failed: " ++ err⟩
  rejectIf (!valid) ⟨.verificationFailed, "JWS verification failed"⟩
  decodePayloadClaims fromSlice payloadSegment

/-- The verification procedure the header's algorithm selects. -/
def verifyClaimsAgainstJwk {T : Type} (fromSlice : Bytes → Except String T) (token : String)
    (jwk : PublicJwk) (headerAlg : String) : Except JoseError T :=
  if headerAlg = "RS256" then verifyRs256ClaimsAgainstJwk fromSlice token jwk
  else if (MlDsaAlgorithm.fromJoseAlg headerAlg).isSome then
    verifyMldsaClaimsAgainstJwk fromSlice token jwk headerAlg
  else .error ⟨.unsupportedAlgorithm, "unsupported JWS algorithm " ++ headerAlg⟩

def verifyClaimsAgainstJwksInner {T : Type} (fromSlice : Bytes → Except String T) (token : String)
    (jwks : JwksDocument) (allowedAlgs : Option (List String)) :
    Except JoseError (VerifiedJws T) := do
  let header ← decodeCompactJwsHeader token
  rejectIf (allowedAlgs.any fun allowed => !allowed.contains header.alg)
    ⟨.unsupportedAlgorithm,
      "JWS algorithm " ++ header.alg ++ " is not allowed for this verification context"⟩
  let kid ← okOr header.kid ⟨.invalidCompactJws, "compact JWS header missing kid"⟩
  let jwk ← okOr (jwks.keys.find? fun key => key.kid == kid)
    ⟨.verificationFailed, "no JWK found for kid " ++ kid⟩
  let claims ← verifyClaimsAgainstJwk fromSlice token jwk header.alg
  pure ⟨claims, header.alg, kid, header.typ⟩

/-- Verify a compact JWS and return claims plus selected header data. -/
def verifyClaimsAgainstJwksWithHeader {T : Type} (fromSlice : Bytes → Except String T)
    (token : String) (jwks : JwksDocument) : Except JoseError (VerifiedJws T) :=
  verifyClaimsAgainstJwksInner fromSlice token jwks none

/-- Verify a compact JWS with an explicit algorithm allowlist. -/
def verifyClaimsAgainstJwksWithAllowedAlgs {T : Type} (fromSlice : Bytes → Except String T)
    (token : String) (jwks : JwksDocument) (allowedAlgs : List String) :
    Except JoseError (VerifiedJws T) :=
  verifyClaimsAgainstJwksInner fromSlice token jwks (some allowedAlgs)

/-- Everything a verified token has in common: the header it was read with, a
permitted algorithm, and the first key of that id. -/
theorem verifyClaimsAgainstJwksInner_ok {T : Type} {fromSlice : Bytes → Except String T}
    {token : String} {jwks : JwksDocument} {allowedAlgs : Option (List String)}
    {v : VerifiedJws T} (h : verifyClaimsAgainstJwksInner fromSlice token jwks allowedAlgs = .ok v) :
    decodeCompactJwsHeader token = .ok ⟨v.alg, some v.kid, v.typ⟩ ∧
      (∀ allowed, allowedAlgs = some allowed → v.alg ∈ allowed) ∧
      ∃ jwk, jwks.keys.find? (fun key => key.kid == v.kid) = some jwk := by
  simp only [verifyClaimsAgainstJwksInner, bind_eq_ok, rejectIf_eq_ok, okOr_eq_ok, pure_eq_ok] at h
  obtain ⟨header, hheader, -, halg, kid, hkid, jwk, hjwk, claims, -, rfl⟩ := h
  refine ⟨?_, ?_, jwk, hjwk⟩
  · rw [hheader, ← hkid]
  · rintro allowed rfl
    simpa using halg

/-- A published RSA key is read back from its JWK. -/
theorem rsaPublicKeyFromJwk_encode {jwk : PublicJwk} {n e : Bytes} (hkty : jwk.kty = "RSA")
    (halg : jwk.alg = "RS256") (hn : jwk.n = some (Base64.encode n))
    (he : jwk.e = some (Base64.encode e)) (hvalid : validatePublicComponents n e = .ok ()) :
    rsaPublicKeyFromJwk jwk = .ok ⟨n, e⟩ := by
  have hne : n.isEmpty = false ∧ e.isEmpty = false := by
    simp only [validatePublicComponents, bind_eq_ok, rejectIf_eq_ok, Bool.or_eq_false_iff] at hvalid
    obtain ⟨-, hne, -⟩ := hvalid
    exact hne
  simp [rsaPublicKeyFromJwk, decodeJwkComponent, decodeJwkOctets, hkty, halg, hn, he, hne, hvalid]

/-- An RS256 token under a published key is accepted. -/
theorem verifyClaimsAgainstJwksInner_rs256 {T : Type} {fromSlice : Bytes → Except String T}
    {header payload signature : Bytes} {kid : String} {typ : Option String} {jwks : JwksDocument}
    {jwk : PublicJwk} {n e : String} {key : DecodedRsaPublicKey}
    {allowedAlgs : Option (List String)} {claims : T}
    (hheader : Crates.headerFromSlice header = .ok ⟨"RS256", some kid, typ⟩)
    (hallowed : ∀ allowed, allowedAlgs = some allowed → "RS256" ∈ allowed)
    (hjwk : jwks.keys.find? (fun key => key.kid == kid) = some jwk)
    (hkey : rsaPublicKeyFromJwk jwk = .ok key) (hn : jwk.n = some n) (he : jwk.e = some e)
    (hcomponents : Crates.rsaComponentsError n e = none)
    (hdecode : Crates.rs256Decode (compactJws header payload signature) n e = .ok payload)
    (hclaims : fromSlice payload = .ok claims) :
    verifyClaimsAgainstJwksInner fromSlice (compactJws header payload signature) jwks allowedAlgs =
      .ok ⟨claims, "RS256", kid, typ⟩ := by
  have hpermitted : (allowedAlgs.any fun allowed => !decide ("RS256" ∈ allowed)) = false := by
    cases allowedAlgs with
    | none => rfl
    | some allowed => simpa using hallowed allowed rfl
  simp [verifyClaimsAgainstJwksInner, decodeCompactJwsHeader_compactJws, hheader, hpermitted, hjwk,
    verifyClaimsAgainstJwk, verifyRs256ClaimsAgainstJwk, hkey, hn, he, hcomponents, hdecode, hclaims]

/-- An ML-DSA token under a published key is accepted. -/
theorem verifyClaimsAgainstJwksInner_mlDsa {T : Type} {fromSlice : Bytes → Except String T}
    {header payload signature : Bytes} {kid : String} {typ : Option String} {jwks : JwksDocument}
    {jwk : PublicJwk} {algorithm : MlDsaAlgorithm} {publicKey : Bytes} {claims : T}
    (hheader : Crates.headerFromSlice header = .ok ⟨algorithm.joseAlg, some kid, typ⟩)
    (hjwk : jwks.keys.find? (fun key => key.kid == kid) = some jwk)
    (hkey : akpPublicKeyFromJwk jwk = .ok ⟨algorithm, publicKey⟩)
    (hlength : signature.length = algorithm.signatureLen)
    (hpublicKey : Crates.mlDsaPublicKeyError algorithm publicKey = none)
    (hverifier : Crates.mlDsaVerifierError algorithm publicKey = none)
    (hverify : Crates.mlDsaVerifyOneshot algorithm publicKey signature
      (asBytes (Base64.encode header ++ "." ++ Base64.encode payload)) = .ok true)
    (hclaims : fromSlice payload = .ok claims) :
    verifyClaimsAgainstJwksInner fromSlice (compactJws header payload signature) jwks none =
      .ok ⟨claims, algorithm.joseAlg, kid, typ⟩ := by
  have halg : algorithm.joseAlg ≠ "RS256" := by
    cases algorithm <;> decide
  simp [verifyClaimsAgainstJwksInner, decodeCompactJwsHeader_compactJws, hheader, hjwk,
    verifyClaimsAgainstJwk, halg, MlDsaAlgorithm.fromJoseAlg_joseAlg, verifyMldsaClaimsAgainstJwk,
    hkey, parseCompactJws_compactJws, decodeCompactSegment, hlength, failOn, hpublicKey, hverifier,
    hverify, decodePayloadClaims, hclaims]

end StsDelegate
