import StsDelegate.Jose

/-!
# DPoP proof validation

`sts-dpop`: the stateless part of RFC 9449 at the token endpoint. A proof is
signed by the key in its own header; what comes out is the binding of that key's
thumbprint, the proof's `jti` and `iat`, and how long the proof must be
remembered so that it cannot be used twice.
-/

namespace StsDelegate

open Text Fallible

/-- A DPoP validation failure; there is only the one category. -/
structure DpopError where
  message : String

/-- Input needed to validate one DPoP proof. -/
structure DpopProofRequest where
  proof : String
  htm : String
  htu : String
  now : Int64
  clockSkewLeeway : Int64

/-- Sender-constraining data returned after stateless DPoP proof validation. -/
structure DpopBinding where
  jkt : String
  jti : String
  iat : Int64
  replayExpiresAt : Int64
  deriving DecidableEq

/-- The algorithms the verifier enforces. -/
def DPOP_SIGNING_ALGS_SUPPORTED : List String :=
  ["RS256", "RS384", "RS512", "PS256", "PS384", "PS512", "ES256", "ES384", "EdDSA"]

/-- Local cap for one compact DPoP proof. -/
def MAX_DPOP_PROOF_LEN : Nat := 8192

/-- Local cap for caller-controlled proof `jti` values. -/
def MAX_DPOP_JTI_LEN : Nat := 128

def DPOP_TYP : String := "dpop+jwt"

def PRIVATE_JWK_MEMBERS : List String := ["d", "p", "q", "dp", "dq", "qi", "oth", "k"]

/-- `Algorithm::from_str`, at the supported names. -/
def Algorithm.fromStr (name : String) : Option Algorithm :=
  [("RS256", Algorithm.rs256), ("RS384", .rs384), ("RS512", .rs512), ("PS256", .ps256),
    ("PS384", .ps384), ("PS512", .ps512), ("ES256", .es256), ("ES384", .es384),
    ("EdDSA", .edDsa)].lookup name

/-! ### Shape -/

def checkProofInput (input : DpopProofRequest) : Except DpopError Unit := do
  rejectIf (isBlank input.proof) ⟨"DPoP proof missing or not a string"⟩
  rejectIf (MAX_DPOP_PROOF_LEN < len input.proof) ⟨"DPoP proof exceeds maximum allowed length"⟩
  rejectIf (isBlank input.htm || isBlank input.htu)
    ⟨"DPoP request method/URI not available for proof validation"⟩

def compactParts (proof : String) : Except DpopError (String × String × String) :=
  match splitAtChar '.' proof with
  | [header, payload, signature] =>
      if header.isEmpty || payload.isEmpty || signature.isEmpty then
        .error ⟨"DPoP proof must be a compact JWT"⟩
      else .ok (header, payload, signature)
  | _ => .error ⟨"DPoP proof must be a compact JWT"⟩

variable [Crates]

def decodeJsonPart (part name : String) : Except DpopError Json := do
  let bytes ← okOr (Base64.decode part) ⟨"DPoP proof " ++ name ++ " is not valid base64url JSON"⟩
  (Crates.valueFromSlice bytes).mapError fun _ => ⟨"DPoP proof " ++ name ++ " is not valid JSON"⟩

/-! ### Header -/

omit [Crates] in
def ensureAsymmetricKeyMatchesAlg (jwk : Jwk) (alg : Algorithm) : Except DpopError Unit :=
  match jwk.algorithm, alg with
  | .rsa, .rs256 | .rsa, .rs384 | .rsa, .rs512 | .rsa, .ps256 | .rsa, .ps384 | .rsa, .ps512
  | .ellipticCurve, .es256 | .ellipticCurve, .es384 | .octetKeyPair, .edDsa => .ok ()
  | _, _ => .error ⟨"DPoP proof jwk key type is not compatible with header alg"⟩

def validateHeader (header : Json) : Except DpopError (Algorithm × Jwk) := do
  let header ← okOr header.asObject ⟨"DPoP proof header is not a JSON object"⟩
  rejectIf ((Json.get header "typ").bind Json.asStr != some DPOP_TYP)
    ⟨"DPoP proof typ must be dpop+jwt"⟩
  let algName ← okOr ((Json.get header "alg").bind Json.asStr) ⟨"DPoP proof alg is required"⟩
  rejectIf (!DPOP_SIGNING_ALGS_SUPPORTED.contains algName)
    ⟨"DPoP proof alg " ++ debug algName ++ " is not an allowed asymmetric algorithm"⟩
  let alg ← okOr (Algorithm.fromStr algName) ⟨"DPoP proof alg is not supported"⟩
  let jwkValue ← okOr (Json.get header "jwk") ⟨"DPoP proof header must carry a public jwk"⟩
  let jwkObject ← okOr jwkValue.asObject ⟨"DPoP proof header must carry a public jwk"⟩
  rejectIf (PRIVATE_JWK_MEMBERS.any (Json.containsKey jwkObject))
    ⟨"DPoP proof jwk must not contain private key material"⟩
  rejectIf (((Json.get jwkObject "alg").bind Json.asStr).any (· != algName))
    ⟨"DPoP proof jwk alg does not match header alg"⟩
  let jwk ← okOr (Crates.jwkFromValue jwkValue) ⟨"DPoP proof jwk is not a valid public key"⟩
  ensureAsymmetricKeyMatchesAlg jwk alg
  pure (alg, jwk)

def verifyProofSignature (proof : String) (alg : Algorithm) (jwk : Jwk) :
    Except DpopError VerifiedDpopClaims := do
  rejectIf (!Crates.jwkDecodable jwk) ⟨"DPoP proof jwk is not a valid public key"⟩
  let payload ← okOr (Crates.dpopDecode alg jwk proof) ⟨"DPoP proof signature does not verify"⟩
  (Crates.dpopFromSlice payload).mapError fun _ => ⟨"DPoP proof signature does not verify"⟩

/-! ### Claims -/

omit [Crates] in
def requiredStringClaim (value : Option Json) (claim : String) : Except DpopError String :=
  okOr ((value.bind Json.asStr).filter fun value => !value.isEmpty)
    ⟨"DPoP proof " ++ claim ++ " must be a non-empty string"⟩

omit [Crates] in
def validateJti (jti : String) : Except DpopError String := do
  rejectIf (MAX_DPOP_JTI_LEN < len jti) ⟨"DPoP proof jti exceeds maximum allowed length"⟩
  pure jti

omit [Crates] in
def validateHtm (claimHtm htm : String) : Except DpopError Unit :=
  rejectIf (claimHtm != htm) ⟨"DPoP proof htm does not match the request method"⟩

omit [Crates] in
def defaultPort (scheme : String) : Option Nat :=
  if scheme = "https" then some 443 else if scheme = "http" then some 80 else none

def canonicalHtu (value : String) : Option String := do
  let parsed ← (Crates.urlParse value).toOption
  let scheme := toAsciiLowercase parsed.scheme
  let host := toAsciiLowercase (← parsed.hostStr)
  let netloc :=
    match parsed.port with
    | some port => if some port ≠ defaultPort scheme then host ++ ":" ++ toString port else host
    | none => host
  pure (scheme ++ "://" ++ netloc ++ parsed.path)

def validateHtu (claimHtu htu : String) : Except DpopError Unit := do
  let claimHtu ← okOr (canonicalHtu claimHtu) ⟨"DPoP proof htu is not a valid absolute URI"⟩
  let requestHtu ← okOr (canonicalHtu htu) ⟨"DPoP request URI is not a valid absolute URI"⟩
  rejectIf (claimHtu != requestHtu) ⟨"DPoP proof htu does not match the request URI"⟩

omit [Crates] in
def valueToI64 (value : Json) : Option Int64 :=
  match value.asI64 with
  | some n => some n
  | none =>
      match value.asU64 with
      | some n => if n.toNat < 2 ^ 63 then some (Int64.ofNat n.toNat) else none
      | none =>
          match value.asF64 with
          | some q => if (-2 ^ 63 : Rat) ≤ q ∧ q ≤ 2 ^ 63 then some (floatToI64 q) else none
          | none => none

omit [Crates] in
def validateIat (value : Option Json) (now leeway : Int64) : Except DpopError Int64 := do
  let value ← okOr value ⟨"DPoP proof missing required claim iat"⟩
  let iat ← okOr (valueToI64 value) ⟨"DPoP proof iat must be a finite number"⟩
  rejectIf ((maxZero leeway).toInt.toNat < absDiff now iat)
    ⟨"DPoP proof iat is outside the acceptable window"⟩
  pure iat

/-- Validate the stateless RFC 9449 token-endpoint DPoP proof requirements. -/
def validateDpopProof (input : DpopProofRequest) : Except DpopError DpopBinding := do
  checkProofInput input
  let (headerB64, _, _) ← compactParts input.proof
  let header ← decodeJsonPart headerB64 "header"
  let (alg, jwk) ← validateHeader header
  let claims ← verifyProofSignature input.proof alg jwk
  let jti ← requiredStringClaim claims.jti "jti"
  let jti ← validateJti jti
  let htm ← requiredStringClaim claims.htm "htm"
  validateHtm htm input.htm
  let htu ← requiredStringClaim claims.htu "htu"
  validateHtu htu input.htu
  let iat ← validateIat claims.iat input.now input.clockSkewLeeway
  let leeway := maxZero input.clockSkewLeeway
  pure ⟨Crates.jwkThumbprint jwk, jti, iat, saturatingAdd iat leeway⟩

/-- A proof that passes every check but the one of its age is accepted while its
`iat` is within the leeway. -/
theorem validateDpopProof_eq {input : DpopProofRequest} {parts : String × String × String}
    {header : Json} {alg : Algorithm} {jwk : Jwk} {claims : VerifiedDpopClaims}
    {jti htm htu : String} (hinput : checkProofInput input = .ok ())
    (hparts : compactParts input.proof = .ok parts)
    (hheader : decodeJsonPart parts.1 "header" = .ok header)
    (hkey : validateHeader header = .ok (alg, jwk))
    (hclaims : verifyProofSignature input.proof alg jwk = .ok claims)
    (hjti : requiredStringClaim claims.jti "jti" = .ok jti) (hjtiLen : validateJti jti = .ok jti)
    (hhtm : requiredStringClaim claims.htm "htm" = .ok htm)
    (hmethod : validateHtm htm input.htm = .ok ())
    (hhtu : requiredStringClaim claims.htu "htu" = .ok htu)
    (huri : validateHtu htu input.htu = .ok ()) :
    validateDpopProof input = (do
      let iat ← validateIat claims.iat input.now input.clockSkewLeeway
      pure ⟨Crates.jwkThumbprint jwk, jti, iat,
        saturatingAdd iat (maxZero input.clockSkewLeeway)⟩) := by
  simp only [validateDpopProof, hinput, hparts, hheader, hkey, hclaims, hjti, hjtiLen, hhtm,
    hmethod, hhtu, huri, ok_bind]

/-- Of an accepted proof only its age is looked at when it comes again. -/
theorem validateDpopProof_again {input : DpopProofRequest} {binding : DpopBinding}
    (h : validateDpopProof input = .ok binding) :
    ∃ value, ∀ now, validateDpopProof { input with now := now } = (do
      let iat ← validateIat value now input.clockSkewLeeway
      pure ⟨binding.jkt, binding.jti, iat,
        saturatingAdd iat (maxZero input.clockSkewLeeway)⟩) := by
  simp only [validateDpopProof, bind_eq_ok, pure_eq_ok] at h
  obtain ⟨⟨⟩, hinput, parts, hparts, header, hheader, ⟨alg, jwk⟩, hkey, claims, hclaims, jti, hjti,
    jti', hjti', htm, hhtm, ⟨⟩, hmethod, htu, hhtu, ⟨⟩, huri, iat, -, heq⟩ := h
  subst heq
  have hsame : jti' = jti := by
    simp only [validateJti, bind_eq_ok, pure_eq_ok] at hjti'
    obtain ⟨_, _, heq⟩ := hjti'
    exact heq.symm
  subst hsame
  exact ⟨claims.iat, fun now => validateDpopProof_eq hinput hparts hheader hkey hclaims hjti hjti'
    hhtm hmethod hhtu huri⟩

/-- How long a proof is remembered depends on its `iat` and the leeway only. -/
theorem validateDpopProof_replayExpiresAt {input : DpopProofRequest} {binding : DpopBinding}
    (h : validateDpopProof input = .ok binding) :
    binding.replayExpiresAt = saturatingAdd binding.iat (maxZero input.clockSkewLeeway) := by
  obtain ⟨value, hagain⟩ := validateDpopProof_again h
  have hnow := (hagain input.now).symm.trans h
  simp only [bind_eq_ok, pure_eq_ok] at hnow
  obtain ⟨iat, -, heq⟩ := hnow
  rw [← heq]

omit [Crates] in
theorem validateIat_eq_ok {value : Option Json} {now leeway iat : Int64}
    (h : validateIat value now leeway = .ok iat) : value.bind valueToI64 = some iat := by
  simp only [validateIat, bind_eq_ok, okOr_eq_ok, pure_eq_ok] at h
  obtain ⟨value', hvalue, iat', hiat, -, -, heq⟩ := h
  rw [hvalue, Option.bind_some, hiat, heq]

/-- When a proof is looked at decides whether it is accepted, not what it says. -/
theorem validateDpopProof_now {input : DpopProofRequest} {now : Int64}
    {binding binding' : DpopBinding} (h : validateDpopProof input = .ok binding)
    (h' : validateDpopProof { input with now := now } = .ok binding') : binding = binding' := by
  obtain ⟨value, hagain⟩ := validateDpopProof_again h
  have hfirst := (hagain input.now).symm.trans h
  rw [hagain now] at h'
  simp only [bind_eq_ok, pure_eq_ok] at hfirst h'
  obtain ⟨iat, hiat, heq⟩ := hfirst
  obtain ⟨iat', hiat', heq'⟩ := h'
  have hsame := (validateIat_eq_ok hiat).symm.trans (validateIat_eq_ok hiat')
  rw [← heq', ← heq, Option.some.inj hsame]

end StsDelegate
