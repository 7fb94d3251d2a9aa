import StsDelegate.Effects
import StsDelegate.Lib.OrdSet

/-!
# Inbound token verification

`sts-verify`: the subject token of the identity provider, and the assertions of
actors and clients. Verification is pure except for the clock, which it reads for
itself: once for the time window, and a second time for the lifetime of an
assertion without `iat`.

`SubjectAccepted` and `AssertionAccepted` say what an accepted token has passed;
`returns_verifySubjectToken` and `returns_verifyAssertionWithAllowedAlgs` say that
acceptance means just that.
-/

namespace StsDelegate

open Text Fallible Effectful

/-- Failure categories of the verification layer. -/
inductive VerifyErrorKind
  | invalidIssuer
  | invalidUrl
  | invalidAnchor
  | anchorCollision
  | invalidToken
  | invalidClaims
  | invalidAudience
  | invalidLifetime
  | keyBindingMismatch
  | discoveryFailed
  | fetchFailed
  deriving DecidableEq

structure VerifyError where
  kind : VerifyErrorKind
  message : String

/-- Policy inputs for inbound actor/client assertion verification. -/
structure AssertionVerificationOptions where
  expectedIssuer : String
  expectedAudiences : List String
  clockSkewLeeway : Int64
  maxTtl : Int64
  bindingSubjectToken : Option String
  requireSubjectBinding : Bool
  keyBindingRegistry : Option (OrdSet String)

/-- The algorithms accepted for external subject tokens. -/
def SUBJECT_TOKEN_SIGNING_ALGS : List String := ["RS256"]

/-! ### Pure checks -/

/-- Is the host the local machine? -/
def Host.isLoopback : Host → Bool
  | .domain name => eqIgnoreAsciiCase name "localhost"
  | .ipv4 a _ _ _ => a == 127
  | .ipv6 address => address == 1

variable [Crates]

/-- Validate an issuer value without making network calls. -/
def validateIssuer (value : String) : Except VerifyError String := do
  let trimmed := trim value
  rejectIf trimmed.isEmpty ⟨.invalidIssuer, "issuer must not be empty"⟩
  rejectIf (trimmed.toList.any isWhitespace)
    ⟨.invalidIssuer, "issuer must not contain whitespace"⟩
  let parsed ← (Crates.urlParse trimmed).mapError fun err =>
    ⟨.invalidIssuer, "issuer must be an absolute URL: " ++ err⟩
  rejectIf parsed.hostStr.isNone ⟨.invalidIssuer, "issuer must include a host"⟩
  rejectIf (parsed.query.isSome || parsed.fragment.isSome)
    ⟨.invalidIssuer, "issuer must not contain a query or fragment component"⟩
  let isLoopback := parsed.host.any Host.isLoopback
  rejectIf (parsed.scheme != "https" && !(parsed.scheme == "http" && isLoopback))
    ⟨.invalidIssuer,
      "issuer must use https, except http is allowed for loopback local development"⟩
  pure (trimEndMatches '/' trimmed)

def mapJoseError (err : JoseError) : VerifyError :=
  match err.kind with
  | .invalidKey => ⟨.invalidToken, err.message⟩
  | .unsupportedAlgorithm => ⟨.invalidToken, err.message⟩
  | .invalidClaims => ⟨.invalidClaims, err.message⟩
  | .verificationFailed => ⟨.invalidToken, err.message⟩
  | .invalidCompactJws => ⟨.invalidToken, err.message⟩

omit [Crates] in
def audienceMatches (aud : Json) (expected : String) : Bool :=
  match aud with
  | .string value => value == expected
  | .array values => values.any fun item => item.asStr == some expected
  | _ => false

omit [Crates] in
def ensureAudienceMatches (aud : Json) (expected : List String) : Except VerifyError Unit :=
  if expected.any (audienceMatches aud) then .ok ()
  else .error ⟨.invalidAudience, "subject token audience not accepted"⟩

def subjectTokenHash (subjectToken : String) : String :=
  Base64.encode (Crates.sha256 (asBytes subjectToken))

omit [Crates] in
/-- The key id is the identity, or the identity followed by a separator. -/
def prefixMatch (kid identity : String) : Bool :=
  kid == identity || (stripPrefix kid identity).any fun suffix =>
    startsWithChar suffix '-' || startsWithChar suffix '/' || startsWithChar suffix '.'

omit [Crates] in
def kidBelongsToClaimedIdentity (kid claimedIdentity : String) (registry : OrdSet String) : Bool :=
  if kid.isEmpty || claimedIdentity.isEmpty then false
  else if !prefixMatch kid claimedIdentity then false
  else !registry.toList.any fun other =>
    other != claimedIdentity && len claimedIdentity < len other && prefixMatch kid other

/-! ### Checks against the clock -/

omit [Crates] in
def validateTimeWindow (exp : Int64) (nbf : Option Int64) (clockSkewLeeway : Int64) :
    Handler VerifyError Unit := do
  let now ← unixNow
  rejectIf (exp + clockSkewLeeway < now) (VerifyError.mk .invalidLifetime "token has expired")
  rejectIf (nbf.any fun nbf => now < nbf - clockSkewLeeway)
    (VerifyError.mk .invalidLifetime "token is not yet valid")

omit [Crates] in
/-- How long the assertion is valid for, from `iat` or else from now. -/
def assertionSpan (claims : AssertionClaims) : Handler VerifyError Int64 :=
  match claims.iat with
  | some iat => pure (claims.exp - iat)
  | none => do
      let now ← unixNow
      pure (claims.exp - now)

omit [Crates] in
def validateAssertionLifetime (claims : AssertionClaims) (maxTtl clockSkewLeeway : Int64) :
    Handler VerifyError Unit := do
  let cap := maxTtl + clockSkewLeeway
  let span ← assertionSpan claims
  rejectIf (cap < span)
    (VerifyError.mk .invalidLifetime "assertion lifetime exceeds the allowed maximum")

/-! ### Tokens -/

/-- Verify an inbound subject token against a JWKS document and expected audience. -/
def verifySubjectToken (token : String) (jwks : JwksDocument) (expectedIssuer : String)
    (expectedAudiences : List String) (clockSkewLeeway : Int64) :
    Handler VerifyError SubjectTokenClaims := do
  let verified ← (verifyClaimsAgainstJwksWithAllowedAlgs Crates.subjectFromSlice token jwks
    SUBJECT_TOKEN_SIGNING_ALGS).mapError mapJoseError
  let claims := verified.claims
  let expectedIssuer ← validateIssuer expectedIssuer
  rejectIf (claims.iss != expectedIssuer)
    (VerifyError.mk .invalidIssuer ("unexpected issuer " ++ claims.iss))
  validateTimeWindow claims.exp claims.nbf clockSkewLeeway
  ensureAudienceMatches claims.aud expectedAudiences
  pure claims

/-- Does the assertion carry the hash of the subject token it must be bound to? -/
def boundToSubject (claims : AssertionClaims) (options : AssertionVerificationOptions) : Bool :=
  !options.requireSubjectBinding ||
    claims.subTokHash.getD "" == subjectTokenHash (options.bindingSubjectToken.getD "")

/-- Verify a client or actor assertion with an explicit JWS algorithm policy. -/
def verifyAssertionWithAllowedAlgs (token : String) (jwks : JwksDocument)
    (allowedAlgs : List String) (options : AssertionVerificationOptions) :
    Handler VerifyError AssertionClaims := do
  let verified ← (verifyClaimsAgainstJwksWithAllowedAlgs Crates.assertionFromSlice token jwks
    allowedAlgs).mapError mapJoseError
  let claims := verified.claims
  let _ ← validateIssuer options.expectedIssuer
  rejectIf (claims.iss != claims.sub)
    (VerifyError.mk .invalidClaims "assertion iss and sub must match")
  rejectIf (!options.expectedAudiences.any (audienceMatches claims.aud))
    (VerifyError.mk .invalidAudience
      "assertion audience does not identify this authorization server")
  rejectIf (options.keyBindingRegistry.any fun registry =>
      !kidBelongsToClaimedIdentity verified.kid claims.sub registry)
    (VerifyError.mk .keyBindingMismatch
      "assertion signing key does not belong to the claimed identity")
  validateTimeWindow claims.exp none options.clockSkewLeeway
  validateAssertionLifetime claims options.maxTtl options.clockSkewLeeway
  rejectIf (!boundToSubject claims options)
    (VerifyError.mk .keyBindingMismatch "assertion not bound to the presented subject token")
  pure claims

/-! ### What acceptance means -/

/-- At a reading on the trace the token had not run out, and had begun, within
the leeway. -/
def WindowOpen (exp : Int64) (nbf : Option Int64) (clockSkewLeeway : Int64) (t : List Ev) : Prop :=
  ∃ now, nowIs now ∈ t ∧ now ≤ exp + clockSkewLeeway ∧
    ∀ n, nbf = some n → n - clockSkewLeeway ≤ now

/-- What an accepted subject token has passed. -/
structure SubjectAccepted (token : String) (jwks : JwksDocument) (expectedIssuer : String)
    (expectedAudiences : List String) (clockSkewLeeway : Int64) (t : List Ev)
    (claims : SubjectTokenClaims) : Prop where
  verified : ∃ kid typ, verifyClaimsAgainstJwksWithAllowedAlgs Crates.subjectFromSlice token jwks
    SUBJECT_TOKEN_SIGNING_ALGS = .ok ⟨claims, "RS256", kid, typ⟩
  issuer : validateIssuer expectedIssuer = .ok claims.iss
  audience : ∃ value ∈ expectedAudiences, audienceMatches claims.aud value = true
  window : WindowOpen claims.exp claims.nbf clockSkewLeeway t

/-- What an accepted assertion has passed. -/
structure AssertionAccepted (token : String) (jwks : JwksDocument) (allowedAlgs : List String)
    (options : AssertionVerificationOptions) (t : List Ev) (claims : AssertionClaims) : Prop where
  verified : ∃ alg kid typ, verifyClaimsAgainstJwksWithAllowedAlgs Crates.assertionFromSlice token
      jwks allowedAlgs = .ok ⟨claims, alg, kid, typ⟩ ∧ alg ∈ allowedAlgs ∧
    ∀ registry, options.keyBindingRegistry = some registry →
      kidBelongsToClaimedIdentity kid claims.sub registry = true
  iss_eq_sub : claims.iss = claims.sub
  audience : ∃ value ∈ options.expectedAudiences, audienceMatches claims.aud value = true
  window : WindowOpen claims.exp none options.clockSkewLeeway t
  binding : options.requireSubjectBinding = true →
    claims.subTokHash.getD "" = subjectTokenHash (options.bindingSubjectToken.getD "")

open Prog

omit [Crates] in
/-- A window seen open stays seen as the trace grows. -/
theorem WindowOpen.mono {exp : Int64} {nbf : Option Int64} {clockSkewLeeway : Int64}
    {t t' : List Ev} (h : WindowOpen exp nbf clockSkewLeeway t) (hsub : t ⊆ t') :
    WindowOpen exp nbf clockSkewLeeway t' := by
  obtain ⟨now, hmem, hwin⟩ := h
  exact ⟨now, hsub hmem, hwin⟩

theorem SubjectAccepted.mono {token : String} {jwks : JwksDocument} {expectedIssuer : String}
    {expectedAudiences : List String} {clockSkewLeeway : Int64} {t t' : List Ev}
    {claims : SubjectTokenClaims}
    (h : SubjectAccepted token jwks expectedIssuer expectedAudiences clockSkewLeeway t claims)
    (hsub : t ⊆ t') :
    SubjectAccepted token jwks expectedIssuer expectedAudiences clockSkewLeeway t' claims :=
  { h with window := h.window.mono hsub }

theorem AssertionAccepted.mono {token : String} {jwks : JwksDocument} {allowedAlgs : List String}
    {options : AssertionVerificationOptions} {t t' : List Ev} {claims : AssertionClaims}
    (h : AssertionAccepted token jwks allowedAlgs options t claims) (hsub : t ⊆ t') :
    AssertionAccepted token jwks allowedAlgs options t' claims :=
  { h with window := h.window.mono hsub }

omit [Crates] in
theorem returns_validateTimeWindow {exp : Int64} {nbf : Option Int64} {clockSkewLeeway : Int64}
    {t : List Ev} {u : Unit} (h : Returns (validateTimeWindow exp nbf clockSkewLeeway) t u) :
    WindowOpen exp nbf clockSkewLeeway t := by
  simp only [validateTimeWindow, returns_unixNow_bind, liftM_eq, returns_ofExcept_bind,
    returns_ofExcept, rejectIf_eq_ok] at h
  obtain ⟨now, t', rfl, -, hexp, rfl, hnbf⟩ := h
  refine ⟨now, by simp, Int64.not_lt.mp (of_decide_eq_false hexp), ?_⟩
  rintro n rfl
  simpa [Int64.not_lt] using hnbf

omit [Crates] in
theorem ensureAudienceMatches_eq_ok {aud : Json} {expected : List String} {u : Unit} :
    ensureAudienceMatches aud expected = .ok u ↔
      ∃ value ∈ expected, audienceMatches aud value = true := by
  rw [← List.any_eq_true, ensureAudienceMatches]
  split <;> simp_all

theorem returns_verifySubjectToken {token : String} {jwks : JwksDocument} {expectedIssuer : String}
    {expectedAudiences : List String} {clockSkewLeeway : Int64} {t : List Ev}
    {claims : SubjectTokenClaims}
    (h : Returns (verifySubjectToken token jwks expectedIssuer expectedAudiences clockSkewLeeway)
      t claims) :
    SubjectAccepted token jwks expectedIssuer expectedAudiences clockSkewLeeway t claims := by
  simp only [verifySubjectToken, returns_ofExcept_bind, liftM_eq, mapError_eq_ok, rejectIf_eq_ok]
    at h
  obtain ⟨verified, hverified, issuer, hissuer, -, hiss, h⟩ := h
  rw [returns_bind] at h
  obtain ⟨_, t₁, t₂, rfl, hwindow, h⟩ := h
  simp only [returns_ofExcept_bind, ensureAudienceMatches_eq_ok, pure_eq, returns_done] at h
  obtain ⟨-, haud, rfl, rfl⟩ := h
  have halg := (verifyClaimsAgainstJwksInner_ok hverified).2.1 _ rfl
  rw [SUBJECT_TOKEN_SIGNING_ALGS, List.mem_singleton] at halg
  refine ⟨⟨verified.kid, verified.typ, ?_⟩, ?_, haud, ?_⟩
  · rw [hverified, ← halg]
  · rw [hissuer, bne_eq_false_iff_eq.mp hiss]
  · exact (returns_validateTimeWindow hwindow).mono (List.subset_append_left _ _)

theorem returns_verifyAssertionWithAllowedAlgs {token : String} {jwks : JwksDocument}
    {allowedAlgs : List String} {options : AssertionVerificationOptions} {t : List Ev}
    {claims : AssertionClaims}
    (h : Returns (verifyAssertionWithAllowedAlgs token jwks allowedAlgs options) t claims) :
    AssertionAccepted token jwks allowedAlgs options t claims := by
  simp only [verifyAssertionWithAllowedAlgs, returns_ofExcept_bind, liftM_eq, mapError_eq_ok,
    rejectIf_eq_ok] at h
  obtain ⟨verified, hverified, -, -, -, hiss, -, haud, -, hkid, h⟩ := h
  rw [returns_bind] at h
  obtain ⟨_, t₁, t₂, rfl, hwindow, h⟩ := h
  rw [returns_bind] at h
  obtain ⟨-, t₃, t₄, rfl, -, h⟩ := h
  simp only [returns_ofExcept_bind, rejectIf_eq_ok, pure_eq, returns_done] at h
  obtain ⟨-, hbound, rfl, rfl⟩ := h
  refine ⟨⟨verified.alg, verified.kid, verified.typ, hverified, ?_, ?_⟩, ?_, ?_, ?_, ?_⟩
  · exact (verifyClaimsAgainstJwksInner_ok hverified).2.1 _ rfl
  · intro registry hregistry
    simpa [hregistry] using hkid
  · exact bne_eq_false_iff_eq.mp hiss
  · simpa using haud
  · exact (returns_validateTimeWindow hwindow).mono (List.subset_append_left _ _)
  · intro hrequired
    simpa [boundToSubject, hrequired] using hbound

/-- An assertion that passes every other check waits for the clock only. -/
theorem verifyAssertionWithAllowedAlgs_eq {token issuer : String} {jwks : JwksDocument}
    {allowedAlgs : List String} {options : AssertionVerificationOptions}
    {verified : VerifiedJws AssertionClaims}
    (hverified : verifyClaimsAgainstJwksWithAllowedAlgs Crates.assertionFromSlice token jwks
      allowedAlgs = .ok verified)
    (hissuer : validateIssuer options.expectedIssuer = .ok issuer)
    (hiss : verified.claims.iss = verified.claims.sub)
    (haud : options.expectedAudiences.any (audienceMatches verified.claims.aud) = true)
    (hkid : (options.keyBindingRegistry.any fun registry =>
      !kidBelongsToClaimedIdentity verified.kid verified.claims.sub registry) = false)
    (hbound : boundToSubject verified.claims options = true) :
    verifyAssertionWithAllowedAlgs token jwks allowedAlgs options = (do
      (do validateTimeWindow verified.claims.exp none options.clockSkewLeeway
          validateAssertionLifetime verified.claims options.maxTtl options.clockSkewLeeway)
      pure verified.claims) := by
  simp only [verifyAssertionWithAllowedAlgs, hverified, mapError_ok, liftM_eq, ofExcept_ok,
    done_bind, hissuer, hiss, bne_self_eq_false, haud, hkid, hbound, rejectIf, Bool.not_true,
    Bool.false_eq_true, if_false, bind_assoc]

/-! ### Verification only reads the clock -/

/-- The calls that change no store. -/
def ReadsClock (c : Call) : Prop := c = .unixNow

omit [Crates] in
theorem only_unixNow {ε : Type} : Only ReadsClock (unixNow : Handler ε _) := only_perform rfl

omit [Crates] in
theorem only_validateTimeWindow {exp : Int64} {nbf : Option Int64} {clockSkewLeeway : Int64} :
    Only ReadsClock (validateTimeWindow exp nbf clockSkewLeeway) :=
  only_bind only_unixNow fun _ => only_bind only_ofExcept fun _ => only_ofExcept

omit [Crates] in
theorem only_assertionSpan {claims : AssertionClaims} :
    Only ReadsClock (assertionSpan claims) := by
  unfold assertionSpan
  split
  · exact only_done
  · exact only_bind only_unixNow fun _ => only_done

theorem only_verifySubjectToken {token : String} {jwks : JwksDocument} {expectedIssuer : String}
    {expectedAudiences : List String} {clockSkewLeeway : Int64} :
    Only ReadsClock
      (verifySubjectToken token jwks expectedIssuer expectedAudiences clockSkewLeeway) :=
  only_bind only_ofExcept fun _ => only_bind only_ofExcept fun _ => only_bind only_ofExcept
    fun _ => only_bind only_validateTimeWindow fun _ => only_bind only_ofExcept fun _ => only_done

theorem only_verifyAssertionWithAllowedAlgs {token : String} {jwks : JwksDocument}
    {allowedAlgs : List String} {options : AssertionVerificationOptions} :
    Only ReadsClock (verifyAssertionWithAllowedAlgs token jwks allowedAlgs options) :=
  only_bind only_ofExcept fun _ => only_bind only_ofExcept fun _ => only_bind only_ofExcept
    fun _ => only_bind only_ofExcept fun _ => only_bind only_ofExcept fun _ =>
      only_bind only_validateTimeWindow fun _ =>
        only_bind (only_bind only_assertionSpan fun _ => only_ofExcept) fun _ =>
          only_bind only_ofExcept fun _ => only_done

end StsDelegate
