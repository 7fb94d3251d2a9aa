import StsDelegate.Http.Exchange

/-!
# Introspection and revocation

The `/introspect` and `/revoke` endpoints. Both authenticate the client like
`/token` does, record its assertion, and look at one token the server may have
minted: `stsTokenClaims` are the checks that need no store, and
`verifiedStsAccessToken` adds the revocation set on demand.
-/

namespace StsDelegate

open Text Fallible Effectful

variable [Crates]

/-- Authenticate the client of an online request, for the endpoint it was sent
to. -/
def authenticateOnlineClient (state : HttpState) (form : OnlineTokenForm) (endpoint : String) :
    Handler HttpError AssertionClaims := do
  let request :=
    { ExchangeRequest.default with
      clientId := form.clientId
      clientAssertion := form.clientAssertion
      clientAssertionType := form.clientAssertionType }
  rejectIf (!hasClientAuth request) (HttpError.invalidClient "client_assertion required")
  authenticateClient state request endpoint

/-- The claims of a token of this server that is active at `now`, the revocation
set aside. -/
def stsTokenClaims (state : HttpState) (token : String) (now : Int64) : Option MintedClaims := do
  let verified ←
    (verifyClaimsAgainstJwksWithHeader Crates.mintedFromSlice token state.publishedJwks).toOption
  guard (verified.typ = some "at+jwt")
  let claims := verified.claims
  guard (claims.iss = state.config.ourIssuer)
  guard (claims.aud ∈ state.config.targetPolicy.targets)
  guard (!(isBlank claims.sub || isBlank claims.clientId || isBlank claims.scope))
  guard (!(claims.exp ≤ now || now + state.config.clockSkewLeeway < claims.iat))
  some claims

/-- What is known of a token of this server that is active. -/
structure ActiveClaims (state : HttpState) (token : String) (now : Int64) (claims : MintedClaims) :
    Prop where
  verified : ∃ alg kid, verifyClaimsAgainstJwksWithHeader Crates.mintedFromSlice token
    state.publishedJwks = .ok ⟨claims, alg, kid, some "at+jwt"⟩
  iss : claims.iss = state.config.ourIssuer
  aud : claims.aud ∈ state.config.targetPolicy.targets
  sub_nonblank : isBlank claims.sub = false
  clientId_nonblank : isBlank claims.clientId = false
  scope_nonblank : isBlank claims.scope = false
  exp : now < claims.exp
  iat : claims.iat ≤ now + state.config.clockSkewLeeway

theorem stsTokenClaims_eq_some {state : HttpState} {token : String} {now : Int64}
    {claims : MintedClaims} :
    stsTokenClaims state token now = some claims ↔ ActiveClaims state token now claims := by
  constructor
  · intro h
    simp only [stsTokenClaims, Option.bind_eq_bind, Option.bind_eq_some_iff, Option.guard_eq_some',
      Option.some.injEq] at h
    obtain ⟨verified, hread, -, htyp, -, hiss, -, haud, -, hblank, -, hwindow, rfl⟩ := h
    simp only [Bool.not_eq_true', Bool.or_eq_false_iff] at hblank
    simp only [Bool.not_eq_true', Bool.or_eq_false_iff, decide_eq_false_iff_not, Int64.not_le,
      Int64.not_lt] at hwindow
    refine ⟨⟨verified.alg, verified.kid, ?_⟩, hiss, haud, hblank.1.1, hblank.1.2, hblank.2,
      hwindow.1, hwindow.2⟩
    rw [← htyp]
    exact toOption_eq_some.mp hread
  · intro h
    obtain ⟨alg, kid, hread⟩ := h.verified
    rw [stsTokenClaims, hread]
    simp [Except.toOption, h.iss, h.aud, h.sub_nonblank, h.clientId_nonblank, h.scope_nonblank,
      h.exp, h.iat]

/-- RFC 7662 active-state checks for STS-issued self-contained access tokens. -/
def verifiedStsAccessToken (state : HttpState) (token : String) (now : Int64)
    (checkRevocation : Bool) : Handler HttpError (Option MintedClaims) :=
  match stsTokenClaims state token now with
  | none => pure none
  | some claims =>
      if checkRevocation then do
        let revoked ← isRevokedOrUnavailable token now
        pure (if revoked then none else some claims)
      else pure (some claims)

omit [Crates] in
/-- The introspection answer for an active token. -/
def activeResponse (claims : MintedClaims) : Json :=
  let body : List (String × Json) := []
  let body := Json.insert body "active" (.bool true)
  let body := Json.insert body "iss" (.string claims.iss)
  let body := Json.insert body "sub" (.string claims.sub)
  let body := Json.insert body "aud" (.string claims.aud)
  let body := Json.insert body "scope" (.string claims.scope)
  let body := Json.insert body "exp" (Json.ofI64 claims.exp)
  let body := Json.insert body "iat" (Json.ofI64 claims.iat)
  let body := Json.insert body "client_id" (.string claims.clientId)
  let body :=
    match claims.act with
    | some act => Json.insert body "act" act.toValue
    | none => body
  let body :=
    match claims.cnfJkt with
    | some jkt => Json.insert body "cnf" (.object [("jkt", .string jkt)])
    | none => body
  .object body

omit [Crates] in
/-- The introspection answer for any other token. -/
def inactiveResponse : Json := .object [("active", .bool false)]

def introspectionResponseForToken (state : HttpState) (token : String) (now : Int64) :
    Handler HttpError Json := do
  let claims ← verifiedStsAccessToken state token now true
  pure (match claims with
    | some claims => activeResponse claims
    | none => inactiveResponse)

/-- The checks of an online request before its client's assertion is recorded. -/
def verifyOnline (headers : HeaderMap) (state : HttpState) (body : Bytes) (endpoint : String) :
    Handler HttpError (String × AssertionClaims) := do
  let form ← parseOnlineTokenForm headers body
  let token ← requiredOnlineToken form state.config.maxTokenLen
  let claims ← authenticateOnlineClient state form endpoint
  pure (token, claims)

/-- The `/introspect` endpoint. -/
def introspect (headers : HeaderMap) (state : HttpState) (body : Bytes) :
    Handler HttpError (HeaderMap × Json) := do
  let (token, claims) ← verifyOnline headers state body state.introspectionEndpoint
  let now ← unixNow
  recordClientAssertionReplay claims now
  let now ← unixNow
  let response ← introspectionResponseForToken state token now
  pure (tokenHeaders, response)

/-- Revoke the token if it is one of this server's active ones. -/
def revokeIfActive (state : HttpState) (token : String) (claims : Option MintedClaims) :
    Handler HttpError Unit :=
  match claims with
  | none => pure ()
  | some tokenClaims => do
      let now ← unixNow
      revokeToken token tokenClaims.exp now state.config.maxSeenJti

/-- The `/revoke` endpoint; what it returns is the headers of a 200 without a
body. -/
def revoke (headers : HeaderMap) (state : HttpState) (body : Bytes) :
    Handler HttpError HeaderMap := do
  let (token, claims) ← verifyOnline headers state body state.revocationEndpoint
  let now ← unixNow
  recordClientAssertionReplay claims now
  let now ← unixNow
  let tokenClaims ← verifiedStsAccessToken state token now false
  revokeIfActive state token tokenClaims
  pure tokenHeaders

end StsDelegate
