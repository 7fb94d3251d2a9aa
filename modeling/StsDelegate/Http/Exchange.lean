import StsDelegate.Http.Form
import StsDelegate.Verify
import StsDelegate.Dpop

/-!
# Token exchange

The `/token` endpoint: `token_inner` and the two exchange modes. A request first
passes its **gates**, which read the clock and nothing else: form and parameters,
client authentication, DPoP proof, subject token, target, scope, then the gates of
the mode. Only then does it **commit**: it records its single-use credentials one
after another, draws a token id and signs.

The source has gates and commit of a mode in one function; here they are two
definitions each, and the exchange function is one after the other.
-/

namespace StsDelegate

open Text Fallible Effectful

def CLIENT_ASSERTION_TYPE : String := "urn:ietf:params:oauth:client-assertion-type:jwt-bearer"

/-- The mode one request is handled in. -/
inductive EffectiveExchangeMode
  | delegation
  | impersonation
  deriving DecidableEq

/-- What the gates common to both modes establish. -/
structure VerifiedExchange where
  subjectClaims : SubjectTokenClaims
  subjectSub : String
  target : String
  scope : String
  clientClaims : Option AssertionClaims
  dpopBinding : Option DpopBinding

structure SigningDecision where
  alg : String
  pqcFallback : Bool
  pqcFallbackReason : Option String

/-- The body of a successful response. -/
structure TokenResponse where
  accessToken : String
  issuedTokenType : String
  tokenType : String
  expiresIn : Int64
  scope : String
  signingAlgSelected : String
  pqcFallback : Bool
  pqcFallbackReason : Option String

/-- The headers of every response of the token endpoints. -/
def tokenHeaders : HeaderMap :=
  [("x-content-type-options", asBytes "nosniff"), ("cache-control", asBytes "no-store"),
    ("pragma", asBytes "no-cache")]

/-! ### Request parameters -/

def isSupportedInputTokenType (value : String) : Bool :=
  value == ACCESS_TOKEN_TYPE || value == JWT_TOKEN_TYPE

def isSupportedRequestedTokenType (value : String) : Bool := value == ACCESS_TOKEN_TYPE

/-- The checks on a supplied `actor_token`. -/
def validateActorTokenParams (request : ExchangeRequest) (maxTokenLen : Nat) :
    Except HttpError Unit :=
  match request.actorToken with
  | none => .ok ()
  | some actorToken => do
      rejectIf actorToken.isEmpty (.invalidRequest "actor_token must be a non-empty string")
      rejectIf (maxTokenLen < len actorToken) (.invalidRequest "actor_token too large")
      rejectIf (request.actorTokenType.getD "").isEmpty
        (.invalidRequest "actor_token_type required when actor_token is present")

/-- No field is longer than a token may be. -/
def checkFieldLengths (maxTokenLen : Nat) : List (String × Option String) → Except HttpError Unit
  | [] => .ok ()
  | (field, value) :: rest => do
      rejectIf (value.any fun value => maxTokenLen < len value)
        (.invalidRequest (field ++ " too large"))
      checkFieldLengths maxTokenLen rest

def validateRequestParams (request : ExchangeRequest) (maxTokenLen : Nat) :
    Except HttpError Unit := do
  rejectIf request.grantType.isEmpty (.invalidRequest "grant_type is required")
  rejectIf (request.grantType != TOKEN_EXCHANGE_GRANT_TYPE)
    (.unsupportedGrantType ("grant_type must be " ++ TOKEN_EXCHANGE_GRANT_TYPE))
  rejectIf (request.subjectToken.isEmpty || request.subjectTokenType.isEmpty)
    (.invalidRequest "subject_token and subject_token_type are required")
  rejectIf (maxTokenLen < len request.subjectToken) (.invalidRequest "subject_token too large")
  validateActorTokenParams request maxTokenLen
  rejectIf (request.actorTokenType.isSome && request.actorToken.isNone)
    (.invalidRequest "actor_token_type present without actor_token")
  rejectIf (!isSupportedInputTokenType request.subjectTokenType)
    (.invalidRequest ("unsupported subject_token_type " ++ request.subjectTokenType))
  rejectIf (request.actorTokenType.any fun actorType => !isSupportedInputTokenType actorType)
    (.invalidRequest ("unsupported actor_token_type " ++ request.actorTokenType.getD ""))
  rejectIf (request.requestedTokenType.any fun requested => !isSupportedRequestedTokenType requested)
    (.invalidRequest ("unsupported requested_token_type " ++ request.requestedTokenType.getD ""))
  checkFieldLengths maxTokenLen
    [("scope", request.scope), ("audience", request.audience), ("resource", request.resource),
      ("client_assertion", request.clientAssertion)]

/-- Resolve delegation versus impersonation before caller authentication. -/
def effectiveExchangeMode (config : RuntimeConfig) (request : ExchangeRequest)
    (emptyActorTokenSupplied : Bool) : EffectiveExchangeMode :=
  match config.tokenExchangeMode with
  | .delegation => .delegation
  | .impersonation => .impersonation
  | .both =>
      if request.actorToken.isSome || emptyActorTokenSupplied then .delegation else .impersonation

variable [Crates]

/-! ### Client authentication -/

def keyBindingRegistry (state : HttpState) : OrdSet String :=
  state.config.actorIds.extend state.config.clientIds.toList

omit [Crates] in
def clientAssertionJti (claims : AssertionClaims) : Except HttpError String :=
  okOr ((claims.jti.map trim).filter fun value => !value.isEmpty)
    (.invalidClient "client_assertion jti must be a non-empty string")

omit [Crates] in
def validateClientAssertionType (request : ExchangeRequest) : Except HttpError Unit :=
  rejectIf (request.clientAssertionType != some CLIENT_ASSERTION_TYPE)
    (.invalidClient ("client_assertion_type must be " ++ CLIENT_ASSERTION_TYPE))

omit [Crates] in
/-- No supplied client parameter is blank. -/
def checkNotBlank : List (String × Option String) → Except HttpError Unit
  | [] => .ok ()
  | (field, value) :: rest => do
      rejectIf (value.any isBlank) (.invalidClient (field ++ " present but empty"))
      checkNotBlank rest

omit [Crates] in
/-- Is any client-authentication parameter there? -/
def hasClientAuth (request : ExchangeRequest) : Bool :=
  request.clientAssertion.isSome || request.clientAssertionType.isSome || request.clientId.isSome

/-- The verification options of client assertions, for the endpoint they name. -/
def clientAssertionOptions (state : HttpState) (endpoint : String) : AssertionVerificationOptions where
  expectedIssuer := state.config.ourIssuer
  expectedAudiences := [state.config.ourIssuer, endpoint]
  clockSkewLeeway := state.config.clockSkewLeeway
  maxTtl := state.config.assertionMaxTtl
  bindingSubjectToken := none
  requireSubjectBinding := false
  keyBindingRegistry := some (keyBindingRegistry state)

/-- Authenticate the client of a request that carries client parameters; the
same at all three endpoints but for the audience. -/
def authenticateClient (state : HttpState) (request : ExchangeRequest) (endpoint : String) :
    Handler HttpError AssertionClaims := do
  checkNotBlank [("client_assertion", request.clientAssertion),
    ("client_assertion_type", request.clientAssertionType), ("client_id", request.clientId)]
  validateClientAssertionType request
  let assertion ← okOr request.clientAssertion (HttpError.invalidClient "client_assertion required")
  let claims ← (verifyAssertionWithAllowedAlgs assertion state.clientJwks
    state.config.inboundAssertionAlgs (clientAssertionOptions state endpoint)).mapErr
      fun err => HttpError.invalidClient err.message
  rejectIf (!decide (claims.sub ∈ state.config.clientIds))
    (HttpError.invalidClient ("client " ++ debug claims.sub ++ " not permitted"))
  rejectIf (request.clientId.any fun clientId => clientId != claims.sub)
    (HttpError.invalidClient "client_id does not match the authenticated client_assertion")
  let _ ← clientAssertionJti claims
  pure claims

/-- Validate `private_key_jwt` when any client-auth parameter is present. -/
def authenticateClientIfPresent (state : HttpState) (request : ExchangeRequest)
    (mode : EffectiveExchangeMode) : Handler HttpError (Option AssertionClaims) := do
  rejectIf (mode == .impersonation && request.actorToken.isSome)
    (HttpError.invalidClient "impersonation requires client_assertion, not actor_token")
  rejectIf (mode == .impersonation && !hasClientAuth request)
    (HttpError.invalidClient "impersonation requires client_assertion")
  rejectIf (state.config.clientAuthPolicy == .privateKeyJwtRequired && !hasClientAuth request)
    (HttpError.invalidClient "client_assertion required by CLIENT_AUTH_POLICY")
  if hasClientAuth request then
    let claims ← authenticateClient state request state.tokenEndpoint
    rejectIf (mode == .delegation && request.actorToken.isNone)
      (HttpError.invalidRequest "actor_token required for delegation")
    pure (some claims)
  else pure none

/-! ### Sender constraint, target and scope -/

def validateDpopHeader (headers : HeaderMap) (state : HttpState) (now : Int64) :
    Except HttpError (Option DpopBinding) :=
  match headers.getAll "dpop" with
  | [] => .ok none
  | [proof] => do
      let proof ← okOr proof.toStr (.invalidDpopProof "DPoP proof missing or not a string")
      let binding ← (validateDpopProof
        { proof := proof
          htm := "POST"
          htu := state.tokenEndpoint
          now := now
          clockSkewLeeway := state.config.clockSkewLeeway }).mapError
            fun err => HttpError.invalidDpopProof err.message
      pure (some binding)
  | _ => .error (.invalidDpopProof "multiple DPoP header fields are not allowed")

omit [Crates] in
def tokenTypeForSender (binding : Option DpopBinding) : String :=
  if binding.isSome then "DPoP" else "Bearer"

def resolveTargetForRequest (request : ExchangeRequest) (state : HttpState) :
    Except HttpError String := do
  rejectIf (request.audience == some "") (.invalidRequest "audience must not be empty")
  rejectIf (request.resource == some "") (.invalidTarget "resource must not be empty")
  let target ← (resolveTarget request.audience request.resource).mapError mapCoreError
  rejectIf (state.config.targetPolicy.get target).isNone
    (.invalidTarget ("unknown/forbidden target " ++ debug target))
  pure target

omit [Crates] in
/-- The scope tokens of the `scp` claim. -/
def scpTokens : List Json → Except HttpError (List String)
  | [] => .ok []
  | value :: rest => do
      let scope ← okOr value.asStr (.invalidRequest "malformed scope claim")
      let tokens ← scpTokens rest
      pure (splitWhitespace scope ++ tokens)

omit [Crates] in
/-- The scope tokens a subject token carries, in `scope` and in `scp`. -/
def subjectScopeTokens (claims : SubjectTokenClaims) : Except HttpError (List String) := do
  let scope := (claims.scope.map splitWhitespace).getD []
  match claims.scp with
  | none | some .null => pure scope
  | some (.string scp) => pure (scope ++ splitWhitespace scp)
  | some (.array values) => do
      let tokens ← scpTokens values
      pure (scope ++ tokens)
  | some _ => .error (.invalidRequest "malformed scope claim")

omit [Crates] in
def subjectScopeString (claims : SubjectTokenClaims) : Except HttpError (Option String) := do
  let tokens ← subjectScopeTokens claims
  let scopes := OrdSet.ofList tokens
  pure (if scopes.isEmpty then none else some (joinScopes scopes.toList))

def resolveScopeForRequest (request : ExchangeRequest) (state : HttpState)
    (subjectClaims : SubjectTokenClaims) (target : String) : Except HttpError String := do
  let policy ← okOr (state.config.targetPolicy.get target)
    (.invalidTarget ("unknown/forbidden target " ++ debug target))
  let allowed := joinScopes policy.allowedScopes.toList
  let defaultScope := joinScopes policy.defaultScopes.toList
  let requestedScope :=
    ((request.scope.map trim).filter fun value => !value.isEmpty).or
      (if defaultScope.isEmpty then none else some defaultScope)
  let subjectScope ← subjectScopeString subjectClaims
  (downscope requestedScope allowed subjectScope
    state.config.subjectScopeBoundRequired).mapError mapCoreError

omit [Crates] in
def mapSubjectVerifyError (err : VerifyError) : HttpError :=
  match err.kind with
  | .invalidAudience | .invalidIssuer | .invalidLifetime | .invalidToken | .invalidClaims =>
      .invalidGrant err.message
  | _ => .invalidRequest err.message

/-! ### The gates of both modes -/

/-- `token_inner` up to the dispatch on the mode. -/
def verifyExchange (headers : HeaderMap) (state : HttpState) (body : Bytes) :
    Handler HttpError (EffectiveExchangeMode × ExchangeRequest × VerifiedExchange) := do
  let form ← parseTokenForm headers body
  let request := form.intoExchangeRequest
  validateRequestParams request state.config.maxTokenLen
  let mode := effectiveExchangeMode state.config request form.emptyActorTokenSupplied
  let clientClaims ← authenticateClientIfPresent state request mode
  let now ← unixNow
  let dpopBinding ← validateDpopHeader headers state now
  let subjectClaims ← (verifySubjectToken request.subjectToken state.subjectJwks
    state.config.idpIssuer state.config.expectedSubjectAud.toList
    state.config.clockSkewLeeway).mapErr mapSubjectVerifyError
  let target ← resolveTargetForRequest request state
  let scope ← resolveScopeForRequest request state subjectClaims target
  let subjectSub ← okOr (subjectClaims.sub.filter fun value => !isBlank value)
    (HttpError.invalidGrant "subject token missing sub")
  pure (mode, request, { subjectClaims, subjectSub, target, scope, clientClaims, dpopBinding })

/-! ### The gates of each mode -/

/-- The verification options of actor assertions. -/
def actorAssertionOptions (state : HttpState) (subjectToken : String) :
    AssertionVerificationOptions where
  expectedIssuer := state.config.ourIssuer
  expectedAudiences := [state.config.ourIssuer, state.tokenEndpoint]
  clockSkewLeeway := state.config.clockSkewLeeway
  maxTtl := state.config.assertionMaxTtl
  bindingSubjectToken := some subjectToken
  requireSubjectBinding := state.config.requireSubjectBinding
  keyBindingRegistry := some (keyBindingRegistry state)

def verifyActorToken (state : HttpState) (actorToken subjectToken : String) :
    Handler HttpError AssertionClaims :=
  (verifyAssertionWithAllowedAlgs actorToken state.actorJwks state.config.inboundAssertionAlgs
    (actorAssertionOptions state subjectToken)).mapErr fun err => HttpError.invalidClient err.message

def validateActorIdentity (state : HttpState) (actorClaims : AssertionClaims) :
    Except HttpError Unit := do
  rejectIf (!decide (actorClaims.sub ∈ state.config.actorIds))
    (.invalidClient ("actor identity " ++ debug actorClaims.sub ++ " not permitted"))
  rejectIf (actorClaims.iss != actorClaims.sub)
    (.invalidClient "actor_token iss and sub must match")

omit [Crates] in
def gateMayAct (subjectClaims : SubjectTokenClaims) (actorClaims : AssertionClaims) :
    Except HttpError Unit :=
  match subjectClaims.mayAct with
  | none => .ok ()
  | some mayAct => do
      let mayAct ← okOr mayAct.asObject (.invalidRequest "may_act must be a JSON object")
      rejectIf mayAct.isEmpty (.invalidRequest "may_act present but empty: no actor authorized")
      rejectIf ((Json.get mayAct "sub").bind Json.asStr != some actorClaims.sub)
        (.invalidRequest "may_act does not authorize this actor")
      rejectIf ((Json.get mayAct "iss").any fun wantIss => wantIss.asStr != some actorClaims.iss)
        (.invalidRequest "may_act issuer does not match this actor")

def signingDecisionForTarget (state : HttpState) (target : String) :
    Except HttpError SigningDecision := do
  let policy ← okOr (state.config.targetPolicy.get target)
    (.invalidTarget ("unknown/forbidden target " ++ debug target))
  let alg := state.signer.alg
  let algIsPqc := isPqcJwsAlg alg
  rejectIf (!policy.acceptedTokenSigningAlgs.isEmpty &&
      !decide (alg ∈ policy.acceptedTokenSigningAlgs))
    (.invalidTarget "target does not accept the configured token signing algorithm")
  rejectIf (policy.pqcRequired && !algIsPqc)
    (.invalidTarget "target requires PQC token signing but the runtime signer is non-PQC")
  rejectIf (state.config.pqcPreferred && algIsPqc && !state.config.pqcPreferredAlgs.contains alg)
    (.invalidTarget
      "configured PQC token signing algorithm is not allowed by STS_PQC_PREFERRED_ALGS")
  rejectIf (state.config.pqcPreferred && !algIsPqc && !state.config.allowNonPqc)
    (.invalidTarget "PQC token signing is preferred and non-PQC fallback is disabled")
  pure (if state.config.pqcPreferred && !algIsPqc then ⟨alg, true, some "pqc_signer_not_selected"⟩
    else ⟨alg, false, none⟩)

omit [Crates] in
/-- `act_claim_from_value_at_depth`, with the number of levels still allowed. -/
def actClaimFromValueAtDepth : (levels : Nat) → Json → Except HttpError ActClaim
  | 0, _ => .error (.invalidRequest "act delegation chain too deep")
  | levels + 1, value => do
      let obj ← okOr value.asObject (.invalidRequest "malformed prior act claim")
      let sub ← okOr (((Json.get obj "sub").bind Json.asStr).filter fun value => !value.isEmpty)
        (.invalidRequest "malformed prior act claim")
      let iss := (Json.get obj "iss").bind Json.asStr
      match Json.get obj "act" with
      | some nested => do
          let act ← actClaimFromValueAtDepth levels nested
          pure (.mk sub iss (some act))
      | none => pure (.mk sub iss none)

omit [Crates] in
/-- A chain may have ten levels. -/
def actClaimFromValue (value : Json) : Except HttpError ActClaim := actClaimFromValueAtDepth 10 value

omit [Crates] in
/-- The prior `act` of a subject token, if it has one. -/
def priorActOf (subjectClaims : SubjectTokenClaims) : Except HttpError (Option ActClaim) :=
  match subjectClaims.act with
  | none => .ok none
  | some value => do
      let act ← actClaimFromValue value
      pure (some act)

/-- What the gates of delegation establish. -/
structure DelegationGrant where
  actorClaims : AssertionClaims
  signingDecision : SigningDecision
  now : Int64
  act : ActClaim
  actorJti : String

/-- What the gates of impersonation establish. -/
structure ImpersonationGrant where
  clientClaims : AssertionClaims
  signingDecision : SigningDecision
  now : Int64

/-- `exchange_delegation` up to the first use of the replay store. -/
def delegationGates (state : HttpState) (request : ExchangeRequest) (exchange : VerifiedExchange) :
    Handler HttpError DelegationGrant := do
  let actorToken ← okOr request.actorToken
    (if exchange.clientClaims.isSome then
      HttpError.invalidRequest "actor_token required for delegation"
    else
      HttpError.invalidClient "no client authentication: send a client_assertion or an actor_token")
  let actorClaims ← verifyActorToken state actorToken request.subjectToken
  validateActorIdentity state actorClaims
  gateMayAct exchange.subjectClaims actorClaims
  let signingDecision ← signingDecisionForTarget state exchange.target
  let now ← unixNow
  let priorAct ← priorActOf exchange.subjectClaims
  let act := buildAct actorClaims.sub priorAct
  let actorJti ← okOr (actorClaims.jti.filter fun value => !isBlank value)
    (HttpError.invalidClient "actor_token jti must be a non-empty string")
  pure { actorClaims, signingDecision, now, act, actorJti }

/-- `exchange_impersonation` up to the first use of the replay store. -/
def impersonationGates (state : HttpState) (request : ExchangeRequest)
    (exchange : VerifiedExchange) : Handler HttpError ImpersonationGrant := do
  rejectIf request.actorToken.isSome
    (HttpError.invalidClient "impersonation requires client_assertion, not actor_token")
  let clientClaims ← okOr exchange.clientClaims
    (HttpError.invalidClient "impersonation requires client_assertion")
  let policyEntry ← okOr (state.config.impersonationPolicy.clients.lookup clientClaims.sub)
    (HttpError.invalidRequest
      ("impersonation not authorized for client " ++ debug clientClaims.sub))
  rejectIf (!policyEntry.targets.allows exchange.target)
    (HttpError.invalidTarget ("impersonation to " ++ debug exchange.target ++
      " not authorized for client " ++ debug clientClaims.sub))
  rejectIf (!policyEntry.subjects.allows exchange.subjectSub)
    (HttpError.invalidRequest ("impersonation of subject " ++ debug exchange.subjectSub ++
      " not authorized for client " ++ debug clientClaims.sub))
  let signingDecision ← signingDecisionForTarget state exchange.target
  let now ← unixNow
  pure { clientClaims, signingDecision, now }

/-! ### Recording and signing -/

omit [Crates] in
/-- The replay key of an actor assertion. -/
def actorReplayKey (sub jti : String) : String := "act:" ++ sub ++ ":" ++ jti

omit [Crates] in
/-- The replay key of a client assertion. -/
def clientReplayKey (sub jti : String) : String := "ca:" ++ sub ++ ":" ++ jti

/-- The bounded replay key for a DPoP proof. -/
def dpopReplayKey (jkt jti : String) : String :=
  "dpop:" ++ hexLower (Crates.sha256 (asBytes jkt ++ [0] ++ asBytes jti))

omit [Crates] in
def recordClientAssertionReplay (claims : AssertionClaims) (now : Int64) : Handler HttpError Unit := do
  let jti ← clientAssertionJti claims
  checkAndRecord (clientReplayKey claims.sub jti) claims.exp now mapClientAssertionReplayError

def recordDpopReplay (binding : DpopBinding) (now : Int64) : Handler HttpError Unit :=
  checkAndRecord (dpopReplayKey binding.jkt binding.jti) binding.replayExpiresAt now
    mapDpopReplayError

omit [Crates] in
/-- Record something that may be absent. -/
def recordIfPresent {α : Type} (record : α → Handler HttpError Unit) :
    Option α → Handler HttpError Unit
  | some a => record a
  | none => pure ()

omit [Crates] in
/-- The end of a minted token: at most its lifetime, and never beyond the tokens
it was minted from. -/
def mintedExp (ttl now subjectExp assertionExp : Int64) : Int64 :=
  minI64 (minI64 (now + ttl) subjectExp) assertionExp

/-- The claims of the minted token, given its id. -/
def mintedPayload (state : HttpState) (exchange : VerifiedExchange) (now assertionExp : Int64)
    (clientId : String) (act : Option ActClaim) (jti : String) : MintedClaims :=
  { buildScopedPayload state.config.ourIssuer exchange.subjectSub exchange.target exchange.scope now
      (mintedExp state.config.scopedTokenTtl now exchange.subjectClaims.exp assertionExp) jti
      clientId act (exchange.dpopBinding.map DpopBinding.jkt) with
    authTime := exchange.subjectClaims.authTime
    acr := exchange.subjectClaims.acr
    amr := exchange.subjectClaims.amr.getD [] }

omit [Crates] in
/-- The response that carries a minted token. -/
def tokenResponse (exchange : VerifiedExchange) (signingDecision : SigningDecision)
    (payload : MintedClaims) (accessToken : String) : TokenResponse where
  accessToken := accessToken
  issuedTokenType := ACCESS_TOKEN_TYPE
  tokenType := tokenTypeForSender exchange.dpopBinding
  expiresIn := maxZero (payload.exp - payload.iat)
  scope := exchange.scope
  signingAlgSelected := signingDecision.alg
  pqcFallback := signingDecision.pqcFallback
  pqcFallbackReason := signingDecision.pqcFallbackReason

/-- The end of both exchanges: draw an id, sign, respond. -/
def issueToken (state : HttpState) (exchange : VerifiedExchange) (signingDecision : SigningDecision)
    (now assertionExp : Int64) (clientId : String) (act : Option ActClaim) :
    Handler HttpError (HeaderMap × TokenResponse) := do
  let jti ← newJti
  let payload := mintedPayload state exchange now assertionExp clientId act jti
  let accessToken ← signClaims payload fun _ => HttpError.serverError "internal error"
  pure (tokenHeaders, tokenResponse exchange signingDecision payload accessToken)

/-- The rest of `exchange_delegation`. -/
def commitDelegation (state : HttpState) (exchange : VerifiedExchange) (grant : DelegationGrant) :
    Handler HttpError (HeaderMap × TokenResponse) := do
  checkAndRecord (actorReplayKey grant.actorClaims.sub grant.actorJti) grant.actorClaims.exp
    grant.now mapReplayError
  recordIfPresent (recordClientAssertionReplay · grant.now) exchange.clientClaims
  recordIfPresent (recordDpopReplay · grant.now) exchange.dpopBinding
  issueToken state exchange grant.signingDecision grant.now grant.actorClaims.exp
    grant.actorClaims.sub (some grant.act)

/-- The rest of `exchange_impersonation`. -/
def commitImpersonation (state : HttpState) (exchange : VerifiedExchange)
    (grant : ImpersonationGrant) : Handler HttpError (HeaderMap × TokenResponse) := do
  recordClientAssertionReplay grant.clientClaims grant.now
  recordIfPresent (recordDpopReplay · grant.now) exchange.dpopBinding
  issueToken state exchange grant.signingDecision grant.now grant.clientClaims.exp
    grant.clientClaims.sub none

/-! ### The endpoint -/

def exchangeDelegation (state : HttpState) (request : ExchangeRequest)
    (exchange : VerifiedExchange) : Handler HttpError (HeaderMap × TokenResponse) := do
  let grant ← delegationGates state request exchange
  commitDelegation state exchange grant

def exchangeImpersonation (state : HttpState) (request : ExchangeRequest)
    (exchange : VerifiedExchange) : Handler HttpError (HeaderMap × TokenResponse) := do
  let grant ← impersonationGates state request exchange
  commitImpersonation state exchange grant

/-- Continue in the mode of the request. -/
def exchangeIn (state : HttpState) (mode : EffectiveExchangeMode) (request : ExchangeRequest)
    (exchange : VerifiedExchange) : Handler HttpError (HeaderMap × TokenResponse) :=
  match mode with
  | .delegation => exchangeDelegation state request exchange
  | .impersonation => exchangeImpersonation state request exchange

/-- The `/token` endpoint. -/
def tokenInner (headers : HeaderMap) (state : HttpState) (body : Bytes) :
    Handler HttpError (HeaderMap × TokenResponse) := do
  let (mode, request, exchange) ← verifyExchange headers state body
  exchangeIn state mode request exchange

end StsDelegate
