import StsDelegate.Lib.Failing
import StsDelegate.Http.Refusals

/-!
# What a failing request is told

The response of a failed request, as the client sees it (`HttpError.intoResponse`), and what it
says. The gates of the three endpoints fail with a **rejection**: an OAuth error code with the
status that belongs to it. Only two things fail otherwise: a store that has no room, and the
signer. `failures_told_apart` is the result for every request of every run: a client is told
to come back later exactly when a store had no room for it, is told of a server error exactly
when the signer failed, and is told its own mistake in all other cases.
-/

namespace StsDelegate

open Text Fallible Effectful Prog

/-! ### The response -/

/-- A rendered response. -/
structure Response where
  status : Nat
  headers : HeaderMap
  body : Json

/-- `HeaderValue::from_str`: no control characters but tabs. -/
def HeaderValue.fromStr (value : String) : Option HeaderValue :=
  if (asBytes value).all fun b => b == 9 || (32 ≤ b && b != 127) then some (asBytes value) else none

/-- `IntoResponse` for `HttpError`. -/
def HttpError.intoResponse (err : HttpError) : Response :=
  let headers : HeaderMap :=
    [("content-type", asBytes "application/json"), ("x-content-type-options", asBytes "nosniff"),
      ("cache-control", asBytes "no-store"), ("pragma", asBytes "no-cache")]
  let headers :=
    match err.retryAfter with
    | some retryAfter => headers ++ [("retry-after", asBytes retryAfter)]
    | none => headers
  let headers :=
    match err.wwwAuthenticate.bind HeaderValue.fromStr with
    | some value => headers ++ [("www-authenticate", value)]
    | none => headers
  let body :=
    match err.error with
    | some error => [("error", Json.string error), ("error_description", .string err.description)]
    | none => [("error_description", .string err.description)]
  ⟨err.status, headers, .object body⟩

namespace Response

/-- The error code the body names. -/
def code (response : Response) : Option String :=
  (response.body.asObject.bind fun body => Json.get body "error").bind Json.asStr

end Response

namespace HttpError

@[simp] theorem intoResponse_status (err : HttpError) : err.intoResponse.status = err.status := rfl

@[simp] theorem intoResponse_code (err : HttpError) : err.intoResponse.code = err.error := by
  obtain ⟨status, error, description, retryAfter, challenge⟩ := err
  cases error <;> rfl

@[simp] theorem intoResponse_retryAfter (err : HttpError) :
    err.intoResponse.headers.get "retry-after" = err.retryAfter.map asBytes := by
  obtain ⟨status, error, description, retryAfter, challenge⟩ := err
  simp only [intoResponse, HeaderMap.get]
  cases retryAfter <;> cases challenge.bind HeaderValue.fromStr <;> rfl

end HttpError

/-! ### Rejections -/

/-- The codes a request can be rejected with. -/
def rejectionCodes : List String :=
  ["invalid_request", "invalid_client", "invalid_target", "invalid_scope", "invalid_grant",
    "unsupported_grant_type", "invalid_dpop_proof"]

/-- The client is told its own mistake: one of these codes with its status, and not to try the
same again. -/
structure Rejection (err : HttpError) : Prop where
  code : ∃ code ∈ rejectionCodes, err.error = some code ∧
    err.status = if code = "invalid_client" then 401 else 400
  retryAfter : err.retryAfter = none

theorem rejection_oauth {status : Nat} {code description : String} (hcode : code ∈ rejectionCodes)
    (hstatus : status = if code = "invalid_client" then 401 else 400) :
    Rejection (.oauth status code description) :=
  ⟨⟨code, hcode, rfl, hstatus⟩, rfl⟩

section

variable {description : String}

theorem rejection_invalidRequest : Rejection (.invalidRequest description) :=
  rejection_oauth (by decide) (by decide)

theorem rejection_invalidClient : Rejection (.invalidClient description) :=
  rejection_oauth (by decide) (by decide)

theorem rejection_unsupportedAuthorizationClientAuth {challenge : String} :
    Rejection (.unsupportedAuthorizationClientAuth description challenge) :=
  ⟨⟨"invalid_client", by decide, rfl, rfl⟩, rfl⟩

theorem rejection_invalidTarget : Rejection (.invalidTarget description) :=
  rejection_oauth (by decide) (by decide)

theorem rejection_invalidScope : Rejection (.invalidScope description) :=
  rejection_oauth (by decide) (by decide)

theorem rejection_invalidGrant : Rejection (.invalidGrant description) :=
  rejection_oauth (by decide) (by decide)

theorem rejection_unsupportedGrantType : Rejection (.unsupportedGrantType description) :=
  rejection_oauth (by decide) (by decide)

theorem rejection_invalidDpopProof : Rejection (.invalidDpopProof description) :=
  rejection_oauth (by decide) (by decide)

end

theorem rejection_mapCoreError (err : CoreError) : Rejection (mapCoreError err) := by
  unfold mapCoreError
  cases err.kind with
  | invalidRequest => exact rejection_invalidRequest
  | invalidClient => exact rejection_invalidClient
  | invalidTarget => exact rejection_invalidTarget
  | invalidScope => exact rejection_invalidScope

theorem rejection_mapSubjectVerifyError (err : VerifyError) :
    Rejection (mapSubjectVerifyError err) := by
  unfold mapSubjectVerifyError
  split
  all_goals first | exact rejection_invalidGrant | exact rejection_invalidRequest

/-! ### Forms -/

section Gates

variable [Crates] {state : HttpState} {headers : HeaderMap} {body : Bytes}

omit [Crates] in
theorem requireFormUrlencoded_errors : ErrorsOnly Rejection (requireFormUrlencoded headers) :=
  errorsOnly_rejectIf rejection_invalidRequest

omit [Crates] in
theorem rejectAuthorizationHeaderClientAuth_errors :
    ErrorsOnly Rejection (rejectAuthorizationHeaderClientAuth headers) := by
  unfold rejectAuthorizationHeaderClientAuth
  cases headers.get "authorization" with
  | none => exact errorsOnly_ok ()
  | some value => exact errorsOnly_error rejection_unsupportedAuthorizationClientAuth

theorem parseTokenPairs_errors (pairs : List (String × String)) (seen : OrdSet String)
    (form : TokenForm) : ErrorsOnly Rejection (parseTokenPairs pairs seen form) := by
  induction pairs generalizing seen form with
  | nil => exact errorsOnly_ok form
  | cons pair rest ih =>
      obtain ⟨key, value⟩ := pair
      rw [parseTokenPairs]
      cases TokenParam.ofKey key with
      | none => exact ih seen form
      | some param =>
          simp only
          split
          · split
            · exact errorsOnly_error rejection_invalidTarget
            · exact errorsOnly_error rejection_invalidRequest
          · exact ih _ _

theorem parseTokenForm_errors : ErrorsOnly Rejection (parseTokenForm headers body) :=
  errorsOnly_bind requireFormUrlencoded_errors fun _ =>
    errorsOnly_bind rejectAuthorizationHeaderClientAuth_errors fun _ => parseTokenPairs_errors _ _ _

theorem parseOnlinePairs_errors (pairs : List (String × String)) (seen : OrdSet String)
    (form : OnlineTokenForm) : ErrorsOnly Rejection (parseOnlinePairs pairs seen form) := by
  induction pairs generalizing seen form with
  | nil => exact errorsOnly_ok form
  | cons pair rest ih =>
      obtain ⟨key, value⟩ := pair
      rw [parseOnlinePairs]
      split
      · split
        · exact errorsOnly_error rejection_invalidRequest
        · exact ih _ _
      · exact ih _ _

theorem parseOnlineTokenForm_errors : ErrorsOnly Rejection (parseOnlineTokenForm headers body) :=
  errorsOnly_bind requireFormUrlencoded_errors fun _ =>
    errorsOnly_bind rejectAuthorizationHeaderClientAuth_errors fun _ => parseOnlinePairs_errors _ _ _

omit [Crates] in
theorem requiredOnlineToken_errors {form : OnlineTokenForm} {maxTokenLen : Nat} :
    ErrorsOnly Rejection (requiredOnlineToken form maxTokenLen) :=
  errorsOnly_bind (errorsOnly_okOr rejection_invalidRequest) fun _ =>
    errorsOnly_bind (errorsOnly_rejectIf rejection_invalidRequest) fun _ => errorsOnly_ok _

/-! ### Parameters -/

omit [Crates] in
theorem validateActorTokenParams_errors {request : ExchangeRequest} {maxTokenLen : Nat} :
    ErrorsOnly Rejection (validateActorTokenParams request maxTokenLen) := by
  unfold validateActorTokenParams
  cases request.actorToken with
  | none => exact errorsOnly_ok ()
  | some actorToken =>
      exact errorsOnly_bind (errorsOnly_rejectIf rejection_invalidRequest) fun _ =>
        errorsOnly_bind (errorsOnly_rejectIf rejection_invalidRequest) fun _ =>
          errorsOnly_rejectIf rejection_invalidRequest

omit [Crates] in
theorem checkFieldLengths_errors {maxTokenLen : Nat} (fields : List (String × Option String)) :
    ErrorsOnly Rejection (checkFieldLengths maxTokenLen fields) := by
  induction fields with
  | nil => exact errorsOnly_ok ()
  | cons field rest ih =>
      exact errorsOnly_bind (errorsOnly_rejectIf rejection_invalidRequest) fun _ => ih

omit [Crates] in
theorem checkNotBlank_errors (fields : List (String × Option String)) :
    ErrorsOnly Rejection (checkNotBlank fields) := by
  induction fields with
  | nil => exact errorsOnly_ok ()
  | cons field rest ih =>
      exact errorsOnly_bind (errorsOnly_rejectIf rejection_invalidClient) fun _ => ih

omit [Crates] in
theorem validateRequestParams_errors {request : ExchangeRequest} {maxTokenLen : Nat} :
    ErrorsOnly Rejection (validateRequestParams request maxTokenLen) := by
  have hinvalid : ∀ bad description,
      ErrorsOnly Rejection (rejectIf bad (.invalidRequest description)) :=
    fun bad description => errorsOnly_rejectIf rejection_invalidRequest
  refine errorsOnly_bind (hinvalid _ _) fun _ => ?_
  refine errorsOnly_bind (errorsOnly_rejectIf rejection_unsupportedGrantType) fun _ => ?_
  refine errorsOnly_bind (hinvalid _ _) fun _ => errorsOnly_bind (hinvalid _ _) fun _ => ?_
  refine errorsOnly_bind validateActorTokenParams_errors fun _ => ?_
  refine errorsOnly_bind (hinvalid _ _) fun _ => errorsOnly_bind (hinvalid _ _) fun _ => ?_
  refine errorsOnly_bind (hinvalid _ _) fun _ => errorsOnly_bind (hinvalid _ _) fun _ => ?_
  exact checkFieldLengths_errors _

/-! ### The gates -/

omit [Crates] in
theorem clientAssertionJti_errors {claims : AssertionClaims} :
    ErrorsOnly Rejection (clientAssertionJti claims) :=
  errorsOnly_okOr rejection_invalidClient

theorem authenticateClient_fails {request : ExchangeRequest} {endpoint : String} :
    FailsOnly Rejection (authenticateClient state request endpoint) := by
  refine failsOnly_bind (failsOnly_ofExcept (checkNotBlank_errors _)) fun _ => ?_
  refine failsOnly_bind (failsOnly_ofExcept (errorsOnly_rejectIf rejection_invalidClient)) fun _ => ?_
  refine failsOnly_bind (failsOnly_ofExcept (errorsOnly_okOr rejection_invalidClient)) fun _ => ?_
  refine failsOnly_bind (failsOnly_mapErr fun _ => rejection_invalidClient) fun _ => ?_
  refine failsOnly_bind (failsOnly_ofExcept (errorsOnly_rejectIf rejection_invalidClient)) fun _ => ?_
  refine failsOnly_bind (failsOnly_ofExcept (errorsOnly_rejectIf rejection_invalidClient)) fun _ => ?_
  exact failsOnly_bind (failsOnly_ofExcept clientAssertionJti_errors) fun _ => failsOnly_done _

theorem authenticateClientIfPresent_fails {request : ExchangeRequest}
    {mode : EffectiveExchangeMode} :
    FailsOnly Rejection (authenticateClientIfPresent state request mode) := by
  refine failsOnly_bind (failsOnly_ofExcept (errorsOnly_rejectIf rejection_invalidClient)) fun _ => ?_
  refine failsOnly_bind (failsOnly_ofExcept (errorsOnly_rejectIf rejection_invalidClient)) fun _ => ?_
  refine failsOnly_bind (failsOnly_ofExcept (errorsOnly_rejectIf rejection_invalidClient)) fun _ => ?_
  split
  · refine failsOnly_bind authenticateClient_fails fun _ => ?_
    exact failsOnly_bind (failsOnly_ofExcept (errorsOnly_rejectIf rejection_invalidRequest))
      fun _ => failsOnly_done _
  · exact failsOnly_done _

theorem validateDpopHeader_errors {now : Int64} :
    ErrorsOnly Rejection (validateDpopHeader headers state now) := by
  unfold validateDpopHeader
  split
  · exact errorsOnly_ok _
  · refine errorsOnly_bind (errorsOnly_okOr rejection_invalidDpopProof) fun _ => ?_
    exact errorsOnly_bind (errorsOnly_mapError fun _ => rejection_invalidDpopProof) fun _ =>
      errorsOnly_ok _
  · exact errorsOnly_error rejection_invalidDpopProof

theorem resolveTargetForRequest_errors {request : ExchangeRequest} :
    ErrorsOnly Rejection (resolveTargetForRequest request state) := by
  refine errorsOnly_bind (errorsOnly_rejectIf rejection_invalidRequest) fun _ => ?_
  refine errorsOnly_bind (errorsOnly_rejectIf rejection_invalidTarget) fun _ => ?_
  refine errorsOnly_bind (errorsOnly_mapError rejection_mapCoreError) fun _ => ?_
  exact errorsOnly_bind (errorsOnly_rejectIf rejection_invalidTarget) fun _ => errorsOnly_ok _

omit [Crates] in
theorem scpTokens_errors (values : List Json) : ErrorsOnly Rejection (scpTokens values) := by
  induction values with
  | nil => exact errorsOnly_ok _
  | cons value rest ih =>
      refine errorsOnly_bind (errorsOnly_okOr rejection_invalidRequest) fun _ => ?_
      exact errorsOnly_bind ih fun _ => errorsOnly_ok _

omit [Crates] in
theorem subjectScopeTokens_errors {claims : SubjectTokenClaims} :
    ErrorsOnly Rejection (subjectScopeTokens claims) := by
  unfold subjectScopeTokens
  dsimp only
  split
  · exact errorsOnly_ok _
  · exact errorsOnly_ok _
  · exact errorsOnly_ok _
  · exact errorsOnly_bind (scpTokens_errors _) fun _ => errorsOnly_ok _
  · exact errorsOnly_error rejection_invalidRequest

theorem resolveScopeForRequest_errors {request : ExchangeRequest} {claims : SubjectTokenClaims}
    {target : String} :
    ErrorsOnly Rejection (resolveScopeForRequest request state claims target) := by
  refine errorsOnly_bind (errorsOnly_okOr rejection_invalidTarget) fun _ => ?_
  refine errorsOnly_bind (errorsOnly_bind subjectScopeTokens_errors fun _ => errorsOnly_ok _)
    fun _ => ?_
  exact errorsOnly_mapError rejection_mapCoreError

theorem verifyExchange_fails : FailsOnly Rejection (verifyExchange headers state body) := by
  refine failsOnly_bind (failsOnly_ofExcept parseTokenForm_errors) fun _ => ?_
  refine failsOnly_bind (failsOnly_ofExcept validateRequestParams_errors) fun _ => ?_
  refine failsOnly_bind authenticateClientIfPresent_fails fun _ => ?_
  refine failsOnly_bind (failsOnly_perform _) fun _ => ?_
  refine failsOnly_bind (failsOnly_ofExcept validateDpopHeader_errors) fun _ => ?_
  refine failsOnly_bind (failsOnly_mapErr rejection_mapSubjectVerifyError) fun _ => ?_
  refine failsOnly_bind (failsOnly_ofExcept resolveTargetForRequest_errors) fun _ => ?_
  refine failsOnly_bind (failsOnly_ofExcept resolveScopeForRequest_errors) fun _ => ?_
  exact failsOnly_bind (failsOnly_ofExcept (errorsOnly_okOr rejection_invalidGrant)) fun _ =>
    failsOnly_done _

theorem validateActorIdentity_errors {claims : AssertionClaims} :
    ErrorsOnly Rejection (validateActorIdentity state claims) :=
  errorsOnly_bind (errorsOnly_rejectIf rejection_invalidClient) fun _ =>
    errorsOnly_rejectIf rejection_invalidClient

omit [Crates] in
theorem gateMayAct_errors {subjectClaims : SubjectTokenClaims} {actorClaims : AssertionClaims} :
    ErrorsOnly Rejection (gateMayAct subjectClaims actorClaims) := by
  unfold gateMayAct
  cases subjectClaims.mayAct with
  | none => exact errorsOnly_ok ()
  | some mayAct =>
      refine errorsOnly_bind (errorsOnly_okOr rejection_invalidRequest) fun _ => ?_
      refine errorsOnly_bind (errorsOnly_rejectIf rejection_invalidRequest) fun _ => ?_
      exact errorsOnly_bind (errorsOnly_rejectIf rejection_invalidRequest) fun _ =>
        errorsOnly_rejectIf rejection_invalidRequest

theorem signingDecisionForTarget_errors {target : String} :
    ErrorsOnly Rejection (signingDecisionForTarget state target) := by
  have hinvalid : ∀ bad description,
      ErrorsOnly Rejection (rejectIf bad (.invalidTarget description)) :=
    fun bad description => errorsOnly_rejectIf rejection_invalidTarget
  refine errorsOnly_bind (errorsOnly_okOr rejection_invalidTarget) fun _ => ?_
  refine errorsOnly_bind (hinvalid _ _) fun _ => errorsOnly_bind (hinvalid _ _) fun _ => ?_
  refine errorsOnly_bind (hinvalid _ _) fun _ => errorsOnly_bind (hinvalid _ _) fun _ => ?_
  exact errorsOnly_ok _

omit [Crates] in
theorem actClaimFromValueAtDepth_errors (levels : Nat) (value : Json) :
    ErrorsOnly Rejection (actClaimFromValueAtDepth levels value) := by
  induction levels generalizing value with
  | zero => exact errorsOnly_error rejection_invalidRequest
  | succ levels ih =>
      refine errorsOnly_bind (errorsOnly_okOr rejection_invalidRequest) fun obj => ?_
      refine errorsOnly_bind (errorsOnly_okOr rejection_invalidRequest) fun sub => ?_
      dsimp only
      split
      · exact errorsOnly_bind (ih _) fun _ => errorsOnly_ok _
      · exact errorsOnly_ok _

omit [Crates] in
theorem priorActOf_errors {claims : SubjectTokenClaims} :
    ErrorsOnly Rejection (priorActOf claims) := by
  unfold priorActOf
  cases claims.act with
  | none => exact errorsOnly_ok _
  | some value =>
      exact errorsOnly_bind (actClaimFromValueAtDepth_errors _ _) fun _ => errorsOnly_ok _

theorem delegationGates_fails {request : ExchangeRequest} {exchange : VerifiedExchange} :
    FailsOnly Rejection (delegationGates state request exchange) := by
  have hactor : Rejection (if exchange.clientClaims.isSome then
      HttpError.invalidRequest "actor_token required for delegation"
    else
      HttpError.invalidClient
        "no client authentication: send a client_assertion or an actor_token") := by
    split
    · exact rejection_invalidRequest
    · exact rejection_invalidClient
  refine failsOnly_bind (failsOnly_ofExcept (errorsOnly_okOr hactor)) fun _ => ?_
  refine failsOnly_bind (failsOnly_mapErr fun _ => rejection_invalidClient) fun _ => ?_
  refine failsOnly_bind (failsOnly_ofExcept validateActorIdentity_errors) fun _ => ?_
  refine failsOnly_bind (failsOnly_ofExcept gateMayAct_errors) fun _ => ?_
  refine failsOnly_bind (failsOnly_ofExcept signingDecisionForTarget_errors) fun _ => ?_
  refine failsOnly_bind (failsOnly_perform _) fun _ => ?_
  refine failsOnly_bind (failsOnly_ofExcept priorActOf_errors) fun _ => ?_
  exact failsOnly_bind (failsOnly_ofExcept (errorsOnly_okOr rejection_invalidClient)) fun _ =>
    failsOnly_done _

theorem impersonationGates_fails {request : ExchangeRequest} {exchange : VerifiedExchange} :
    FailsOnly Rejection (impersonationGates state request exchange) := by
  refine failsOnly_bind (failsOnly_ofExcept (errorsOnly_rejectIf rejection_invalidClient)) fun _ => ?_
  refine failsOnly_bind (failsOnly_ofExcept (errorsOnly_okOr rejection_invalidClient)) fun _ => ?_
  refine failsOnly_bind (failsOnly_ofExcept (errorsOnly_okOr rejection_invalidRequest)) fun _ => ?_
  refine failsOnly_bind (failsOnly_ofExcept (errorsOnly_rejectIf rejection_invalidTarget)) fun _ => ?_
  refine failsOnly_bind (failsOnly_ofExcept (errorsOnly_rejectIf rejection_invalidRequest)) fun _ => ?_
  refine failsOnly_bind (failsOnly_ofExcept signingDecisionForTarget_errors) fun _ => ?_
  exact failsOnly_bind (failsOnly_perform _) fun _ => failsOnly_done _

/-- A token request that fails at a gate is rejected. -/
theorem planExchange_fails : FailsOnly Rejection (planExchange headers state body) := by
  refine failsOnly_bind verifyExchange_fails fun out => ?_
  obtain ⟨mode, request, exchange⟩ := out
  cases mode with
  | delegation => exact failsOnly_bind delegationGates_fails fun _ => failsOnly_done _
  | impersonation => exact failsOnly_bind impersonationGates_fails fun _ => failsOnly_done _

/-- An online request that fails at a gate is rejected. -/
theorem verifyOnline_fails {endpoint : String} :
    FailsOnly Rejection (verifyOnline headers state body endpoint) := by
  refine failsOnly_bind (failsOnly_ofExcept parseOnlineTokenForm_errors) fun _ => ?_
  refine failsOnly_bind (failsOnly_ofExcept requiredOnlineToken_errors) fun _ => ?_
  refine failsOnly_bind (failsOnly_bind (failsOnly_ofExcept ?_) fun _ => authenticateClient_fails)
    fun _ => failsOnly_done _
  exact errorsOnly_rejectIf rejection_invalidClient

/-! ### What else can fail -/

/-- A store that had no room. -/
def OutOfRoom : Ev → Prop
  | ⟨.checkAndRecord _ _ _, .error err⟩ => err.kind = .storeFull
  | ⟨.revoke _ _ _ _, .error _⟩ => True
  | _ => False

/-- A signature that failed. -/
def SigningFailed : Ev → Prop
  | ⟨.signClaims _, .error _⟩ => True
  | _ => False

/-- Neither of the two happened. -/
def Untroubled (t : List Ev) : Prop := ∀ ev ∈ t, ¬ OutOfRoom ev ∧ ¬ SigningFailed ev

/-- How a request came to fail. -/
inductive FailedWith (t : List Ev) (err : HttpError) : Prop
  | rejected (h : Rejection err) (ht : Untroubled t)
  | outOfRoom (ev : Ev) (hev : ev ∈ t) (hroom : OutOfRoom ev) (ht : ∀ ev ∈ t, ¬ SigningFailed ev)
      (description : String) (herr : err = .serviceUnavailable description)
  | signing (ev : Ev) (hev : ev ∈ t) (hsigning : SigningFailed ev) (ht : ∀ ev ∈ t, ¬ OutOfRoom ev)
      (herr : err = .serverError "internal error")

omit [Crates] in
theorem untroubled_of_readsClock {t : List Ev} (h : ∀ ev ∈ t, ReadsClock ev.1) : Untroubled t := by
  intro ev hev
  have hclock := h ev hev
  obtain ⟨c, answer⟩ := ev
  rw [ReadsClock] at hclock
  subst hclock
  exact ⟨id, id⟩

omit [Crates] in
theorem Untroubled.append {t t' : List Ev} (ht : Untroubled t) (ht' : Untroubled t') :
    Untroubled (t ++ t') := by
  intro ev hev
  rcases List.mem_append.mp hev with hev | hev
  · exact ht ev hev
  · exact ht' ev hev

omit [Crates] in
/-- What was done before a failure does not change it. -/
theorem FailedWith.after {t t' : List Ev} {err : HttpError} (h : FailedWith t' err)
    (ht : Untroubled t) : FailedWith (t ++ t') err := by
  cases h with
  | rejected hrejection ht' => exact .rejected hrejection (ht.append ht')
  | outOfRoom ev hev hroom ht' description herr =>
      refine .outOfRoom ev (List.mem_append_right _ hev) hroom (fun ev' hev' => ?_) description herr
      rcases List.mem_append.mp hev' with hev' | hev'
      · exact (ht ev' hev').2
      · exact ht' ev' hev'
  | signing ev hev hsigning ht' herr =>
      refine .signing ev (List.mem_append_right _ hev) hsigning (fun ev' hev' => ?_) herr
      rcases List.mem_append.mp hev' with hev' | hev'
      · exact (ht ev' hev').1
      · exact ht' ev' hev'

/-- A store without room is told apart from every other refusal of the replay store. -/
def Refuses (refusal : ReplayError → HttpError) : Prop :=
  ∀ err, (err.kind = .storeFull ∧ ∃ description, refusal err = .serviceUnavailable description) ∨
    (err.kind ≠ .storeFull ∧ Rejection (refusal err))

omit [Crates] in
theorem refuses_mapReplayError : Refuses mapReplayError := by
  intro err
  obtain ⟨kind, message⟩ := err
  cases kind with
  | invalidRequest => exact Or.inr ⟨by simp, rejection_invalidRequest⟩
  | replayDetected => exact Or.inr ⟨by simp, rejection_invalidRequest⟩
  | storeFull => exact Or.inl ⟨rfl, message, rfl⟩

omit [Crates] in
theorem refuses_mapClientAssertionReplayError : Refuses mapClientAssertionReplayError := by
  intro err
  obtain ⟨kind, message⟩ := err
  cases kind with
  | invalidRequest => exact Or.inr ⟨by simp, rejection_invalidClient⟩
  | replayDetected => exact Or.inr ⟨by simp, rejection_invalidClient⟩
  | storeFull => exact Or.inl ⟨rfl, message, rfl⟩

omit [Crates] in
theorem refuses_mapDpopReplayError : Refuses mapDpopReplayError := by
  intro err
  obtain ⟨kind, message⟩ := err
  cases kind with
  | invalidRequest => exact Or.inr ⟨by simp, rejection_invalidDpopProof⟩
  | replayDetected => exact Or.inr ⟨by simp, rejection_invalidDpopProof⟩
  | storeFull => exact Or.inl ⟨rfl, message, rfl⟩

theorem Planned.refuses {t : List Ev} {mode : EffectiveExchangeMode} {request : ExchangeRequest}
    {plan : Plan} (h : Planned headers state body t mode request plan) {credential : Credential}
    (hmem : credential ∈ plan.credentials) : Refuses credential.refusal := by
  rcases h.granted with ⟨-, grant, -, hplan⟩ | ⟨-, grant, -, hplan⟩
  · rw [hplan] at hmem
    simp only [delegationPlan, List.mem_cons, List.mem_append, List.mem_map] at hmem
    rcases hmem with rfl | ⟨claims, -, rfl⟩ | ⟨binding, -, rfl⟩
    · exact refuses_mapReplayError
    · exact refuses_mapClientAssertionReplayError
    · exact refuses_mapDpopReplayError
  · rw [hplan] at hmem
    simp only [impersonationPlan, List.mem_cons, List.mem_map] at hmem
    rcases hmem with rfl | ⟨binding, -, rfl⟩
    · exact refuses_mapClientAssertionReplayError
    · exact refuses_mapDpopReplayError

omit [Crates] in
/-- A recording that fails. -/
theorem failedWith_record {key : String} {exp now : Int64} {refusal : ReplayError → HttpError}
    (hrefuses : Refuses refusal) (err : ReplayError) :
    FailedWith [recordIs key exp now (.error err)] (refusal err) := by
  rcases hrefuses err with ⟨hkind, description, herr⟩ | ⟨hkind, hrejection⟩
  · refine .outOfRoom _ (List.mem_singleton.mpr rfl) hkind (fun ev hev => ?_) description herr
    rw [List.mem_singleton.mp hev]
    exact id
  · refine .rejected hrejection fun ev hev => ?_
    rw [List.mem_singleton.mp hev]
    exact ⟨hkind, id⟩

omit [Crates] in
theorem untroubled_recorded {now : Int64} (credentials : List Credential) :
    Untroubled (credentials.map fun c => recordIs c.key c.exp now (.ok ())) := by
  intro ev hev
  obtain ⟨credential, -, rfl⟩ := List.mem_map.mp hev
  exact ⟨id, id⟩

/-- Issuing a token fails only at the signer, whose error is not passed on. -/
theorem failedWith_issueToken {t : List Ev} {err : HttpError} {exchange : VerifiedExchange}
    {signingDecision : SigningDecision} {now assertionExp : Int64} {clientId : String}
    {act : Option ActClaim}
    (h : Fails (issueToken state exchange signingDecision now assertionExp clientId act) t err) :
    FailedWith t err := by
  unfold issueToken at h
  rw [fails_bind] at h
  rcases h with h | ⟨jti, t₁, t₂, rfl, hjti, h⟩
  · exact absurd h fails_perform
  · rw [fails_bind] at h
    rcases h with h | ⟨_, t₃, t₄, -, -, h⟩
    · obtain ⟨failure, rfl, rfl⟩ := fails_signClaims.mp h
      rw [returns_newJti.mp hjti]
      refine .signing _ (List.mem_append_right _ (List.mem_singleton.mpr rfl)) trivial
        (fun ev hev => ?_) rfl
      rcases List.mem_append.mp hev with hev | hev
      · rw [List.mem_singleton.mp hev]
        exact id
      · rw [List.mem_singleton.mp hev]
        exact id
    · exact absurd h fails_done

/-- How a token request fails. -/
theorem failedWith_tokenInner {t : List Ev} {err : HttpError}
    (h : Fails (tokenInner headers state body) t err) : FailedWith t err := by
  rw [tokenInner_eq, fails_bind] at h
  rcases h with h | ⟨plan, t₁, t₂, rfl, hplan, h⟩
  · exact .rejected (planExchange_fails t err h)
      (untroubled_of_readsClock (only_planExchange.of_mem h))
  · obtain ⟨mode, request, hplanned⟩ := returns_planExchange hplan
    refine FailedWith.after ?_ (untroubled_of_readsClock (only_planExchange.of_mem hplan))
    rw [commit, fails_bind] at h
    rcases h with h | ⟨_, t₃, t₄, rfl, hrecorded, h⟩
    · obtain ⟨before, credential, later, failure, hcredentials, rfl, rfl⟩ := fails_recordAll h
      have hmem : credential ∈ plan.credentials := by
        rw [hcredentials]
        exact List.mem_append_right _ (List.mem_cons_self ..)
      exact (failedWith_record (hplanned.refuses hmem) failure).after (untroubled_recorded before)
    · rw [returns_recordAll.mp hrecorded]
      exact (failedWith_issueToken h).after (untroubled_recorded plan.credentials)

/-- How the part that both online endpoints share fails. -/
theorem failedWith_recordOnline {t : List Ev} {err : HttpError} {endpoint : String}
    (h : Fails (recordOnline headers state body endpoint) t err) : FailedWith t err := by
  rw [recordOnline, fails_bind] at h
  rcases h with h | ⟨⟨token, claims⟩, t₁, t₂, rfl, hverify, h⟩
  · exact .rejected (verifyOnline_fails t err h)
      (untroubled_of_readsClock (only_verifyOnline.of_mem h))
  · refine FailedWith.after ?_ (untroubled_of_readsClock (only_verifyOnline.of_mem hverify))
    rw [fails_unixNow_bind] at h
    obtain ⟨now, t₃, rfl, h⟩ := h
    have hclock : Untroubled [nowIs now] := by
      intro ev hev
      rw [List.mem_singleton.mp hev]
      exact ⟨id, id⟩
    refine FailedWith.after (t := [nowIs now]) ?_ hclock
    rw [fails_bind] at h
    rcases h with h | ⟨_, t₄, t₅, rfl, -, h⟩
    · rw [recordClientAssertionReplay, liftM_eq, fails_ofExcept_bind] at h
      rcases h with ⟨rfl, h⟩ | ⟨jti, -, h⟩
      · exact .rejected (clientAssertionJti_errors err h) fun ev hev => absurd hev List.not_mem_nil
      · obtain ⟨failure, rfl, rfl⟩ := fails_checkAndRecord.mp h
        exact failedWith_record refuses_mapClientAssertionReplayError failure
    · rw [fails_unixNow_bind] at h
      obtain ⟨now', t₆, -, h⟩ := h
      exact absurd h fails_done

theorem untroubled_recordOnline {t : List Ev} {endpoint token : String} {claims : AssertionClaims}
    {now : Int64} (h : Returns (recordOnline headers state body endpoint) t (token, claims, now)) :
    Untroubled t := by
  obtain ⟨t₁, recordNow, rfl, hclock, -⟩ := returns_recordOnline h
  refine (untroubled_of_readsClock hclock).append fun ev hev => ?_
  simp only [List.mem_cons, List.not_mem_nil, or_false] at hev
  rcases hev with rfl | rfl | rfl
  · exact ⟨id, id⟩
  · exact ⟨id, id⟩
  · exact ⟨id, id⟩

/-- Looking a token up does not fail. -/
theorem introspectionResponseForToken_total {t : List Ev} {token : String} {now : Int64}
    {err : HttpError} : ¬ Fails (introspectionResponseForToken state token now) t err := by
  have hverified : FailsOnly (fun _ => False) (verifiedStsAccessToken state token now true) := by
    unfold verifiedStsAccessToken
    split
    · exact failsOnly_done _
    · exact failsOnly_bind (failsOnly_perform _) fun _ => failsOnly_done _
  exact fun h => failsOnly_bind hverified (fun _ => failsOnly_done _) t err h

/-- The answers of a revocation list: that there is no place. -/
def ListAnswers (t : List Ev) : Prop :=
  ∀ token exp now maxSeen err, revokeIs token exp now maxSeen (.error err) ∈ t →
    ∃ description, err = .serviceUnavailable description

/-- How entering a token fails. -/
theorem failedWith_revokeIfActive {t : List Ev} {token : String} {claims : Option MintedClaims}
    {err : HttpError} (hanswers : ListAnswers t) (h : Fails (revokeIfActive state token claims) t err) :
    FailedWith t err := by
  cases claims with
  | none => exact absurd h fails_done
  | some tokenClaims =>
      rw [revokeIfActive, fails_unixNow_bind] at h
      obtain ⟨now, t', rfl, h⟩ := h
      rw [revokeToken, fails_perform_bind] at h
      obtain ⟨answer, rfl, rfl⟩ := h
      have hmem := List.mem_cons_of_mem (nowIs now) (List.mem_singleton.mpr
        (rfl : revokeIs token tokenClaims.exp now state.config.maxSeenJti (.error err) = _))
      obtain ⟨description, herr⟩ := hanswers _ _ _ _ _ hmem
      refine .outOfRoom _ hmem trivial (fun ev hev => ?_) description herr
      rcases List.mem_cons.mp hev with rfl | hev
      · exact id
      · rw [List.mem_singleton.mp hev]
        exact id

/-- **How a request fails.** -/
theorem failedWith_handle {request : Request} {t : List Ev} {err : HttpError}
    (hanswers : ListAnswers t) (h : Fails (handle state request) t err) : FailedWith t err := by
  unfold handle at h
  split at h
  · rw [fails_bind] at h
    rcases h with h | ⟨_, t₁, t₂, -, -, h⟩
    · exact failedWith_tokenInner h
    · exact absurd h fails_done
  · rw [introspect_eq, bind_assoc, fails_bind] at h
    rcases h with h | ⟨out, t₁, t₂, rfl, -, h⟩
    · exact failedWith_recordOnline h
    · rw [bind_assoc, fails_bind] at h
      rcases h with h | ⟨_, t₃, t₄, -, -, h⟩
      · exact absurd h introspectionResponseForToken_total
      · exact absurd h fails_done
  · rw [revoke_eq, bind_assoc, fails_bind] at h
    rcases h with h | ⟨⟨token, claims, now⟩, t₁, t₂, rfl, hrecord, h⟩
    · exact failedWith_recordOnline h
    · simp only [verifiedStsAccessToken_unchecked, pure_bind, bind_assoc] at h
      rw [fails_bind] at h
      rcases h with h | ⟨_, t₃, t₄, -, -, h⟩
      · refine (failedWith_revokeIfActive (fun token exp now maxSeen failure hmem => ?_) h).after
          (untroubled_recordOnline hrecord)
        exact hanswers token exp now maxSeen failure (List.mem_append_right _ hmem)
      · exact absurd h fails_done

/-! ### Whole runs -/

/-- The store has no room for what the request brought, and that is because of others. -/
def NoRoom (state : HttpState) (before : List (Nat × Ev)) : Ev → Prop
  | ⟨.checkAndRecord key _ now, .error err⟩ =>
      err.kind = .storeFull ∧ StoreFullFor state before now key
  | ⟨.revoke token _ now _, .error _⟩ => ListFullFor state before now token
  | _ => False

/-- What the client of a failed request learns from the response. -/
structure ToldApart (state : HttpState) (w : ServerPool) (i : Nat) (response : Response) :
    Prop where
  /-- To come back later, exactly when a store was full of the credentials of others. -/
  unavailable : response.status = 503 ↔
    ∃ before ev after, w.log = before ++ (i, ev) :: after ∧ NoRoom state before ev
  /-- That the server failed, exactly when the signer did. -/
  serverError : response.status = 500 ↔ ∃ ev, (i, ev) ∈ w.log ∧ SigningFailed ev
  /-- Its own mistake, in all other cases. -/
  rejected : response.status ≠ 503 → response.status ≠ 500 → ∃ code ∈ rejectionCodes,
    response.code = some code ∧ response.status = if code = "invalid_client" then 401 else 400
  /-- When to come back, exactly when it makes sense to. -/
  retryAfter : response.headers.get "retry-after" =
    if response.status = 503 then some (asBytes "2") else none

/-- The answers of the server's own list. -/
theorem listAnswers_run {moves : List (Move Request Tick)} {w : ServerPool}
    (hrun : ServerPool.run state moves = some w) (i : Nat) :
    ListAnswers (Pool.traceOf i w.log) := by
  intro token exp now maxSeen err hmem
  obtain ⟨tick, stores, hanswer⟩ := Pool.answered_exec hrun (Pool.mem_traceOf.mp hmem)
  rw [machine_revoke, Revoked.revoke] at hanswer
  split at hanswer
  · cases hanswer
    exact ⟨_, rfl⟩
  · cases hanswer

theorem NoRoom.outOfRoom {before : List (Nat × Ev)} {ev : Ev} (h : NoRoom state before ev) :
    OutOfRoom ev := by
  unfold NoRoom at h
  split at h
  · exact h.1
  · trivial
  · exact h.elim

theorem OutOfRoom.noRoom {before : List (Nat × Ev)} {i : Nat} {ev : Ev} (h : OutOfRoom ev)
    (hreason : Reason state before (i, ev)) : NoRoom state before ev := by
  unfold OutOfRoom at h
  split at h
  · rcases hreason with ⟨hreplayed, -⟩ | hfull
    · rw [h] at hreplayed
      cases hreplayed
    · exact hfull
  · exact hreason
  · exact h.elim

omit [Crates] in
theorem Rejection.status {err : HttpError} (h : Rejection err) :
    err.status = 400 ∨ err.status = 401 := by
  obtain ⟨code, -, -, hstatus⟩ := h.code
  split at hstatus
  · exact Or.inr hstatus
  · exact Or.inl hstatus

/-- **Failures are told apart.** Whenever a request of a run has failed, its response says
whose fault it was: 503 with `Retry-After` exactly when a store had no room for what the request
brought, and then the store was full of the unexpired credentials or tokens of others; 500
exactly when the signer failed; and an OAuth error code with its status otherwise. -/
theorem failures_told_apart {moves : List (Move Request Tick)} {w : ServerPool} {i : Nat}
    {request : Request} {err : HttpError} (hrun : ServerPool.run state moves = some w)
    (hi : w.threads[i]? = some (request, .fail err)) : ToldApart state w i err.intoResponse := by
  have hexplained := explained_run hrun
  have hfailed : FailedWith (Pool.traceOf i w.log) err :=
    failedWith_handle (listAnswers_run hrun i) (hexplained.threaded.steps i request _ hi)
  cases hfailed with
  | rejected hrejection huntroubled =>
      have hstatus := hrejection.status
      refine ⟨⟨fun h => ?_, ?_⟩, ⟨fun h => ?_, ?_⟩, fun _ _ => ?_, ?_⟩
      · rw [HttpError.intoResponse_status] at h
        omega
      · rintro ⟨before, ev, after, hlog, hroom⟩
        have hmem : (i, ev) ∈ w.log := by
          rw [hlog]
          exact List.mem_append_right _ (List.mem_cons_self ..)
        exact absurd hroom.outOfRoom (huntroubled ev (Pool.mem_traceOf.mpr hmem)).1
      · rw [HttpError.intoResponse_status] at h
        omega
      · rintro ⟨ev, hmem, hsigning⟩
        exact absurd hsigning (huntroubled ev (Pool.mem_traceOf.mpr hmem)).2
      · simpa using hrejection.code
      · have hother : ¬ err.intoResponse.status = 503 := by
          rw [HttpError.intoResponse_status]
          omega
        rw [if_neg hother, HttpError.intoResponse_retryAfter, hrejection.retryAfter]
        rfl
  | outOfRoom ev hev hroom hunsigned description herr =>
      subst herr
      have hmem := Pool.mem_traceOf.mp hev
      refine ⟨⟨fun _ => ?_, fun _ => rfl⟩, ⟨fun h => ?_, ?_⟩, fun h _ => absurd rfl h, rfl⟩
      · obtain ⟨before, after, hlog⟩ := List.append_of_mem hmem
        exact ⟨before, ev, after, hlog, hroom.noRoom (hexplained.reasons before _ after hlog)⟩
      · cases h
      · rintro ⟨ev', hmem', hsigning⟩
        exact absurd hsigning (hunsigned ev' (Pool.mem_traceOf.mpr hmem'))
  | signing ev hev hsigning hroomy herr =>
      subst herr
      refine ⟨⟨fun h => ?_, ?_⟩, ⟨fun _ => ⟨ev, Pool.mem_traceOf.mp hev, hsigning⟩, fun _ => rfl⟩,
        fun _ h => absurd rfl h, rfl⟩
      · cases h
      · rintro ⟨before, ev', after, hlog, hroom⟩
        have hmem : (i, ev') ∈ w.log := by
          rw [hlog]
          exact List.mem_append_right _ (List.mem_cons_self ..)
        exact absurd hroom.outOfRoom (hroomy ev' (Pool.mem_traceOf.mpr hmem))

end Gates

section

open Sample

/-- The delegation whose proof finds no room is told to come back, and the store was full of two
other credentials. -/
theorem sample_failures_told_apart :
    ∃ moves w err, ServerPool.run twoServer moves = some w ∧
      w.threads[1]? = some (delegationRequest proofHeaders actor1, .fail err) ∧
      ToldApart twoServer w 1 err.intoResponse ∧ err.intoResponse.status = 503 := by
  obtain ⟨moves, hrun⟩ := run_sequential twoServer
    [(introspectRequest "x" client1, clock 90 (by decide)),
      (delegationRequest proofHeaders actor1, clock 90 (by decide))]
  rw [Pool.initial, ← burnStores₀, sequential_cons serve_burn₀,
    sequential_cons serve_burn₁] at hrun
  exact ⟨moves, _, _, hrun, rfl, failures_told_apart hrun rfl, rfl⟩

end

end StsDelegate
