import StsDelegate.Http.Online

/-!
# What the gates establish

For every gate of a request, what its passing means. The gates of `/token` are
gathered in `ExchangeVerified`, `DelegationGranted` and `ImpersonationGranted`,
those of the online endpoints in `ClientAuthenticated`; and no gate makes any call
but reading the clock.
-/

namespace StsDelegate

open Text Fallible Effectful Prog

variable [Crates] {state : HttpState} {request : ExchangeRequest} {t : List Ev}

/-! ### Client authentication -/

/-- What an authenticated client has shown. -/
structure ClientAuthenticated (state : HttpState) (request : ExchangeRequest) (endpoint : String)
    (t : List Ev) (claims : AssertionClaims) : Prop where
  accepted : ∃ assertion, request.clientAssertion = some assertion ∧
    AssertionAccepted assertion state.clientJwks state.config.inboundAssertionAlgs
      (clientAssertionOptions state endpoint) t claims
  assertionType : request.clientAssertionType = some CLIENT_ASSERTION_TYPE
  member : claims.sub ∈ state.config.clientIds
  clientId : ∀ clientId, request.clientId = some clientId → clientId = claims.sub
  jti : clientAssertionJti claims = .ok (trim (claims.jti.getD ""))

theorem ClientAuthenticated.mono {endpoint : String} {t' : List Ev} {claims : AssertionClaims}
    (h : ClientAuthenticated state request endpoint t claims) (hsub : t ⊆ t') :
    ClientAuthenticated state request endpoint t' claims := by
  obtain ⟨assertion, hassertion, haccepted⟩ := h.accepted
  exact { h with accepted := ⟨assertion, hassertion, haccepted.mono hsub⟩ }

omit [Crates] in
theorem clientAssertionJti_eq_ok {claims : AssertionClaims} {jti : String}
    (h : clientAssertionJti claims = .ok jti) : jti = trim (claims.jti.getD "") := by
  rw [clientAssertionJti, okOr_eq_ok] at h
  cases hjti : claims.jti with
  | none => simp [hjti] at h
  | some value =>
      rw [hjti, Option.map_some, Option.filter_eq_some_iff] at h
      rw [Option.getD_some]
      exact (Option.some.inj h.1).symm

theorem returns_authenticateClient {endpoint : String} {claims : AssertionClaims}
    (h : Returns (authenticateClient state request endpoint) t claims) :
    ClientAuthenticated state request endpoint t claims := by
  simp only [authenticateClient, liftM_eq, returns_ofExcept_bind, okOr_eq_ok] at h
  obtain ⟨_, -, _, htype, assertion, hassertion, h⟩ := h
  rw [returns_bind] at h
  obtain ⟨claims', t₁, t₂, rfl, hverify, h⟩ := h
  simp only [returns_ofExcept_bind, rejectIf_eq_ok, pure_eq, returns_done] at h
  obtain ⟨-, hmember, -, hclientId, jti, hjti, rfl, rfl⟩ := h
  have haccepted := returns_verifyAssertionWithAllowedAlgs (returns_mapErr.mp hverify)
  refine ⟨⟨assertion, hassertion, haccepted.mono (List.subset_append_left _ _)⟩, ?_, ?_, ?_, ?_⟩
  · simpa [validateClientAssertionType] using htype
  · simpa using hmember
  · intro clientId hid
    simpa [hid] using hclientId
  · rw [hjti, clientAssertionJti_eq_ok hjti]

/-- Without client parameters nobody is authenticated; with any of them somebody
is. Impersonation needs a client and excludes an actor. -/
theorem returns_authenticateClientIfPresent {mode : EffectiveExchangeMode}
    {client : Option AssertionClaims}
    (h : Returns (authenticateClientIfPresent state request mode) t client) :
    (mode = .impersonation → request.actorToken = none ∧ hasClientAuth request = true) ∧
    ((hasClientAuth request = false ∧ client = none) ∨
      ∃ claims, hasClientAuth request = true ∧ client = some claims ∧
        ClientAuthenticated state request state.tokenEndpoint t claims) := by
  simp only [authenticateClientIfPresent, liftM_eq, returns_ofExcept_bind, rejectIf_eq_ok] at h
  obtain ⟨-, hactor, -, hneeded, -, -, h⟩ := h
  refine ⟨?_, ?_⟩
  · rintro rfl
    refine ⟨?_, ?_⟩
    · simpa using hactor
    · simpa using hneeded
  · by_cases hauth : hasClientAuth request = true
    · rw [if_pos hauth] at h
      rw [returns_bind] at h
      obtain ⟨claims, t₁, t₂, rfl, hclient, h⟩ := h
      simp only [returns_ofExcept_bind, pure_eq, returns_done] at h
      obtain ⟨-, -, rfl, rfl⟩ := h
      have hclient := returns_authenticateClient hclient
      exact Or.inr ⟨claims, hauth, rfl, hclient.mono (List.subset_append_left _ _)⟩
    · rw [if_neg hauth, pure_eq, returns_done] at h
      exact Or.inl ⟨by simpa using hauth, h.2.symm⟩

/-- With a single `DPoP` field, the field's proof is validated. -/
theorem validateDpopHeader_single {headers : HeaderMap} {field : HeaderValue} {proof : String}
    (hall : headers.getAll "dpop" = [field]) (hstr : field.toStr = some proof) (now : Int64) :
    validateDpopHeader headers state now =
      ((validateDpopProof ⟨proof, "POST", state.tokenEndpoint, now,
        state.config.clockSkewLeeway⟩).mapError fun err => .invalidDpopProof err.message) >>=
          fun binding => pure (some binding) := by
  simp only [validateDpopHeader, hall, hstr, okOr_some, ok_bind]

/-- What a sent proof says does not depend on when it is looked at, and how long
it is remembered depends on its `iat` only. -/
theorem validateDpopHeader_ok {headers : HeaderMap} {now : Int64} {binding : DpopBinding}
    (h : validateDpopHeader headers state now = .ok (some binding)) :
    binding.replayExpiresAt = saturatingAdd binding.iat (maxZero state.config.clockSkewLeeway) ∧
    ∀ now' binding', validateDpopHeader headers state now' = .ok binding' →
      binding' = some binding := by
  unfold validateDpopHeader at h ⊢
  split at h
  · cases h
  · simp only [bind_eq_ok, okOr_eq_ok, mapError_eq_ok, pure_eq_ok] at h
    obtain ⟨proof, hproof, binding', hbinding, heq⟩ := h
    cases heq
    have hexpires := validateDpopProof_replayExpiresAt hbinding
    simp only at hexpires
    refine ⟨hexpires, fun now' other hother => ?_⟩
    simp only [bind_eq_ok, okOr_eq_ok, mapError_eq_ok, pure_eq_ok] at hother
    obtain ⟨proof', hproof', binding', hbinding', rfl⟩ := hother
    cases hproof.symm.trans hproof'
    exact congrArg some (validateDpopProof_now hbinding' hbinding)
  · cases h

/-! ### The gates of both modes -/

/-- What a request has passed when the mode's own gates begin. -/
structure ExchangeVerified (headers : HeaderMap) (state : HttpState) (body : Bytes) (t : List Ev)
    (mode : EffectiveExchangeMode) (request : ExchangeRequest) (exchange : VerifiedExchange) :
    Prop where
  form : ∃ form, parseTokenForm headers body = .ok form ∧ request = form.intoExchangeRequest ∧
    mode = effectiveExchangeMode state.config request form.emptyActorTokenSupplied
  noActor : mode = .impersonation → request.actorToken = none ∧ hasClientAuth request = true
  client : (hasClientAuth request = false ∧ exchange.clientClaims = none) ∨
    ∃ claims, hasClientAuth request = true ∧ exchange.clientClaims = some claims ∧
      ClientAuthenticated state request state.tokenEndpoint t claims
  dpop : ∃ now, nowIs now ∈ t ∧ validateDpopHeader headers state now = .ok exchange.dpopBinding
  subject : SubjectAccepted request.subjectToken state.subjectJwks state.config.idpIssuer
    state.config.expectedSubjectAud.toList state.config.clockSkewLeeway t exchange.subjectClaims
  target : resolveTargetForRequest request state = .ok exchange.target
  scope : resolveScopeForRequest request state exchange.subjectClaims exchange.target =
    .ok exchange.scope
  sub : exchange.subjectClaims.sub = some exchange.subjectSub
  sub_nonblank : isBlank exchange.subjectSub = false

theorem returns_verifyExchange {headers : HeaderMap} {body : Bytes} {mode : EffectiveExchangeMode}
    {exchange : VerifiedExchange}
    (h : Returns (verifyExchange headers state body) t (mode, request, exchange)) :
    ExchangeVerified headers state body t mode request exchange := by
  simp only [verifyExchange, liftM_eq, returns_ofExcept_bind] at h
  obtain ⟨form, hform, -, -, h⟩ := h
  rw [returns_bind] at h
  obtain ⟨client, t₁, t₂, rfl, hclient, h⟩ := h
  rw [returns_unixNow_bind] at h
  obtain ⟨now, t₃, rfl, h⟩ := h
  rw [returns_ofExcept_bind] at h
  obtain ⟨dpopBinding, hdpop, h⟩ := h
  rw [returns_bind] at h
  obtain ⟨subjectClaims, t₄, t₅, rfl, hsubject, h⟩ := h
  simp only [returns_ofExcept_bind, okOr_eq_ok, pure_eq, returns_done] at h
  obtain ⟨target, htarget, scope, hscope, subjectSub, hsub, rfl, hout⟩ := h
  cases hout
  have hauth := returns_authenticateClientIfPresent hclient
  have haccepted := returns_verifySubjectToken (returns_mapErr.mp hsubject)
  have hsub' := Option.filter_eq_some_iff.mp hsub
  refine ⟨⟨form, hform, rfl, rfl⟩, hauth.1, ?_, ⟨now, by simp, hdpop⟩, ?_, htarget, hscope, hsub'.1,
    by simpa using hsub'.2⟩
  · rcases hauth.2 with hnone | ⟨claims, hhas, hsome, hclaims⟩
    · exact Or.inl hnone
    · exact Or.inr ⟨claims, hhas, hsome, hclaims.mono (List.subset_append_left _ _)⟩
  · refine haccepted.mono fun ev hev => ?_
    simp only [List.mem_append, List.mem_cons]
    exact Or.inr (Or.inr (Or.inl hev))

/-! ### The gates of each mode -/

/-- What `may_act`, if the subject token has it, grants. -/
def MayActAuthorizes (subjectClaims : SubjectTokenClaims) (actorClaims : AssertionClaims) : Prop :=
  ∀ mayAct, subjectClaims.mayAct = some mayAct →
    ∃ members, mayAct = .object members ∧ members ≠ [] ∧
      Json.get members "sub" = some (.string actorClaims.sub) ∧
      ∀ iss, Json.get members "iss" = some iss → iss = .string actorClaims.iss

omit [Crates] in
theorem asStr_eq_some {value : Json} {s : String} : value.asStr = some s ↔ value = .string s := by
  cases value <;> simp [Json.asStr]

omit [Crates] in
theorem asObject_eq_some {value : Json} {members : List (String × Json)} :
    value.asObject = some members ↔ value = .object members := by
  cases value <;> simp [Json.asObject]

omit [Crates] in
theorem gateMayAct_ok {subjectClaims : SubjectTokenClaims} {actorClaims : AssertionClaims} {u : Unit}
    (h : gateMayAct subjectClaims actorClaims = .ok u) :
    MayActAuthorizes subjectClaims actorClaims := by
  intro mayAct hmayAct
  rw [gateMayAct, hmayAct] at h
  simp only [bind_eq_ok, okOr_eq_ok, rejectIf_eq_ok] at h
  obtain ⟨members, hmembers, -, hne, -, hsub, hiss⟩ := h
  refine ⟨members, asObject_eq_some.mp hmembers, ?_, ?_, ?_⟩
  · rintro rfl
    simp at hne
  · rw [bne_eq_false_iff_eq, Option.bind_eq_some_iff] at hsub
    obtain ⟨value, hvalue, hstr⟩ := hsub
    rw [hvalue, asStr_eq_some.mp hstr]
  · intro iss hget
    rw [hget, Option.any_some, bne_eq_false_iff_eq] at hiss
    exact asStr_eq_some.mp hiss

/-- What delegation has established. -/
structure DelegationGranted (state : HttpState) (request : ExchangeRequest)
    (exchange : VerifiedExchange) (t : List Ev) (grant : DelegationGrant) : Prop where
  actor : ∃ actorToken, request.actorToken = some actorToken ∧
    AssertionAccepted actorToken state.actorJwks state.config.inboundAssertionAlgs
      (actorAssertionOptions state request.subjectToken) t grant.actorClaims
  member : grant.actorClaims.sub ∈ state.config.actorIds
  mayAct : MayActAuthorizes exchange.subjectClaims grant.actorClaims
  now : nowIs grant.now ∈ t
  act : ∃ prior, priorActOf exchange.subjectClaims = .ok prior ∧
    grant.act = buildAct grant.actorClaims.sub prior
  jti : grant.actorClaims.jti = some grant.actorJti
  jti_nonblank : isBlank grant.actorJti = false
  signing : signingDecisionForTarget state exchange.target = .ok grant.signingDecision

theorem returns_delegationGates {exchange : VerifiedExchange} {grant : DelegationGrant}
    (h : Returns (delegationGates state request exchange) t grant) :
    DelegationGranted state request exchange t grant := by
  simp only [delegationGates, liftM_eq, returns_ofExcept_bind, okOr_eq_ok] at h
  obtain ⟨actorToken, hactor, h⟩ := h
  rw [returns_bind] at h
  obtain ⟨actorClaims, t₁, t₂, rfl, hverify, h⟩ := h
  simp only [returns_ofExcept_bind, validateActorIdentity, bind_eq_ok, rejectIf_eq_ok] at h
  obtain ⟨_, ⟨-, hmember, -⟩, _, hmayAct, decision, hsigning, h⟩ := h
  rw [returns_unixNow_bind] at h
  obtain ⟨now, t₃, rfl, h⟩ := h
  simp only [returns_ofExcept_bind, okOr_eq_ok, pure_eq, returns_done] at h
  obtain ⟨prior, hprior, actorJti, hjti, rfl, rfl⟩ := h
  have haccepted := returns_verifyAssertionWithAllowedAlgs (returns_mapErr.mp hverify)
  have hjti' := Option.filter_eq_some_iff.mp hjti
  exact
    { actor := ⟨actorToken, hactor, haccepted.mono (List.subset_append_left _ _)⟩
      member := by simpa using hmember
      mayAct := gateMayAct_ok hmayAct
      now := by simp
      act := ⟨prior, hprior, rfl⟩
      jti := hjti'.1
      jti_nonblank := by simpa using hjti'.2
      signing := hsigning }

/-- What impersonation has established. -/
structure ImpersonationGranted (state : HttpState) (request : ExchangeRequest)
    (exchange : VerifiedExchange) (t : List Ev) (grant : ImpersonationGrant) : Prop where
  noActor : request.actorToken = none
  client : exchange.clientClaims = some grant.clientClaims
  policy : ∃ entry,
    state.config.impersonationPolicy.clients.lookup grant.clientClaims.sub = some entry ∧
    entry.targets.allows exchange.target = true ∧ entry.subjects.allows exchange.subjectSub = true
  now : nowIs grant.now ∈ t
  signing : signingDecisionForTarget state exchange.target = .ok grant.signingDecision

theorem returns_impersonationGates {exchange : VerifiedExchange} {grant : ImpersonationGrant}
    (h : Returns (impersonationGates state request exchange) t grant) :
    ImpersonationGranted state request exchange t grant := by
  simp only [impersonationGates, liftM_eq, returns_ofExcept_bind, okOr_eq_ok, rejectIf_eq_ok] at h
  obtain ⟨-, hactor, claims, hclient, entry, hentry, -, htargets, -, hsubjects, decision, hsigning,
    h⟩ := h
  rw [returns_unixNow_bind] at h
  obtain ⟨now, t₃, rfl, h⟩ := h
  rw [pure_eq, returns_done] at h
  obtain ⟨rfl, rfl⟩ := h
  exact
    { noActor := by simpa using hactor
      client := hclient
      policy := ⟨entry, hentry, by simpa using htargets, by simpa using hsubjects⟩
      now := by simp
      signing := hsigning }

/-! ### What is left when the other checks pass

A request whose documents are in order depends on the clock alone. -/

section Passing

variable {checks : Handler VerifyError Unit}

theorem authenticateClient_eq {endpoint assertion jti : String} {claims : AssertionClaims}
    (hblank : checkNotBlank [("client_assertion", request.clientAssertion),
      ("client_assertion_type", request.clientAssertionType), ("client_id", request.clientId)] =
        .ok ())
    (htype : validateClientAssertionType request = .ok ())
    (hassertion : request.clientAssertion = some assertion)
    (hverify : verifyAssertionWithAllowedAlgs assertion state.clientJwks
      state.config.inboundAssertionAlgs (clientAssertionOptions state endpoint) =
        (do checks; pure claims))
    (hmember : claims.sub ∈ state.config.clientIds) (hid : request.clientId = none)
    (hjti : clientAssertionJti claims = .ok jti) :
    authenticateClient state request endpoint = (do
      checks.mapErr fun err => HttpError.invalidClient err.message
      pure claims) := by
  rw [hassertion, hid] at hblank
  simp [authenticateClient, hblank, htype, hassertion, hverify, hmember, hid, hjti, mapErr_bind,
    rejectIf]

theorem verifyExchange_eq {headers : HeaderMap} {body : Bytes} {form : TokenForm}
    {subjectClaims : SubjectTokenClaims} {target scope subjectSub : String}
    (hform : parseTokenForm headers body = .ok form)
    (hparams : validateRequestParams form.intoExchangeRequest state.config.maxTokenLen = .ok ())
    (hsubject : verifySubjectToken form.intoExchangeRequest.subjectToken state.subjectJwks
      state.config.idpIssuer state.config.expectedSubjectAud.toList state.config.clockSkewLeeway =
        (do checks; pure subjectClaims))
    (htarget : resolveTargetForRequest form.intoExchangeRequest state = .ok target)
    (hscope : resolveScopeForRequest form.intoExchangeRequest state subjectClaims target =
      .ok scope)
    (hsub : (subjectClaims.sub.filter fun value => !isBlank value) = some subjectSub) :
    verifyExchange headers state body = (do
      let clientClaims ← authenticateClientIfPresent state form.intoExchangeRequest
        (effectiveExchangeMode state.config form.intoExchangeRequest form.emptyActorTokenSupplied)
      let now ← unixNow
      let dpopBinding ← validateDpopHeader headers state now
      checks.mapErr mapSubjectVerifyError
      pure (effectiveExchangeMode state.config form.intoExchangeRequest
          form.emptyActorTokenSupplied, form.intoExchangeRequest,
        { subjectClaims, subjectSub, target, scope, clientClaims, dpopBinding })) := by
  simp [verifyExchange, hform, hparams, hsubject, htarget, hscope, hsub, mapErr_bind]

theorem delegationGates_eq {exchange : VerifiedExchange} {actorToken actorJti : String}
    {actorClaims : AssertionClaims} {signingDecision : SigningDecision} {prior : Option ActClaim}
    (hactor : request.actorToken = some actorToken)
    (hverify : verifyAssertionWithAllowedAlgs actorToken state.actorJwks
      state.config.inboundAssertionAlgs (actorAssertionOptions state request.subjectToken) =
        (do checks; pure actorClaims))
    (hidentity : validateActorIdentity state actorClaims = .ok ())
    (hmayAct : gateMayAct exchange.subjectClaims actorClaims = .ok ())
    (hsigning : signingDecisionForTarget state exchange.target = .ok signingDecision)
    (hprior : priorActOf exchange.subjectClaims = .ok prior)
    (hjti : (actorClaims.jti.filter fun value => !isBlank value) = some actorJti) :
    delegationGates state request exchange = (do
      checks.mapErr fun err => HttpError.invalidClient err.message
      let now ← unixNow
      pure { actorClaims, signingDecision, now, act := buildAct actorClaims.sub prior,
             actorJti }) := by
  simp [delegationGates, hactor, verifyActorToken, hverify, hidentity, hmayAct, hsigning, hprior,
    hjti, mapErr_bind]

theorem impersonationGates_eq {exchange : VerifiedExchange} {clientClaims : AssertionClaims}
    {entry : ImpersonationPolicyEntry} {signingDecision : SigningDecision}
    (hactor : request.actorToken = none) (hclient : exchange.clientClaims = some clientClaims)
    (hentry : state.config.impersonationPolicy.clients.lookup clientClaims.sub = some entry)
    (htargets : entry.targets.allows exchange.target = true)
    (hsubjects : entry.subjects.allows exchange.subjectSub = true)
    (hsigning : signingDecisionForTarget state exchange.target = .ok signingDecision) :
    impersonationGates state request exchange = (do
      let now ← unixNow
      pure { clientClaims, signingDecision, now }) := by
  simp [impersonationGates, hactor, hclient, hentry, htargets, hsubjects, hsigning, rejectIf]

end Passing

/-! ### The gates only read the clock -/

theorem only_authenticateClient {endpoint : String} :
    Only ReadsClock (authenticateClient state request endpoint) :=
  only_bind only_ofExcept fun _ => only_bind only_ofExcept fun _ => only_bind only_ofExcept
    fun _ => only_bind (only_mapErr only_verifyAssertionWithAllowedAlgs) fun _ =>
      only_bind only_ofExcept fun _ => only_bind only_ofExcept fun _ =>
        only_bind only_ofExcept fun _ => only_done

theorem only_authenticateClientIfPresent {mode : EffectiveExchangeMode} :
    Only ReadsClock (authenticateClientIfPresent state request mode) := by
  refine only_bind only_ofExcept fun _ => only_bind only_ofExcept fun _ =>
    only_bind only_ofExcept fun _ => ?_
  split
  · exact only_bind only_authenticateClient fun _ => only_bind only_ofExcept fun _ => only_done
  · exact only_done

theorem only_verifyExchange {headers : HeaderMap} {body : Bytes} :
    Only ReadsClock (verifyExchange headers state body) :=
  only_bind only_ofExcept fun _ => only_bind only_ofExcept fun _ =>
    only_bind only_authenticateClientIfPresent fun _ => only_bind only_unixNow fun _ =>
      only_bind only_ofExcept fun _ => only_bind (only_mapErr only_verifySubjectToken) fun _ =>
        only_bind only_ofExcept fun _ => only_bind only_ofExcept fun _ =>
          only_bind only_ofExcept fun _ => only_done

theorem only_delegationGates {exchange : VerifiedExchange} :
    Only ReadsClock (delegationGates state request exchange) :=
  only_bind only_ofExcept fun _ =>
    only_bind (only_mapErr only_verifyAssertionWithAllowedAlgs) fun _ =>
      only_bind only_ofExcept fun _ => only_bind only_ofExcept fun _ =>
        only_bind only_ofExcept fun _ => only_bind only_unixNow fun _ =>
          only_bind only_ofExcept fun _ => only_bind only_ofExcept fun _ => only_done

theorem only_impersonationGates {exchange : VerifiedExchange} :
    Only ReadsClock (impersonationGates state request exchange) :=
  only_bind only_ofExcept fun _ => only_bind only_ofExcept fun _ => only_bind only_ofExcept
    fun _ => only_bind only_ofExcept fun _ => only_bind only_ofExcept fun _ =>
      only_bind only_ofExcept fun _ => only_bind only_unixNow fun _ => only_done

theorem only_verifyOnline {headers : HeaderMap} {body : Bytes} {endpoint : String} :
    Only ReadsClock (verifyOnline headers state body endpoint) :=
  only_bind only_ofExcept fun _ => only_bind only_ofExcept fun _ =>
    only_bind (only_bind only_ofExcept fun _ => only_authenticateClient) fun _ => only_done

end StsDelegate
