import StsDelegate.Sample.Runs

/-!
# Soundness of the token endpoint

Every token the endpoint mints is one it was entitled to mint. `Mints` says that a
run of the endpoint ended with a token of the given claims; `mints_planned` traces
those claims back to a plan whose gates were all passed. From there

* `delegation_sound` lists what stands behind a token minted by delegation,
* `impersonation_sound` what stands behind a token without an `act` claim, and
  which requests cannot obtain one, and
* `strict_scope_bound` when the strict bound on scopes holds of a minted token.

All three are about any trace, so they hold whatever the clock shows and whatever
the stores and the signer answer.
-/

namespace StsDelegate

open Text Fallible Effectful Prog

section Minting

variable [Crates]

/-- The run of the endpoint along `t` ends with a token that carries the claims
`c`. -/
def Mints (headers : HeaderMap) (state : HttpState) (body : Bytes) (t : List Ev)
    (c : MintedClaims) : Prop :=
  ∃ headers' response, Returns (tokenInner headers state body) t (headers', response) ∧
    signIs c (.ok response.accessToken) ∈ t

/-- The mode a request is handled in, if its form can be read. -/
def effectiveModeOf (headers : HeaderMap) (state : HttpState) (body : Bytes) :
    Option EffectiveExchangeMode :=
  (parseTokenForm headers body).toOption.map fun form =>
    effectiveExchangeMode state.config form.intoExchangeRequest form.emptyActorTokenSupplied

/-- The claims of the subject token of a request, if its form can be read and the
token verifies. -/
def subjectOf (headers : HeaderMap) (state : HttpState) (body : Bytes) :
    Option SubjectTokenClaims := do
  let form ← (parseTokenForm headers body).toOption
  let verified ← (verifyClaimsAgainstJwksWithAllowedAlgs Crates.subjectFromSlice
    form.intoExchangeRequest.subjectToken state.subjectJwks SUBJECT_TOKEN_SIGNING_ALGS).toOption
  pure verified.claims

/-- Carrying out a plan mints its claims. -/
theorem mints_of_plan {headers : HeaderMap} {state : HttpState} {body : Bytes} {t : List Ev}
    {plan : Plan} (h : Returns (planExchange headers state body) t plan) (jti token : String) :
    Mints headers state body (t ++ (plan.recorded ++
      [⟨.newJti, jti⟩, signIs (plan.payload state jti) (.ok token)])) (plan.payload state jti) := by
  refine ⟨_, _, returns_tokenInner.mpr ⟨plan, t, jti, token, h, rfl, rfl⟩, ?_⟩
  have htoken : (tokenResponse plan.exchange plan.signingDecision (plan.payload state jti)
    token).accessToken = token := rfl
  rw [htoken]
  simp

/-! ### Back to the plan -/

variable {headers : HeaderMap} {state : HttpState} {body : Bytes} {t : List Ev} {c : MintedClaims}

/-- The only signature of a run is the one over the planned claims. -/
theorem sign_mem_commit {plan : Plan} {t₁ : List Ev} {jti token : String}
    {answer : Except JoseError String} (hplan : Returns (planExchange headers state body) t₁ plan)
    (h : signIs c answer ∈ t₁ ++ (plan.recorded ++
      [⟨.newJti, jti⟩, signIs (plan.payload state jti) (.ok token)])) :
    c = plan.payload state jti ∧ answer = .ok token := by
  rw [List.mem_append, List.mem_append] at h
  rcases h with h | h | h
  · have hclock := only_planExchange.of_mem hplan _ h
    cases hclock
  · rw [Plan.recorded, List.mem_map] at h
    obtain ⟨credential, -, heq⟩ := h
    cases heq
  · simp only [List.mem_cons, List.not_mem_nil, or_false] at h
    rcases h with heq | heq
    · cases heq
    · cases heq
      exact ⟨rfl, rfl⟩

/-- Minted claims are planned claims, with a fresh id. -/
theorem mints_planned (h : Mints headers state body t c) :
    ∃ mode request plan jti, Planned headers state body t mode request plan ∧
      c = plan.payload state jti := by
  obtain ⟨headers', response, hreturns, hsign⟩ := h
  obtain ⟨plan, t₁, jti, token, hplan, rfl, -⟩ := returns_tokenInner.mp hreturns
  obtain ⟨mode, request, hplanned⟩ := returns_planExchange hplan
  have hclaims := (sign_mem_commit hplan hsign).1
  exact ⟨mode, request, plan, jti, hplanned.mono (List.subset_append_left _ _), hclaims⟩

/-- The mode of a planned request is the one its form selects. -/
theorem Planned.mode_eq {mode : EffectiveExchangeMode} {request : ExchangeRequest} {plan : Plan}
    (h : Planned headers state body t mode request plan) :
    effectiveModeOf headers state body = some mode := by
  obtain ⟨form, hform, rfl, rfl⟩ := h.verified.form
  rw [effectiveModeOf, hform]
  rfl

/-- The target is the one resolved from `audience` and `resource`, and known. -/
theorem resolveTargetForRequest_ok {request : ExchangeRequest} {target : String}
    (h : resolveTargetForRequest request state = .ok target) :
    resolveTarget request.audience request.resource = .ok target ∧
      target ∈ state.config.targetPolicy.targets := by
  simp only [resolveTargetForRequest, bind_eq_ok, rejectIf_eq_ok, mapError_eq_ok, pure_eq_ok] at h
  obtain ⟨-, -, -, -, target', htarget, -, hknown, rfl⟩ := h
  refine ⟨htarget, ?_⟩
  rw [← AList.lookup_isSome]
  simpa [TargetPolicy.get] using hknown

omit [Crates] in
/-- A minted token ends no later than any of its caps. -/
theorem mintedExp_le (ttl now subjectExp assertionExp : Int64) :
    mintedExp ttl now subjectExp assertionExp ≤ now + ttl ∧
    mintedExp ttl now subjectExp assertionExp ≤ subjectExp ∧
    mintedExp ttl now subjectExp assertionExp ≤ assertionExp := by
  have hmin : ∀ a b : Int64, minI64 a b ≤ a ∧ minI64 a b ≤ b := by
    intro a b
    unfold minI64
    split
    · next h => exact ⟨Int64.le_refl a, h⟩
    · next h => exact ⟨Int64.le_of_lt (Int64.not_le.mp h), Int64.le_refl b⟩
  have houter := hmin (minI64 (now + ttl) subjectExp) assertionExp
  have hinner := hmin (now + ttl) subjectExp
  exact ⟨Int64.le_trans houter.1 hinner.1, Int64.le_trans houter.1 hinner.2, houter.2⟩

end Minting

/-! ### Delegation -/

section Delegation

variable [Crates] {headers : HeaderMap} {state : HttpState} {body : Bytes} {t : List Ev}
  {c : MintedClaims}

/-- What stands behind a token with claims `c` minted by delegation: the verified
subject token, the verified actor assertion, and how `c` follows from them. -/
structure DelegationSound (headers : HeaderMap) (state : HttpState) (body : Bytes) (t : List Ev)
    (c : MintedClaims) (request : ExchangeRequest) (subject : SubjectTokenClaims)
    (actor : AssertionClaims) : Prop where
  /-- The request is what the form says. -/
  form : ∃ form, parseTokenForm headers body = .ok form ∧ request = form.intoExchangeRequest
  /-- The subject token verified, with the identity provider's issuer, an accepted
  audience and an open window. -/
  accepted : SubjectAccepted request.subjectToken state.subjectJwks state.config.idpIssuer
    state.config.expectedSubjectAud.toList state.config.clockSkewLeeway t subject
  sub : subject.sub = some c.sub
  sub_nonblank : isBlank c.sub = false
  iss : c.iss = state.config.ourIssuer
  /-- The audience is the resolved target, and the policy has it. -/
  aud : resolveTarget request.audience request.resource = .ok c.aud
  aud_known : c.aud ∈ state.config.targetPolicy.targets
  /-- The actor's assertion verified under a permitted algorithm, with a key id of
  the actor's own among all actors and clients. -/
  verified : ∃ actorToken alg kid typ, request.actorToken = some actorToken ∧
    verifyClaimsAgainstJwksWithAllowedAlgs Crates.assertionFromSlice actorToken state.actorJwks
      state.config.inboundAssertionAlgs = .ok ⟨actor, alg, kid, typ⟩ ∧
    alg ∈ state.config.inboundAssertionAlgs ∧
    kidBelongsToClaimedIdentity kid actor.sub (keyBindingRegistry state) = true
  actor_iss : actor.iss = actor.sub
  actor_aud : audienceMatches actor.aud state.config.ourIssuer = true ∨
    audienceMatches actor.aud state.tokenEndpoint = true
  actor_window : WindowOpen actor.exp none state.config.clockSkewLeeway t
  /-- Where binding is required, the assertion carries the hash of the subject token;
  an absent hash counts as empty. -/
  actor_bound : state.config.requireSubjectBinding = true →
    actor.subTokHash.getD "" = subjectTokenHash request.subjectToken
  actor_known : actor.sub ∈ state.config.actorIds
  clientId : c.clientId = actor.sub
  act : ∃ prior, priorActOf subject = .ok prior ∧ c.act = some (.mk actor.sub none prior)
  mayAct : MayActAuthorizes subject actor
  /-- Any client parameter at all means an authenticated client. -/
  client : hasClientAuth request = true →
    ∃ claims, ClientAuthenticated state request state.tokenEndpoint t claims
  /-- The token is bound to the proof's key, if a proof was sent. -/
  cnf : ∃ now dpopBinding, nowIs now ∈ t ∧
    validateDpopHeader headers state now = .ok dpopBinding ∧
    c.cnfJkt = dpopBinding.map DpopBinding.jkt
  scope : resolveScopeForRequest request state subject c.aud = .ok c.scope
  /-- It was issued at a reading of the clock, and ends in time. -/
  iat : nowIs c.iat ∈ t
  exp : c.exp ≤ c.iat + state.config.scopedTokenTtl ∧ c.exp ≤ subject.exp ∧ c.exp ≤ actor.exp

/-- **Delegation is sound.** Behind every token minted by delegation stand a
verified subject token and a verified assertion of a permitted actor, and the
token says what follows from them. -/
theorem delegation_sound (h : Mints headers state body t c)
    (hmode : effectiveModeOf headers state body = some .delegation) :
    ∃ request subject actor, DelegationSound headers state body t c request subject actor := by
  obtain ⟨mode, request, plan, jti, hplanned, rfl⟩ := mints_planned h
  have hsame := hplanned.mode_eq.symm.trans hmode
  cases hsame
  obtain ⟨-, grant, hgrant, hplan⟩ | ⟨hwrong, -⟩ := hplanned.granted
  swap
  · cases hwrong
  have hverified := hplanned.verified
  obtain ⟨form, hform, hrequest, -⟩ := hverified.form
  obtain ⟨actorToken, hactorToken, haccepted⟩ := hgrant.actor
  obtain ⟨alg, kid, typ, hclaims, halg, hkid⟩ := haccepted.verified
  obtain ⟨prior, hprior, hact⟩ := hgrant.act
  obtain ⟨now, hnow, hdpop⟩ := hverified.dpop
  have htarget := resolveTargetForRequest_ok hverified.target
  have hexp := mintedExp_le state.config.scopedTokenTtl plan.now plan.exchange.subjectClaims.exp
    plan.assertionExp
  -- what the grant and the verified request do not say word for word comes below
  refine ⟨request, plan.exchange.subjectClaims, grant.actorClaims,
    { form := ⟨form, hform, hrequest⟩
      accepted := hverified.subject
      sub := hverified.sub
      sub_nonblank := hverified.sub_nonblank
      iss := rfl
      aud := htarget.1
      aud_known := htarget.2
      verified := ⟨actorToken, alg, kid, typ, hactorToken, hclaims, halg, hkid _ rfl⟩
      actor_iss := haccepted.iss_eq_sub
      actor_aud := ?_
      actor_window := haccepted.window
      actor_bound := haccepted.binding
      actor_known := hgrant.member
      clientId := ?_
      act := ⟨prior, hprior, ?_⟩
      mayAct := hgrant.mayAct
      client := ?_
      cnf := ⟨now, _, hnow, hdpop, rfl⟩
      scope := hverified.scope
      iat := hplanned.now
      exp := ⟨hexp.1, hexp.2.1, ?_⟩ }⟩
  · obtain ⟨value, hvalue, hmatches⟩ := haccepted.audience
    simp only [actorAssertionOptions, List.mem_cons, List.not_mem_nil, or_false] at hvalue
    rcases hvalue with rfl | rfl
    · exact Or.inl hmatches
    · exact Or.inr hmatches
  · rw [hplan]
    rfl
  · rw [hplan]
    exact congrArg some hact
  · intro hauth
    rcases hverified.client with ⟨hnone, -⟩ | ⟨claims, -, -, hclient⟩
    · rw [hnone] at hauth
      cases hauth
    · exact ⟨claims, hclient⟩
  · have hassertionExp : plan.assertionExp = grant.actorClaims.exp := by
      rw [hplan]
      rfl
    rw [← hassertionExp]
    exact hexp.2.2

end Delegation

open Sample in
/-- The sample delegation at 50. -/
theorem sample_delegation_sound :
    ∃ t, Mints formHeaders (state .both 1 (by decide)) (form (exchangePairs ++ actorPairs actor1)) t
        delegatedClaims ∧
      ∃ request subject actor, DelegationSound formHeaders (state .both 1 (by decide))
        (form (exchangePairs ++ actorPairs actor1)) t delegatedClaims request subject actor := by
  have hplan : Returns (planExchange formHeaders (state .both 1 (by decide))
      (form (exchangePairs ++ actorPairs actor1))) _ _ :=
    returns_planExchange_actor1 (List.mem_cons_self ..)
  obtain ⟨mode, request, hplanned⟩ := returns_planExchange hplan
  have hmode : mode = .delegation := by
    rcases hplanned.granted with ⟨hmode, -⟩ | ⟨-, grant, -, hwrong⟩
    · exact hmode
    · cases congrArg Plan.act hwrong
  have hmints := mints_of_plan hplan "t1" mintedDelegation.token
  exact ⟨_, hmints, delegation_sound hmints (hmode ▸ hplanned.mode_eq)⟩

/-! ### Impersonation -/

section Impersonation

variable [Crates] {headers : HeaderMap} {state : HttpState} {body : Bytes} {t : List Ev}
  {c : MintedClaims}

/-- What stands behind a token without an `act` claim. -/
structure ImpersonationSound (headers : HeaderMap) (state : HttpState) (body : Bytes) (t : List Ev)
    (c : MintedClaims) (request : ExchangeRequest) (subject : SubjectTokenClaims)
    (client : AssertionClaims) : Prop where
  form : ∃ form, parseTokenForm headers body = .ok form ∧ request = form.intoExchangeRequest
  mode : state.config.tokenExchangeMode = .impersonation ∨ state.config.tokenExchangeMode = .both
  /-- Nothing but an empty `actor_token` was sent. -/
  noActor : ∀ value, ("actor_token", value) ∈ Crates.formUrlencodedParse body → value = ""
  accepted : SubjectAccepted request.subjectToken state.subjectJwks state.config.idpIssuer
    state.config.expectedSubjectAud.toList state.config.clockSkewLeeway t subject
  sub : subject.sub = some c.sub
  /-- The client's assertion verified, for one of the configured clients. -/
  authenticated : ClientAuthenticated state request state.tokenEndpoint t client
  client_known : client.sub ∈ state.config.clientIds
  /-- A `client_id` that was sent names that client; an empty one counts as absent. -/
  client_id : ∀ value, ("client_id", value) ∈ Crates.formUrlencodedParse body →
    value = "" ∨ value = client.sub
  policy : ∃ entry, state.config.impersonationPolicy.clients.lookup client.sub = some entry ∧
    entry.targets.allows c.aud = true ∧ entry.subjects.allows c.sub = true
  clientId : c.clientId = client.sub
  exp : c.exp ≤ c.iat + state.config.scopedTokenTtl ∧ c.exp ≤ subject.exp ∧ c.exp ≤ client.exp

/-- The value of a parameter that occurs in the body. -/
theorem get_of_mem {form : TokenForm} (h : parseTokenForm headers body = .ok form)
    {param : TokenParam} {value : String}
    (hmem : (param.name, value) ∈ Crates.formUrlencodedParse body) :
    form.get param = nonEmptyFormValue value ∧
      (param = .actorToken → value = "" → form.emptyActorTokenSupplied = true) := by
  simp only [parseTokenForm, bind_eq_ok] at h
  obtain ⟨-, -, -, -, hpairs⟩ := h
  obtain ⟨-, hget, hflag⟩ := (parseTokenPairs_ok hpairs param).1 value hmem
  exact ⟨hget, fun hparam hempty => hflag hparam (String.isEmpty_iff.mpr hempty)⟩

omit [Crates] in
theorem nonEmptyFormValue_eq_none {value : String} (h : nonEmptyFormValue value = none) :
    value = "" := by
  unfold nonEmptyFormValue at h
  split at h
  · next hempty => exact String.isEmpty_iff.mp hempty
  · cases h

omit [Crates] in
/-- Impersonation is never selected in mode `delegation`. -/
theorem mode_of_impersonation {config : RuntimeConfig} {request : ExchangeRequest} {flag : Bool}
    (h : effectiveExchangeMode config request flag = .impersonation) :
    config.tokenExchangeMode = .impersonation ∨
      (config.tokenExchangeMode = .both ∧ request.actorToken = none ∧ flag = false) := by
  unfold effectiveExchangeMode at h
  split at h
  · cases h
  · next hmode => exact Or.inl hmode
  · next hmode =>
      split at h
      · cases h
      · next hnone =>
          rw [Bool.not_eq_true, Bool.or_eq_false_iff] at hnone
          refine Or.inr ⟨hmode, ?_, hnone.2⟩
          simpa using hnone.1

/-- A token without `act` was planned by impersonation. -/
theorem Planned.impersonation_of_act {mode : EffectiveExchangeMode} {request : ExchangeRequest}
    {plan : Plan} {jti : String} (h : Planned headers state body t mode request plan)
    (hact : (plan.payload state jti).act = none) :
    mode = .impersonation ∧ ∃ grant, ImpersonationGranted state request plan.exchange t grant ∧
      plan = impersonationPlan plan.exchange grant := by
  obtain ⟨-, grant, -, hplan⟩ | himpersonation := h.granted
  · rw [hplan] at hact
    cases hact
  · exact himpersonation

/-- In mode `both`, impersonation means that no `actor_token` occurs, not even an
empty one. -/
theorem Planned.no_actor_key {request : ExchangeRequest} {plan : Plan}
    (h : Planned headers state body t .impersonation request plan)
    (hmode : state.config.tokenExchangeMode = .both) {value : String} :
    ("actor_token", value) ∉ Crates.formUrlencodedParse body := by
  intro hmem
  obtain ⟨form, hform, rfl, heffective⟩ := h.verified.form
  obtain ⟨hget, hflag⟩ := get_of_mem hform (show (TokenParam.actorToken.name, value) ∈ _ from hmem)
  rcases mode_of_impersonation heffective.symm with hwrong | ⟨-, hnone, hsupplied⟩
  · rw [hmode] at hwrong
    cases hwrong
  · have hempty := nonEmptyFormValue_eq_none (hget.symm.trans hnone)
    rw [hflag rfl hempty] at hsupplied
    cases hsupplied

theorem Planned.impersonationSound {request : ExchangeRequest} {plan : Plan} {jti : String}
    {grant : ImpersonationGrant} (h : Planned headers state body t .impersonation request plan)
    (hgrant : ImpersonationGranted state request plan.exchange t grant)
    (hplan : plan = impersonationPlan plan.exchange grant) :
    ImpersonationSound headers state body t (plan.payload state jti) request
      plan.exchange.subjectClaims grant.clientClaims := by
  have hverified := h.verified
  obtain ⟨form, hform, hrequest, heffective⟩ := hverified.form
  have hmode := mode_of_impersonation heffective.symm
  have hexp := mintedExp_le state.config.scopedTokenTtl plan.now plan.exchange.subjectClaims.exp
    plan.assertionExp
  have hassertionExp : plan.assertionExp = grant.clientClaims.exp := by
    rw [hplan]
    rfl
  have hclient : ClientAuthenticated state request state.tokenEndpoint t grant.clientClaims := by
    rcases hverified.client with ⟨-, hnone⟩ | ⟨claims, -, hsome, hauth⟩
    · rw [hgrant.client] at hnone
      cases hnone
    · rw [hgrant.client] at hsome
      cases hsome
      exact hauth
  refine
    { form := ⟨form, hform, hrequest⟩
      mode := hmode.imp_right And.left
      noActor := ?_
      accepted := hverified.subject
      sub := hverified.sub
      authenticated := hclient
      client_known := hclient.member
      client_id := ?_
      policy := hgrant.policy
      clientId := ?_
      exp := ⟨hexp.1, hexp.2.1, hassertionExp ▸ hexp.2.2⟩ }
  -- a value in the body is the one in the form, and the grant saw none that counts
  · intro value hmem
    have hget := (get_of_mem hform (show (TokenParam.actorToken.name, value) ∈ _ from hmem)).1
    have hnone := hgrant.noActor
    rw [hrequest] at hnone
    exact nonEmptyFormValue_eq_none (hget.symm.trans hnone)
  · intro value hmem
    have hget := (get_of_mem hform (show (TokenParam.clientId.name, value) ∈ _ from hmem)).1
    have hid : request.clientId = nonEmptyFormValue value := by
      rw [hrequest]
      exact hget
    by_cases hempty : value.isEmpty = true
    · exact Or.inl (String.isEmpty_iff.mp hempty)
    · rw [nonEmptyFormValue, if_neg hempty] at hid
      exact Or.inr (hclient.clientId value hid)
  · rw [hplan]
    rfl

/-- **Impersonation is sound, and cannot be reached by accident.** Behind every
token without `act` stand an authenticated client and a policy entry that allows
it. Where both modes are on, any `actor_token` in the body, even an empty one,
leads to a token with `act`; in mode `delegation` every token has one. -/
theorem impersonation_sound (h : Mints headers state body t c) :
    (c.act = none → ∃ request subject client,
      ImpersonationSound headers state body t c request subject client) ∧
    (state.config.tokenExchangeMode = .both →
      (∃ value, ("actor_token", value) ∈ Crates.formUrlencodedParse body) → c.act ≠ none) ∧
    (state.config.tokenExchangeMode = .delegation → c.act ≠ none) := by
  obtain ⟨mode, request, plan, jti, hplanned, rfl⟩ := mints_planned h
  refine ⟨fun hact => ?_, fun hmode ⟨value, hmem⟩ hact => ?_, fun hmode hact => ?_⟩
  · obtain ⟨rfl, grant, hgrant, hplan⟩ := hplanned.impersonation_of_act hact
    exact ⟨request, _, grant.clientClaims, hplanned.impersonationSound hgrant hplan⟩
  · obtain ⟨rfl, -⟩ := hplanned.impersonation_of_act hact
    exact hplanned.no_actor_key hmode hmem
  · obtain ⟨rfl, -⟩ := hplanned.impersonation_of_act hact
    obtain ⟨form, -, -, heffective⟩ := hplanned.verified.form
    rcases mode_of_impersonation heffective.symm with hwrong | ⟨hwrong, -⟩
    · rw [hmode] at hwrong
      cases hwrong
    · rw [hmode] at hwrong
      cases hwrong

end Impersonation

open Sample in
/-- The sample impersonation at 50. -/
theorem sample_impersonation_sound :
    ∃ t, Mints formHeaders (state .both 1 (by decide))
        (form (exchangePairs ++ clientPairs client1)) t impersonatedClaims ∧
      ∃ request subject client, ImpersonationSound formHeaders (state .both 1 (by decide))
        (form (exchangePairs ++ clientPairs client1)) t impersonatedClaims request
        subject client := by
  have hplan : Returns (planExchange formHeaders (state .both 1 (by decide))
      (form (exchangePairs ++ clientPairs client1))) _ _ := returns_planExchange_client1
  have hmints := mints_of_plan hplan "t1" mintedImpersonation.token
  exact ⟨_, hmints, (impersonation_sound hmints).1 rfl⟩

/-! ### The strict bound on scopes -/

section Scope

variable [Crates] {headers : HeaderMap} {state : HttpState} {body : Bytes} {t : List Ev}
  {c : MintedClaims}

/-- The subject token carries the scope `word`, in `scope` or in `scp`. -/
def CarriesScope (subject : SubjectTokenClaims) (word : String) : Prop :=
  (∃ scope, subject.scope = some scope ∧ word ∈ splitWhitespace scope) ∨
  (∃ scp, subject.scp = some (.string scp) ∧ word ∈ splitWhitespace scp) ∨
  ∃ values scp, subject.scp = some (.array values) ∧ .string scp ∈ values ∧
    word ∈ splitWhitespace scp

omit [Crates] in
theorem mem_scpTokens {values : List Json} {tokens : List String}
    (h : scpTokens values = .ok tokens) {word : String} :
    word ∈ tokens ↔ ∃ scp, Json.string scp ∈ values ∧ word ∈ splitWhitespace scp := by
  induction values generalizing tokens with
  | nil =>
      cases h
      simp
  | cons value rest ih =>
      simp only [scpTokens, bind_eq_ok, okOr_eq_ok, asStr_eq_some, pure_eq_ok] at h
      obtain ⟨scope, rfl, tokens', hrest, rfl⟩ := h
      rw [List.mem_append, ih hrest]
      simp only [List.mem_cons, Json.string.injEq, or_and_right, exists_or, exists_eq_left]

omit [Crates] in
theorem mem_scopeClaim {scope : Option String} {word : String} :
    word ∈ (scope.map splitWhitespace).getD [] ↔
      ∃ value, scope = some value ∧ word ∈ splitWhitespace value := by
  cases scope with
  | none => simp
  | some value => simp

omit [Crates] in
/-- The tokens gathered from both claims are the carried ones. -/
theorem mem_subjectScopeTokens {subject : SubjectTokenClaims} {tokens : List String}
    (h : subjectScopeTokens subject = .ok tokens) {word : String} :
    word ∈ tokens ↔ CarriesScope subject word := by
  unfold subjectScopeTokens at h
  unfold CarriesScope
  split at h
  · next hscp =>
      cases h
      rw [mem_scopeClaim, hscp]
      simp
  · next hscp =>
      cases h
      rw [mem_scopeClaim, hscp]
      simp
  · next scp hscp =>
      cases h
      rw [List.mem_append, mem_scopeClaim, hscp]
      simp
  · next values hscp =>
      simp only [bind_eq_ok, pure_eq_ok] at h
      obtain ⟨tokens', htokens, rfl⟩ := h
      rw [List.mem_append, mem_scopeClaim, mem_scpTokens htokens, hscp]
      simp
  · cases h

omit [Crates] in
theorem CarriesScope.isWord {subject : SubjectTokenClaims} {word : String}
    (h : CarriesScope subject word) : IsWord word := by
  obtain ⟨scope, -, hword⟩ | ⟨scp, -, hword⟩ | ⟨values, scp, -, -, hword⟩ := h
  · exact isWord_of_mem_splitWhitespace hword
  · exact isWord_of_mem_splitWhitespace hword
  · exact isWord_of_mem_splitWhitespace hword

omit [Crates] in
/-- The subject's scopes are known exactly when it carries one, and then they are
the carried ones. -/
theorem subjectScopeString_ok {subject : SubjectTokenClaims} {scopes : Option String}
    (h : subjectScopeString subject = .ok scopes) :
    (scopes = none → ∀ word, ¬ CarriesScope subject word) ∧
    ∀ value, scopes = some value →
      ∀ word, word ∈ splitWhitespace value ↔ CarriesScope subject word := by
  simp only [subjectScopeString, bind_eq_ok, pure_eq_ok] at h
  obtain ⟨tokens, htokens, rfl⟩ := h
  have hmem : ∀ word, word ∈ OrdSet.ofList tokens ↔ CarriesScope subject word := by
    intro word
    rw [OrdSet.mem_ofList, mem_subjectScopeTokens htokens]
  refine ⟨fun hnone word hword => ?_, fun value hsome word => ?_⟩
  · have hne : (OrdSet.ofList tokens).isEmpty = false :=
      OrdSet.isEmpty_eq_false_iff.mpr ⟨word, (hmem word).mpr hword⟩
    rw [hne] at hnone
    cases hnone
  · split at hsome
    · cases hsome
    · cases hsome
      have hwords : ∀ w ∈ (OrdSet.ofList tokens).toList, IsWord w :=
        fun w hw => ((hmem w).mp hw).isWord
      rw [joinScopes, splitWhitespace_joinWith hwords]
      exact hmem word

/-- The subject token of a planned request. -/
theorem Planned.subjectOf_eq {mode : EffectiveExchangeMode} {request : ExchangeRequest} {plan : Plan}
    (h : Planned headers state body t mode request plan) :
    subjectOf headers state body = some plan.exchange.subjectClaims := by
  obtain ⟨form, hform, rfl, -⟩ := h.verified.form
  obtain ⟨kid, typ, hclaims⟩ := h.verified.subject.verified
  simp [subjectOf, hform, hclaims, Except.toOption]

/-- What resolving the scope leaves under the strict bound. -/
theorem resolveScopeForRequest_strict {request : ExchangeRequest} {subject : SubjectTokenClaims}
    {target scope : String} (h : resolveScopeForRequest request state subject target = .ok scope)
    (hstrict : state.config.subjectScopeBoundRequired = true) :
    splitWhitespace scope ≠ [] ∧ ((∃ word, CarriesScope subject word) →
      ∀ word ∈ splitWhitespace scope, CarriesScope subject word) := by
  simp only [resolveScopeForRequest, bind_eq_ok, mapError_eq_ok] at h
  obtain ⟨policy, -, scopes, hscopes, hdown⟩ := h
  obtain ⟨hne, -, hbound⟩ := downscope_ok hdown
  obtain ⟨habsent, hcarried⟩ := subjectScopeString_ok hscopes
  refine ⟨hne, ?_⟩
  intro hcarries word hword
  obtain ⟨other, hother⟩ := hcarries
  cases hvalue : scopes with
  | none => exact absurd hother (habsent hvalue other)
  | some value =>
      have hsubject := hbound value hvalue hstrict word hword
      exact (hcarried value hvalue word).mp hsubject

/-- **The strict bound holds exactly for subject tokens that carry a scope.** A
subject token without any scope is taken for one whose scopes are unknown, and
then nothing bounds the minted scopes. -/
theorem strict_scope_bound {subject : SubjectTokenClaims} (h : Mints headers state body t c)
    (hstrict : state.config.subjectScopeBoundRequired = true)
    (hsubject : subjectOf headers state body = some subject) :
    (∀ word ∈ splitWhitespace c.scope, CarriesScope subject word) ↔
      ∃ word, CarriesScope subject word := by
  obtain ⟨mode, request, plan, jti, hplanned, rfl⟩ := mints_planned h
  have hsame := hplanned.subjectOf_eq.symm.trans hsubject
  cases hsame
  obtain ⟨hne, hbound⟩ := resolveScopeForRequest_strict hplanned.verified.scope hstrict
  constructor
  · intro hall
    obtain ⟨word, hword⟩ := List.exists_mem_of_ne_nil _ hne
    exact ⟨word, hall word hword⟩
  · exact hbound

end Scope

open Sample

/-- The sample's subject token carries no scope. -/
theorem sample_not_carriesScope (word : String) : ¬ CarriesScope subjectClaims word := by
  rintro (⟨scope, hscope, -⟩ | ⟨scp, hscp, -⟩ | ⟨values, scp, hscp, -⟩)
  · cases hscope
  · cases hscp
  · cases hscp

/-- The other one carries `read`. -/
theorem sample_carriesScope : CarriesScope scopedSubjectClaims "read" :=
  Or.inl ⟨"read", rfl, by decide⟩

/-- The bound in two sample delegations: it holds where the subject token carries the scope,
and where it carries none neither side does. -/
theorem sample_scope_bound :
    (∃ t, Mints formHeaders (state .both 1 (by decide))
        (form (exchangePairs scopedSubject ++ actorPairs actor1)) t delegatedClaims ∧
      (∀ word ∈ splitWhitespace delegatedClaims.scope, CarriesScope scopedSubjectClaims word)) ∧
    ∃ t, Mints formHeaders (state .both 1 (by decide)) (form (exchangePairs ++ actorPairs actor1)) t
        delegatedClaims ∧
      ((∀ word ∈ splitWhitespace delegatedClaims.scope, CarriesScope subjectClaims word) ↔
        ∃ word, CarriesScope subjectClaims word) := by
  constructor
  · have hplan : Returns (planExchange formHeaders (state .both 1 (by decide))
        (form (exchangePairs scopedSubject ++ actorPairs actor1))) _ _ :=
      returns_planExchange_actor1 (List.mem_cons_of_mem _ (List.mem_cons_self ..))
    obtain ⟨mode, request, hplanned⟩ := returns_planExchange hplan
    have hmints := mints_of_plan hplan "t1" mintedDelegation.token
    exact ⟨_, hmints, (strict_scope_bound hmints rfl hplanned.subjectOf_eq).mpr
      ⟨"read", sample_carriesScope⟩⟩
  · have hplan : Returns (planExchange formHeaders (state .both 1 (by decide))
        (form (exchangePairs ++ actorPairs actor1))) _ _ :=
      returns_planExchange_actor1 (List.mem_cons_self ..)
    obtain ⟨mode, request, hplanned⟩ := returns_planExchange hplan
    have hmints := mints_of_plan hplan "t1" mintedDelegation.token
    exact ⟨_, hmints, strict_scope_bound hmints rfl hplanned.subjectOf_eq⟩

/-- **The strict bound fails for a subject token without scopes.** The sample
server requires the bound, the subject token carries no scope, and the token
minted for it grants `read`. -/
theorem strict_scope_bound_fails :
    ∃ t, Mints formHeaders (state .both 1 (by decide)) (form (exchangePairs ++ actorPairs actor1)) t
        delegatedClaims ∧
      (state .both 1 (by decide)).config.subjectScopeBoundRequired = true ∧
      subjectOf formHeaders (state .both 1 (by decide))
        (form (exchangePairs ++ actorPairs actor1)) = some subjectClaims ∧
      (∀ word, ¬ CarriesScope subjectClaims word) ∧
      ¬ ∀ word ∈ splitWhitespace delegatedClaims.scope, CarriesScope subjectClaims word := by
  have hplan : Returns (planExchange formHeaders (state .both 1 (by decide))
      (form (exchangePairs ++ actorPairs actor1))) _ _ :=
    returns_planExchange_actor1 (List.mem_cons_self ..)
  obtain ⟨mode, request, hplanned⟩ := returns_planExchange hplan
  have hmints := mints_of_plan hplan "t1" mintedDelegation.token
  have hread : "read" ∈ splitWhitespace delegatedClaims.scope := by decide
  exact ⟨_, hmints, rfl, hplanned.subjectOf_eq, sample_not_carriesScope,
    fun hall => sample_not_carriesScope _ (hall _ hread)⟩

end StsDelegate
