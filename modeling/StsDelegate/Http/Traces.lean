import StsDelegate.Http.Plan
import StsDelegate.Http.Server

/-!
# What a request has done so far

Traces of whole requests. The two online endpoints begin alike: after their gates
they record the client's assertion and read the clock again (`recordOnline`). For
every request, a recording uses a moment that the same request has read from the
clock (`now_of_calls_handle`), and a request that presented a client assertion and
was answered has recorded it (`recorded_of_returns_handle`).
-/

namespace StsDelegate

open Text Fallible Effectful Prog

variable [Crates] {state : HttpState} {headers : HeaderMap} {body : Bytes} {t : List Ev}

/-! ### The online endpoints -/

/-- How both online endpoints begin: the gates, the record of the client's
assertion, and another reading. -/
def recordOnline (headers : HeaderMap) (state : HttpState) (body : Bytes) (endpoint : String) :
    Handler HttpError (String × AssertionClaims × Int64) := do
  let (token, claims) ← verifyOnline headers state body endpoint
  let now ← unixNow
  recordClientAssertionReplay claims now
  let now ← unixNow
  pure (token, claims, now)

theorem introspect_eq : introspect headers state body = (do
    let (token, _, now) ← recordOnline headers state body state.introspectionEndpoint
    let response ← introspectionResponseForToken state token now
    pure (tokenHeaders, response)) := by
  simp only [introspect, recordOnline, bind_assoc, pure_bind]

theorem revoke_eq : revoke headers state body = (do
    let (token, _, now) ← recordOnline headers state body state.revocationEndpoint
    let tokenClaims ← verifiedStsAccessToken state token now false
    revokeIfActive state token tokenClaims
    pure tokenHeaders) := by
  simp only [revoke, recordOnline, bind_assoc, pure_bind]

/-- The client part of an online request. -/
def onlineClientRequest (form : OnlineTokenForm) : ExchangeRequest :=
  { ExchangeRequest.default with
    clientId := form.clientId
    clientAssertion := form.clientAssertion
    clientAssertionType := form.clientAssertionType }

/-- What an online request has passed when its client's assertion is recorded. -/
structure OnlineVerified (headers : HeaderMap) (state : HttpState) (body : Bytes)
    (endpoint : String) (t : List Ev) (token : String) (claims : AssertionClaims) : Prop where
  form : ∃ form, parseOnlineTokenForm headers body = .ok form ∧
    requiredOnlineToken form state.config.maxTokenLen = .ok token ∧
    ClientAuthenticated state (onlineClientRequest form) endpoint t claims

theorem returns_verifyOnline {endpoint token : String} {claims : AssertionClaims}
    (h : Returns (verifyOnline headers state body endpoint) t (token, claims)) :
    OnlineVerified headers state body endpoint t token claims := by
  simp only [verifyOnline, liftM_eq, returns_ofExcept_bind] at h
  obtain ⟨form, hform, token', htoken, h⟩ := h
  rw [returns_bind] at h
  obtain ⟨claims', t₁, t₂, rfl, hclient, h⟩ := h
  rw [pure_eq, returns_done] at h
  obtain ⟨rfl, hout⟩ := h
  cases hout
  simp only [authenticateOnlineClient, liftM_eq, returns_ofExcept_bind] at hclient
  obtain ⟨-, -, hclient⟩ := hclient
  have hauth := returns_authenticateClient hclient
  exact ⟨form, hform, htoken, hauth.mono (List.subset_append_left _ _)⟩

/-- The end of the trace is the reading, the record and the next reading. -/
theorem returns_recordOnline {endpoint token : String} {claims : AssertionClaims} {now : Int64}
    (h : Returns (recordOnline headers state body endpoint) t (token, claims, now)) :
    ∃ t₁ recordNow, t = t₁ ++ [nowIs recordNow,
        recordIs (clientCredential claims).key (clientCredential claims).exp recordNow (.ok ()),
        nowIs now] ∧
      (∀ ev ∈ t₁, ReadsClock ev.1) ∧
      OnlineVerified headers state body endpoint t₁ token claims := by
  rw [recordOnline, returns_bind] at h
  obtain ⟨⟨token', claims'⟩, t₁, t₂, rfl, hverify, h⟩ := h
  rw [returns_unixNow_bind] at h
  obtain ⟨recordNow, t₃, rfl, h⟩ := h
  rw [returns_bind] at h
  obtain ⟨_, t₄, t₅, rfl, hrecord, h⟩ := h
  rw [returns_unixNow_bind] at h
  obtain ⟨now', t₆, rfl, h⟩ := h
  rw [pure_eq, returns_done] at h
  obtain ⟨rfl, hout⟩ := h
  cases hout
  have hverified := returns_verifyOnline hverify
  obtain ⟨form, -, -, hauth⟩ := hverified.form
  rw [recordClientAssertionReplay_eq hauth.jti, returns_checkAndRecord] at hrecord
  exact ⟨t₁, recordNow, by rw [hrecord]; rfl, only_verifyOnline.of_mem hverify, hverified⟩

/-! ### Recordings -/

/-- The calls that record nothing. -/
def RecordsNothing (c : Call) : Prop := ∀ key exp now, c ≠ .checkAndRecord key exp now

omit [Crates] in
theorem ReadsClock.recordsNothing {c : Call} (h : ReadsClock c) : RecordsNothing c := by
  rw [ReadsClock] at h
  rintro key exp now rfl
  cases h

theorem only_verifiedStsAccessToken {token : String} {now : Int64} {checkRevocation : Bool} :
    Only RecordsNothing (verifiedStsAccessToken state token now checkRevocation) := by
  unfold verifiedStsAccessToken
  split
  · exact only_done
  · split
    · refine only_bind (only_perform ?_) fun _ => only_done
      rintro key exp now' heq
      cases heq
    · exact only_done

theorem only_revokeIfActive {token : String} {claims : Option MintedClaims} :
    Only RecordsNothing (revokeIfActive state token claims) := by
  unfold revokeIfActive
  split
  · exact only_done
  · refine only_bind (only_perform (ReadsClock.recordsNothing rfl)) fun now => ?_
    refine only_bind (only_perform ?_) fun _ => only_ofExcept
    rintro key exp now' heq
    cases heq

/-- A record of an online request uses a moment it has read. -/
theorem now_of_calls_recordOnline {endpoint key : String} {exp now : Int64}
    (h : Calls (recordOnline headers state body endpoint) t (.checkAndRecord key exp now)) :
    nowIs now ∈ t := by
  rw [recordOnline, calls_bind] at h
  rcases h with h | ⟨⟨token, claims⟩, t₁, t₂, rfl, hverify, h⟩
  · cases only_verifyOnline _ _ h
  · rw [calls_unixNow_bind] at h
    rcases h with ⟨-, hwrong⟩ | ⟨recordNow, t₃, rfl, h⟩
    · cases hwrong
    · rw [calls_bind] at h
      rcases h with h | ⟨_, t₄, t₅, rfl, -, h⟩
      · rw [recordClientAssertionReplay, liftM_eq, calls_ofExcept_bind] at h
        obtain ⟨jti, -, h⟩ := h
        obtain ⟨-, heq⟩ := calls_checkAndRecord.mp h
        cases heq
        simp
      · rw [calls_unixNow_bind] at h
        rcases h with ⟨-, hwrong⟩ | ⟨now', t₆, -, h⟩
        · cases hwrong
        · exact absurd h calls_done

/-- A record of a token request uses the moment of its plan. -/
theorem now_of_calls_tokenInner {key : String} {exp now : Int64}
    (h : Calls (tokenInner headers state body) t (.checkAndRecord key exp now)) :
    nowIs now ∈ t := by
  rw [tokenInner_eq, calls_bind] at h
  rcases h with h | ⟨plan, t₁, t₂, rfl, hplan, h⟩
  · cases only_planExchange _ _ h
  · obtain ⟨mode, request, hplanned⟩ := returns_planExchange hplan
    rw [commit, calls_bind] at h
    rcases h with h | ⟨_, t₃, t₄, rfl, -, h⟩
    · obtain ⟨credential, -, heq⟩ := calls_recordAll h
      cases heq
      exact List.mem_append_left _ hplanned.now
    · rcases calls_issueToken h with hwrong | ⟨claims, hwrong⟩
      · cases hwrong
      · cases hwrong

/-- Every record uses a moment that its own request has read from the clock. -/
theorem now_of_calls_handle {request : Request} {key : String} {exp now : Int64}
    (h : Calls (handle state request) t (.checkAndRecord key exp now)) : nowIs now ∈ t := by
  unfold handle at h
  split at h
  · rw [calls_bind] at h
    rcases h with h | ⟨_, t₁, t₂, -, -, h⟩
    · exact now_of_calls_tokenInner h
    · exact absurd h calls_done
  · rw [introspect_eq, bind_assoc, calls_bind] at h
    rcases h with h | ⟨out, t₁, t₂, rfl, -, h⟩
    · exact now_of_calls_recordOnline h
    · -- whatever comes after the last reading records nothing
      refine absurd rfl ((?_ : Only RecordsNothing _) _ _ h key exp now)
      exact only_bind (only_bind (only_bind only_verifiedStsAccessToken fun _ => only_done)
        fun _ => only_done) fun _ => only_done
  · rw [revoke_eq, bind_assoc, calls_bind] at h
    rcases h with h | ⟨out, t₁, t₂, rfl, -, h⟩
    · exact now_of_calls_recordOnline h
    · refine absurd rfl ((?_ : Only RecordsNothing _) _ _ h key exp now)
      exact only_bind (only_bind only_verifiedStsAccessToken fun _ =>
        only_bind only_revokeIfActive fun _ => only_done) fun _ => only_done

/-! ### Answered requests -/

/-- The actor assertion a request presents. -/
def Request.actorToken (request : Request) : Option String :=
  match request.endpoint with
  | .token => (parseTokenForm request.headers request.body).toOption.bind TokenForm.actorToken
  | .introspect => none
  | .revoke => none

/-- The client assertion a request presents. -/
def Request.clientAssertion (request : Request) : Option String :=
  match request.endpoint with
  | .token => (parseTokenForm request.headers request.body).toOption.bind TokenForm.clientAssertion
  | .introspect | .revoke =>
      (parseOnlineTokenForm request.headers request.body).toOption.bind
        OnlineTokenForm.clientAssertion

/-- An answer is that of the endpoint the request was sent to. -/
theorem returns_handle {request : Request} {reply : Reply}
    (h : Returns (handle state request) t reply) :
    (request.endpoint = .token ∧ ∃ headers' response,
      Returns (tokenInner request.headers state request.body) t (headers', response) ∧
        reply = .token headers' response) ∨
    (request.endpoint = .introspect ∧ ∃ headers' response,
      Returns (introspect request.headers state request.body) t (headers', response) ∧
        reply = .introspection headers' response) ∨
    (request.endpoint = .revoke ∧ ∃ headers',
      Returns (revoke request.headers state request.body) t headers' ∧
        reply = .revocation headers') := by
  unfold handle at h
  split at h
  · next hendpoint =>
      rw [returns_bind] at h
      obtain ⟨⟨headers', response⟩, t₁, t₂, rfl, hout, h⟩ := h
      obtain ⟨rfl, rfl⟩ := returns_done.mp h
      rw [List.append_nil]
      exact Or.inl ⟨hendpoint, headers', response, hout, rfl⟩
  · next hendpoint =>
      rw [returns_bind] at h
      obtain ⟨⟨headers', response⟩, t₁, t₂, rfl, hout, h⟩ := h
      obtain ⟨rfl, rfl⟩ := returns_done.mp h
      rw [List.append_nil]
      exact Or.inr (Or.inl ⟨hendpoint, headers', response, hout, rfl⟩)
  · next hendpoint =>
      rw [returns_bind] at h
      obtain ⟨headers', t₁, t₂, rfl, hout, h⟩ := h
      obtain ⟨rfl, rfl⟩ := returns_done.mp h
      rw [List.append_nil]
      exact Or.inr (Or.inr ⟨hendpoint, headers', hout, rfl⟩)

/-- A token is the answer of the token endpoint. -/
theorem returns_handle_token {request : Request} {headers' : HeaderMap} {response : TokenResponse}
    (h : Returns (handle state request) t (.token headers' response)) :
    request.endpoint = .token ∧
      Returns (tokenInner request.headers state request.body) t (headers', response) := by
  rcases returns_handle h with ⟨hendpoint, _, _, hout, heq⟩ | ⟨_, _, _, _, heq⟩ | ⟨_, _, _, heq⟩
  · cases heq
    exact ⟨hendpoint, hout⟩
  · cases heq
  · cases heq

/-- A minted token was planned, and every credential of the plan recorded. -/
theorem plan_of_returns_tokenInner {out : HeaderMap × TokenResponse}
    (h : Returns (tokenInner headers state body) t out) :
    ∃ mode request plan, Planned headers state body t mode request plan ∧
      ∀ credential ∈ plan.credentials,
        recordIs credential.key credential.exp plan.now (.ok ()) ∈ t := by
  obtain ⟨plan, t₁, jti, token, hplan, rfl, -⟩ := returns_tokenInner.mp h
  obtain ⟨mode, request, hplanned⟩ := returns_planExchange hplan
  refine ⟨mode, request, plan, hplanned.mono (List.subset_append_left _ _), fun credential hmem => ?_⟩
  rw [List.mem_append, List.mem_append]
  exact Or.inr (Or.inl (List.mem_map_of_mem hmem))

/-- A token request that presented an actor assertion and was answered has
recorded the assertion. -/
theorem actor_recorded {out : HeaderMap × TokenResponse} {form : TokenForm} {actorToken : String}
    (h : Returns (tokenInner headers state body) t out)
    (hform : parseTokenForm headers body = .ok form) (hactor : form.actorToken = some actorToken) :
    ∃ claims alg kid typ now, verifyClaimsAgainstJwksWithAllowedAlgs Crates.assertionFromSlice
        actorToken state.actorJwks state.config.inboundAssertionAlgs =
          .ok ⟨claims, alg, kid, typ⟩ ∧
      recordIs (actorCredential claims).key claims.exp now (.ok ()) ∈ t := by
  obtain ⟨mode, request, plan, hplanned, hrecorded⟩ := plan_of_returns_tokenInner h
  obtain ⟨form', hform', rfl, -⟩ := hplanned.verified.form
  cases hform.symm.trans hform'
  rcases hplanned.granted with ⟨-, grant, hgrant, hplan⟩ | ⟨-, grant, hgrant, -⟩
  · obtain ⟨actorToken', hactorToken, haccepted⟩ := hgrant.actor
    cases hactor.symm.trans hactorToken
    obtain ⟨alg, kid, typ, hclaims, -⟩ := haccepted.verified
    have hmem : actorCredential grant.actorClaims ∈ plan.credentials := by
      rw [hplan]
      exact List.mem_cons_self ..
    exact ⟨grant.actorClaims, alg, kid, typ, plan.now, hclaims, hrecorded _ hmem⟩
  · cases hactor.symm.trans hgrant.noActor

/-- The client of a plan is one of its credentials. -/
theorem Planned.clientCredential_mem {mode : EffectiveExchangeMode} {request : ExchangeRequest}
    {plan : Plan} {claims : AssertionClaims}
    (h : Planned headers state body t mode request plan)
    (hclaims : plan.exchange.clientClaims = some claims) :
    clientCredential claims ∈ plan.credentials := by
  rcases h.granted with ⟨-, grant, -, hplan⟩ | ⟨-, grant, hgrant, hplan⟩
  · rw [hplan]
    simp [delegationPlan, hclaims]
  · cases hclaims.symm.trans hgrant.client
    rw [hplan]
    exact List.mem_cons_self ..

/-- The proof of a plan is one of its credentials. -/
theorem Planned.dpopCredential_mem {mode : EffectiveExchangeMode} {request : ExchangeRequest}
    {plan : Plan} {binding : DpopBinding}
    (h : Planned headers state body t mode request plan)
    (hbinding : plan.exchange.dpopBinding = some binding) :
    dpopCredential binding ∈ plan.credentials := by
  rcases h.granted with ⟨-, grant, -, hplan⟩ | ⟨-, grant, -, hplan⟩
  · rw [hplan]
    simp [delegationPlan, hbinding]
  · rw [hplan]
    simp [impersonationPlan, hbinding]

/-- An authenticated client presented an assertion that verified. -/
theorem ClientAuthenticated.verified {request : ExchangeRequest} {endpoint assertion : String}
    {claims : AssertionClaims} (h : ClientAuthenticated state request endpoint t claims)
    (hassertion : request.clientAssertion = some assertion) :
    ∃ alg kid typ, verifyClaimsAgainstJwksWithAllowedAlgs Crates.assertionFromSlice assertion
      state.clientJwks state.config.inboundAssertionAlgs = .ok ⟨claims, alg, kid, typ⟩ := by
  obtain ⟨assertion', hassertion', haccepted⟩ := h.accepted
  cases hassertion.symm.trans hassertion'
  obtain ⟨alg, kid, typ, hclaims, -⟩ := haccepted.verified
  exact ⟨alg, kid, typ, hclaims⟩

theorem client_recorded_token {out : HeaderMap × TokenResponse} {form : TokenForm}
    {assertion : String} (h : Returns (tokenInner headers state body) t out)
    (hform : parseTokenForm headers body = .ok form)
    (hassertion : form.clientAssertion = some assertion) :
    ∃ claims alg kid typ now, verifyClaimsAgainstJwksWithAllowedAlgs Crates.assertionFromSlice
        assertion state.clientJwks state.config.inboundAssertionAlgs = .ok ⟨claims, alg, kid, typ⟩ ∧
      recordIs (clientCredential claims).key claims.exp now (.ok ()) ∈ t := by
  obtain ⟨mode, request, plan, hplanned, hrecorded⟩ := plan_of_returns_tokenInner h
  obtain ⟨form', hform', rfl, -⟩ := hplanned.verified.form
  cases hform.symm.trans hform'
  rcases hplanned.verified.client with ⟨hnone, -⟩ | ⟨claims, -, hclaims, hauth⟩
  · have hauth : hasClientAuth form.intoExchangeRequest = true := by
      simp [hasClientAuth, TokenForm.intoExchangeRequest, hassertion]
    cases hauth.symm.trans hnone
  · obtain ⟨alg, kid, typ, hverified⟩ := hauth.verified hassertion
    exact ⟨claims, alg, kid, typ, plan.now, hverified,
      hrecorded _ (hplanned.clientCredential_mem hclaims)⟩

theorem client_recorded_online {endpoint token assertion : String} {claims : AssertionClaims}
    {now : Int64} {form : OnlineTokenForm}
    (h : Returns (recordOnline headers state body endpoint) t (token, claims, now))
    (hform : parseOnlineTokenForm headers body = .ok form)
    (hassertion : form.clientAssertion = some assertion) :
    ∃ alg kid typ now, verifyClaimsAgainstJwksWithAllowedAlgs Crates.assertionFromSlice
        assertion state.clientJwks state.config.inboundAssertionAlgs = .ok ⟨claims, alg, kid, typ⟩ ∧
      recordIs (clientCredential claims).key claims.exp now (.ok ()) ∈ t := by
  obtain ⟨t₁, recordNow, rfl, -, hverified⟩ := returns_recordOnline h
  obtain ⟨form', hform', -, hauth⟩ := hverified.form
  cases hform.symm.trans hform'
  obtain ⟨alg, kid, typ, hclaims⟩ := hauth.verified hassertion
  refine ⟨alg, kid, typ, recordNow, hclaims, ?_⟩
  simp [clientCredential]

/-- A request that presented a client assertion and was answered has recorded the
assertion. -/
theorem client_recorded {request : Request} {reply : Reply} {assertion : String}
    (h : Returns (handle state request) t reply)
    (hclient : request.clientAssertion = some assertion) :
    ∃ claims alg kid typ now, verifyClaimsAgainstJwksWithAllowedAlgs Crates.assertionFromSlice
        assertion state.clientJwks state.config.inboundAssertionAlgs = .ok ⟨claims, alg, kid, typ⟩ ∧
      recordIs (clientCredential claims).key claims.exp now (.ok ()) ∈ t := by
  obtain ⟨hendpoint, headers', response, hout, -⟩ | ⟨hendpoint, headers', response, hout, -⟩ |
    ⟨hendpoint, headers', hout, -⟩ := returns_handle h
  · simp only [Request.clientAssertion, hendpoint, Option.bind_eq_some_iff, toOption_eq_some]
      at hclient
    obtain ⟨form, hform, hassertion⟩ := hclient
    exact client_recorded_token hout hform hassertion
  · simp only [Request.clientAssertion, hendpoint, Option.bind_eq_some_iff, toOption_eq_some]
      at hclient
    obtain ⟨form, hform, hassertion⟩ := hclient
    rw [introspect_eq, returns_bind] at hout
    obtain ⟨⟨token, claims, now⟩, t₁, t₂, rfl, hrecord, -⟩ := hout
    obtain ⟨alg, kid, typ, now', hverified, hmem⟩ := client_recorded_online hrecord hform hassertion
    exact ⟨claims, alg, kid, typ, now', hverified, List.mem_append_left _ hmem⟩
  · simp only [Request.clientAssertion, hendpoint, Option.bind_eq_some_iff, toOption_eq_some]
      at hclient
    obtain ⟨form, hform, hassertion⟩ := hclient
    rw [revoke_eq, returns_bind] at hout
    obtain ⟨⟨token, claims, now⟩, t₁, t₂, rfl, hrecord, -⟩ := hout
    obtain ⟨alg, kid, typ, now', hverified, hmem⟩ := client_recorded_online hrecord hform hassertion
    exact ⟨claims, alg, kid, typ, now', hverified, List.mem_append_left _ hmem⟩

end StsDelegate
