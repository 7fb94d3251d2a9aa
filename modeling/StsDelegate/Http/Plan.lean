import StsDelegate.Http.Gates

/-!
# Plans

An abstract view of the token endpoint. All gates together produce a **plan**: the
moment of issue, the credentials to be recorded in their order, and what goes into
the token. Carrying out a plan (`commit`) records the credentials one after
another and issues the token. `tokenInner_eq` is the connection: the endpoint is
planning followed by commitment, in both modes.

Whatever is said about single use, atomicity and failing requests is said about
plans, where the two modes differ by the list of credentials only.
-/

namespace StsDelegate

open Text Fallible Effectful Prog

/-- A single-use credential at the moment it is recorded: its replay key, how
long it is remembered, and the response when it is refused. -/
structure Credential where
  key : String
  exp : Int64
  refusal : ReplayError → HttpError

/-- Record credentials one after another, up to the first refusal. -/
def recordAll (now : Int64) : List Credential → Handler HttpError Unit
  | [] => pure ()
  | credential :: rest => do
      checkAndRecord credential.key credential.exp now credential.refusal
      recordAll now rest

def actorCredential (claims : AssertionClaims) : Credential :=
  ⟨actorReplayKey claims.sub (claims.jti.getD ""), claims.exp, mapReplayError⟩

def clientCredential (claims : AssertionClaims) : Credential :=
  ⟨clientReplayKey claims.sub (trim (claims.jti.getD "")), claims.exp,
    mapClientAssertionReplayError⟩

variable [Crates]

def dpopCredential (binding : DpopBinding) : Credential :=
  ⟨dpopReplayKey binding.jkt binding.jti, binding.replayExpiresAt, mapDpopReplayError⟩

/-- What the gates of a request decide. -/
structure Plan where
  exchange : VerifiedExchange
  signingDecision : SigningDecision
  now : Int64
  credentials : List Credential
  assertionExp : Int64
  clientId : String
  act : Option ActClaim

namespace Plan

/-- The claims of the planned token, once its id is drawn. -/
def payload (state : HttpState) (plan : Plan) (jti : String) : MintedClaims :=
  mintedPayload state plan.exchange plan.now plan.assertionExp plan.clientId plan.act jti

/-- The trace of recording all credentials of the plan. -/
def recorded (plan : Plan) : List Ev :=
  plan.credentials.map fun credential => recordIs credential.key credential.exp plan.now (.ok ())

end Plan

def delegationPlan (exchange : VerifiedExchange) (grant : DelegationGrant) : Plan where
  exchange := exchange
  signingDecision := grant.signingDecision
  now := grant.now
  credentials := actorCredential grant.actorClaims ::
    (exchange.clientClaims.toList.map clientCredential ++
      exchange.dpopBinding.toList.map dpopCredential)
  assertionExp := grant.actorClaims.exp
  clientId := grant.actorClaims.sub
  act := some grant.act

def impersonationPlan (exchange : VerifiedExchange) (grant : ImpersonationGrant) : Plan where
  exchange := exchange
  signingDecision := grant.signingDecision
  now := grant.now
  credentials := clientCredential grant.clientClaims ::
    exchange.dpopBinding.toList.map dpopCredential
  assertionExp := grant.clientClaims.exp
  clientId := grant.clientClaims.sub
  act := none

/-- The gates of a mode, up to the plan. -/
def planIn (state : HttpState) (mode : EffectiveExchangeMode) (request : ExchangeRequest)
    (exchange : VerifiedExchange) : Handler HttpError Plan :=
  match mode with
  | .delegation => do
      let grant ← delegationGates state request exchange
      pure (delegationPlan exchange grant)
  | .impersonation => do
      let grant ← impersonationGates state request exchange
      pure (impersonationPlan exchange grant)

/-- All gates of a token request. -/
def planExchange (headers : HeaderMap) (state : HttpState) (body : Bytes) :
    Handler HttpError Plan := do
  let (mode, request, exchange) ← verifyExchange headers state body
  planIn state mode request exchange

/-- Carry out a plan. -/
def commit (state : HttpState) (plan : Plan) : Handler HttpError (HeaderMap × TokenResponse) := do
  recordAll plan.now plan.credentials
  issueToken state plan.exchange plan.signingDecision plan.now plan.assertionExp plan.clientId
    plan.act

/-! ### The endpoint is planning and commitment -/

omit [Crates] in
/-- Recording an authenticated client's assertion is recording its credential. -/
theorem recordClientAssertionReplay_eq {claims : AssertionClaims} {now : Int64}
    (h : clientAssertionJti claims = .ok (trim (claims.jti.getD ""))) :
    recordClientAssertionReplay claims now =
      checkAndRecord (clientCredential claims).key (clientCredential claims).exp now
        (clientCredential claims).refusal := by
  rw [recordClientAssertionReplay, h]
  rfl

theorem recordIfPresent_dpop (binding : Option DpopBinding) (now : Int64) :
    recordIfPresent (recordDpopReplay · now) binding =
      recordAll now (binding.toList.map dpopCredential) := by
  cases binding with
  | none => rfl
  | some binding => exact (bind_done _).symm

theorem commitDelegation_eq {exchange : VerifiedExchange} {grant : DelegationGrant}
    (hclient : ∀ claims, exchange.clientClaims = some claims →
      clientAssertionJti claims = .ok (trim (claims.jti.getD "")))
    (hjti : grant.actorClaims.jti = some grant.actorJti) (state : HttpState) :
    commitDelegation state exchange grant = commit state (delegationPlan exchange grant) := by
  unfold commitDelegation commit
  rw [recordIfPresent_dpop]
  simp only [delegationPlan, actorCredential, hjti, Option.getD_some, recordAll, bind_assoc]
  congr 1
  funext _
  cases hclaims : exchange.clientClaims with
  | none => rfl
  | some claims =>
      simp only [recordIfPresent, Option.toList_some, List.map_cons, List.map_nil,
        List.cons_append, List.nil_append, recordAll, bind_assoc]
      rw [recordClientAssertionReplay_eq (hclient claims hclaims)]

theorem commitImpersonation_eq {exchange : VerifiedExchange} {grant : ImpersonationGrant}
    (hclient : clientAssertionJti grant.clientClaims =
      .ok (trim (grant.clientClaims.jti.getD ""))) (state : HttpState) :
    commitImpersonation state exchange grant = commit state (impersonationPlan exchange grant) := by
  unfold commitImpersonation commit
  rw [recordIfPresent_dpop, recordClientAssertionReplay_eq hclient]
  simp only [impersonationPlan, recordAll, bind_assoc]

/-- The client of a verified exchange has a usable token id. -/
theorem ExchangeVerified.client_jti {headers : HeaderMap} {state : HttpState} {body : Bytes}
    {t : List Ev} {mode : EffectiveExchangeMode} {request : ExchangeRequest}
    {exchange : VerifiedExchange}
    (h : ExchangeVerified headers state body t mode request exchange) {claims : AssertionClaims}
    (hclaims : exchange.clientClaims = some claims) :
    clientAssertionJti claims = .ok (trim (claims.jti.getD "")) := by
  rcases h.client with ⟨-, hnone⟩ | ⟨claims', -, hsome, hauth⟩
  · rw [hnone] at hclaims
    cases hclaims
  · rw [hsome] at hclaims
    cases hclaims
    exact hauth.jti

/-- **The token endpoint plans and then commits.** -/
theorem tokenInner_eq (headers : HeaderMap) (state : HttpState) (body : Bytes) :
    tokenInner headers state body = planExchange headers state body >>= commit state := by
  unfold tokenInner planExchange
  rw [bind_assoc]
  apply bind_congr_returns
  rintro t ⟨mode, request, exchange⟩ hverify
  have hverified := returns_verifyExchange hverify
  cases mode with
  | delegation =>
      simp only [exchangeIn, exchangeDelegation, planIn, bind_assoc]
      apply bind_congr_returns
      intro t' grant hgrant
      rw [pure_bind]
      exact commitDelegation_eq (fun claims => hverified.client_jti)
        (returns_delegationGates hgrant).jti state
  | impersonation =>
      simp only [exchangeIn, exchangeImpersonation, planIn, bind_assoc]
      apply bind_congr_returns
      intro t' grant hgrant
      rw [pure_bind]
      exact commitImpersonation_eq
        (hverified.client_jti (returns_impersonationGates hgrant).client) state

/-! ### What a plan rests on -/

/-- A plan, and the request it was made for. -/
structure Planned (headers : HeaderMap) (state : HttpState) (body : Bytes) (t : List Ev)
    (mode : EffectiveExchangeMode) (request : ExchangeRequest) (plan : Plan) : Prop where
  verified : ExchangeVerified headers state body t mode request plan.exchange
  granted :
    (mode = .delegation ∧ ∃ grant, DelegationGranted state request plan.exchange t grant ∧
      plan = delegationPlan plan.exchange grant) ∨
    (mode = .impersonation ∧ ∃ grant, ImpersonationGranted state request plan.exchange t grant ∧
      plan = impersonationPlan plan.exchange grant)
  now : nowIs plan.now ∈ t

theorem ExchangeVerified.mono {headers : HeaderMap} {state : HttpState} {body : Bytes}
    {t t' : List Ev} {mode : EffectiveExchangeMode} {request : ExchangeRequest}
    {exchange : VerifiedExchange}
    (h : ExchangeVerified headers state body t mode request exchange) (hsub : t ⊆ t') :
    ExchangeVerified headers state body t' mode request exchange := by
  obtain ⟨now, hnow, hdpop⟩ := h.dpop
  refine { h with client := ?_, dpop := ⟨now, hsub hnow, hdpop⟩, subject := h.subject.mono hsub }
  rcases h.client with hnone | ⟨claims, hhas, hsome, hauth⟩
  · exact Or.inl hnone
  · exact Or.inr ⟨claims, hhas, hsome, hauth.mono hsub⟩

theorem DelegationGranted.mono {state : HttpState} {request : ExchangeRequest}
    {exchange : VerifiedExchange} {t t' : List Ev} {grant : DelegationGrant}
    (h : DelegationGranted state request exchange t grant) (hsub : t ⊆ t') :
    DelegationGranted state request exchange t' grant := by
  obtain ⟨actorToken, hactor, haccepted⟩ := h.actor
  exact { h with actor := ⟨actorToken, hactor, haccepted.mono hsub⟩, now := hsub h.now }

theorem ImpersonationGranted.mono {state : HttpState} {request : ExchangeRequest}
    {exchange : VerifiedExchange} {t t' : List Ev} {grant : ImpersonationGrant}
    (h : ImpersonationGranted state request exchange t grant) (hsub : t ⊆ t') :
    ImpersonationGranted state request exchange t' grant :=
  { h with now := hsub h.now }

theorem Planned.mono {headers : HeaderMap} {state : HttpState} {body : Bytes} {t t' : List Ev}
    {mode : EffectiveExchangeMode} {request : ExchangeRequest} {plan : Plan}
    (h : Planned headers state body t mode request plan) (hsub : t ⊆ t') :
    Planned headers state body t' mode request plan := by
  refine ⟨h.verified.mono hsub, ?_, hsub h.now⟩
  rcases h.granted with ⟨hmode, grant, hgrant, hplan⟩ | ⟨hmode, grant, hgrant, hplan⟩
  · exact Or.inl ⟨hmode, grant, hgrant.mono hsub, hplan⟩
  · exact Or.inr ⟨hmode, grant, hgrant.mono hsub, hplan⟩

theorem returns_planExchange {headers : HeaderMap} {state : HttpState} {body : Bytes}
    {t : List Ev} {plan : Plan} (h : Returns (planExchange headers state body) t plan) :
    ∃ mode request, Planned headers state body t mode request plan := by
  unfold planExchange at h
  rw [returns_bind] at h
  obtain ⟨⟨mode, request, exchange⟩, t₁, t₂, rfl, hverify, h⟩ := h
  have hverified := (returns_verifyExchange hverify).mono (List.subset_append_left t₁ t₂)
  refine ⟨mode, request, ?_⟩
  cases mode with
  | delegation =>
      simp only [planIn] at h
      rw [returns_bind] at h
      obtain ⟨grant, t₃, t₄, rfl, hgrant, h⟩ := h
      rw [pure_eq, returns_done] at h
      obtain ⟨rfl, rfl⟩ := h
      have hgranted := returns_delegationGates hgrant
      have hsub : t₃ ⊆ t₁ ++ (t₃ ++ []) := by simp
      exact ⟨hverified, Or.inl ⟨rfl, grant, hgranted.mono hsub, rfl⟩, hsub hgranted.now⟩
  | impersonation =>
      simp only [planIn] at h
      rw [returns_bind] at h
      obtain ⟨grant, t₃, t₄, rfl, hgrant, h⟩ := h
      rw [pure_eq, returns_done] at h
      obtain ⟨rfl, rfl⟩ := h
      have hgranted := returns_impersonationGates hgrant
      have hsub : t₃ ⊆ t₁ ++ (t₃ ++ []) := by simp
      exact ⟨hverified, Or.inr ⟨rfl, grant, hgranted.mono hsub, rfl⟩, hsub hgranted.now⟩

/-- Planning only reads the clock. -/
theorem only_planExchange {headers : HeaderMap} {state : HttpState} {body : Bytes} :
    Only ReadsClock (planExchange headers state body) := by
  refine only_bind only_verifyExchange ?_
  rintro ⟨mode, request, exchange⟩
  cases mode with
  | delegation => exact only_bind only_delegationGates fun _ => only_done
  | impersonation => exact only_bind only_impersonationGates fun _ => only_done

/-! ### The traces of a commitment -/

omit [Crates] in
theorem returns_recordAll {now : Int64} {credentials : List Credential} {t : List Ev} {u : Unit} :
    Returns (recordAll now credentials) t u ↔
      t = credentials.map fun c => recordIs c.key c.exp now (.ok ()) := by
  induction credentials generalizing t with
  | nil => simp [recordAll]
  | cons c rest ih =>
      rw [recordAll, returns_bind]
      constructor
      · rintro ⟨_, t₁, t₂, rfl, h₁, h₂⟩
        rw [returns_checkAndRecord.mp h₁, ih.mp h₂]
        rfl
      · rintro rfl
        exact ⟨(), [recordIs c.key c.exp now (.ok ())], _, rfl, returns_checkAndRecord.mpr rfl,
          ih.mpr rfl⟩

omit [Crates] in
/-- Recording fails at the first refused credential; those before it stay
recorded. -/
theorem fails_recordAll {now : Int64} {credentials : List Credential} {t : List Ev}
    {e : HttpError} (h : Fails (recordAll now credentials) t e) :
    ∃ before c after err, credentials = before ++ c :: after ∧
      t = (before.map fun c => recordIs c.key c.exp now (.ok ())) ++
        [recordIs c.key c.exp now (.error err)] ∧ e = c.refusal err := by
  induction credentials generalizing t with
  | nil => simp [recordAll] at h
  | cons c rest ih =>
      rw [recordAll, fails_bind] at h
      rcases h with h | ⟨_, t₁, t₂, rfl, h₁, h₂⟩
      · obtain ⟨err, rfl, rfl⟩ := fails_checkAndRecord.mp h
        exact ⟨[], c, rest, err, rfl, rfl, rfl⟩
      · obtain ⟨before, c', after, err, rfl, rfl, rfl⟩ := ih h₂
        refine ⟨c :: before, c', after, err, rfl, ?_, rfl⟩
        rw [returns_checkAndRecord.mp h₁]
        rfl

omit [Crates] in
theorem calls_recordAll {now : Int64} {credentials : List Credential} {t : List Ev} {c : Call}
    (h : Calls (recordAll now credentials) t c) :
    ∃ credential ∈ credentials, c = .checkAndRecord credential.key credential.exp now := by
  induction credentials generalizing t with
  | nil => simp [recordAll] at h
  | cons credential rest ih =>
      rw [recordAll, calls_bind] at h
      rcases h with h | ⟨_, t₁, t₂, -, -, h₂⟩
      · exact ⟨credential, List.mem_cons_self .., (calls_checkAndRecord.mp h).2⟩
      · obtain ⟨credential', hmem, hc⟩ := ih h₂
        exact ⟨credential', List.mem_cons_of_mem _ hmem, hc⟩

section Issue

variable {state : HttpState} {exchange : VerifiedExchange} {signingDecision : SigningDecision}
  {now assertionExp : Int64} {clientId : String} {act : Option ActClaim} {t : List Ev}

theorem returns_issueToken {out : HeaderMap × TokenResponse} :
    Returns (issueToken state exchange signingDecision now assertionExp clientId act) t out ↔
      ∃ jti token, t = [⟨.newJti, jti⟩,
          signIs (mintedPayload state exchange now assertionExp clientId act jti) (.ok token)] ∧
        out = (tokenHeaders, tokenResponse exchange signingDecision
          (mintedPayload state exchange now assertionExp clientId act jti) token) := by
  unfold issueToken
  rw [returns_bind]
  constructor
  · rintro ⟨jti, t₁, t₂, rfl, h₁, h₂⟩
    rw [returns_bind] at h₂
    obtain ⟨token, t₃, t₄, rfl, h₃, h₄⟩ := h₂
    rw [pure_eq, returns_done] at h₄
    obtain ⟨rfl, rfl⟩ := h₄
    exact ⟨jti, token, by rw [returns_newJti.mp h₁, returns_signClaims.mp h₃]; rfl, rfl⟩
  · rintro ⟨jti, token, rfl, rfl⟩
    refine ⟨jti, [⟨.newJti, jti⟩], _, rfl, returns_newJti.mpr rfl, ?_⟩
    rw [returns_bind]
    exact ⟨token, _, [], (List.append_nil _).symm, returns_signClaims.mpr rfl, by simp⟩

theorem fails_issueToken {e : HttpError}
    (h : Fails (issueToken state exchange signingDecision now assertionExp clientId act) t e) :
    ∃ jti err, t = [⟨.newJti, jti⟩,
      signIs (mintedPayload state exchange now assertionExp clientId act jti) (.error err)] := by
  unfold issueToken at h
  rw [fails_bind] at h
  rcases h with h | ⟨jti, t₁, t₂, rfl, h₁, h₂⟩
  · exact absurd h fails_perform
  · rw [fails_bind] at h₂
    rcases h₂ with h₂ | ⟨token, t₃, t₄, rfl, -, h₄⟩
    · obtain ⟨err, rfl, -⟩ := fails_signClaims.mp h₂
      exact ⟨jti, err, by rw [returns_newJti.mp h₁]; rfl⟩
    · exact absurd h₄ fails_done

theorem calls_issueToken {c : Call}
    (h : Calls (issueToken state exchange signingDecision now assertionExp clientId act) t c) :
    c = .newJti ∨ ∃ claims, c = .signClaims claims := by
  unfold issueToken at h
  rw [calls_bind] at h
  rcases h with h | ⟨jti, t₁, t₂, -, -, h₂⟩
  · exact Or.inl (calls_perform.mp h).2
  · rw [calls_bind] at h₂
    rcases h₂ with h₂ | ⟨token, t₃, t₄, -, -, h₄⟩
    · exact Or.inr ⟨_, (calls_signClaims.mp h₂).2⟩
    · exact absurd h₄ calls_done

end Issue

/-- A token is issued exactly by planning, recording every credential of the plan
and signing. -/
theorem returns_tokenInner {headers : HeaderMap} {state : HttpState} {body : Bytes} {t : List Ev}
    {out : HeaderMap × TokenResponse} :
    Returns (tokenInner headers state body) t out ↔
      ∃ plan t₁ jti token, Returns (planExchange headers state body) t₁ plan ∧
        t = t₁ ++ (plan.recorded ++
          [⟨.newJti, jti⟩, signIs (plan.payload state jti) (.ok token)]) ∧
        out = (tokenHeaders,
          tokenResponse plan.exchange plan.signingDecision (plan.payload state jti) token) := by
  rw [tokenInner_eq, returns_bind]
  constructor
  · rintro ⟨plan, t₁, t₂, rfl, hplan, hcommit⟩
    rw [commit, returns_bind] at hcommit
    obtain ⟨_, t₃, t₄, rfl, hrecords, hissue⟩ := hcommit
    obtain ⟨jti, token, rfl, rfl⟩ := returns_issueToken.mp hissue
    rw [returns_recordAll.mp hrecords]
    exact ⟨plan, t₁, jti, token, hplan, rfl, rfl⟩
  · rintro ⟨plan, t₁, jti, token, hplan, rfl, rfl⟩
    refine ⟨plan, t₁, _, rfl, hplan, ?_⟩
    rw [commit, returns_bind]
    exact ⟨(), _, _, rfl, returns_recordAll.mpr rfl, returns_issueToken.mpr ⟨jti, token, rfl, rfl⟩⟩

end StsDelegate
