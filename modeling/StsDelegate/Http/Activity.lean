import StsDelegate.Http.Lifetime
import StsDelegate.Http.Refusals
import StsDelegate.Http.SingleUse

/-!
# A token stays active until it is revoked

Revocation works (`Revocation`), and nothing else ends a token before its time: as long as
the clock stands between the moment of issue and the end of the token, an introspection
answers with the very claims that were signed, unless an authenticated client has asked for
the revocation of this token before. What is needed is that an entry of the revocation list
was made by a request of the run (`refusals_justified`), and what such a request has passed
before it made the entry (`revokedBy_of_calls`).
-/

namespace StsDelegate

open Text Fallible Effectful Prog

section Server

variable [Crates] {state : HttpState} {t : List Ev} {token : String}

/-! ### Who revokes -/

/-- The request asks for the revocation of that token, and its client is authenticated. -/
structure RevokedBy (state : HttpState) (request : Request) (t : List Ev) (token : String) :
    Prop where
  endpoint : request.endpoint = .revoke
  token : request.onlineToken = some token
  client : ∃ form claims, parseOnlineTokenForm request.headers request.body = .ok form ∧
    ClientAuthenticated state (onlineClientRequest form) state.revocationEndpoint t claims

theorem RevokedBy.mono {request : Request} {t' : List Ev} (h : RevokedBy state request t token)
    (hsub : t ⊆ t') : RevokedBy state request t' token := by
  obtain ⟨form, claims, hform, hauth⟩ := h.client
  exact { h with client := ⟨form, claims, hform, hauth.mono hsub⟩ }

/-- Only a revocation request with an authenticated client enters a token into the list. -/
theorem Revoking.revokedBy {request : Request} {exp : Int64} {maxSeen : Nat}
    (h : Revoking state request t token exp maxSeen) : RevokedBy state request t token := by
  obtain ⟨t₁, t₂, claims, moment, rfl, hrecord, -⟩ := h.admitted
  obtain ⟨t₃, recordNow, rfl, -, hverified⟩ := returns_recordOnline hrecord
  obtain ⟨form, hform, hrequired, hauth⟩ := hverified.form
  refine ⟨h.endpoint, ?_, form, claims, hform, hauth.mono ?_⟩
  · simp only [requiredOnlineToken, bind_eq_ok, okOr_eq_ok, pure_eq_ok,
      Option.filter_eq_some_iff] at hrequired
    obtain ⟨token', ⟨hsome, -⟩, -, -, rfl⟩ := hrequired
    rw [Request.onlineToken, hform, Except.toOption, Option.bind_some, hsome]
  · rw [List.append_assoc]
    exact List.subset_append_left _ _

/-- Some request of the run has revoked the token, as the log tells. -/
def RevokedInRun (state : HttpState) (w : ServerPool) (before : List (Nat × Ev)) (token : String) :
    Prop :=
  ∃ k revocation prog exp now, w.threads[k]? = some (revocation, prog) ∧
    RevokedBy state revocation (Pool.traceOf k w.log) token ∧
    (k, revokeIs token exp now state.config.maxSeenJti (.ok ())) ∈ before

theorem RevokedIn.inRun (hsha : Function.Injective Crates.sha256) {w : ServerPool}
    (hthreaded : Pool.Threaded (handle state) w) {before : List (Nat × Ev)} {now : Int64}
    (hbefore : before ⊆ w.log) (h : RevokedIn state before now (revocationKey token)) :
    RevokedInRun state w before token := by
  obtain ⟨k, token', exp, now', hkey, hmem, -⟩ := h
  obtain rfl := revocationKey_injective hsha hkey
  obtain ⟨thread, hthread⟩ : ∃ thread, w.threads[k]? = some thread :=
    ⟨_, List.getElem?_eq_getElem (hthreaded.started k _ (hbefore hmem))⟩
  obtain ⟨revocation, prog⟩ := thread
  obtain ⟨t₁, t₂, htrace, hcalls⟩ := calls_of_mem (hthreaded.steps k revocation prog hthread)
    (Pool.mem_traceOf.mpr (hbefore hmem))
  refine ⟨k, revocation, prog, exp, now', hthread, ?_, hmem⟩
  rw [htrace]
  exact (revoking_of_calls_handle hcalls).revokedBy.mono (List.subset_append_left _ _)

/-! ### What an introspection looks at -/

/-- The answer of an introspection: what the token's claims say at a moment that the request has
read, and what the revocation list says. -/
structure LookedUp (state : HttpState) (t : List Ev) (token : String) (moment : Int64)
    (response : Json) : Prop where
  read : nowIs moment ∈ t
  inactive : stsTokenClaims state token moment = none → response = inactiveResponse
  active : ∀ claims, stsTokenClaims state token moment = some claims →
    ∃ revoked : Bool, (⟨.isRevokedOrUnavailable token moment, revoked⟩ : Ev) ∈ t ∧
      response = if revoked then inactiveResponse else activeResponse claims

theorem lookedUp_of_returns {request : Request} {headers : HeaderMap} {response : Json}
    (h : Returns (introspect request.headers state request.body) t (headers, response))
    (htoken : request.onlineToken = some token) :
    ∃ moment, LookedUp state t token moment response := by
  rw [introspect_eq, returns_bind] at h
  obtain ⟨⟨token', assertion, moment⟩, t₁, t₂, rfl, hrecord, h⟩ := h
  obtain rfl := onlineToken_of_returns hrecord htoken
  have hmoment := now_mem_of_returns_recordOnline hrecord
  rw [returns_bind] at h
  obtain ⟨response', t₃, t₄, rfl, hresponse, h⟩ := h
  obtain ⟨-, heq⟩ := returns_done.mp h
  obtain rfl := (Prod.mk.inj heq).2
  rw [introspectionResponseForToken, returns_bind] at hresponse
  obtain ⟨found, t₅, t₆, rfl, hfound, hresponse⟩ := hresponse
  obtain ⟨-, rfl⟩ := returns_done.mp hresponse
  refine ⟨moment, List.mem_append_left _ hmoment, fun hnone => ?_, fun claims hclaims => ?_⟩
  · rw [verifiedStsAccessToken, hnone] at hfound
    obtain ⟨-, rfl⟩ := returns_done.mp hfound
    rfl
  · rw [verifiedStsAccessToken, hclaims] at hfound
    simp only [if_true] at hfound
    rw [returns_bind] at hfound
    obtain ⟨revoked, t₇, t₈, rfl, hlook, hfound⟩ := hfound
    obtain ⟨-, rfl⟩ := returns_done.mp hfound
    rw [isRevokedOrUnavailable, returns_perform] at hlook
    subst hlook
    refine ⟨revoked, by simp, ?_⟩
    cases revoked <;> rfl

/-- **Nothing but its end and its revocation makes a token inactive.** In a run of a started
server, a token that was issued and is introspected later is reported with the claims that were
signed, unless the clock of the introspection stands before the moment of issue or at the end of
the token, or a request with an authenticated client has revoked this very token before. -/
theorem active_until_revoked [KeyCrates] (laws : LawfulSigning) (keys : LawfulRsaKeyPair)
    (hsha : Function.Injective Crates.sha256)
    {config : StartConfig} {disk : Disk} {web : Web} {entropy : Bytes} {state : HttpState}
    {replay : ReplayPolicy}
    (hstart : buildStateFromConfig config disk web entropy = .ok (state, replay))
    (hprovider : state.signer.ProviderMatches) {moves : List (Move Request Tick)}
    {w : ServerPool} (hrun : ServerPool.run state moves = some w) {i j : Nat}
    {request introspection : Request} {issued : TokenResponse} {headers : HeaderMap}
    {response : Json} (hissues : w.Issues i request issued)
    (hj : w.threads[j]? = some (introspection, .done (.introspection headers response)))
    (htoken : introspection.onlineToken = some issued.accessToken) :
    ∃ plan jti moment, IssuedFor state request issued plan jti ∧ (j, nowIs moment) ∈ w.log ∧
      (response = activeResponse (plan.payload state jti) ∨
        response = inactiveResponse ∧
          (moment < (plan.payload state jti).iat ∨ (plan.payload state jti).exp ≤ moment ∨
            ∃ before entry after, w.log = before ++ (j, entry) :: after ∧
              RevokedInRun state w before issued.accessToken)) := by
  obtain ⟨plan, jti, t, mode, exchangeRequest, hissued, hplanned, ht⟩ := planned_of_run hrun hissues
  obtain ⟨alg, kid, hverified⟩ := verify_issued laws keys hstart hprovider hissued hplanned
  have hexplained := explained_run hrun
  have hreturns : Returns (handle state introspection) (Pool.traceOf j w.log)
      (.introspection headers response) := hexplained.threaded.steps j introspection _ hj
  have hanswered : ∃ headers', Returns (introspect introspection.headers state introspection.body)
      (Pool.traceOf j w.log) (headers', response) := by
    rcases returns_handle hreturns with ⟨_, _, _, _, heq⟩ | ⟨-, headers', response', hout, heq⟩ |
      ⟨_, _, _, heq⟩
    · cases heq
    · cases heq
      exact ⟨_, hout⟩
    · cases heq
  obtain ⟨headers', hout⟩ := hanswered
  obtain ⟨moment, hlooked⟩ := lookedUp_of_returns hout htoken
  refine ⟨plan, jti, moment, hissued, Pool.mem_traceOf.mp hlooked.read, ?_⟩
  cases hclaims : stsTokenClaims state issued.accessToken moment with
  | none =>
      refine Or.inr ⟨hlooked.inactive hclaims, ?_⟩
      by_cases hbegun : (plan.payload state jti).iat ≤ moment
      · by_cases halive : moment < (plan.payload state jti).exp
        · -- between issue and end the token is active
          have hactive : ActiveClaims state issued.accessToken moment (plan.payload state jti) :=
            activeClaims_planned hplanned ht hverified hbegun halive
          rw [stsTokenClaims_eq_some.mpr hactive] at hclaims
          cases hclaims
        · exact Or.inr (Or.inl (Int64.not_lt.mp halive))
      · exact Or.inl (Int64.not_le.mp hbegun)
  | some claims =>
      have hpayload : claims = plan.payload state jti := by
        obtain ⟨alg', kid', hread⟩ := (stsTokenClaims_eq_some.mp hclaims).verified
        rw [hverified] at hread
        exact (congrArg VerifiedJws.claims (Except.ok.inj hread)).symm
      subst hpayload
      obtain ⟨revoked, hlook, hresponse⟩ := hlooked.active _ hclaims
      cases revoked with
      | false => exact Or.inl hresponse
      | true =>
          -- only the list can say otherwise
          refine Or.inr ⟨hresponse, Or.inr (Or.inr ?_)⟩
          obtain ⟨before, after, hlog⟩ := List.append_of_mem (Pool.mem_traceOf.mp hlook)
          have hreason := hexplained.reasons before _ after hlog
          refine ⟨before, _, after, hlog, RevokedIn.inRun hsha hexplained.threaded ?_ hreason⟩
          rw [hlog]
          exact List.subset_append_left _ _

end Server

namespace Sample

/-- A server with three places on its lists. -/
abbrev threePlaces : HttpState := state .both 3 (by decide)

/-- It starts. -/
theorem buildStateFromConfig_threePlaces (entropy : Bytes) :
    buildStateFromConfig
        { startConfig {} none with toRuntimeConfig := config .both 3 (by decide) }
        disk (web idp) entropy =
      .ok (threePlaces, .memory (.new 3 256)) := by
  rw [buildStateFromConfig_eq_ok]
  exact
    { config_eq := rfl
      signer := loadSigner_sample rfl rfl rfl entropy
      published := ⟨none, rfl, rfl⟩
      subject := loadPublicJwks_sample (by simp) rfl
      actor := loadPublicJwks_sample (by simp) rfl
      client := loadPublicJwks_sample (by simp) rfl
      replay := rfl }

/-- The stores after the first and after the second request. -/
def issuedStores : Stores :=
  recorded (.initial threePlaces.config) (actorReplayKey "agent" "a1") 200 50

def revokedStores : Stores :=
  listed (recorded issuedStores (clientReplayKey "app" "c1") 100 60) mintedDelegation.token 105 60 3

theorem serve_issued :
    ∃ t, serve threePlaces (delegationRequest formHeaders actor1) (clock 50 (by decide))
        (.initial threePlaces.config) =
      ⟨.ok (.token tokenHeaders earlyResponse), issuedStores, t⟩ := by
  have hrecord : ((Stores.initial threePlaces.config).replay.checkAndRecord
      (actorReplayKey "agent" "a1") 200 50).1 = .ok () := toOption_eq_some.mp (by decide)
  have hminted : (mintedDelegation, actorPayload "a1" none 50) ∈ mintedTokens :=
    List.mem_cons_self ..
  have hserve : serve threePlaces (delegationRequest formHeaders actor1) (clock 50 (by decide))
      (.initial threePlaces.config) = _ :=
    serve_delegation (clock 50 (by decide)) (Or.inl rfl) issued_actor1 (by decide)
      (validateDpopHeader_formHeaders 50) (by decide) (by decide)
      (run_commit_actor (fun n => clock 50 (by decide) (n + 4)) hrecord rfl hminted)
  exact ⟨_, hserve⟩

theorem serve_revoked :
    ∃ t, serve threePlaces (revokeRequest mintedDelegation.token client1) (clock 60 (by decide))
        issuedStores = ⟨.ok (.revocation tokenHeaders), revokedStores, t⟩ := by
  have hrecord : (issuedStores.replay.checkAndRecord (clientReplayKey "app" "c1") 100 60).1 =
      .ok () := toOption_eq_some.mp (by decide)
  have hplace : (Revoked.revoke issuedStores.revoked mintedDelegation.token 105 60 3).1 =
      .ok () := by
    rw [Revoked.revoke, if_neg fun hfull => Nat.not_le.mpr three_places hfull.2]
  have hserve : serve threePlaces (revokeRequest mintedDelegation.token client1)
      (clock 60 (by decide)) issuedStores = _ :=
    serve_revoke_minted (clock 60 (by decide)) issued_client1 clientJti_c1 (by decide) (by decide)
      hrecord (List.mem_cons_self ..)
      (stsTokenClaims_minted (List.mem_cons_self ..) rfl (by decide) (by decide) (by decide)) hplace
  exact ⟨_, hserve⟩

theorem serve_introspected :
    ∃ stores t, serve threePlaces (introspectRequest mintedDelegation.token client2)
        (clock 70 (by decide)) revokedStores =
      ⟨.ok (.introspection tokenHeaders inactiveResponse), stores, t⟩ := by
  have hrecord : (revokedStores.replay.checkAndRecord (clientReplayKey "app" "c2") 105 70).1 =
      .ok () := toOption_eq_some.mp (by decide)
  have hlisted : revocationKey mintedDelegation.token ∈ sweepRevoked revokedStores.revoked 70 := by
    have hrevoked : revokedStores.revoked =
        AList.insert (revocationKey mintedDelegation.token) 105 ∅ := by
      rw [revokedStores, listed, recorded, Revoked.revoke,
        if_neg fun hfull => Nat.not_le.mpr three_places hfull.2]
      rfl
    have hsweep : sweepRevoked revokedStores.revoked 70 =
        AList.insert (revocationKey mintedDelegation.token) 105 ∅ := by
      rw [hrevoked]
      rfl
    rw [hsweep, AList.mem_insert]
    exact Or.inl rfl
  have hserve : serve threePlaces (introspectRequest mintedDelegation.token client2)
      (clock 70 (by decide)) revokedStores = _ :=
    serve_introspect_minted (clock 70 (by decide)) issued_client2 clientJti_c2 (by decide)
      (by decide) hrecord (List.mem_cons_self ..)
      (stsTokenClaims_minted (List.mem_cons_self ..) rfl (by decide) (by decide) (by decide)) hlisted
  exact ⟨_, _, hserve⟩

/-- The introspection finds the token inactive, and so it was revoked before. -/
theorem sample_active_until_revoked :
    ∃ moves w, ServerPool.run threePlaces moves = some w ∧
      w.Issues 0 (delegationRequest formHeaders actor1) earlyResponse ∧
      ∃ plan jti moment, IssuedFor threePlaces (delegationRequest formHeaders actor1) earlyResponse
          plan jti ∧ (2, nowIs moment) ∈ w.log ∧
        (inactiveResponse = activeResponse (plan.payload threePlaces jti) ∨
          inactiveResponse = inactiveResponse ∧
            (moment < (plan.payload threePlaces jti).iat ∨
              (plan.payload threePlaces jti).exp ≤ moment ∨
              ∃ before entry after, w.log = before ++ (2, entry) :: after ∧
                RevokedInRun threePlaces w before mintedDelegation.token)) := by
  -- a delegation at 50, the revocation of its token at 60 and an introspection of it at 70
  obtain ⟨moves, hrun⟩ := run_sequential threePlaces
    [(delegationRequest formHeaders actor1, clock 50 (by decide)),
      (revokeRequest mintedDelegation.token client1, clock 60 (by decide)),
      (introspectRequest mintedDelegation.token client2, clock 70 (by decide))]
  obtain ⟨t₀, hissued⟩ := serve_issued
  obtain ⟨t₁, hrevoked⟩ := serve_revoked
  obtain ⟨stores, t₂, hintrospected⟩ := serve_introspected
  rw [Pool.initial, sequential_cons hissued, sequential_cons hrevoked,
    sequential_cons hintrospected] at hrun
  refine ⟨moves, _, hrun, ⟨tokenHeaders, rfl⟩, ?_⟩
  exact @active_until_revoked _ _ lawfulSigning lawfulRsaKeyPair sha256_injective _ _ _ _ threePlaces _
    (buildStateFromConfig_threePlaces []) trivial moves _ hrun 0 2
    (delegationRequest formHeaders actor1) (introspectRequest mintedDelegation.token client2)
    earlyResponse tokenHeaders inactiveResponse ⟨tokenHeaders, rfl⟩ rfl (onlineToken_client _)

end Sample

end StsDelegate
