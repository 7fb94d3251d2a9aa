import StsDelegate.Lib.Wrapping
import StsDelegate.SignVerify
import StsDelegate.Http.Soundness

/-!
# Is a new token alive?

A token ends with the first of its time to live, its subject token and the assertion of the
actor or client. The inputs are accepted for a while after they have run out, so that a
server whose clock is ahead does not refuse them; the token that is minted then is over
before it begins. The response does not report a negative lifetime but none, and
introspection, which has no such leeway, takes the token for inactive from the start.

`minted_token_lifetime` says exactly when that is so, and that there is no other reason why
a new token might not be active.
-/

namespace StsDelegate

open Text Fallible Effectful Prog Wrapping

section Server

variable [Crates]

/-! ### Actors -/

omit [Crates] in
/-- A prior chain of actors is as long as the levels that were read. -/
theorem depth_actClaimFromValueAtDepth {levels : Nat} {value : Json} {act : ActClaim}
    (h : actClaimFromValueAtDepth levels value = .ok act) : act.depth ≤ levels := by
  induction levels generalizing value act with
  | zero => cases h
  | succ levels ih =>
      simp only [actClaimFromValueAtDepth, bind_eq_ok] at h
      obtain ⟨obj, -, sub, -, h⟩ := h
      split at h
      · simp only [bind_eq_ok, pure_eq_ok] at h
        obtain ⟨nested, hnested, rfl⟩ := h
        exact Nat.succ_le_succ (ih hnested)
      · simp only [pure_eq_ok] at h
        subst h
        exact Nat.succ_le_succ (Nat.zero_le _)

theorem Planned.actDepth_le {headers : HeaderMap} {state : HttpState} {body : Bytes} {t : List Ev}
    {mode : EffectiveExchangeMode} {request : ExchangeRequest} {plan : Plan}
    (h : Planned headers state body t mode request plan) (jti : String) :
    (plan.payload state jti).actDepth ≤ 11 := by
  rcases h.granted with ⟨-, grant, hgrant, hplan⟩ | ⟨-, grant, hgrant, hplan⟩
  · obtain ⟨prior, hprior, hact⟩ := hgrant.act
    have hpayload : (plan.payload state jti).act = some (buildAct grant.actorClaims.sub prior) := by
      rw [hplan, ← hact]
      rfl
    rw [MintedClaims.actDepth, hpayload]
    cases prior with
    | none => exact (by decide : 1 ≤ 11)
    | some act =>
        -- the actor comes on top of the chain that was read
        have hdepth : act.depth ≤ 10 := by
          unfold priorActOf at hprior
          split at hprior
          · cases hprior
          · simp only [bind_eq_ok, pure_eq_ok, Option.some.injEq] at hprior
            obtain ⟨act', hread, rfl⟩ := hprior
            exact depth_actClaimFromValueAtDepth hread
        exact Nat.succ_le_succ hdepth
  · have hpayload : (plan.payload state jti).act = none := by
      rw [hplan]
      rfl
    rw [MintedClaims.actDepth, hpayload]
    exact Nat.zero_le _

/-! ### Texts -/

theorem resolveScopeForRequest_nonblank {request : ExchangeRequest} {state : HttpState}
    {subjectClaims : SubjectTokenClaims} {target scope : String}
    (h : resolveScopeForRequest request state subjectClaims target = .ok scope) :
    isBlank scope = false := by
  simp only [resolveScopeForRequest, bind_eq_ok, mapError_eq_ok] at h
  obtain ⟨_, -, _, -, hscope⟩ := h
  exact not_isBlank_of_splitWhitespace (downscope_ok hscope).1

/-- The actor or client that a token names is a configured one. -/
theorem Planned.clientId_nonblank {headers : HeaderMap} {state : HttpState} {body : Bytes}
    {t : List Ev} {mode : EffectiveExchangeMode} {request : ExchangeRequest} {plan : Plan}
    (h : Planned headers state body t mode request plan) : isBlank plan.clientId = false := by
  rcases h.granted with ⟨-, grant, hgrant, hplan⟩ | ⟨-, grant, hgrant, hplan⟩
  · rw [hplan]
    exact state.config.actorIds_nonblank _ hgrant.member
  · rw [hplan]
    rcases h.verified.client with ⟨-, hnone⟩ | ⟨claims, -, hsome, hauthenticated⟩
    · rw [hgrant.client] at hnone
      cases hnone
    · rw [hgrant.client] at hsome
      cases hsome
      exact state.config.clientIds_nonblank _ hauthenticated.member

/-! ### Times -/

omit [Crates] in
/-- A token that was accepted ends so early that the leeway can be added. -/
theorem WindowOpen.add_lt {exp leeway : Int64} {nbf : Option Int64} {t : List Ev}
    (h : WindowOpen exp nbf leeway t) (ht : ∀ now, nowIs now ∈ t → 0 ≤ now) (hleeway : 0 ≤ leeway) :
    exp.toInt + leeway.toInt < 2 ^ 63 := by
  obtain ⟨now, hmem, hopen, -⟩ := h
  have hnow := ht now hmem
  rw [Int64.le_iff_toInt_le] at hnow hopen hleeway
  have hzero : (0 : Int64).toInt = 0 := rfl
  have hsum := toInt_add_cases exp leeway
  have hexp := toInt_range exp
  have hrange := toInt_range leeway
  omega

omit [Crates] in
theorem le_add_of_lt {now exp leeway : Int64} (h : now < exp) (hleeway : 0 ≤ leeway)
    (hexp : exp.toInt + leeway.toInt < 2 ^ 63) : now ≤ now + leeway := by
  rw [Int64.lt_iff_toInt_lt] at h
  rw [Int64.le_iff_toInt_le] at hleeway ⊢
  have hzero : (0 : Int64).toInt = 0 := rfl
  have hsum := toInt_add_cases now leeway
  have hrange := toInt_range now
  omega

omit [Crates] in
/-- A token begins before it ends exactly if all that bounds it lies ahead. -/
theorem lt_mintedExp_iff {ttl now subjectExp assertionExp : Int64} (hpos : 1 ≤ ttl) :
    now < mintedExp ttl now subjectExp assertionExp ↔
      now < subjectExp ∧ now < assertionExp ∧ now.toInt + ttl.toInt < 2 ^ 63 := by
  have hmin : ∀ a b : Int64, now < minI64 a b ↔ now < a ∧ now < b := by
    intro a b
    unfold minI64
    simp only [Int64.lt_iff_toInt_lt, Int64.le_iff_toInt_le]
    split <;> omega
  have httl : now < now + ttl ↔ now.toInt + ttl.toInt < 2 ^ 63 := by
    rw [Int64.le_iff_toInt_le] at hpos
    rw [Int64.lt_iff_toInt_lt]
    have hone : (1 : Int64).toInt = 1 := rfl
    have hsum := toInt_add_cases now ttl
    have hrange := toInt_range now
    have hrange' := toInt_range ttl
    omega
  rw [mintedExp, hmin, hmin, httl]
  constructor
  · intro ⟨⟨hown, hsubject⟩, hassertion⟩
    exact ⟨hsubject, hassertion, hown⟩
  · intro ⟨hsubject, hassertion, hown⟩
    exact ⟨⟨hown, hsubject⟩, hassertion⟩

omit [Crates] in
/-- A lifetime that is not over is reported as it is. -/
theorem toInt_maxZero_sub {iat exp : Int64} (hiat : 0 ≤ iat) (h : iat < exp) :
    (maxZero (exp - iat)).toInt = exp.toInt - iat.toInt := by
  rw [Int64.le_iff_toInt_le, Int64.toInt_zero] at hiat
  rw [Int64.lt_iff_toInt_lt] at h
  have hexp := toInt_range exp
  have hexact : (exp - iat).toInt = exp.toInt - iat.toInt := toInt_sub ⟨by omega, by omega⟩
  rw [toInt_maxZero, hexact, max_eq_left (by omega)]

omit [Crates] in
/-- One that is over is reported as none. -/
theorem maxZero_sub_eq_zero {iat exp : Int64} (h : exp ≤ iat)
    (hrange : iat.toInt - exp.toInt ≤ 2 ^ 63) : maxZero (exp - iat) = 0 := by
  rw [Int64.le_iff_toInt_le] at h
  have hexact : (exp - iat).toInt = exp.toInt - iat.toInt := toInt_sub ⟨by omega, by omega⟩
  apply Int64.toInt_inj.mp
  rw [toInt_maxZero, hexact, max_eq_right (by omega), Int64.toInt_zero]

/-! ### Introspection of a new token -/

/-- A token that has ended is not active. -/
theorem stsTokenClaims_eq_none {state : HttpState} {token alg kid : String} {typ : Option String}
    {now : Int64} {claims : MintedClaims} (h : ¬now < claims.exp)
    (hverified : verifyClaimsAgainstJwksWithHeader Crates.mintedFromSlice token
      state.publishedJwks = .ok ⟨claims, alg, kid, typ⟩) :
    stsTokenClaims state token now = none := by
  rw [Option.eq_none_iff_forall_ne_some]
  intro claims' hclaims
  have hactive := stsTokenClaims_eq_some.mp hclaims
  obtain ⟨alg', kid', hread⟩ := hactive.verified
  rw [hverified] at hread
  cases hread
  exact h hactive.exp

/-- A token that verifies passes the other checks until it ends. -/
theorem activeClaims_planned {state : HttpState} {headers : HeaderMap} {body : Bytes}
    {t : List Ev} {mode : EffectiveExchangeMode} {request : ExchangeRequest} {plan : Plan}
    {jti token alg kid : String} {now : Int64}
    (h : Planned headers state body t mode request plan) (ht : ∀ now, nowIs now ∈ t → 0 ≤ now)
    (hverified : verifyClaimsAgainstJwksWithHeader Crates.mintedFromSlice token
      state.publishedJwks = .ok ⟨plan.payload state jti, alg, kid, some "at+jwt"⟩)
    (hbegun : plan.now ≤ now) (halive : now < (plan.payload state jti).exp) :
    ActiveClaims state token now (plan.payload state jti) := by
  have hend := h.verified.subject.window.add_lt ht state.config.clockSkewLeeway_nonneg
  have hcap := (mintedExp_le state.config.scopedTokenTtl plan.now
    plan.exchange.subjectClaims.exp plan.assertionExp).2.1
  refine
    { verified := ⟨alg, kid, hverified⟩
      iss := rfl
      aud := (resolveTargetForRequest_ok h.verified.target).2
      sub_nonblank := h.verified.sub_nonblank
      clientId_nonblank := h.clientId_nonblank
      scope_nonblank := resolveScopeForRequest_nonblank h.verified.scope
      exp := halive
      iat := ?_ }
  -- the subject token ends later, and the leeway can be added to its end
  have hbefore : now < plan.exchange.subjectClaims.exp := Int64.lt_of_lt_of_le halive hcap
  exact Int64.le_trans hbegun (le_add_of_lt hbefore state.config.clockSkewLeeway_nonneg hend)

/-- When it is looked at the moment it was issued, only its end is left to check. -/
theorem stsTokenClaims_planned {state : HttpState} {headers : HeaderMap} {body : Bytes}
    {t : List Ev} {mode : EffectiveExchangeMode} {request : ExchangeRequest} {plan : Plan}
    {jti token alg kid : String} (h : Planned headers state body t mode request plan)
    (ht : ∀ now, nowIs now ∈ t → 0 ≤ now)
    (hverified : verifyClaimsAgainstJwksWithHeader Crates.mintedFromSlice token
      state.publishedJwks = .ok ⟨plan.payload state jti, alg, kid, some "at+jwt"⟩) :
    stsTokenClaims state token plan.now =
      if plan.now < (plan.payload state jti).exp then some (plan.payload state jti) else none := by
  by_cases halive : plan.now < (plan.payload state jti).exp
  · rw [if_pos halive]
    exact stsTokenClaims_eq_some.mpr
      (activeClaims_planned h ht hverified (Int64.le_refl plan.now) halive)
  · rw [if_neg halive]
    exact stsTokenClaims_eq_none halive hverified

/-- A token that is not on the revocation list is reported as its claims say. -/
theorem introspectionResponseForToken_unlisted {state : HttpState} {token : String} {now : Int64}
    {stores : Stores} (ticks : Nat → Tick) (h : revocationKey token ∉ stores.revoked) :
    ((introspectionResponseForToken state token now).run (machine state) ticks stores).outcome =
      .ok (match stsTokenClaims state token now with
        | some claims => activeResponse claims
        | none => inactiveResponse) := by
  have hswept : revocationKey token ∉ sweepRevoked stores.revoked now := by
    intro hmem
    exact h (ExpiryMap.mem_of_mem_sweep hmem)
  rw [introspectionResponseForToken_outcome]
  cases stsTokenClaims state token now with
  | none => rfl
  | some claims => simp only [if_neg hswept]

/-- A token that has ended is reported as inactive. -/
theorem introspectionResponseForToken_ended {state : HttpState} {token alg kid : String}
    {typ : Option String} {now : Int64} {claims : MintedClaims} {stores : Stores}
    (h : ¬now < claims.exp)
    (hverified : verifyClaimsAgainstJwksWithHeader Crates.mintedFromSlice token
      state.publishedJwks = .ok ⟨claims, alg, kid, typ⟩)
    (ticks : Nat → Tick) (hunlisted : revocationKey token ∉ stores.revoked) :
    ((introspectionResponseForToken state token now).run (machine state) ticks stores).outcome =
      .ok inactiveResponse := by
  rw [introspectionResponseForToken_unlisted ticks hunlisted, stsTokenClaims_eq_none h hverified]

/-- What is reported of the lifetime of a new token with these claims. -/
structure LifetimeReported (state : HttpState) (response : TokenResponse) (plan : Plan)
    (claims : MintedClaims) : Prop where
  alive : claims.iat < claims.exp ↔
    claims.iat < plan.exchange.subjectClaims.exp ∧ claims.iat < plan.assertionExp ∧
      claims.iat.toInt + state.config.scopedTokenTtl.toInt < 2 ^ 63
  expiresIn : claims.iat < claims.exp →
    response.expiresIn.toInt = claims.exp.toInt - claims.iat.toInt
  expired : claims.exp ≤ claims.iat → claims.iat.toInt - claims.exp.toInt ≤ 2 ^ 63 →
    response.expiresIn = 0
  introspected : ∀ (ticks : Nat → Tick) (stores : Stores),
    revocationKey response.accessToken ∉ stores.revoked →
    ((introspectionResponseForToken state response.accessToken claims.iat).run (machine state)
        ticks stores).outcome =
      .ok (if claims.iat < claims.exp then activeResponse claims else inactiveResponse)

/-- A token that a started server has answered with verifies, and has the claims of its plan. -/
theorem verify_issued [KeyCrates] (laws : LawfulSigning) (keys : LawfulRsaKeyPair)
    {config : StartConfig} {disk : Disk} {web : Web} {entropy : Bytes} {state : HttpState}
    {replay : ReplayPolicy}
    (hstart : buildStateFromConfig config disk web entropy = .ok (state, replay))
    (hprovider : state.signer.ProviderMatches) {request exchangeRequest} {response : TokenResponse}
    {plan : Plan} {jti : String} {t : List Ev} {mode : EffectiveExchangeMode}
    (hissued : IssuedFor state request response plan jti)
    (hplanned : Planned request.headers state request.body t mode exchangeRequest plan) :
    ∃ alg kid, verifyClaimsAgainstJwksWithHeader Crates.mintedFromSlice response.accessToken
      state.publishedJwks = .ok ⟨plan.payload state jti, alg, kid, some "at+jwt"⟩ := by
  have hstarted := buildStateFromConfig_eq_ok.mp hstart
  obtain ⟨extra, -, hpublished⟩ := hstarted.published
  obtain ⟨random, hsign⟩ := hissued.signed
  have hvalid := (accepted_of_loadSigner keys hstarted.signer).1
  have hverified := verify_signClaims laws hvalid hprovider
    (find?_publishedJwks state.signer extra) ((hplanned.actDepth_le jti).trans (by decide)) hsign
  rw [← hpublished] at hverified
  exact ⟨_, _, hverified⟩

/-- **The lifetime of a new token.** A token that a request was answered with has not ended
when it is issued exactly if its subject token and the assertion have not, and the clock is
not at the end of time; its lifetime is then reported as it is, and introspection tells its
claims. If it has, the response reports no lifetime, and introspection that the token is
inactive. -/
theorem minted_token_lifetime [KeyCrates] (laws : LawfulSigning) (keys : LawfulRsaKeyPair)
    {config : StartConfig} {disk : Disk} {web : Web} {entropy : Bytes} {state : HttpState}
    {replay : ReplayPolicy}
    (hstart : buildStateFromConfig config disk web entropy = .ok (state, replay))
    (hprovider : state.signer.ProviderMatches) {moves : List (Move Request Tick)}
    {w : ServerPool} {i : Nat} {request : Request} {response : TokenResponse}
    (hrun : ServerPool.run state moves = some w) (hissues : w.Issues i request response) :
    ∃ plan jti, IssuedFor state request response plan jti ∧
      LifetimeReported state response plan (plan.payload state jti) := by
  obtain ⟨plan, jti, t, mode, exchangeRequest, hissued, hplanned, ht⟩ := planned_of_run hrun hissues
  have hexpires : response.expiresIn =
      maxZero ((plan.payload state jti).exp - (plan.payload state jti).iat) := by
    rw [hissued.response_eq]
    rfl
  refine ⟨plan, jti, hissued, ?_, ?_, ?_, ?_⟩
  · exact lt_mintedExp_iff state.config.scopedTokenTtl_pos
  · intro halive
    rw [hexpires]
    exact toInt_maxZero_sub (ht _ hplanned.now) halive
  · intro hover hrange
    rw [hexpires]
    exact maxZero_sub_eq_zero hover hrange
  · intro ticks stores hunlisted
    obtain ⟨alg, kid, hverified⟩ := verify_issued laws keys hstart hprovider hissued hplanned
    rw [introspectionResponseForToken_unlisted ticks hunlisted]
    -- a token that is not over at its own `iat` is active then
    have hiat : (plan.payload state jti).iat = plan.now := rfl
    rw [hiat, stsTokenClaims_planned hplanned ht hverified]
    by_cases halive : plan.now < (plan.payload state jti).exp
    · rw [if_pos halive, if_pos halive]
    · rw [if_neg halive, if_neg halive]

end Server

namespace Sample

/-- A token that is minted five seconds after its subject token has run out, and the
response that brings it. -/
abbrev lateClaims : MintedClaims := mintedClaims 110 105 "agent" (some (.mk "agent" none none)) none

abbrev lateResponse : TokenResponse := actorResponse "a1" none 110 mintedLate.token

theorem mintedLate_mem : (mintedLate, lateClaims) ∈ mintedTokens :=
  List.mem_cons_of_mem _ (List.mem_cons_of_mem _ (List.mem_cons_self ..))

theorem late_token_not_alive :
    buildStateFromConfig (startConfig {} none) disk (web idp) [] =
        .ok (state .both 1 (by decide), .memory (.new 1 256)) ∧
      (∃ moves w, ServerPool.run (state .both 1 (by decide)) moves = some w ∧
        w.Issues 0 (delegationRequest formHeaders actor1) lateResponse) ∧
      verifyClaimsAgainstJwksWithHeader Crates.mintedFromSlice lateResponse.accessToken
          (state .both 1 (by decide)).publishedJwks =
        .ok ⟨lateClaims, "RS256", "sts-1", some "at+jwt"⟩ ∧
      ¬lateClaims.iat < lateClaims.exp ∧
      lateResponse.expiresIn ≠ lateClaims.exp - lateClaims.iat ∧
      ∀ (ticks : Nat → Tick) (stores : Stores),
        revocationKey lateResponse.accessToken ∉ stores.revoked →
        ((introspectionResponseForToken (state .both 1 (by decide)) lateResponse.accessToken
            lateClaims.iat).run (machine (state .both 1 (by decide))) ticks stores).outcome =
          .ok inactiveResponse := by
  have hverified : verifyClaimsAgainstJwksWithHeader Crates.mintedFromSlice mintedLate.token
      (state .both 1 (by decide)).publishedJwks =
        .ok ⟨lateClaims, "RS256", "sts-1", some "at+jwt"⟩ := verify_minted mintedLate_mem rfl
  have hover : ¬lateClaims.iat < lateClaims.exp := by decide
  refine ⟨buildStateFromConfig_sample {} none (web idp) [], ?_, hverified, hover, ?_, ?_⟩
  · exact delegation_issued (by decide) (by decide) mintedLate_mem
  · show maxZero (105 - 110) ≠ 105 - 110
    decide
  · intro ticks stores hunlisted
    exact introspectionResponseForToken_ended hover hverified ticks hunlisted

abbrev earlyResponse : TokenResponse := actorResponse "a1" none 50 mintedDelegation.token

theorem early_issued :
    ∃ moves w, ServerPool.run (state .both 1 (by decide)) moves = some w ∧
      w.Issues 0 (delegationRequest formHeaders actor1) earlyResponse :=
  delegation_issued (by decide) (by decide) (List.mem_cons_self ..)

/-- A delegation within the lifetime of everything it rests on. -/
theorem delegation_alive :
    ∃ moves w, ServerPool.run (state .both 1 (by decide)) moves = some w ∧
      w.Issues 0 (delegationRequest formHeaders actor1) earlyResponse ∧
      ∃ plan jti,
        IssuedFor (state .both 1 (by decide)) (delegationRequest formHeaders actor1) earlyResponse
          plan jti ∧
        LifetimeReported (state .both 1 (by decide)) earlyResponse plan
          (plan.payload (state .both 1 (by decide)) jti) := by
  obtain ⟨moves, w, hrun, hissues⟩ := early_issued
  have hreported := minted_token_lifetime lawfulSigning lawfulRsaKeyPair
    (buildStateFromConfig_sample {} none (web idp) []) trivial hrun hissues
  exact ⟨moves, w, hrun, hissues, hreported⟩

end Sample

end StsDelegate
