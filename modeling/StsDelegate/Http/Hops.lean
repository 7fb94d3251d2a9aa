import StsDelegate.Http.ActChain

/-!
# Tokens that are exchanged again

A token that one server has minted can be the subject token of an exchange at another
server, which trusts the first as its identity provider; and so on. Each server sees one
exchange. `Exchanges` are such sequences, over servers and runs of their own, and
`exchanged_again` says what the last token has to do with the first subject token: it
keeps the subject and how the subject was authenticated, does not end later, and names
everyone who has acted since the last impersonation.
-/

namespace StsDelegate

open Text Fallible Effectful Prog

/-! ### A minted token, read as a subject token -/

/-- `serde_json::from_value` of an object. -/
def SubjectTokenClaims.fromMembers (members : List (String × Json)) : Option SubjectTokenClaims := do
  let iss ← requiredText members "iss"
  let sub ← readMember Json.asStr members "sub"
  let aud ← Json.get members "aud"
  let scope ← readMember Json.asStr members "scope"
  let scp ← readMember some members "scp"
  let exp ← MintedClaims.requiredI64 members "exp"
  let nbf ← readMember Json.asI64 members "nbf"
  let _ ← readMember Json.asI64 members "iat"
  let act ← readMember some members "act"
  let mayAct ← readMember some members "may_act"
  let authTime ← readMember Json.asI64 members "auth_time"
  let acr ← readMember Json.asStr members "acr"
  let amr ← readMember (fun value => value.asArray.bind fun items => items.mapM Json.asStr) members
    "amr"
  pure ⟨iss, sub, aud, scope, scp, exp, nbf, act, mayAct, authTime, acr, amr⟩

/-- What a minted token says to a server that takes it as a subject token. -/
def MintedClaims.asSubject (claims : MintedClaims) : SubjectTokenClaims where
  iss := claims.iss
  sub := some claims.sub
  aud := .string claims.aud
  scope := some claims.scope
  scp := none
  exp := claims.exp
  nbf := none
  act := claims.act.map ActClaim.toValue
  mayAct := none
  authTime := claims.authTime
  acr := claims.acr
  amr := if claims.amr.isEmpty then none else some claims.amr

/-- A member of minted claims, by its name. -/
theorem get_toMembers (claims : MintedClaims) :
    Json.get claims.toMembers "act" = claims.act.map ActClaim.toValue ∧
      Json.get claims.toMembers "auth_time" = claims.authTime.map Json.ofI64 ∧
      Json.get claims.toMembers "acr" = claims.acr.map Json.string ∧
      Json.get claims.toMembers "amr" = (if claims.amr.isEmpty then none else some claims.amr).map
        (fun values => .array (values.map .string)) := by
  simp [Json.get, MintedClaims.toMembers, List.lookup_append, List.lookup_cons]

/-- The JSON of minted claims is read as the subject token they stand for. -/
theorem fromMembers_toMembers (claims : MintedClaims) :
    SubjectTokenClaims.fromMembers claims.toMembers = some claims.asSubject := by
  obtain ⟨hact, hauthTime, hacr, hamr⟩ := get_toMembers claims
  have hofI64 : ∀ n, Json.ofI64 n ≠ .null := by
    intro n
    unfold Json.ofI64
    split <;> simp
  have hact' : readMember some claims.toMembers "act" = some (claims.act.map ActClaim.toValue) := by
    refine readMember_written id (fun _ _ => rfl) (fun value hvalue => ?_) (by simpa using hact)
    obtain ⟨act, -, rfl⟩ := Option.map_eq_some_iff.mp hvalue
    exact act.toValue_ne_null
  have hauthTime' : readMember Json.asI64 claims.toMembers "auth_time" = some claims.authTime :=
    readMember_written Json.ofI64 (fun time _ => Json.asI64_ofI64 time) (fun time _ => hofI64 time)
      hauthTime
  have hacr' : readMember Json.asStr claims.toMembers "acr" = some claims.acr :=
    readMember_written Json.string (fun _ _ => rfl) (fun _ _ => by simp) hacr
  have hamr' : readMember (fun value => value.asArray.bind fun items => items.mapM Json.asStr)
      claims.toMembers "amr" = some (if claims.amr.isEmpty then none else some claims.amr) :=
    readMember_written (fun values => .array (values.map .string))
      (fun values _ => by simpa [Json.asArray] using MintedClaims.mapM_asStr values)
      (fun _ _ => by simp) hamr
  have hrequired : requiredText claims.toMembers "iss" = some claims.iss ∧
      Json.get claims.toMembers "aud" = some (.string claims.aud) ∧
      MintedClaims.requiredI64 claims.toMembers "exp" = some claims.exp := by
    simp [requiredText, MintedClaims.requiredI64, Json.get, MintedClaims.toMembers,
      List.lookup_cons, Json.asStr, Json.asI64_ofI64]
  have htexts : readMember Json.asStr claims.toMembers "sub" = some (some claims.sub) ∧
      readMember Json.asStr claims.toMembers "scope" = some (some claims.scope) :=
    ⟨rfl, rfl⟩
  have habsent : readMember some claims.toMembers "scp" = some none ∧
      readMember Json.asI64 claims.toMembers "nbf" = some none ∧
      readMember some claims.toMembers "may_act" = some none := by
    simp [readMember, Json.get, MintedClaims.toMembers, List.lookup_append, List.lookup_cons]
  have hiat : readMember Json.asI64 claims.toMembers "iat" = some (some claims.iat) :=
    readMember_written Json.ofI64 (fun time _ => Json.asI64_ofI64 time) (fun time _ => hofI64 time)
      (by simp [Json.get, MintedClaims.toMembers, List.lookup_cons])
  obtain ⟨hiss, haud, hexp⟩ := hrequired
  obtain ⟨hsub, hscope⟩ := htexts
  obtain ⟨hscp, hnbf, hmayAct⟩ := habsent
  simp only [SubjectTokenClaims.fromMembers, hiss, hsub, haud, hscope, hscp, hexp, hnbf, hiat, hact',
    hmayAct, hauthTime', hacr', hamr', Option.bind_eq_bind, Option.bind_some, Option.pure_def]
  rfl

section Reading

variable [Crates]

/-- What is relied on of the JSON crates: a payload that was written for minted claims is
read, if it is read as a subject token, by its members. -/
structure ReadsMinted : Prop where
  claims : ∀ {claims : MintedClaims} {bytes : Bytes} {subject : SubjectTokenClaims},
    Crates.mintedToVec claims = .ok bytes → Crates.subjectFromSlice bytes = .ok subject →
    SubjectTokenClaims.fromMembers claims.toMembers = some subject
  rs256 : ∀ {header : ProtectedHeader} {claims : MintedClaims} {key entropy : Bytes}
      {headerBytes payload signature : Bytes} {subject : SubjectTokenClaims},
    Crates.rs256Encode header claims key entropy =
      .ok (compactJws headerBytes payload signature) →
    Crates.subjectFromSlice payload = .ok subject →
    SubjectTokenClaims.fromMembers claims.toMembers = some subject

/-- A verified token hands out what is read from its second segment. -/
theorem claims_of_verified {T : Type} {fromSlice : Bytes → Except String T} {valid : RsaValidity}
    (decodes : DecodesRs256 valid) {header payload signature : Bytes} {jwks : JwksDocument}
    {allowedAlgs : Option (List String)} {v : VerifiedJws T}
    (h : verifyClaimsAgainstJwksInner fromSlice (compactJws header payload signature) jwks
      allowedAlgs = .ok v) : fromSlice payload = .ok v.claims := by
  have hsplit := splitAtChar_compactJws header payload signature
  -- both families of keys read the same segment
  have hsegment : ∀ {payloadBytes}, Base64.decode (Base64.encode payload) = some payloadBytes →
      fromSlice payloadBytes = .ok v.claims → fromSlice payload = .ok v.claims := by
    intro payloadBytes hdecode hread
    rw [Base64.decode_encode] at hdecode
    cases hdecode
    exact hread
  simp only [verifyClaimsAgainstJwksInner, bind_eq_ok, rejectIf_eq_ok, okOr_eq_ok, pure_eq_ok] at h
  obtain ⟨jwsHeader, -, -, -, kid, -, jwk, -, claims, hclaims, rfl⟩ := h
  rw [verifyClaimsAgainstJwk] at hclaims
  split at hclaims
  · obtain ⟨payloadBytes, _, hdecode, -, hread, -⟩ :=
      verifyRs256ClaimsAgainstJwk_sound decodes hsplit hclaims
    exact hsegment hdecode hread
  · split at hclaims
    · obtain ⟨payloadBytes, _, _, hdecode, -, hread, -⟩ :=
        verifyMldsaClaimsAgainstJwk_sound hsplit hclaims
      exact hsegment hdecode hread
    · cases hclaims

/-- **A minted token as a subject token**: whichever keys it is verified under, it says
what was minted. -/
theorem asSubject_of_signed (signing : LawfulSigning) (reads : ReadsMinted) {valid : RsaValidity}
    (decodes : DecodesRs256 valid) {signer : JoseSigner} {claims : MintedClaims} {entropy : Bytes}
    {token : String} {jwks : JwksDocument} {allowedAlgs : Option (List String)}
    {v : VerifiedJws SubjectTokenClaims} (hsign : signer.signClaims claims entropy = .ok token)
    (h : verifyClaimsAgainstJwksInner Crates.subjectFromSlice token jwks allowedAlgs = .ok v) :
    v.claims = claims.asSubject := by
  suffices hread : SubjectTokenClaims.fromMembers claims.toMembers = some v.claims by
    rw [fromMembers_toMembers] at hread
    exact (Option.some.inj hread).symm
  have hcompact : ∀ {header : ProtectedHeader} {sign : Bytes → Except JoseError Bytes},
      signCompact header claims sign = .ok token →
      SubjectTokenClaims.fromMembers claims.toMembers = some v.claims := by
    intro header sign hsign
    obtain ⟨headerBytes, payload, signature, rfl, -, hpayload, -⟩ := signCompact_eq_ok hsign
    exact reads.claims hpayload (claims_of_verified decodes h)
  cases signer with
  | rsa s =>
      have hencode := mapError_eq_ok.mp hsign
      obtain ⟨header, payload, signature, rfl, -⟩ := signing.rs256 hencode
      exact reads.rs256 hencode (claims_of_verified decodes h)
  | externalRs256 s => exact hcompact hsign
  | mlDsa s => exact hcompact hsign
  | externalMlDsa s => exact hcompact hsign

end Reading

/-! ### One exchange -/

section Exchanges

variable [Crates]

/-- A token request that a server has answered, in a run of that server. -/
structure Exchange where
  state : HttpState
  moves : List (Move Request Tick)
  pool : ServerPool
  run : ServerPool.run state moves = some pool
  index : Nat
  request : Request
  response : TokenResponse
  issues : pool.Issues index request response

/-- The subject token of a request, if its form can be read. -/
def Request.subjectToken (request : Request) : Option String :=
  (parseTokenForm request.headers request.body).toOption.map fun form =>
    form.intoExchangeRequest.subjectToken

/-- The server of the exchange accepts its subject token. -/
def Exchange.Accepts (exchange : Exchange) (subject : SubjectTokenClaims) : Prop :=
  ∃ token alg kid typ, exchange.request.subjectToken = some token ∧
    verifyClaimsAgainstJwksWithAllowedAlgs Crates.subjectFromSlice token exchange.state.subjectJwks
      SUBJECT_TOKEN_SIGNING_ALGS = .ok ⟨subject, alg, kid, typ⟩ ∧
    validateIssuer exchange.state.config.idpIssuer = .ok subject.iss

/-- The server of the exchange has signed these claims. -/
def Exchange.Mints (exchange : Exchange) (claims : MintedClaims) : Prop :=
  claims.iss = exchange.state.config.ourIssuer ∧ ∃ entropy,
    exchange.state.signer.signClaims claims entropy = .ok exchange.response.accessToken

/-- Everyone who has acted, the last one first. -/
def MintedClaims.actors (claims : MintedClaims) : List Actor :=
  (claims.act.map ActClaim.actors).getD []

/-- Who has acted after a token is minted: a delegation adds its actor, and an
impersonation forgets everyone. -/
def actorsAfter (chain : List Actor) (claims : MintedClaims) : List Actor :=
  if claims.act.isSome then (claims.clientId, none) :: chain else []

/-- What one exchange makes of a subject token. -/
structure Carries (strict : Bool) (subject : SubjectTokenClaims) (claims : MintedClaims) : Prop where
  sub : subject.sub = some claims.sub
  exp : claims.exp ≤ subject.exp
  authTime : claims.authTime = subject.authTime
  acr : claims.acr = subject.acr
  amr : claims.amr = subject.amr.getD []
  actors : ∃ chain, (claims.act.isSome = true → PriorChain subject.act chain) ∧
    chain.length ≤ 10 ∧ claims.actors = actorsAfter chain claims
  named : ∀ actor ∈ claims.actors, actor.1 ≠ ""
  scope : splitWhitespace claims.scope ≠ []
  strict : strict = true → (∃ word, CarriesScope subject word) →
    ∀ word ∈ splitWhitespace claims.scope, CarriesScope subject word

omit [Crates] in
/-- The prior chain is told once. -/
theorem PriorChain.unique {prior : Option Json} {chain chain' : List Actor}
    (h : PriorChain prior chain) (h' : PriorChain prior chain') : chain = chain' := by
  cases prior with
  | none => exact Eq.trans h (Eq.symm h')
  | some value => exact ActChain.unique h h'

omit [Crates] in
theorem PriorChain.named {prior : Option Json} {chain : List Actor} (h : PriorChain prior chain) :
    ∀ actor ∈ chain, actor.1 ≠ "" := by
  cases prior with
  | none =>
      have hempty : chain = [] := h
      rw [hempty]
      simp
  | some value => exact ActChain.named h

/-- The actors of a planned token. -/
theorem Planned.actors {headers : HeaderMap} {state : HttpState} {body : Bytes} {t : List Ev}
    {mode : EffectiveExchangeMode} {request : ExchangeRequest} {plan : Plan}
    (h : Planned headers state body t mode request plan) (jti : String) :
    (∃ chain, ((plan.payload state jti).act.isSome = true →
        PriorChain plan.exchange.subjectClaims.act chain) ∧ chain.length ≤ 10 ∧
      (plan.payload state jti).actors = actorsAfter chain (plan.payload state jti)) ∧
    ∀ actor ∈ (plan.payload state jti).actors, actor.1 ≠ "" := by
  obtain ⟨-, grant, hgrant, hplan⟩ | ⟨-, grant, -, hplan⟩ := h.granted
  · obtain ⟨prior, hprior, hact⟩ := hgrant.act
    obtain ⟨chain, hactors, hchain, hlen⟩ := actors_buildAct grant.actorClaims.sub hprior
    rw [← hact] at hactors
    have hpayload : (plan.payload state jti).act = some grant.act ∧
        (plan.payload state jti).clientId = grant.actorClaims.sub := by
      rw [hplan]
      exact ⟨rfl, rfl⟩
    have hminted : (plan.payload state jti).actors = (grant.actorClaims.sub, none) :: chain := by
      rw [MintedClaims.actors, hpayload.1, Option.map_some, Option.getD_some, hactors]
    refine ⟨⟨chain, fun _ => hchain, hlen, ?_⟩, fun actor hactor => ?_⟩
    · rw [hminted, actorsAfter, hpayload.1, hpayload.2]
      rfl
    · rw [hminted] at hactor
      obtain rfl | hrest := List.mem_cons.mp hactor
      · -- the actor is one of those that the server knows
        intro hname
        have hempty : grant.actorClaims.sub = "" := hname
        have hnonblank := state.config.actorIds_nonblank _ hgrant.member
        rw [hempty] at hnonblank
        exact absurd hnonblank (by decide)
      · exact hchain.named actor hrest
  · have hpayload : (plan.payload state jti).act = none := by
      rw [hplan]
      rfl
    refine ⟨⟨[], fun hsome => ?_, Nat.zero_le _, ?_⟩, fun actor hactor => ?_⟩
    · rw [hpayload] at hsome
      cases hsome
    · rw [MintedClaims.actors, actorsAfter, hpayload]
      rfl
    · rw [MintedClaims.actors, hpayload] at hactor
      cases hactor

theorem resolveScopeForRequest_words {state : HttpState} {request : ExchangeRequest}
    {subject : SubjectTokenClaims} {target scope : String}
    (h : resolveScopeForRequest request state subject target = .ok scope) :
    splitWhitespace scope ≠ [] := by
  simp only [resolveScopeForRequest, bind_eq_ok, mapError_eq_ok] at h
  obtain ⟨_, -, _, -, hscope⟩ := h
  exact (downscope_ok hscope).1

/-- **One exchange** carries its subject token. -/
theorem Exchange.carries (exchange : Exchange) :
    ∃ subject claims, exchange.Accepts subject ∧ exchange.Mints claims ∧
      Carries exchange.state.config.subjectScopeBoundRequired subject claims := by
  obtain ⟨plan, jti, hissued⟩ := issuedFor_of_run exchange.run exchange.issues
  obtain ⟨t, mode, request, hplanned⟩ := hissued.planned
  have hverified := hplanned.verified
  obtain ⟨form, hform, rfl, -⟩ := hverified.form
  obtain ⟨kid, typ, hclaims⟩ := hverified.subject.verified
  obtain ⟨hactors, hnamed⟩ := hplanned.actors jti
  have hsubject : exchange.request.subjectToken = some form.intoExchangeRequest.subjectToken := by
    rw [Request.subjectToken, hform]
    rfl
  refine ⟨plan.exchange.subjectClaims, plan.payload exchange.state jti,
    ⟨_, _, kid, typ, hsubject, hclaims, hverified.subject.issuer⟩, ⟨rfl, hissued.signed⟩,
    { sub := hverified.sub
      exp := (mintedExp_le _ _ _ _).2.1
      authTime := rfl
      acr := rfl
      amr := rfl
      actors := hactors
      named := hnamed
      scope := resolveScopeForRequest_words hverified.scope
      strict := fun hstrict => (resolveScopeForRequest_strict hverified.scope hstrict).2 }⟩

/-! ### Exchanges in a row -/

/-- An exchange, with the claims that were minted in it. -/
abbrev Hop : Type := Exchange × MintedClaims

/-- Each server binds the scopes to those of its subject token. -/
def Hop.Strict (hop : Hop) : Prop := hop.1.state.config.subjectScopeBoundRequired = true

/-- Who has acted after these exchanges. -/
def actorsAlong (chain : List Actor) (hops : List Hop) : List Actor :=
  hops.foldl (fun chain hop => actorsAfter chain hop.2) chain

/-- Every exchange carries what the one before it has minted. -/
def CarriedAlong : SubjectTokenClaims → List Hop → Prop
  | _, [] => True
  | subject, hop :: rest =>
      hop.1.Mints hop.2 ∧ Carries hop.1.state.config.subjectScopeBoundRequired subject hop.2 ∧
        CarriedAlong hop.2.asSubject rest

/-- What is left of the first subject token, and of those who have acted on it, after these
exchanges and one more. -/
structure KeptAlong (subject : SubjectTokenClaims) (chain : List Actor) (before : List Hop) (hop : Hop) :
    Prop where
  mints : hop.1.Mints hop.2
  sub : subject.sub = some hop.2.sub
  exp : hop.2.exp ≤ subject.exp ∧ ∀ earlier ∈ before, hop.2.exp ≤ earlier.2.exp
  authTime : hop.2.authTime = subject.authTime
  acr : hop.2.acr = subject.acr
  amr : hop.2.amr = subject.amr.getD []
  actors : hop.2.actors = actorsAlong chain (before ++ [hop])
  length : hop.2.actors.length ≤ 11
  scope : (∀ each ∈ before ++ [hop], each.Strict) →
    ((∃ word, CarriesScope subject word) →
      ∀ word ∈ splitWhitespace hop.2.scope, CarriesScope subject word) ∧
    ∀ earlier ∈ before, ∀ word ∈ splitWhitespace hop.2.scope,
      word ∈ splitWhitespace earlier.2.scope

omit [Crates] in
/-- A minted token carries the scopes it was minted with. -/
theorem carriesScope_asSubject {claims : MintedClaims} {word : String} :
    CarriesScope claims.asSubject word ↔ word ∈ splitWhitespace claims.scope := by
  constructor
  · rintro (⟨scope, hscope, hword⟩ | ⟨scp, hscp, -⟩ | ⟨values, scp, hscp, -⟩)
    · cases hscope
      exact hword
    · cases hscp
    · cases hscp
  · intro hword
    exact .inl ⟨_, rfl, hword⟩

omit [Crates] in
/-- The chain of a minted token, where all are named. -/
theorem Carries.prior {strict : Bool} {subject : SubjectTokenClaims} {claims : MintedClaims}
    (h : Carries strict subject claims) : PriorChain claims.asSubject.act claims.actors := by
  have hnamed := h.named
  cases hact : claims.act with
  | none =>
      simp only [MintedClaims.asSubject, MintedClaims.actors, hact]
      rfl
  | some act =>
      simp only [MintedClaims.actors, hact, Option.map_some, Option.getD_some] at hnamed
      simp only [MintedClaims.asSubject, MintedClaims.actors, hact]
      exact ActClaim.actChain_toValue hnamed

omit [Crates] in
theorem Carries.actors_eq {strict : Bool} {subject : SubjectTokenClaims} {claims : MintedClaims}
    (h : Carries strict subject claims) {chain : List Actor}
    (hchain : claims.act.isSome = true → PriorChain subject.act chain) :
    claims.actors = actorsAfter chain claims ∧ claims.actors.length ≤ 11 := by
  obtain ⟨told, htold, hlen, hactors⟩ := h.actors
  rw [hactors, actorsAfter, actorsAfter]
  by_cases hact : claims.act.isSome = true
  · rw [(htold hact).unique (hchain hact)] at hlen ⊢
    rw [if_pos hact]
    exact ⟨rfl, Nat.succ_le_succ hlen⟩
  · rw [if_neg hact, if_neg hact]
    exact ⟨rfl, Nat.zero_le _⟩

/-- What an exchange keeps of a token that was minted is kept of what that token was
minted for. -/
theorem KeptAlong.behind {subject : SubjectTokenClaims} {chain : List Actor} {first : Hop}
    {before : List Hop} {hop : Hop} (hmints : first.1.Mints first.2)
    (hfirst : Carries first.1.state.config.subjectScopeBoundRequired subject first.2)
    (hchain : first.2.act.isSome = true → PriorChain subject.act chain)
    (h : KeptAlong first.2.asSubject first.2.actors before hop) :
    KeptAlong subject chain (first :: before) hop where
  mints := h.mints
  sub := hfirst.sub.trans h.sub
  exp := by
    refine ⟨Int64.le_trans h.exp.1 hfirst.exp, fun earlier hearlier => ?_⟩
    rcases List.mem_cons.mp hearlier with rfl | hrest
    · exact h.exp.1
    · exact h.exp.2 earlier hrest
  authTime := h.authTime.trans hfirst.authTime
  acr := h.acr.trans hfirst.acr
  amr := by
    rw [h.amr, ← hfirst.amr]
    unfold MintedClaims.asSubject
    cases hamr : first.2.amr with
    | nil => rfl
    | cons value rest => rfl
  actors := by
    rw [h.actors, (hfirst.actors_eq hchain).1]
    rfl
  length := h.length
  scope := by
    intro hstrict
    obtain ⟨hfirstStrict, hrestStrict⟩ := List.forall_mem_cons.mp hstrict
    obtain ⟨hbound, hshrink⟩ := h.scope hrestStrict
    obtain ⟨word, hword⟩ := List.exists_mem_of_ne_nil _ hfirst.scope
    -- the first token carries a scope, so the later ones are bound by it
    have hwithin : ∀ word ∈ splitWhitespace hop.2.scope, word ∈ splitWhitespace first.2.scope :=
      fun word' hword' => carriesScope_asSubject.mp
        (hbound ⟨word, carriesScope_asSubject.mpr hword⟩ word' hword')
    refine ⟨fun hcarries word' hword' => ?_, fun earlier hearlier => ?_⟩
    · exact hfirst.strict hfirstStrict hcarries word' (hwithin word' hword')
    · rcases List.mem_cons.mp hearlier with rfl | hrest
      · exact hwithin
      · exact hshrink earlier hrest

/-- Along exchanges that carry one another, everything is kept. -/
theorem CarriedAlong.kept {subject : SubjectTokenClaims} {hops : List Hop}
    (h : CarriedAlong subject hops) {chain : List Actor}
    (hchain : ∀ hop ∈ hops.head?, hop.2.act.isSome = true → PriorChain subject.act chain) :
    ∀ before hop after, hops = before ++ hop :: after → KeptAlong subject chain before hop := by
  induction hops generalizing subject chain with
  | nil =>
      intro before hop after hsplit
      simp at hsplit
  | cons first rest ih =>
      obtain ⟨hmints, hfirst, hrest⟩ := h
      have hprior := hchain first rfl
      obtain ⟨hactors, hlength⟩ := hfirst.actors_eq hprior
      intro before hop after hsplit
      cases before with
      | nil =>
          obtain ⟨rfl, -⟩ := List.cons.inj hsplit
          exact
            { mints := hmints
              sub := hfirst.sub
              exp := ⟨hfirst.exp, by simp⟩
              authTime := hfirst.authTime
              acr := hfirst.acr
              amr := hfirst.amr
              actors := hactors
              length := hlength
              scope := fun hstrict =>
                ⟨hfirst.strict (hstrict first (by simp)), by simp⟩ }
      | cons other before =>
          obtain ⟨rfl, htail⟩ := List.cons.inj hsplit
          exact (ih hrest (fun _ _ _ => hfirst.prior) before hop after htail).behind hmints hfirst
            hprior

/-- The subject token of an exchange is what the one before it was answered with. -/
def Follows (exchange next : Exchange) : Prop :=
  next.request.subjectToken = some exchange.response.accessToken

/-- An exchange that follows another one is made by a server that trusts it, and takes its
token for what was minted. -/
theorem Exchange.Accepts.follows (signing : LawfulSigning) (reads : ReadsMinted)
    {valid : RsaValidity} (decodes : DecodesRs256 valid) {exchange next : Exchange}
    {claims : MintedClaims} {subject : SubjectTokenClaims} (hmints : exchange.Mints claims)
    (hfollows : Follows exchange next) (h : next.Accepts subject) :
    subject = claims.asSubject ∧
      validateIssuer next.state.config.idpIssuer = .ok exchange.state.config.ourIssuer := by
  obtain ⟨hiss, entropy, hsign⟩ := hmints
  obtain ⟨token, alg, kid, typ, htoken, hverified, hissuer⟩ := h
  rw [hfollows] at htoken
  cases htoken
  have hsubject : subject = claims.asSubject :=
    asSubject_of_signed signing reads decodes hsign hverified
  rw [hsubject] at hissuer
  exact ⟨hsubject, by rw [hissuer, ← hiss]; rfl⟩

/-- Exchanges in a row carry one another. -/
theorem carriedAlong_of_isChain (signing : LawfulSigning) (reads : ReadsMinted)
    {valid : RsaValidity} (decodes : DecodesRs256 valid) {exchange : Exchange}
    {exchanges : List Exchange} (h : List.IsChain Follows (exchange :: exchanges)) :
    ∃ subject hops, exchange.Accepts subject ∧ hops.map Prod.fst = exchange :: exchanges ∧
      CarriedAlong subject hops ∧
      List.IsChain (fun exchange next => validateIssuer next.state.config.idpIssuer =
        .ok exchange.state.config.ourIssuer) (exchange :: exchanges) := by
  induction exchanges generalizing exchange with
  | nil =>
      obtain ⟨subject, claims, haccepts, hmints, hcarries⟩ := exchange.carries
      exact ⟨subject, [(exchange, claims)], haccepts, rfl, ⟨hmints, hcarries, trivial⟩, .singleton _⟩
  | cons next rest ih =>
      obtain ⟨hfollows, hrest⟩ := List.isChain_cons_cons.mp h
      obtain ⟨subject, claims, haccepts, hmints, hcarries⟩ := exchange.carries
      obtain ⟨subject', hops, haccepts', hhops, hcarried, htrusts⟩ := ih hrest
      obtain ⟨rfl, htrust⟩ := haccepts'.follows signing reads decodes hmints hfollows
      refine ⟨subject, (exchange, claims) :: hops, haccepts, ?_, ⟨hmints, hcarries, hcarried⟩,
        .cons_cons htrust htrusts⟩
      rw [List.map_cons, hhops]

/-- **Tokens that are exchanged again.** Where servers exchange, one after the other, what
the last one has minted, each of them trusts the last one. Every token on the way has the
subject of the first one, and says the same of how it was authenticated; none ends later
than those before it, and none has, where the servers bind the scopes, a scope that those
before it had not. Whoever acted since the last impersonation is named, the last one
first, and there are at most eleven of them. -/
theorem exchanged_again (signing : LawfulSigning) (reads : ReadsMinted) {valid : RsaValidity}
    (decodes : DecodesRs256 valid) {exchange : Exchange} {exchanges : List Exchange}
    (h : List.IsChain Follows (exchange :: exchanges)) :
    List.IsChain (fun exchange next => validateIssuer next.state.config.idpIssuer =
        .ok exchange.state.config.ourIssuer) (exchange :: exchanges) ∧
    ∃ subject hops chain, exchange.Accepts subject ∧ hops.map Prod.fst = exchange :: exchanges ∧
      (∀ hop ∈ hops.head?, hop.2.act.isSome = true → PriorChain subject.act chain) ∧
      ∀ before hop after, hops = before ++ hop :: after → KeptAlong subject chain before hop := by
  obtain ⟨subject, hops, haccepts, hhops, hcarried, htrusts⟩ :=
    carriedAlong_of_isChain signing reads decodes h
  refine ⟨htrusts, ?_⟩
  cases hops with
  | nil => cases hhops
  | cons first rest =>
      obtain ⟨chain, hchain, -⟩ := hcarried.2.1.actors
      have hhead : ∀ hop ∈ (first :: rest).head?, hop.2.act.isSome = true →
          PriorChain subject.act chain := by
        intro hop hhop
        cases hhop
        exact hchain
      exact ⟨subject, first :: rest, chain, haccepts, hhops, hhead, hcarried.kept hhead⟩

end Exchanges

namespace Sample

/-- The segments of a signed token are those of a sample token. -/
theorem rs256Encode_parts {header : ProtectedHeader} {claims : MintedClaims}
    {key headerBytes payload signature : Bytes}
    (h : rs256Encode header claims key = .ok (compactJws headerBytes payload signature)) :
    ∃ s, (s, claims) ∈ mintedTokens ∧ headerBytes = s.header ∧ payload = s.payload := by
  obtain ⟨-, -, s, hs, htoken⟩ := rs256Encode_eq_ok h
  have hsplit := congrArg (splitAtChar '.') htoken
  change _ = splitAtChar '.' (compactJws s.header s.payload s.signature) at hsplit
  rw [splitAtChar_compactJws, splitAtChar_compactJws] at hsplit
  have hencode : Function.Injective Base64.encode := by
    intro a b heq
    have hdecode := congrArg Base64.decode heq
    rwa [Base64.decode_encode, Base64.decode_encode, Option.some.injEq] at hdecode
  obtain ⟨hheader, hrest⟩ := List.cons.inj hsplit
  exact ⟨s, hs, hencode hheader, hencode (List.cons.inj hrest).1⟩

/-- No minted token of the sample reads as a subject token. -/
theorem readsMinted : ReadsMinted where
  claims h := by cases h
  rs256 h hsubject := by
    obtain ⟨s, hs, -, rfl⟩ := rs256Encode_parts h
    have hrefused : ∀ s ∈ mintedTokens.map Prod.fst,
        (fromSlice subjects s.payload).toOption = none := by decide
    have hnone := hrefused s (List.mem_map_of_mem hs)
    change fromSlice subjects s.payload = _ at hsubject
    rw [hsubject] at hnone
    cases hnone

/-- The sample delegation, as the only exchange. -/
theorem delegation_once : ∃ exchange : Exchange,
    exchange.request = delegationRequest formHeaders actor1 ∧
    ∃ subject hops chain, exchange.Accepts subject ∧ hops.map Prod.fst = [exchange] ∧
      (∀ hop ∈ hops.head?, hop.2.act.isSome = true → PriorChain subject.act chain) ∧
      ∀ before hop after, hops = before ++ hop :: after → KeptAlong subject chain before hop := by
  obtain ⟨moves, w, hrun, hissues⟩ := early_issued
  exact ⟨⟨_, moves, w, hrun, 0, _, _, hissues⟩, rfl,
    (exchanged_again lawfulSigning readsMinted decodesRs256 (.singleton _)).2⟩

end Sample

end StsDelegate
