import StsDelegate.Http.Lifetime

/-!
# Who acted for whom

A delegated token names its actor and, inside, everyone the subject token says had acted
before. The prior chain comes as JSON from another issuer; what is kept of each of its
members is `sub` and, if it is a text, `iss`.

`ActChain` says which chain a JSON value spells out, without a limit. Reading one finds
exactly the chains of up to ten members (`actClaimFromValue_actChain`), and
`act_chain_fidelity` follows such a chain into the token and out again at introspection.
-/

namespace StsDelegate

open Text Fallible Effectful Prog

/-! ### Chains -/

/-- One member of a chain: who acted, and who vouches for that name. -/
abbrev Actor : Type := String × Option String

/-- The chain that a value spells out: an object with a name in it, and inside it the rest. -/
inductive ActChain : Json → List Actor → Prop
  | last {members : List (String × Json)} {sub : String}
      (hsub : Json.get members "sub" = some (.string sub)) (hne : sub ≠ "")
      (hact : Json.get members "act" = none) :
      ActChain (.object members) [(sub, (Json.get members "iss").bind Json.asStr)]
  | next {members : List (String × Json)} {sub : String} {inner : Json} {rest : List Actor}
      (hsub : Json.get members "sub" = some (.string sub)) (hne : sub ≠ "")
      (hact : Json.get members "act" = some inner) (hrest : ActChain inner rest) :
      ActChain (.object members) ((sub, (Json.get members "iss").bind Json.asStr) :: rest)

namespace ActClaim

/-- The members of a chain, the last actor first. -/
def actors : ActClaim → List Actor
  | mk sub iss act =>
      (sub, iss) ::
        match act with
        | some act => act.actors
        | none => []

@[simp] theorem actors_mk_none (sub : String) (iss : Option String) :
    (mk sub iss none).actors = [(sub, iss)] := by
  simp [actors]

@[simp] theorem actors_mk_some (sub : String) (iss : Option String) (act : ActClaim) :
    (mk sub iss (some act)).actors = (sub, iss) :: act.actors := by
  simp [actors]

theorem actors_ne_nil (a : ActClaim) : a.actors ≠ [] := by
  obtain ⟨sub, iss, act⟩ := a
  cases act <;> simp

/-- The recursion of a chain: the last actor alone, or before a shorter chain. -/
theorem actors_induction {motive : ActClaim → Prop}
    (last : ∀ sub iss, motive (mk sub iss none))
    (next : ∀ sub iss act, motive act → motive (mk sub iss (some act))) (a : ActClaim) :
    motive a := by
  generalize hlen : a.actors.length = n
  induction n generalizing a with
  | zero => exact absurd (List.eq_nil_of_length_eq_zero hlen) a.actors_ne_nil
  | succ n ih =>
      obtain ⟨sub, iss, act⟩ := a
      cases act with
      | none => exact last sub iss
      | some act =>
          rw [actors_mk_some, List.length_cons] at hlen
          exact next sub iss act (ih act (Nat.succ.inj hlen))

/-- A chain is nothing but its members. -/
theorem actors_injective {a b : ActClaim} (h : a.actors = b.actors) : a = b := by
  induction a using actors_induction generalizing b with
  | last sub iss =>
      obtain ⟨sub', iss', act'⟩ := b
      cases act' with
      | none => simpa using h
      | some inner' =>
          rw [actors_mk_none, actors_mk_some] at h
          exact absurd (List.cons.inj h).2.symm inner'.actors_ne_nil
  | next sub iss act ih =>
      obtain ⟨sub', iss', act'⟩ := b
      cases act' with
      | none =>
          rw [actors_mk_none, actors_mk_some] at h
          exact absurd (List.cons.inj h).2 act.actors_ne_nil
      | some inner' =>
          rw [actors_mk_some, actors_mk_some] at h
          obtain ⟨hhead, htail⟩ := List.cons.inj h
          cases hhead
          rw [ih htail]

theorem length_actors (a : ActClaim) : a.actors.length = a.depth := by
  induction a using actors_induction with
  | last sub iss => simp [depth]
  | next sub iss act ih => simp [depth, ih]

/-- A chain of named actors is written out as it is. -/
theorem actChain_toValue {a : ActClaim} (h : ∀ actor ∈ a.actors, actor.1 ≠ "") :
    ActChain a.toValue a.actors := by
  induction a using actors_induction with
  | last sub iss =>
      have hne : sub ≠ "" := h (sub, iss) (by simp)
      rw [actors_mk_none]
      cases iss with
      | none => exact .last rfl hne rfl
      | some iss => exact .last rfl hne rfl
  | next sub iss act ih =>
      have hne : sub ≠ "" := h (sub, iss) (by simp)
      have hrest : ActChain act.toValue act.actors :=
        ih fun actor hactor => h actor (by simp [hactor])
      rw [actors_mk_some]
      cases iss with
      | none =>
          rw [toValue]
          exact .next rfl hne rfl hrest
      | some iss =>
          rw [toValue]
          exact .next rfl hne rfl hrest

end ActClaim

/-! ### Reading one -/

/-- A name is a text that is not empty. -/
theorem namedSub_eq_some {members : List (String × Json)} {sub : String} :
    (((Json.get members "sub").bind Json.asStr).filter fun value => !value.isEmpty) = some sub ↔
      Json.get members "sub" = some (.string sub) ∧ sub ≠ "" := by
  rw [Option.filter_eq_some_iff, Option.bind_eq_some_iff, Bool.not_eq_true',
    String.isEmpty_eq_false_iff]
  constructor
  · intro ⟨⟨value, hvalue, hstr⟩, hne⟩
    rw [asStr_eq_some.mp hstr] at hvalue
    exact ⟨hvalue, hne⟩
  · intro ⟨hvalue, hne⟩
    exact ⟨⟨.string sub, hvalue, rfl⟩, hne⟩

/-- What is read is the chain that is spelled out, within the levels. -/
theorem actChain_of_read {levels : Nat} {value : Json} {act : ActClaim}
    (h : actClaimFromValueAtDepth levels value = .ok act) :
    ActChain value act.actors ∧ act.actors.length ≤ levels := by
  refine ⟨?_, by rw [ActClaim.length_actors]; exact depth_actClaimFromValueAtDepth h⟩
  induction levels generalizing value act with
  | zero => cases h
  | succ levels ih =>
      simp only [actClaimFromValueAtDepth, bind_eq_ok, okOr_eq_ok, namedSub_eq_some,
        asObject_eq_some] at h
      obtain ⟨members, rfl, sub, ⟨hsub, hne⟩, h⟩ := h
      cases hact : Json.get members "act" with
      | none =>
          rw [hact] at h
          cases h
          rw [ActClaim.actors_mk_none]
          exact .last hsub hne hact
      | some inner =>
          simp only [hact, bind_eq_ok, pure_eq_ok] at h
          obtain ⟨rest, hrest, rfl⟩ := h
          rw [ActClaim.actors_mk_some]
          exact .next hsub hne hact (ih hrest)

/-- A chain that is spelled out is read, if there are levels enough. -/
theorem read_of_actChain {value : Json} {chain : List Actor} (h : ActChain value chain)
    {levels : Nat} (hlen : chain.length ≤ levels) :
    ∃ act, actClaimFromValueAtDepth levels value = .ok act ∧ act.actors = chain := by
  induction h generalizing levels with
  | @last members sub hsub hne hact =>
      cases levels with
      | zero => cases hlen
      | succ levels =>
          refine ⟨.mk sub ((Json.get members "iss").bind Json.asStr) none, ?_, by simp⟩
          simp only [actClaimFromValueAtDepth, Json.asObject, okOr_some, ok_bind, hact,
            namedSub_eq_some.mpr ⟨hsub, hne⟩]
          rfl
  | @next members sub inner rest hsub hne hact _ ih =>
      cases levels with
      | zero => cases hlen
      | succ levels =>
          obtain ⟨act, hread, hactors⟩ := ih (Nat.le_of_succ_le_succ hlen)
          refine ⟨.mk sub ((Json.get members "iss").bind Json.asStr) (some act), ?_, by
            simp [hactors]⟩
          simp only [actClaimFromValueAtDepth, Json.asObject, okOr_some, ok_bind, hact,
            namedSub_eq_some.mpr ⟨hsub, hne⟩, hread]
          rfl

/-- A value spells out one chain at most. -/
theorem ActChain.unique {value : Json} {chain chain' : List Actor} (h : ActChain value chain)
    (h' : ActChain value chain') : chain = chain' := by
  obtain ⟨act, hread, rfl⟩ := read_of_actChain h (Nat.le_max_left chain.length chain'.length)
  obtain ⟨act', hread', rfl⟩ := read_of_actChain h' (Nat.le_max_right _ chain'.length)
  rw [hread] at hread'
  cases hread'
  rfl

/-- A value is read exactly if it spells out a chain of at most ten, and as that chain. -/
theorem actClaimFromValue_actChain (value : Json) :
    ((∃ act, actClaimFromValue value = .ok act) ↔
      ∃ chain, ActChain value chain ∧ chain.length ≤ 10) ∧
    ∀ act chain, actClaimFromValue value = .ok act → ActChain value chain → act.actors = chain := by
  refine ⟨⟨fun hread => ?_, fun hchain => ?_⟩, fun act chain hread hchain => ?_⟩
  · obtain ⟨act, hread⟩ := hread
    exact ⟨act.actors, actChain_of_read hread⟩
  · obtain ⟨chain, hchain, hlen⟩ := hchain
    obtain ⟨act, hread, -⟩ := read_of_actChain hchain hlen
    exact ⟨act, hread⟩
  · exact (actChain_of_read hread).1.unique hchain

theorem ActChain.named {value : Json} {chain : List Actor} (h : ActChain value chain) :
    ∀ actor ∈ chain, actor.1 ≠ "" := by
  induction h with
  | last hsub hne hact =>
      intro actor hactor
      rw [List.mem_singleton.mp hactor]
      exact hne
  | next hsub hne hact _ ih =>
      intro actor hactor
      rcases List.mem_cons.mp hactor with heq | hrest
      · rw [heq]
        exact hne
      · exact ih actor hrest

/-- The chain of a subject token, which need not have one. -/
def PriorChain (prior : Option Json) (chain : List Actor) : Prop :=
  match prior with
  | none => chain = []
  | some value => ActChain value chain

/-- The actor of a delegation comes on top of the prior chain. -/
theorem actors_buildAct {subject : SubjectTokenClaims} {prior : Option ActClaim} (actor : String)
    (h : priorActOf subject = .ok prior) :
    ∃ chain, (buildAct actor prior).actors = (actor, none) :: chain ∧
      PriorChain subject.act chain ∧ chain.length ≤ 10 := by
  unfold priorActOf at h
  cases hact : subject.act with
  | none =>
      rw [hact] at h
      cases h
      exact ⟨[], by simp [buildAct], rfl, Nat.zero_le _⟩
  | some value =>
      simp only [hact, bind_eq_ok, pure_eq_ok] at h
      obtain ⟨act, hread, rfl⟩ := h
      obtain ⟨hchain, hlen⟩ := actChain_of_read hread
      exact ⟨act.actors, by simp [buildAct], hchain, hlen⟩

/-! ### Telling it -/

/-- Introspection tells the whole chain. -/
theorem act_of_activeResponse (claims : MintedClaims) :
    ∃ members, activeResponse claims = .object members ∧
      Json.get members "act" = claims.act.map ActClaim.toValue := by
  refine ⟨_, rfl, ?_⟩
  cases hact : claims.act <;> cases hcnf : claims.cnfJkt <;>
    simp [Json.get, Json.insert, List.lookup_cons]

/-- A delegated token keeps the chain: its actor, and then everyone who acted before. -/
structure ChainKept [Crates] (state : HttpState) (token actor : String)
    (subject : SubjectTokenClaims) (claims : MintedClaims) (act : ActClaim) (chain : List Actor) :
    Prop where
  claimed : claims.act = some act
  actors : act.actors = (actor, none) :: chain
  prior : PriorChain subject.act chain
  length : act.actors.length ≤ 11
  introspected : ∀ (ticks : Nat → Tick) (stores : Stores) (now : Int64), claims.iat ≤ now →
    now < claims.exp → revocationKey token ∉ stores.revoked → ∃ members,
      ((introspectionResponseForToken state token now).run (machine state) ticks stores).outcome =
        .ok (.object members) ∧
      Json.get members "act" = some act.toValue
  told : ActChain act.toValue ((actor, none) :: chain)

/-- **The chain of a delegation.** A prior chain is accepted if it is one of at most ten
actors, and is read as it is spelled out. It goes into the token below the actor, who is
named without an issuer, and introspection tells both. -/
theorem act_chain_fidelity [Crates] [KeyCrates] (laws : LawfulSigning) (keys : LawfulRsaKeyPair)
    {config : StartConfig} {disk : Disk} {web : Web} {entropy : Bytes} {state : HttpState}
    {replay : ReplayPolicy}
    (hstart : buildStateFromConfig config disk web entropy = .ok (state, replay))
    (hprovider : state.signer.ProviderMatches) {moves : List (Move Request Tick)}
    {w : ServerPool} {i : Nat} {request : Request} {response : TokenResponse}
    (hrun : ServerPool.run state moves = some w) (hissues : w.Issues i request response) :
    (∀ value : Json,
      ((∃ act, actClaimFromValue value = .ok act) ↔
        ∃ chain, ActChain value chain ∧ chain.length ≤ 10) ∧
      ∀ act chain, actClaimFromValue value = .ok act → ActChain value chain →
        act.actors = chain) ∧
    ∃ plan jti t mode exchangeRequest, IssuedFor state request response plan jti ∧
      Planned request.headers state request.body t mode exchangeRequest plan ∧
      (mode = .delegation → ∃ actorToken actorClaims act chain,
        exchangeRequest.actorToken = some actorToken ∧
        AssertionAccepted actorToken state.actorJwks state.config.inboundAssertionAlgs
          (actorAssertionOptions state exchangeRequest.subjectToken) t actorClaims ∧
        ChainKept state response.accessToken actorClaims.sub plan.exchange.subjectClaims
          (plan.payload state jti) act chain) := by
  refine ⟨actClaimFromValue_actChain, ?_⟩
  obtain ⟨plan, jti, t, mode, exchangeRequest, hissued, hplanned, ht⟩ :=
    planned_of_run hrun hissues
  refine ⟨plan, jti, t, mode, exchangeRequest, hissued, hplanned, fun hmode => ?_⟩
  have hgranted := hplanned.granted
  simp only [hmode, true_and, reduceCtorEq, false_and, or_false] at hgranted
  obtain ⟨grant, hgrant, hplan⟩ := hgranted
  obtain ⟨actorToken, hactorToken, haccepted⟩ := hgrant.actor
  obtain ⟨prior, hprior, hact⟩ := hgrant.act
  obtain ⟨chain, hactors, hchain, hlen⟩ := actors_buildAct grant.actorClaims.sub hprior
  rw [← hact] at hactors
  have hclaims : (plan.payload state jti).act = some grant.act := by
    rw [hplan]
    rfl
  have hnamed : grant.actorClaims.sub ≠ "" := by
    intro hempty
    have hnonblank := state.config.actorIds_nonblank _ hgrant.member
    rw [hempty] at hnonblank
    exact absurd hnonblank (by decide)
  -- an actor without a name would not be read back
  have htold : ActChain grant.act.toValue grant.act.actors := by
    refine ActClaim.actChain_toValue fun actor hactor => ?_
    rw [hactors] at hactor
    rcases List.mem_cons.mp hactor with heq | hrest
    · rw [heq]
      exact hnamed
    · unfold PriorChain at hchain
      split at hchain
      · rw [hchain] at hrest
        cases hrest
      · exact hchain.named actor hrest
  refine ⟨actorToken, grant.actorClaims, grant.act, chain, hactorToken, haccepted,
    { claimed := hclaims
      actors := hactors
      prior := hchain
      length := by rw [hactors]; exact Nat.succ_le_succ hlen
      introspected := ?_
      told := hactors ▸ htold }⟩
  intro ticks stores now hbegun halive hunlisted
  -- the token verifies and is not over, so introspection answers with its claims
  obtain ⟨alg, kid, hverified⟩ := verify_issued laws keys hstart hprovider hissued hplanned
  have hactive := activeClaims_planned hplanned ht hverified hbegun halive
  obtain ⟨members, hmembers, hget⟩ := act_of_activeResponse (plan.payload state jti)
  refine ⟨members, ?_, by rw [hget, hclaims]; rfl⟩
  rw [introspectionResponseForToken_unlisted ticks hunlisted,
    stsTokenClaims_eq_some.mpr hactive, ← hmembers]

namespace Sample

/-- The chain of two prior actors in front of a delegation, and the sample delegation. -/
theorem sample_chain_kept :
    (∃ act, actClaimFromValue (.object [("sub", .string "gateway"), ("aud", .string "api"),
        ("act", .object [("iss", .string idp), ("sub", .string "router")])]) = .ok act ∧
      act.actors = [("gateway", none), ("router", some idp)]) ∧
    ∃ moves w, ServerPool.run (state .both 1 (by decide)) moves = some w ∧
      w.Issues 0 (delegationRequest formHeaders actor1) earlyResponse ∧
      ∃ plan jti actor act chain, IssuedFor (state .both 1 (by decide))
          (delegationRequest formHeaders actor1) earlyResponse plan jti ∧
        ChainKept (state .both 1 (by decide)) earlyResponse.accessToken actor
          plan.exchange.subjectClaims (plan.payload (state .both 1 (by decide)) jti) act chain := by
  obtain ⟨moves, w, hrun, hissues⟩ := early_issued
  have hfidelity := act_chain_fidelity lawfulSigning lawfulRsaKeyPair
    (buildStateFromConfig_sample {} none (web idp) []) trivial hrun hissues
  constructor
  · obtain ⟨haccepted, hread⟩ := hfidelity.1 (.object [("sub", .string "gateway"),
      ("aud", .string "api"), ("act", .object [("iss", .string idp), ("sub", .string "router")])])
    have hchain : ActChain (.object [("sub", .string "gateway"), ("aud", .string "api"),
        ("act", .object [("iss", .string idp), ("sub", .string "router")])])
          [("gateway", none), ("router", some idp)] :=
      .next rfl (by decide) rfl (.last rfl (by decide) rfl)
    obtain ⟨act, hact⟩ := haccepted.mpr ⟨_, hchain, by decide⟩
    exact ⟨act, hact, hread act _ hact hchain⟩
  · obtain ⟨plan, jti, t, mode, exchangeRequest, hissued, hplanned, hkept⟩ := hfidelity.2
    have hdelegation : mode = .delegation := by
      rcases hplanned.granted with ⟨hmode, -⟩ | ⟨-, grant, hgrant, -⟩
      · exact hmode
      · -- the request carries an actor token
        obtain ⟨form, hform, rfl, -⟩ := hplanned.verified.form
        have hparsed := parseTokenForm_actor (Or.inl (rfl : formHeaders = formHeaders)) subject actor1
        rw [delegationRequest, hparsed] at hform
        cases hform
        cases hgrant.noActor
    obtain ⟨actorToken, actorClaims, act, chain, -, -, hchain⟩ := hkept hdelegation
    exact ⟨moves, w, hrun, hissues, plan, jti, actorClaims.sub, act, chain, hissued, hchain⟩

end Sample

end StsDelegate
