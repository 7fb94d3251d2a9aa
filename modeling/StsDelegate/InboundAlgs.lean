import StsDelegate.Http.Gates
import StsDelegate.Sample.Startup

/-!
# The algorithms of inbound assertions

Which algorithms an actor or client assertion may be signed with is a list that comes out
of one variable and two flags. `parseInboundAssertionAlgs_eq_ok` says what such a list is,
and `accepted_alg_mem` that each of the four places where an assertion is verified goes by
the list of the configuration.
-/

namespace StsDelegate

open Text Fallible Effectful Prog

/-! ### Dropping what was there before -/

theorem mem_retainNew {seen : OrdSet String} {values : List String} {value : String} :
    value ∈ retainNew seen values ↔ value ∈ values ∧ value ∉ seen := by
  induction values generalizing seen with
  | nil => simp [retainNew]
  | cons first rest ih =>
      rw [retainNew]
      by_cases hseen : first ∈ seen
      · rw [if_pos hseen, ih, List.mem_cons]
        constructor
        · intro ⟨hmem, hnew⟩
          exact ⟨Or.inr hmem, hnew⟩
        · intro ⟨hmem, hnew⟩
          refine ⟨hmem.resolve_left ?_, hnew⟩
          intro heq
          exact hnew (heq ▸ hseen)
      · rw [if_neg hseen, List.mem_cons, ih, OrdSet.mem_insert, List.mem_cons]
        by_cases heq : value = first
        · simp [heq, hseen]
        · simp [heq]

/-- The values are kept in the order in which they came up first. -/
theorem pairwise_retainNew (seen : OrdSet String) (values : List String) :
    (retainNew seen values).Pairwise fun a b => values.idxOf a < values.idxOf b := by
  induction values generalizing seen with
  | nil => simp [retainNew]
  | cons first rest ih =>
      have hshift : ∀ value, value ≠ first →
          (first :: rest).idxOf value = rest.idxOf value + 1 := by
        intro value hne
        exact List.idxOf_cons_ne _ hne.symm
      -- what is kept of the rest is not the first value, so its places move up by one
      have hlater : ∀ seen, first ∈ seen → (retainNew seen rest).Pairwise fun a b =>
          (first :: rest).idxOf a < (first :: rest).idxOf b := by
        intro seen hseen
        refine (ih seen).imp_of_mem ?_
        intro a b ha hb hlt
        have hne : ∀ value ∈ retainNew seen rest, value ≠ first := by
          intro value hmem heq
          exact (mem_retainNew.mp hmem).2 (heq ▸ hseen)
        rw [hshift a (hne a ha), hshift b (hne b hb)]
        omega
      rw [retainNew]
      by_cases hseen : first ∈ seen
      · rw [if_pos hseen]
        exact hlater seen hseen
      · rw [if_neg hseen, List.pairwise_cons]
        have hfirst : first ∈ seen.insert first := OrdSet.mem_insert.mpr (Or.inl rfl)
        refine ⟨fun value hmem => ?_, hlater _ hfirst⟩
        have hne : value ≠ first := by
          intro heq
          exact (mem_retainNew.mp hmem).2 (heq ▸ hfirst)
        rw [List.idxOf_cons_self, hshift value hne]
        exact Nat.succ_pos _

/-- The values without repetition, in the order in which they came up first. -/
structure KeepsOrder (configured algs : List String) : Prop where
  mem_iff : ∀ alg, alg ∈ algs ↔ alg ∈ configured
  ordered : algs.Pairwise fun a b => configured.idxOf a < configured.idxOf b

theorem keepsOrder_dedup (values : List String) :
    KeepsOrder values (dedupPreservingOrder values) := by
  refine ⟨fun alg => ?_, pairwise_retainNew .empty values⟩
  rw [dedupPreservingOrder, mem_retainNew]
  simp

theorem KeepsOrder.nodup {configured algs : List String} (h : KeepsOrder configured algs) :
    algs.Nodup := by
  refine h.ordered.imp ?_
  intro a b hlt heq
  rw [heq] at hlt
  exact Nat.lt_irrefl _ hlt

/-! ### The list -/

theorem isSupportedInboundAssertionAlg_iff {alg : String} :
    isSupportedInboundAssertionAlg alg = true ↔
      alg = "RS256" ∨ ∃ algorithm : MlDsaAlgorithm, alg = algorithm.joseAlg := by
  simp only [isSupportedInboundAssertionAlg, isPqcInboundAssertionAlg, Bool.or_eq_true,
    decide_eq_true_eq]
  constructor
  · intro h
    rcases h with h | (h | h) | h
    · exact Or.inl h
    · exact Or.inr ⟨.mlDsa44, h⟩
    · exact Or.inr ⟨.mlDsa65, h⟩
    · exact Or.inr ⟨.mlDsa87, h⟩
  · intro h
    rcases h with h | ⟨algorithm, h⟩
    · exact Or.inl h
    · cases algorithm with
      | mlDsa44 => exact Or.inr (Or.inl (Or.inl h))
      | mlDsa65 => exact Or.inr (Or.inl (Or.inr h))
      | mlDsa87 => exact Or.inr (Or.inr h)

/-- Everything that is checked of the list. -/
theorem parseInboundAssertionAlgs_eq_ok {source : ConfigSource}
    {inboundPqcPreferred allowNonPqcInbound : Bool} {algs : List String}
    (h : parseInboundAssertionAlgs source inboundPqcPreferred allowNonPqcInbound = .ok algs) :
    algs = dedupPreservingOrder (configuredInboundAlgs source inboundPqcPreferred
        allowNonPqcInbound) ∧ algs ≠ [] ∧
      (∀ alg ∈ algs, isSupportedInboundAssertionAlg alg = true) ∧
      (allowNonPqcInbound = false → "RS256" ∉ algs) := by
  simp only [parseInboundAssertionAlgs, bind_eq_ok, rejectIf_eq_ok, failOn_eq_ok, pure_eq_ok] at h
  obtain ⟨_, hne, _, hsupported, _, hrs256, _, -, heq⟩ := h
  subst heq
  refine ⟨rfl, ?_, ?_, ?_⟩
  · simpa using hne
  · simpa using hsupported
  · intro hallow hmem
    rw [hallow, Bool.not_false, Bool.and_true, List.any_eq_false] at hrs256
    exact hrs256 _ (hallow ▸ hmem) (beq_self_eq_true _)

/-! ### The four places -/

section Server

variable [Crates] {state : HttpState} {assertion : String}

/-- An assertion is verified as an actor token or as a client assertion of `/token`, or as
a client assertion of `/introspect` or `/revoke`. -/
inductive AcceptsAssertion (state : HttpState) (assertion : String) : Prop
  | actor {subjectToken : String} {t : List Ev} {claims : AssertionClaims}
      (h : Returns (verifyActorToken state assertion subjectToken) t claims)
  | client {request : ExchangeRequest} {mode : EffectiveExchangeMode} {t : List Ev}
      {claims : AssertionClaims} (hassertion : request.clientAssertion = some assertion)
      (h : Returns (authenticateClientIfPresent state request mode) t (some claims))
  | introspect {form : OnlineTokenForm} {t : List Ev} {claims : AssertionClaims}
      (hassertion : form.clientAssertion = some assertion)
      (h : Returns (authenticateOnlineClient state form state.introspectionEndpoint) t claims)
  | revoke {form : OnlineTokenForm} {t : List Ev} {claims : AssertionClaims}
      (hassertion : form.clientAssertion = some assertion)
      (h : Returns (authenticateOnlineClient state form state.revocationEndpoint) t claims)

theorem AssertionAccepted.alg_mem {token : String} {jwks : JwksDocument} {algs : List String}
    {options : AssertionVerificationOptions} {t : List Ev} {claims : AssertionClaims}
    (h : AssertionAccepted token jwks algs options t claims) :
    ∃ header, decodeCompactJwsHeader token = .ok header ∧ header.alg ∈ algs := by
  obtain ⟨alg, kid, typ, hverified, hmem, -⟩ := h.verified
  obtain ⟨hheader, -⟩ := verifyClaimsAgainstJwksInner_ok hverified
  exact ⟨_, hheader, hmem⟩

theorem ClientAuthenticated.alg_mem {request : ExchangeRequest} {endpoint : String} {t : List Ev}
    {claims : AssertionClaims} (h : ClientAuthenticated state request endpoint t claims)
    (hassertion : request.clientAssertion = some assertion) :
    ∃ header, decodeCompactJwsHeader assertion = .ok header ∧
      header.alg ∈ state.config.inboundAssertionAlgs := by
  obtain ⟨assertion', hassertion', haccepted⟩ := h.accepted
  cases hassertion.symm.trans hassertion'
  exact haccepted.alg_mem

/-- The client of an online request is authenticated like one of `/token`. -/
theorem alg_mem_online {form : OnlineTokenForm} {endpoint : String} {t : List Ev}
    {claims : AssertionClaims} (hassertion : form.clientAssertion = some assertion)
    (h : Returns (authenticateOnlineClient state form endpoint) t claims) :
    ∃ header, decodeCompactJwsHeader assertion = .ok header ∧
      header.alg ∈ state.config.inboundAssertionAlgs := by
  simp only [authenticateOnlineClient, liftM_eq, returns_ofExcept_bind] at h
  obtain ⟨-, -, h⟩ := h
  exact (returns_authenticateClient h).alg_mem hassertion

/-- Every place goes by the list of the configuration. -/
theorem accepted_alg_mem (h : AcceptsAssertion state assertion) :
    ∃ header, decodeCompactJwsHeader assertion = .ok header ∧
      header.alg ∈ state.config.inboundAssertionAlgs := by
  cases h with
  | actor h => exact (returns_verifyAssertionWithAllowedAlgs (returns_mapErr.mp h)).alg_mem
  | client hassertion h =>
      rcases (returns_authenticateClientIfPresent h).2 with ⟨-, hnone⟩ | ⟨claims, -, -, hclient⟩
      · cases hnone
      · exact hclient.alg_mem hassertion
  | introspect hassertion h => exact alg_mem_online hassertion h
  | revoke hassertion h => exact alg_mem_online hassertion h

/-- **Inbound assertions need an explicit opt-in for RS256.** The list that a source gives
is not empty, has the configured algorithms in their order and without repetition, all of
them supported; and with that list no place accepts an assertion whose algorithm is not on
it, which RS256 is only if non-PQC algorithms are allowed. -/
theorem inbound_algs_enforced {source : ConfigSource} {disk : Disk} {config : StartConfig}
    (h : StartConfig.fromSource source disk = .ok config) :
    config.inboundAssertionAlgs ≠ [] ∧ config.inboundAssertionAlgs.Nodup ∧
      KeepsOrder (configuredInboundAlgs source (parseBool source "STS_INBOUND_PQC_PREFERRED" true)
        config.allowNonPqcInbound) config.inboundAssertionAlgs ∧
      (∀ alg ∈ config.inboundAssertionAlgs,
        alg = "RS256" ∨ ∃ algorithm : MlDsaAlgorithm, alg = algorithm.joseAlg) ∧
      ∀ state : HttpState, state.config = config.toRuntimeConfig → ∀ assertion,
        AcceptsAssertion state assertion →
          ∃ header, decodeCompactJwsHeader assertion = .ok header ∧
            header.alg ∈ config.inboundAssertionAlgs ∧
            (config.allowNonPqcInbound = false → header.alg ≠ "RS256") := by
  obtain ⟨heq, hne, hsupported, hrs256⟩ :=
    parseInboundAssertionAlgs_eq_ok (StartConfig.loadedFrom_of_fromSource h).inboundAlgs
  have horder := keepsOrder_dedup (configuredInboundAlgs source
    (parseBool source "STS_INBOUND_PQC_PREFERRED" true) config.allowNonPqcInbound)
  rw [← heq] at horder
  refine ⟨hne, horder.nodup, horder, fun alg hmem => ?_, fun state hconfig assertion haccepts => ?_⟩
  · exact isSupportedInboundAssertionAlg_iff.mp (hsupported alg hmem)
  · obtain ⟨header, hheader, hmem⟩ := accepted_alg_mem haccepts
    rw [hconfig] at hmem
    refine ⟨header, hheader, hmem, fun hallow halg => ?_⟩
    exact hrs256 hallow (halg ▸ hmem)

end Server

namespace Sample

/-- The variables that have to be set, and nothing about algorithms. -/
def plainSource : ConfigSource :=
  sourceOf [("IDP_ISSUER", idp), ("EXPECTED_SUBJECT_AUD", issuer), ("OBO_STS_ISSUER", issuer),
    ("ACTOR_IDS", "agent")]

/-- By default only ML-DSA-65 is accepted. -/
theorem rs256_refused_by_default :
    ∃ config, StartConfig.fromSource plainSource disk = .ok config ∧
      config.inboundAssertionAlgs = ["ML-DSA-65"] ∧
      ∀ state : HttpState, state.config = config.toRuntimeConfig → ∀ assertion,
        AcceptsAssertion state assertion →
          ∃ header, decodeCompactJwsHeader assertion = .ok header ∧ header.alg ≠ "RS256" := by
  have hload : (StartConfig.fromSource plainSource disk).toOption.map
      (fun config => (config.inboundAssertionAlgs, config.allowNonPqcInbound)) =
        some (["ML-DSA-65"], false) := by
    with_unfolding_all rfl
  obtain ⟨config, hconfig, heq⟩ := Option.map_eq_some_iff.mp hload
  obtain ⟨halgs, hallow⟩ := Prod.mk.inj heq
  have hloaded := toOption_eq_some.mp hconfig
  obtain ⟨-, -, -, -, haccepts⟩ := inbound_algs_enforced hloaded
  refine ⟨config, hloaded, halgs, fun state hstate assertion haccepted => ?_⟩
  obtain ⟨header, hheader, -, hne⟩ := haccepts state hstate assertion haccepted
  exact ⟨header, hheader, hne hallow⟩

end Sample

end StsDelegate
