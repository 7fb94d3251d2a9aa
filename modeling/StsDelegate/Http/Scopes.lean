import StsDelegate.Http.Soundness

/-!
# Which scopes are granted

Scopes go through sets, sorted joins and splits at whitespace several times before a token
gets them. Taken together that is one filter over the requested scopes, and
`resolve_scope_spec` says which.
-/

namespace StsDelegate

open Text Fallible

/-! ### The three lists -/

/-- An `scp` claim that can be read. -/
def ScpWellFormed : Option Json → Prop
  | none | some .null | some (.string _) => True
  | some (.array values) => ∀ value ∈ values, ∃ s, value = .string s
  | some _ => False

/-- The scopes of the subject, in both spellings of the claim. -/
def subjectTokens (claims : SubjectTokenClaims) : List String :=
  (claims.scope.map splitWhitespace).getD [] ++
    match claims.scp with
    | some (.string scp) => splitWhitespace scp
    | some (.array values) => (values.filterMap Json.asStr).flatMap splitWhitespace
    | _ => []

namespace TargetPolicyEntry

/-- The scopes a target allows; an entry of the policy may hold several. -/
def allowedTokens (policy : TargetPolicyEntry) : List String :=
  policy.allowedScopes.toList.flatMap splitWhitespace

/-- The scopes that are asked for, or the target's defaults if none are. -/
def requestedTokens (policy : TargetPolicyEntry) (request : ExchangeRequest) : List String :=
  match request.scope with
  | some scope =>
      if isBlank scope then policy.defaultScopes.toList.flatMap splitWhitespace
      else splitWhitespace scope
  | none => policy.defaultScopes.toList.flatMap splitWhitespace

/-- What is granted. -/
def granted (policy : TargetPolicyEntry) (request : ExchangeRequest) (subject : SubjectTokenClaims)
    (strict : Bool) : List String :=
  grantedTokens (policy.requestedTokens request) policy.allowedTokens (subjectTokens subject) strict

end TargetPolicyEntry

/-! ### The subject's scopes -/

theorem scpTokens_eq_ok {values : List Json} (h : ∀ value ∈ values, ∃ s, value = .string s) :
    scpTokens values = .ok ((values.filterMap Json.asStr).flatMap splitWhitespace) := by
  induction values with
  | nil => rfl
  | cons value rest ih =>
      obtain ⟨s, rfl⟩ := h value (List.mem_cons_self ..)
      have hrest := ih fun v hv => h v (List.mem_cons_of_mem _ hv)
      simp [scpTokens, Json.asStr, hrest, pure, Except.pure]

/-- The first value that is no string stops the reading. -/
theorem scpTokens_eq_error {values : List Json} (h : ¬∀ value ∈ values, ∃ s, value = .string s) :
    scpTokens values = .error (.invalidRequest "malformed scope claim") := by
  induction values with
  | nil => simp at h
  | cons value rest ih =>
      cases hvalue : value.asStr with
      | none => simp [scpTokens, hvalue, okOr]
      | some s =>
          rw [asStr_eq_some] at hvalue
          have hrest : ¬∀ value ∈ rest, ∃ s, value = .string s := by
            intro hall
            refine h fun v hv => ?_
            rcases List.mem_cons.mp hv with hv | hv
            · exact ⟨s, hv.trans hvalue⟩
            · exact hall v hv
          simp [scpTokens, hvalue, Json.asStr, ih hrest]

theorem subjectScopeTokens_eq_ok {claims : SubjectTokenClaims} (h : ScpWellFormed claims.scp) :
    subjectScopeTokens claims = .ok (subjectTokens claims) := by
  unfold subjectScopeTokens subjectTokens
  split
  · next hscp =>
      rw [hscp, List.append_nil]
      rfl
  · next hscp =>
      rw [hscp, List.append_nil]
      rfl
  · next scp hscp =>
      rw [hscp]
      rfl
  · next values hscp =>
      rw [hscp] at h ⊢
      rw [scpTokens_eq_ok h]
      rfl
  · next scp hnull hstring harray hscp =>
      rw [hscp] at h
      cases scp with
      | null => exact absurd rfl hnull
      | string s => exact absurd rfl (hstring s)
      | array values => exact absurd rfl (harray values)
      | bool _ | number _ | object _ => exact h.elim

theorem subjectScopeTokens_eq_error {claims : SubjectTokenClaims} (h : ¬ScpWellFormed claims.scp) :
    subjectScopeTokens claims = .error (.invalidRequest "malformed scope claim") := by
  unfold subjectScopeTokens
  split
  · next hscp =>
      rw [hscp] at h
      exact absurd trivial h
  · next hscp =>
      rw [hscp] at h
      exact absurd trivial h
  · next scp hscp =>
      rw [hscp] at h
      exact absurd trivial h
  · next values hscp =>
      rw [hscp] at h
      rw [scpTokens_eq_error h]
      rfl
  · rfl

/-- The subject's scopes as a text, or not at all if there are none. -/
theorem subjectScopeString_spec {claims : SubjectTokenClaims} (h : ScpWellFormed claims.scp) :
    ∃ scopes, subjectScopeString claims = .ok scopes ∧
      (scopes = none → subjectTokens claims = []) ∧
      ∀ value, scopes = some value → subjectTokens claims ≠ [] ∧
        ∀ w, w ∈ splitWhitespace value ↔ w ∈ subjectTokens claims := by
  have hmem : ∀ w, w ∈ OrdSet.ofList (subjectTokens claims) ↔ w ∈ subjectTokens claims :=
    fun w => OrdSet.mem_ofList
  have hword : ∀ w ∈ subjectTokens claims, IsWord w := fun w hw =>
    ((mem_subjectScopeTokens (subjectScopeTokens_eq_ok h)).mp hw).isWord
  rw [subjectScopeString, subjectScopeTokens_eq_ok h]
  refine ⟨_, rfl, ?_, ?_⟩
  · intro hnone
    rw [List.eq_nil_iff_forall_not_mem]
    intro w hw
    have hne := OrdSet.isEmpty_eq_false_iff.mpr ⟨w, (hmem w).mpr hw⟩
    rw [hne] at hnone
    cases hnone
  · intro value hvalue
    split at hvalue
    · cases hvalue
    · next hne =>
        cases hvalue
        rw [Bool.not_eq_true, OrdSet.isEmpty_eq_false_iff] at hne
        obtain ⟨w, hw⟩ := hne
        refine ⟨List.ne_nil_of_mem ((hmem w).mp hw), ?_⟩
        rw [joinScopes, splitWhitespace_joinWith fun w' hw' => hword w' ((hmem w').mp hw')]
        exact hmem

/-! ### The whole -/

section Resolve

variable [Crates] {state : HttpState} {target : String} {policy : TargetPolicyEntry}

/-- An unreadable `scp` claim is refused before anything is granted. -/
theorem resolveScopeForRequest_of_malformed
    (hpolicy : state.config.targetPolicy.get target = some policy) (request : ExchangeRequest)
    {subject : SubjectTokenClaims} (h : ¬ScpWellFormed subject.scp) :
    resolveScopeForRequest request state subject target =
      .error (.invalidRequest "malformed scope claim") := by
  simp [resolveScopeForRequest, hpolicy, subjectScopeString, subjectScopeTokens_eq_error h]

omit [Crates] in
/-- The requested scopes, whether they come from the request or from the policy. -/
theorem splitWhitespace_requestedScope (policy : TargetPolicyEntry) (request : ExchangeRequest) :
    splitWhitespace ((((request.scope.map trim).filter fun value => !value.isEmpty).or
      (if (joinScopes policy.defaultScopes.toList).isEmpty then none
        else some (joinScopes policy.defaultScopes.toList))).getD "") =
      policy.requestedTokens request := by
  have hdefault : splitWhitespace ((if (joinScopes policy.defaultScopes.toList).isEmpty then none
      else some (joinScopes policy.defaultScopes.toList)).getD "") =
        policy.defaultScopes.toList.flatMap splitWhitespace := by
    rw [← splitWhitespace_joinWith_flatMap, joinScopes]
    split
    · next hempty =>
        rw [String.isEmpty_iff] at hempty
        rw [hempty]
        rfl
    · rfl
  unfold TargetPolicyEntry.requestedTokens
  cases request.scope with
  | none => exact hdefault
  | some scope =>
      by_cases hblank : isBlank scope = true
      · have hempty : (trim scope).isEmpty = true := hblank
        simp only [Option.map_some, Option.filter_some, hempty, hblank, if_true]
        exact hdefault
      · have hne : (trim scope).isEmpty = false := by
          rw [← Bool.not_eq_true]
          exact hblank
        simp only [Option.map_some, Option.filter_some, hne, hblank, Bool.not_false, if_true,
          Option.some_or, Option.getD_some, splitWhitespace_trim]
        rfl

/-- Otherwise the granted scopes are joined, if there are any. -/
theorem resolveScopeForRequest_eq (hpolicy : state.config.targetPolicy.get target = some policy)
    (request : ExchangeRequest) {subject : SubjectTokenClaims} (h : ScpWellFormed subject.scp) :
    resolveScopeForRequest request state subject target =
      if policy.granted request subject state.config.subjectScopeBoundRequired = [] then
        .error (.invalidScope "no scopes remain after downscoping")
      else
        .ok (joinScopes (policy.granted request subject
          state.config.subjectScopeBoundRequired)) := by
  obtain ⟨scopes, hscopes, hnone, hsome⟩ := subjectScopeString_spec h
  simp only [resolveScopeForRequest, hpolicy, okOr_some, ok_bind, hscopes]
  rw [downscope_eq hnone hsome, splitWhitespace_requestedScope, joinScopes,
    splitWhitespace_joinWith_flatMap]
  show ((rejectIf (policy.granted request subject _).isEmpty _ >>= fun _ =>
    pure (joinScopes (policy.granted request subject _))).mapError mapCoreError) = _
  cases policy.granted request subject state.config.subjectScopeBoundRequired with
  | nil => rfl
  | cons w ws => rfl

/-- A granted scope is the text of the granted scopes. -/
theorem splitWhitespace_of_resolved (hpolicy : state.config.targetPolicy.get target = some policy)
    {request : ExchangeRequest} {subject : SubjectTokenClaims} {scope : String}
    (h : resolveScopeForRequest request state subject target = .ok scope) :
    ScpWellFormed subject.scp ∧
      policy.granted request subject state.config.subjectScopeBoundRequired ≠ [] ∧
      scope = joinScopes (policy.granted request subject state.config.subjectScopeBoundRequired) ∧
      splitWhitespace scope =
        policy.granted request subject state.config.subjectScopeBoundRequired := by
  have hwell : ScpWellFormed subject.scp := by
    by_contra hmalformed
    rw [resolveScopeForRequest_of_malformed hpolicy request hmalformed] at h
    cases h
  rw [resolveScopeForRequest_eq hpolicy request hwell] at h
  split at h
  · cases h
  · next hne =>
      cases h
      refine ⟨hwell, hne, rfl, ?_⟩
      have hword : ∀ w ∈ policy.granted request subject state.config.subjectScopeBoundRequired,
          IsWord w := by
        intro w hw
        have hrequested := (mem_grantedTokens.mp hw).1
        rw [← splitWhitespace_requestedScope] at hrequested
        exact isWord_of_mem_splitWhitespace hrequested
      rw [joinScopes, splitWhitespace_joinWith hword]

end Resolve

/-- Resolving a scope is filtering the requested scopes by what the target allows and, where
it binds, by what the subject has. -/
theorem resolve_scope_spec [Crates] {state : HttpState} {target : String}
    {policy : TargetPolicyEntry} (hpolicy : state.config.targetPolicy.get target = some policy)
    (request : ExchangeRequest) (subject : SubjectTokenClaims) :
    ((∃ err, resolveScopeForRequest request state subject target = .error err ∧
        err.error = some "invalid_request") ↔ ¬ScpWellFormed subject.scp) ∧
    (ScpWellFormed subject.scp →
      (policy.granted request subject state.config.subjectScopeBoundRequired ≠ [] →
        resolveScopeForRequest request state subject target =
          .ok (joinScopes (policy.granted request subject
            state.config.subjectScopeBoundRequired))) ∧
      ((∃ err, resolveScopeForRequest request state subject target = .error err ∧
          err.error = some "invalid_scope") ↔
        policy.granted request subject state.config.subjectScopeBoundRequired = [])) ∧
    ∀ scope, resolveScopeForRequest request state subject target = .ok scope →
      splitWhitespace scope =
        policy.granted request subject state.config.subjectScopeBoundRequired ∧
      (∀ w ∈ splitWhitespace scope,
        w ∈ policy.requestedTokens request ∧ w ∈ policy.allowedTokens) ∧
      resolveScopeForRequest { request with scope := some scope } state subject target =
        .ok scope := by
  refine ⟨?_, ?_, ?_⟩
  · constructor
    · intro ⟨err, herr, hkind⟩ hwell
      rw [resolveScopeForRequest_eq hpolicy request hwell] at herr
      split at herr
      · cases herr
        exact absurd hkind (by decide)
      · cases herr
    · intro hmalformed
      exact ⟨_, resolveScopeForRequest_of_malformed hpolicy request hmalformed, rfl⟩
  · intro hwell
    rw [resolveScopeForRequest_eq hpolicy request hwell]
    refine ⟨fun hne => if_neg hne, ?_⟩
    constructor
    · intro ⟨err, herr, _⟩
      by_contra hne
      rw [if_neg hne] at herr
      cases herr
    · intro hnil
      exact ⟨_, if_pos hnil, rfl⟩
  · intro scope hscope
    obtain ⟨hwell, hne, heq, hsplit⟩ := splitWhitespace_of_resolved hpolicy hscope
    refine ⟨hsplit, ?_, ?_⟩
    · intro w hw
      rw [hsplit] at hw
      exact ⟨(mem_grantedTokens.mp hw).1, (mem_grantedTokens.mp hw).2.1⟩
    -- what was granted passes all filters again
    · have hagain : policy.granted { request with scope := some scope } subject
          state.config.subjectScopeBoundRequired =
            policy.granted request subject state.config.subjectScopeBoundRequired := by
        have hblank : ¬isBlank scope = true := by
          rw [Bool.not_eq_true]
          exact not_isBlank_of_splitWhitespace (hsplit ▸ hne)
        show grantedTokens (if isBlank scope then _ else splitWhitespace scope) _ _ _ = _
        rw [if_neg hblank, hsplit]
        exact grantedTokens_idem _ _ _ _
      rw [resolveScopeForRequest_eq hpolicy _ hwell, hagain, if_neg hne, ← heq]

namespace Sample

/-- A request that repeats a scope. -/
def scopeRequest : ExchangeRequest := { ExchangeRequest.default with scope := " read write read" }

/-- A subject with one scope at `api`, in the other spelling. -/
def scpSubject : SubjectTokenClaims :=
  { subjectClaims with scp := some (.array [.string "openid read"]) }

def apiPolicy : TargetPolicyEntry where
  allowedScopes := .ofList ["read", "write"]
  defaultScopes := .ofList ["read"]
  acceptedTokenSigningAlgs := .empty
  pqcRequired := false

/-- The subject's scope is granted as often as it was asked for. -/
theorem repeated_scope_granted :
    resolveScopeForRequest scopeRequest (state .both 1 (by decide)) scpSubject api =
      .ok "read read" := by
  have hwell : ScpWellFormed scpSubject.scp := by
    intro value hvalue
    exact ⟨_, List.mem_singleton.mp hvalue⟩
  have hgranted : apiPolicy.granted scopeRequest scpSubject true = ["read", "read"] := by
    decide
  have hpolicy : (state .both 1 (by decide)).config.targetPolicy.get api = some apiPolicy := rfl
  have hspec := (resolve_scope_spec hpolicy scopeRequest scpSubject).2.1 hwell
  have hstrict : (state .both 1 (by decide)).config.subjectScopeBoundRequired = true := rfl
  rw [hstrict, hgranted] at hspec
  exact hspec.1 (by decide)

end Sample

end StsDelegate
