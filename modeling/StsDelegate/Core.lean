import StsDelegate.Claims
import StsDelegate.Lib.Fallible

/-!
# Token-exchange policy

`sts-core`: resolving the one target of a request, downscoping, and shaping the
minted claims. Everything here is pure.
-/

namespace StsDelegate

open Text Fallible

/-- The token-exchange grant type URN. -/
def TOKEN_EXCHANGE_GRANT_TYPE : String := "urn:ietf:params:oauth:grant-type:token-exchange"

/-- RFC 8693 access-token type URN. -/
def ACCESS_TOKEN_TYPE : String := "urn:ietf:params:oauth:token-type:access_token"

/-- RFC 8693 JWT token type URN. -/
def JWT_TOKEN_TYPE : String := "urn:ietf:params:oauth:token-type:jwt"

/-- A token-exchange request. -/
structure ExchangeRequest where
  grantType : String
  subjectToken : String
  subjectTokenType : String
  actorToken : Option String
  actorTokenType : Option String
  audience : Option String
  resource : Option String
  scope : Option String
  requestedTokenType : Option String
  clientId : Option String
  clientAssertion : Option String
  clientAssertionType : Option String

/-- `ExchangeRequest::default`. -/
def ExchangeRequest.default : ExchangeRequest where
  grantType := ""
  subjectToken := ""
  subjectTokenType := ""
  actorToken := none
  actorTokenType := none
  audience := none
  resource := none
  scope := none
  requestedTokenType := none
  clientId := none
  clientAssertion := none
  clientAssertionType := none

/-- Failure categories of the core layer. -/
inductive CoreErrorKind
  | invalidRequest
  | invalidClient
  | invalidTarget
  | invalidScope
  deriving DecidableEq

structure CoreError where
  kind : CoreErrorKind
  message : String

/-! ### Target -/

def validateTargetValue (value : String) : Except CoreError String := do
  let trimmed := trim value
  rejectIf trimmed.isEmpty ⟨.invalidTarget, "target must not be empty"⟩
  pure trimmed

def validateResourceValue (value : String) : Except CoreError String := do
  let trimmed := trim value
  rejectIf trimmed.isEmpty ⟨.invalidTarget, "resource must not be empty"⟩
  rejectIf (!containsStr trimmed "://" || startsWithChar trimmed '/')
    ⟨.invalidTarget, "resource must be an absolute URI"⟩
  rejectIf (containsChar trimmed '#') ⟨.invalidTarget, "resource must not contain a fragment"⟩
  pure trimmed

/-- Resolve the target audience from `audience` / `resource`. -/
def resolveTarget (audience resource : Option String) : Except CoreError String :=
  match audience, resource with
  | some aud, none => validateTargetValue aud
  | none, some res => validateResourceValue res
  | some aud, some res => do
      let aud ← validateTargetValue aud
      let res ← validateResourceValue res
      if aud = res then pure aud
      else .error ⟨.invalidTarget, "audience and resource must agree when both are present"⟩
  | none, none => .error ⟨.invalidTarget, "no target audience supplied"⟩

/-! ### Scope -/

def splitScopes (input : Option String) : List String :=
  ((splitWhitespace (input.getD "")).filter fun s => !isBlank s).map trim

def intersectScopes (left right : List String) : List String :=
  left.filter fun scope => right.any fun candidate => candidate == scope

def joinScopes (scopes : List String) : String := joinWith scopes

/-- Downscope a requested scope against target and subject limits. -/
def downscope (requested : Option String) (targetAllowed : String) (subjectScopes : Option String)
    (subjectScopeBoundRequired : Bool) : Except CoreError String := do
  let requested := splitScopes requested
  let targetAllowed := splitScopes (some targetAllowed)
  let result := intersectScopes requested targetAllowed
  let result :=
    match subjectScopes with
    | some subject =>
        let subjectScopes := splitScopes (some subject)
        let subjectTargetIntersection := intersectScopes targetAllowed subjectScopes
        if subjectScopeBoundRequired || !subjectTargetIntersection.isEmpty then
          intersectScopes result subjectTargetIntersection
        else result
    | none => result
  rejectIf result.isEmpty ⟨.invalidScope, "no scopes remain after downscoping"⟩
  pure (joinScopes result)

/-- Splitting at whitespace leaves nothing to trim. -/
theorem splitScopes_eq (input : Option String) :
    splitScopes input = splitWhitespace (input.getD "") := by
  have hword : ∀ w ∈ splitWhitespace (input.getD ""), IsWord w :=
    fun w hw => isWord_of_mem_splitWhitespace hw
  have hfilter : (splitWhitespace (input.getD "")).filter (fun s => !isBlank s) =
      splitWhitespace (input.getD "") := by
    rw [List.filter_eq_self]
    intro w hw
    rw [(hword w hw).not_isBlank, Bool.not_false]
  rw [splitScopes, hfilter]
  conv_rhs => rw [← List.map_id (splitWhitespace (input.getD ""))]
  exact List.map_congr_left fun w hw => (hword w hw).trim_eq

theorem mem_intersectScopes {w : String} {left right : List String} :
    w ∈ intersectScopes left right ↔ w ∈ left ∧ w ∈ right := by
  simp [intersectScopes]

/-- Do the subject's scopes bound the request? It has some, and the bound is strict or some of
them are about the target. -/
def SubjectBinds (allowed subject : List String) (strict : Bool) : Prop :=
  subject ≠ [] ∧ (strict = true ∨ ∃ w ∈ subject, w ∈ allowed)

instance (allowed subject : List String) (strict : Bool) :
    Decidable (SubjectBinds allowed subject strict) :=
  inferInstanceAs (Decidable (subject ≠ [] ∧ (strict = true ∨ ∃ w ∈ subject, w ∈ allowed)))

/-- The requested tokens that are allowed, and the subject's where it has a say. -/
def grantedTokens (requested allowed subject : List String) (strict : Bool) : List String :=
  requested.filter fun w => w ∈ allowed ∧ (SubjectBinds allowed subject strict → w ∈ subject)

theorem mem_grantedTokens {requested allowed subject : List String} {strict : Bool} {w : String} :
    w ∈ grantedTokens requested allowed subject strict ↔ w ∈ requested ∧ w ∈ allowed ∧
      (SubjectBinds allowed subject strict → w ∈ subject) := by
  rw [grantedTokens, List.mem_filter, decide_eq_true_iff]

/-- Asking for what was granted grants it again. -/
theorem grantedTokens_idem (requested allowed subject : List String) (strict : Bool) :
    grantedTokens (grantedTokens requested allowed subject strict) allowed subject strict =
      grantedTokens requested allowed subject strict := by
  simp [grantedTokens, List.filter_filter]

theorem intersectScopes_eq (left right : List String) :
    intersectScopes left right = left.filter fun w => w ∈ right := by
  refine List.filter_congr fun w _ => ?_
  rw [Bool.eq_iff_iff]
  simp

/-- Without a bound, what is allowed is granted. -/
theorem grantedTokens_of_not_binds {requested allowed subject : List String} {strict : Bool}
    (h : ¬SubjectBinds allowed subject strict) :
    grantedTokens requested allowed subject strict = intersectScopes requested allowed := by
  simp only [grantedTokens, intersectScopes_eq, h, false_implies, and_true]

/-- With one, the two intersections one after the other. -/
theorem grantedTokens_of_binds {requested allowed subject bound : List String} {strict : Bool}
    (h : SubjectBinds allowed subject strict) (hbound : ∀ w, w ∈ bound ↔ w ∈ allowed ∧ w ∈ subject) :
    grantedTokens requested allowed subject strict =
      intersectScopes (intersectScopes requested allowed) bound := by
  rw [grantedTokens, intersectScopes_eq, intersectScopes_eq, List.filter_filter]
  refine List.filter_congr fun w _ => ?_
  rw [Bool.eq_iff_iff]
  simp only [Bool.and_eq_true, decide_eq_true_eq, hbound, h, true_implies]
  constructor
  · intro ⟨hallowed, hsubject⟩
    exact ⟨⟨hallowed, hsubject⟩, hallowed⟩
  · intro ⟨hboth, _⟩
    exact hboth

/-- Downscoping by three intersections is one filter. The subject's scopes arrive as a text,
or not at all if there is none. -/
theorem downscope_eq {requested : Option String} {targetAllowed : String}
    {subjectScopes : Option String} {subject : List String} {strict : Bool}
    (hnone : subjectScopes = none → subject = [])
    (hsome : ∀ value, subjectScopes = some value →
      subject ≠ [] ∧ ∀ w, w ∈ splitWhitespace value ↔ w ∈ subject) :
    downscope requested targetAllowed subjectScopes strict = (do
      let granted := grantedTokens (splitWhitespace (requested.getD ""))
        (splitWhitespace targetAllowed) subject strict
      rejectIf granted.isEmpty ⟨.invalidScope, "no scopes remain after downscoping"⟩
      pure (joinScopes granted)) := by
  generalize hallowed : splitWhitespace targetAllowed = allowed
  cases subjectScopes with
  | none =>
      have hfree : ¬SubjectBinds allowed subject strict := fun hbinds => hbinds.1 (hnone rfl)
      simp only [downscope, splitScopes_eq, Option.getD_some, hallowed,
        grantedTokens_of_not_binds hfree]
  | some value =>
      obtain ⟨hne, hmem⟩ := hsome value rfl
      have hboth : ∀ w, w ∈ intersectScopes allowed (splitWhitespace value) ↔
          w ∈ allowed ∧ w ∈ subject := by
        intro w
        rw [mem_intersectScopes, hmem]
      -- whether the subject binds is told from the intersection alone, as it has scopes
      have hbinds : (strict || !(intersectScopes allowed (splitWhitespace value)).isEmpty) = true ↔
          SubjectBinds allowed subject strict := by
        rw [Bool.or_eq_true, Bool.not_eq_true', List.isEmpty_eq_false_iff_exists_mem, SubjectBinds]
        constructor
        · intro hcond
          refine ⟨hne, hcond.imp_right fun ⟨w, hw⟩ => ?_⟩
          exact ⟨w, ((hboth w).mp hw).2, ((hboth w).mp hw).1⟩
        · intro ⟨_, hcond⟩
          exact hcond.imp_right fun ⟨w, hsubject, hw⟩ => ⟨w, (hboth w).mpr ⟨hw, hsubject⟩⟩
      simp only [downscope, splitScopes_eq, Option.getD_some, hallowed]
      by_cases h : SubjectBinds allowed subject strict
      · rw [if_pos (hbinds.mpr h), grantedTokens_of_binds h hboth]
      · rw [if_neg (mt hbinds.mp h), grantedTokens_of_not_binds h]

/-- What downscoping leaves: at least one scope, all of them requested and allowed
at the target; and under the strict bound all of them the subject's, if the
subject's scopes are known. -/
theorem downscope_ok {requested : Option String} {targetAllowed : String}
    {subjectScopes : Option String} {strict : Bool} {scope : String}
    (h : downscope requested targetAllowed subjectScopes strict = .ok scope) :
    splitWhitespace scope ≠ [] ∧
    (∀ w ∈ splitWhitespace scope,
      w ∈ splitWhitespace (requested.getD "") ∧ w ∈ splitWhitespace targetAllowed) ∧
    ∀ subject, subjectScopes = some subject → strict = true →
      ∀ w ∈ splitWhitespace scope, w ∈ splitWhitespace subject := by
  simp only [downscope, bind_eq_ok, rejectIf_eq_ok, pure_eq_ok, splitScopes_eq, Option.getD_some]
    at h
  obtain ⟨-, hne, rfl⟩ := h
  generalize hresult : (match subjectScopes with
    | some subject => _
    | none => _) = result at hne ⊢
  -- whichever branch was taken, the result only keeps requested and allowed scopes
  have hsub : ∀ w ∈ result, w ∈ splitWhitespace (requested.getD "") ∧
      w ∈ splitWhitespace targetAllowed := by
    intro w hw
    rw [← hresult] at hw
    cases subjectScopes with
    | none => exact mem_intersectScopes.mp hw
    | some subject =>
        simp only at hw
        split at hw
        · exact mem_intersectScopes.mp (mem_intersectScopes.mp hw).1
        · exact mem_intersectScopes.mp hw
  have hword : ∀ w ∈ result, IsWord w := fun w hw => isWord_of_mem_splitWhitespace (hsub w hw).1
  rw [joinScopes, splitWhitespace_joinWith hword]
  refine ⟨fun hnil => ?_, hsub, ?_⟩
  · rw [hnil] at hne
    exact Bool.noConfusion hne
  · rintro subject rfl rfl w hw
    simp only [Bool.true_or, if_true] at hresult
    rw [← hresult] at hw
    exact (mem_intersectScopes.mp (mem_intersectScopes.mp hw).2).2

/-! ### Minted claims -/

/-- Build the RFC 8693 `act` claim. -/
def buildAct (actorSub : String) (priorAct : Option ActClaim) : ActClaim := .mk actorSub none priorAct

/-- Build the minted payload. -/
def buildScopedPayload (iss sub aud scope : String) (iat exp : Int64) (jti clientId : String)
    (act : Option ActClaim) (cnfJkt : Option String) : MintedClaims where
  iss := iss
  sub := sub
  aud := aud
  scope := scope
  iat := iat
  exp := exp
  jti := jti
  clientId := clientId
  act := act
  cnfJkt := cnfJkt
  authTime := none
  acr := none
  amr := []

end StsDelegate
