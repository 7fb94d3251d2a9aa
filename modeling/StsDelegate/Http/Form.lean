import StsDelegate.Http.State
import StsDelegate.Lib.Fallible

/-!
# Form parsing

The bodies of `/token`, `/introspect` and `/revoke`: `parse_token_form` and
`parse_online_token_form`. A name that occurs twice is refused, an empty value
counts as absent, and an unknown name is ignored. An empty `actor_token` is
absent too, but leaves a flag behind, because its presence alone selects
delegation.

`parseTokenPairs_ok` says what a parsed form knows about the pairs it came from.
-/

namespace StsDelegate

open Text Fallible

/-! ### The token form -/

/-- The parameters of a token request. -/
inductive TokenParam
  | grantType | subjectToken | subjectTokenType | actorToken | actorTokenType | audience | resource
  | scope | requestedTokenType | clientId | clientAssertion | clientAssertionType
  deriving DecidableEq

namespace TokenParam

/-- The name a parameter has in the body. -/
def name : TokenParam → String
  | .grantType => "grant_type"
  | .subjectToken => "subject_token"
  | .subjectTokenType => "subject_token_type"
  | .actorToken => "actor_token"
  | .actorTokenType => "actor_token_type"
  | .audience => "audience"
  | .resource => "resource"
  | .scope => "scope"
  | .requestedTokenType => "requested_token_type"
  | .clientId => "client_id"
  | .clientAssertion => "client_assertion"
  | .clientAssertionType => "client_assertion_type"

/-- All parameters, in the order `is_recognized_token_form_key` lists them. -/
def all : List TokenParam :=
  [.grantType, .subjectToken, .subjectTokenType, .actorToken, .actorTokenType, .audience, .resource,
    .scope, .requestedTokenType, .clientId, .clientAssertion, .clientAssertionType]

/-- The parameter of that name; `none` for a name that is not recognized. -/
def ofKey (key : String) : Option TokenParam := all.find? fun param => param.name == key

theorem ofKey_name (param : TokenParam) : ofKey param.name = some param := by
  cases param <;> decide

theorem name_of_ofKey {key : String} {param : TokenParam} (h : ofKey key = some param) :
    param.name = key := by
  simpa using List.find?_some h

end TokenParam

/-- A parsed token request. -/
structure TokenForm where
  grantType : Option String := none
  subjectToken : Option String := none
  subjectTokenType : Option String := none
  actorToken : Option String := none
  actorTokenType : Option String := none
  emptyActorTokenSupplied : Bool := false
  audience : Option String := none
  resource : Option String := none
  scope : Option String := none
  requestedTokenType : Option String := none
  clientId : Option String := none
  clientAssertion : Option String := none
  clientAssertionType : Option String := none

/-- An empty value counts as absent. -/
def nonEmptyFormValue (value : String) : Option String := if value.isEmpty then none else some value

namespace TokenForm

/-- The value of a parameter. -/
def get (form : TokenForm) : TokenParam → Option String
  | .grantType => form.grantType
  | .subjectToken => form.subjectToken
  | .subjectTokenType => form.subjectTokenType
  | .actorToken => form.actorToken
  | .actorTokenType => form.actorTokenType
  | .audience => form.audience
  | .resource => form.resource
  | .scope => form.scope
  | .requestedTokenType => form.requestedTokenType
  | .clientId => form.clientId
  | .clientAssertion => form.clientAssertion
  | .clientAssertionType => form.clientAssertionType

/-- `assign_token_form_value`. -/
def assign (form : TokenForm) (param : TokenParam) (value : String) : TokenForm :=
  match param with
  | .grantType => { form with grantType := nonEmptyFormValue value }
  | .subjectToken => { form with subjectToken := nonEmptyFormValue value }
  | .subjectTokenType => { form with subjectTokenType := nonEmptyFormValue value }
  | .actorToken =>
      if value.isEmpty then { form with emptyActorTokenSupplied := true, actorToken := none }
      else { form with actorToken := some value }
  | .actorTokenType => { form with actorTokenType := nonEmptyFormValue value }
  | .audience => { form with audience := nonEmptyFormValue value }
  | .resource => { form with resource := nonEmptyFormValue value }
  | .scope => { form with scope := nonEmptyFormValue value }
  | .requestedTokenType => { form with requestedTokenType := nonEmptyFormValue value }
  | .clientId => { form with clientId := nonEmptyFormValue value }
  | .clientAssertion => { form with clientAssertion := nonEmptyFormValue value }
  | .clientAssertionType => { form with clientAssertionType := nonEmptyFormValue value }

def intoExchangeRequest (form : TokenForm) : ExchangeRequest where
  grantType := form.grantType.getD ""
  subjectToken := form.subjectToken.getD ""
  subjectTokenType := form.subjectTokenType.getD ""
  actorToken := form.actorToken
  actorTokenType := form.actorTokenType
  audience := form.audience
  resource := form.resource
  scope := form.scope
  requestedTokenType := form.requestedTokenType
  clientId := form.clientId
  clientAssertion := form.clientAssertion
  clientAssertionType := form.clientAssertionType

/-- Assigning a parameter sets it and nothing else. -/
theorem get_assign (form : TokenForm) (param other : TokenParam) (value : String) :
    (form.assign param value).get other =
      if other = param then nonEmptyFormValue value else form.get other := by
  by_cases h : other = param
  · subst h
    cases other <;> simp only [assign, get, nonEmptyFormValue] <;> split <;> simp_all
  · rw [if_neg h]
    cases param <;> cases other <;> first | exact absurd rfl h | rfl | (simp only [assign]; split <;> rfl)

/-- The flag is raised by an empty `actor_token`, and by nothing else. -/
theorem emptyActorTokenSupplied_assign (form : TokenForm) (param : TokenParam) (value : String) :
    (form.assign param value).emptyActorTokenSupplied =
      (form.emptyActorTokenSupplied || (param == .actorToken && value.isEmpty)) := by
  cases param with
  | actorToken =>
      simp only [assign]
      split <;> simp_all
  | _ => simp [assign]

end TokenForm

variable [Crates]

/-- The loop over the decoded pairs, with the names met so far. -/
def parseTokenPairs : List (String × String) → OrdSet String → TokenForm → Except HttpError TokenForm
  | [], _, form => .ok form
  | (key, value) :: rest, seen, form =>
      match TokenParam.ofKey key with
      | none => parseTokenPairs rest seen form
      | some param =>
          if key ∈ seen then
            if param = .audience ∨ param = .resource then
              .error (.invalidTarget
                ("multiple " ++ key ++ " values are not supported; send one target"))
            else
              .error (.invalidRequest ("parameter " ++ debug key ++ " is included more than once"))
          else parseTokenPairs rest (seen.insert key) (form.assign param value)

omit [Crates] in
def requireFormUrlencoded (headers : HeaderMap) : Except HttpError Unit :=
  let contentType := ((headers.get "content-type").bind HeaderValue.toStr).getD ""
  let mediaType := toAsciiLowercase (trim ((splitAtChar ';' contentType).head?.getD ""))
  rejectIf (mediaType != "application/x-www-form-urlencoded")
    (.invalidRequest "Content-Type must be application/x-www-form-urlencoded")

omit [Crates] in
def rejectAuthorizationHeaderClientAuth (headers : HeaderMap) : Except HttpError Unit :=
  match headers.get "authorization" with
  | none => .ok ()
  | some value =>
      let authorization := value.toStr.getD ""
      let scheme := (splitWhitespace authorization).head?.getD "Basic"
      let challenge := if eqIgnoreAsciiCase scheme "basic" then "Basic" else scheme
      .error (.unsupportedAuthorizationClientAuth
        "Authorization header client authentication is not supported; use private_key_jwt"
        challenge)

def parseTokenForm (headers : HeaderMap) (body : Bytes) : Except HttpError TokenForm := do
  requireFormUrlencoded headers
  rejectAuthorizationHeaderClientAuth headers
  parseTokenPairs (Crates.formUrlencodedParse body) OrdSet.empty {}

/-- What a parsed form knows about the pairs: a recognized name occurs at most
once, the form holds its value unless that is empty, an empty `actor_token` has
raised the flag, and a parameter that does not occur is as it was. -/
theorem parseTokenPairs_ok {pairs : List (String × String)} {seen : OrdSet String}
    {form out : TokenForm} (h : parseTokenPairs pairs seen form = .ok out) (param : TokenParam) :
    (∀ value, (param.name, value) ∈ pairs →
      param.name ∉ seen ∧ out.get param = nonEmptyFormValue value ∧
      (param = .actorToken → value.isEmpty = true → out.emptyActorTokenSupplied = true)) ∧
    ((∀ value, (param.name, value) ∉ pairs) → out.get param = form.get param) ∧
    (form.emptyActorTokenSupplied = true → out.emptyActorTokenSupplied = true) := by
  induction pairs generalizing seen form with
  | nil =>
      rw [parseTokenPairs] at h
      cases h
      exact ⟨by simp, fun _ => rfl, id⟩
  | cons pair rest ih =>
      obtain ⟨key, value⟩ := pair
      rw [parseTokenPairs] at h
      cases hkey : TokenParam.ofKey key with
      | none =>
          -- an unknown name changes nothing, and is not the name of `param`
          rw [hkey] at h
          have hne : param.name ≠ key := by
            rintro rfl
            rw [TokenParam.ofKey_name] at hkey
            cases hkey
          obtain ⟨hmem, habsent, hflag⟩ := ih h
          refine ⟨fun v hv => ?_, fun hv => habsent fun v hv' => ?_, hflag⟩
          · rcases List.mem_cons.mp hv with heq | hv
            · exact absurd (congrArg Prod.fst heq) hne
            · exact hmem v hv
          · exact hv v (List.mem_cons_of_mem _ hv')
      | some param' =>
          rw [hkey] at h
          have hname := TokenParam.name_of_ofKey hkey
          by_cases hseen : key ∈ seen
          · simp only [if_pos hseen] at h
            split at h <;> cases h
          · simp only [if_neg hseen] at h
            obtain ⟨hmem, habsent, hflag⟩ := ih h
            by_cases hparam : param = param'
            · subst hparam
              subst hname
              -- the name is taken now, so it cannot occur in the rest
              have hrest : ∀ v, (param.name, v) ∉ rest := fun v hv =>
                (hmem v hv).1 (OrdSet.mem_insert.mpr (Or.inl rfl))
              have hget := habsent hrest
              rw [TokenForm.get_assign, if_pos rfl] at hget
              refine ⟨fun v hv => ?_, fun hv => absurd (List.mem_cons_self ..) (hv value), ?_⟩
              · rcases List.mem_cons.mp hv with heq | hv
                · obtain rfl : v = value := congrArg Prod.snd heq
                  refine ⟨hseen, hget, fun hactor hempty => hflag ?_⟩
                  rw [TokenForm.emptyActorTokenSupplied_assign, hactor, hempty]
                  simp
                · exact absurd hv (hrest v)
              · intro hform
                apply hflag
                rw [TokenForm.emptyActorTokenSupplied_assign, hform, Bool.true_or]
            · have hne : param.name ≠ key := by
                rintro rfl
                rw [TokenParam.ofKey_name] at hkey
                exact hparam (Option.some.inj hkey)
              refine ⟨fun v hv => ?_, fun hv => ?_, ?_⟩
              · rcases List.mem_cons.mp hv with heq | hv
                · exact absurd (congrArg Prod.fst heq) hne
                · obtain ⟨hns, hget, hempty⟩ := hmem v hv
                  exact ⟨fun hs => hns (OrdSet.mem_insert.mpr (Or.inr hs)), hget, hempty⟩
              · have hget := habsent fun v hv' => hv v (List.mem_cons_of_mem _ hv')
                rwa [TokenForm.get_assign, if_neg hparam] at hget
              · intro hform
                apply hflag
                rw [TokenForm.emptyActorTokenSupplied_assign, hform, Bool.true_or]

/-! ### The form of the online endpoints -/

/-- A parsed introspection or revocation request. -/
structure OnlineTokenForm where
  token : Option String := none
  tokenTypeHint : Option String := none
  clientId : Option String := none
  clientAssertion : Option String := none
  clientAssertionType : Option String := none

omit [Crates] in
def isOnlineTokenParam (key : String) : Bool :=
  ["token", "token_type_hint", "client_id", "client_assertion", "client_assertion_type"].contains key

omit [Crates] in
def assignOnlineTokenFormValue (form : OnlineTokenForm) (key value : String) : OnlineTokenForm :=
  if key = "token" then { form with token := nonEmptyFormValue value }
  else if key = "token_type_hint" then { form with tokenTypeHint := nonEmptyFormValue value }
  else if key = "client_id" then { form with clientId := nonEmptyFormValue value }
  else if key = "client_assertion" then { form with clientAssertion := nonEmptyFormValue value }
  else if key = "client_assertion_type" then
    { form with clientAssertionType := nonEmptyFormValue value }
  else form

/-- The loop over the decoded pairs, with the names met so far. -/
def parseOnlinePairs :
    List (String × String) → OrdSet String → OnlineTokenForm → Except HttpError OnlineTokenForm
  | [], _, form => .ok form
  | (key, value) :: rest, seen, form =>
      if isOnlineTokenParam key then
        if key ∈ seen then
          .error (.invalidRequest ("parameter " ++ debug key ++ " is included more than once"))
        else parseOnlinePairs rest (seen.insert key) (assignOnlineTokenFormValue form key value)
      else parseOnlinePairs rest seen (assignOnlineTokenFormValue form key value)

def parseOnlineTokenForm (headers : HeaderMap) (body : Bytes) : Except HttpError OnlineTokenForm := do
  requireFormUrlencoded headers
  rejectAuthorizationHeaderClientAuth headers
  parseOnlinePairs (Crates.formUrlencodedParse body) OrdSet.empty {}

omit [Crates] in
def requiredOnlineToken (form : OnlineTokenForm) (maxTokenLen : Nat) : Except HttpError String := do
  let token ← okOr (form.token.filter fun value => !isBlank value)
    (HttpError.invalidRequest "token is required")
  rejectIf (maxTokenLen < len token) (.invalidRequest "token too large")
  pure token

omit [Crates] in
/-- A token that is there is only measured. -/
theorem requiredOnlineToken_eq {form : OnlineTokenForm} {token : String}
    (htoken : form.token = some token) (hblank : isBlank token = false) (maxTokenLen : Nat) :
    requiredOnlineToken form maxTokenLen =
      if maxTokenLen < len token then .error (.invalidRequest "token too large") else .ok token := by
  have hfilter : (form.token.filter fun value => !isBlank value) = some token := by
    simp [htoken, hblank]
  rw [requiredOnlineToken, hfilter, okOr_some, ok_bind]
  by_cases hlen : maxTokenLen < len token
  · rw [if_pos hlen, rejectIf, if_pos (decide_eq_true hlen)]
    rfl
  · rw [if_neg hlen, rejectIf, if_neg (by simpa using hlen)]
    rfl

end StsDelegate
