import StsDelegate.Keys
import StsDelegate.Sample.Requests

/-!
# Finding the identity provider's keys

The part of `sts-verify` that goes over the network: OIDC discovery and the JWKS fetch.
Both ask for one document each; what comes back is an argument of the model.

The issuer that a discovery document names is compared with the configured one, and so is
the issuer of every subject token later on. `issuer_checks_agree_iff` is about the two
comparisons.
-/

namespace StsDelegate

open Text Fallible Effectful Prog

/-- An answer to a request for a document. -/
structure WebResponse where
  status : Nat
  body : FileText

def WebResponse.isSuccess (response : WebResponse) : Bool :=
  200 ≤ response.status && response.status < 300

/-- The network as start-up sees it. Requests are counted from zero, as the same document
may come back different. -/
structure Web where
  /-- `RequestBuilder::send`: an answer, or the text of the error. -/
  get : (request : Nat) → (url : String) → Except String WebResponse
  /-- The rendering of a status code. -/
  statusText : Nat → String
  /-- The text of the error that reading a body as the named record gives. -/
  decodeError : (record : String) → FileText → String

/-- The OIDC discovery payload needed for trust-anchor fetches. -/
structure DiscoveryDocument where
  issuer : String
  jwksUri : String

/-- `Response::json`. -/
def DiscoveryDocument.fromValue (value : Json) : Option DiscoveryDocument := do
  let members ← recordMembers ["issuer", "jwks_uri"] value
  let issuer ← requiredText members "issuer"
  let jwksUri ← requiredText members "jwks_uri"
  pure ⟨issuer, jwksUri⟩

/-- A public JWK in a fetched document: an object, or a list that may end early. -/
def PublicJwk.fromValue : Json → Option PublicJwk
  | .object members => PublicJwk.fromMembers members
  | .array items =>
      let fields := ["kty", "kid", "use", "alg", "n", "e", "pub"]
      if items.length ≤ fields.length then PublicJwk.fromMembers (fields.zip items) else none
  | _ => none

/-- `Response::json`. -/
def JwksDocument.fromValue (value : Json) : Option JwksDocument := do
  let members ← recordMembers ["keys"] value
  match Json.get members "keys" with
  | some (.array items) => do
      let keys ← items.mapM PublicJwk.fromValue
      pure ⟨keys⟩
  | _ => none

namespace Web

/-- A body read as a record. -/
def json {T : Type} (web : Web) (record : String) (fromValue : Json → Option T) (body : FileText) :
    Except String T :=
  match body with
  | .json value => okOr (fromValue value) (web.decodeError record body)
  | .other _ => .error (web.decodeError record body)

end Web

/-- Validate a JWKS URL without making network calls. -/
def validateJwksUrl (value : String) : Except VerifyError String := do
  let trimmed := trim value
  rejectIf trimmed.isEmpty ⟨.invalidUrl, "JWKS URL must not be empty"⟩
  rejectIf (!startsWith trimmed "https://") ⟨.invalidUrl, "JWKS URL must use https://"⟩
  rejectIf (containsChar trimmed '#') ⟨.invalidUrl, "JWKS URL must not contain a fragment"⟩
  pure trimmed

/-- Fetch a JWKS document from a validated HTTPS URL. -/
def fetchJwks (web : Web) (request : Nat) (jwksUrl : String) : Except VerifyError JwksDocument := do
  let jwksUrl ← validateJwksUrl jwksUrl
  let response ← (web.get request jwksUrl).mapError fun e => ⟨.fetchFailed, e⟩
  rejectIf (!response.isSuccess)
    ⟨.fetchFailed, "JWKS fetch returned HTTP " ++ web.statusText response.status⟩
  (web.json "JwksDocument" JwksDocument.fromValue response.body).mapError fun e =>
    ⟨.fetchFailed, "invalid JWKS JSON: " ++ e⟩

section Server

variable [Crates]

/-- Where an issuer publishes its discovery document. -/
def discoveryUrl (issuer : String) : String :=
  trimEndMatches '/' issuer ++ "/.well-known/openid-configuration"

/-- Fetch an OpenID discovery document from a validated issuer. -/
def discoverDocument (web : Web) (request : Nat) (issuer : String) :
    Except VerifyError DiscoveryDocument := do
  let issuer ← validateIssuer issuer
  let response ← (web.get request (discoveryUrl issuer)).mapError fun e => ⟨.discoveryFailed, e⟩
  rejectIf (!response.isSuccess)
    ⟨.discoveryFailed, "OIDC discovery returned HTTP " ++ web.statusText response.status⟩
  (web.json "DiscoveryDocument" DiscoveryDocument.fromValue response.body).mapError fun e =>
    ⟨.discoveryFailed, "invalid discovery JSON: " ++ e⟩

/-- Resolve the IdP JWKS with an optional explicit JWKS URI. -/
def resolveIdpJwks (web : Web) (issuer : String) (explicitJwksUri : Option String) :
    Except VerifyError JwksDocument :=
  match (explicitJwksUri.map trim).filter fun value => !value.isEmpty with
  | some jwksUri => fetchJwks web 0 jwksUri
  | none => do
      let discovery ← discoverDocument web 0 issuer
      let expected ← validateIssuer issuer
      rejectIf (trimEndMatches '/' discovery.issuer != expected)
        ⟨.discoveryFailed, "OIDC discovery issuer did not match configured issuer"⟩
      fetchJwks web 1 discovery.jwksUri

/-! ### The two comparisons of the issuer -/

omit [Crates] in
/-- The request is answered with this document. -/
def Web.Serves {T : Type} (web : Web) (request : Nat) (url : String) (fromValue : Json → Option T)
    (document : T) : Prop :=
  ∃ status value, web.get request url = .ok ⟨status, .json value⟩ ∧
    WebResponse.isSuccess ⟨status, .json value⟩ = true ∧ fromValue value = some document

theorem discoverDocument_served {web : Web} {request : Nat} {issuer normalized : String}
    {document : DiscoveryDocument} (hissuer : validateIssuer issuer = .ok normalized)
    (hserves : web.Serves request (discoveryUrl normalized) DiscoveryDocument.fromValue document) :
    discoverDocument web request issuer = .ok document := by
  obtain ⟨status, value, hget, hsuccess, hvalue⟩ := hserves
  simp [discoverDocument, hissuer, hget, hsuccess, Web.json, hvalue, rejectIf]

/-- Discovery compares issuers less their trailing slashes. -/
theorem resolveIdpJwks_ok_iff {web : Web} {issuer normalized : String}
    {document : DiscoveryDocument} {jwks : JwksDocument}
    (hissuer : validateIssuer issuer = .ok normalized)
    (hserves : web.Serves 0 (discoveryUrl normalized) DiscoveryDocument.fromValue document)
    (hjwks : fetchJwks web 1 document.jwksUri = .ok jwks) :
    resolveIdpJwks web issuer none = .ok jwks ↔ trimEndMatches '/' document.issuer = normalized := by
  simp [resolveIdpJwks, discoverDocument_served hissuer hserves, hissuer, hjwks]

/-- What a subject token has to pass besides the check of its issuer. -/
structure SubjectOtherwiseAccepted (token : String) (jwks : JwksDocument)
    (expectedAudiences : List String) (clockSkewLeeway : Int64) (claims : SubjectTokenClaims) :
    Prop where
  verified : ∃ verified, verifyClaimsAgainstJwksWithAllowedAlgs Crates.subjectFromSlice token jwks
    SUBJECT_TOKEN_SIGNING_ALGS = .ok verified ∧ verified.claims = claims
  audience : ∃ value ∈ expectedAudiences, audienceMatches claims.aud value = true
  window : ∃ now, now ≤ claims.exp + clockSkewLeeway ∧
    ∀ nbf, claims.nbf = some nbf → nbf - clockSkewLeeway ≤ now

/-- A subject token is accepted at some time exactly when its issuer is the configured
one less its trailing slashes. -/
theorem verifySubjectToken_accepts_iff {token issuer normalized : String} {jwks : JwksDocument}
    {expectedAudiences : List String} {clockSkewLeeway : Int64} {claims : SubjectTokenClaims}
    (hissuer : validateIssuer issuer = .ok normalized)
    (h : SubjectOtherwiseAccepted token jwks expectedAudiences clockSkewLeeway claims) :
    (∃ t accepted, Returns
        (verifySubjectToken token jwks issuer expectedAudiences clockSkewLeeway) t accepted) ↔
      claims.iss = normalized := by
  obtain ⟨⟨verified, hverified, rfl⟩, haudience, now, hexp, hnbf⟩ := h
  constructor
  · intro ⟨t, accepted, hreturns⟩
    have haccepted := returns_verifySubjectToken hreturns
    obtain ⟨kid, typ, hclaims⟩ := haccepted.verified
    rw [hverified, Except.ok.injEq] at hclaims
    have hiss := haccepted.issuer
    rw [hissuer, Except.ok.injEq] at hiss
    rw [hiss, hclaims]
  · intro hiss
    have hlate : ¬ verified.claims.exp + clockSkewLeeway < now := Int64.not_lt.mpr hexp
    have hearly : (verified.claims.nbf.any fun nbf => decide (now < nbf - clockSkewLeeway)) = false := by
      cases hcase : verified.claims.nbf with
      | none => rfl
      | some nbf => simpa [Int64.not_lt] using hnbf nbf hcase
    have haud := (ensureAudienceMatches_eq_ok (u := ())).mpr haudience
    refine ⟨[nowIs now], verified.claims, ?_⟩
    simp [verifySubjectToken, validateTimeWindow, hverified, hissuer, hiss, haud, rejectIf, hlate,
      hearly, returns_unixNow_bind]

/-- **When the two checks of the issuer agree.** Start-up accepts a discovery document that
names `document.issuer`, and requests accept a subject token from it, or neither does;
except for the configured issuer followed by slashes, which only start-up accepts. -/
theorem issuer_checks_agree_iff {web : Web} {issuer normalized token : String}
    {document : DiscoveryDocument} {fetched jwks : JwksDocument} {expectedAudiences : List String}
    {clockSkewLeeway : Int64} {claims : SubjectTokenClaims}
    (hissuer : validateIssuer issuer = .ok normalized)
    (hserves : web.Serves 0 (discoveryUrl normalized) DiscoveryDocument.fromValue document)
    (hfetched : fetchJwks web 1 document.jwksUri = .ok fetched)
    (htoken : SubjectOtherwiseAccepted token jwks expectedAudiences clockSkewLeeway claims)
    (hclaims : claims.iss = document.issuer) :
    (resolveIdpJwks web issuer none = .ok fetched ↔
        ∃ t accepted, Returns
          (verifySubjectToken token jwks issuer expectedAudiences clockSkewLeeway) t accepted) ↔
      ¬ ∃ n, document.issuer = normalized ++ String.ofList (List.replicate (n + 1) '/') := by
  have hnormal : trimEndMatches '/' normalized = normalized := by
    simp only [validateIssuer, bind_eq_ok, pure_eq_ok] at hissuer
    obtain ⟨-, -, -, -, -, -, -, -, -, -, -, -, rfl⟩ := hissuer
    exact trimEndMatches_idem _ _
  rw [resolveIdpJwks_ok_iff hissuer hserves hfetched, verifySubjectToken_accepts_iff hissuer htoken,
    hclaims]
  obtain ⟨n, hn⟩ := exists_eq_trimEndMatches_append '/' document.issuer
  constructor
  · intro hagree h
    obtain ⟨k, hk⟩ := h
    have htrimmed : trimEndMatches '/' document.issuer = normalized := by
      rw [hk, trimEndMatches_append_replicate, hnormal]
    have hlength := congrArg (fun s => s.toList.length) (hk.symm.trans (hagree.mp htrimmed))
    simp at hlength
  · intro hslashes
    constructor
    · intro htrimmed
      rw [htrimmed] at hn
      -- no slash was dropped
      cases n with
      | zero => simpa using hn
      | succ n => exact absurd ⟨n, hn⟩ hslashes
    · intro heq
      rw [heq, hnormal]

end Server

namespace Sample

def keysUrl : String := "https://idp.example/keys"

/-- A network with an identity provider that calls itself `name`. -/
def web (name : String) : Web where
  get _ url :=
    if url = discoveryUrl idp then
      .ok ⟨200, .json (.object [("issuer", .string name), ("jwks_uri", .string keysUrl)])⟩
    else if url = keysUrl then .ok ⟨200, .json (JwksDocument.toValue ⟨[jwk "idp-1"]⟩)⟩
    else .error "error sending request"
  statusText _ := "200 OK"
  decodeError _ _ := refused

theorem web_serves (name : String) :
    (web name).Serves 0 (discoveryUrl idp) DiscoveryDocument.fromValue ⟨name, keysUrl⟩ :=
  ⟨200, _, rfl, rfl, rfl⟩

theorem fetchJwks_web (name : String) : fetchJwks (web name) 1 keysUrl = .ok ⟨[jwk "idp-1"]⟩ := by
  have hurl : validateJwksUrl keysUrl = .ok keysUrl := toOption_eq_some.mp (by decide)
  have hget : (web name).get 1 keysUrl =
      .ok ⟨200, .json (JwksDocument.toValue ⟨[jwk "idp-1"]⟩)⟩ := rfl
  simp only [fetchJwks, hurl, hget, ok_bind, mapError_ok]
  rfl

theorem otherwiseAccepted {s : Signed} {claims : SubjectTokenClaims} (h : (s, claims) ∈ subjects)
    (hs : s ∈ signed) (hheader : s.header = headerText "idp-1")
    (hclaims : claims.aud = .string issuer ∧ claims.exp = 105 ∧ claims.nbf = none) :
    SubjectOtherwiseAccepted s.token ⟨[jwk "idp-1"]⟩ [issuer] 30 claims := by
  obtain ⟨haud, hexp, hnbf⟩ := hclaims
  have hread : Crates.headerFromSlice s.header = .ok ⟨"RS256", some "idp-1", some "JWT"⟩ := by
    rw [hheader]
    exact toOption_eq_some.mp (by decide)
  refine ⟨⟨_, verify_token hs hread rfl (by simp [SUBJECT_TOKEN_SIGNING_ALGS])
    (fromSlice_payload (by decide) h), rfl⟩, ⟨issuer, by simp, ?_⟩, 100, ?_, ?_⟩
  · rw [haud]
    exact beq_self_eq_true issuer
  · rw [hexp]
    decide
  · simp [hnbf]

/-- With an issuer that has no slash at its end, both checks pass. -/
theorem idp_checks_agree :
    resolveIdpJwks (web idp) idp none = .ok ⟨[jwk "idp-1"]⟩ ↔
      ∃ t accepted, Returns (verifySubjectToken subject.token ⟨[jwk "idp-1"]⟩ idp [issuer] 30) t
        accepted :=
  (issuer_checks_agree_iff validateIssuer_idp (web_serves idp) (fetchJwks_web idp)
    (otherwiseAccepted (List.mem_cons_self ..) (List.mem_cons_self ..) rfl ⟨rfl, rfl, rfl⟩) rfl).mpr
    fun ⟨n, hn⟩ => by
      have hlength := congrArg (fun s => s.toList.length) hn
      simp at hlength

/-- An identity provider that calls itself by the configured name and a slash is accepted
at start-up, and its tokens never are. -/
theorem slash_discovered_and_refused :
    resolveIdpJwks (web (idp ++ "/")) idp none = .ok ⟨[jwk "idp-1"]⟩ ∧
      ¬ ∃ t accepted, Returns
        (verifySubjectToken slashSubject.token ⟨[jwk "idp-1"]⟩ idp [issuer] 30) t accepted := by
  constructor
  · exact (resolveIdpJwks_ok_iff validateIssuer_idp (web_serves _) (fetchJwks_web _)).mpr (by decide)
  · have hsigned : slashSubject ∈ signed := List.mem_cons_of_mem _ (List.mem_append_right _
      (List.mem_append_right _ (List.mem_cons_self ..)))
    have htoken : SubjectOtherwiseAccepted slashSubject.token ⟨[jwk "idp-1"]⟩ [issuer] 30
        { subjectClaims with iss := idp ++ "/" } :=
      otherwiseAccepted (List.mem_append_right exchanged (List.mem_cons_self ..)) hsigned rfl
        ⟨rfl, rfl, rfl⟩
    rw [verifySubjectToken_accepts_iff validateIssuer_idp htoken]
    decide

end Sample

end StsDelegate
