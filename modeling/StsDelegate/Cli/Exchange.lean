import StsDelegate.Cli.Redaction
import StsDelegate.ConfigSource
import StsDelegate.DpopHolder
import StsDelegate.Lib.FormUrlencoded
import StsDelegate.Rotate

/-!
# The token client

`sts-cli exchange` is the other party of a token exchange. It reads the tokens to submit
from files, signs a DPoP proof if it has a holder key, posts the form, and reports what it
got. `token verify` is its second half alone. Neither prints a token that it was not told
to print: what is reported goes into a map of safe values first, and is rendered from there.

A run makes each of its calls once or, for files, with different paths, so that the outside
is given by what it answers to each.
-/

namespace StsDelegate

open Text Fallible

/-- How the result is printed. -/
inductive ExchangeOutputFormat
  | redacted
  | claims
  | json
  deriving DecidableEq

namespace Cli

def TOKEN_EXCHANGE_GRANT_TYPE : String := "urn:ietf:params:oauth:grant-type:token-exchange"

def ACCESS_TOKEN_TYPE : String := "urn:ietf:params:oauth:token-type:access_token"

def JWT_TOKEN_TYPE : String := "urn:ietf:params:oauth:token-type:jwt"

def CLIENT_ASSERTION_TYPE : String := "urn:ietf:params:oauth:client-assertion-type:jwt-bearer"

end Cli

structure ExchangeArgs where
  stsUrl : Option String := none
  tokenEndpoint : Option String := none
  subjectTokenFile : String
  subjectTokenType : String := Cli.ACCESS_TOKEN_TYPE
  actorTokenFile : Option String := none
  actorTokenType : String := Cli.JWT_TOKEN_TYPE
  clientAssertionFile : Option String := none
  clientAssertionType : String := Cli.CLIENT_ASSERTION_TYPE
  clientId : Option String := none
  audience : List String := []
  resource : List String := []
  scope : Option String := none
  requestedTokenType : Option String := none
  dpopProofFile : Option String := none
  dpopKeyFile : Option String := none
  jwksFile : Option String := none
  jwksUrl : Option String := none
  output : ExchangeOutputFormat := .redacted
  printToken : Bool := false

structure TokenVerifyArgs where
  tokenFile : String
  jwksFile : Option String := none
  jwksUrl : Option String := none
  output : ExchangeOutputFormat := .redacted

/-- What is sent. The body is a text of ASCII characters, here its octets. -/
structure ExchangeHttpRequest where
  tokenEndpoint : String
  body : Bytes
  dpopProof : Option String
  dpopJkt : Option String

/-- An answer: its status, and its body or the text of the error that reading it gives. -/
structure HttpResponse where
  status : Nat
  text : Except String String

/-- `StatusCode::is_success`. -/
def HttpResponse.isSuccess (response : HttpResponse) : Bool :=
  200 ≤ response.status && response.status < 300

/-- What the outside answers to a run of the client. -/
structure Outside where
  /-- `fs::read_to_string`. -/
  readToString : (path : String) → Except String String
  /-- The seconds since the epoch, or the text of the error if it is not over yet. -/
  sinceEpoch : Except String UInt64
  /-- `generate_dpop_jti`. -/
  dpopJti : String
  /-- The randomness of a signature. -/
  entropy : Bytes
  /-- `RequestBuilder::send` of the exchange. -/
  post : ExchangeHttpRequest → Except String HttpResponse
  /-- `RequestBuilder::send` of a plain request. -/
  get : (url : String) → Except String HttpResponse

/-- The writing side of `serde_json`. -/
class PrintCrates where
  /-- `serde_json::to_string`. -/
  valueToString : Json → Option String
  /-- `serde_json::to_string_pretty`. -/
  valueToStringPretty : Json → Option String
  /-- `Display` of a number that is no integer. -/
  floatText : Rat → String

/-! ### What is sent -/

/-- `DpopError` is displayed with its kind. -/
def DpopError.display (err : DpopError) : String := "invalid_dpop_proof: " ++ err.message

def sanitizePath (path : String) : String := sanitize path

def resolveTokenEndpoint (args : ExchangeArgs) : Except CliError String := do
  let endpoint ← match args.tokenEndpoint, args.stsUrl with
    | some tokenEndpoint, _ => pure (trim tokenEndpoint)
    | none, some stsUrl => pure (trimEndMatches '/' (trim stsUrl) ++ "/token")
    | none, none => .error (.usage "exchange requires --sts-url or --token-endpoint")
  rejectIf endpoint.isEmpty (.usage "exchange token endpoint must not be empty")
  rejectIf (!startsWith endpoint "https://" && !startsWith endpoint "http://")
    (.usage "exchange token endpoint must be an http or https URL")
  pure endpoint

def readSecretFile (outside : Outside) (path label : String) : Except CliError String := do
  let raw ← (outside.readToString path).mapError fun err =>
    .runtime ("failed to read " ++ label ++ " file " ++ sanitizePath path ++ ": " ++ err)
  let value := trim raw
  rejectIf value.isEmpty (.usage (label ++ " file " ++ sanitizePath path ++ " is empty"))
  pure value

/-- A secret file that need not be given. -/
def readOptionalSecretFile (outside : Outside) (path : Option String) (label : String) :
    Except CliError (Option String) :=
  match path with
  | none => .ok none
  | some path => do
      let value ← readSecretFile outside path label
      pure (some value)

def unixTimestampNow (outside : Outside) : Except CliError Int64 := do
  let seconds ← outside.sinceEpoch.mapError fun err =>
    .runtime ("system clock is before Unix epoch: " ++ err)
  rejectIf (2 ^ 63 ≤ seconds.toNat)
    (.runtime "system time exceeds supported JWT timestamp range")
  pure (Int64.ofNat seconds.toNat)

def pushFormParam (form : List (String × String)) (name value : String) :
    Except CliError (List (String × String)) := do
  rejectIf (isBlank value) (.usage ("exchange parameter " ++ name ++ " must not be empty"))
  pure (form ++ [(name, value)])

/-- The parameters in the order they are pushed. -/
def formPairs (args : ExchangeArgs) (subjectToken : String)
    (actorToken clientAssertion : Option String) : List (String × String) :=
  [("grant_type", Cli.TOKEN_EXCHANGE_GRANT_TYPE), ("subject_token", subjectToken),
    ("subject_token_type", args.subjectTokenType)] ++
  (match actorToken with
    | some actorToken => [("actor_token", actorToken), ("actor_token_type", args.actorTokenType)]
    | none => []) ++
  (match clientAssertion with
    | some clientAssertion => [("client_assertion", clientAssertion),
        ("client_assertion_type", args.clientAssertionType)]
    | none => []) ++
  (args.clientId.map ("client_id", ·)).toList ++
  args.audience.map ("audience", ·) ++ args.resource.map ("resource", ·) ++
  (args.scope.map ("scope", ·)).toList ++
  (args.requestedTokenType.map ("requested_token_type", ·)).toList

section Request

variable [Crates] [HolderCrates]

/-- A proof with the holder key, and the thumbprint it is for. -/
def generateDpopProof (outside : Outside) (path tokenEndpoint : String) :
    Except CliError (String × String) := do
  let raw ← readSecretFile outside path "DPoP holder key"
  let key ← (DpopHolderKey.fromPrivateJwk raw).mapError fun err =>
    .usage ("invalid DPoP holder key: " ++ err.display)
  let htu ← (dpopHtuForRequestUri tokenEndpoint).mapError fun err =>
    .usage ("invalid DPoP token endpoint: " ++ err.display)
  let iat ← unixTimestampNow outside
  let proof ← (key.signProof ⟨"POST", htu, iat, outside.dpopJti⟩ outside.entropy).mapError fun err =>
    .runtime ("failed to sign DPoP proof: " ++ err.display)
  pure (proof, key.publicJkt)

/-- The proof to send: one that is signed now, or the one that was given. -/
def proofToSend (args : ExchangeArgs) (outside : Outside) (tokenEndpoint : String)
    (given : Option String) : Except CliError (Option String × Option String) :=
  match args.dpopKeyFile with
  | some path => do
      let generated ← generateDpopProof outside path tokenEndpoint
      pure (some generated.1, some generated.2)
  | none => .ok (given, none)

def buildExchangeHttpRequest (args : ExchangeArgs) (outside : Outside) :
    Except CliError ExchangeHttpRequest := do
  let tokenEndpoint ← resolveTokenEndpoint args
  let subjectToken ← readSecretFile outside args.subjectTokenFile "subject token"
  let actorToken ← readOptionalSecretFile outside args.actorTokenFile "actor token"
  let clientAssertion ← readOptionalSecretFile outside args.clientAssertionFile "client assertion"
  let dpopProof ← readOptionalSecretFile outside args.dpopProofFile "DPoP proof"
  let (dpopProof, dpopJkt) ← proofToSend args outside tokenEndpoint dpopProof
  let form ← (formPairs args subjectToken actorToken clientAssertion).foldlM
    (fun form pair => pushFormParam form pair.1 pair.2) []
  pure ⟨tokenEndpoint, FormUrlencoded.serialize form, dpopProof, dpopJkt⟩

end Request

/-! ### What is reported -/

namespace Json

/-- `Value::get`, of a name. -/
def member (value : Json) (name : String) : Option Json := value.asObject.bind fun members => get members name

/-- The text of a member. -/
def textMember (value : Json) (name : String) : Option String := (value.member name).bind asStr

end Json

/-- A member that is written if there is a value for it. -/
def safeMember (name : String) (value : Option Json) : List (String × Json) :=
  (value.map fun value => (name, value)).toList

section Report

variable [Crates] [PrintCrates]

omit [Crates] in
def JsonNumber.display : JsonNumber → String
  | .posInt n => String.ofList (Decimal.displayNat n.toNat)
  | .negInt n => Decimal.displayI64 n
  | .float q => PrintCrates.floatText q

omit [Crates] in
def displayJsonScalar (value : Json) : String :=
  match value with
  | .string value => sanitize value
  | .number value => value.display
  | .bool value => toString value
  | .array _ | .object _ =>
      match PrintCrates.valueToString value with
      | some text => sanitize text
      | none => "(unrenderable)"
  | .null => "(absent)"

omit [PrintCrates] in
def sha256HexPrefix (value : String) : String := sha256BytesHexPrefix (asBytes value)

omit [Crates] [PrintCrates] in
/-- Lines of names and values. -/
def renderLines (fields : List (String × String)) : String :=
  String.join (fields.map fun field => field.1 ++ "=" ++ field.2 ++ "\n")

omit [Crates] in
/-- The members of a map that are shown, in the order of their names in the list. -/
def shownFields (qualifier : String) (names : List String) (safe : List (String × Json)) :
    List (String × String) :=
  names.filterMap fun name =>
    (Json.get safe name).map fun value => (qualifier ++ name, displayJsonScalar value)

def exchangeNames : List String :=
  ["exchange_status", "http_status", "error", "error_description", "token_type",
    "issued_token_type", "scope", "expires_in", "access_token_sha256_prefix",
    "jwt_signature_verified", "jwt_verification_source", "jwt_header_alg", "jwt_header_kid",
    "jwt_header_typ", "dpop_cnf_jkt_matches_holder", "dpop_holder_jkt_sha256_prefix"]

def tokenVerifyNames : List String :=
  ["token_verify_status", "access_token_sha256_prefix", "jwt_signature_verified",
    "jwt_verification_source", "jwt_header_alg", "jwt_header_kid"]

def claimNames : List String :=
  ["iss", "aud", "scope", "client_id", "sub_sha256_prefix", "jti_sha256_prefix", "act_sub",
    "cnf_jkt_sha256_prefix", "iat", "exp"]

omit [Crates] [PrintCrates] in
/-- The members of the claims in a map. -/
def claimMembers (safe : List (String × Json)) : List (String × Json) :=
  match Json.get safe "claims" with
  | some (.object claims) => claims
  | _ => []

omit [Crates] in
/-- The fields of a map, and those of the claims in it. -/
def mapFields (names : List String) (safe : List (String × Json)) : List (String × String) :=
  shownFields "" names safe ++ shownFields "claims." claimNames (claimMembers safe)

omit [Crates] in
def renderExchangeMapLines (safe : List (String × Json)) (rawAccessToken : Option String) : String :=
  renderLines (mapFields exchangeNames safe) ++
    match rawAccessToken with
    | some token => "access_token=" ++ token ++ "\n"
    | none => ""

omit [Crates] in
def renderTokenVerifyMapLines (safe : List (String × Json)) : String :=
  renderLines (mapFields tokenVerifyNames safe)

omit [Crates] in
/-- A map as JSON, on lines of its own. -/
def renderPretty (value : Json) (fallback : String) : String :=
  (PrintCrates.valueToStringPretty value).getD fallback ++ "\n"

omit [Crates] [PrintCrates] in
def safeStringClaim (claims : Json) (name : String) : List (String × Json) :=
  safeMember name ((claims.textMember name).map fun value => .string (sanitize value))

omit [Crates] [PrintCrates] in
def safeAudienceClaim (claims : Json) : List (String × Json) :=
  match claims.member "aud" with
  | some (.string value) => [("aud", .string (sanitize value))]
  | some (.array values) =>
      [("aud", .array ((values.filterMap Json.asStr).map fun value => .string (sanitize value)))]
  | _ => []

omit [PrintCrates] in
/-- A claim that is shown by its digest. -/
def safeDigest (name : String) (value : Option String) : List (String × Json) :=
  safeMember name (value.map fun value => .string (sha256HexPrefix value))

omit [PrintCrates] in
def safeClaimsSummary (claims : Json) : List (String × Json) :=
  safeStringClaim claims "iss" ++ safeAudienceClaim claims ++ safeStringClaim claims "scope" ++
  safeStringClaim claims "client_id" ++
  safeDigest "sub_sha256_prefix" (claims.textMember "sub") ++
  safeDigest "jti_sha256_prefix" (claims.textMember "jti") ++
  safeMember "act_sub" (((claims.member "act").bind (·.textMember "sub")).map fun value =>
    .string (sanitize value)) ++
  safeDigest "cnf_jkt_sha256_prefix" ((claims.member "cnf").bind (·.textMember "jkt")) ++
  safeMember "iat" (((claims.member "iat").bind Json.asI64).map Json.ofI64) ++
  safeMember "exp" (((claims.member "exp").bind Json.asI64).map Json.ofI64)

omit [Crates] in
def renderExchangeError (args : ExchangeArgs) (httpStatus : Nat) (body : Json) : String :=
  let oauthError := ((body.textMember "error").map sanitizeOauthText).getD "oauth_error"
  let description := (body.textMember "error_description").map sanitizeOauthText
  let safe := [("exchange_status", .string "error"),
    ("http_status", .number (.posInt (UInt64.ofNat httpStatus))), ("error", .string oauthError)] ++
    safeMember "error_description" (description.map .string)
  match args.output with
  | .redacted => renderExchangeMapLines safe none
  | .claims | .json => renderPretty (.object safe) "\x7b\"exchange_status\":\"error\"\x7d"

/-! ### Looking at the token -/

omit [PrintCrates] in
def decodeCompactJwtJsonPart (part label : String) : Except CliError Json := do
  let bytes ← okOr (Base64.decode part) (.runtime ("minted " ++ label ++ " is not valid base64url"))
  (Crates.valueFromSlice bytes).mapError fun err =>
    .runtime ("minted " ++ label ++ " is not JSON: " ++ err)

omit [PrintCrates] in
/-- Header and payload of a token with three parts. -/
def decodeCompactJwt (token : String) : Except CliError (Option (Json × Json)) :=
  match splitAtChar '.' token with
  | [header, payload, _] => do
      let header ← decodeCompactJwtJsonPart header "JWT header"
      let payload ← decodeCompactJwtJsonPart payload "JWT payload"
      pure (some (header, payload))
  | _ => .ok none

variable [KeyCrates]

omit [PrintCrates] in
def exchangePublicKey (label : String) (index : Nat) (key : List (String × Json)) :
    Except CliError PublicJwk := do
  let named := label ++ " key[" ++ toString index ++ "]"
  let jwk ← okOr (PublicJwk.fromMembers key)
    (.usage (named ++ " is not a public JWK: " ++ KeyCrates.serdeError "PublicJwk" (.object key)))
  rejectIf jwk.kid.isEmpty (.usage (named ++ " missing required member kid"))
  pure jwk

omit [PrintCrates] in
def parseExchangeJwksDocument (raw label : String) : Except CliError JwksDocument := do
  let value ← (valueFromStr raw).mapError fun err => .usage (label ++ " is invalid JSON: " ++ err)
  let keys ← normalizeJwksValue value
  let _ ← inspectPublicKeys keys
  let publicKeys ← keys.zipIdx.mapM fun entry => exchangePublicKey label entry.2 entry.1
  pure ⟨publicKeys⟩

omit [PrintCrates] in
/-- The keys to verify with, if there are any, and where they come from. -/
def loadJwks (outside : Outside) (jwksFile jwksUrl : Option String) :
    Except CliError (Option (JwksDocument × String)) :=
  match jwksFile, jwksUrl with
  | some path, _ => do
      let raw ← (outside.readToString path).mapError fun err =>
        .runtime ("failed to read JWKS file " ++ sanitizePath path ++ ": " ++ err)
      let jwks ← parseExchangeJwksDocument raw "JWKS file"
      pure (some (jwks, "file"))
  | none, some url => do
      rejectIf (!startsWith url "https://" && !startsWith url "http://")
        (.usage "JWKS URL must be an http or https URL")
      let response ← (outside.get url).mapError fun err =>
        .runtime ("failed to fetch JWKS URL: " ++ sanitizeOauthText err)
      let raw ← response.text.mapError fun err =>
        .runtime ("failed to read JWKS response body: " ++ sanitizeOauthText err)
      rejectIf (!response.isSuccess)
        (.runtime ("JWKS URL fetch failed\nhttp_status=" ++ toString response.status))
      let jwks ← parseExchangeJwksDocument raw "JWKS URL"
      pure (some (jwks, "url"))
  | none, none => .ok none

omit [PrintCrates] in
def loadExchangeJwks (args : ExchangeArgs) (outside : Outside) :
    Except CliError (Option (JwksDocument × String)) :=
  loadJwks outside args.jwksFile args.jwksUrl

omit [PrintCrates] in
def loadJwksForVerification (jwksFile jwksUrl : Option String) (outside : Outside) :
    Except CliError (JwksDocument × String) := do
  let jwks ← loadJwks outside jwksFile jwksUrl
  okOr jwks (.usage "token verify requires --jwks-file or --jwks-url")

/-- What is known of a token: its claims, the algorithm and key id that it was verified with,
and where the keys came from. -/
structure Examined where
  claims : Option Json
  alg : Option String
  kid : Option String
  source : String

omit [PrintCrates] in
/-- Verify the token if there are keys to verify it with, and take its word otherwise. -/
def examineToken (token : String) (decoded : Option (Json × Json))
    (jwks : Option (JwksDocument × String)) : Except CliError Examined :=
  match jwks with
  | some (jwks, source) => do
      let verified ← (verifyClaimsAgainstJwksWithHeader Crates.valueFromSlice token jwks).mapError
        fun err => .runtime ("minted token verification failed: " ++ sanitizeOauthText err.display)
      pure ⟨some verified.claims, some verified.alg, some verified.kid, source⟩
  | none => .ok ⟨decoded.map Prod.snd, none, none, "none"⟩

omit [PrintCrates] in
/-- What the token says of its own header, where it was not verified. -/
def headerMembers (decoded : Option (Json × Json)) (examined : Examined) : List (String × Json) :=
  match decoded with
  | none => []
  | some (header, _) =>
      (if examined.alg.isNone then
        safeMember "jwt_header_alg" ((header.textMember "alg").map fun alg => .string (sanitize alg))
      else []) ++
      (if examined.kid.isNone then
        safeMember "jwt_header_kid" ((header.textMember "kid").map fun kid => .string (sanitize kid))
      else []) ++
      safeMember "jwt_header_typ" ((header.textMember "typ").map fun typ => .string (sanitize typ))

omit [PrintCrates] [KeyCrates] in
/-- The token has to be bound to the holder key. -/
def checkHolder (examined : Examined) : Option String → Except CliError (List (String × Json))
  | none => .ok []
  | some expectedJkt => do
      let claims ← okOr examined.claims
        (.runtime "DPoP exchange response access_token is not a compact JWT")
      let actualJkt ← okOr ((claims.member "cnf").bind (·.textMember "jkt"))
        (.runtime "DPoP exchange response missing access_token cnf.jkt")
      rejectIf (actualJkt != expectedJkt)
        (.runtime "DPoP exchange response cnf.jkt does not match holder key")
      pure [("dpop_cnf_jkt_matches_holder", .bool true),
        ("dpop_holder_jkt_sha256_prefix", .string (sha256HexPrefix expectedJkt))]

omit [PrintCrates] in
/-- What can be told of a token that was issued. -/
def exchangeSummary (httpStatus : Nat) (body : Json) (accessToken : String)
    (decoded : Option (Json × Json)) (examined : Examined) (holder : List (String × Json)) :
    List (String × Json) :=
  [("exchange_status", .string "ok"),
    ("http_status", .number (.posInt (UInt64.ofNat httpStatus))),
    ("token_type", .string (((body.textMember "token_type").map sanitize).getD "(absent)")),
    ("issued_token_type",
      .string (((body.textMember "issued_token_type").map sanitize).getD "(absent)")),
    ("access_token_sha256_prefix", .string (sha256HexPrefix accessToken))] ++
  safeMember "scope" ((body.textMember "scope").map fun scope => .string (sanitize scope)) ++
  safeMember "expires_in" (((body.member "expires_in").bind Json.asI64).map Json.ofI64) ++
  [("jwt_signature_verified", .bool (examined.source != "none")),
    ("jwt_verification_source", .string examined.source)] ++
  headerMembers decoded examined ++
  safeMember "jwt_header_alg" (examined.alg.map fun alg => .string (sanitize alg)) ++
  safeMember "jwt_header_kid" (examined.kid.map fun kid => .string (sanitize kid)) ++
  holder ++
  safeMember "claims" (examined.claims.map fun claims => .object (safeClaimsSummary claims))

omit [Crates] [KeyCrates] in
/-- Print it, with the token itself if that is asked for. -/
def renderSummary (args : ExchangeArgs) (safe : List (String × Json)) (accessToken : String) : String :=
  let withToken := if args.printToken then Json.insert safe "access_token" (.string accessToken)
    else safe
  match args.output with
  | .redacted => renderExchangeMapLines safe (if args.printToken then some accessToken else none)
  | .claims => renderPretty ((Json.get withToken "claims").getD (.object withToken)) "\x7b\x7d"
  | .json => renderPretty (.object withToken) "\x7b\x7d"

def renderExchangeSuccess (args : ExchangeArgs) (outside : Outside) (httpStatus : Nat) (body : Json)
    (expectedDpopJkt : Option String) : Except CliError String := do
  let accessToken ← okOr (body.textMember "access_token")
    (.runtime "exchange response missing access_token; refusing to print raw body")
  let decoded ← decodeCompactJwt accessToken
  let jwks ← loadExchangeJwks args outside
  let examined ← examineToken accessToken decoded jwks
  let holder ← checkHolder examined expectedDpopJkt
  pure (renderSummary args (exchangeSummary httpStatus body accessToken decoded examined holder)
    accessToken)

/-! ### The commands -/

def runExchange [HolderCrates] (args : ExchangeArgs) (outside : Outside) : Except CliError String := do
  let request ← buildExchangeHttpRequest args outside
  let response ← (outside.post request).mapError fun err =>
    .runtime ("exchange request failed: " ++ sanitizeOauthText err)
  let responseText ← response.text.mapError fun err =>
    .runtime ("failed to read exchange response body: " ++ sanitizeOauthText err)
  let responseBody ← (valueFromStr responseText).mapError fun err =>
    .runtime ("exchange response was not JSON\nhttp_status=" ++ toString response.status ++
      "\nparse_error=" ++ sanitizeOauthText err)
  rejectIf (!response.isSuccess) (.runtime (renderExchangeError args response.status responseBody))
  renderExchangeSuccess args outside response.status responseBody request.dpopJkt

omit [PrintCrates] in
/-- What can be told of a token that was verified. -/
def verifySummary (token source : String) (verified : VerifiedJws Json) : List (String × Json) :=
  [("token_verify_status", .string "ok"),
    ("access_token_sha256_prefix", .string (sha256HexPrefix token)),
    ("jwt_signature_verified", .bool true), ("jwt_verification_source", .string source),
    ("jwt_header_alg", .string (sanitize verified.alg)),
    ("jwt_header_kid", .string (sanitize verified.kid)),
    ("claims", .object (safeClaimsSummary verified.claims))]

def verifyToken (args : TokenVerifyArgs) (outside : Outside) : Except CliError String := do
  let token ← readSecretFile outside args.tokenFile "token"
  let loaded ← loadJwksForVerification args.jwksFile args.jwksUrl outside
  let verified ← (verifyClaimsAgainstJwksWithHeader Crates.valueFromSlice token loaded.1).mapError
    fun err => .runtime ("token verification failed: " ++ sanitizeOauthText err.display)
  let safe := verifySummary token loaded.2 verified
  pure (match args.output with
    | .redacted => renderTokenVerifyMapLines safe
    | .claims => renderPretty ((Json.get safe "claims").getD (.object safe)) "\x7b\x7d"
    | .json => renderPretty (.object safe) "\x7b\x7d")

end Report

end StsDelegate
