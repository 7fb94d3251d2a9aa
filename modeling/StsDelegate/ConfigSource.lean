import StsDelegate.Keys
import StsDelegate.Lib.Decimal

/-!
# Loading the configuration

`RuntimeConfig::from_source` of `sts-config`: from the variables of the environment to a
configuration. What a request needs of it is `RuntimeConfig`; `StartConfig` adds what only
start-up reads. Options about logging, metrics and the listening address are left out.

A set of variables is refused at the first one that does not make sense, so every
configuration that is handed out satisfies the fields of `RuntimeConfig`.
-/

namespace StsDelegate

open Text Fallible

/-! ### Files -/

/-- What a file holds. -/
inductive Contents
  | text (s : String)
  /-- Octets that are not UTF-8. -/
  | binary (octets : Bytes)

def Contents.bytes : Contents → Bytes
  | .text s => asBytes s
  | .binary octets => octets

/-- A file on disk. -/
structure DiskFile where
  contents : Contents
  mode : Nat

/-- The disk as start-up sees it. -/
structure Disk where
  file : (path : String) → Option DiskFile
  /-- The text of the error that reading this path gives. -/
  readError : (path : String) → String
  /-- `fs::create_dir_all` succeeds, and there is a directory afterwards. -/
  createDirAll : (path : String) → Bool

/-- `fs::read_to_string(path).ok()`. -/
def Disk.readToString (disk : Disk) (path : String) : Option String :=
  match disk.file path with
  | some ⟨.text s, _⟩ => some s
  | _ => none

/-- `PathBuf::join`, for a relative name. -/
def joinPath (dir name : String) : String :=
  if dir.isEmpty || dir.toList.getLast? == some '/' then dir ++ name else dir ++ "/" ++ name

/-! ### Variables -/

/-- Raw configuration source. -/
structure ConfigSource where
  values : AList fun _ : String => String

namespace ConfigSource

def get (source : ConfigSource) (key : String) : Option String := source.values.lookup key

/-- `.map(str::trim).filter(|value| !value.is_empty())`. -/
def trimmed (source : ConfigSource) (key : String) : Option String :=
  ((source.get key).map trim).filter fun value => !value.isEmpty

end ConfigSource

/-- `value.trim().eq_ignore_ascii_case("true")`. -/
def isTrue (value : String) : Bool := eqIgnoreAsciiCase (trim value) "true"

def parseBool (source : ConfigSource) (key : String) (default : Bool) : Bool :=
  ((source.get key).map isTrue).getD default

def parseBoolWithFallback (source : ConfigSource) (key fallbackKey : String) (default : Bool) :
    Bool :=
  (((source.get key).or (source.get fallbackKey)).map isTrue).getD default

/-- Within the bounds that are set. -/
def InRange {α : Type} [LE α] (minimum maximum : Option α) (value : α) : Prop :=
  (∀ low ∈ minimum, low ≤ value) ∧ ∀ high ∈ maximum, value ≤ high

instance {α : Type} [LE α] [DecidableLE α] (minimum maximum : Option α) (value : α) :
    Decidable (InRange minimum maximum value) :=
  inferInstanceAs (Decidable (_ ∧ _))

/-- A number within bounds, `default` when the variable is unset or empty. -/
def parseEnvNumber {α : Type} [LE α] [DecidableLE α] (parse : String → Option α)
    (display : α → String) (kind : String) (source : ConfigSource) (key : String) (default : α)
    (minimum maximum : Option α) :
    Except ConfigError { value : α // InRange minimum maximum value } := do
  let raw := (source.get key).getD ""
  let raw := if raw.isEmpty then display default else raw
  let value ← okOr (parse (trim raw)) ⟨.invalidValue, some key, key ++ " must be " ++ kind⟩
  if h : InRange minimum maximum value then .ok ⟨value, h⟩
  else .error ⟨.invalidValue, some key, key ++ " out of range"⟩

def parseEnvInt (source : ConfigSource) (key : String) (default : Int64)
    (minimum maximum : Option Int64) :
    Except ConfigError { value : Int64 // InRange minimum maximum value } :=
  parseEnvNumber Decimal.parseI64 Decimal.displayI64 "an integer" source key default minimum maximum

def parseEnvUsize (source : ConfigSource) (key : String) (default : Nat)
    (minimum maximum : Option Nat) :
    Except ConfigError { value : Nat // InRange minimum maximum value } :=
  parseEnvNumber Decimal.parseUsize (fun n => String.ofList (Decimal.displayNat n))
    "a non-negative integer" source key default minimum maximum

def splitCsvVec (raw : String) : List String :=
  ((splitAtChar ',' raw).map trim).filter fun value => !value.isEmpty

def splitCsvSet (raw : String) : OrdSet String := OrdSet.ofList (splitCsvVec raw)

/-- A variable that is not set or blank has its default. -/
theorem trimmed_getD (source : ConfigSource) (key default : String) :
    (source.trimmed key).getD default =
      if trim ((source.get key).getD "") = "" then default
      else trim ((source.get key).getD "") := by
  have hempty : trim "" = "" := by decide
  cases hget : source.get key with
  | none => simp [ConfigSource.trimmed, hget, hempty]
  | some value =>
      by_cases hblank : trim value = ""
      · simp [ConfigSource.trimmed, hget, hblank, Option.filter]
      · simp [ConfigSource.trimmed, hget, hblank, Option.filter]

theorem not_isBlank_of_trimmed {source : ConfigSource} {key value : String}
    (h : source.trimmed key = some value) : isBlank value = false := by
  simp only [ConfigSource.trimmed, Option.filter_eq_some_iff, Option.map_eq_some_iff,
    Bool.not_eq_eq_eq_not, Bool.not_true] at h
  obtain ⟨⟨raw, -, heq⟩, hne⟩ := h
  rw [← heq, isBlank_trim, isBlank, heq, hne]

theorem not_isBlank_of_mem_splitCsvVec {raw value : String} (h : value ∈ splitCsvVec raw) :
    isBlank value = false := by
  rw [splitCsvVec, List.mem_filter, List.mem_map] at h
  obtain ⟨⟨piece, -, heq⟩, hne⟩ := h
  rw [← heq, isBlank_trim, isBlank, heq]
  simpa using hne

/-! ### Identities -/

/-- Identities, none of them blank. -/
abbrev Identities : Type := { ids : OrdSet String // ∀ id ∈ ids, isBlank id = false }

def csvIdentities (raw : String) : Identities :=
  ⟨splitCsvSet raw, fun id hid => by
    rw [splitCsvSet, OrdSet.mem_ofList] at hid
    exact not_isBlank_of_mem_splitCsvVec hid⟩

/-- Add the identity that a variable holds, if it holds one. -/
def Identities.insertTrimmed (ids : Identities) (source : ConfigSource) (key : String) :
    Identities :=
  match h : source.trimmed key with
  | none => ids
  | some single => ⟨ids.1.insert single, fun id hid => by
      rcases OrdSet.mem_insert.mp hid with heq | hmem
      · rw [heq]
        exact not_isBlank_of_trimmed h
      · exact ids.2 id hmem⟩

def parseActorIds (source : ConfigSource) : Except ConfigError Identities := do
  let ids := (csvIdentities ((source.get "ACTOR_IDS").getD "")).insertTrimmed source
    "GATEWAY_ACTOR_ID"
  rejectIf ids.1.isEmpty ⟨.missingEnv, some "ACTOR_IDS",
    "set ACTOR_IDS (or GATEWAY_ACTOR_ID) to at least one actor identity"⟩
  pure ids

def parseClientIds (source : ConfigSource) (actorIds : Identities) : Identities :=
  let ids := csvIdentities ((source.get "CLIENT_IDS").getD "")
  if ids.1.isEmpty then actorIds else ids

/-! ### Selections -/

section Server

variable [Crates]

/-- `validate_issuer` of `sts-config`: the checks are those of `sts-verify`, reported about
a variable. -/
def validateConfigIssuer (value key : String) : Except ConfigError String :=
  (validateIssuer value).mapError fun err => ⟨.invalidValue, some key, err.message⟩

def requireIssuer (source : ConfigSource) : Except ConfigError String :=
  match source.get "IDP_ISSUER", source.get "OKTA_ISSUER" with
  | some value, _ => validateConfigIssuer value "IDP_ISSUER"
  | none, some value => validateConfigIssuer value "OKTA_ISSUER"
  | none, none => .error ⟨.missingEnv, some "IDP_ISSUER",
      "set IDP_ISSUER (or OKTA_ISSUER) to the OIDC issuer that signs subject tokens"⟩

omit [Crates] in
def requireExpectedAud (source : ConfigSource) : Except ConfigError (OrdSet String) := do
  let raw ← okOr (source.get "EXPECTED_SUBJECT_AUD") ⟨.missingEnv, some "EXPECTED_SUBJECT_AUD",
    "set EXPECTED_SUBJECT_AUD to the subject-token audience"⟩
  let values := splitCsvSet raw
  rejectIf values.isEmpty ⟨.invalidValue, some "EXPECTED_SUBJECT_AUD",
    "EXPECTED_SUBJECT_AUD contains no non-empty entries"⟩
  pure values

def parseTokenExchangeMode (source : ConfigSource) : Except ConfigError TokenExchangeMode :=
  let raw := toAsciiLowercase (trim ((source.get "STS_TOKEN_EXCHANGE_MODE").getD "delegation"))
  if raw = "delegation" then .ok .delegation
  else if raw = "impersonation" then .ok .impersonation
  else if raw = "both" then .ok .both
  else .error ⟨.invalidValue, some "STS_TOKEN_EXCHANGE_MODE",
    "must be delegation, impersonation, or both; got " ++ debug raw⟩

def parseClientAuthPolicy (source : ConfigSource) : Except ConfigError ClientAuthPolicy :=
  let raw := toAsciiLowercase (trim ((source.get "CLIENT_AUTH_POLICY").getD "auto"))
  if raw = "auto" || raw = "actor_token_allowed" then .ok .auto
  else if raw = "private_key_jwt_required" then .ok .privateKeyJwtRequired
  else .error ⟨.invalidValue, some "CLIENT_AUTH_POLICY",
    "must be auto, actor_token_allowed, or private_key_jwt_required; got " ++ debug raw⟩

omit [Crates] in
/-- Replay storage backend selection. -/
inductive ReplayBackend
  | memory
  | file (dir : String)

def parseReplayBackend (source : ConfigSource) : Except ConfigError ReplayBackend :=
  let raw := toAsciiLowercase (trim ((source.get "STS_REPLAY_BACKEND").getD "memory"))
  if raw = "" || raw = "memory" || raw = "in_memory" then .ok .memory
  else if raw = "file" then do
    let dir ← okOr (source.trimmed "STS_REPLAY_DIR") ⟨.missingEnv, some "STS_REPLAY_DIR",
      "set STS_REPLAY_DIR when STS_REPLAY_BACKEND=file"⟩
    pure (.file dir)
  else .error ⟨.invalidValue, some "STS_REPLAY_BACKEND",
    "must be memory or file; got " ++ debug raw⟩

end Server

/-! ### Algorithms -/

def parseAllowNonPqc (source : ConfigSource) : Bool :=
  let pqcPreferred := parseBool source "STS_PQC_PREFERRED" true
  parseBool source "STS_ALLOW_NON_PQC" (!pqcPreferred)

def parsePqcPreferredAlgs (source : ConfigSource) : Except ConfigError (List String) := do
  let raw := (source.get "STS_PQC_PREFERRED_ALGS").getD "ML-DSA-65,ML-DSA-87,ML-DSA-44"
  let algs := splitCsvVec raw
  rejectIf algs.isEmpty ⟨.invalidValue, some "STS_PQC_PREFERRED_ALGS",
    "STS_PQC_PREFERRED_ALGS must contain at least one algorithm"⟩
  pure algs

def parseAllowNonPqcInbound (source : ConfigSource) (inboundPqcPreferred : Bool) : Bool :=
  parseBool source "STS_ALLOW_NON_PQC_INBOUND" (!inboundPqcPreferred)

def isPqcInboundAssertionAlg (alg : String) : Bool :=
  alg = "ML-DSA-44" || alg = "ML-DSA-65" || alg = "ML-DSA-87"

def isSupportedInboundAssertionAlg (alg : String) : Bool :=
  alg = "RS256" || isPqcInboundAssertionAlg alg

/-- `Vec::retain` of what is new to the set of those seen. -/
def retainNew (seen : OrdSet String) : List String → List String
  | [] => []
  | value :: rest =>
      if value ∈ seen then retainNew seen rest else value :: retainNew (seen.insert value) rest

def dedupPreservingOrder (values : List String) : List String := retainNew .empty values

/-- The algorithms as configured, or else by default. -/
def configuredInboundAlgs (source : ConfigSource) (inboundPqcPreferred allowNonPqcInbound : Bool) :
    List String :=
  match source.trimmed "STS_INBOUND_ASSERTION_ALGS" with
  | some raw => splitCsvVec raw
  | none => (if inboundPqcPreferred then ["ML-DSA-65"] else []) ++
      if allowNonPqcInbound then ["RS256"] else []

def parseInboundAssertionAlgs (source : ConfigSource)
    (inboundPqcPreferred allowNonPqcInbound : Bool) : Except ConfigError (List String) := do
  let refuse := ConfigError.mk .invalidValue (some "STS_INBOUND_ASSERTION_ALGS")
  let algs := dedupPreservingOrder
    (configuredInboundAlgs source inboundPqcPreferred allowNonPqcInbound)
  rejectIf algs.isEmpty (refuse "STS_INBOUND_ASSERTION_ALGS must contain at least one algorithm")
  failOn (algs.find? fun alg => !isSupportedInboundAssertionAlg alg) fun alg =>
    refuse ("unsupported inbound assertion signing algorithm " ++ alg)
  rejectIf ((algs.any fun alg => alg == "RS256") && !allowNonPqcInbound)
    (refuse "RS256 inbound assertions require STS_ALLOW_NON_PQC_INBOUND=true")
  rejectIf (!allowNonPqcInbound && !algs.any isPqcInboundAssertionAlg)
    (refuse ("non-PQC inbound assertions are disabled, but no PQC assertion algorithm is " ++
      "configured"))
  pure algs

/-! ### Policies -/

/-- The items of a JSON array of strings, each of them checked. -/
def stringItems (refuse : String → ConfigError) (notArray notString : String)
    (check : String → Except ConfigError String) (value : Json) :
    Except ConfigError (OrdSet String) := do
  let items ← okOr value.asArray (refuse notArray)
  let items ← items.mapM fun item => do
    let item ← okOr item.asStr (refuse notString)
    check item
  pure (OrdSet.ofList items)

def parseScopes (aud key : String) (value : Option Json) : Except ConfigError (OrdSet String) :=
  match value with
  | none => .ok .empty
  | some value => stringItems (⟨.invalidPolicy, some aud, ·⟩)
      (key ++ " must be a JSON array of strings") (key ++ " must contain only strings") .ok value

def parseStringSet (aud key : String) (value : Option Json) : Except ConfigError (OrdSet String) :=
  match value with
  | none => .ok .empty
  | some value => stringItems (⟨.invalidPolicy, some aud, ·⟩)
      (key ++ " must be a JSON array of strings") (key ++ " must contain only strings")
      (fun item => do
        rejectIf (isBlank item)
          ⟨.invalidPolicy, some aud, key ++ " must not contain empty strings"⟩
        pure (trim item))
      value

def parsePolicyBool (aud key : String) (value : Option Json) : Except ConfigError Bool :=
  match value with
  | none => .ok false
  | some value => okOr value.asBool ⟨.invalidPolicy, some aud, key ++ " must be a boolean"⟩

/-- One entry of the target policy. -/
def targetPolicyEntry (aud : String) (policy : Json) : Except ConfigError TargetPolicyEntry := do
  let entry ← okOr policy.asObject
    ⟨.invalidPolicy, some aud, "target policy entry must be an object"⟩
  let allowedScopes ← parseScopes aud "allowed_scopes"
    ((Json.get entry "allowed_scopes").or (Json.get entry "scopes"))
  let defaultScopes ← parseScopes aud "default_scopes" (Json.get entry "default_scopes")
  let acceptedTokenSigningAlgs ← parseStringSet aud "accepted_token_signing_algs"
    (Json.get entry "accepted_token_signing_algs")
  let pqcRequired ← parsePolicyBool aud "pqc_required" (Json.get entry "pqc_required")
  pure ⟨allowedScopes, defaultScopes, acceptedTokenSigningAlgs, pqcRequired⟩

def normalizeTargetPolicy (data : Json) : Except ConfigError TargetPolicy := do
  let map ← okOr data.asObject
    ⟨.invalidPolicy, some "TARGET_POLICY_JSON", "target policy must be a JSON object"⟩
  let targets ← map.foldlM (fun targets member => do
    if startsWithChar member.1 '_' then pure targets
    else
      let entry ← targetPolicyEntry member.1 member.2
      pure (AList.insert member.1 entry targets)) ∅
  pure ⟨targets⟩

def parseImpersonationSelector (clientId field : String) (value : Option Json) :
    Except ConfigError ImpersonationSelector :=
  match value with
  | none => .ok (.values .empty)
  | some value =>
      if value.asStr = some "*" then .ok .any
      else do
        let values ← stringItems (⟨.invalidPolicy, some clientId, ·⟩)
          ("impersonation policy " ++ field ++ " must be a JSON array of strings or \"*\"")
          ("impersonation policy " ++ field ++ " must contain only strings") .ok value
        pure (.values values)

def normalizeImpersonationPolicy (data : Json) : Except ConfigError ImpersonationPolicy := do
  let map ← okOr data.asObject ⟨.invalidPolicy, some "IMPERSONATION_POLICY_JSON",
    "impersonation policy must be a JSON object"⟩
  let clients ← map.foldlM (fun clients member => do
    let entry ← okOr member.2.asObject
      ⟨.invalidPolicy, some member.1, "impersonation policy entry must be an object"⟩
    let targets ← parseImpersonationSelector member.1 "targets" (Json.get entry "targets")
    let subjects ← parseImpersonationSelector member.1 "subjects" (Json.get entry "subjects")
    pure (AList.insert member.1 ⟨targets, subjects⟩ clients)) ∅
  pure ⟨clients⟩

variable [Crates]

/-- `serde_json::from_str`. -/
def valueFromStr (raw : String) : Except String Json := Crates.valueFromSlice (asBytes raw)

def parseImpersonationPolicy (source : ConfigSource) : Except ConfigError ImpersonationPolicy :=
  match source.trimmed "IMPERSONATION_POLICY_JSON" with
  | none => .ok ⟨∅⟩
  | some raw => do
      let parsed ← (valueFromStr raw).mapError fun err =>
        ⟨.invalidJson, some "IMPERSONATION_POLICY_JSON",
          "impersonation policy JSON could not be parsed: " ++ err⟩
      normalizeImpersonationPolicy parsed

/-- The variable wins over the file; without either every target is refused. -/
def loadTargetPolicyFromSource (source : ConfigSource) (disk : Disk) :
    Except ConfigError TargetPolicy :=
  match (source.get "TARGET_POLICY_JSON").or
      ((source.get "TARGET_POLICY_FILE").bind disk.readToString) with
  | none => .ok ⟨∅⟩
  | some raw => do
      let parsed ← (valueFromStr raw).mapError fun err =>
        ⟨.invalidJson, some "TARGET_POLICY_JSON", "target policy JSON could not be parsed: " ++ err⟩
      normalizeTargetPolicy parsed

/-! ### The whole configuration -/

/-- The configuration with what only start-up reads. -/
structure StartConfig extends RuntimeConfig, KeyFileConfig where
  oboStsKeyFile : String
  idpJwksFile : Option String
  idpJwksUri : Option String
  actorJwksFile : String
  clientJwksFile : String
  oboStsExtraJwksFile : Option String
  actorId : String
  inboundPqcPreferred : Bool
  allowNonPqcInbound : Bool
  stsSigningProvider : String
  stsSigningPublicJwksFile : Option String
  mockExternalSignerKeyFile : Option String
  jwksCacheMaxAge : Int64
  replayBackend : ReplayBackend
  allowInsecureActorJwks : Bool
  allowInsecureClientJwks : Bool
  actorJwksSha256 : Option String
  clientJwksSha256 : Option String

namespace StartConfig

/-- Load the runtime config from an explicit source map. -/
def fromSource (source : ConfigSource) (disk : Disk) : Except ConfigError StartConfig := do
  let idpIssuer ← requireIssuer source
  let expectedSubjectAud ← requireExpectedAud source
  let stsSecretsDir := (source.get "STS_SECRETS_DIR").getD "./secrets"
  let actorJwksFile :=
    (source.get "ACTOR_JWKS_FILE").getD (joinPath stsSecretsDir "actor_jwks.json")
  let actorIds ← parseActorIds source
  let actorId := (source.trimmed "GATEWAY_ACTOR_ID").getD (actorIds.1.toList.head?.getD "")
  rejectIf actorId.isEmpty ⟨.missingEnv, some "ACTOR_IDS", "no actor identities configured"⟩
  let clientIds := parseClientIds source actorIds
  let inboundPqcPreferred := parseBool source "STS_INBOUND_PQC_PREFERRED" true
  let allowNonPqcInbound := parseAllowNonPqcInbound source inboundPqcPreferred
  let inboundAssertionAlgs ←
    parseInboundAssertionAlgs source inboundPqcPreferred allowNonPqcInbound
  let ourIssuer ← validateConfigIssuer ((source.get "OBO_STS_ISSUER").getD "http://localhost:8888/")
    "OBO_STS_ISSUER"
  let tokenExchangeMode ← parseTokenExchangeMode source
  let clientAuthPolicy ← parseClientAuthPolicy source
  let impersonationPolicy ← parseImpersonationPolicy source
  let targetPolicy ← loadTargetPolicyFromSource source disk
  let pqcPreferredAlgs ← parsePqcPreferredAlgs source
  let clockSkewLeeway ← parseEnvInt source "CLOCK_SKEW_LEEWAY" 30 (some 0) none
  let scopedTokenTtl ← parseEnvInt source "SCOPED_TOKEN_TTL" 300 (some 1) (some 3600)
  let jwksCacheMaxAge ← parseEnvInt source "JWKS_CACHE_MAX_AGE" 300 (some 0) none
  let assertionMaxTtl ← parseEnvInt source "ASSERTION_MAX_TTL" 300 (some 1) none
  let maxSeenJti ← parseEnvUsize source "MAX_SEEN_JTI" 100000 (some 1) none
  let replayBackend ← parseReplayBackend source
  let maxTokenLen ← parseEnvUsize source "MAX_TOKEN_LEN" 8192 (some 1) none
  let actorJwksSha256 := source.trimmed "ACTOR_JWKS_SHA256"
  pure
    { idpIssuer
      expectedSubjectAud
      ourIssuer
      actorIds := actorIds.1
      clientIds := clientIds.1
      tokenExchangeMode
      clientAuthPolicy
      impersonationPolicy
      targetPolicy
      pqcPreferred := parseBool source "STS_PQC_PREFERRED" true
      allowNonPqc := parseAllowNonPqc source
      pqcPreferredAlgs
      inboundAssertionAlgs
      clockSkewLeeway := clockSkewLeeway.1
      scopedTokenTtl := scopedTokenTtl.1
      assertionMaxTtl := assertionMaxTtl.1
      maxSeenJti := maxSeenJti.1
      maxTokenLen := maxTokenLen.1
      requireSubjectBinding := parseBool source "REQUIRE_SUBJECT_BINDING" true
      subjectScopeBoundRequired := parseBool source "SUBJECT_SCOPE_BOUND_REQUIRED" false
      clockSkewLeeway_nonneg := clockSkewLeeway.2.1 0 rfl
      scopedTokenTtl_pos := scopedTokenTtl.2.1 1 rfl
      scopedTokenTtl_le := scopedTokenTtl.2.2 3600 rfl
      assertionMaxTtl_pos := assertionMaxTtl.2.1 1 rfl
      maxSeenJti_pos := maxSeenJti.2.1 1 rfl
      maxTokenLen_pos := maxTokenLen.2.1 1 rfl
      actorIds_nonblank := actorIds.2
      clientIds_nonblank := clientIds.2
      stsSigningAlg := (source.trimmed "STS_SIGNING_ALG").getD "ML-DSA-65"
      ourKid := (source.trimmed "STS_SIGNING_KID").getD "sts-delegate-key-1"
      allowInsecureKeyFile := parseBool source "ALLOW_INSECURE_KEY_FILE" false
      allowInsecureJwks := parseBool source "ALLOW_INSECURE_JWKS" false
      oboStsKeyFile :=
        (source.get "OBO_STS_KEY_FILE").getD (joinPath stsSecretsDir "obo_sts_private_key.json")
      idpJwksFile := source.trimmed "IDP_JWKS_FILE"
      idpJwksUri := (((source.get "IDP_JWKS_URI").or (source.get "OKTA_JWKS_URL")).map trim).filter
        fun value => !value.isEmpty
      actorJwksFile
      clientJwksFile := (source.get "CLIENT_JWKS_FILE").getD actorJwksFile
      oboStsExtraJwksFile := source.trimmed "OBO_STS_EXTRA_JWKS_FILE"
      actorId
      inboundPqcPreferred
      allowNonPqcInbound
      stsSigningProvider :=
        toAsciiLowercase (trim ((source.get "STS_SIGNING_PROVIDER").getD "file"))
      stsSigningPublicJwksFile := source.trimmed "STS_SIGNING_PUBLIC_JWKS_FILE"
      mockExternalSignerKeyFile := source.trimmed "STS_MOCK_EXTERNAL_SIGNER_KEY_FILE"
      jwksCacheMaxAge := jwksCacheMaxAge.1
      replayBackend
      allowInsecureActorJwks := parseBool source "ALLOW_INSECURE_ACTOR_JWKS" false
      allowInsecureClientJwks := parseBoolWithFallback source "ALLOW_INSECURE_CLIENT_JWKS"
        "ALLOW_INSECURE_ACTOR_JWKS" false
      actorJwksSha256
      clientJwksSha256 := (source.trimmed "CLIENT_JWKS_SHA256").or actorJwksSha256 }

/-- What a configuration has from its source, as far as signing, inbound algorithms and
pins go. -/
structure LoadedFrom (source : ConfigSource) (config : StartConfig) : Prop where
  inboundAlgs : parseInboundAssertionAlgs source
    (parseBool source "STS_INBOUND_PQC_PREFERRED" true) config.allowNonPqcInbound =
      .ok config.inboundAssertionAlgs
  allowNonPqcInbound : config.allowNonPqcInbound =
    parseAllowNonPqcInbound source (parseBool source "STS_INBOUND_PQC_PREFERRED" true)
  pqcPreferred : config.pqcPreferred = parseBool source "STS_PQC_PREFERRED" true
  allowNonPqc : config.allowNonPqc = parseAllowNonPqc source
  stsSigningAlg : config.stsSigningAlg = (source.trimmed "STS_SIGNING_ALG").getD "ML-DSA-65"
  actorJwksSha256 : config.actorJwksSha256 = source.trimmed "ACTOR_JWKS_SHA256"
  clientJwksSha256 : config.clientJwksSha256 =
    (source.trimmed "CLIENT_JWKS_SHA256").or (source.trimmed "ACTOR_JWKS_SHA256")
  clientJwksFile : config.clientJwksFile =
    (source.get "CLIENT_JWKS_FILE").getD config.actorJwksFile

theorem loadedFrom_of_fromSource {source : ConfigSource} {disk : Disk} {config : StartConfig}
    (h : fromSource source disk = .ok config) : LoadedFrom source config := by
  simp only [fromSource, bind_eq_ok, pure_eq_ok] at h
  obtain ⟨_, -, _, -, _, -, _, -, algs, halgs, _, -, _, -, _, -, _, -, _, -, _, -, _, -, _, -, _, -,
    _, -, _, -, _, -, _, -, heq⟩ := h
  subst heq
  exact ⟨halgs, rfl, rfl, rfl, rfl, rfl, rfl, rfl⟩

end StartConfig

end StsDelegate
