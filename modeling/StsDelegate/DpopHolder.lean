import StsDelegate.DpopSoundness
import StsDelegate.Lib.Decimal
import StsDelegate.Lib.Uri
import StsDelegate.MintedJson

/-!
# Making a DPoP proof

The other side of `sts-dpop`: a holder key, and the proofs that it signs. The server takes a
proof apart with code of its own. It has its own idea of a request URI, too: the holder
drops the query and the fragment and writes the rest back, the server puts the URI together
from scheme, host, port and path. `holder_proof_accepted` says that the two agree.
-/

namespace StsDelegate

open Text Fallible

/-- A parsed URL with its user information. -/
structure RequestUrl extends Url where
  username : String
  password : Option String

/-- The crates behind a holder key: `url`, `p256`, and the writing side of `jsonwebtoken`. A
signing key is its scalar. -/
class HolderCrates where
  /-- `Url::parse`, with all parts. -/
  urlParse : String → Except String RequestUrl
  /-- `Url::to_string`. -/
  urlToString : RequestUrl → String
  /-- What `Url::parse` makes of the host of an `http` or `https` URL, in lower case. -/
  urlHost : List Char → Option String
  /-- What it makes of the path of one. -/
  urlPath : List Char → String
  /-- `SigningKey::random`. -/
  randomSigningKey : (entropy : Bytes) → Bytes
  /-- `SigningKey::from_bytes` succeeds. -/
  signingKeyValid : Bytes → Bool
  /-- The coordinates of `verifying_key().to_encoded_point(false)`. -/
  encodedPoint : (signingKey : Bytes) → Option Bytes × Option Bytes
  /-- `SigningKey::to_pkcs8_der`. -/
  toPkcs8Der : (signingKey : Bytes) → Option Bytes
  /-- `serde_json::to_value` of a `Jwk`. -/
  jwkToValue : Jwk → Json
  /-- `serde_json::to_vec`. -/
  valueToVec : Json → Bytes
  /-- A signature with `Algorithm::ES256`. -/
  es256Sign : (privateDer entropy message : Bytes) → Except String Bytes

/-! ### Holder keys -/

/-- The members of `public_jwk_value`. -/
def publicJwkMembers (x y : String) : List (String × Json) :=
  [("kty", .string "EC"), ("crv", .string "P-256"), ("x", .string x), ("y", .string y),
    ("alg", .string "ES256")]

def publicJwkValue (x y : String) : Json := .object (publicJwkMembers x y)

def requiredJwkString (object : List (String × Json)) (name : String) : Except DpopError String :=
  okOr (((Json.get object name).bind Json.asStr).filter fun value => !value.isEmpty)
    ⟨"DPoP holder key missing " ++ name⟩

def decodeCoordinate (value name : String) : Except DpopError Bytes := do
  let decoded ← okOr (Base64.decode value) ⟨"DPoP holder key " ++ name ++ " is not base64url"⟩
  rejectIf (decoded.length != 32) ⟨"DPoP holder key " ++ name ++ " must be 32 bytes"⟩
  pure decoded

section Holder

variable [Crates] [HolderCrates]

/-- ES256 holder key used by CLI clients. The public parts are those of the signing key. -/
structure DpopHolderKey where
  signingKey : Bytes
  x : String
  y : String
  d : String
  jkt : String
  point : ∃ px py, HolderCrates.encodedPoint signingKey = (some px, some py) ∧
    x = Base64.encode px ∧ y = Base64.encode py
  thumbprint : ∃ jwk, Crates.jwkFromValue (publicJwkValue x y) = some jwk ∧
    jkt = Crates.jwkThumbprint jwk

/-- Input required to create one DPoP proof. -/
structure DpopProofBuild where
  htm : String
  htu : String
  iat : Int64
  jti : String

namespace DpopHolderKey

def fromSigningKey (signingKey : Bytes) : Except DpopError DpopHolderKey :=
  match hpoint : HolderCrates.encodedPoint signingKey with
  | (none, _) => .error ⟨"DPoP public key missing x coordinate"⟩
  | (some _, none) => .error ⟨"DPoP public key missing y coordinate"⟩
  | (some px, some py) =>
      match hjwk : Crates.jwkFromValue (publicJwkValue (Base64.encode px) (Base64.encode py)) with
      | none => .error ⟨"generated DPoP public JWK is invalid"⟩
      | some jwk => .ok
          { signingKey
            x := Base64.encode px
            y := Base64.encode py
            d := Base64.encode signingKey
            jkt := Crates.jwkThumbprint jwk
            point := ⟨px, py, hpoint, rfl, rfl⟩
            thumbprint := ⟨jwk, hjwk, rfl⟩ }

/-- Generate a fresh ES256 holder key: its private JWK and its thumbprint. -/
def generatePrivateJwk (entropy : Bytes) : Except DpopError (Json × String) := do
  let key ← fromSigningKey (HolderCrates.randomSigningKey entropy)
  pure (.object (publicJwkMembers key.x key.y ++ [("d", .string key.d), ("use", .string "sig"),
    ("kid", .string key.jkt)]), key.jkt)

/-- Load an ES256 DPoP holder key from a private P-256 JWK. -/
def fromPrivateJwk (raw : String) : Except DpopError DpopHolderKey := do
  let value ← (Crates.valueFromSlice (asBytes raw)).mapError fun _ =>
    ⟨"DPoP holder key file is not valid JSON"⟩
  let object ← okOr value.asObject ⟨"DPoP holder key must be a JSON object"⟩
  let kty ← requiredJwkString object "kty"
  let crv ← requiredJwkString object "crv"
  let x ← requiredJwkString object "x"
  let y ← requiredJwkString object "y"
  let d ← requiredJwkString object "d"
  rejectIf (kty != "EC" || crv != "P-256") ⟨"DPoP holder key must be an EC P-256 JWK"⟩
  rejectIf (((Json.get object "alg").bind Json.asStr).any (· != "ES256"))
    ⟨"DPoP holder key alg must be ES256 when present"⟩
  rejectIf (Json.containsKey object "k")
    ⟨"DPoP holder key must not be symmetric JWK material"⟩
  let dBytes ← decodeCoordinate d "d"
  rejectIf (!HolderCrates.signingKeyValid dBytes)
    ⟨"DPoP holder key private scalar is invalid"⟩
  let key ← fromSigningKey dBytes
  rejectIf (key.x != x || key.y != y)
    ⟨"DPoP holder key public coordinates do not match private scalar"⟩
  pure key

/-- Public JWK SHA-256 thumbprint used as `cnf.jkt`. -/
def publicJkt (key : DpopHolderKey) : String := key.jkt

def publicJwk (key : DpopHolderKey) : Except DpopError Jwk :=
  okOr (Crates.jwkFromValue (publicJwkValue key.x key.y)) ⟨"DPoP public JWK is invalid"⟩

end DpopHolderKey

/-! ### Proofs -/

/-- The header of a proof, as `jsonwebtoken` writes it. -/
def proofHeaderMembers (jwk : Jwk) : List (String × Json) :=
  [("typ", .string DPOP_TYP), ("alg", .string "ES256"), ("jwk", HolderCrates.jwkToValue jwk)]

/-- `OutboundDpopClaims`. -/
def outboundDpopClaims (proof : DpopProofBuild) : Json :=
  .object [("jti", .string proof.jti), ("htm", .string proof.htm), ("htu", .string proof.htu),
    ("iat", .ofI64 proof.iat)]

/-- `jsonwebtoken::encode` with `Algorithm::ES256`. -/
def encodeEs256 (header claims : Json) (privateDer entropy : Bytes) : Except String String := do
  let header := HolderCrates.valueToVec header
  let claims := HolderCrates.valueToVec claims
  let signature ← HolderCrates.es256Sign privateDer entropy
    (signingInput (Base64.encode header) (Base64.encode claims))
  pure (compactJws header claims signature)

/-- Sign one RFC 9449 DPoP proof with this holder key. -/
def DpopHolderKey.signProof (key : DpopHolderKey) (proof : DpopProofBuild) (entropy : Bytes) :
    Except DpopError String := do
  rejectIf (isBlank proof.htm || isBlank proof.htu) ⟨"DPoP proof htm/htu must not be empty"⟩
  let _ ← validateJti proof.jti
  let jwk ← key.publicJwk
  let der ← okOr (HolderCrates.toPkcs8Der key.signingKey) ⟨"failed to encode DPoP holder key"⟩
  (encodeEs256 (.object (proofHeaderMembers jwk)) (outboundDpopClaims proof) der entropy).mapError
    fun _ => ⟨"failed to sign DPoP proof"⟩

/-- Normalize a request URI into the RFC 9449 `htu` value by stripping query and
fragment components. -/
def dpopHtuForRequestUri (uri : String) : Except DpopError String := do
  let parsed ← (HolderCrates.urlParse uri).mapError fun _ => ⟨"DPoP htu must be an absolute URI"⟩
  let parsed := { parsed with query := none }
  let parsed := { parsed with fragment := none }
  pure (HolderCrates.urlToString parsed)

/-! ### What the crates promise -/

/-- What is relied on of JWK serialization: an EC key that was read is written with no members
but those it was read from, and read back. -/
structure LawfulJwk : Prop where
  elliptic : ∀ {x y : String} {jwk : Jwk}, Crates.jwkFromValue (publicJwkValue x y) = some jwk →
    jwk.algorithm = .ellipticCurve
  written : ∀ {x y : String} {jwk : Jwk}, Crates.jwkFromValue (publicJwkValue x y) = some jwk →
    ∃ members, HolderCrates.jwkToValue jwk = .object members ∧
      Crates.jwkFromValue (.object members) = some jwk ∧
      ∀ name value, Json.get members name = some value →
        Json.get (publicJwkMembers x y) name = some value

/-- What is relied on of ES256: a signature made with a key verifies under its public JWK, and
what is handed out is the payload. -/
structure LawfulEs256 : Prop where
  verifies : ∀ {signingKey px py der entropy payload signature : Bytes} {jwk : Jwk},
    HolderCrates.encodedPoint signingKey = (some px, some py) →
    Crates.jwkFromValue (publicJwkValue (Base64.encode px) (Base64.encode py)) = some jwk →
    HolderCrates.toPkcs8Der signingKey = some der →
    HolderCrates.es256Sign der entropy
      (signingInput (Base64.encode (HolderCrates.valueToVec (.object (proofHeaderMembers jwk))))
        (Base64.encode payload)) = .ok signature →
    signature ≠ [] ∧ Crates.jwkDecodable jwk = true ∧
      Crates.dpopDecode .es256 jwk
        (compactJws (HolderCrates.valueToVec (.object (proofHeaderMembers jwk))) payload
          signature) = some payload

/-- The JSON of a proof is read back: the header up to the order of its members. -/
structure ReadsBack (key : DpopHolderKey) (proof : DpopProofBuild) : Prop where
  header : ∀ {jwk : Jwk}, key.publicJwk = .ok jwk →
    HolderCrates.valueToVec (.object (proofHeaderMembers jwk)) ≠ [] ∧
    ∃ members, Crates.valueFromSlice (HolderCrates.valueToVec (.object (proofHeaderMembers jwk))) =
        .ok (.object members) ∧
      ∀ name, Json.get members name = Json.get (proofHeaderMembers jwk) name
  claims : HolderCrates.valueToVec (outboundDpopClaims proof) ≠ [] ∧
    Crates.dpopFromSlice (HolderCrates.valueToVec (outboundDpopClaims proof)) =
      .ok ⟨some (.string proof.jti), some (.string proof.htm), some (.string proof.htu),
        some (.ofI64 proof.iat)⟩

/-- What a URL is parsed from: a text without the spaces and control characters around it, and
without its line breaks and tabs. -/
def urlText (uri : String) : List Char :=
  (trimMatches (· ≤ ' ') uri).toList.filter fun c => c != '\t' && c != '\n' && c != '\r'

/-- The parts of a URI of `http` or `https`, as they are written. -/
structure IsHttpUri (uri : String) (parts : Uri.Parts) : Prop where
  text : urlText uri = parts.render
  wellFormed : parts.WellFormed
  scheme : parts.scheme.map Char.toLower = "http".toList ∨
    parts.scheme.map Char.toLower = "https".toList
  port : ∀ cs ∈ parts.port, ∀ port ∈ Decimal.parseNat cs, port < 65536

/-- The port that is not the default one. -/
def effectivePort (parts : Uri.Parts) : Option Nat :=
  (parts.port.bind Decimal.parseNat).filter fun port =>
    some port != defaultPort (String.ofList (parts.scheme.map Char.toLower))

/-- What is relied on of the URL parser. It puts the scheme and the host of a URI in lower case
and drops its default port, it reads what it wrote of a URL without its query and fragment as
that URL, and it does not take a blank text. -/
structure LawfulUrl : Prop where
  same : ∀ uri, Crates.urlParse uri = (HolderCrates.urlParse uri).map RequestUrl.toUrl
  blank : ∀ {uri : String} {url : RequestUrl}, HolderCrates.urlParse uri = .ok url →
    isBlank uri = false
  refuses : ∀ {uri : String} {parts : Uri.Parts}, IsHttpUri uri parts →
    HolderCrates.urlHost (parts.host.map Char.toLower) = none →
    ∀ url, HolderCrates.urlParse uri ≠ .ok url
  normalizes : ∀ {uri host : String} {parts : Uri.Parts}, IsHttpUri uri parts →
    HolderCrates.urlHost (parts.host.map Char.toLower) = some host →
    ∃ url, HolderCrates.urlParse uri = .ok url ∧
      url.scheme = String.ofList (parts.scheme.map Char.toLower) ∧ url.hostStr = some host ∧
      url.port = effectivePort parts ∧ url.path = HolderCrates.urlPath parts.path
  idempotent : ∀ {uri : String} {url : RequestUrl}, HolderCrates.urlParse uri = .ok url →
    url.scheme = "http" ∨ url.scheme = "https" → url.hostStr ≠ none →
    HolderCrates.urlParse
        (HolderCrates.urlToString { url with query := none, fragment := none }) =
      .ok { url with query := none, fragment := none }

/-! ### Request URIs -/

/-- Two URIs that differ only in their user information, query and fragment, in the letter case
of scheme and host, and in whether a default port is written. -/
structure SameEndpoint (parts parts' : Uri.Parts) : Prop where
  scheme : parts'.scheme.map Char.toLower = parts.scheme.map Char.toLower
  slashes : parts'.slashes = parts.slashes
  host : parts'.host.map Char.toLower = parts.host.map Char.toLower
  port : effectivePort parts' = effectivePort parts
  path : parts'.path = parts.path

/-- A request URI for the same endpoint. -/
def SameRequestUri (uri uri' : String) : Prop :=
  uri' = uri ∨ ∃ parts parts', IsHttpUri uri parts ∧ IsHttpUri uri' parts' ∧
    SameEndpoint parts parts'

/-- What the server compares of a parsed URI. -/
def canonicalUrl (url : Url) : Option String :=
  let scheme := toAsciiLowercase url.scheme
  url.hostStr.map fun host =>
    scheme ++ "://" ++ (match url.port with
      | some port =>
          if some port ≠ defaultPort scheme then toAsciiLowercase host ++ ":" ++ toString port
          else toAsciiLowercase host
      | none => toAsciiLowercase host) ++ url.path

theorem canonicalHtu_of_parse (urls : LawfulUrl) {uri : String} {url : RequestUrl}
    (h : HolderCrates.urlParse uri = .ok url) : canonicalHtu uri = canonicalUrl url.toUrl := by
  have hparse : Crates.urlParse uri = .ok url.toUrl := by
    rw [urls.same, h]
    rfl
  simp only [canonicalHtu, hparse, Except.toOption, canonicalUrl, Option.bind_eq_bind,
    Option.bind_some]
  cases hhost : url.hostStr with
  | none => rfl
  | some host => rfl

/-- What the holder puts into the proof is the same request to the server. -/
theorem canonicalHtu_dpopHtuForRequestUri (urls : LawfulUrl) {uri htu : String} {url : RequestUrl}
    (hparse : HolderCrates.urlParse uri = .ok url) (hscheme : url.scheme = "http" ∨
      url.scheme = "https") (hhost : url.hostStr ≠ none) (hhtu : dpopHtuForRequestUri uri = .ok htu) :
    isBlank htu = false ∧ canonicalHtu htu = canonicalHtu uri := by
  have hstripped : htu = HolderCrates.urlToString { url with query := none, fragment := none } := by
    simp only [dpopHtuForRequestUri, hparse, mapError_ok, ok_bind, pure_eq_ok] at hhtu
    exact hhtu.symm
  have hagain := urls.idempotent hparse hscheme hhost
  rw [← hstripped] at hagain
  refine ⟨urls.blank hagain, ?_⟩
  rw [canonicalHtu_of_parse urls hagain, canonicalHtu_of_parse urls hparse]
  rfl

/-- A URI for the same endpoint is parsed too, and is the same request. -/
theorem canonicalHtu_sameRequestUri (urls : LawfulUrl) {uri uri' : String} {url : RequestUrl}
    (hparse : HolderCrates.urlParse uri = .ok url) (hsame : SameRequestUri uri uri') :
    isBlank uri' = false ∧ canonicalHtu uri' = canonicalHtu uri := by
  rcases hsame with heq | ⟨parts, parts', hhttp, hhttp', hsame⟩
  · subst heq
    exact ⟨urls.blank hparse, rfl⟩
  · cases hhost : HolderCrates.urlHost (parts.host.map Char.toLower) with
    | none => exact absurd hparse (urls.refuses hhttp hhost url)
    | some host =>
        obtain ⟨url₀, hparse₀, hscheme₀, hhost₀, hport₀, hpath₀⟩ := urls.normalizes hhttp hhost
        rw [← hsame.host] at hhost
        obtain ⟨url', hparse', hscheme', hhost', hport', hpath'⟩ := urls.normalizes hhttp' hhost
        refine ⟨urls.blank hparse', ?_⟩
        rw [canonicalHtu_of_parse urls hparse', canonicalHtu_of_parse urls hparse₀]
        simp only [canonicalUrl, hscheme', hscheme₀, hhost', hhost₀, hport', hport₀, hpath', hpath₀,
          hsame.scheme, hsame.port, hsame.path]

/-! ### The proof is accepted -/

omit [Crates] [HolderCrates] in
theorem valueToI64_ofI64 (n : Int64) : valueToI64 (.ofI64 n) = some n := by
  simp only [valueToI64, Json.asI64_ofI64]

/-- The header that the holder writes is one that the server accepts. -/
theorem headerSound_written (jwks : LawfulJwk) {key : DpopHolderKey} {jwk : Jwk}
    (hjwk : key.publicJwk = .ok jwk) {members : List (String × Json)}
    (hmembers : ∀ name, Json.get members name = Json.get (proofHeaderMembers jwk) name) :
    ∃ keyMembers, HeaderSound members keyMembers "ES256" .es256 jwk := by
  rw [DpopHolderKey.publicJwk, okOr_eq_ok] at hjwk
  obtain ⟨keyMembers, hwritten, hread, hsubset⟩ := jwks.written hjwk
  have hpublic : ∀ name ∈ PRIVATE_JWK_MEMBERS,
      Json.get (publicJwkMembers key.x key.y) name = none := by
    intro name hname
    simp only [PRIVATE_JWK_MEMBERS, List.mem_cons, List.not_mem_nil, or_false] at hname
    rcases hname with h | h | h | h | h | h | h | h <;> subst h <;> rfl
  refine ⟨keyMembers,
    { typ := hmembers "typ"
      algValue := hmembers "alg"
      allowed := by decide
      named := rfl
      key := ?_
      publicOnly := ?_
      keyAlg := ?_
      read := hread
      family := jwks.elliptic hjwk }⟩
  · rw [hmembers, ← hwritten]
    rfl
  · intro name hname
    cases hget : Json.get keyMembers name with
    | none => rfl
    | some value =>
        have hvalue := hsubset name value hget
        rw [hpublic name hname] at hvalue
        cases hvalue
  · intro name hname
    have hvalue : some (Json.string "ES256") = some (.string name) := hsubset "alg" _ hname
    exact (Json.string.inj (Option.some.inj hvalue)).symm

/-- What a signed proof is. -/
theorem signProof_eq_ok {key : DpopHolderKey} {build : DpopProofBuild} {entropy : Bytes}
    {proof : String} (h : key.signProof build entropy = .ok proof) :
    ∃ jwk der signature, key.publicJwk = .ok jwk ∧
      HolderCrates.toPkcs8Der key.signingKey = some der ∧
      HolderCrates.es256Sign der entropy
        (signingInput (Base64.encode (HolderCrates.valueToVec (.object (proofHeaderMembers jwk))))
          (Base64.encode (HolderCrates.valueToVec (outboundDpopClaims build)))) = .ok signature ∧
      proof = compactJws (HolderCrates.valueToVec (.object (proofHeaderMembers jwk)))
        (HolderCrates.valueToVec (outboundDpopClaims build)) signature := by
  simp only [DpopHolderKey.signProof, encodeEs256, bind_eq_ok, okOr_eq_ok, mapError_eq_ok,
    pure_eq_ok] at h
  obtain ⟨-, -, -, -, jwk, hjwk, der, hder, signature, hsignature, heq⟩ := h
  exact ⟨jwk, der, signature, hjwk, hder, hsignature, heq.symm⟩

/-- **Holder and server.** A proof that a holder signs for a request URI is accepted with that
URI, or another one for the same endpoint, and is bound to the holder's key. -/
theorem holder_proof_accepted (jwks : LawfulJwk) (es256 : LawfulEs256) (urls : LawfulUrl)
    {key : DpopHolderKey} {uri uri' htu jti proof : String} {iat now leeway : Int64}
    {entropy : Bytes} {url : RequestUrl} (json : ReadsBack key ⟨"POST", htu, iat, jti⟩)
    (hparse : HolderCrates.urlParse uri = .ok url)
    (hscheme : url.scheme = "http" ∨ url.scheme = "https") (hhost : url.hostStr ≠ none)
    (hhtu : dpopHtuForRequestUri uri = .ok htu)
    (hjti : 1 ≤ len jti ∧ len jti ≤ MAX_DPOP_JTI_LEN)
    (hwindow : |now.toInt - iat.toInt| ≤ leeway.toInt)
    (hproof : key.signProof ⟨"POST", htu, iat, jti⟩ entropy = .ok proof)
    (hlen : len proof ≤ MAX_DPOP_PROOF_LEN) (hsame : SameRequestUri uri uri') :
    ∃ binding, validateDpopProof ⟨proof, "POST", uri', now, leeway⟩ = .ok binding ∧
      binding.jkt = key.publicJkt ∧ binding.jti = jti := by
  obtain ⟨jwk, der, signature, hjwk, hder, hsignature, heq⟩ := signProof_eq_ok hproof
  have hread := hjwk
  rw [DpopHolderKey.publicJwk, okOr_eq_ok] at hread
  -- the signature verifies under the key in the header
  obtain ⟨px, py, hpoint, hx, hy⟩ := key.point
  rw [hx, hy] at hread
  obtain ⟨hsigned, hdecodable, hdecode⟩ := es256.verifies hpoint hread hder hsignature
  rw [← heq] at hdecode
  -- its header and its claims are the ones that were written
  obtain ⟨hheaderNe, members, hvalue, hmembers⟩ := json.header hjwk
  obtain ⟨keyMembers, hsound⟩ := headerSound_written jwks hjwk hmembers
  obtain ⟨hclaimsNe, hclaims⟩ := json.claims
  -- and both URIs are the same request
  obtain ⟨hhtuBlank, hhtuCanonical⟩ :=
    canonicalHtu_dpopHtuForRequestUri urls hparse hscheme hhost hhtu
  obtain ⟨huriBlank, huriCanonical⟩ := canonicalHtu_sameRequestUri urls hparse hsame
  obtain ⟨canonical, hcanonical⟩ : ∃ canonical, canonicalHtu uri = some canonical := by
    rw [canonicalHtu_of_parse urls hparse, canonicalUrl]
    obtain ⟨host, hhost⟩ := Option.ne_none_iff_exists'.mp hhost
    exact ⟨_, by rw [hhost]; rfl⟩
  have hjtiNe : jti ≠ "" := by
    intro hempty
    rw [hempty] at hjti
    exact absurd hjti.1 (by decide)
  have hhtuNe : htu ≠ "" := by
    intro hempty
    rw [hempty] at hhtuBlank
    exact absurd hhtuBlank (by decide)
  have hpost : isBlank "POST" = false := by decide
  have hchecked : ProofChecked ⟨proof, "POST", uri', now, leeway⟩
      (Base64.encode (HolderCrates.valueToVec (.object (proofHeaderMembers jwk))))
      (Base64.encode (HolderCrates.valueToVec (outboundDpopClaims ⟨"POST", htu, iat, jti⟩)))
      (Base64.encode signature) .es256 jwk
      ⟨some (.string jti), some (.string "POST"), some (.string htu), some (.ofI64 iat)⟩ jti :=
    { request := ⟨by rw [heq]; exact isBlank_compactJws _ _ _, hpost, huriBlank⟩
      shape := ⟨hlen, by rw [heq]; exact splitAtChar_compactJws _ _ _,
        Base64.encode_ne_empty hheaderNe, Base64.encode_ne_empty hclaimsNe,
        Base64.encode_ne_empty hsigned⟩
      header := ⟨_, members, keyMembers, "ES256", Base64.decode_encode _, hvalue, hsound⟩
      decodable := hdecodable
      payload := ⟨_, hdecode, hclaims⟩
      claims := ⟨rfl, ⟨hjtiNe, hjti.2⟩, rfl, htu, canonical, rfl, hhtuNe,
        hhtuCanonical.trans hcanonical, huriCanonical.trans hcanonical⟩ }
  have hiat : validateIat (some (.ofI64 iat)) now leeway = .ok iat := by
    rw [abs_le] at hwindow
    exact validateIat_ok_iff.mpr ⟨valueToI64_ofI64 iat, by omega, by omega⟩
  refine ⟨_, validateDpopProof_eq_ok.mpr ⟨_, _, _, _, _, _, _, _, hchecked, hiat, rfl⟩, ?_, rfl⟩
  obtain ⟨jwk', hjwk', hjkt⟩ := key.thumbprint
  rw [hx, hy, hread] at hjwk'
  rw [DpopHolderKey.publicJkt, hjkt, Option.some.inj hjwk']

end Holder

/-! ### A sample holder -/

namespace HolderSample

open Sample (words obj str Signed)

def scalar : Bytes :=
  words [0x97f0f89d59001ede0d28f88af1a74baf, 0x9bea208882b83e9b1ce28565f7106345]

def pointX : Bytes :=
  words [0xba0a1ea6e868be5458634a9b2c40dc41, 0x6b254d930da8e23ab6d5a1d6cdd6085a]

def pointY : Bytes :=
  words [0xd5d69997f3738cfceada818b571955b9, 0x68a23ddf269d156233dad98716608bd4]

/-- The PKCS#8 form of the key. -/
def pkcs8 : Bytes :=
  [0x30, 0x81, 0x87, 0x02, 0x01, 0x00, 0x30, 0x13, 0x06, 0x07, 0x2a, 0x86, 0x48, 0xce, 0x3d, 0x02,
    0x01, 0x06, 0x08, 0x2a, 0x86, 0x48, 0xce, 0x3d, 0x03, 0x01, 0x07, 0x04, 0x6d, 0x30, 0x6b, 0x02,
    0x01, 0x01, 0x04, 0x20] ++ scalar ++
  [0xa1, 0x44, 0x03, 0x42, 0x00, 0x04] ++ pointX ++ pointY

/-- The members of a public key, in the order of their names. -/
def jwkMembers (x y : String) : List (String × Json) :=
  [("alg", .string "ES256"), ("crv", .string "P-256"), ("kty", .string "EC"), ("x", .string x),
    ("y", .string y)]

def jwkOf (x y : String) : Jwk := ⟨.ellipticCurve, .object (jwkMembers x y)⟩

def readJwk (value : Json) : Option Jwk := do
  let members ← value.asObject
  let kty ← (Json.get members "kty").bind Json.asStr
  let crv ← (Json.get members "crv").bind Json.asStr
  let x ← (Json.get members "x").bind Json.asStr
  let y ← (Json.get members "y").bind Json.asStr
  if kty = "EC" ∧ crv = "P-256" then some (jwkOf x y) else none

/-- A proof of `100` with that key, as it is written. -/
def proof : Signed where
  header := obj [("typ", str "dpop+jwt"), ("alg", str "ES256"), ("jwk", obj [("alg", str "ES256"),
    ("kty", str "EC"), ("crv", str "P-256"),
    ("x", str "ugoepuhovlRYY0qbLEDcQWslTZMNqOI6ttWh1s3WCFo"),
    ("y", str "1daZl_NzjPzq2oGLVxlVuWiiPd8mnRViM9rZhxZgi9Q")])]
  payload := obj [("jti", str "p2"), ("htm", str "POST"), ("htu", str "https://sts.example/token"),
    ("iat", asBytes "100")]
  signature := words
    [0x702d311ae5da6c81f2be44c45d3a66cc, 0xf30a1664e0b8b44137835d3e98402df9,
      0x7b68db391243a962cbc0cbe88dde92f0, 0xd03d63604fd1e44983fb45e8f3480544]

def build : DpopProofBuild := ⟨"POST", "https://sts.example/token", 100, "p2"⟩

/-- A path is taken as it is written, without its spaces. -/
def urlPath (path : List Char) : String :=
  if path = [] then "/" else String.ofList (path.filter (' ' < ·))

def urlOf (parts : Uri.Parts) : RequestUrl where
  scheme := String.ofList (parts.scheme.map Char.toLower)
  hostStr := some "sts.example"
  host := some (.domain "sts.example")
  port := effectivePort parts
  path := urlPath parts.path
  query := parts.query.map String.ofList
  fragment := parts.fragment.map String.ofList
  username := ""
  password := none

/-- The URLs of one host. -/
def parseUrl (uri : String) : Except String RequestUrl :=
  match Uri.split (urlText uri) with
  | none => .error "relative URL without a base"
  | some parts =>
      if (parts.scheme.map Char.toLower = "http".toList ∨
          parts.scheme.map Char.toLower = "https".toList) ∧
          parts.host.map Char.toLower = "sts.example".toList then
        .ok (urlOf parts)
      else .error "invalid international domain name"

/-- A URI with no query and fragment. -/
def plainParts (scheme : List Char) (port : Option Nat) (path : List Char) : Uri.Parts where
  scheme
  slashes := "//".toList
  userInfo := none
  host := "sts.example".toList
  port := port.map Decimal.displayNat
  path
  query := none
  fragment := none

/-- The URI that a URL is written as. -/
def urlParts (url : RequestUrl) : Uri.Parts :=
  { plainParts url.scheme.toList url.port url.path.toList with
    query := url.query.map String.toList
    fragment := url.fragment.map String.toList }

scoped instance crates : Crates :=
  { Sample.crates with
    urlParse := fun uri => (parseUrl uri).map RequestUrl.toUrl
    valueFromSlice := fun bytes =>
      if bytes = proof.header then
        .ok (.object [("alg", .string "ES256"),
          ("jwk", .object (jwkMembers (Base64.encode pointX) (Base64.encode pointY))),
          ("typ", .string "dpop+jwt")])
      else .error "expected value"
    dpopFromSlice := fun bytes =>
      if bytes = proof.payload then
        .ok ⟨some (.string "p2"), some (.string "POST"), some (.string "https://sts.example/token"),
          some (.ofI64 100)⟩
      else .error "expected value"
    jwkFromValue := readJwk
    jwkDecodable := fun _ => true
    dpopDecode := fun _ _ token => if token = proof.token then some proof.payload else none
    jwkThumbprint := fun _ => "PygUY2qHiyoFJKy3APN9s2dPx5qVhQa_JB2Eo-cRPfk" }

scoped instance holderCrates : HolderCrates where
  urlParse := parseUrl
  urlToString url := String.ofList (urlParts url).render
  urlHost host := if host = "sts.example".toList then some "sts.example" else none
  urlPath path := urlPath path
  randomSigningKey _ := scalar
  signingKeyValid key := key == scalar
  encodedPoint key := if key = scalar then (some pointX, some pointY) else (none, none)
  toPkcs8Der key := if key = scalar then some pkcs8 else none
  jwkToValue jwk := jwk.value
  valueToVec value :=
    if (value.asObject.getD []).any (·.1 == "jwk") then proof.header else proof.payload
  es256Sign key _ message :=
    if key = pkcs8 ∧
        message = signingInput (Base64.encode proof.header) (Base64.encode proof.payload) then
      .ok proof.signature
    else .error "signing failed"

theorem readJwk_publicJwkValue {x y : String} {jwk : Jwk}
    (h : readJwk (publicJwkValue x y) = some jwk) : jwk = jwkOf x y :=
  (Option.some.inj h).symm

theorem lawfulJwk : LawfulJwk where
  elliptic := by
    intro x y jwk hread
    rw [readJwk_publicJwkValue hread]
    rfl
  written := by
    intro x y jwk hread
    rw [readJwk_publicJwkValue hread]
    refine ⟨jwkMembers x y, rfl, rfl, fun name value hget => ?_⟩
    obtain ⟨before, after, hmembers, -⟩ := List.lookup_eq_some_iff.mp hget
    have hmem : (name, value) ∈ jwkMembers x y := by
      rw [hmembers]
      simp
    simp only [jwkMembers, List.mem_cons, Prod.mk.injEq, List.not_mem_nil, or_false] at hmem
    rcases hmem with ⟨hn, hv⟩ | ⟨hn, hv⟩ | ⟨hn, hv⟩ | ⟨hn, hv⟩ | ⟨hn, hv⟩ <;>
      subst hn hv <;> rfl

theorem signingInput_right {header payload payload' : String}
    (h : signingInput header payload = signingInput header payload') : payload = payload' := by
  have htext := asBytes_injective h
  rw [← String.toList_inj] at htext ⊢
  simpa using htext

theorem lawfulEs256 : LawfulEs256 where
  verifies := by
    intro key px py der entropy payload signature jwk hpoint hread hder hsigned
    have hheader : HolderCrates.valueToVec (.object (proofHeaderMembers jwk)) = proof.header := rfl
    rw [hheader] at hsigned ⊢
    simp only [HolderCrates.es256Sign] at hsigned
    split at hsigned
    · next hmessage =>
        have hpayload : payload = proof.payload := by
          have hencoded := congrArg Base64.decode (signingInput_right hmessage.2)
          rw [Base64.decode_encode, Base64.decode_encode] at hencoded
          exact Option.some.inj hencoded
        rw [← Except.ok.inj hsigned, hpayload]
        exact ⟨List.cons_ne_nil _ _, rfl, if_pos rfl⟩
    · cases hsigned

-- a text is checked by going through it, not through all characters there are
local instance decidableForallText {p : Char → Prop} [DecidablePred p] (cs : List Char) :
    Decidable (∀ c ∈ cs, p c) := List.decidableBAll p cs

local instance decidableForallPart {p : Char → Prop} [DecidablePred p] (c : Option Char) :
    Decidable (∀ d ∈ c, p d) := Option.decidableForallMem c

/-- A text of visible characters is parsed as it stands. -/
theorem urlText_ofList {cs : List Char} (h : ∀ c ∈ cs, ' ' < c) :
    urlText (String.ofList cs) = cs := by
  have hkept : ∀ c ∈ cs, decide (c ≤ ' ') = false := by
    intro c hc
    exact decide_eq_false (not_le.mpr (h c hc))
  have hdrop : cs.dropWhile (fun c => decide (c ≤ ' ')) = cs := by
    cases cs with
    | nil => rfl
    | cons c cs => simp [hkept c (List.mem_cons_self ..)]
  have hrdrop : cs.rdropWhile (fun c => decide (c ≤ ' ')) = cs := by
    rw [List.rdropWhile_eq_self_iff]
    intro hne
    simp [hkept _ (List.getLast_mem hne)]
  rw [urlText, trimMatches, String.toList_ofList, String.toList_ofList, hdrop, hrdrop,
    List.filter_eq_self]
  intro c hc
  have hvisible := h c hc
  have hmark : ∀ mark : Char, mark ≤ ' ' → (c != mark) = true := by
    intro mark hmark
    rw [bne_iff_ne]
    intro heq
    exact absurd (heq ▸ hvisible) (not_lt.mpr hmark)
  simp [hmark '\t' (by decide), hmark '\n' (by decide), hmark '\r' (by decide)]

/-- A blank text has nothing that could end a scheme. -/
theorem parseUrl_blank {uri : String} {url : RequestUrl} (h : parseUrl uri = .ok url) :
    isBlank uri = false := by
  rw [Bool.eq_false_iff]
  intro hblank
  have hcolon : ':' ∉ urlText uri := by
    intro hmem
    have hmem : ':' ∈ uri.toList := by
      have htrimmed := (List.mem_filter.mp hmem).1
      rw [trimMatches, String.toList_ofList] at htrimmed
      exact (List.dropWhile_sublist _).subset ((List.rdropWhile_prefix _ _).sublist.subset htrimmed)
    exact absurd (isBlank_iff.mp hblank ':' hmem) (by decide)
  rw [parseUrl, Uri.split_eq_none hcolon] at h
  cases h

theorem parseUrl_eq_ok {uri : String} {url : RequestUrl} (h : parseUrl uri = .ok url) :
    ∃ parts, Uri.split (urlText uri) = some parts ∧
      (parts.scheme.map Char.toLower = "http".toList ∨
        parts.scheme.map Char.toLower = "https".toList) ∧
      parts.host.map Char.toLower = "sts.example".toList ∧ url = urlOf parts := by
  unfold parseUrl at h
  cases hsplit : Uri.split (urlText uri) with
  | none =>
      rw [hsplit] at h
      cases h
  | some parts =>
      simp only [hsplit] at h
      split at h
      · next hhost => exact ⟨parts, rfl, hhost.1, hhost.2, (Except.ok.inj h).symm⟩
      · cases h

/-- A path that a URL has is taken as it is. -/
theorem urlPath_of_split {cs : List Char} {parts : Uri.Parts} (h : Uri.split cs = some parts) :
    ∃ path, urlPath parts.path = String.ofList path ∧ urlPath path = String.ofList path ∧
      (∀ c ∈ path.head?, Uri.isSlash c = true) ∧ '?' ∉ path ∧ '#' ∉ path ∧
      ∀ c ∈ path, ' ' < c := by
  obtain ⟨hstart, hquestion, hhash⟩ := Uri.split_path h
  cases hpath : parts.path with
  | nil => exact ⟨['/'], rfl, rfl, by decide, by decide, by decide, by decide⟩
  | cons c path =>
      rw [hpath] at hstart hquestion hhash
      have hc : Uri.isSlash c = true := hstart c rfl
      have hvisible : ' ' < c := by
        simp only [Uri.isSlash, Bool.or_eq_true, beq_iff_eq] at hc
        rcases hc with h | h <;> subst h <;> decide
      have hfilter : (c :: path).filter (' ' < ·) = c :: path.filter (' ' < ·) :=
        List.filter_cons_of_pos (by simpa using hvisible)
      refine ⟨(c :: path).filter (' ' < ·), if_neg (List.cons_ne_nil _ _), ?_, ?_,
        fun hmem => hquestion (List.mem_filter.mp hmem).1,
        fun hmem => hhash (List.mem_filter.mp hmem).1,
        fun c hmem => by simpa using (List.mem_filter.mp hmem).2⟩
      · rw [urlPath, if_neg (by rw [hfilter]; exact List.cons_ne_nil _ _), List.filter_filter]
        simp only [Bool.and_self]
      · rw [hfilter]
        intro c' hc'
        rwa [← Option.some.inj hc']

theorem parseUrl_of_host {uri : String} {parts : Uri.Parts} (htext : urlText uri = parts.render)
    (h : parts.WellFormed)
    (hscheme : parts.scheme.map Char.toLower = "http".toList ∨
      parts.scheme.map Char.toLower = "https".toList)
    (hhost : parts.host.map Char.toLower = "sts.example".toList) :
    parseUrl uri = .ok (urlOf parts) := by
  rw [parseUrl, htext, Uri.split_render h]
  exact if_pos ⟨hscheme, hhost⟩

section Plain

variable {scheme path : List Char} {port : Option Nat}

theorem isDigit_port {cs : List Char} (hcs : cs ∈ port.map Decimal.displayNat) {c : Char}
    (hc : c ∈ cs) : c.isDigit = true := by
  obtain ⟨n, -, heq⟩ := Option.map_eq_some_iff.mp hcs
  exact Decimal.isDigit_of_mem_displayNat (heq ▸ hc)

theorem plainParts_wellFormed (hscheme : ':' ∉ scheme)
    (hstart : ∀ c ∈ path.head?, Uri.isSlash c = true) (hpath : '?' ∉ path ∧ '#' ∉ path) :
    (plainParts scheme port path).WellFormed where
  scheme := hscheme
  slashes := by
    show ∀ c ∈ "//".toList, Uri.isSlash c = true
    decide
  userInfo cs hcs := by cases hcs
  hostNe := by
    show "sts.example".toList ≠ []
    decide
  host := by
    show ∀ c ∈ "sts.example".toList, Uri.endsAuthority c = false ∧ c ≠ '@'
    decide
  colons := by
    left
    show ':' ∉ "sts.example".toList
    decide
  pathStart := hstart
  path := hpath
  port _ hcs _ hc := isDigit_port hcs hc
  query cs hcs := by cases hcs

theorem visible_plainParts (hscheme : ∀ c ∈ scheme, ' ' < c) (hpath : ∀ c ∈ path, ' ' < c) :
    ∀ c ∈ (plainParts scheme port path).render, ' ' < c := by
  have hfixed : ∀ c ∈ ':' :: "//".toList ++ "sts.example".toList, ' ' < c := by decide
  have hport : ∀ c ∈ Uri.marked ':' (port.map Decimal.displayNat), ' ' < c := by
    cases port with
    | none => simp [Uri.marked]
    | some n =>
        have hdigit : ∀ c : Char, c.isDigit = true → ' ' < c := by
          intro c hc
          simp only [Char.isDigit, Bool.and_eq_true, decide_eq_true_eq] at hc
          exact lt_of_lt_of_le (by decide : ' ' < '0') hc.1
        simp only [Option.map_some, Uri.marked, List.mem_cons]
        intro c hc
        rcases hc with heq | hmem
        · rw [heq]
          decide
        · exact hdigit c (Decimal.isDigit_of_mem_displayNat hmem)
  have hrender : (plainParts scheme port path).render = scheme ++ (':' :: "//".toList ++
      "sts.example".toList) ++ Uri.marked ':' (port.map Decimal.displayNat) ++ path := by
    simp [Uri.Parts.render, Uri.Parts.authority, Uri.Parts.userText, Uri.Parts.hostText, plainParts,
      Uri.marked]
  rw [hrender]
  simp only [List.forall_mem_append]
  exact ⟨⟨⟨hscheme, List.forall_mem_append.mp hfixed⟩, hport⟩, hpath⟩

end Plain

/-- A port that is not the default one stays when it is written. -/
theorem effectivePort_plainParts {parts : Uri.Parts} {path : List Char}
    (hlower : (parts.scheme.map Char.toLower).map Char.toLower = parts.scheme.map Char.toLower) :
    effectivePort (plainParts (parts.scheme.map Char.toLower) (effectivePort parts) path) =
      effectivePort parts := by
  have hread : ((effectivePort parts).map Decimal.displayNat).bind Decimal.parseNat =
      effectivePort parts := by
    cases effectivePort parts with
    | none => rfl
    | some port => exact Decimal.parseNat_displayNat port
  have hscheme : (plainParts (parts.scheme.map Char.toLower) (effectivePort parts) path).scheme.map
      Char.toLower = parts.scheme.map Char.toLower := hlower
  rw [effectivePort, hscheme]
  show Option.filter _ (((effectivePort parts).map Decimal.displayNat).bind Decimal.parseNat) = _
  rw [hread, effectivePort, Option.filter_filter]
  simp only [Bool.and_self]

/-- A URL without its query and fragment is written as one that is read as it is. -/
theorem parseUrl_again {uri : String} {url : RequestUrl} (h : parseUrl uri = .ok url) :
    parseUrl (String.ofList (urlParts { url with query := none, fragment := none }).render) =
      .ok { url with query := none, fragment := none } := by
  obtain ⟨parts, hsplit, hknown, -, hurl⟩ := parseUrl_eq_ok h
  obtain ⟨path, hpath, hpathAgain, hstart, hquestion, hhash, hvisible⟩ := urlPath_of_split hsplit
  obtain ⟨hlower, hschemeVisible, hcolon⟩ :
      (parts.scheme.map Char.toLower).map Char.toLower = parts.scheme.map Char.toLower ∧
        (∀ c ∈ parts.scheme.map Char.toLower, ' ' < c) ∧
        ':' ∉ parts.scheme.map Char.toLower := by
    rcases hknown with heq | heq <;> rw [heq] <;> decide
  have hwritten : urlParts { url with query := none, fragment := none } =
      plainParts (parts.scheme.map Char.toLower) (effectivePort parts) path := by
    simp only [hurl, urlOf, urlParts, hpath, String.toList_ofList, Option.map_none]
    rfl
  rw [hwritten, parseUrl_of_host (urlText_ofList (visible_plainParts hschemeVisible hvisible))
    (plainParts_wellFormed hcolon hstart ⟨hquestion, hhash⟩)
    (by
      show (parts.scheme.map Char.toLower).map Char.toLower = _ ∨
        (parts.scheme.map Char.toLower).map Char.toLower = _
      rw [hlower]
      exact hknown)
    (by
      show "sts.example".toList.map Char.toLower = _
      decide)]
  have hscheme : (plainParts (parts.scheme.map Char.toLower) (effectivePort parts) path).scheme.map
      Char.toLower = parts.scheme.map Char.toLower := hlower
  rw [hurl, urlOf, urlOf, effectivePort_plainParts hlower, hscheme, hpath]
  exact congrArg (fun path => Except.ok { urlOf parts with path, query := none, fragment := none })
    hpathAgain

theorem lawfulUrl : LawfulUrl where
  same _ := rfl
  blank := parseUrl_blank
  refuses := by
    intro uri parts h hhost url hparse
    obtain ⟨parts', hsplit, -, heq, -⟩ := parseUrl_eq_ok hparse
    rw [h.text, Uri.split_render h.wellFormed] at hsplit
    rw [← Option.some.inj hsplit] at heq
    have hknown : HolderCrates.urlHost (parts.host.map Char.toLower) = some "sts.example" :=
      if_pos heq
    rw [hknown] at hhost
    cases hhost
  normalizes := by
    intro uri host parts h hhost
    simp only [HolderCrates.urlHost] at hhost
    split at hhost
    · next heq =>
        exact ⟨urlOf parts, parseUrl_of_host h.text h.wellFormed h.scheme heq, rfl, hhost, rfl, rfl⟩
    · cases hhost
  idempotent := by
    intro uri url h _ _
    exact parseUrl_again h

def holderKey : DpopHolderKey where
  signingKey := scalar
  x := Base64.encode pointX
  y := Base64.encode pointY
  d := Base64.encode scalar
  jkt := "PygUY2qHiyoFJKy3APN9s2dPx5qVhQa_JB2Eo-cRPfk"
  point := ⟨pointX, pointY, if_pos rfl, rfl, rfl⟩
  thumbprint := ⟨_, rfl, rfl⟩

theorem publicJwk_holderKey :
    holderKey.publicJwk = .ok (jwkOf (Base64.encode pointX) (Base64.encode pointY)) := rfl

theorem readsBack : ReadsBack holderKey build where
  header := by
    intro jwk hjwk
    rw [publicJwk_holderKey] at hjwk
    rw [← Except.ok.inj hjwk]
    refine ⟨List.cons_ne_nil _ _, _, if_pos rfl, fun name => ?_⟩
    have hmember : ∀ known : String, known ≠ name → (name == known) = false := by
      intro known hne
      exact beq_false_of_ne (Ne.symm hne)
    by_cases halg : "alg" = name
    · rw [← halg]
      rfl
    by_cases hkey : "jwk" = name
    · rw [← hkey]
      rfl
    by_cases htyp : "typ" = name
    · rw [← htyp]
      rfl
    simp only [Json.get, proofHeaderMembers, List.lookup_cons, List.lookup_nil, hmember _ halg,
      hmember _ hkey, hmember _ htyp]
  claims := ⟨List.cons_ne_nil _ _, if_pos rfl⟩

theorem signProof_holderKey : holderKey.signProof build [] = .ok proof.token := by
  have hrequest : (isBlank build.htm || isBlank build.htu) = false := by decide
  have hjti : validateJti build.jti = .ok "p2" := rfl
  have hder : HolderCrates.toPkcs8Der holderKey.signingKey = some pkcs8 := if_pos rfl
  have hsigned : HolderCrates.es256Sign pkcs8 []
      (signingInput (Base64.encode proof.header) (Base64.encode proof.payload)) =
      .ok proof.signature := if_pos ⟨rfl, rfl⟩
  have hheader : HolderCrates.valueToVec (.object (proofHeaderMembers
      (jwkOf (Base64.encode pointX) (Base64.encode pointY)))) = proof.header := rfl
  have hclaims : HolderCrates.valueToVec (outboundDpopClaims build) = proof.payload := rfl
  have hencoded : encodeEs256 (.object (proofHeaderMembers
      (jwkOf (Base64.encode pointX) (Base64.encode pointY)))) (outboundDpopClaims build) pkcs8 [] =
      .ok proof.token := by
    rw [encodeEs256, hheader, hclaims, hsigned]
    rfl
  simp only [DpopHolderKey.signProof, hrequest, hjti, publicJwk_holderKey, hder, okOr, hencoded,
    mapError_ok, ok_bind]
  rfl

/-- A token endpoint, and the same one written otherwise. -/
def written : Uri.Parts :=
  ⟨"https".toList, "//".toList, none, "sts.example".toList, none, "/token".toList,
    some "ignored=1".toList, some "fragment".toList⟩

def writtenOtherwise : Uri.Parts :=
  ⟨"HTTPS".toList, "//".toList, some "user".toList, "STS.EXAMPLE".toList, some "0443".toList,
    "/token".toList, none, none⟩

theorem isHttpUri_written : IsHttpUri "https://sts.example/token?ignored=1#fragment" written where
  text := by decide
  wellFormed :=
    { scheme := by decide
      slashes := by decide
      userInfo := by decide
      hostNe := by decide
      host := by decide
      colons := .inl (by decide)
      port := by decide
      pathStart := by decide
      path := by decide
      query := by decide }
  scheme := by decide
  port := by decide

theorem isHttpUri_writtenOtherwise :
    IsHttpUri "HTTPS://user@STS.EXAMPLE:0443/token" writtenOtherwise where
  text := by decide
  wellFormed :=
    { scheme := by decide
      slashes := by decide
      userInfo := by decide
      hostNe := by decide
      host := by decide
      colons := .inl (by decide)
      port := by decide
      pathStart := by decide
      path := by decide
      query := by decide }
  scheme := by decide
  port := by decide

theorem sameEndpoint_written : SameEndpoint written writtenOtherwise where
  scheme := by decide
  slashes := rfl
  host := by decide
  port := by decide
  path := rfl

/-- A proof of `100` is accepted at `110` under the other name of the endpoint. -/
theorem proof_accepted : ∃ binding,
    validateDpopProof ⟨proof.token, "POST", "HTTPS://user@STS.EXAMPLE:0443/token", 110, 30⟩ =
      .ok binding ∧ binding.jkt = holderKey.publicJkt ∧ binding.jti = "p2" := by
  have hhttp := isHttpUri_written
  have hparse : HolderCrates.urlParse "https://sts.example/token?ignored=1#fragment" =
      .ok (urlOf written) :=
    parseUrl_of_host hhttp.text hhttp.wellFormed hhttp.scheme (by decide)
  have hhtu : dpopHtuForRequestUri "https://sts.example/token?ignored=1#fragment" =
      .ok "https://sts.example/token" := by
    rw [dpopHtuForRequestUri, hparse]
    exact congrArg Except.ok (by decide)
  have hlen : len proof.token ≤ MAX_DPOP_PROOF_LEN := by
    rw [Sample.len_token_eq]
    decide +kernel
  exact holder_proof_accepted lawfulJwk lawfulEs256 lawfulUrl readsBack hparse (.inr (by decide))
    (Option.some_ne_none _) hhtu (by decide) (by decide) signProof_holderKey hlen
    (.inr ⟨written, writtenOtherwise, hhttp, isHttpUri_writtenOtherwise, sameEndpoint_written⟩)

end HolderSample

end StsDelegate
