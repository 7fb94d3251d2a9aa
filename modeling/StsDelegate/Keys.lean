import StsDelegate.Lib.BigEndian
import StsDelegate.Verify
import StsDelegate.Http.State

/-!
# Key documents

How key material gets from files into a process: reading a public JWK and a public
JWKS document (`sts-http`), building a signer from a private JWK or a PEM text and
generating a replacement for it (`sts-jose`), and what a server publishes when it
starts on a key file and an overlap file.

A file is modelled by what the code makes of its text: a JSON value, or a text that
is none. The cryptographic libraries behind private keys are collected in the class
`KeyCrates`, as `Crates` does for the request path.
-/

namespace StsDelegate

open Text Fallible

/-- The components of an RSA private key, as big-endian octets. -/
structure RsaComponents where
  n : Bytes
  e : Bytes
  d : Bytes
  p : Bytes
  q : Bytes
  dp : Bytes
  dq : Bytes
  qi : Bytes

def RsaComponents.list (key : RsaComponents) : List Bytes :=
  [key.n, key.e, key.d, key.p, key.q, key.dp, key.dq, key.qi]

/-- An ASN.1 value, each block with the offset it was read at. -/
inductive Asn1Block
  | integer (offset : Nat) (value : Int)
  | octetString (offset : Nat) (value : Bytes)
  | null (offset : Nat)
  | objectIdentifier (offset : Nat) (oid : List Nat)
  | sequence (offset : Nat) (blocks : List Asn1Block)
  | set (offset : Nat) (blocks : List Asn1Block)
  | explicit (offset tag : Nat) (inner : Asn1Block)
  /-- A block of any other kind. -/
  | other (offset tag : Nat) (content : Bytes)

/-- The integer that a block is. -/
def Asn1Block.integerValue : Asn1Block → Option Int
  | .integer _ value => some value
  | _ => none

/-- The crate `simple_asn1`. -/
class DerCrates where
  toDer : Asn1Block → Except String Bytes
  fromDer : Bytes → Except String (List Asn1Block)

/-- The crates behind key files. -/
class KeyCrates extends DerCrates where
  /-- The text of the error that reading a text that is not JSON gives. -/
  jsonError : String → String
  /-- The text of the error that reading a JSON value as the named record gives. -/
  serdeError : (record : String) → Json → String
  /-- `RsaKeyPair::from_der`: the error, if it fails. -/
  rsaFromDerError : Bytes → Option String
  /-- `EncodingKey::from_rsa_pem`, with the DER octets inside. -/
  rsaFromPem : String → Except JwtError Bytes
  /-- `RsaKeyPair::sign` with `RSA_PKCS1_SHA256`. -/
  rsaSign : (privateDer entropy message : Bytes) → Except String Bytes
  /-- `RsaKeyPair::generate`, with the integers of its DER form. -/
  rsaGenerate : (entropy : Bytes) → Except String RsaComponents
  /-- `PKey::private_key_from_seed`. -/
  mlDsaPrivateKeyFromSeed : MlDsaAlgorithm → (seed : Bytes) → Except String Bytes
  /-- `SystemRandom::fill` for a seed of 32 octets. -/
  randomSeed : (entropy : Bytes) → Except String Bytes

/-- What reading a file gives: text that is JSON, or other text. -/
inductive FileText
  | json (value : Json)
  | other (text : String)

/-- A file with its permission bits. -/
structure StoredFile where
  text : FileText
  mode : Nat

/-! ### Public JWKs -/

/-- A member that has to be a text. -/
def requiredText (members : List (String × Json)) (name : String) : Option String :=
  (Json.get members name).bind Json.asStr

/-- A member that has to be a text and has a default. -/
def defaultText (members : List (String × Json)) (name default : String) : Option String :=
  match Json.get members name with
  | none => some default
  | some value => value.asStr

/-- A member that may be left out or `null`, and has to be a text otherwise. -/
def optionalText (members : List (String × Json)) (name : String) : Option (Option String) :=
  match Json.get members name with
  | none => some none
  | some .null => some none
  | some value => value.asStr.map some

namespace PublicJwk

/-- `serde_json::from_value`. -/
def fromMembers (members : List (String × Json)) : Option PublicJwk := do
  let kty ← requiredText members "kty"
  let kid ← requiredText members "kid"
  let use ← defaultText members "use" "sig"
  let alg ← defaultText members "alg" "RS256"
  let n ← optionalText members "n"
  let e ← optionalText members "e"
  let pub ← optionalText members "pub"
  pure ⟨kty, kid, use, alg, n, e, pub⟩

/-- An optional member, left out when there is none. -/
def optionalMember (name : String) : Option String → List (String × Json)
  | some value => [(name, .string value)]
  | none => []

/-- `serde_json::to_value`. -/
def toMembers (jwk : PublicJwk) : List (String × Json) :=
  [("kty", .string jwk.kty), ("kid", .string jwk.kid), ("use", .string jwk.use),
    ("alg", .string jwk.alg)] ++
  optionalMember "n" jwk.n ++ optionalMember "e" jwk.e ++ optionalMember "pub" jwk.pub

/-- What is written is read back. -/
theorem fromMembers_toMembers (jwk : PublicJwk) : fromMembers jwk.toMembers = some jwk := by
  obtain ⟨kty, kid, use, alg, n, e, pub⟩ := jwk
  cases n <;> cases e <;> cases pub <;> rfl

end PublicJwk

/-- `serde_json::to_value` of a JWKS document. -/
def JwksDocument.toValue (document : JwksDocument) : Json :=
  .object [("keys", .array (document.keys.map fun key => .object key.toMembers))]

/-- Members that make a JWK a private or symmetric one. -/
def privateJwkMembers : List String := ["d", "p", "q", "dp", "dq", "qi", "oth", "k", "priv"]

/-- A written public key has none of them. -/
theorem containsKey_toMembers {member : String} (h : member ∈ privateJwkMembers)
    (jwk : PublicJwk) : Json.containsKey jwk.toMembers member = false := by
  have hall : (privateJwkMembers.all fun member =>
      !Json.containsKey jwk.toMembers member) = true := by
    obtain ⟨kty, kid, use, alg, n, e, pub⟩ := jwk
    cases n <;> cases e <;> cases pub <;> rfl
  simpa using List.all_eq_true.mp hall member h

/-- Number of bits of an unsigned integer, from its first octet that is not zero. -/
def rsaModulusBits (n : Bytes) : Nat :=
  match n.dropWhile (· == 0) with
  | [] => 0
  | first :: rest => rest.length * 8 + (first.toNat.log2 + 1)

/-! ### Loading a public JWKS -/

/-- Why a process does not start. -/
inductive BootstrapError
  | config (err : ConfigError)
  | jose (err : JoseError)
  | verify (err : VerifyError)
  | replay (err : ReplayError)
  | io (label message : String)
  | invalidJwks (label message : String)

section Server

variable [Crates] [KeyCrates]

/-- Return the RSA modulus size for public-key policy checks. -/
def rsaPublicKeyBitsFromJwk (jwk : PublicJwk) : Except JoseError Nat := do
  let publicKey ← rsaPublicKeyFromJwk jwk
  pure (rsaModulusBits publicKey.n)

/-- The keys of a JWKS document, or the single key a document is. -/
def publicJwksKeys (value : Json) (label : String) : Except BootstrapError (List Json) :=
  match value with
  | .object members =>
      match Json.get members "keys" with
      | some (.array keys) => .ok keys
      | some _ => .error (.invalidJwks label "keys must be an array")
      | none => .ok [value]
  | _ => .error (.invalidJwks label "JWKS must be an object")

/-- Read and check one key of a public JWKS. -/
def normalizePublicKey (label : String) (key : Json) : Except BootstrapError PublicJwk := do
  let members ← okOr key.asObject (.invalidJwks label "key entries must be objects")
  let privateFound := privateJwkMembers.filter fun member => Json.containsKey members member
  rejectIf (!privateFound.isEmpty)
    (.invalidJwks label ("key contains private JWK member(s) " ++ ",".intercalate privateFound ++
      "; public JWKS files must not contain private material"))
  let jwk ← okOr (PublicJwk.fromMembers members)
    (.invalidJwks label ("invalid public JWK: " ++ KeyCrates.serdeError "PublicJwk" key))
  (validatePublicJwk jwk).mapError .jose
  if jwk.kty = "RSA" then
    let bits ← (rsaPublicKeyBitsFromJwk jwk).mapError .jose
    rejectIf (bits < 2048) (.invalidJwks label "RSA public keys must be at least 2048 bits")
  pure jwk

def normalizePublicJwksValue (value : Json) (label : String) :
    Except BootstrapError JwksDocument := do
  let keys ← publicJwksKeys value label
  rejectIf keys.isEmpty (.invalidJwks label "no public keys found")
  let publicKeys ← keys.mapM (normalizePublicKey label)
  pure ⟨publicKeys⟩

/-- Refuse a file that others may write to. -/
def readCheckedFile (file : StoredFile) (label : String) (allowInsecureWritable : Bool) :
    Except BootstrapError FileText := do
  rejectIf (file.mode &&& 0o022 != 0 && !allowInsecureWritable)
    (.io label (label ++ " is group/world-writable (mode " ++
      String.ofList (Nat.toDigits 8 (file.mode &&& 0o777)) ++
      "); chmod 600 or set the explicit insecure override"))
  pure file.text

/-- Load a public JWKS document. -/
def loadPublicJwksFile (file : StoredFile) (label : String) (allowInsecureWritable : Bool) :
    Except BootstrapError JwksDocument := do
  let text ← readCheckedFile file label allowInsecureWritable
  match text with
  | .other raw => .error (.invalidJwks label ("file is not valid JSON: " ++ KeyCrates.jsonError raw))
  | .json value => normalizePublicJwksValue value label

end Server

/-! ### Backend selection -/

/-- The signing backend requested by policy or configuration. -/
inductive BackendSelection
  | classical
  | requestedPqc (requested : String)
  deriving DecidableEq

/-- `str::starts_with`. -/
def startsWith (s pre : String) : Bool := (stripPrefix s pre).isSome

def BackendSelection.parse (value : String) : BackendSelection :=
  let trimmed := trim value
  let lower := toAsciiLowercase trimmed
  if lower = "" then .requestedPqc "ML-DSA-65"
  else if lower = "classical" || lower = "rs256" then .classical
  else if startsWith lower "ml-dsa" || startsWith lower "pqc" then .requestedPqc trimmed
  else .requestedPqc lower

def MlDsaAlgorithm.fromSelector (value : String) : Option MlDsaAlgorithm :=
  let selector := toAsciiLowercase (trim value)
  if selector = "ml-dsa-44" || selector = "mldsa44" then some .mlDsa44
  else if selector = "ml-dsa-65" || selector = "mldsa65" then some .mlDsa65
  else if selector = "ml-dsa-87" || selector = "mldsa87" then some .mlDsa87
  else none

section Signers

variable [Crates]

/-- Resolve backend selection in a fail-closed way. -/
def resolveBackend : BackendSelection → Except JoseError Unit
  | .classical => .ok ()
  | .requestedPqc requested => do
      let _ ← okOr (MlDsaAlgorithm.fromSelector requested)
        ⟨.unsupportedAlgorithm, "requested signing backend " ++ debug requested ++
          " is not supported; refusing to fall back to RS256"⟩
      pure ()

def selectedPqcAlgorithm : BackendSelection → Except JoseError MlDsaAlgorithm
  | .classical => .error ⟨.unsupportedAlgorithm,
      "classical signing selection does not identify an ML-DSA algorithm"⟩
  | .requestedPqc requested => okOr (MlDsaAlgorithm.fromSelector requested)
      ⟨.unsupportedAlgorithm, "requested PQC signing backend " ++ debug requested ++
        " is not supported"⟩

/-- Every algorithm is selected by its own name. -/
theorem selectedPqcAlgorithm_parse (algorithm : MlDsaAlgorithm) :
    resolveBackend (.parse algorithm.joseAlg) = .ok () ∧
      selectedPqcAlgorithm (.parse algorithm.joseAlg) = .ok algorithm := by
  have hselector : ∃ requested, BackendSelection.parse algorithm.joseAlg = .requestedPqc requested ∧
      MlDsaAlgorithm.fromSelector requested = some algorithm := by
    cases algorithm with
    | mlDsa44 => exact ⟨"ML-DSA-44", by decide, by decide⟩
    | mlDsa65 => exact ⟨"ML-DSA-65", by decide, by decide⟩
    | mlDsa87 => exact ⟨"ML-DSA-87", by decide, by decide⟩
  obtain ⟨requested, hparse, hfrom⟩ := hselector
  rw [hparse]
  simp [resolveBackend, selectedPqcAlgorithm, hfrom]

end Signers

/-! ### Private keys -/

/-- An RFC 9964 private AKP JWK. -/
structure PrivateAkpJwk where
  kty : String
  kid : Option String
  alg : String
  pub : String
  priv : String

/-- A private RSA JWK. -/
structure PrivateRsaJwk where
  kty : String
  kid : Option String
  n : String
  e : String
  d : String
  p : String
  q : String
  dp : Option String
  dq : Option String
  qi : Option String

/-- A list of values as the members of a record, in the order of its fields. -/
def membersOfArray (fields : List String) (items : List Json) : Option (List (String × Json)) :=
  if items.length = fields.length then some (fields.zip items) else none

/-- The members of a record that is read from a text: an object, or a list with
exactly its fields. -/
def recordMembers (fields : List String) : Json → Option (List (String × Json))
  | .object members => some members
  | .array items => membersOfArray fields items
  | _ => none

/-- `serde_json::from_str`, for a value. -/
def PrivateAkpJwk.fromValue (value : Json) : Option PrivateAkpJwk := do
  let members ← recordMembers ["kty", "kid", "alg", "pub", "priv"] value
  let kty ← requiredText members "kty"
  let kid ← optionalText members "kid"
  let alg ← requiredText members "alg"
  let pub ← requiredText members "pub"
  let priv ← requiredText members "priv"
  pure ⟨kty, kid, alg, pub, priv⟩

def PrivateRsaJwk.fromValue (value : Json) : Option PrivateRsaJwk := do
  let members ← recordMembers ["kty", "kid", "n", "e", "d", "p", "q", "dp", "dq", "qi"] value
  let kty ← requiredText members "kty"
  let kid ← optionalText members "kid"
  let n ← requiredText members "n"
  let e ← requiredText members "e"
  let d ← requiredText members "d"
  let p ← requiredText members "p"
  let q ← requiredText members "q"
  let dp ← optionalText members "dp"
  let dq ← optionalText members "dq"
  let qi ← optionalText members "qi"
  pure ⟨kty, kid, n, e, d, p, q, dp, dq, qi⟩

/-- A generated private JWK with its public part. -/
structure GeneratedKey where
  privateJwk : Json
  publicJwk : PublicJwk

variable [Crates] [KeyCrates]

/-- `serde_json::from_str`. -/
def readRecord {T : Type} (record what : String) (fromValue : Json → Option T) :
    FileText → Except JoseError T
  | .other raw => .error ⟨.invalidKey, "invalid " ++ what ++ " JSON: " ++ KeyCrates.jsonError raw⟩
  | .json value => okOr (fromValue value)
      ⟨.invalidKey, "invalid " ++ what ++ " JSON: " ++ KeyCrates.serdeError record value⟩

def rsaJwkThumbprint (n e : String) : String :=
  Base64.encode (Crates.sha256 (asBytes
    ("\x7b\"e\":\"" ++ e ++ "\",\"kty\":\"RSA\",\"n\":\"" ++ n ++ "\"\x7d")))

def akpJwkThumbprint (alg pub : String) : String :=
  Base64.encode (Crates.sha256 (asBytes
    ("\x7b\"alg\":\"" ++ alg ++ "\",\"kty\":\"AKP\",\"pub\":\"" ++ pub ++ "\"\x7d")))

namespace MlDsaJoseSigner

def privateKeyFromSeed (algorithm : MlDsaAlgorithm) (seed : Bytes) : Except JoseError Bytes :=
  (KeyCrates.mlDsaPrivateKeyFromSeed algorithm seed).mapError fun e =>
    ⟨.invalidKey, "AKP private JWK seed was rejected by OpenSSL: " ++ e⟩

def rawPublicKey (algorithm : MlDsaAlgorithm) (keyPair : Bytes) : Except JoseError Bytes :=
  (Crates.mlDsaRawPublicKey algorithm keyPair).mapError fun e =>
    ⟨.invalidKey, "derive ML-DSA public key from OpenSSL private key failed: " ++ e⟩

/-- The signer of a seed, if it has the public key that was supplied with it. -/
def fromSeed (algorithm : MlDsaAlgorithm) (kid : String) (seed supplied : Bytes) :
    Except JoseError MlDsaJoseSigner :=
  if hlength : supplied.length = algorithm.publicKeyLen then do
    let keyPair ← privateKeyFromSeed algorithm seed
    match hraw : Crates.mlDsaRawPublicKey algorithm keyPair with
    | .error e => .error ⟨.invalidKey,
        "derive ML-DSA public key from OpenSSL private key failed: " ++ e⟩
    | .ok derived =>
        if hderived : derived = supplied then
          pure ⟨kid, algorithm, keyPair, derived, hraw, hderived ▸ hlength⟩
        else .error ⟨.invalidKey, "AKP private JWK pub does not match priv-derived public key"⟩
  else .error ⟨.invalidKey, "AKP private JWK pub length must be " ++
    toString algorithm.publicKeyLen ++ " bytes for " ++ algorithm.joseAlg⟩

/-- Build an ML-DSA signer from an RFC 9964 private AKP JWK. -/
def fromPrivateJwkForBackend (selection : BackendSelection) (text : FileText)
    (fallbackKid : String) : Except JoseError MlDsaJoseSigner := do
  resolveBackend selection
  let selectedAlgorithm ← selectedPqcAlgorithm selection
  let jwk ← readRecord "PrivateAkpJwk" "AKP private JWK" PrivateAkpJwk.fromValue text
  rejectIf (jwk.kty != "AKP") ⟨.invalidKey, "unsupported private JWK key type " ++ jwk.kty⟩
  let algorithm ← okOr (MlDsaAlgorithm.fromJoseAlg jwk.alg)
    ⟨.unsupportedAlgorithm, "unsupported AKP private JWK alg " ++ jwk.alg⟩
  rejectIf (algorithm != selectedAlgorithm)
    ⟨.invalidKey, "selected signing algorithm does not match AKP private JWK alg"⟩
  let seed ← decodeJwkOctets "AKP private JWK priv" jwk.priv
  rejectIf (seed.length != 32) ⟨.invalidKey, "AKP private JWK priv must be a 32-byte seed"⟩
  let suppliedPublic ← decodeJwkOctets "AKP private JWK pub" jwk.pub
  let fallback := if fallbackKid.isEmpty
    then akpJwkThumbprint algorithm.joseAlg (Base64.encode suppliedPublic) else fallbackKid
  fromSeed algorithm (jwk.kid.getD fallback) seed suppliedPublic

/-- Generate an RFC 9964 AKP private JWK. -/
def generatePrivateJwk (algorithm : MlDsaAlgorithm) (kid : Option String) (entropy : Bytes) :
    Except JoseError GeneratedKey := do
  let seed ← (KeyCrates.randomSeed entropy).mapError fun e =>
    ⟨.invalidKey, "ML-DSA seed generation failed: " ++ e⟩
  let keyPair ← privateKeyFromSeed algorithm seed
  let derived ← rawPublicKey algorithm keyPair
  let pub := Base64.encode derived
  let kid := (kid.filter fun value => !isBlank value).getD (akpJwkThumbprint algorithm.joseAlg pub)
  let privateJwk := Json.object [("kty", .string "AKP"), ("kid", .string kid),
    ("use", .string "sig"), ("alg", .string algorithm.joseAlg), ("pub", .string pub),
    ("priv", .string (Base64.encode seed))]
  let signer ← fromPrivateJwkForBackend (.parse algorithm.joseAlg) (.json privateJwk) ""
  pure ⟨privateJwk, signer.publicJwk⟩

end MlDsaJoseSigner

def positiveIntegerBlock (name : String) (bytes : Bytes) : Except JoseError Asn1Block := do
  rejectIf (bytes.all (· == 0))
    ⟨.invalidKey, "invalid RSA private JWK " ++ name ++ ": zero unsigned integer"⟩
  pure (.integer 0 (BigEndian.fromBytesBE bytes))

def decodeRequiredPrivateComponent (name : String) (value : Option String) :
    Except JoseError Bytes := do
  let value ← okOr value ⟨.invalidKey, "RSA private JWK missing CRT member " ++ name⟩
  decodeJwkComponent name value

def rsaPrivateJwkToPkcs1Der (jwk : PrivateRsaJwk) : Except JoseError Bytes := do
  let n ← decodeJwkComponent "n" jwk.n
  let e ← decodeJwkComponent "e" jwk.e
  let d ← decodeJwkComponent "d" jwk.d
  let p ← decodeJwkComponent "p" jwk.p
  let q ← decodeJwkComponent "q" jwk.q
  let dp ← decodeRequiredPrivateComponent "dp" jwk.dp
  let dq ← decodeRequiredPrivateComponent "dq" jwk.dq
  let qi ← decodeRequiredPrivateComponent "qi" jwk.qi
  let n ← positiveIntegerBlock "n" n
  let e ← positiveIntegerBlock "e" e
  let d ← positiveIntegerBlock "d" d
  let p ← positiveIntegerBlock "p" p
  let q ← positiveIntegerBlock "q" q
  let dp ← positiveIntegerBlock "dp" dp
  let dq ← positiveIntegerBlock "dq" dq
  let qi ← positiveIntegerBlock "qi" qi
  (DerCrates.toDer (.sequence 0 [.integer 0 0, n, e, d, p, q, dp, dq, qi])).mapError fun err =>
    ⟨.invalidKey, "failed to encode RSA private JWK as PKCS#1 DER: " ++ err⟩

namespace RsaJoseSigner

def fromPkcs1Der (privateDer : Bytes) (kid : String) : Except JoseError RsaJoseSigner := do
  failOn (KeyCrates.rsaFromDerError privateDer) fun e =>
    ⟨.invalidKey, "invalid RSA private key: " ++ e⟩
  rejectIf ((Crates.rsaPublicComponents privateDer).1.length * 8 < 2048)
    ⟨.invalidKey, "RSA signing key modulus must be at least 2048 bits"⟩
  pure ⟨kid, privateDer⟩

def fromPkcs1Pem (text kid : String) : Except JoseError RsaJoseSigner := do
  let der ← (KeyCrates.rsaFromPem (trim text)).mapError fun err =>
    ⟨.invalidKey, "invalid RSA private key: " ++ err.text⟩
  fromPkcs1Der der kid

/-- Build the RS256 signer from a private RSA JWK. -/
def fromPrivateJwk (text : FileText) (fallbackKid : String) : Except JoseError RsaJoseSigner := do
  let jwk ← readRecord "PrivateRsaJwk" "RSA private JWK" PrivateRsaJwk.fromValue text
  rejectIf (jwk.kty != "RSA") ⟨.invalidKey, "unsupported private JWK key type " ++ jwk.kty⟩
  let n ← decodeJwkComponent "n" jwk.n
  let e ← decodeJwkComponent "e" jwk.e
  validatePublicComponents n e
  rejectIf (rsaModulusBits n < 2048)
    ⟨.invalidKey, "RSA signing key modulus must be at least 2048 bits"⟩
  let privateDer ← rsaPrivateJwkToPkcs1Der jwk
  fromPkcs1Der privateDer (jwk.kid.getD fallbackKid)

/-- Generate a 2048-bit RSA private JWK plus its public JWK. -/
def generatePrivateJwk (entropy : Bytes) : Except JoseError GeneratedKey := do
  let key ← (KeyCrates.rsaGenerate entropy).mapError fun e =>
    ⟨.invalidKey, "generate RSA key failed: " ++ e⟩
  let n := Base64.encode key.n
  let e := Base64.encode key.e
  let kid := rsaJwkThumbprint n e
  let publicJwk : PublicJwk := ⟨"RSA", kid, "sig", "RS256", some n, some e, none⟩
  let privateJwk := Json.object [("kty", .string "RSA"), ("kid", .string kid),
    ("use", .string "sig"), ("alg", .string "RS256"), ("n", .string n), ("e", .string e),
    ("d", .string (Base64.encode key.d)), ("p", .string (Base64.encode key.p)),
    ("q", .string (Base64.encode key.q)), ("dp", .string (Base64.encode key.dp)),
    ("dq", .string (Base64.encode key.dq)), ("qi", .string (Base64.encode key.qi))]
  pure ⟨privateJwk, publicJwk⟩

end RsaJoseSigner

/-! ### Starting a server -/

/-- What the configuration says about key files. -/
structure KeyFileConfig where
  stsSigningAlg : String
  ourKid : String
  allowInsecureKeyFile : Bool
  allowInsecureJwks : Bool

/-- A text that starts as PEM does: `raw.trim_start().starts_with("-----BEGIN")`. -/
def pemText (text : FileText) : Option String :=
  match text with
  | .json _ => none
  | .other raw =>
      if startsWith (String.ofList (raw.toList.dropWhile isWhitespace)) "-----BEGIN" then some raw
      else none

def loadPqcSigner (selection : BackendSelection) (text : FileText) (fallbackKid : String) :
    Except BootstrapError JoseSigner := do
  rejectIf (pemText text).isSome (.jose ⟨.invalidKey,
    "ML-DSA signing requires an RFC 9964 AKP private JWK seed, not PEM"⟩)
  let signer ← (MlDsaJoseSigner.fromPrivateJwkForBackend selection text fallbackKid).mapError .jose
  pure (.mlDsa signer)

def loadFileSigner (config : KeyFileConfig) (file : StoredFile) :
    Except BootstrapError JoseSigner := do
  let text ← readCheckedFile file "STS signing key" config.allowInsecureKeyFile
  match BackendSelection.parse config.stsSigningAlg with
  | .requestedPqc requested => loadPqcSigner (.requestedPqc requested) text config.ourKid
  | .classical =>
      let signer ← (match pemText text with
        | some raw => RsaJoseSigner.fromPkcs1Pem raw config.ourKid
        | none => RsaJoseSigner.fromPrivateJwk text config.ourKid).mapError .jose
      pure (.rsa signer)

/-- The keys a server publishes when it starts on these files; no overlap file
counts as an empty one. -/
def bootstrapJwks (config : KeyFileConfig) (keyFile : StoredFile) (extra : Option StoredFile) :
    Except BootstrapError JwksDocument := do
  let signer ← loadFileSigner config keyFile
  match extra with
  | none => pure (publishedJwks signer none)
  | some file =>
      let document ← loadPublicJwksFile file "extra STS JWKS" config.allowInsecureJwks
      pure (publishedJwks signer (some document))

end StsDelegate
