import StsDelegate.Claims

/-!
# The crates underneath

What the server calls and does not implement itself: form decoding and URL
parsing (`url`), JSON (`serde_json`), digests (`sha2`), RSA tokens
(`jsonwebtoken`), ML-DSA (`openssl`) and the JWK handling behind DPoP. They are
the parameters of the whole model, collected in the class `Crates`; no definition
depends on anything about them but their types. Results that need more name it.

A signature scheme draws randomness, so the signing operations take `entropy`.
Texts of foreign errors end up in responses, so the error cases carry them.
-/

namespace StsDelegate

open Text

/-- `url::Host`. -/
inductive Host
  | domain (name : String)
  | ipv4 (a b c d : UInt8)
  | ipv6 (address : Nat)

/-- The parts of a parsed URL that are looked at. -/
structure Url where
  scheme : String
  hostStr : Option String
  host : Option Host
  port : Option Nat
  path : String
  query : Option String
  fragment : Option String

/-- The error kinds of `jsonwebtoken` that are told apart. -/
inductive JwtErrorKind
  | invalidToken | base64 | utf8
  | json | missingRequiredClaim | invalidClaimFormat | expiredSignature | invalidIssuer
  | invalidAudience | invalidSubject | immatureSignature
  | invalidSignature | invalidAlgorithm | missingAlgorithm | invalidKeyFormat | invalidRsaKey
  | rsaFailedSigning | signing
  | other

/-- An error of `jsonwebtoken` and its text. -/
structure JwtError where
  kind : JwtErrorKind
  text : String

/-- The signature algorithms of `jsonwebtoken` that a DPoP proof may name. -/
inductive Algorithm
  | rs256 | rs384 | rs512 | ps256 | ps384 | ps512 | es256 | es384 | edDsa
  deriving DecidableEq

/-- `jsonwebtoken::jwk::AlgorithmParameters`, as far as the key type goes. -/
inductive AlgorithmParameters
  | rsa | ellipticCurve | octetKeyPair | octetKey

/-- `jsonwebtoken::jwk::Jwk`: a key read from a JSON value. -/
structure Jwk where
  algorithm : AlgorithmParameters
  value : Json

/-- The third-party crates. -/
class Crates where
  /-- `sha2::Sha256`. -/
  sha256 : Bytes → Bytes
  /-- Does `{:?}` escape this non-ASCII character? -/
  unicodeEscaped : Char → Bool
  /-- The text of the error that decoding a text that is not base64url gives. -/
  base64DecodeError : String → String
  /-- `url::form_urlencoded::parse`. -/
  formUrlencodedParse : Bytes → List (String × String)
  /-- `Url::parse`. -/
  urlParse : String → Except String Url
  /-- `serde_json::from_slice`, at each type it is used at. -/
  headerFromSlice : Bytes → Except String CompactJwsHeader
  subjectFromSlice : Bytes → Except String SubjectTokenClaims
  assertionFromSlice : Bytes → Except String AssertionClaims
  mintedFromSlice : Bytes → Except String MintedClaims
  dpopFromSlice : Bytes → Except String VerifiedDpopClaims
  valueFromSlice : Bytes → Except String Json
  /-- `serde_json::to_vec`. -/
  headerToVec : ProtectedHeader → Except String Bytes
  mintedToVec : MintedClaims → Except String Bytes
  /-- `DecodingKey::from_rsa_components`: the error, if it fails. -/
  rsaComponentsError : (n e : String) → Option String
  /-- `jsonwebtoken::decode` with claim validation off, up to the payload: checks
  the token against the RSA key and hands out the octets of its payload. -/
  rs256Decode : (token n e : String) → Except JwtError Bytes
  /-- `jsonwebtoken::encode` with an RSA key. -/
  rs256Encode : ProtectedHeader → MintedClaims → (key entropy : Bytes) → Except JwtError String
  /-- The public components of an RSA key pair. -/
  rsaPublicComponents : (key : Bytes) → Bytes × Bytes
  /-- `PKey::public_key_from_raw_bytes_ex`: the error, if it fails. -/
  mlDsaPublicKeyError : MlDsaAlgorithm → (publicKey : Bytes) → Option String
  /-- `Verifier::new_without_digest`: the error, if it fails. -/
  mlDsaVerifierError : MlDsaAlgorithm → (publicKey : Bytes) → Option String
  /-- `Verifier::verify_oneshot`. -/
  mlDsaVerifyOneshot : MlDsaAlgorithm → (publicKey signature message : Bytes) → Except String Bool
  /-- `PKey::raw_public_key`. -/
  mlDsaRawPublicKey : MlDsaAlgorithm → (keyPair : Bytes) → Except String Bytes
  /-- `Signer::new_without_digest`: the error, if it fails. -/
  mlDsaSignerError : MlDsaAlgorithm → (keyPair : Bytes) → Option String
  /-- `Signer::sign_oneshot_to_vec`. -/
  mlDsaSignOneshot : MlDsaAlgorithm → (keyPair entropy message : Bytes) → Except String Bytes
  /-- `serde_json::from_value::<Jwk>`. -/
  jwkFromValue : Json → Option Jwk
  /-- `DecodingKey::from_jwk` succeeds. -/
  jwkDecodable : Jwk → Bool
  /-- `jsonwebtoken::decode` of a proof under its own key, up to the payload. -/
  dpopDecode : Algorithm → Jwk → (proof : String) → Option Bytes
  /-- `Jwk::thumbprint` with SHA-256. -/
  jwkThumbprint : Jwk → String

variable [Crates]

/-- The `{:?}` rendering of a text. -/
def debug (s : String) : String := Text.debug Crates.unicodeEscaped s

end StsDelegate
