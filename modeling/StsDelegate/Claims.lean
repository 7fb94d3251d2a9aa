import StsDelegate.Json
import StsDelegate.Lib.Text

/-!
# Claims and keys

The records that travel inside signed tokens and key documents, with the fields
the code reads: what the server mints (`sts-core`), what it accepts from identity
providers, actors and clients (`sts-verify`), what a proof of possession carries
(`sts-dpop`), and the JOSE headers and public keys around them (`sts-jose`).
-/

namespace StsDelegate

open Text

/-! ### Minted tokens -/

/-- The delegation marker that rides inside a minted token: who acts, and for
whom that actor acted before. -/
inductive ActClaim
  | mk (sub : String) (iss : Option String) (act : Option ActClaim)

namespace ActClaim

def sub : ActClaim → String
  | mk sub _ _ => sub

def iss : ActClaim → Option String
  | mk _ iss _ => iss

def act : ActClaim → Option ActClaim
  | mk _ _ act => act

/-- `serde_json::to_value`: absent members are left out. -/
def toValue : ActClaim → Json
  | mk sub iss act =>
      .object <|
        [("sub", .string sub)] ++
        (match iss with
          | some iss => [("iss", .string iss)]
          | none => []) ++
        (match act with
          | some act => [("act", act.toValue)]
          | none => [])

end ActClaim

/-- The claims of a minted access token. -/
structure MintedClaims where
  iss : String
  sub : String
  aud : String
  scope : String
  iat : Int64
  exp : Int64
  jti : String
  clientId : String
  act : Option ActClaim
  cnfJkt : Option String
  authTime : Option Int64
  acr : Option String
  amr : List String

/-! ### Inbound tokens -/

/-- JWT claims used for inbound subject-token verification. -/
structure SubjectTokenClaims where
  iss : String
  sub : Option String
  aud : Json
  scope : Option String
  scp : Option Json
  exp : Int64
  nbf : Option Int64
  act : Option Json
  mayAct : Option Json
  authTime : Option Int64
  acr : Option String
  amr : Option (List String)

/-- JWT claims used for inbound actor/client assertion verification. -/
structure AssertionClaims where
  iss : String
  sub : String
  aud : Json
  exp : Int64
  iat : Option Int64
  jti : Option String
  subTokHash : Option String

/-- The claims of a DPoP proof, each of them any JSON value until it is checked. -/
structure VerifiedDpopClaims where
  jti : Option Json
  htm : Option Json
  htu : Option Json
  iat : Option Json

/-! ### Keys and headers -/

/-- A public JWK. -/
structure PublicJwk where
  kty : String
  kid : String
  use : String
  alg : String
  n : Option String
  e : Option String
  pub : Option String
  deriving DecidableEq

/-- A JWKS document. -/
structure JwksDocument where
  keys : List PublicJwk

/-- The protected header of a compact JWS, as it is read. -/
structure CompactJwsHeader where
  alg : String
  kid : Option String
  typ : Option String
  deriving DecidableEq

/-- The protected header of a compact JWS, as it is written. -/
structure ProtectedHeader where
  alg : String
  kid : String
  typ : String

/-- Reading back a written header. -/
def ProtectedHeader.read (header : ProtectedHeader) : CompactJwsHeader :=
  ⟨header.alg, some header.kid, some header.typ⟩

/-- RFC 9964 ML-DSA algorithms. -/
inductive MlDsaAlgorithm
  | mlDsa44
  | mlDsa65
  | mlDsa87
  deriving DecidableEq

namespace MlDsaAlgorithm

def joseAlg : MlDsaAlgorithm → String
  | .mlDsa44 => "ML-DSA-44"
  | .mlDsa65 => "ML-DSA-65"
  | .mlDsa87 => "ML-DSA-87"

def fromJoseAlg (value : String) : Option MlDsaAlgorithm :=
  if value = "ML-DSA-44" then some .mlDsa44
  else if value = "ML-DSA-65" then some .mlDsa65
  else if value = "ML-DSA-87" then some .mlDsa87
  else none

def publicKeyLen : MlDsaAlgorithm → Nat
  | .mlDsa44 => 1312
  | .mlDsa65 => 1952
  | .mlDsa87 => 2592

def signatureLen : MlDsaAlgorithm → Nat
  | .mlDsa44 => 2420
  | .mlDsa65 => 3309
  | .mlDsa87 => 4627

theorem fromJoseAlg_joseAlg (algorithm : MlDsaAlgorithm) :
    fromJoseAlg algorithm.joseAlg = some algorithm := by
  cases algorithm <;> decide

/-- An algorithm is read from its own name only. -/
theorem eq_joseAlg {value : String} {algorithm : MlDsaAlgorithm}
    (h : fromJoseAlg value = some algorithm) : value = algorithm.joseAlg := by
  unfold fromJoseAlg at h
  grind [joseAlg]

theorem joseAlg_ne_rs256 (algorithm : MlDsaAlgorithm) : algorithm.joseAlg ≠ "RS256" := by
  cases algorithm <;> decide

end MlDsaAlgorithm

/-- Return true when the JOSE `alg` identifies an ML-DSA JWS algorithm. -/
def isPqcJwsAlg (alg : String) : Bool := (MlDsaAlgorithm.fromJoseAlg alg).isSome

end StsDelegate
