import StsDelegate.Jose

/-!
# Signers

The four implementations of `JoseSigner`. What their constructors check about the
public key stands in their types: an external signer has a valid public JWK of
the right type under its own `kid`, and an ML-DSA signer has the public key its
key pair derives, of the right length.

`signClaims` draws randomness, `entropy`. RS256 with a local key is
`jsonwebtoken`'s encoder; the other three serialize the compact form themselves.
-/

namespace StsDelegate

open Text Fallible

variable [Crates]

def mapJwtEncodeError (err : JwtError) : JoseError :=
  match err.kind with
  | .json => ⟨.invalidClaims, "encode claims failed: " ++ err.text⟩
  | .invalidKeyFormat | .invalidRsaKey | .rsaFailedSigning | .signing =>
      ⟨.invalidKey, "RSA signing failed: " ++ err.text⟩
  | _ => ⟨.verificationFailed, "JWT signing failed: " ++ err.text⟩

/-- Serialize header and claims, sign, and append the signature. -/
def signCompact (header : ProtectedHeader) (claims : MintedClaims)
    (sign : Bytes → Except JoseError Bytes) : Except JoseError String := do
  let protectedBytes ← (Crates.headerToVec header).mapError fun e =>
    ⟨.invalidClaims, "encode JWS header failed: " ++ e⟩
  let payload ← (Crates.mintedToVec claims).mapError fun e =>
    ⟨.invalidClaims, "encode claims failed: " ++ e⟩
  let signingInput := Base64.encode protectedBytes ++ "." ++ Base64.encode payload
  let signature ← sign (asBytes signingInput)
  pure (signingInput ++ "." ++ Base64.encode signature)

/-- Classical RS256 backend. -/
structure RsaJoseSigner where
  kid : String
  encodingKey : Bytes

def RsaJoseSigner.publicJwk (signer : RsaJoseSigner) : PublicJwk where
  kty := "RSA"
  kid := signer.kid
  use := "sig"
  alg := "RS256"
  n := some (Base64.encode (Crates.rsaPublicComponents signer.encodingKey).1)
  e := some (Base64.encode (Crates.rsaPublicComponents signer.encodingKey).2)
  pub := none

/-- RS256 JOSE signer that delegates the private signing operation to a provider. -/
structure ExternalRs256JoseSigner where
  kid : String
  publicJwk : PublicJwk
  provider : (entropy signingInput : Bytes) → Except JoseError Bytes
  valid : validatePublicJwk publicJwk = .ok ()
  kty_eq : publicJwk.kty = "RSA"
  alg_eq : publicJwk.alg = "RS256"
  kid_eq : publicJwk.kid = kid

/-- ML-DSA backend. -/
structure MlDsaJoseSigner where
  kid : String
  algorithm : MlDsaAlgorithm
  keyPair : Bytes
  publicKey : Bytes
  derived : Crates.mlDsaRawPublicKey algorithm keyPair = .ok publicKey
  length_eq : publicKey.length = algorithm.publicKeyLen

def MlDsaJoseSigner.publicJwk (signer : MlDsaJoseSigner) : PublicJwk where
  kty := "AKP"
  kid := signer.kid
  use := "sig"
  alg := signer.algorithm.joseAlg
  n := none
  e := none
  pub := some (Base64.encode signer.publicKey)

/-- ML-DSA JOSE signer that delegates the private signing operation to a provider. -/
structure ExternalMlDsaJoseSigner where
  kid : String
  algorithm : MlDsaAlgorithm
  publicJwk : PublicJwk
  provider : (entropy signingInput : Bytes) → Except JoseError Bytes
  valid : validatePublicJwk publicJwk = .ok ()
  kty_eq : publicJwk.kty = "AKP"
  alg_eq : publicJwk.alg = algorithm.joseAlg
  kid_eq : publicJwk.kid = kid

/-- The signer a process runs with. -/
inductive JoseSigner
  | rsa (signer : RsaJoseSigner)
  | externalRs256 (signer : ExternalRs256JoseSigner)
  | mlDsa (signer : MlDsaJoseSigner)
  | externalMlDsa (signer : ExternalMlDsaJoseSigner)

def opensslSignMldsa (algorithm : MlDsaAlgorithm) (keyPair entropy signingInput : Bytes) :
    Except JoseError Bytes := do
  failOn (Crates.mlDsaSignerError algorithm keyPair) fun e =>
    ⟨.invalidKey, "create ML-DSA signer failed: " ++ e⟩
  let signature ← (Crates.mlDsaSignOneshot algorithm keyPair entropy signingInput).mapError
    fun e => ⟨.invalidKey, "ML-DSA signing failed: " ++ e⟩
  rejectIf (signature.length != algorithm.signatureLen)
    ⟨.invalidKey, "ML-DSA signature length was " ++ toString signature.length ++
      " bytes, expected " ++ toString algorithm.signatureLen ++ " for " ++ algorithm.joseAlg⟩
  pure signature

/-- The provider's signature, refused when it has the wrong length. -/
def ExternalMlDsaJoseSigner.sign (signer : ExternalMlDsaJoseSigner)
    (entropy signingInput : Bytes) : Except JoseError Bytes := do
  let signature ← signer.provider entropy signingInput
  rejectIf (signature.length != signer.algorithm.signatureLen)
    ⟨.invalidKey, "external ML-DSA provider returned wrong-sized signature"⟩
  pure signature

namespace JoseSigner

def alg : JoseSigner → String
  | .rsa _ => "RS256"
  | .externalRs256 _ => "RS256"
  | .mlDsa signer => signer.algorithm.joseAlg
  | .externalMlDsa signer => signer.algorithm.joseAlg

def kid : JoseSigner → String
  | .rsa signer => signer.kid
  | .externalRs256 signer => signer.kid
  | .mlDsa signer => signer.kid
  | .externalMlDsa signer => signer.kid

def publicJwk : JoseSigner → PublicJwk
  | .rsa signer => signer.publicJwk
  | .externalRs256 signer => signer.publicJwk
  | .mlDsa signer => signer.publicJwk
  | .externalMlDsa signer => signer.publicJwk

def publicJwks (signer : JoseSigner) : JwksDocument := ⟨[signer.publicJwk]⟩

/-- The header of every token this signer mints. -/
def header (signer : JoseSigner) : ProtectedHeader := ⟨signer.alg, signer.kid, "at+jwt"⟩

def signClaims (signer : JoseSigner) (claims : MintedClaims) (entropy : Bytes) :
    Except JoseError String :=
  match signer with
  | .rsa s => (Crates.rs256Encode signer.header claims s.encodingKey entropy).mapError
      mapJwtEncodeError
  | .externalRs256 s => signCompact signer.header claims (s.provider entropy)
  | .mlDsa s => signCompact signer.header claims (opensslSignMldsa s.algorithm s.keyPair entropy)
  | .externalMlDsa s => signCompact signer.header claims (s.sign entropy)

/-- Tokens name the key that the signer publishes. -/
theorem publicJwk_kid (signer : JoseSigner) : signer.publicJwk.kid = signer.kid := by
  cases signer with
  | rsa s => rfl
  | externalRs256 s => exact s.kid_eq
  | mlDsa s => rfl
  | externalMlDsa s => exact s.kid_eq

end JoseSigner

end StsDelegate
