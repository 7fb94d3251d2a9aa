import StsDelegate.Keys
import StsDelegate.Lib.Turns

/-!
# Key rotation

`rotate_signing_key` and `rotate_pqc_key` of `sts-cli`. A rotation reads the current
private key and the overlap JWKS, generates a replacement, writes the overlap JWKS
with the current key added, and then replaces the key file. A lock file keeps
rotations of one key file apart; the RSA rotation takes it before it reads, the PQC
rotation afterwards.

The two rotations are programs over the files, so that any number of them can be
interleaved. Replacing a file is one call: the new contents are written to a
temporary file and renamed, and nothing else looks at the temporary file. The
status lines a rotation prints are a record here.
-/

namespace StsDelegate

open Text Fallible Effectful Prog

/-- An error of the command line tool, with its exit code. -/
structure CliError where
  code : Nat
  message : String

def CliError.usage (message : String) : CliError := ⟨2, message⟩

def CliError.runtime (message : String) : CliError := ⟨1, message⟩

/-- `Display` of a JOSE error. -/
def JoseError.display (err : JoseError) : String :=
  (match err.kind with
    | .invalidKey => "invalid_key"
    | .unsupportedAlgorithm => "unsupported_algorithm"
    | .invalidClaims => "invalid_claims"
    | .verificationFailed => "verification_failed"
    | .invalidCompactJws => "invalid_compact_jws") ++ ": " ++ err.message

/-! ### Reading a JWKS document -/

/-- The keys of a JWKS document, or the single key a document is. -/
def normalizeJwksValue (value : Json) : Except CliError (List (List (String × Json))) := do
  let object ← okOr value.asObject (.usage "JWK input must be a JSON object")
  let rawKeys ← match Json.get object "keys" with
    | some (.array keys) => pure keys
    | some _ => .error (.usage "JWKS keys member must be an array")
    | none => pure [value]
  rejectIf rawKeys.isEmpty (.usage "JWKS contains no keys")
  rawKeys.mapM fun key => okOr key.asObject (.usage "JWK entries must be JSON objects")

/-- What an inspection reports about a key. -/
structure InspectedKey where
  index : Nat
  kid : Option String
  kty : String
  use : Option String
  alg : Option String
  rsaModulusBits : Option Nat
  akpPublicBytes : Option Nat
  akpPublicSha256Prefix : Option String

def optionalString (key : List (String × Json)) (member : String) (index : Nat) :
    Except CliError (Option String) :=
  match Json.get key member with
  | none => .ok none
  | some value => do
      let text ← okOr value.asStr
        (.usage ("key[" ++ toString index ++ "] member " ++ member ++ " must be a string"))
      pure (some text)

def requiredString (key : List (String × Json)) (member : String) (index : Nat) :
    Except CliError String := do
  let value ← optionalString key member index
  okOr value (.usage ("key[" ++ toString index ++ "] missing required member " ++ member))

def decodeBase64urlUint (member value : String) (index : Nat) : Except CliError Bytes :=
  okOr (Base64.decode value)
    (.usage ("key[" ++ toString index ++ "] member " ++ member ++ " is not base64url"))

def rsaModulusBitsFromKey (key : List (String × Json)) (index : Nat) : Except CliError Nat := do
  let n ← requiredString key "n" index
  let e ← requiredString key "e" index
  let modulus ← decodeBase64urlUint "n" n index
  let exponent ← decodeBase64urlUint "e" e index
  rejectIf (exponent.all (· == 0))
    (.usage ("key[" ++ toString index ++ "] RSA exponent is invalid"))
  rejectIf (modulus.all (· == 0))
    (.usage ("key[" ++ toString index ++ "] RSA modulus is invalid"))
  -- `8 - modulus[0].leading_zeros()`, which is zero for a leading zero octet
  let leadingBits := match modulus.head? with
    | some 0 => 0
    | some first => first.toNat.log2 + 1
    | none => 0
  pure ((modulus.length - 1) * 8 + leadingBits)

def akpPublicFromKey (key : List (String × Json)) (index : Nat) : Except CliError Bytes := do
  rejectIf ((Json.get key "n").isSome || (Json.get key "e").isSome)
    (.usage ("key[" ++ toString index ++ "] AKP key must not contain RSA n/e members"))
  let alg ← requiredString key "alg" index
  let algorithm ← okOr (MlDsaAlgorithm.fromJoseAlg alg)
    (.usage ("key[" ++ toString index ++ "] unsupported AKP alg " ++ alg))
  let pub ← requiredString key "pub" index
  let bytes ← okOr (Base64.decode pub)
    (.usage ("key[" ++ toString index ++ "] member pub is not base64url"))
  rejectIf (bytes.length != algorithm.publicKeyLen)
    (.usage ("key[" ++ toString index ++ "] AKP pub length must be " ++
      toString algorithm.publicKeyLen ++ " bytes for " ++ algorithm.joseAlg))
  pure bytes

variable [Crates] [KeyCrates]

def sha256BytesHexPrefix (value : Bytes) : String := hexLower ((Crates.sha256 value).take 8)

/-- Inspect one key. -/
def inspectPublicKey (index : Nat) (key : List (String × Json)) : Except CliError InspectedKey := do
  rejectIf (key.any fun member => privateJwkMembers.contains member.1)
    (.usage ("key[" ++ toString index ++ "] contains non-public key material; " ++
      "refusing to inspect private or symmetric JWK input"))
  let kty ← requiredString key "kty" index
  let kid ← optionalString key "kid" index
  let use ← optionalString key "use" index
  let alg ← optionalString key "alg" index
  let rsaModulusBits ← if kty = "RSA" then do
      let bits ← rsaModulusBitsFromKey key index
      pure (some bits)
    else pure none
  let akpPublic ← if kty = "AKP" then do
      let bytes ← akpPublicFromKey key index
      pure (some bytes)
    else pure none
  pure ⟨index, kid, kty, use, alg, rsaModulusBits, akpPublic.map List.length,
    akpPublic.map sha256BytesHexPrefix⟩

def inspectPublicKeys (keys : List (List (String × Json))) : Except CliError (List InspectedKey) :=
  keys.zipIdx.mapM fun entry => inspectPublicKey entry.2 entry.1

def akpPublicBytes (jwk : PublicJwk) : Except CliError Nat := do
  let bytes ← akpPublicFromKey jwk.toMembers 0
  pure bytes.length

/-- Read one key of a public JWKS, and check it as its key type demands. -/
def parsePublicKey (label : String) (index : Nat) (key : List (String × Json)) :
    Except CliError PublicJwk := do
  let named := label ++ " key[" ++ toString index ++ "]"
  let jwk ← okOr (PublicJwk.fromMembers key)
    (.usage (named ++ " is not a valid public JWK: " ++
      KeyCrates.serdeError "PublicJwk" (.object key)))
  if jwk.kty = "RSA" then
    let bits ← (rsaPublicKeyBitsFromJwk jwk).mapError fun err =>
      .usage (named ++ " is not a valid RSA public JWK: " ++ err.display)
    rejectIf (bits < 2048) (.usage (named ++ " RSA modulus must be at least 2048 bits"))
  else if jwk.kty = "AKP" then
    let _ ← akpPublicBytes jwk
    pure ()
  else .error (.usage (named ++ " unsupported JWK kty " ++ jwk.kty))
  pure jwk

def parsePublicJwksDocument (text : FileText) (label : String) :
    Except CliError (List PublicJwk) :=
  match text with
  | .other raw => .error (.usage (label ++ " is invalid JSON: " ++ KeyCrates.jsonError raw))
  | .json value => do
      let keys ← normalizeJwksValue value
      let _ ← inspectPublicKeys keys
      keys.zipIdx.mapM fun entry => parsePublicKey label entry.2 entry.1

/-! ### The files of a rotation -/

/-- An I/O error: is it that the file does not exist, and its text. -/
structure IoError where
  notFound : Bool
  text : String

/-- What a rotation asks of its surroundings. -/
inductive RotateCall
  /-- Create the lock file, which must not exist. -/
  | acquireLock
  /-- Remove the lock file. -/
  | releaseLock
  | readKeyFile
  | readOverlapFile
  /-- Generate a replacement: an RSA key, or an ML-DSA key under an optional id. -/
  | generateRsa
  | generateMlDsa (algorithm : MlDsaAlgorithm) (kid : Option String)
  /-- `atomic_write_json` of the overlap file. -/
  | replaceOverlapFile (document : JwksDocument)
  /-- `atomic_write_text` of the key file. -/
  | replaceKeyFile (privateJwk : Json)

def RotateCall.Answer : RotateCall → Type
  | .acquireLock => Except IoError Unit
  | .releaseLock => Unit
  | .readKeyFile => Except IoError FileText
  | .readOverlapFile => Except IoError FileText
  | .generateRsa => Except JoseError GeneratedKey
  | .generateMlDsa _ _ => Except JoseError GeneratedKey
  | .replaceOverlapFile _ => Except CliError Unit
  | .replaceKeyFile _ => Except CliError Unit

/-- The calls of a rotation with their answers. -/
def rotation : Signature := ⟨RotateCall, RotateCall.Answer⟩

/-- The lock file and the two files. -/
structure KeyFiles where
  locked : Bool
  keyFile : Option StoredFile
  overlapFile : Option StoredFile

/-- What the environment decides at a call: an I/O failure with its text, and the
randomness of a new key. -/
structure RotateInput where
  failure : Option String
  entropy : Bytes

/-- Read a file. -/
def readStored (file : Option StoredFile) (input : RotateInput) : Except IoError FileText :=
  match input.failure, file with
  | some text, _ => .error ⟨false, text⟩
  | none, none => .error ⟨true, "No such file or directory (os error 2)"⟩
  | none, some file => .ok file.text

/-- The surroundings answer a call. -/
def rotateAnswer (c : RotateCall) (input : RotateInput) (s : KeyFiles) : c.Answer × KeyFiles :=
  match c with
  | .acquireLock =>
      match input.failure with
      | some text => (.error ⟨false, text⟩, s)
      | none =>
          if s.locked then (.error ⟨false, "File exists (os error 17)"⟩, s)
          else (.ok (), { s with locked := true })
  | .releaseLock =>
      match input.failure with
      | some _ => ((), s)
      | none => ((), { s with locked := false })
  | .readKeyFile => (readStored s.keyFile input, s)
  | .readOverlapFile => (readStored s.overlapFile input, s)
  | .generateRsa => (RsaJoseSigner.generatePrivateJwk input.entropy, s)
  | .generateMlDsa algorithm kid =>
      (MlDsaJoseSigner.generatePrivateJwk algorithm kid input.entropy, s)
  | .replaceOverlapFile document =>
      match input.failure with
      | some text => (.error (.runtime text), s)
      | none => (.ok (), { s with overlapFile := some ⟨.json document.toValue, 0o644⟩ })
  | .replaceKeyFile privateJwk =>
      match input.failure with
      | some text => (.error (.runtime text), s)
      | none => (.ok (), { s with keyFile := some ⟨.json privateJwk, 0o600⟩ })

def keyStore : Machine rotation KeyFiles RotateInput := ⟨rotateAnswer⟩

abbrev RotateProg (α : Type) : Type := Prog rotation CliError α

/-! ### What the files say -/

/-- The public part of the RSA key in a file, under the id it is staged with. -/
def currentSigningKey (path : String) (text : FileText) : Except CliError PublicJwk :=
  match text with
  | .other raw => .error (.usage ("current signing key " ++ path ++
      " must be an RSA private JWK JSON object: " ++ KeyCrates.jsonError raw))
  | .json value => do
      let object ← okOr value.asObject (.usage ("current signing key " ++ path ++
        " must be an RSA private JWK JSON object"))
      rejectIf (Json.containsKey object "k" || !Json.containsKey object "d")
        (.usage ("current signing key " ++ path ++ " must be an RSA private JWK"))
      rejectIf (((Json.get object "kid").bind Json.asStr).all String.isEmpty)
        (.usage ("current signing key " ++ path ++
          " must include a non-empty kid for overlap staging"))
      let signer ← (RsaJoseSigner.fromPrivateJwk (.json value) "unused").mapError fun err =>
        .usage ("current signing key " ++ path ++ " is invalid: " ++ err.display)
      pure signer.publicJwk

/-- The public part of the ML-DSA key in a file, under the id it is staged with. -/
def currentPqcSigningKey (path : String) (text : FileText) : Except CliError PublicJwk :=
  match text with
  | .other raw => .error (.usage ("current PQC signing key " ++ path ++
      " must be an AKP private JWK JSON object: " ++ KeyCrates.jsonError raw))
  | .json value => do
      let object ← okOr value.asObject (.usage ("current PQC signing key " ++ path ++
        " must be an AKP private JWK JSON object"))
      rejectIf (!Json.containsKey object "priv" ||
          (Json.get object "kty").bind Json.asStr != some "AKP")
        (.usage ("current PQC signing key " ++ path ++ " must be an AKP private JWK"))
      let alg ← okOr ((Json.get object "alg").bind Json.asStr)
        (.usage "current PQC signing key missing alg")
      let signer ← (MlDsaJoseSigner.fromPrivateJwkForBackend (.parse alg) (.json value)
        "").mapError fun err =>
          .usage ("current PQC signing key " ++ path ++ " is invalid: " ++ err.display)
      pure signer.publicJwk

/-- The keys of the overlap file; there are none when there is no file. -/
def existingOverlap (path : String) : Except IoError FileText → Except CliError (List PublicJwk)
  | .ok text => parsePublicJwksDocument text "overlap JWKS"
  | .error err =>
      if err.notFound then .ok []
      else .error (.runtime ("failed to read overlap JWKS " ++ path ++ ": " ++ err.text))

def parseMldsaAlgorithm (value : String) : Except CliError MlDsaAlgorithm :=
  okOr ((MlDsaAlgorithm.fromJoseAlg value).or (MlDsaAlgorithm.fromSelector value))
    (.usage "PQC algorithm must be ML-DSA-44, ML-DSA-65, or ML-DSA-87")

/-- The overlap keys that are kept besides the current one. -/
def otherKeys (current generated : PublicJwk) (overlap : List PublicJwk) : List PublicJwk :=
  overlap.filter fun key => key.kid != current.kid && key.kid != generated.kid

/-! ### The rotations -/

/-- Arguments of a rotation, with the paths as they are displayed. -/
structure RotateArgs where
  keyFile : String
  extraJwksFile : String
  dryRun : Bool

structure PqcKeyRotateArgs where
  keyFile : String
  extraJwksFile : String
  kid : Option String
  dryRun : Bool

/-- What a rotation reports. -/
structure RotationReport where
  rotated : Bool
  oldKid : String
  newKid : Option String
  alg : Option String
  overlapKeys : Option Nat

def acquireRotationLock (keyFile : String) : RotateProg Unit := do
  let acquired ← perform (σ := rotation) RotateCall.acquireLock
  ofExcept (acquired.mapError fun err => .runtime
    ("failed to acquire rotation lock " ++ keyFile ++ ".rotate.lock: " ++ err.text))

def replaceOverlapFile (document : JwksDocument) : RotateProg Unit := do
  let written ← perform (σ := rotation) (RotateCall.replaceOverlapFile document)
  ofExcept written

def replaceKeyFile (privateJwk : Json) : RotateProg Unit := do
  let written ← perform (σ := rotation) (RotateCall.replaceKeyFile privateJwk)
  ofExcept written

def loadCurrentSigningKey (path : String) : RotateProg PublicJwk := do
  let raw ← perform (σ := rotation) RotateCall.readKeyFile
  ofExcept (do
    let text ← raw.mapError fun err =>
      .runtime ("failed to read current signing key " ++ path ++ ": " ++ err.text)
    currentSigningKey path text)

def loadCurrentPqcSigningKey (path : String) : RotateProg PublicJwk := do
  let raw ← perform (σ := rotation) RotateCall.readKeyFile
  ofExcept (do
    let text ← raw.mapError fun err =>
      .runtime ("failed to read current PQC signing key " ++ path ++ ": " ++ err.text)
    currentPqcSigningKey path text)

def loadExistingOverlap (path : String) : RotateProg (List PublicJwk) := do
  let raw ← perform (σ := rotation) RotateCall.readOverlapFile
  ofExcept (existingOverlap path raw)

namespace RotateSigningKey

/-- The key file is replaced last. -/
def install (current : PublicJwk) (generated : GeneratedKey) (staged : List PublicJwk) :
    RotateProg RotationReport := do
  replaceKeyFile generated.privateJwk
  pure ⟨true, current.kid, some generated.publicJwk.kid, none, some staged.length⟩

/-- The overlap file gets the current key, after the keys that are kept. -/
def stage (current : PublicJwk) (generated : GeneratedKey) (overlap : List PublicJwk) :
    RotateProg RotationReport := do
  let retained := otherKeys current generated.publicJwk overlap ++ [current]
  replaceOverlapFile ⟨retained⟩
  install current generated retained

def afterGenerated (args : RotateArgs) (current : PublicJwk) (generated : GeneratedKey) :
    RotateProg RotationReport := do
  let overlap ← loadExistingOverlap args.extraJwksFile
  stage current generated overlap

def afterCurrent (args : RotateArgs) (current : PublicJwk) : RotateProg RotationReport := do
  let generated ← perform (σ := rotation) RotateCall.generateRsa
  let generated ← ofExcept (generated.mapError fun err =>
    .runtime ("failed to generate replacement key: " ++ err.display))
  afterGenerated args current generated

/-- What happens while the lock is held. -/
def locked (args : RotateArgs) : RotateProg RotationReport := do
  let current ← loadCurrentSigningKey args.keyFile
  afterCurrent args current

end RotateSigningKey

/-- Rotate the RSA signing key. -/
def rotateSigningKey (args : RotateArgs) : RotateProg RotationReport :=
  if args.dryRun then do
    let current ← loadCurrentSigningKey args.keyFile
    let overlap ← loadExistingOverlap args.extraJwksFile
    pure ⟨false, current.kid, none, none,
      some ((overlap.filter fun key => key.kid != current.kid).length + 1)⟩
  else do
    acquireRotationLock args.keyFile
    (RotateSigningKey.locked args).ensuring RotateCall.releaseLock

namespace RotatePqcKey

/-- The key file is replaced last. -/
def install (current : PublicJwk) (generated : GeneratedKey) : RotateProg RotationReport := do
  replaceKeyFile generated.privateJwk
  pure ⟨true, current.kid, some generated.publicJwk.kid, some generated.publicJwk.alg, none⟩

/-- The overlap file gets the current key, before the keys that are kept. -/
def stage (current : PublicJwk) (overlap : List PublicJwk) (generated : GeneratedKey) :
    RotateProg RotationReport := do
  replaceOverlapFile ⟨current :: otherKeys current generated.publicJwk overlap⟩
  install current generated

/-- What happens while the lock is held. -/
def locked (args : PqcKeyRotateArgs) (current : PublicJwk) (overlap : List PublicJwk) :
    RotateProg RotationReport := do
  let algorithm ← ofExcept (parseMldsaAlgorithm current.alg)
  let generated ← perform (σ := rotation) (RotateCall.generateMlDsa algorithm args.kid)
  let generated ← ofExcept (generated.mapError fun err =>
    .runtime ("failed to generate replacement ML-DSA key: " ++ err.display))
  stage current overlap generated

/-- The lock is taken when both files have been read. -/
def lockAndRotate (args : PqcKeyRotateArgs) (current : PublicJwk) (overlap : List PublicJwk) :
    RotateProg RotationReport := do
  acquireRotationLock args.keyFile
  (locked args current overlap).ensuring RotateCall.releaseLock

end RotatePqcKey

/-- Rotate the ML-DSA signing key. -/
def rotatePqcKey (args : PqcKeyRotateArgs) : RotateProg RotationReport := do
  let current ← loadCurrentPqcSigningKey args.keyFile
  let overlap ← loadExistingOverlap args.extraJwksFile
  if args.dryRun then
    pure ⟨false, current.kid, none, some current.alg,
      some ((overlap.filter fun key => key.kid != current.kid).length + 1)⟩
  else RotatePqcKey.lockAndRotate args current overlap

end StsDelegate
