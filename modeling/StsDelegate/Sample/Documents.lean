import StsDelegate.Http.Plan
import StsDelegate.Http.Server
import StsDelegate.Keys

/-!
# A sample deployment

One concrete instance of the crates with documents that pass every check, so that
statements about all deployments can be looked at in one. The form parser splits
at `&` and `=`, enough for bodies without escapes. Signatures, digests and JSON
are tables of what the real crates give for the documents below, and refuse
everything else: the tokens are signed with a 2048 bit RSA key, the proof with an
Ed25519 key.

Tokens are too long to compute with; `Sample/Requests.lean` reads the documents
once and for all.
-/

namespace StsDelegate

namespace Sample

open Text Fallible Effectful Prog

/-! ### Documents -/

/-- The `k` octets of a number. -/
def octets : (k : Nat) → Nat → Bytes
  | 0, _ => []
  | k + 1, n => UInt8.ofNat (n / 256 ^ k) :: octets k n

/-- Octets in groups of sixteen. -/
def words (ws : List Nat) : Bytes := ws.flatMap (octets 16)

/-- A JSON string without escapes. -/
def str (s : String) : Bytes := [34] ++ asBytes s ++ [34]

/-- A JSON object, given the texts of its members. -/
def obj (members : List (String × Bytes)) : Bytes :=
  [123] ++ [44].intercalate (members.map fun member => str member.1 ++ [58] ++ member.2) ++ [125]

/-- A signed document. -/
structure Signed where
  header : Bytes
  payload : Bytes
  signature : Bytes
  deriving DecidableEq

def Signed.token (s : Signed) : String := compactJws s.header s.payload s.signature

def issuer : String := "https://sts.example"

def idp : String := "https://idp.example"

def api : String := "https://api.example"

/-- The primes of the RSA key pair, one after the other. -/
def keyPair : Bytes :=
  words
    [0xed1c21c82a8c18b99406328b38a1d239, 0x58d5683f782e8ca8489d2f4af7599b61,
     0x6fd1713162b98b87575ec5ef8e0e021a, 0xb1d6c9b9aa88ed6e00030510ccdeeba0,
     0x00245de465b04928822439157fd5e6b2, 0x499c393a30f77cf6b42902c9089dce10,
     0xcee347793e4eefa520689068d8d1ce89, 0x2b437ee3ec6a038ceb3da62ed98140b1,
     0xd11e1535d404bdc957f64f69f4bfe1c9, 0xdf531334e0529a786a058329aaf72898,
     0x75c623d57baaa1f91c2bf25937ff384b, 0x97099672178e600b7d41df6101d2ac6f,
     0x04f746c75a55f365556c0124b8d6269a, 0xb0aa211da81df5aa1d5dc4e414d7a7f6,
     0xf15a52671502404a433e5ac39992b7e6, 0x0e25fefb6dfd3430e76062b8f61f4f1b]

/-- The number that octets stand for. -/
def number (bytes : Bytes) : Nat := bytes.foldl (fun n byte => n * 256 + byte.toNat) 0

/-- The public modulus of a key pair. -/
def modulus (key : Bytes) : Bytes := octets 256 (number (key.take 128) * number (key.drop 128))

/-- The public Ed25519 key of the proof, and its thumbprint. -/
def proofKey : String := "M8vabfz5C51B62KeEIVVvJEgvr9yPq1oI7jJEvW-byc"

def thumbprint : String := "PkBbeJm3WjEuEXtubfPRU7-W9ZgRiI2HG5lfIamp25Y"

def headerText (kid : String) : Bytes :=
  obj [("alg", str "RS256"), ("kid", str kid), ("typ", str "JWT")]

/-- The subject token of `alice`; it carries no scope. -/
def subject : Signed where
  header := headerText "idp-1"
  payload := obj [("iss", str idp), ("sub", str "alice"), ("aud", str issuer),
    ("exp", asBytes "105")]
  signature := words
    [0xa9f4e686a6555f5065a02cbfe13df798, 0xc9b1e90aab1cf53b4a975ff03f8c7682,
     0xb67023fbbaff67fbccf49d614cc7d7f2, 0x7475a82b57f351c93c3a34bb6115c1c5,
     0x7676fd63ac1c8161d59fbc1a61912f2e, 0x206e76312b481b9cd5e393d81e75e1fa,
     0x5d738c79769cbdeef7329a5ef2de3868, 0x685cef43f045a3d6f842b337df6bb8ae,
     0xc74df9e560535c322530fbcc4daa7fc8, 0x855be342c040ded7839775c154ea1d87,
     0xb12135d48121ad8a3c28f6fe5059969b, 0xa8de032c680b37853787980c8a228721,
     0x90cacf5cf99a49f0062cd4ac431c83c1, 0x852a52b509bf20e0ddaf30bc81028da9,
     0x74adffd3f4a9e2e1cec367710b0e457c, 0x0d620fcebbda7ed3dd9ec3a265d329c5]

def subjectClaims : SubjectTokenClaims where
  iss := idp
  sub := some "alice"
  aud := .string issuer
  scope := none
  scp := none
  exp := 105
  nbf := none
  act := none
  mayAct := none
  authTime := none
  acr := none
  amr := none

/-- The same with a scope. -/
def scopedSubject : Signed where
  header := headerText "idp-1"
  payload := obj [("iss", str idp), ("sub", str "alice"), ("aud", str issuer),
    ("exp", asBytes "105"), ("scope", str "read")]
  signature := words
    [0x3a8a46c1567fba4e1a0305bfcd5c5d5b, 0x2819d5e5d6552e0de7bf75cfde3c1c14,
     0xceca5230a47b01eba9d37261237c1acc, 0x21d4687408042b4ba8d9196acd93f8cc,
     0x0ec9dae0113dbd9b7367b0eefaa08581, 0xb4407b75bd73384769df87607aacda4e,
     0xd96ffcae76955dcf74c4695fea5a1a25, 0xea1e7053944b3967132d8e7fe1a4fa80,
     0x015632f94293e4ac01dd5d849de1a078, 0x42dbcc85f0109779a9801eb80e41c30b,
     0x131fbbb3ffcb197b89da35a58b87f6ca, 0x3f33b8e352a07d7c663585234dafa398,
     0x38ff39b7db8a0482bf56e45dafd07ffd, 0x7684183f04a0d381cc009191c505109a,
     0x580c2e043f1433a2c6e733bca7c9bdf0, 0x078509ba6a96c770557f0345da5cece3]

def scopedSubjectClaims : SubjectTokenClaims := { subjectClaims with scope := some "read" }

/-- One from an identity provider whose issuer ends with a slash. -/
def slashSubject : Signed where
  header := headerText "idp-1"
  payload := obj [("iss", str (idp ++ "/")), ("sub", str "alice"), ("aud", str issuer),
    ("exp", asBytes "105")]
  signature := words
    [0x8fb9ebf6808f8ba5f9852f086c6f1b61, 0x45cd36f5ad7dffaa45d66cb5ca08b7c8,
     0xf90ad2ff8676dd7c7aec1c66816f7da4, 0xbc2ef49cb67b8dc235a01174b46b9f9d,
     0x21095dbc6682a513cf1940f3386754b7, 0xeef856bb51810493ff00238568eafa03,
     0x6336903ad65e25cd570e46213ed147e8, 0xb915def5ad6d87228c07e259c7802b39,
     0xb50daffa9d5957c1e5066618c5e6acea, 0x807b6721769eba9552a5a55978b7a048,
     0x1930143695aec19ddc58e99869f705e9, 0xcbaef133b37ffa3c9820736179191404,
     0x640c8c1c6e1fa46a98f1334eabb78d2c, 0x859b7401fb24c5737070958e56798ac1,
     0xa38c7f7126da7cda55d9ae85f7239ac1, 0x6d8d2bcb795199cee9e84938b829db2f]

/-- An assertion of an actor or a client about itself. -/
def assertion (party exp jti : String) (signature : List Nat) : Signed where
  header := headerText (party ++ "-1")
  payload := obj [("iss", str party), ("sub", str party), ("aud", str issuer), ("exp", asBytes exp),
    ("iat", asBytes "40"), ("jti", str jti)]
  signature := words signature

def assertionClaims (party : String) (exp : Int64) (jti : String) : AssertionClaims where
  iss := party
  sub := party
  aud := .string issuer
  exp := exp
  iat := some 40
  jti := some jti
  subTokHash := none

def actor1 : Signed :=
  assertion "agent" "200" "a1"
    [0x9c1a261aed1b9f777916c765ed521762, 0x2adb441e29ff573d9d5a62ca7269d2e9,
     0x96deba398e80acb674b7af8ab1c7f798, 0x8e9714538106c3bb095c2126f6c3664d,
     0x648e49313c9f91436110776436d023ab, 0xc6c53781f34dd1f713abb9f872f756fa,
     0x98dd6451aaaf810fd88e92fe7999e321, 0x4299f0446e166e45bf6690f96dd38c78,
     0xe7700f2130e26ae1c57004552d30fd35, 0xa09cb9cb4f671b49fd56caab5c8e9716,
     0xa36eb17d65e54f5928b2b68717fba7be, 0xb646aa9b1d21c4843d2f590e87c4ba57,
     0x9804385065a99b91d53eea35d4489177, 0x73705ccc1c1249e1ed5094360c031472,
     0xae88194aedd261241d248d0f46c80216, 0xd466ad9a554594dfff3767ca3eed9336]

def actor2 : Signed :=
  assertion "agent" "200" "a2"
    [0xae1c02d2d1027720bfc28830a56898d0, 0xa93005acc56e7ab02bc95cb1d7d0852c,
     0xd84e31a0fa276e2d18f6792282c0d837, 0xb98315568bc6fae4399cc68ad565a94d,
     0x57df70f9f9f8cd07fc579ccee5149d82, 0xb40e65a31bdf8e62cba58c6ca9a60dd6,
     0x25afe44ea352c8dc614f7c2309f1641a, 0x89a0d1daf4cc5a8333ac8cae8bd11adc,
     0x297e5c7f6ddca5023765dfb1c170d9d4, 0x0585d089a4d4e168619008d63729e877,
     0x5e9dc670b174a894248c2bc90f3baafa, 0x657e1ea289d079977dd27b3466d8acfe,
     0x9b86f6add944090de50e085cf8b61d9c, 0xe65691129960291f2ce8d33c19b308a0,
     0x8e60a99a998b6b62cbb31a31b215e998, 0xadf04234200621b007b332ef20e3c12f]

def client1 : Signed :=
  assertion "app" "100" "c1"
    [0x01ac062d241ea71cb55ec6d0baafb2ea, 0xa8a08bb5a9e614ce068e1cbd90f74d3d,
     0x382811416bfe072806af207c9921a205, 0x6cca12a18fb366a2c0f67d377adb6a6b,
     0x24271a6d330131bf6335137a65d6294a, 0x1ca8794fa034688265005c8bf9a492b1,
     0xd94ae3ecfe50dbc98da800cd04fd7f7e, 0x721fbb2583d8199d5038fc30b1a634cc,
     0xd6400358cc20ff53bf2f38b3e7e57528, 0xeac349e81859bb56c5fe3135d5ea2f19,
     0x2bfcb55a2e51808103d9f3587e4b30cd, 0xd5f123a748d2a18e38724862eedc2abc,
     0xdf74a205bb18b6c2bd4d8f24526b0bf3, 0x4016d751b7655f9a445609779b7d5d7a,
     0xaa22bfe743f288f97726c58408f5b438, 0xbc824e781d10dcc4ecd7e5a750a65aa6]

def client2 : Signed :=
  assertion "app" "105" "c2"
    [0x61f47ceccfcc80a0a2d3f3206e9ebdbf, 0xc4d6e9454bcbd799b363f4bd2ddc64ab,
     0xb5d6a4024667e0fa6317684036a32d4e, 0xfcb4659e182a265d9fedde3dea5b307d,
     0x7390f36c0b06b8a1aaffdbc58dfa7d1c, 0xc6372f050fc70fa45a9689064ef08a74,
     0xb0a57b4b2975c20fdced37ba221e5a8e, 0xa9fe7db893d519dafc47b8293478e66d,
     0x3c62a47fb337a65450f5d7c1ad8c1262, 0x7f83c985cee32b304da1e54c61fb0530,
     0x024757d869783c038e668975c52488ca, 0x86188020a824e1680dea6c65e7dd87a5,
     0x384ff1ce3a94ed952fc0a01d3e1b8846, 0x1f3b6391cc04728c361eac1cf821d030,
     0x623fd2f202468a3895666cf04c1b9998, 0x75a161b551e0d64dd6f1b4adb249fa17]

/-- A proof of possession for the token endpoint. -/
def proof : Signed where
  header := obj [("typ", str "dpop+jwt"), ("alg", str "EdDSA"),
    ("jwk", obj [("kty", str "OKP"), ("crv", str "Ed25519"), ("x", str proofKey)])]
  payload := obj [("jti", str "p1"), ("htm", str "POST"),
    ("htu", str "https://sts.example/token"), ("iat", asBytes "70")]
  signature := words
    [0xa673453466b0c179c9259f2bb82c0ebb, 0xe001d0f7e91e4f0228bb181590dda08f,
     0x76026e7c93ac61da6d9806b2e0e805bc, 0xbfe9ff2c0749f69125aed18b1b53ba07]

def proofHeader : Json :=
  .object [("typ", .string "dpop+jwt"), ("alg", .string "EdDSA"),
    ("jwk", .object [("kty", .string "OKP"), ("crv", .string "Ed25519"), ("x", .string proofKey)])]

def proofClaims : VerifiedDpopClaims where
  jti := some (.string "p1")
  htm := some (.string "POST")
  htu := some (.string "https://sts.example/token")
  iat := some (.number (.posInt 70))

def binding : DpopBinding := ⟨thumbprint, "p1", 70, 100⟩

/-- The claims of a token for `alice` at `api`. -/
def mintedClaims (iat exp : Int64) (clientId : String) (act : Option ActClaim)
    (cnfJkt : Option String) : MintedClaims where
  iss := issuer
  sub := "alice"
  aud := api
  scope := "read"
  iat := iat
  exp := exp
  jti := "t1"
  clientId := clientId
  act := act
  cnfJkt := cnfJkt
  authTime := none
  acr := none
  amr := []

def mintedHeader : Bytes := obj [("typ", str "at+jwt"), ("alg", str "RS256"), ("kid", str "sts-1")]

def minted (iat exp clientId : String) (more : List (String × Bytes)) (signature : List Nat) :
    Signed where
  header := mintedHeader
  payload := obj ([("iss", str issuer), ("sub", str "alice"), ("aud", str api),
    ("scope", str "read"), ("iat", asBytes iat), ("exp", asBytes exp), ("jti", str "t1"),
    ("client_id", str clientId)] ++ more)
  signature := words signature

/-- The members of a delegated token, and of one that is bound to the proof too. -/
def actMember : List (String × Bytes) := [("act", obj [("sub", str "agent")])]

def cnfMember : List (String × Bytes) := [("cnf", obj [("jkt", str thumbprint)])]

/-- A token minted by delegation. -/
def mintedDelegation : Signed :=
  minted "50" "105" "agent" actMember
    [0x274b07f7fba368de6582d4f26e1274c8, 0x3825623f33ef7f025b86c2faf7bd3075,
     0x1e771607007bd62af4f6ece5d89da42c, 0x2803c681b97d969d2d34b1092c43563d,
     0x32b772d9df753b9d86e8ad1f7e516497, 0x00c01fde111b33d8daa907b2a575e6dc,
     0x43024f2e650ea0cb524c1d8d02ba5d4b, 0xb5c4d2444541f7bb7d1b523d3c2bb16d,
     0x11f3cba9d8a9e74ef521d84cba1d233a, 0x6bb4273c096f899a8da191d2aa54c7b3,
     0xed765952c117be441f30da279999edd1, 0xd19cf592eb60de16643ef1af0a891b8d,
     0x5f833411ac54015363d8a189c406dda5, 0x7be714056af8033f7b61d17e10212e13,
     0xfa1b264f4b453d5e4d90470fd2427f2d, 0x3b3f30701b276f6d9773b17dc653c949]

/-- A token minted by impersonation. -/
def mintedImpersonation : Signed :=
  minted "50" "100" "app" []
    [0x9376f3709786ef28ae29edfa187247c4, 0xccfcca36da54ae8ca35675a053d0603a,
     0xfd12d815afe340ccf6eb882eb3dd7f1e, 0xb064b8c371533a07e745efb932938ac9,
     0xa48512d2ecc2f40b2e9c0d1ca912474e, 0x852ccc8066f38bab301600eeb53f29b0,
     0xd4d36f74d78bf9bf05277950ac9fe933, 0x1ca6561e2d5a3fdd328f9af44503d5a8,
     0x20cd37f6bbb067a0c2dbe487670b725b, 0x0719fcec4c39da62aede11957b20c1af,
     0x4d7700d7fab1924a5106b459aaedb196, 0xeea896dccc45aba971f6aa0a11f102a9,
     0x00ad6b975c444a6849a55c58721755e0, 0xd5acb7d6cf28763365b55e9d2f35eb3b,
     0x08078b24f73b80ba12e16fd86175f2d0, 0x983be70d4c331b77b7ff042a7e562e56]

/-- A token minted within the leeway, after its subject token ran out. -/
def mintedLate : Signed :=
  minted "110" "105" "agent" actMember
    [0x2f79aea0504e548fb5b583cec8b3d0ac, 0x8fdd456737679d6b2e8c1be3df99e977,
     0x86f6caefae358d4d4509cf7da9b7ba9d, 0xdfde943ab5d5d2bf89e39e79e477b624,
     0xbed7384b446e2c142cc97da3fb160b87, 0xa3ea3f7b3903ede37adf21c76e8b4e06,
     0x9c83232074fcfd843abbcc05924c2e79, 0x08cd7b8244c364a67cc88157c0aa4c6e,
     0x741ec50930b234132af6e2bb9961f804, 0x04a84e4be1aeab0427401ccd19c7cd59,
     0x7b12dd9f85790318fee7102fd979e9fa, 0x736b9620ffcca4054ad1642ffe9ed2b5,
     0xb7aa0e88de5341a1da155991682cbcca, 0x577dd8c2ed02a531534cbb8b6d1ecf5c,
     0xea0ba14182f5d0685a88ecf153798b3e, 0x9495229afc259330589b5bdabdefed85]

/-- Two tokens bound to the proof. -/
def mintedProof100 : Signed :=
  minted "100" "105" "agent" (actMember ++ cnfMember)
    [0x06ad0dd0bdeba61d311833ef1da12884, 0xfe230b597e546ef395588379414f4d6a,
     0x384e217b186e645b97b43bce08e6e7ae, 0xdb503200c485529a47ced9d80a094f9c,
     0xdbaf3a7f86df5052d6099f918c5714b0, 0x93da99b1d52890e8f8de629be3a0e3f8,
     0xcf82874ca9ca93d8c544dd774b24104f, 0x480249788a0df149e420a63886b0f798,
     0xa7d9b2d199340ed96c31eb51cdde5b3a, 0x4dac7a27caf5befbdcf2b566edf1d030,
     0x32ff5ccb755972b0007fa3d156a8c0d2, 0x1b87d96d3f219d885825763b4c1c3791,
     0xc42d781978a616a124f8e94dd079a8ad, 0x3b89be5676ef5951ec0830b7b41731ef,
     0x1776b262a0fdf8897322bdbbb3511992, 0x9be1072c3329202a7aa3cd0c79da60de]

def mintedProof101 : Signed :=
  minted "101" "105" "agent" (actMember ++ cnfMember)
    [0x36353a84a992398a25541450c067e781, 0x3a513240747135be71cab0637e70669a,
     0xe5e638a4eb663b4a8b55023f4d17b079, 0x39a1bd5afaa3be959e9feda8d35e1d0a,
     0x485cfb1affb2796a0ec2422e434a5551, 0x8239f9497d5a3ee49d0ef371b640cd27,
     0xc8154e79a27c206215467d5b6b4e6b49, 0x902717bcc070d1e34178206117decbc5,
     0xfac9eb8289d30a2767c8b07534ca3ec7, 0xef834b8182828cab6228bf52d3df2693,
     0xce1f280eb25b8fe25441307a9bf489be, 0x107a2cac15a9bc67f67df5417838668f,
     0x438438c46fabc5441a9f5295a63badd2, 0x8ec67c94f1d391ebf0586da38714a3b6,
     0x591c56e339b3c3a2880bd2a5b165151a, 0x52d59fe6a32df051b390257bc49ab316]

/-- The claims of `mintedDelegation` and of `mintedImpersonation`. -/
abbrev delegatedClaims : MintedClaims :=
  mintedClaims 50 105 "agent" (some (.mk "agent" none none)) none

abbrev impersonatedClaims : MintedClaims := mintedClaims 50 100 "app" none none

/-! ### Files and variables -/

/-- The RSA key under some id. -/
def jwk (kid : String) : PublicJwk where
  kty := "RSA"
  kid := kid
  use := "sig"
  alg := "RS256"
  n := some (Base64.encode (modulus keyPair))
  e := some (Base64.encode [1, 0, 1])
  pub := none

/-- A key set with that key. -/
def jwksBefore : String := "\x7b\"keys\":[\x7b\"kty\":\"RSA\",\"kid\":\""

def jwksAfter : String :=
  "\",\"use\":\"sig\",\"alg\":\"RS256\",\"n\":\"" ++ Base64.encode (modulus keyPair) ++
    "\",\"e\":\"AQAB\"\x7d]\x7d"

def jwksText (kid : String) : String := jwksBefore ++ (kid ++ jwksAfter)

def targetText : String :=
  "\x7b\"https://api.example\":\x7b\"allowed_scopes\":[\"read\",\"write\"]," ++
    "\"default_scopes\":[\"read\"]\x7d\x7d"

def targetValue : Json :=
  .object [(api, .object [("allowed_scopes", .array [.string "read", .string "write"]),
    ("default_scopes", .array [.string "read"])])]

def impersonationText : String :=
  "\x7b\"app\":\x7b\"targets\":\"*\",\"subjects\":\"*\"\x7d\x7d"

def impersonationValue : Json :=
  .object [("app", .object [("targets", .string "*"), ("subjects", .string "*")])]

/-! ### The crates, on these documents -/

def assertions : List (Signed × AssertionClaims) :=
  [(actor1, assertionClaims "agent" 200 "a1"), (actor2, assertionClaims "agent" 200 "a2"),
    (client1, assertionClaims "app" 100 "c1"), (client2, assertionClaims "app" 105 "c2")]

def mintedTokens : List (Signed × MintedClaims) :=
  [(mintedDelegation, delegatedClaims), (mintedImpersonation, impersonatedClaims),
    (mintedLate, mintedClaims 110 105 "agent" (some (.mk "agent" none none)) none),
    (mintedProof100, mintedClaims 100 105 "agent" (some (.mk "agent" none none)) (some thumbprint)),
    (mintedProof101, mintedClaims 101 105 "agent" (some (.mk "agent" none none)) (some thumbprint))]

/-- The subject tokens that are exchanged. -/
def exchanged : List (Signed × SubjectTokenClaims) :=
  [(subject, subjectClaims), (scopedSubject, scopedSubjectClaims)]

def subjects : List (Signed × SubjectTokenClaims) :=
  exchanged ++ [(slashSubject, { subjectClaims with iss := idp ++ "/" })]

/-- Everything signed with the RSA key. -/
def signed : List Signed :=
  subject :: (assertions.map Prod.fst ++
    (mintedTokens.map Prod.fst ++ [slashSubject, scopedSubject]))

/-- Are both absent, or the same actor without a past? -/
def sameAct : Option ActClaim → Option ActClaim → Bool
  | none, none => true
  | some (.mk sub none none), some (.mk sub' none none) => sub == sub'
  | _, _ => false

def sameClaims (c c' : MintedClaims) : Bool :=
  c.iss == c'.iss && c.sub == c'.sub && c.aud == c'.aud && c.scope == c'.scope && c.iat == c'.iat &&
    c.exp == c'.exp && c.jti == c'.jti && c.clientId == c'.clientId && sameAct c.act c'.act &&
    c.cnfJkt == c'.cnfJkt && c.authTime == c'.authTime && c.acr == c'.acr && c.amr == c'.amr

/-- Exchange two values. -/
def swap (a b x : Bytes) : Bytes := if x = a then b else if x = b then a else x

/-- What is hashed for the proof's replay key, and its digest. -/
def proofKeyInput : Bytes := asBytes thumbprint ++ [0] ++ asBytes "p1"

def proofKeyDigest : Bytes :=
  [56, 35, 138, 105, 174, 158, 32, 75, 170, 209, 189, 131, 107, 173, 143, 165, 135, 64, 86, 2,
   226, 219, 69, 165, 176, 6, 12, 156, 63, 83, 25, 50]

/-- What is hashed to revoke `mintedDelegation`, and its digest. -/
def revocationInput : Bytes := asBytes "sts-revocation-v1" ++ [0] ++ asBytes mintedDelegation.token

def revocationDigest : Bytes :=
  [174, 243, 56, 211, 98, 229, 71, 228, 162, 165, 156, 70, 105, 39, 131, 2, 40, 124, 136, 43, 83,
   38, 63, 139, 100, 112, 217, 248, 114, 248, 126, 87]

/-- The digest of the actors' key set. -/
def actorsInput : Bytes := asBytes (jwksText "agent-1")

def actorsDigest : Bytes :=
  [19, 128, 73, 129, 36, 151, 203, 210, 212, 98, 161, 59, 220, 149, 233, 155, 196, 34, 126, 61, 3,
   120, 62, 59, 0, 209, 200, 195, 123, 34, 43, 216]

/-- The octets of an ASCII text, and the text of ASCII octets. -/
def ascii (s : String) : Bytes := s.toList.map fun c => UInt8.ofNat c.toNat

def unascii (bytes : Bytes) : String := String.ofList (bytes.map fun b => Char.ofNat b.toNat)

/-- One pair of a form. -/
def splitPair (piece : Bytes) : String × String :=
  match piece.splitOn 61 with
  | name :: rest => (unascii name, unascii ([61].intercalate rest))
  | [] => ("", "")

def formUrlencodedParse (body : Bytes) : List (String × String) :=
  ((body.splitOn 38).filter fun piece => !piece.isEmpty).map splitPair

def url (hostStr path : String) : Url where
  scheme := "https"
  hostStr := some hostStr
  host := some (.domain hostStr)
  port := none
  path := path
  query := none
  fragment := none

/-- The document a compact token stands for. -/
def readCompact (token : String) : Option Signed :=
  match parseCompactJws token with
  | .ok (header, payload, signature) => do
      let header ← Base64.decode header
      let payload ← Base64.decode payload
      let signature ← Base64.decode signature
      some ⟨header, payload, signature⟩
  | .error _ => none

def rs256Decode (token n e : String) : Except JwtError Bytes :=
  match readCompact token with
  | none => .error ⟨.invalidToken, "InvalidToken"⟩
  | some s =>
      if s ∈ signed ∧ Base64.decode n = some (modulus keyPair) ∧ e = "AQAB" then .ok s.payload
      else .error ⟨.invalidSignature, "InvalidSignature"⟩

/-- The error of a parser on anything else. -/
def refused : String := "expected value at line 1 column 1"

def headerFromSlice (bytes : Bytes) : Except String CompactJwsHeader :=
  if bytes = mintedHeader then .ok ⟨"RS256", some "sts-1", some "at+jwt"⟩
  else
    match ["idp-1", "agent-1", "app-1"].find? fun kid => headerText kid == bytes with
    | some kid => .ok ⟨"RS256", some kid, some "JWT"⟩
    | none => .error refused

/-- Read a payload by looking it up in a table. -/
def fromSlice {T : Type} (table : List (Signed × T)) (bytes : Bytes) : Except String T :=
  match table.find? fun entry => entry.1.payload == bytes with
  | some entry => .ok entry.2
  | none => .error refused

def rs256Encode (header : ProtectedHeader) (claims : MintedClaims) (key : Bytes) :
    Except JwtError String :=
  match mintedTokens.find? fun m => sameClaims m.2 claims with
  | some m =>
      if header.alg = "RS256" ∧ header.kid = "sts-1" ∧ header.typ = "at+jwt" ∧ key = keyPair then
        .ok m.1.token
      else .error ⟨.invalidRsaKey, "InvalidRsaKey"⟩
  | none => .error ⟨.invalidRsaKey, "InvalidRsaKey"⟩

def readDocument (bytes : Bytes) : Except String Json :=
  if bytes = proof.header then .ok proofHeader
  else if bytes = asBytes targetText then .ok targetValue
  else if bytes = asBytes impersonationText then .ok impersonationValue
  else
    match ["idp-1", "agent-1", "app-1"].find? fun kid => asBytes (jwksText kid) == bytes with
    | some kid => .ok (JwksDocument.toValue ⟨[jwk kid]⟩)
    | none => .error refused

/-- Read a JSON text, with or without blanks before it. -/
def valueFromSlice (bytes : Bytes) : Except String Json :=
  readDocument (bytes.dropWhile (· == 32))

theorem valueFromSlice_of_take {bytes rest : Bytes} {b : UInt8} {n : Nat}
    (h : bytes.take n = b :: rest) (hb : b ≠ 32) : valueFromSlice bytes = readDocument bytes := by
  cases bytes with
  | nil => rfl
  | cons first others =>
      cases n with
      | zero => cases h
      | succ n =>
          rw [List.take_succ_cons] at h
          cases h
          rw [valueFromSlice, List.dropWhile_cons_of_neg (by simpa using hb)]

scoped instance crates : Crates where
  sha256 x := swap proofKeyInput proofKeyDigest
    (swap revocationInput revocationDigest (swap actorsInput actorsDigest x))
  unicodeEscaped _ := false
  base64DecodeError _ := "Invalid symbol"
  formUrlencodedParse := formUrlencodedParse
  urlParse value :=
    if value = issuer then .ok (url "sts.example" "/")
    else if value = idp then .ok (url "idp.example" "/")
    else if value = "https://sts.example/token" then .ok (url "sts.example" "/token")
    else .error "relative URL without a base"
  headerFromSlice := headerFromSlice
  subjectFromSlice := fromSlice subjects
  assertionFromSlice := fromSlice assertions
  mintedFromSlice := fromSlice mintedTokens
  dpopFromSlice := fromSlice [(proof, proofClaims)]
  valueFromSlice := valueFromSlice
  headerToVec _ := .error refused
  mintedToVec _ := .error refused
  rsaComponentsError _ _ := none
  rs256Decode := rs256Decode
  rs256Encode header claims key _ := rs256Encode header claims key
  rsaPublicComponents key := (modulus key, [1, 0, 1])
  mlDsaPublicKeyError _ _ := some "unsupported"
  mlDsaVerifierError _ _ := some "unsupported"
  mlDsaVerifyOneshot _ _ _ _ := .error "unsupported"
  mlDsaRawPublicKey _ _ := .error "unsupported"
  mlDsaSignerError _ _ := some "unsupported"
  mlDsaSignOneshot _ _ _ _ := .error "unsupported"
  jwkFromValue value := some ⟨.octetKeyPair, value⟩
  jwkDecodable _ := true
  dpopDecode _ _ token := if token = proof.token then some proof.payload else none
  jwkThumbprint _ := thumbprint

/-! ### The deployment -/

def signer : JoseSigner := .rsa ⟨"sts-1", keyPair⟩

/-- The target policy: `api` grants `read` and `write`, and `read` by default. -/
def targetPolicy : TargetPolicy where
  targets := AList.insert api
    { allowedScopes := .ofList ["read", "write"]
      defaultScopes := .ofList ["read"]
      acceptedTokenSigningAlgs := .empty
      pqcRequired := false } ∅

theorem swap_injective (a b : Bytes) : Function.Injective (swap a b) := by
  have hself : ∀ x, swap a b (swap a b x) = x := by
    intro x
    unfold swap
    grind
  exact Function.LeftInverse.injective hself

/-- The digests of the sample are those of different inputs. -/
theorem sha256_injective : Function.Injective Crates.sha256 :=
  (swap_injective proofKeyInput proofKeyDigest).comp
    ((swap_injective revocationInput revocationDigest).comp
      (swap_injective actorsInput actorsDigest))

theorem singleton_nonblank {name : String} (h : isBlank name = false) :
    ∀ id ∈ OrdSet.ofList [name], isBlank id = false := by
  intro id hid
  rw [OrdSet.mem_ofList, List.mem_singleton] at hid
  rw [hid, h]

/-- In what else the sample servers differ. -/
structure Knobs where
  allowNonPqc : Bool := true
  maxTokenLen : Nat := 8192
  maxTokenLen_large : 600 ≤ maxTokenLen := by decide

abbrev Knobs.standard : Knobs := {}

def config (mode : TokenExchangeMode) (maxSeen : Nat) (maxSeen_pos : 1 ≤ maxSeen)
    (knobs : Knobs := .standard) : RuntimeConfig where
  idpIssuer := idp
  expectedSubjectAud := .ofList [issuer]
  ourIssuer := issuer
  actorIds := .ofList ["agent"]
  clientIds := .ofList ["app"]
  tokenExchangeMode := mode
  clientAuthPolicy := .auto
  impersonationPolicy := ⟨AList.insert "app" ⟨.any, .any⟩ ∅⟩
  targetPolicy := targetPolicy
  pqcPreferred := false
  allowNonPqc := knobs.allowNonPqc
  pqcPreferredAlgs := ["ML-DSA-65", "ML-DSA-87", "ML-DSA-44"]
  inboundAssertionAlgs := ["RS256"]
  clockSkewLeeway := 30
  scopedTokenTtl := 300
  assertionMaxTtl := 300
  maxSeenJti := maxSeen
  maxTokenLen := knobs.maxTokenLen
  requireSubjectBinding := false
  subjectScopeBoundRequired := true
  clockSkewLeeway_nonneg := by decide
  scopedTokenTtl_pos := by decide
  scopedTokenTtl_le := by decide
  assertionMaxTtl_pos := by decide
  maxSeenJti_pos := maxSeen_pos
  maxTokenLen_pos := Nat.le_trans (by decide) knobs.maxTokenLen_large
  actorIds_nonblank := singleton_nonblank (by decide)
  clientIds_nonblank := singleton_nonblank (by decide)

def state (mode : TokenExchangeMode) (maxSeen : Nat) (maxSeen_pos : 1 ≤ maxSeen)
    (knobs : Knobs := .standard) : HttpState where
  config := config mode maxSeen maxSeen_pos knobs
  signer := signer
  publishedJwks := publishedJwks signer none
  subjectJwks := ⟨[jwk "idp-1"]⟩
  actorJwks := ⟨[jwk "agent-1"]⟩
  clientJwks := ⟨[jwk "app-1"]⟩

/-! ### Requests -/

def formHeaders : HeaderMap := [("content-type", asBytes "application/x-www-form-urlencoded")]

/-- The header fields of a request that carries the proof. -/
def proofHeaders : HeaderMap := ("dpop", ascii proof.token) :: formHeaders

/-- The body of a form, given its pairs. -/
def form (pairs : List (String × String)) : Bytes :=
  [38].intercalate (pairs.map fun pair => ascii pair.1 ++ 61 :: ascii pair.2)

/-- An exchange of a subject token for one at `api`. -/
def exchangePairs (token : Signed := subject) : List (String × String) :=
  [("grant_type", TOKEN_EXCHANGE_GRANT_TYPE), ("subject_token", token.token),
    ("subject_token_type", JWT_TOKEN_TYPE), ("audience", api)]

def actorPairs (actor : Signed) : List (String × String) :=
  [("actor_token", actor.token), ("actor_token_type", JWT_TOKEN_TYPE)]

def clientPairs (client : Signed) : List (String × String) :=
  [("client_assertion_type", CLIENT_ASSERTION_TYPE), ("client_assertion", client.token)]

def onlinePairs (token : String) (client : Signed) : List (String × String) :=
  ("token", token) :: clientPairs client

/-- A moment, with the id of the next token. -/
def tick (now : Int64) (now_nonneg : 0 ≤ now) : Tick := ⟨now, "t1", [], now_nonneg⟩

end Sample

end StsDelegate
