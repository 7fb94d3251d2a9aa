import StsDelegate.KeyFiles
import StsDelegate.Sample.Documents

/-!
# Sample keys

Key files for the rotations: two RSA keys of 2048 bits and the ML-DSA-44 keys of three
seeds, with the crates as tables of what they give for these keys. A key pair of ML-DSA
is represented by its seed.
-/

namespace StsDelegate

namespace KeySample

open Text Fallible
open Sample (octets words number keyPair Signed str obj mintedDelegation delegatedClaims)

/-! ### RSA keys -/

/-- The components of the RSA key with these primes and this private exponent. -/
def rsaComponents (p q d qi : Nat) : RsaComponents where
  n := octets 256 (p * q)
  e := [1, 0, 1]
  d := octets 256 d
  p := octets 128 p
  q := octets 128 q
  dp := octets 128 (d % (p - 1))
  dq := octets 128 (d % (q - 1))
  qi := octets 128 qi

/-- The first RSA key has the primes of the sample deployment. -/
def rsa0 : RsaComponents :=
  rsaComponents (number (keyPair.take 128)) (number (keyPair.drop 128))
    (number (words
      [0x1710b5d9cb48c1cb6dd4220b91eb5dcf, 0xa7ef0237d57c11b122716476919c6706,
       0x99ffb1d1942f0d7decf7559253e5cf16, 0x5263074ce586011784b4c57f8cf11b58,
       0xae15f3a808d112a661012ce7f7c42eb3, 0xbed277e31af3e9d1c5675270d1160b3e,
       0x48455b9304a2bf3a48c9131b323b2bf8, 0xac5e3c57ff7ae82901883ef4606da750,
       0xebfba9d6d27bf07f432cfe9a712e5ae9, 0xf1b920fc0cf5a7d36a1a2acc69152755,
       0xec4fa60f1007fb068d44dd0fa7320e25, 0xd9e1c44f0d3167f05ab45773acbc06db,
       0x1b7e233e786d2e9606b00cf6cd220779, 0x0294209d7dbde7cb4d305ca81d0bfc6e,
       0x6c1d8c86952ac9bbc2364ba3794959c3, 0x1ba6d2016f400163025fd4ca62901971]))
    (number (words
      [0xdcab6d632e4a6de99f1920d187ee1d26, 0x68ea7dfcb41482d01f35f2c2d32bc8df,
       0x4620045ae6a2e3ff215a40666b901800, 0x031649a950da7b91bc4a1930ee923e38,
       0x9a0acf6b8925eda2abf45a463dcc20d8, 0xc9d16db7da25dc906663f84a08991018,
       0x2f046bdff07a04f185c17d5fb1196ed2, 0x841afe6cf77e8119582fd409cd3c4a61]))

def rsa1 : RsaComponents :=
  rsaComponents
    (number (words
      [0xe67acb02a9f16f238772f161f8d42f3a, 0x3856edc54a205b1f9751dcf1d15c911e,
       0x1a3057fda5755adae08630cb5a8d3997, 0x2cfd80ad390d916062c800dd1ecb5d32,
       0x32f4012ccf0de39c5fa299621b611584, 0x4eeaa8a0c2c745310a5c7c9cd21bd7ef,
       0x0dcc01911653a9bc997e721619d393f4, 0x49768923411067eed3bf34a034ad9d5b]))
    (number (words
      [0xcabd82d503685679003e6c3af35dbf6b, 0xaa3373841bba81edfab2002aab56fdaa,
       0x25f32260819ad90a2795b1a42f68e181, 0xe313ac3a31c181d8e445db5837150ac9,
       0xb00984ac6235720e5d72638dc6d6a55d, 0x356d87604c5515765563b216342fc005,
       0x01b484d838779e5d586b91e8137f3a4e, 0xac5818e08bd11eb852e171334df11755]))
    (number (words
      [0x11b7f3809232c66861e713e6826033d4, 0x72b837da2f6eb9e76ccf49fc705edf80,
       0xafbc2739f0d76148bc401284bdbdd0c4, 0x1e869655e09b18b7a4a75c93a0923b9d,
       0xcb4fb7ee347f980a24d3a4a23042bfd0, 0xdf4c13b9b0b7136a2ea9be2030692bbe,
       0x9daabc2e68a990f1ae0b042675b29bd2, 0x48e07a113cc382bd4a6012c4b6b36a8c,
       0x9f17649951a3aea161ad9d3585bea57a, 0xa40cfe7a7a3d2f976e10743b8d2fa130,
       0x8439b2b4d4ce57faaef2201fe908aa69, 0x7c3cd0221e3c2a7f2b4342c73f8d228f,
       0x0313e3cdff8e0b35da9b1d9191d724df, 0x40b79e1d73da3b68d41de9952c327aeb,
       0xe199de645f098dd2f36b3e2b9a53e137, 0x16a6e86aedc66c3ab1d9894deed095e5]))
    (number (words
      [0x055138d75459fd0e5bdbdfc9ddb61870, 0xe6839190690290f791cbc4fdc456f665,
       0x2b37ebd28ca0da01e9e052e9f8187a84, 0x0edbccf2bf65b2d5569433bf506b28f7,
       0xe5927d3d1c673e53611f70a35f607bc8, 0x2c0e11b69fc9ada10e31a15c0a4717af,
       0x6d08a8d2bbf5850940290d2411be6f5c, 0x1913eebcd45978857037215f21239951]))

/-- A DER length. -/
def derLength (n : Nat) : Bytes :=
  if n < 128 then [UInt8.ofNat n] else [0x82, UInt8.ofNat (n / 256), UInt8.ofNat n]

/-- A positive DER integer. -/
def derInteger (bytes : Bytes) : Bytes :=
  let content := if bytes.head?.any (128 ≤ ·) then 0 :: bytes else bytes
  0x02 :: derLength content.length ++ content

/-- The PKCS#1 form of a private key. -/
def pkcs1 (key : RsaComponents) : Bytes :=
  let body := ([0] :: key.list).flatMap derInteger
  0x30 :: derLength body.length ++ body

/-! ### ML-DSA keys -/

def seed (n : UInt8) : Bytes := List.replicate 32 n

def public0 : Bytes :=
  words
    [0xba71f9f64e11baeb58fa9c6fbb6e14e6, 0x1f18643dab495b47539a9166ca019813,
     0x1c44f826bbd56e34e55db5e5e2d73348, 0x5e39ea260fc6000c5ea4ba80d3455cde,
     0x53b46f34482aedfd5450fc2e1ba4f25d, 0x15f9c144242fb39bb52287189030c504,
     0x98e1717b7c758b190a6748ea9aa3f7ac, 0xaaf2c7cb526ed717c9f79aeb84214fa5,
     0xcd8ded92a0c3fa1558810f12c7050a36, 0x7708d196cd24e5af974904aed8e4ce88,
     0x72e8696b0b7bca50e452cd7d30ea9a4a, 0xdac0311d672c6bde8496240b07431463,
     0x708895cd9bafc31632d7397649388fda, 0xfcbf7d305a3de9a495eca7433a8f83ba,
     0x0f0b25c413c6e39c96eb7d691b34d37c, 0xe37f1eead1cf217e25ef34eecf3f7c60,
     0xf84b8edfdde8405d4f832576c61ef98e, 0x0a2f28da187700953924f686b9461470,
     0x5bcf53d33fedd4348edddbdf28b5065e, 0x1f20775043e85cf931f829179363a1a7,
     0xe7404a838ec00086b0976386fe637c98, 0x244757e3f769ddd4467471bfad670f9a,
     0x05f8246ee50a7b1eaf87fc4069c3ae2a, 0xa2033258117792f0bcd49e083fd1bc74,
     0x96abff29cc94e4868b21214ed3165253, 0x99a610fbdd4a80e7c80715f29578e2a8,
     0x4bb40bdddbd9f47a11b6e7da118a1b65, 0x8d359e8aef55eb46b5376b5b65597998,
     0x4a922beebfc59bcd600d5309dccd72db, 0xf0787db8ba757b537c1eafd5c0f50ea4,
     0xbc9583549e2829a42c28cac248c96d78, 0x124c47159b18aedd754aba17b19d430f,
     0xb78f633ea9d26f54a9bd50f8d8f6b735, 0x94f828976e7ea09c53bbb9f11a56c950,
     0x7fb89b9a5ebc037a37267a95f85b8d64, 0xca97192b10a66f417b3f61fe9ca57130,
     0xa48fd925eae2ab5502d571c8a51903c1, 0xd398f4c1f76a7e11743976afdbc697f2,
     0x3094a3cd761ff9685de32e09fb3c28ad, 0xd453490300bc7c89dc01780096071722,
     0x945775f264e1b0623bcf4619c712c838, 0x761205d87691b75ef360196cbb9e9b92,
     0xa0d4c4ed62326e5024d77510b8ee2c74, 0x26cc22eae209dc9f13bde6bf08f5e718,
     0x1bd3b459450b451a51539a715c21d67d, 0xd330eb5970db00d9edbfb2822b036fa1,
     0x3bafeb86d8dc78866e3f8d43e53d78cc, 0xa5595a6faf886b5dc112f1cf4adcfa87,
     0x5800d90b48883af97316fe1506873fc1, 0x57e570eacbfd222868d14234101966af,
     0xb6bf9940829253a953ada89fc756b6a8, 0x49f70acb9838e69faa50bba75e3e89c2,
     0xadb57e86d088ab9b04a28e6707091722, 0x43ec5e0008a5ceaf3f8722f487302596,
     0xffd755ad1b82a49c34b3469515b46aa2, 0x90cd86ee38ea7a9be3f103610335b531,
     0xcca333ddfe32b14510f4b07ef95fc668, 0x4e8c454a92c10dbb5d59c7a7c63fb305,
     0xfe881967d99e669eb632840582560bb4, 0x03431d40f75a4954908482278292821f,
     0x4ea91e42e78fa48caee3c836146dcfd7, 0x38d117e92e9a15137d28e8e6a4b46226,
     0x50cb413504cb3a335d44beec5746c1c2, 0x94b1e8cb99cb608d928f8ce3563632c5,
     0x21f23d13c61a8f61c01df8c96c7360db, 0x4f3c68aa5d2fdd342a62ff3459c11638,
     0x9421ab43e8584c45882b50e6e4e96db6, 0xf0b8fde890d5dbfadcd88690b449e642,
     0x40ddb2023747f308363e301aa7775716, 0x9fc6150628d5920b5aa1ab1c8cbf44cb,
     0x00e025d7879d72b479e3af5311c78572, 0x5590da9c89b9fc3b8450769554eb44d2,
     0x03eba2bbaef9cad2237011c2ea44eff0, 0x0f299a48ffe28ca93ddf85f76608242e,
     0xf8d6cc24610a1e2078fcac4f9385c314, 0x905ecaa82e553916d94d1a7c1ec652aa,
     0x08897083daa2ebb1775fbc471ae27777, 0xd7904ea9f1b92bcac3d8a3158426087b,
     0x645b1108f0d65fec93789c053743ca14, 0xfd63d05e98b652df2b9c2ff9ce05f194,
     0x0703ffb273f80e0e2732eca9960d981b, 0x4cfd3b7bb8045b3c3830546b9dd8db0d]

def public1 : Bytes :=
  words
    [0x5ece0a3d6c14bad171412c9b72087d8d, 0xc191258d6c106bba7f2850c720187c7f,
     0xefa4279ceb692fac178c411c8d00436a, 0x27246584cd576ca1a5bcb05b595270f1,
     0x73460ea64724cb5427ac61f9e1205c1d, 0xc9c0408567d2416197b7ea7a78e969ec,
     0x2f99c73a4c6b7228eb49e362e17d5d5d, 0x5189802d1e0d4132e07b4ec9bfe6e185,
     0x56eafbbfbd4d392a5a5bb0e14ddf2f48, 0xaed881d748b28179337066a395f99079,
     0x98764da58d5acb70738b618e4682bbab, 0xd78d0102e896f2e35b9fb9c4aa257dcd,
     0xc47ef7c2d8a906b80c7e71a582813708, 0xf6d67bb63ce00ae73753b95eb1a6ebb6,
     0x69b608e65f4f99b03604a676b035ad72, 0x3e456df5885194e111f8f9a0bc601405,
     0x77058b91b851c92cf746bb0f4a8fdb13, 0x2204261f8bef290cf32366b20f8781c0,
     0xb4609348a4bf3b517526dab38e70346f, 0x6129ca6297aa4a4589d05eea7b677fb4,
     0x8aaea7ae1018c5f9636e525ed4784933, 0x0cd81058a8e255f0a4ad136d254b3b76,
     0x0e95c8bb1b9c1a1c13c37d03f2507f1f, 0x49e4f3326e19ba44713e349752aeaa18,
     0xc01e4ded1e5d87657d495f01ce00523f, 0x809f6ab5292b21ca4e4aa5f46c0da134,
     0xbccea1c82efc41287a2c06ff52ef3851, 0x13556aaa2d5821f3eaeba3855bea3836,
     0x5e60f10d14d0b641e6a2fe31f9d6d5a5, 0xe4b2bc5756668de75ca75204dc67dd10,
     0x0f13b9ef6ad97c207baf5e32b4705484, 0xea149300ae9ae6f371b0a5be8b9008a9,
     0x22d1a263cfd6307e711a308add3df443, 0x593ec123d8ed09b66d01df761c0f62a9,
     0x92ac97dd1e08bcff7b935efb5805cc03, 0xb12e10fb61c8d445e885ae022bd44c64,
     0xc2cf10faa7be7830f502e9d60d8774e5, 0xe111d1ec2e1c9c30fdb588a86f73e6f3,
     0xcfa5cebd6cf08651b907b097577c706a, 0x7d8c3a340d4be2dff27cf3e24d806b7d,
     0xe3acf6394f1d25d8b19d87334f6c4a3b, 0x946f8ad04adf02895b165f6aa2a17617,
     0x488126713ac4d96d6323e5b3445aa702, 0xaf57fe7fddcd99e0904cf92366043625,
     0x2cc85473d2b584ba24b9a7978f690dc5, 0x8550196522672fb7a5180d0f39988355,
     0xf9aa6a11e246c2c8c9ea4d36265f8fca, 0xa112f4a0a765c88ea03aa55565780f36,
     0x458054f1a143ce7447da17262864b9c6, 0x1dc4c78663c74f57e5313144c2f3ad67,
     0x7c14b9ac055002ba3b3507c25a060f53, 0x30a52f2a09950b3792fade4aea159741,
     0x3f7b81a9b8ccc94ed6bc009953894db5, 0x8743685263d61e4fcfce0b46c0af1ec3,
     0xd8338d97db297b34a9e745648b9f9def, 0x46ca96d17033659494254ea43a42c0e1,
     0xf882ccda136de05c2fc2d1ba892603a6, 0xc430d416420f6c30dcdbd3fb92f204d6,
     0x8b1879de016c861c46f61f0ded2e2836, 0x1de277ecccc3657a209ddaaaf6c58d7d,
     0x92ad063c6469e73b30f21596bf70ff09, 0xe63928587ca82d261f54aec556960999,
     0x1c652de276cb4912ee5a54e3c0a5975f, 0x93e3b783f69b2ec172e1e9dba9838ac9,
     0xf0648c6cc7a9a7a963326c15c12b5e0d, 0x8216b3b0844c67b3fed2c5f22b4ff882,
     0x141933de89ddc666dff6aeb0ccf6297b, 0x907bd84ed90bb62766f263c1e5ef4e38,
     0xbc587740e4f447d04f7d9ac374dceff9, 0xddb1f151ccde56afaaa98c9a53c73c34,
     0xdcaae37a38ac26bffdc4fc1ac1d0041b, 0xe56dadf7ae799c6b4bf50ff27f5675a3,
     0xd6cdfd23f859d00f275b483a17b5cc45, 0xac0d827708b1b374acee6bfae7988e82,
     0xb121e5bd76f78d527420880aabddfa98, 0xf4ba18e32244327b3e27b0711ec28f62,
     0x46e7ea749a5e6beacd56dee8ef7adee2, 0x0cca3f6f9e9205590ec21e330e81e357,
     0x86c63500bbaae63e49a2411ba89b85a9, 0xdfdb9d379462ddb38b7d5195ffa573b4,
     0x628fcf5a4e76a056786dac9da8d22756, 0x6c45179c5bb26ce4fd7a09fc63582a8a]

def public2 : Bytes :=
  words
    [0xc95b0e20064e7dae9788b62cfd14619b, 0xdad987a08046bab6d4c83739965cf53b,
     0x07cecd649ea956e0f0e1d9e852fb7e0e, 0x48d1ad9559c1488d2d2c3b67de7ab538,
     0x691924a937b884705453be44ed226c45, 0xdaf4e1d891a287fdcc4aa4ddb9282d15,
     0x11b427df152ce8b42bc4dcbaa253f5c1, 0x513602214ce6ada7135cd6f8de022bc1,
     0x16c2a15e4437717fa7bc84cd529e7990, 0x99a415ce88594b12e525086bcb4c26f6,
     0x01dee879cb22a9bbb8029b837d81d8cd, 0x3da5a39ccddafdc123970d539ac47263,
     0x256c81deb23b3056b4d936c753be46b8, 0x3773352bfe4c6e8a61ac993c57023905,
     0xae8ecff1433e5baf9261aaf3578b1c96, 0xc61808d4ef6334615b01176db8f4a612,
     0x30b93d393c46fe34252714fe02b352e3, 0x4584cfeb2b18ee5cc08c105c1ccde279,
     0xdda3585609285e6cb6e5f110438a5cc8, 0xa9c4787bb75ed242f42269168cf37f9e,
     0x40ac24269cd502547a748bea2e99bfc9, 0xcccc4d4c6b4c90348f6fc1029b7d3289,
     0xff389846df3540664e1981d3df93716c, 0x1467c062b30a4bf36893678277b72de0,
     0x067d156d269332e7bce9c38fdb0987da, 0xaf855123972dcb4e046de213455a7f74,
     0x29c8dad19914e8140772e1c2d4fc620e, 0x147cc073bbf130a34a6076ae15bac6ce,
     0x3503ea46c38515cf08c53a1b5ebbd168, 0x61de10eb58438a0bf123b592764c08a2,
     0x15b52d67361f83dac58fb1ccc40c26af, 0x90abf2345b7e56b1f603909757a7a9f0,
     0xdbce9a8c4e3caa525296e55870065f73, 0xe42090f8389013f4c169912314f9566f,
     0xc06d7a5e4cbbcaedeaadff3b8c661f4c, 0x07c955914f6392d97e751a8136ae856a,
     0xc7a910648acaa119d6f72c8d3c5f36a1, 0x0315e18c9c052ff5a40cff9fe37e3203,
     0x82ff4a6f818efaeddeb3a9199bb70a01, 0x734c9ae2e5ba9c85a7698597510e3c17,
     0xcda65667637989ada2ee7b192607d3c0, 0xa659cde38206f1bdd88d1ee3207e127f,
     0xd2a3fe7ce8a58600fccf299c91fa1f2f, 0xa878305c3fb885a532c80c7d8b0f2aa9,
     0xc3844196494ee25cda84e5d282caea69, 0x088175d99636250a9438bf161da6a340,
     0x9ec0a1f79caa8dae33c49f42baaaaeab, 0x684b8e66bb6de42e288110ab39c702b1,
     0xb2c87285350f07b4fd1b661ee87556f0, 0x761387c2e6ce769cab77bae238271234,
     0x4bf78dfe17626ed1eb332a600368326c, 0xeb480f1cfa83a128c519b7edb3feb5ea,
     0x500033913f958dec85560c626030c454, 0x86713922391e0b6cce852ae4ee2e78db,
     0x1104698d9b227a7a400d7108e84b974e, 0x6bf1665a4d245bbc9188ad73057a2aff,
     0x702aac7597e4db89acd8bb374154b218, 0xbcf253bf9a2f630fcd679bed56aadabb,
     0xc8ba22eb56e626c91983e3a9521ca391, 0x03b4b212e9878c0846540be468a08383,
     0x1ce48c8ee022d2ea9f1c5a9793809603, 0xd1007fda4e7c3f171ec96c5bf0d26a6c,
     0x736b7444a9650cbcc0d4ead0b3310cef, 0xfbf4fd7e925951a416835afdfd00d6b1,
     0x404d22f3ff9a3e144d1431bcaa8e9907, 0x848401df9e74e16c59ce3fea2bc86d42,
     0x15f3b4d81558cd710d4c0d68cd2f960c, 0x61e37fdf13e391ad360fe49dc0b440f1,
     0x546a17c27f1d4461ca3b5cd8fff25b81, 0x6cdc7b00ea1edb178bc4013f345e6ad1,
     0xaab3e9057c447311578939bd8f7ee0de, 0x325263b1e857ecebe08e94b0e7569dd9,
     0x20dd11a4c0217abd49ff1e03aeeccb5c, 0xe85c5d942fc236e5cc1a91800704fc01,
     0x61568c998fe93fa317fa03e665541414, 0xe761bdf889a3625446aabb3f1520230b,
     0x23b3cbce1c62e9517dcd7a7d2d8b9a81, 0xb6753012855cefe7b25e14c56faaf949,
     0x9507898245a24cc37e4cbe485b645185, 0x4af8e52fda002254ad67b59c2ed09547,
     0xec8dfa6899288fa7797e9ed4fb8fa68e, 0xe2010797e8bbb238f853e79b11974985]

/-- The public keys of the seeds. -/
def mlDsaKeys : List (Bytes × Bytes) :=
  [(seed 0, public0), (seed 1, public1), (seed 2, public2)]

/-! ### Thumbprints -/

def rsaInput (key : RsaComponents) : Bytes :=
  asBytes ("\x7b\"e\":\"" ++ Base64.encode key.e ++ "\",\"kty\":\"RSA\",\"n\":\"" ++
    Base64.encode key.n ++ "\"\x7d")

def akpInput (publicKey : Bytes) : Bytes :=
  asBytes ("\x7b\"alg\":\"" ++ "ML-DSA-44" ++ "\",\"kty\":\"AKP\",\"pub\":\"" ++
    Base64.encode publicKey ++ "\"\x7d")

def rsaDigest0 : Bytes :=
  words [0x492fed54448551fb7602bdf1818c8475, 0x61dd3bb1b01add33746274b5768495a6]

def rsaDigest1 : Bytes :=
  words [0xff04dbbd059d9c7912a28b25ffd5bb9f, 0x858019151ec659862a1e57b004276321]

def akpDigest0 : Bytes :=
  words [0x4f8c65ef44bb313e997aaeabf55f5f3c, 0x91959fbeb07e75c9db5fa0ca8d06bbaa]

def akpDigest1 : Bytes :=
  words [0xfd82f69ae7f367229445537e2087d2b0, 0xf5ab949e32b4b50143815e101ed33131]

def akpDigest2 : Bytes :=
  words [0x51f321f31064c122a159c965a5f77c88, 0x33dc5c88fb4ccd8568d057f7aad08fca]

/-- What is hashed for the thumbprints, and the digests. -/
def digests : List (Bytes × Bytes) :=
  [(rsaInput rsa0, rsaDigest0),
   (rsaInput rsa1, rsaDigest1),
   (akpInput public0, akpDigest0),
   (akpInput public1, akpDigest1),
   (akpInput public2, akpDigest2)]

/-! ### A token -/

/-- A token signed with the first ML-DSA key, under the configured key id. -/
def token : Signed where
  header := obj [("alg", str "ML-DSA-44"), ("kid", str "sts-delegate-key-1"), ("typ", str "at+jwt")]
  payload := mintedDelegation.payload
  signature := words
    [0xb836e79d96540bc66a75af999c622858, 0x996a8f75c32fbe119d8ba49cd4cb1835,
     0xfb7e2a774ba559e808fccafece5c4f43, 0x11cffcd0c48b104f1a201a602e79f9cd,
     0x19581ed83cccf2ef9e0fa0f49e68bed6, 0x917b04c8502ccf20813017c945e08422,
     0xc3b9891a814bda66477e2413439152df, 0x287efdeaff10e72bb722984193a26a4f,
     0x4f0d48a4a203acabae97cf25db6fa4de, 0xd47395be14a2bdeda075edbe68d8684f,
     0xf3604835b4680e3bbff098673b08101b, 0x53937e6464ac3013bbab1c8ad23500f7,
     0xf12e952d7565684818d3873d48c7443f, 0x2912bf997f4da7009774ff62269b17bc,
     0xcd538d480408306be2fd54710e5dbf6e, 0x814bba9ca6b52d9733680262fb22a1a7,
     0x1ad82332e983959661239c7c0ad8944b, 0xc47f3d4e9f47b71aa6d615b2a5c5edc4,
     0x84447b56f7fc73237e178c1dcef861cc, 0x7f25a86bfa3dc1c0c60c9c8f6810de34,
     0xc764e168bb5844df649f5c9eca1e65b7, 0xf01c5bfd6d8404fa86938f2246c2c4d0,
     0x7a45c61dcf267295c98c7c2f1e3db554, 0x1dae1d3000aa4dc8d3580caf2b9321d7,
     0x0120a04e5adf2fc59cab06d22d88807a, 0x74a870234c88e680b76bf1500df7e339,
     0xddc62d88daf7191fa22ca2126dc7c262, 0x6ef808c961d9cd7c8e57ffce47cd2d2b,
     0x63bff7a98d07de6011c67b1fec14ec85, 0x72c655e54c8cac448b675d5e57266955,
     0x6b9af0327c7925a3f15ad44cf536b6b9, 0xae395fe253ad7d6af5a436c4b329d2a9,
     0x874c7df5d2d476bed66561a797b45ad9, 0x2aed0786206ba41f52f28474531c6eec,
     0x748d8eeb338aea5e7d20388fc41c8838, 0xda2e01489d5d30e56d66ee7118863a05,
     0x39b93b5197c2bd8097734c26bcf26888, 0xae80e6310d9d7f00838f5297094db17b,
     0x0cbf14aeea0ab14335bad4fbaa7dc9d8, 0xf4429fc480cd016d4b55ef4953007058,
     0x2c0fc8d90dda213aa2e370c31022f48b, 0xb36aecefa51f7ccba7ea23a1f79932c5,
     0xa268da17b19b2319ae3b122e5a8d630d, 0xb4ba33f63cf8e66311f8d265accbc635,
     0x56e56908bea239d0638622ddd9bf369a, 0xaab354fa47c34b2d00639e8061408f68,
     0x0c4bfc06f168a5ab915e87892e0db7de, 0x555e1feda6b13a754176290e4ea33ace,
     0xd74ffcf62e234433147256f9bb59b0bf, 0x52366643d8e51f3105338a23ef701b2b,
     0x6179da2e744f0712479888a528507821, 0xf04eca36195cce03c6ac9df2cb1c757c,
     0x487d757ad31735d951a7c2747d7af39a, 0x740eb357268dbd7a2434eb6ac2d53502,
     0xb76907615d5e2c0a17070325a6b9da52, 0xdf25386c2f94e42f5b0d82a16f4fd1e2,
     0xb1ff1e619751f93d1bcbb4230e59a228, 0xa130502f94a207fce4735677c368bd00,
     0x35e52f2829729f53e63ec4529a4cbd60, 0x88f942201781947cfd68e5701a8a71e9,
     0x12f56ed36504eba3a5313ef30777bd14, 0x088a557635768b09c75edb763a120e31,
     0xafee3dd4e81c012efb4841132dee1680, 0xae17c974dcf22620d0f75db917616a9f,
     0x06f78395c74d7354b05f9ba05fb3ab6d, 0x98733a90a47e5d26f584323a82412c34,
     0x803a4d4c57c5256854e8b2e0b77cfe76, 0xb90239c338605e13f1405ea5a4124da1,
     0x51c798e5b90271ed880e9d37f902f2bf, 0x9542f5a36e73d13b64f29fe62766840c,
     0x74492088e8131421551f80c89b114585, 0xa881f29263a85d64f3f91e4cf71428fd,
     0x3a0ca1c2d3f03af454e9820d29f05bcd, 0x0cc84f7ee4cfe9e5afc5ef555194f4a7,
     0xb486c8151854265035f0988ad4f98fb7, 0x2daf71c6e99ced2428204862ae13f191,
     0x4387a36b7b54a75e0c41399066dba571, 0x3bb6b1e52a48a6398324f77be097a406,
     0xa2aa390e2249edfa60041606db70a7a3, 0xa84552a355e1f43903ca7a915dedfec7,
     0xa99d3b8f1a05aeee373f8dfe59578e1f, 0xa876c8988397b010f17d8b6fd2357d44,
     0x2b03ca8415af3c5e4b9e2922c499a274, 0x50043749103332b32c2b08d90668a80c,
     0x50f07bb932591e2d80f0a42bd56248f2, 0xc6c0db45ff04f029c42baeaa7b1e798d,
     0xd1ba8955b8ad9938ffb5230e0c85bbd3, 0x3790ad994abf6394473c76f1010d3f72,
     0x9bdee46fe3482151460914823ea9b886, 0x1b3c975bd9d2e4589e974c396de413b2,
     0xc738f0f3f4142859f742916fd21e8140, 0xe38008967d1c72195a515314faa9f195,
     0x557e3e1df4673ccd2b94d4bd32c032b8, 0x339372e37db185135a8be085f1ce21ea,
     0xdf7576106b1f46d14c671d54e8eecb6c, 0xa96fec145eb184ac89374d57c251be46,
     0xcfd708aa707c8906c92d7036cd03fb8e, 0x8c828206c8afdc956a6a290d44e1a700,
     0x26797a5db0cfecc05a9b274f3f6cc637, 0x4f1f24f1913b3143617100c6692459e1,
     0xbb78557233caee2f8b14d83b824aed83, 0x97d747672bfc60a65f0a2390c8740292,
     0xd4414ff09850e9d453141034ffdcdeaf, 0x418b7b931fa1979a54c113ff1119a32b,
     0x22ac84c17ec09cbc6f50c70382db7215, 0x65a6ef1a43d20ac359506ae741a4c94b,
     0xb9fe9ca9e980bae4cc89945779834bd9, 0x3771c476d6592d5219eaaa7d741a26bc,
     0xc31dbf24472c1ace0b388927fcc095de, 0x9c3430e3e561b95bf81e62e0d3dfdf39,
     0x966ffc979bb73ad4e9b7909bc73e77e9, 0xc7f52e1b023a78bacf3b3e15bf118eed,
     0x072aef31de97ee3c9996cab64db3f366, 0x808d83fd12119899f220886d38fe1e2b,
     0xa470498d12ceb3bb719d2983c8b91440, 0xf382a81ed2b7a846b7d42b3dd5fe2515,
     0xdf7ef5f3ee77118d769e5cdc72223a5c, 0x53fc501e59995bdc7013feb18bf4b3a6,
     0x034bcc2ce87a8a2f3c66c3c6a35b49f8, 0xa7e37a53ff866151ca87304f69f1b6f9,
     0x73f093a14a545f553161d40564325b2f, 0x2d7e8995c547ef6741e9fd25ceebdc55,
     0x6cf27f64fa9be30838b53bd399419969, 0x06fe09c7cd416203c4c5f36e5c42c450,
     0x6b5e09fa4c88f6e28253a9c899ac7fdb, 0x85016bc6c7686e3c08d45296c60160ca,
     0xbca98da2683f5e36c48cd5a2f147d8e9, 0x69604c8a5270c1ab8ec4e946f8f6095c,
     0xc846c2c67f5805b3e76f7ba4cb7d6107, 0x47cbb223002a62f53d38eee43bd6561c,
     0x685446f88ee52522feca57a1e974c03b, 0x7e35814d50d4ccf80675c6f8c843643d,
     0xee4686e8e28a8cad646ed086562fda89, 0xfb0951bc8ddbd067b1f3068e6c1a2a55,
     0x047a95ad248879faccdfe2732abe2507, 0x9e70dcddba9ca1145bb5a3ffce321fd7,
     0x8c85ad776c3ce4769971d4dd89201151, 0x38db5477319843fb93885aced0d6090e,
     0x6edd407a871c041ab7905f1d5b73b00a, 0xb17e095a65a3037fffa447ac2a06f90d,
     0xb203974e2a13b5ded335c53f278a5ca7, 0x51b0093b95dd57821b559a587ac08fde,
     0xf35c163071d85bd52ae663b34f52aae2, 0xa4ff01b16e1b7969ccc7fafbcfbc2ebd,
     0xbfe9b3351cda9495b9ff1a68fc8e684b, 0x3be2e52655b21be35f1d50750edddbe7,
     0x0f191c20282f687c7f84bac9dffc0c28, 0x4549575c5f7691a0a5b1dde2e60f192d,
     0x3436447e8d90a4a7a8acb3c0c9cbd1d3, 0xd9dee9eafb181e23272d4c777e8ca3a8,
     0xb4b9bbbec3d1e5f0fe00000000000000] ++ octets 4 0x0e1d3549

/-! ### The crates, on these keys -/

def sha256 (bytes : Bytes) : Bytes :=
  match digests.find? fun entry => entry.1 == bytes with
  | some entry => entry.2
  | none => bytes

/-- The first ML-DSA key verifies the token, and nothing else is verified. -/
def mlDsaVerify (publicKey signature message : Bytes) : Bool :=
  publicKey == public0 && signature == token.signature &&
    message == asBytes (Base64.encode token.header ++ "." ++ Base64.encode token.payload)

scoped instance crates : Crates where
  sha256 := sha256
  unicodeEscaped _ := false
  base64DecodeError _ := "Invalid symbol"
  formUrlencodedParse _ := []
  urlParse _ := .error "relative URL without a base"
  headerFromSlice bytes :=
    if bytes = token.header then .ok ⟨"ML-DSA-44", some "sts-delegate-key-1", some "at+jwt"⟩
    else .error Sample.refused
  subjectFromSlice _ := .error Sample.refused
  assertionFromSlice _ := .error Sample.refused
  mintedFromSlice bytes := if bytes = token.payload then .ok delegatedClaims else .error Sample.refused
  dpopFromSlice _ := .error Sample.refused
  valueFromSlice _ := .error Sample.refused
  headerToVec _ := .error Sample.refused
  mintedToVec _ := .error Sample.refused
  rsaComponentsError _ _ := none
  rs256Decode _ _ _ := .error ⟨.invalidSignature, "InvalidSignature"⟩
  rs256Encode _ _ _ _ := .error ⟨.invalidRsaKey, "InvalidRsaKey"⟩
  rsaPublicComponents der :=
    if der = pkcs1 rsa0 then (rsa0.n, rsa0.e)
    else if der = pkcs1 rsa1 then (rsa1.n, rsa1.e)
    else ([], [])
  mlDsaPublicKeyError _ _ := none
  mlDsaVerifierError _ _ := none
  mlDsaVerifyOneshot _ publicKey signature message := .ok (mlDsaVerify publicKey signature message)
  mlDsaRawPublicKey algorithm keyPair :=
    match algorithm, mlDsaKeys.lookup keyPair with
    | .mlDsa44, some publicKey => .ok publicKey
    | _, _ => .error "unsupported"
  mlDsaSignerError _ _ := some "unsupported"
  mlDsaSignOneshot _ _ _ _ := .error "unsupported"
  jwkFromValue _ := none
  jwkDecodable _ := false
  dpopDecode _ _ _ := none
  jwkThumbprint _ := ""

/-- The integers of a PKCS#1 sequence with these components. -/
def integers (components : List Bytes) : List (Option Int) :=
  some 0 :: components.map fun bytes => some (BigEndian.fromBytesBE bytes : Int)

/-- Nothing is written but the PKCS#1 sequences of the two keys. -/
def toDer : Asn1Block → Except String Bytes
  | .sequence _ blocks =>
      if blocks.map Asn1Block.integerValue = integers rsa0.list then .ok (pkcs1 rsa0)
      else if blocks.map Asn1Block.integerValue = integers rsa1.list then .ok (pkcs1 rsa1)
      else .error "unsupported"
  | _ => .error "unsupported"

scoped instance keyCrates : KeyCrates where
  toDer := toDer
  fromDer _ := .error "unsupported"
  jsonError _ := "expected value"
  serdeError _ _ := "missing field"
  rsaFromDerError der := if der = pkcs1 rsa0 ∨ der = pkcs1 rsa1 then none else some "InvalidEncoding"
  rsaFromPem _ := .error ⟨.invalidRsaKey, "InvalidRsaKey"⟩
  rsaSign _ _ _ := .error "unspecified"
  rsaGenerate entropy :=
    if entropy = [0] then .ok rsa0 else if entropy = [1] then .ok rsa1 else .error "unsupported"
  mlDsaPrivateKeyFromSeed _ seed := .ok seed
  randomSeed entropy := if entropy.length = 32 then .ok entropy else .error "unsupported"

/-! ### What the crates promise -/

theorem rsa_wellFormed : ∀ key ∈ [rsa0, rsa1], 2048 ≤ rsaModulusBits key.n ∧
    ∀ component ∈ key.list, component ≠ [] ∧ component.head? ≠ some 0 := by
  decide +kernel

theorem pkcs1_rsa1_ne : pkcs1 rsa1 ≠ pkcs1 rsa0 := by
  decide +kernel

theorem rsaPublicComponents_pkcs1 :
    Crates.rsaPublicComponents (pkcs1 rsa0) = (rsa0.n, rsa0.e) ∧
      Crates.rsaPublicComponents (pkcs1 rsa1) = (rsa1.n, rsa1.e) :=
  ⟨if_pos rfl, (if_neg pkcs1_rsa1_ne).trans (if_pos rfl)⟩

theorem integerValue_pkcs1Block (components : List Bytes) :
    (.integer 0 0 :: components.map fun bytes => .integer 0 (BigEndian.fromBytesBE bytes)).map
        Asn1Block.integerValue = integers components := by
  simp [Asn1Block.integerValue, integers]

theorem toDer_pkcs1Block (components : List Bytes) : toDer (pkcs1Block components) =
    if integers components = integers rsa0.list then .ok (pkcs1 rsa0)
    else if integers components = integers rsa1.list then .ok (pkcs1 rsa1)
    else .error "unsupported" := by
  rw [pkcs1Block, toDer, integerValue_pkcs1Block]

theorem toDer_eq_ok {components : List Bytes} {der : Bytes}
    (h : toDer (pkcs1Block components) = .ok der) :
    ∃ key ∈ [rsa0, rsa1],
      components.map BigEndian.fromBytesBE = key.list.map BigEndian.fromBytesBE ∧ der = pkcs1 key := by
  have hnumbers : ∀ {key : RsaComponents}, integers components = integers key.list →
      components.map BigEndian.fromBytesBE = key.list.map BigEndian.fromBytesBE := by
    intro key heq
    have htail := (List.cons.inj heq).2
    have hinjective : Function.Injective fun value : Nat => some (value : Int) :=
      fun _ _ h => Int.ofNat.inj (Option.some.inj h)
    exact hinjective.list_map (by rw [List.map_map, List.map_map]; exact htail)
  rw [toDer_pkcs1Block] at h
  split at h
  · next heq => exact ⟨rsa0, by simp, hnumbers heq, (Except.ok.inj h).symm⟩
  · split at h
    · next heq => exact ⟨rsa1, by simp, hnumbers heq, (Except.ok.inj h).symm⟩
    · cases h

theorem lawfulRsa : LawfulRsa where
  components := by
    intro n e rest der hder _ hn he
    obtain ⟨key, hkey, hlist, hpkcs1⟩ := toDer_eq_ok hder
    have hpublic : Crates.rsaPublicComponents (pkcs1 key) = (key.n, key.e) := by
      rcases List.mem_pair.mp hkey with heq | heq
      · rw [heq]
        exact rsaPublicComponents_pkcs1.1
      · rw [heq]
        exact rsaPublicComponents_pkcs1.2
    obtain ⟨-, hminimal⟩ := rsa_wellFormed key hkey
    -- the same numbers, and neither is written with leading zeros
    injection hlist with hsame hlist
    injection hlist with hsame' _
    have hn' := BigEndian.fromBytesBE_inj hn (hminimal key.n (by simp [RsaComponents.list])).2 hsame
    have he' := BigEndian.fromBytesBE_inj he (hminimal key.e (by simp [RsaComponents.list])).2 hsame'
    rw [hpkcs1, hpublic, hn', he']
  generated := by
    intro entropy key hkey
    have hmem : key ∈ [rsa0, rsa1] := by
      simp only [KeyCrates.rsaGenerate] at hkey
      split at hkey
      · simp [(Except.ok.inj hkey).symm]
      · split at hkey
        · simp [(Except.ok.inj hkey).symm]
        · cases hkey
    obtain ⟨hbits, hcomponents⟩ := rsa_wellFormed key hmem
    refine ⟨hbits, hcomponents, ?_⟩
    rcases List.mem_pair.mp hmem with heq | heq
    · exact ⟨pkcs1 rsa0, by rw [heq]; exact (toDer_pkcs1Block _).trans (if_pos rfl), if_pos (Or.inl rfl)⟩
    · subst heq
      by_cases hsame : integers rsa1.list = integers rsa0.list
      · exact ⟨pkcs1 rsa0, (toDer_pkcs1Block _).trans (if_pos hsame), if_pos (Or.inl rfl)⟩
      · exact ⟨pkcs1 rsa1, (toDer_pkcs1Block _).trans ((if_neg hsame).trans (if_pos rfl)),
          if_pos (Or.inr rfl)⟩

/-! ### Thumbprints -/

theorem encode_injective : Function.Injective Base64.encode := by
  intro bytes bytes' h
  have hdecode := congrArg Base64.decode h
  rw [Base64.decode_encode, Base64.decode_encode] at hdecode
  exact Option.some.inj hdecode

theorem akpInput_injective : Function.Injective akpInput := by
  intro publicKey publicKey' h
  have htext := asBytes_injective h
  apply encode_injective
  rw [← String.toList_inj] at htext ⊢
  simpa [String.toList_append] using htext

theorem rsaInput_injective {key key' : RsaComponents} (he : key.e = key'.e)
    (h : rsaInput key = rsaInput key') : key.n = key'.n := by
  have htext := asBytes_injective h
  apply encode_injective
  rw [← String.toList_inj] at htext ⊢
  simpa [String.toList_append, he] using htext

theorem rsaInput_ne_akpInput (key : RsaComponents) (publicKey : Bytes) :
    rsaInput key ≠ akpInput publicKey := by
  intro h
  have htext := asBytes_injective h
  rw [← String.toList_inj] at htext
  simp [String.toList_append] at htext

theorem nodup_digests : (digests.map Prod.fst).Nodup := by
  have hn : rsa0.n ≠ rsa1.n := by decide +kernel
  have he : rsa0.e = rsa1.e := rfl
  have hrsa : rsaInput rsa0 ≠ rsaInput rsa1 := fun h => hn (rsaInput_injective he h)
  have h01 : public0 ≠ public1 := by decide +kernel
  have h02 : public0 ≠ public2 := by decide +kernel
  have h12 : public1 ≠ public2 := by decide +kernel
  simp [digests, hrsa, rsaInput_ne_akpInput, akpInput_injective.eq_iff, h01, h02, h12]

/-- The digests are those of the table. -/
theorem sha256_of_mem {input digest : Bytes} (h : (input, digest) ∈ digests) :
    sha256 input = digest := by
  have hfind : digests.find? (fun entry => entry.1 == input) = some (input, digest) := by
    have hnodup := nodup_digests
    generalize digests = entries at h hnodup
    induction entries with
    | nil => cases h
    | cons entry rest ih =>
        rw [List.map_cons, List.nodup_cons] at hnodup
        rw [List.find?_cons]
        rcases List.mem_cons.mp h with heq | hmem
        · simp [← heq]
        · have hne : (entry.1 == input) = false := by
            rw [beq_eq_false_iff_ne]
            intro heq
            exact hnodup.1 (heq ▸ List.mem_map_of_mem hmem)
          rw [hne]
          exact ih hmem hnodup.2
  rw [sha256, hfind]

/-! ### Generated keys -/

/-- An RSA key under some id. -/
def rsaKey (kid : String) (key : RsaComponents) : GeneratedKey where
  privateJwk := .object [("kty", .string "RSA"), ("kid", .string kid), ("use", .string "sig"),
    ("alg", .string "RS256"), ("n", .string (Base64.encode key.n)),
    ("e", .string (Base64.encode key.e)), ("d", .string (Base64.encode key.d)),
    ("p", .string (Base64.encode key.p)), ("q", .string (Base64.encode key.q)),
    ("dp", .string (Base64.encode key.dp)), ("dq", .string (Base64.encode key.dq)),
    ("qi", .string (Base64.encode key.qi))]
  publicJwk := ⟨"RSA", kid, "sig", "RS256", some (Base64.encode key.n), some (Base64.encode key.e),
    none⟩

theorem generatePrivateJwk_rsa {entropy : Bytes} {key : RsaComponents} {digest : Bytes}
    (hkey : KeyCrates.rsaGenerate entropy = .ok key) (hdigest : (rsaInput key, digest) ∈ digests) :
    RsaJoseSigner.generatePrivateJwk entropy = .ok (rsaKey (Base64.encode digest) key) := by
  have hthumbprint : rsaJwkThumbprint (Base64.encode key.n) (Base64.encode key.e) =
      Base64.encode digest := by
    rw [← sha256_of_mem hdigest]
    rfl
  simp only [RsaJoseSigner.generatePrivateJwk, hkey, mapError_ok, ok_bind, hthumbprint]
  rfl

/-- The ML-DSA-44 key of a seed, under some id. -/
def mlDsaKey (kid : String) (n : UInt8) (publicKey : Bytes) : GeneratedKey where
  privateJwk := .object [("kty", .string "AKP"), ("kid", .string kid), ("use", .string "sig"),
    ("alg", .string "ML-DSA-44"), ("pub", .string (Base64.encode publicKey)),
    ("priv", .string (Base64.encode (seed n)))]
  publicJwk := ⟨"AKP", kid, "sig", "ML-DSA-44", none, none, some (Base64.encode publicKey)⟩

theorem fromSeed_seed {n : UInt8} {publicKey : Bytes}
    (hkey : mlDsaKeys.lookup (seed n) = some publicKey)
    (hlength : publicKey.length = MlDsaAlgorithm.mlDsa44.publicKeyLen)
    (kid : String) :
    ∃ signer, MlDsaJoseSigner.fromSeed .mlDsa44 kid (seed n) publicKey = .ok signer ∧
      signer.publicJwk = (mlDsaKey kid n publicKey).publicJwk ∧ signer.algorithm = .mlDsa44 ∧
      signer.publicKey = publicKey := by
  have hraw : Crates.mlDsaRawPublicKey .mlDsa44 (seed n) = .ok publicKey := by
    simp only [Crates.mlDsaRawPublicKey, hkey]
  refine ⟨⟨kid, .mlDsa44, seed n, publicKey, hraw, hlength⟩, ?_, rfl, rfl, rfl⟩
  have hprivate : MlDsaJoseSigner.privateKeyFromSeed .mlDsa44 (seed n) = .ok (seed n) := rfl
  unfold MlDsaJoseSigner.fromSeed
  rw [dif_pos hlength, hprivate, ok_bind]
  split
  · next e herror =>
      rw [hraw] at herror
      cases herror
  · next derived hderived =>
      rw [hraw] at hderived
      cases hderived
      rw [dif_pos rfl]
      rfl

/-- A private JWK with a seed and its public key is read. -/
theorem fromPrivateJwkForBackend_seed {n : UInt8} {publicKey : Bytes} {value : Json}
    {kid : Option String} (hkey : mlDsaKeys.lookup (seed n) = some publicKey)
    (hlength : publicKey.length = MlDsaAlgorithm.mlDsa44.publicKeyLen)
    (hread : PrivateAkpJwk.fromValue value = some ⟨"AKP", kid, "ML-DSA-44", Base64.encode publicKey,
      Base64.encode (seed n)⟩) (fallbackKid : String) :
    ∃ signer, MlDsaJoseSigner.fromPrivateJwkForBackend (.parse "ML-DSA-44") (.json value)
        fallbackKid = .ok signer ∧
      signer.publicJwk = (mlDsaKey (kid.getD (akpFallbackKid .mlDsa44 publicKey fallbackKid)) n
        publicKey).publicJwk := by
  obtain ⟨signer, hsigner, hpublic, halgorithm, hpublicKey⟩ := fromSeed_seed hkey hlength
    (kid.getD (akpFallbackKid .mlDsa44 publicKey fallbackKid))
  refine ⟨signer, fromPrivateJwkForBackend_eq_ok.mpr ⟨?_, _, seed n, ⟨hread, rfl, ?_, ?_, ?_, ?_⟩,
    ?_⟩, hpublic⟩
  · rw [halgorithm]
    exact (selectedPqcAlgorithm_parse .mlDsa44).2
  · rw [halgorithm]
    rfl
  · exact Base64.decode_encode _
  · exact List.length_replicate
  · rw [hpublicKey]
    exact Base64.decode_encode _
  · rw [halgorithm, hpublicKey]
    exact hsigner

theorem generatePrivateJwk_seed {n : UInt8} {publicKey digest : Bytes}
    (hkey : mlDsaKeys.lookup (seed n) = some publicKey)
    (hlength : publicKey.length = MlDsaAlgorithm.mlDsa44.publicKeyLen)
    (hdigest : (akpInput publicKey, digest) ∈ digests) :
    MlDsaJoseSigner.generatePrivateJwk .mlDsa44 none (seed n) =
      .ok (mlDsaKey (Base64.encode digest) n publicKey) := by
  have hthumbprint : akpJwkThumbprint "ML-DSA-44" (Base64.encode publicKey) =
      Base64.encode digest := by
    rw [← sha256_of_mem hdigest]
    rfl
  have hraw : MlDsaJoseSigner.rawPublicKey .mlDsa44 (seed n) = .ok publicKey := by
    simp only [MlDsaJoseSigner.rawPublicKey, Crates.mlDsaRawPublicKey, hkey, mapError_ok]
  have hread : PrivateAkpJwk.fromValue (mlDsaKey (Base64.encode digest) n publicKey).privateJwk =
      some ⟨"AKP", some (Base64.encode digest), "ML-DSA-44", Base64.encode publicKey,
        Base64.encode (seed n)⟩ := rfl
  obtain ⟨signer, hsigner, hpublic⟩ := fromPrivateJwkForBackend_seed hkey hlength hread ""
  simp only [MlDsaJoseSigner.generatePrivateJwk, bind_eq_ok, mapError_eq_ok, pure_eq_ok,
    MlDsaAlgorithm.joseAlg, Option.filter_none, Option.getD_none]
  refine ⟨seed n, if_pos List.length_replicate, seed n, rfl, publicKey, hraw, signer, ?_, ?_⟩
  · rw [hthumbprint]
    exact hsigner
  · rw [hthumbprint, hpublic]
    rfl

/-- The RSA keys under their thumbprints. -/
def rsaKey0 : GeneratedKey := rsaKey (Base64.encode rsaDigest0) rsa0

def rsaKey1 : GeneratedKey := rsaKey (Base64.encode rsaDigest1) rsa1

theorem generate_rsaKey0 : RsaJoseSigner.generatePrivateJwk [0] = .ok rsaKey0 :=
  generatePrivateJwk_rsa (if_pos rfl) (by simp [digests])

theorem generate_rsaKey1 : RsaJoseSigner.generatePrivateJwk [1] = .ok rsaKey1 :=
  generatePrivateJwk_rsa ((if_neg (by decide)).trans (if_pos rfl)) (by simp [digests])

theorem rsaKid_ne : rsaKey0.publicJwk.kid ≠ rsaKey1.publicJwk.kid := by
  refine encode_injective.ne ?_
  decide +kernel

/-- The ML-DSA keys under their thumbprints. -/
def key0 : GeneratedKey := mlDsaKey (Base64.encode akpDigest0) 0 public0

def key1 : GeneratedKey := mlDsaKey (Base64.encode akpDigest1) 1 public1

def key2 : GeneratedKey := mlDsaKey (Base64.encode akpDigest2) 2 public2

theorem generate_key0 :
    MlDsaJoseSigner.generatePrivateJwk .mlDsa44 none (seed 0) = .ok key0 :=
  generatePrivateJwk_seed rfl (by decide +kernel) (by simp [digests])

theorem generate_key1 :
    MlDsaJoseSigner.generatePrivateJwk .mlDsa44 none (seed 1) = .ok key1 :=
  generatePrivateJwk_seed rfl (by decide +kernel) (by simp [digests])

theorem generate_key2 :
    MlDsaJoseSigner.generatePrivateJwk .mlDsa44 none (seed 2) = .ok key2 :=
  generatePrivateJwk_seed rfl (by decide +kernel) (by simp [digests])

theorem kid_ne : key0.publicJwk.kid ≠ key1.publicJwk.kid ∧ key0.publicJwk.kid ≠ key2.publicJwk.kid ∧
    key1.publicJwk.kid ≠ key2.publicJwk.kid := by
  refine ⟨encode_injective.ne ?_, encode_injective.ne ?_, encode_injective.ne ?_⟩ <;> decide +kernel

/-- Key files with these keys. -/
def files (keyFile : Json) (overlap : List PublicJwk) : KeyFiles where
  locked := false
  keyFile := some ⟨.json keyFile, 0o600⟩
  overlapFile := if overlap.isEmpty then none
    else some ⟨.json (JwksDocument.toValue ⟨overlap⟩), 0o644⟩

end KeySample

end StsDelegate
