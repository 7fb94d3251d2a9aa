import StsDelegate.NoConfusion
import StsDelegate.Replay

/-!
# What an accepted DPoP proof is

The header of a proof is written by its sender and brings the key along, so accepting a
proof says nothing about who sent it. It says which key signed it, for which request, and
when. `validateDpopProof_eq_ok` lists what is checked; `dpop_proof_sound_iff` compares that
list with what RFC 9449 asks for. They differ at one point: `i64::MAX as f64` rounds up to
`2 ^ 63`, so an `iat` of exactly that is let through and read as one less.

A proof is remembered up to the last moment of its window, so that there is no time at
which it is forgotten and still accepted (`retention_covers_acceptance`).
-/

namespace StsDelegate

open Text Fallible Wrapping

/-! ### The window -/

/-- The age check, over the integers. -/
theorem validateIat_ok_iff {value : Option Json} {now leeway iat : Int64} :
    validateIat value now leeway = .ok iat ↔ value.bind valueToI64 = some iat ∧
      now.toInt - iat.toInt ≤ max leeway.toInt 0 ∧
        iat.toInt - now.toInt ≤ max leeway.toInt 0 := by
  have hage : (maxZero leeway).toInt.toNat < absDiff now iat ↔
      ¬(now.toInt - iat.toInt ≤ max leeway.toInt 0 ∧
        iat.toInt - now.toInt ≤ max leeway.toInt 0) := by
    rw [toInt_maxZero, absDiff]
    omega
  simp only [validateIat, bind_eq_ok, okOr_eq_ok, rejectIf_eq_ok, decide_eq_false_iff_not,
    pure_eq_ok, Option.bind_eq_some_iff]
  constructor
  · intro h
    obtain ⟨value', hvalue, iat', hread, _, hwindow, heq⟩ := h
    subst heq
    rw [hage, not_not] at hwindow
    exact ⟨⟨value', hvalue, hread⟩, hwindow⟩
  · intro h
    obtain ⟨⟨value', hvalue, hread⟩, hwindow⟩ := h
    exact ⟨value', hvalue, iat, hread, (), by rwa [hage, not_not], rfl⟩

/-- The last moment at which a proof is accepted, unless the clock cannot get there. -/
theorem le_replayExpiresAt_iff {t iat leeway : Int64} :
    t ≤ saturatingAdd iat (maxZero leeway) ↔ t.toInt - iat.toInt ≤ max leeway.toInt 0 := by
  have ht := toInt_range t
  have hiat := toInt_range iat
  rw [Int64.le_iff_toInt_le, toInt_saturatingAdd, toInt_maxZero]
  omega

/-- Once accepted, the only end of the window left is the later one. -/
theorem validateIat_later_iff {value : Option Json} {leeway t₀ t iat : Int64} (hle : t₀ ≤ t)
    (h : validateIat value t₀ leeway = .ok iat) :
    validateIat value t leeway = .ok iat ↔ t ≤ saturatingAdd iat (maxZero leeway) := by
  rw [Int64.le_iff_toInt_le] at hle
  obtain ⟨hvalue, -, hahead⟩ := validateIat_ok_iff.mp h
  rw [le_replayExpiresAt_iff, validateIat_ok_iff]
  constructor
  · intro ⟨_, hlate, _⟩
    exact hlate
  · intro hlate
    exact ⟨hvalue, hlate, by omega⟩

/-- A sweep drops only what ended before it. -/
theorem lt_of_sweepExpired {store : InMemoryReplayStore} {key : String} {expiresAt now : Int64}
    (h : store.seen.lookup key = some expiresAt) (hdropped : key ∉ (store.sweepExpired now).seen) :
    expiresAt < now := by
  rw [← Int64.not_le]
  intro hle
  have hkept : (store.sweepExpired now).seen.lookup key = some expiresAt :=
    ExpiryMap.lookup_sweep.mpr ⟨h, hle⟩
  rw [AList.lookup_eq_none.mpr hdropped] at hkept
  cases hkept

/-- An `iat` past its last moment is refused whatever it is written as. -/
theorem validateIat_ne_ok_of_lt {value : Option Json} {leeway t iat : Int64}
    (hvalue : value.bind valueToI64 = some iat) (h : saturatingAdd iat (maxZero leeway) < t)
    (iat' : Int64) : validateIat value t leeway ≠ .ok iat' := by
  intro hok
  obtain ⟨hvalue', hlate, -⟩ := validateIat_ok_iff.mp hok
  rw [hvalue] at hvalue'
  cases hvalue'
  exact Int64.not_le.mpr h (le_replayExpiresAt_iff.mpr hlate)

theorem validateDpopProof_validateIat [Crates] {input : DpopProofRequest} {binding : DpopBinding}
    (h : validateDpopProof input = .ok binding) :
    ∃ value, validateIat value input.now input.clockSkewLeeway = .ok binding.iat ∧
      ∀ now' binding', validateDpopProof { input with now := now' } = .ok binding' →
        ∃ iat', validateIat value now' input.clockSkewLeeway = .ok iat' := by
  obtain ⟨value, hagain⟩ := validateDpopProof_again h
  have hread : ∀ {now' : Int64} {binding' : DpopBinding},
      validateDpopProof { input with now := now' } = .ok binding' →
        validateIat value now' input.clockSkewLeeway = .ok binding'.iat := by
    intro now' binding' h'
    rw [hagain now'] at h'
    simp only [bind_eq_ok, pure_eq_ok] at h'
    obtain ⟨iat', hiat', heq⟩ := h'
    rw [hiat', ← heq]
  exact ⟨value, hread h, fun now' binding' h' => ⟨_, hread h'⟩⟩

/-- A proof is accepted later exactly until the moment it is remembered to, so a sweep drops
it only when it is refused anyway. -/
theorem retention_covers_acceptance [Crates] {value : Option Json} {leeway t₀ t iat : Int64}
    (hle : t₀ ≤ t) (h : validateIat value t₀ leeway = .ok iat) :
    (validateIat value t leeway = .ok iat ↔ t ≤ saturatingAdd iat (maxZero leeway)) ∧
    (∀ (store : InMemoryReplayStore) (key : String),
      store.seen.lookup key = some (saturatingAdd iat (maxZero leeway)) →
      key ∉ (store.sweepExpired t).seen → ∀ iat', validateIat value t leeway ≠ .ok iat') ∧
    (∀ (input : DpopProofRequest) (binding : DpopBinding) (store : InMemoryReplayStore)
        (key : String) (now : Int64), validateDpopProof input = .ok binding →
      store.seen.lookup key = some binding.replayExpiresAt →
      key ∉ (store.sweepExpired now).seen →
        ∀ binding', validateDpopProof { input with now := now } ≠ .ok binding') := by
  refine ⟨validateIat_later_iff hle h, ?_, ?_⟩
  · intro store key hkept hdropped
    exact validateIat_ne_ok_of_lt (validateIat_eq_ok h) (lt_of_sweepExpired hkept hdropped)
  · intro input binding store key now haccepted hkept hdropped binding' hagain
    obtain ⟨value', hfirst, hlater⟩ := validateDpopProof_validateIat haccepted
    obtain ⟨iat', hiat'⟩ := hlater now binding' hagain
    rw [validateDpopProof_replayExpiresAt haccepted] at hkept
    exact validateIat_ne_ok_of_lt (validateIat_eq_ok hfirst) (lt_of_sweepExpired hkept hdropped)
      iat' hiat'

/-! ### What is checked -/

/-- The integer part of a number. -/
def Json.integerPart : Json → Option Int
  | .number (.posInt n) => some n.toNat
  | .number (.negInt n) => some n.toInt
  | .number (.float q) => some (if 0 ≤ q then ⌊q⌋ else ⌈q⌉)
  | _ => none

/-- The keys an algorithm is for. -/
def Algorithm.family : Algorithm → AlgorithmParameters
  | .rs256 | .rs384 | .rs512 | .ps256 | .ps384 | .ps512 => .rsa
  | .es256 | .es384 => .ellipticCurve
  | .edDsa => .octetKeyPair

/-- A compact proof of limited size, and its segments. -/
structure ProofShape (proof header payload signature : String) : Prop where
  proofLen : len proof ≤ MAX_DPOP_PROOF_LEN
  segments : splitAtChar '.' proof = [header, payload, signature]
  nonempty : header ≠ "" ∧ payload ≠ "" ∧ signature ≠ ""

/-- A header that names an allowed algorithm and carries a public key for it. -/
structure HeaderSound [Crates] (members keyMembers : List (String × Json)) (algName : String)
    (alg : Algorithm) (jwk : Jwk) : Prop where
  typ : Json.get members "typ" = some (.string "dpop+jwt")
  algValue : Json.get members "alg" = some (.string algName)
  allowed : algName ∈ DPOP_SIGNING_ALGS_SUPPORTED
  named : Algorithm.fromStr algName = some alg
  key : Json.get members "jwk" = some (.object keyMembers)
  publicOnly : ∀ name ∈ PRIVATE_JWK_MEMBERS, Json.get keyMembers name = none
  keyAlg : ∀ name, Json.get keyMembers "alg" = some (.string name) → name = algName
  read : Crates.jwkFromValue (.object keyMembers) = some jwk
  family : jwk.algorithm = alg.family

/-- The first segment is such a header. -/
def HeaderSegment [Crates] (header : String) (alg : Algorithm) (jwk : Jwk) : Prop :=
  ∃ bytes members keyMembers algName, Base64.decode header = some bytes ∧
    Crates.valueFromSlice bytes = .ok (.object members) ∧
    HeaderSound members keyMembers algName alg jwk

/-- Claims that name the proof and the request it is for. -/
structure ClaimsSound [Crates] (claims : VerifiedDpopClaims) (jti htm htu : String) : Prop where
  jtiValue : claims.jti = some (.string jti)
  jtiLen : jti ≠ "" ∧ len jti ≤ MAX_DPOP_JTI_LEN
  htmValue : claims.htm = some (.string htm)
  htuValue : ∃ claimHtu canonical, claims.htu = some (.string claimHtu) ∧ claimHtu ≠ "" ∧
    canonicalHtu claimHtu = some canonical ∧ canonicalHtu htu = some canonical

theorem ensureAsymmetricKeyMatchesAlg_eq_ok {jwk : Jwk} {alg : Algorithm} {u : Unit} :
    ensureAsymmetricKeyMatchesAlg jwk alg = .ok u ↔ jwk.algorithm = alg.family := by
  obtain ⟨algorithm, value⟩ := jwk
  cases algorithm <;> cases alg <;> simp [ensureAsymmetricKeyMatchesAlg, Algorithm.family]

section Checks

variable [Crates]

theorem validateHeader_eq_ok {header : Json} {alg : Algorithm} {jwk : Jwk} :
    validateHeader header = .ok (alg, jwk) ↔ ∃ members keyMembers algName,
      header = .object members ∧ HeaderSound members keyMembers algName alg jwk := by
  have hfold : ∀ (value : Option Json) (s : String),
      value.bind Json.asStr = some s ↔ value = some (.string s) := by
    intro value s
    simp [Option.bind_eq_some_iff, asStr_eq_some]
  simp only [validateHeader, bind_eq_ok, okOr_eq_ok, rejectIf_eq_ok, pure_eq_ok, asObject_eq_some,
    bne_eq_false_iff_eq, hfold, ensureAsymmetricKeyMatchesAlg_eq_ok, Prod.mk.injEq]
  constructor
  · intro hall
    obtain ⟨members, hheader, _, htyp, algName, halg, _, hallowed, alg', hnamed, value, hkey,
      keyMembers, hobject, _, hpublic, _, hkeyAlg, jwk', hread, _, hfamily, halgEq,
      hjwkEq⟩ := hall
    subst hobject halgEq hjwkEq
    refine ⟨members, keyMembers, algName, hheader, htyp, halg, ?_, hnamed, hkey, ?_, ?_, hread,
      hfamily⟩
    · simpa using hallowed
    · intro name hname
      rw [List.any_eq_false] at hpublic
      simpa [Json.containsKey] using hpublic name hname
    · intro name hname
      rw [(hfold _ name).mpr hname] at hkeyAlg
      simpa using hkeyAlg
  · intro hall
    obtain ⟨members, keyMembers, algName, hheader, h⟩ := hall
    refine ⟨members, hheader, (), h.typ, algName, h.algValue, (), by simpa using h.allowed, alg,
      h.named, .object keyMembers, h.key, keyMembers, rfl, (), ?_, (), ?_, jwk, h.read, (), h.family,
      rfl, rfl⟩
    · rw [List.any_eq_false]
      intro name hname
      simp [Json.containsKey, h.publicOnly name hname]
    · cases hname : (Json.get keyMembers "alg").bind Json.asStr with
      | none => rfl
      | some name => simp [h.keyAlg name ((hfold _ name).mp hname)]

omit [Crates] in
theorem compactParts_eq_ok {proof header payload signature : String} :
    compactParts proof = .ok (header, payload, signature) ↔
      splitAtChar '.' proof = [header, payload, signature] ∧
        header ≠ "" ∧ payload ≠ "" ∧ signature ≠ "" := by
  rw [compactParts]
  split
  · next h p s hsplit =>
      rw [hsplit]
      by_cases hempty : h = "" ∨ p = "" ∨ s = ""
      · have hbool : (h.isEmpty || p.isEmpty || s.isEmpty) = true := by
          simpa [String.isEmpty_iff, or_assoc] using hempty
        rw [if_pos hbool]
        constructor
        · intro herror
          cases herror
        · intro hall
          obtain ⟨heq, hne⟩ := hall
          cases heq
          obtain hh | hp | hs := hempty
          · exact absurd hh hne.1
          · exact absurd hp hne.2.1
          · exact absurd hs hne.2.2
      · have hbool : ¬(h.isEmpty || p.isEmpty || s.isEmpty) = true := by
          simpa [String.isEmpty_iff, or_assoc] using hempty
        rw [not_or, not_or] at hempty
        rw [if_neg hbool]
        constructor
        · intro hok
          cases hok
          exact ⟨rfl, hempty⟩
        · intro hall
          obtain ⟨heq, _⟩ := hall
          cases heq
          rfl
  · next hsplit =>
      constructor
      · intro herror
        cases herror
      · intro hall
        obtain ⟨heq, _⟩ := hall
        exact absurd heq (hsplit header payload signature)

/-- Every check but the one of the age. -/
structure ProofChecked (input : DpopProofRequest) (header payload signature : String)
    (alg : Algorithm) (jwk : Jwk) (claims : VerifiedDpopClaims) (jti : String) : Prop where
  request : isBlank input.proof = false ∧ isBlank input.htm = false ∧ isBlank input.htu = false
  shape : ProofShape input.proof header payload signature
  header : HeaderSegment header alg jwk
  decodable : Crates.jwkDecodable jwk = true
  payload : ∃ bytes, Crates.dpopDecode alg jwk input.proof = some bytes ∧
    Crates.dpopFromSlice bytes = .ok claims
  claims : ClaimsSound claims jti input.htm input.htu

omit [Crates] in
theorem requiredStringClaim_eq_ok {value : Option Json} {claim s : String} :
    requiredStringClaim value claim = .ok s ↔ value = some (.string s) ∧ s ≠ "" := by
  simp only [requiredStringClaim, okOr_eq_ok, Option.filter_eq_some_iff, Option.bind_eq_some_iff,
    asStr_eq_some, Bool.not_eq_true', String.isEmpty_eq_false_iff]
  constructor
  · intro h
    obtain ⟨⟨value', hvalue, hstring⟩, hne⟩ := h
    exact ⟨by rw [hvalue, hstring], hne⟩
  · intro h
    obtain ⟨hvalue, hne⟩ := h
    exact ⟨⟨.string s, hvalue, rfl⟩, hne⟩

theorem validateHtu_eq_ok {claimHtu htu : String} {u : Unit} :
    validateHtu claimHtu htu = .ok u ↔
      ∃ canonical, canonicalHtu claimHtu = some canonical ∧ canonicalHtu htu = some canonical := by
  simp only [validateHtu, bind_eq_ok, okOr_eq_ok, rejectIf_eq_ok, bne_eq_false_iff_eq]
  constructor
  · intro h
    obtain ⟨canonical, hclaim, canonical', hrequest, heq⟩ := h
    exact ⟨canonical, hclaim, heq ▸ hrequest⟩
  · intro h
    obtain ⟨canonical, hclaim, hrequest⟩ := h
    exact ⟨canonical, hclaim, canonical, hrequest, rfl⟩

/-- When a proof is accepted, and what comes out. -/
theorem validateDpopProof_eq_ok {input : DpopProofRequest} {binding : DpopBinding} :
    validateDpopProof input = .ok binding ↔ ∃ header payload signature alg jwk claims jti iat,
      ProofChecked input header payload signature alg jwk claims jti ∧
      validateIat claims.iat input.now input.clockSkewLeeway = .ok iat ∧
      binding = ⟨Crates.jwkThumbprint jwk, jti, iat,
        saturatingAdd iat (maxZero input.clockSkewLeeway)⟩ := by
  simp only [validateDpopProof, checkProofInput, decodeJsonPart, verifyProofSignature, validateJti,
    validateHtm, bind_eq_ok, okOr_eq_ok, rejectIf_eq_ok, mapError_eq_ok, pure_eq_ok,
    requiredStringClaim_eq_ok, validateHtu_eq_ok, decide_eq_false_iff_not, Nat.not_lt,
    bne_eq_false_iff_eq, Bool.or_eq_false_iff, Bool.not_eq_false']
  constructor
  · intro hall
    obtain ⟨_, ⟨_, hproof, _, hlen, hblank⟩, ⟨header, payload, signature⟩, hparts, value,
      ⟨headerBytes, hheaderBytes, hvalue⟩, ⟨alg, jwk⟩, hkey, claims, ⟨_, hdecodable, payloadBytes,
      hdecode, hread⟩, jti, ⟨hjti, hjtiNe⟩, jti', ⟨_, hjtiLen, hjtiEq⟩, htm, ⟨hhtm, _⟩, _,
      hmethod, htu, ⟨hhtu, hhtuNe⟩, _, ⟨canonical, hclaimHtu, hrequestHtu⟩, iat, hiat,
      hbinding⟩ := hall
    subst hjtiEq hmethod
    obtain ⟨hsegments, hnonempty⟩ := compactParts_eq_ok.mp hparts
    obtain ⟨members, keyMembers, algName, hobject, hsound⟩ := validateHeader_eq_ok.mp hkey
    rw [hobject] at hvalue
    exact ⟨header, payload, signature, alg, jwk, claims, jti, iat,
      { request := ⟨hproof, hblank⟩
        shape := ⟨hlen, hsegments, hnonempty⟩
        header := ⟨headerBytes, members, keyMembers, algName, hheaderBytes, hvalue, hsound⟩
        decodable := hdecodable
        payload := ⟨payloadBytes, hdecode, hread⟩
        claims := ⟨hjti, ⟨hjtiNe, hjtiLen⟩, hhtm, htu, canonical, hhtu, hhtuNe, hclaimHtu,
          hrequestHtu⟩ }, hiat, hbinding.symm⟩
  · intro hall
    obtain ⟨header, payload, signature, alg, jwk, claims, jti, iat, h, hiat, hbinding⟩ := hall
    obtain ⟨headerBytes, members, keyMembers, algName, hheaderBytes, hvalue, hsound⟩ := h.header
    obtain ⟨payloadBytes, hdecode, hread⟩ := h.payload
    obtain ⟨htu, canonical, hhtu, hhtuNe, hclaimHtu, hrequestHtu⟩ := h.claims.htuValue
    -- an empty `htm` would be blank
    have hhtmNe : input.htm ≠ "" := by
      intro hempty
      have hblank := h.request.2.1
      rw [hempty] at hblank
      exact absurd hblank (by decide)
    exact ⟨(), ⟨(), h.request.1, (), h.shape.proofLen, h.request.2⟩, (header, payload, signature),
      compactParts_eq_ok.mpr ⟨h.shape.segments, h.shape.nonempty⟩, .object members,
      ⟨headerBytes, hheaderBytes, hvalue⟩, (alg, jwk),
      validateHeader_eq_ok.mpr ⟨members, keyMembers, algName, rfl, hsound⟩, claims,
      ⟨(), h.decodable, payloadBytes, hdecode, hread⟩, jti, ⟨h.claims.jtiValue, h.claims.jtiLen.1⟩,
      jti, ⟨(), h.claims.jtiLen.2, rfl⟩, input.htm, ⟨h.claims.htmValue, hhtmNe⟩, (), rfl, htu,
      ⟨hhtu, hhtuNe⟩, (), ⟨canonical, hclaimHtu, hrequestHtu⟩, iat, hiat, hbinding.symm⟩

/-! ### What it means -/

/-- Which octets are signatures of a message under a key. -/
abbrev ProofValidity : Type := Algorithm → Jwk → (signature message : Bytes) → Prop

/-- What is relied on of `jsonwebtoken::decode`: it accepts a proof only if its third segment
is a signature over the first two, and hands out the second one. -/
structure DecodesDpop (valid : ProofValidity) : Prop where
  signed : ∀ {alg : Algorithm} {jwk : Jwk} {proof header payload signature : String}
    {bytes : Bytes}, Crates.dpopDecode alg jwk proof = some bytes →
    splitAtChar '.' proof = [header, payload, signature] →
      ∃ signatureBytes, Base64.decode signature = some signatureBytes ∧
        Base64.decode payload = some bytes ∧
        valid alg jwk signatureBytes (signingInput header payload)

/-- The proof was made with the key in its header, for this request, within the leeway of
`now`, and the binding says so. -/
def ProofSound (valid : ProofValidity) (input : DpopProofRequest) (binding : DpopBinding) :
    Prop :=
  ∃ header payload signature alg jwk claims jti value payloadBytes signatureBytes,
    ∃ iat : Int, ProofShape input.proof header payload signature ∧
      HeaderSegment header alg jwk ∧
      Base64.decode signature = some signatureBytes ∧
      valid alg jwk signatureBytes (signingInput header payload) ∧
      Base64.decode payload = some payloadBytes ∧
      Crates.dpopFromSlice payloadBytes = .ok claims ∧
      ClaimsSound claims jti input.htm input.htu ∧
      claims.iat = some value ∧ value.integerPart = some iat ∧
      |input.now.toInt - iat| ≤ max input.clockSkewLeeway.toInt 0 ∧
      binding.jkt = Crates.jwkThumbprint jwk ∧ binding.jti = jti ∧
      binding.replayExpiresAt.toInt = min (iat + max input.clockSkewLeeway.toInt 0) (2 ^ 63 - 1)

/-- `2 ^ 63` as the parser reads it: too large for an `i64`, but not for the comparison with
`i64::MAX as f64`. -/
def iatLimit : Json := .number (.float (2 ^ 63))

/-- A proof that passes every other check says it is from `2 ^ 63`, and that is one second
outside the window. -/
def IatAtLimit (input : DpopProofRequest) : Prop :=
  ∃ header payload signature alg jwk claims jti,
    ProofChecked input header payload signature alg jwk claims jti ∧
    claims.iat = some iatLimit ∧
    input.now.toInt + max input.clockSkewLeeway.toInt 0 = 2 ^ 63 - 1

omit [Crates] in
theorem toInt_floatToI64 {q : Rat} (hlow : -2 ^ 63 ≤ q) (hhigh : q ≤ 2 ^ 63) :
    (floatToI64 q).toInt = (if 0 ≤ q then ⌊q⌋ else ⌈q⌉) ∨ q = 2 ^ 63 := by
  generalize hn : (if 0 ≤ q then ⌊q⌋ else ⌈q⌉ : Int) = n
  have hlow' : -2 ^ 63 ≤ n := by
    rw [← hn]
    split
    · rw [Int.le_floor]
      exact_mod_cast hlow
    · have hle : (-2 ^ 63 : Int) ≤ ⌊q⌋ := by
        rw [Int.le_floor]
        exact_mod_cast hlow
      exact hle.trans (Int.floor_le_ceil q)
  simp only [floatToI64, hn]
  rw [if_neg (by omega)]
  by_cases hlimit : 2 ^ 63 ≤ n
  · right
    refine le_antisymm hhigh ?_
    -- a ceiling that large is of a negative number
    rw [← hn] at hlimit
    split at hlimit
    · rw [Int.le_floor] at hlimit
      exact_mod_cast hlimit
    · next hneg =>
        have hzero : ⌈q⌉ ≤ 0 := Int.ceil_le.mpr (by simpa using le_of_not_ge hneg)
        omega
  · left
    rw [if_neg hlimit]
    exact Int64.toInt_ofInt_of_le hlow' (by omega)

omit [Crates] in
/-- What is read is the integer part, except at the limit. -/
theorem valueToI64_integerPart {value : Json} {iat : Int64} (h : valueToI64 value = some iat) :
    value.integerPart = some iat.toInt ∨ value = iatLimit := by
  cases value with
  | number n =>
      cases n with
      | posInt n =>
          left
          have hn : n.toNat < 2 ^ 63 ∧ iat = Int64.ofNat n.toNat := by
            by_cases hlt : n.toNat < 2 ^ 63
            · simp only [valueToI64, Json.asI64, if_pos hlt, Option.some.injEq] at h
              exact ⟨hlt, h.symm⟩
            · simp only [valueToI64, Json.asI64, Json.asU64, if_neg hlt] at h
              cases h
          rw [Json.integerPart, hn.2, Int64.toInt_ofNat_of_lt hn.1]
      | negInt n =>
          left
          simp only [valueToI64, Json.asI64, Option.some.injEq] at h
          rw [Json.integerPart, h]
      | float q =>
          simp only [valueToI64, Json.asI64, Json.asU64, Json.asF64] at h
          split at h
          · next hrange =>
              cases h
              obtain hexact | hlimit := toInt_floatToI64 hrange.1 hrange.2
              · left
                rw [Json.integerPart, hexact]
              · right
                rw [iatLimit, hlimit]
          · cases h
  | null | bool _ | string _ | array _ | object _ =>
      simp [valueToI64, Json.asI64, Json.asU64, Json.asF64] at h

omit [Crates] in
theorem floor_limit : ⌊(2 ^ 63 : Rat)⌋ = 2 ^ 63 := by
  have hcast : (2 ^ 63 : Rat) = ((2 ^ 63 : Int) : Rat) := by norm_num
  rw [hcast, Int.floor_intCast]

omit [Crates] in
theorem valueToI64_iatLimit : valueToI64 iatLimit = some Int64.maxValue := by
  simp only [valueToI64, iatLimit, Json.asI64, Json.asU64, Json.asF64, floatToI64]
  norm_num [floor_limit]

omit [Crates] in
theorem integerPart_iatLimit : iatLimit.integerPart = some (2 ^ 63) := by
  rw [iatLimit, Json.integerPart, if_pos (by norm_num), floor_limit]

section Soundness

variable {valid : ProofValidity} {input : DpopProofRequest} {binding : DpopBinding}

/-- What is accepted is sound when the time that is read is the one that is meant, or the
window is open at both. -/
theorem proofSound_of_checked (hdecode : DecodesDpop valid)
    {header payload signature : String} {alg : Algorithm} {jwk : Jwk} {claims : VerifiedDpopClaims}
    {jti : String} {iat : Int64}
    (h : ProofChecked input header payload signature alg jwk claims jti)
    (hiat : validateIat claims.iat input.now input.clockSkewLeeway = .ok iat)
    (hlimit : claims.iat = some iatLimit →
      input.now.toInt + max input.clockSkewLeeway.toInt 0 ≠ 2 ^ 63 - 1) :
    ProofSound valid input ⟨Crates.jwkThumbprint jwk, jti, iat,
      saturatingAdd iat (maxZero input.clockSkewLeeway)⟩ := by
  obtain ⟨bytes, hpayload, hread⟩ := h.payload
  obtain ⟨signatureBytes, hsignature, hbytes, hvalid⟩ := hdecode.signed hpayload h.shape.segments
  obtain ⟨hvalue, hlate, hearly⟩ := validateIat_ok_iff.mp hiat
  rw [Option.bind_eq_some_iff] at hvalue
  obtain ⟨value, hclaim, hreads⟩ := hvalue
  have hexpires : (saturatingAdd iat (maxZero input.clockSkewLeeway)).toInt =
      min (iat.toInt + max input.clockSkewLeeway.toInt 0) (2 ^ 63 - 1) := by
    have hrange := toInt_range iat
    rw [toInt_saturatingAdd, toInt_maxZero]
    omega
  obtain ⟨n, hn, hwindow, hend⟩ : ∃ n, value.integerPart = some n ∧
      |input.now.toInt - n| ≤ max input.clockSkewLeeway.toInt 0 ∧
      min (iat.toInt + max input.clockSkewLeeway.toInt 0) (2 ^ 63 - 1) =
        min (n + max input.clockSkewLeeway.toInt 0) (2 ^ 63 - 1) := by
    -- at the limit the time that is read is one less than the one that is meant
    rcases valueToI64_integerPart hreads with hpart | hpart
    · refine ⟨iat.toInt, hpart, ?_, rfl⟩
      rw [abs_le]
      omega
    · rw [hpart] at hclaim hreads ⊢
      have hopen := hlimit hclaim
      cases valueToI64_iatLimit.symm.trans hreads
      have hmax : Int64.maxValue.toInt = 2 ^ 63 - 1 := rfl
      have hnow := toInt_range input.now
      refine ⟨2 ^ 63, integerPart_iatLimit, ?_, ?_⟩
      · rw [abs_le]
        omega
      · omega
  exact ⟨header, payload, signature, alg, jwk, claims, jti, value, bytes, signatureBytes, n, h.shape,
    h.header, hsignature, hvalid, hbytes, hread, h.claims, hclaim, hn, hwindow, rfl, rfl,
    hexpires.trans hend⟩

/-- At the limit a proof is accepted one second outside its window. -/
theorem not_proofSound_of_iatAtLimit (hdecode : DecodesDpop valid) (h : IatAtLimit input) :
    ∃ binding, validateDpopProof input = .ok binding ∧ ¬ProofSound valid input binding := by
  obtain ⟨header, payload, signature, alg, jwk, claims, jti, hchecked, hclaim, hnow⟩ := h
  have hmax : Int64.maxValue.toInt = 2 ^ 63 - 1 := rfl
  have hiat : validateIat claims.iat input.now input.clockSkewLeeway = .ok Int64.maxValue := by
    rw [validateIat_ok_iff, hclaim]
    exact ⟨valueToI64_iatLimit, by omega, by omega⟩
  refine ⟨_, validateDpopProof_eq_ok.mpr
    ⟨header, payload, signature, alg, jwk, claims, jti, _, hchecked, hiat, rfl⟩, ?_⟩
  intro ⟨header', payload', signature', alg', jwk', claims', jti', value, bytes', signatureBytes,
    iat, hshape, _, _, _, hbytes', hread', _, hclaim', hpart, hwindow, _⟩
  obtain ⟨bytes, hpayload, hread⟩ := hchecked.payload
  obtain ⟨_, _, hbytes, _⟩ := hdecode.signed hpayload hchecked.shape.segments
  -- the segments determine the payload, so these are the same claims
  cases hchecked.shape.segments.symm.trans hshape.segments
  cases hbytes.symm.trans hbytes'
  cases hread.symm.trans hread'
  cases hclaim.symm.trans hclaim'
  cases integerPart_iatLimit.symm.trans hpart
  rw [abs_le] at hwindow
  omega

end Soundness

end Checks

/-- Everything that is accepted is sound, exactly when the proof is not one at the limit. -/
theorem dpop_proof_sound_iff [Crates] {valid : ProofValidity} (h : DecodesDpop valid)
    (input : DpopProofRequest) :
    (∀ binding, validateDpopProof input = .ok binding → ProofSound valid input binding) ↔
      ¬IatAtLimit input := by
  constructor
  · intro hall hlimit
    obtain ⟨binding, haccepted, hunsound⟩ := not_proofSound_of_iatAtLimit h hlimit
    exact hunsound (hall binding haccepted)
  · intro hlimit binding haccepted
    obtain ⟨header, payload, signature, alg, jwk, claims, jti, iat, hchecked, hiat, rfl⟩ :=
      validateDpopProof_eq_ok.mp haccepted
    refine proofSound_of_checked h hchecked hiat fun hclaim hnow => ?_
    exact hlimit ⟨header, payload, signature, alg, jwk, claims, jti, hchecked, hclaim, hnow⟩

/-! ### One proof -/

namespace Sample

/-- The sample proof again, dated `2 ^ 63`. -/
def limitProof : Signed where
  header := proof.header
  payload := obj [("jti", str "p1"), ("htm", str "POST"),
    ("htu", str "https://sts.example/token"), ("iat", asBytes "9223372036854775808.0")]
  signature := words
    [0x2afd8fd14f3523bee193c83cc3cc02f8, 0x517946e6a940d080f7df62b6e377862a,
     0x771552f281a7de0a2bc7602a6b8f7fef, 0x8ad49de5bd9017f7ffc94d765a38a508]

/-- The sample crates, where this is the proof. -/
abbrev proofCrates (s : Signed) (claims : VerifiedDpopClaims) : Crates :=
  { crates with
    dpopFromSlice := fromSlice [(s, claims)]
    dpopDecode := fun _ _ token => if token = s.token then some s.payload else none }

def proofRequest (s : Signed) (now : Int64) : DpopProofRequest :=
  ⟨s.token, "POST", "https://sts.example/token", now, 30⟩

/-- The key in the header. -/
def holderMembers : List (String × Json) :=
  [("kty", .string "OKP"), ("crv", .string "Ed25519"), ("x", .string proofKey)]

def holderJwk : Jwk := ⟨.octetKeyPair, .object holderMembers⟩

/-- There is one signature. -/
def onlySignature (s : Signed) : ProofValidity := fun _ _ signature message =>
  signature = s.signature ∧
    message = signingInput (Base64.encode s.header) (Base64.encode s.payload)

theorem decodesDpop_single (s : Signed) (claims : VerifiedDpopClaims) :
    @DecodesDpop (proofCrates s claims) (onlySignature s) := by
  refine @DecodesDpop.mk (proofCrates s claims) _ ?_
  intro alg jwk token header payload signature bytes hdecode hsegments
  have htoken : token = s.token ∧ bytes = s.payload := by
    have hentry : (if token = s.token then some s.payload else none) = some bytes := hdecode
    rw [Option.ite_none_right_eq_some, Option.some.injEq] at hentry
    exact ⟨hentry.1, hentry.2.symm⟩
  rw [htoken.1, Signed.token, splitAtChar_compactJws] at hsegments
  cases hsegments
  exact ⟨s.signature, Base64.decode_encode _, by rw [htoken.2, Base64.decode_encode], rfl, rfl⟩

/-- A proof like the sample proof passes every check but, maybe, the one of its age. -/
theorem checked_single {s : Signed} {iat : Option Json} (hheader : s.header = proof.header)
    (hlen : len s.token ≤ MAX_DPOP_PROOF_LEN)
    (hpayload : s.payload ≠ []) (hsignature : s.signature ≠ []) (now : Int64) :
    @ProofChecked (proofCrates s { proofClaims with iat := iat }) (proofRequest s now)
      (Base64.encode s.header) (Base64.encode s.payload) (Base64.encode s.signature) .edDsa
      holderJwk { proofClaims with iat := iat } "p1" := by
  have hheaderNe : Base64.encode s.header ≠ "" := by
    rw [hheader]
    exact Base64.encode_ne_empty (List.cons_ne_nil _ _)
  have hvalue : valueFromSlice s.header = .ok proofHeader := by
    have htake : proof.header.take 1 = [123] := by decide
    rw [hheader, valueFromSlice_of_take htake (by decide), readDocument, if_pos rfl]
  have hsound : @HeaderSegment (proofCrates s { proofClaims with iat := iat })
      (Base64.encode s.header) .edDsa holderJwk := by
    refine ⟨s.header, _, holderMembers, "EdDSA", Base64.decode_encode _, hvalue, ?_⟩
    exact @HeaderSound.mk (proofCrates s { proofClaims with iat := iat }) _ _ _ _ _ rfl rfl
      (by decide) rfl rfl (by decide) (fun name hname => by cases hname) rfl rfl
  have hhtu : @canonicalHtu (proofCrates s { proofClaims with iat := iat })
      "https://sts.example/token" = some "https://sts.example/token" := by
    have hsame : canonicalHtu "https://sts.example/token" = some "https://sts.example/token" := by
      decide
    exact hsame
  have hclaims : @ClaimsSound (proofCrates s { proofClaims with iat := iat })
      { proofClaims with iat := iat } "p1" "POST" "https://sts.example/token" :=
    @ClaimsSound.mk (proofCrates s { proofClaims with iat := iat }) _ _ _ _ rfl
      ⟨by decide, by decide⟩ rfl ⟨_, _, rfl, by decide, hhtu, hhtu⟩
  have hrequest : isBlank "POST" = false ∧ isBlank "https://sts.example/token" = false := by decide
  exact @ProofChecked.mk (proofCrates s { proofClaims with iat := iat }) _ _ _ _ _ _ _ _
    ⟨isBlank_token s, hrequest⟩
    ⟨hlen, splitAtChar_compactJws _ _ _, hheaderNe, Base64.encode_ne_empty hpayload,
      Base64.encode_ne_empty hsignature⟩
    hsound rfl
    ⟨s.payload, if_pos rfl, fromSlice_payload (by simp) (List.mem_singleton.mpr rfl)⟩ hclaims

/-- A proof of `70` is accepted up to `100`, and no longer when it is dropped. -/
theorem retention_until_100 :
    validateIat (some (.number (.posInt 70))) 100 30 = .ok 70 ∧
      validateIat (some (.number (.posInt 70))) 101 30 ≠ .ok 70 := by
  have hread : valueToI64 (.number (.posInt 70)) = some 70 := rfl
  have haccepted : validateIat (some (.number (.posInt 70))) 40 30 = .ok 70 :=
    validateIat_ok_iff.mpr ⟨hread, by decide, by decide⟩
  constructor
  · exact (retention_covers_acceptance (by decide) haccepted).1.mpr (by decide)
  · intro hlate
    exact absurd ((retention_covers_acceptance (by decide) haccepted).1.mp hlate) (by decide)

/-- The sample proof is accepted, and sound. -/
theorem proof_sound :
    ∃ binding, @validateDpopProof (proofCrates proof proofClaims) (proofRequest proof 70) =
        .ok binding ∧
      @ProofSound (proofCrates proof proofClaims) (onlySignature proof) (proofRequest proof 70)
        binding := by
  have hchecked := @checked_single proof (some (.number (.posInt 70))) rfl
    (len_token (List.mem_cons_self ..)) (List.cons_ne_nil _ _) (List.cons_ne_nil _ _) 70
  have hread : valueToI64 (.number (.posInt 70)) = some 70 := rfl
  have hiat : validateIat (some (.number (.posInt 70))) 70 30 = .ok 70 :=
    validateIat_ok_iff.mpr ⟨hread, by decide, by decide⟩
  have haccepted := (@validateDpopProof_eq_ok (proofCrates proof proofClaims) _ _).mpr
    ⟨_, _, _, _, _, _, _, _, hchecked, hiat, rfl⟩
  refine ⟨_, haccepted, ?_⟩
  have hopen : ¬@IatAtLimit (proofCrates proof proofClaims) (proofRequest proof 70) := by
    intro ⟨_, _, _, _, _, _, _, _, _, hnow⟩
    exact absurd hnow (by decide)
  exact (@dpop_proof_sound_iff (proofCrates proof proofClaims) _
    (decodesDpop_single proof proofClaims) (proofRequest proof 70)).mpr hopen _ haccepted

/-- Thirty seconds before the end of the range, a proof from `2 ^ 63` is accepted with a
leeway of thirty seconds. -/
theorem limit_proof_accepted :
    let now : Int64 := 9223372036854775777
    @DecodesDpop (proofCrates limitProof { proofClaims with iat := iatLimit })
        (onlySignature limitProof) ∧
      ∃ binding, @validateDpopProof (proofCrates limitProof { proofClaims with iat := iatLimit })
          (proofRequest limitProof now) = .ok binding ∧
        ¬@ProofSound (proofCrates limitProof { proofClaims with iat := iatLimit })
          (onlySignature limitProof) (proofRequest limitProof now) binding := by
  intro now
  have hdecode := decodesDpop_single limitProof { proofClaims with iat := iatLimit }
  have hlen : len limitProof.token ≤ MAX_DPOP_PROOF_LEN := by
    rw [len_token_eq]
    decide +kernel
  have hchecked := @checked_single limitProof iatLimit rfl hlen (List.cons_ne_nil _ _)
    (List.cons_ne_nil _ _) now
  refine ⟨hdecode, ?_⟩
  exact @not_proofSound_of_iatAtLimit
    (proofCrates limitProof { proofClaims with iat := iatLimit }) _ _ hdecode
    ⟨_, _, _, _, _, _, _, hchecked, rfl, by decide⟩

end Sample

end StsDelegate
