import StsDelegate.Sample.Requests

/-!
# No confusion of algorithms and keys

What a token has to be for `verify_claims_against_jwks_inner` to accept it. The attacker
writes the header, so its algorithm is believed only as far as the key agrees with it: the
first key with the header's id has to be of the family and for the algorithm that the
header names, and the signature has to be one of that key over the first two segments as
they stand.

For RS256 the segments are taken apart a second time, by `jsonwebtoken`. `DecodesRs256` is
what is relied on there; which signatures are valid is left open.
-/

namespace StsDelegate

open Text Fallible

/-- Which octets are RS256 signatures of a message under a public key. -/
abbrev RsaValidity : Type := (n e signature message : Bytes) → Prop

/-- Octets that start with a non-zero one: an integer in its shortest form. -/
def Minimal (bytes : Bytes) : Prop := ∃ first rest, bytes = first :: rest ∧ first ≠ 0

/-- What a segment signs: itself and the other segment, as they stand in the token. -/
def signingInput (header payload : String) : Bytes := asBytes (header ++ "." ++ payload)

section Server

variable [Crates]

/-- What is relied on of `jsonwebtoken::decode`: it accepts a token only if its third segment
is a signature over the first two, and hands out the second one. -/
structure DecodesRs256 (valid : RsaValidity) : Prop where
  signed : ∀ {token n e header payload signature : String} {nBytes eBytes bytes : Bytes},
    Crates.rs256Decode token n e = .ok bytes →
    splitAtChar '.' token = [header, payload, signature] →
    Base64.decode n = some nBytes → Base64.decode e = some eBytes →
      ∃ signatureBytes, Base64.decode signature = some signatureBytes ∧
        Base64.decode payload = some bytes ∧
        valid nBytes eBytes signatureBytes (signingInput header payload)

/-- The key is an RSA key for RS256, and the signature is valid under it. -/
structure Rs256Accepted (valid : RsaValidity) (jwk : PublicJwk) (signature message : Bytes) :
    Prop where
  kty : jwk.kty = "RSA"
  alg : jwk.alg = "RS256"
  key : ∃ n e, jwk.n.bind Base64.decode = some n ∧ jwk.e.bind Base64.decode = some e ∧
    Minimal n ∧ Minimal e ∧ valid n e signature message

/-- The key is an ML-DSA key for this algorithm, and the signature is valid under it. -/
structure MlDsaAccepted (algorithm : MlDsaAlgorithm) (jwk : PublicJwk)
    (signature message : Bytes) : Prop where
  kty : jwk.kty = "AKP"
  alg : jwk.alg = algorithm.joseAlg
  noRsaMembers : jwk.n = none ∧ jwk.e = none
  key : ∃ publicKey, jwk.pub.bind Base64.decode = some publicKey ∧
    publicKey.length = algorithm.publicKeyLen ∧
    Crates.mlDsaVerifyOneshot algorithm publicKey signature message = .ok true
  signatureLen : signature.length = algorithm.signatureLen

/-! ### The segments -/

omit [Crates] in
theorem parseCompactJws_eq_ok {token header payload signature : String} :
    parseCompactJws token = .ok (header, payload, signature) ↔
      splitAtChar '.' token = [header, payload, signature] := by
  rw [parseCompactJws]
  split <;> simp_all

theorem decodeCompactSegment_eq_ok {label value : String} {bytes : Bytes} :
    decodeCompactSegment label value = .ok bytes ↔ Base64.decode value = some bytes := by
  rw [decodeCompactSegment, okOr_eq_ok]

theorem decodeCompactJwsHeader_eq_ok {token : String} {header : CompactJwsHeader} :
    decodeCompactJwsHeader token = .ok header ↔
      ∃ first second third bytes, splitAtChar '.' token = [first, second, third] ∧
        Base64.decode first = some bytes ∧ Crates.headerFromSlice bytes = .ok header := by
  simp only [decodeCompactJwsHeader, bind_eq_ok, decodeCompactSegment_eq_ok, mapError_eq_ok]
  constructor
  · intro h
    obtain ⟨⟨first, second, third⟩, hparse, bytes, hbytes, hheader⟩ := h
    exact ⟨first, second, third, bytes, parseCompactJws_eq_ok.mp hparse, hbytes, hheader⟩
  · intro h
    obtain ⟨first, second, third, bytes, hsplit, hbytes, hheader⟩ := h
    exact ⟨(first, second, third), parseCompactJws_eq_ok.mpr hsplit, bytes, hbytes, hheader⟩

/-! ### The keys -/

omit [Crates] in
theorem validatePublicComponents_eq_ok {n e : Bytes} {u : Unit} :
    validatePublicComponents n e = .ok u ↔ Minimal n ∧ Minimal e := by
  simp only [validatePublicComponents, Minimal, bind_eq_ok, rejectIf_eq_ok, Bool.or_eq_false_iff]
  cases n <;> cases e <;> simp

theorem rsaPublicKeyFromJwk_eq_ok {jwk : PublicJwk} {key : DecodedRsaPublicKey}
    (h : rsaPublicKeyFromJwk jwk = .ok key) :
    jwk.kty = "RSA" ∧ jwk.alg = "RS256" ∧ jwk.n.bind Base64.decode = some key.n ∧
      jwk.e.bind Base64.decode = some key.e ∧ Minimal key.n ∧ Minimal key.e := by
  simp only [rsaPublicKeyFromJwk, decodeJwkComponent, decodeJwkOctets, bind_eq_ok, rejectIf_eq_ok,
    okOr_eq_ok, pure_eq_ok, validatePublicComponents_eq_ok, bne_eq_false_iff_eq] at h
  obtain ⟨_, hkty, _, halg, n, hn, nBytes, ⟨_, hnBytes, _, -, rfl⟩, e, he, eBytes,
    ⟨_, heBytes, _, -, rfl⟩, _, hminimal, rfl⟩ := h
  exact ⟨hkty, halg, by rw [hn]; exact hnBytes, by rw [he]; exact heBytes, hminimal⟩

theorem akpPublicKeyFromJwk_eq_ok {jwk : PublicJwk} {key : DecodedAkpPublicKey}
    (h : akpPublicKeyFromJwk jwk = .ok key) :
    jwk.kty = "AKP" ∧ MlDsaAlgorithm.fromJoseAlg jwk.alg = some key.algorithm ∧
      (jwk.n = none ∧ jwk.e = none) ∧ jwk.pub.bind Base64.decode = some key.publicKey ∧
      key.publicKey.length = key.algorithm.publicKeyLen := by
  simp only [akpPublicKeyFromJwk, decodeJwkOctets, bind_eq_ok, rejectIf_eq_ok, okOr_eq_ok,
    pure_eq_ok, bne_eq_false_iff_eq, Bool.or_eq_false_iff, Option.isSome_eq_false_iff,
    Option.isNone_iff_eq_none] at h
  obtain ⟨_, hkty, algorithm, halg, _, hmembers, pub, hpub, publicKey, hbytes, _, hlength, rfl⟩ := h
  exact ⟨hkty, halg, hmembers, by rw [hpub]; exact hbytes, hlength⟩

/-! ### The two procedures -/

section Verified

variable {T : Type} {fromSlice : Bytes → Except String T} {token : String} {jwk : PublicJwk}
  {claims : T} {header payload signature : String}

theorem verifyRs256ClaimsAgainstJwk_sound {valid : RsaValidity} (laws : DecodesRs256 valid)
    (hsplit : splitAtChar '.' token = [header, payload, signature])
    (h : verifyRs256ClaimsAgainstJwk fromSlice token jwk = .ok claims) :
    ∃ payloadBytes signatureBytes, Base64.decode payload = some payloadBytes ∧
      Base64.decode signature = some signatureBytes ∧ fromSlice payloadBytes = .ok claims ∧
      Rs256Accepted valid jwk signatureBytes (signingInput header payload) := by
  simp only [verifyRs256ClaimsAgainstJwk, bind_eq_ok, okOr_eq_ok, mapError_eq_ok] at h
  obtain ⟨key, hkey, n, hn, e, he, -, -, bytes, hdecode, hclaims⟩ := h
  obtain ⟨hkty, halg, hnBytes, heBytes, hminimal⟩ := rsaPublicKeyFromJwk_eq_ok hkey
  rw [hn] at hnBytes
  rw [he] at heBytes
  obtain ⟨signatureBytes, hsignature, hpayload, hvalid⟩ :=
    laws.signed hdecode hsplit hnBytes heBytes
  refine ⟨bytes, signatureBytes, hpayload, hsignature, hclaims, hkty, halg, key.n, key.e, ?_, ?_,
    hminimal.1, hminimal.2, hvalid⟩
  · rw [hn]
    exact hnBytes
  · rw [he]
    exact heBytes

theorem verifyMldsaClaimsAgainstJwk_sound {headerAlg : String}
    (hsplit : splitAtChar '.' token = [header, payload, signature])
    (h : verifyMldsaClaimsAgainstJwk fromSlice token jwk headerAlg = .ok claims) :
    ∃ payloadBytes signatureBytes algorithm, Base64.decode payload = some payloadBytes ∧
      Base64.decode signature = some signatureBytes ∧ fromSlice payloadBytes = .ok claims ∧
      headerAlg = algorithm.joseAlg ∧
      MlDsaAccepted algorithm jwk signatureBytes (signingInput header payload) := by
  simp only [verifyMldsaClaimsAgainstJwk, bind_eq_ok, okOr_eq_ok, mapError_eq_ok, rejectIf_eq_ok,
    bne_eq_false_iff_eq, decodeCompactSegment_eq_ok, decodePayloadClaims] at h
  obtain ⟨algorithm, halg, key, hkey, _, hsame, segments, hparse, signatureBytes, hsignature, _,
    hlength, -, -, -, -, ok, hverify, _, hok, payloadBytes, hpayload, hclaims⟩ := h
  -- the token is taken apart again, into the same segments
  have hsegments : segments = (header, payload, signature) := by
    rw [parseCompactJws_eq_ok.mpr hsplit, Except.ok.injEq] at hparse
    exact hparse.symm
  subst hsegments
  obtain ⟨hkty, hkeyAlg, hmembers, hpub, hpubLength⟩ := akpPublicKeyFromJwk_eq_ok hkey
  rw [hsame] at hkeyAlg hpubLength
  have htrue : ok = true := by simpa using hok
  subst htrue
  exact ⟨payloadBytes, signatureBytes, algorithm, hpayload, hsignature, hclaims,
    MlDsaAlgorithm.eq_joseAlg halg, hkty, MlDsaAlgorithm.eq_joseAlg hkeyAlg, hmembers,
    ⟨key.publicKey, hpub, hpubLength, hverify⟩, hlength⟩

/-- Everything that stands behind a token that was accepted. -/
structure SoundlyVerified (valid : RsaValidity) (fromSlice : Bytes → Except String T)
    (token : String) (jwks : JwksDocument) (allowedAlgs : Option (List String))
    (v : VerifiedJws T) : Prop where
  allowed : ∀ allowed, allowedAlgs = some allowed → v.alg ∈ allowed
  segments : ∃ header payload signature jwk headerBytes payloadBytes signatureBytes,
    splitAtChar '.' token = [header, payload, signature] ∧
    Base64.decode header = some headerBytes ∧ Base64.decode payload = some payloadBytes ∧
    Base64.decode signature = some signatureBytes ∧
    Crates.headerFromSlice headerBytes = .ok ⟨v.alg, some v.kid, v.typ⟩ ∧
    fromSlice payloadBytes = .ok v.claims ∧
    jwks.keys.find? (fun key => key.kid == v.kid) = some jwk ∧
    (v.alg = "RS256" ∧ Rs256Accepted valid jwk signatureBytes (signingInput header payload) ∨
      ∃ algorithm : MlDsaAlgorithm, v.alg = algorithm.joseAlg ∧
        MlDsaAccepted algorithm jwk signatureBytes (signingInput header payload))

/-- **No confusion of algorithms and keys.** A token is accepted only with a permitted
algorithm, under the first key of its id, which is a key for that algorithm, and with a
signature of that key over its first two segments; what comes out is read from them. -/
theorem verified_without_confusion {valid : RsaValidity} (laws : DecodesRs256 valid)
    {jwks : JwksDocument} {allowedAlgs : Option (List String)} {v : VerifiedJws T}
    (h : verifyClaimsAgainstJwksInner fromSlice token jwks allowedAlgs = .ok v) :
    SoundlyVerified valid fromSlice token jwks allowedAlgs v := by
  obtain ⟨-, hallowed, -⟩ := verifyClaimsAgainstJwksInner_ok h
  refine ⟨hallowed, ?_⟩
  simp only [verifyClaimsAgainstJwksInner, bind_eq_ok, rejectIf_eq_ok, okOr_eq_ok, pure_eq_ok] at h
  obtain ⟨header, hheader, -, -, kid, hkid, jwk, hjwk, claims, hclaims, rfl⟩ := h
  obtain ⟨first, second, third, headerBytes, hsplit, hfirst, hread⟩ :=
    decodeCompactJwsHeader_eq_ok.mp hheader
  have hread' : Crates.headerFromSlice headerBytes = .ok ⟨header.alg, some kid, header.typ⟩ := by
    rw [hread, ← hkid]
  rw [verifyClaimsAgainstJwk] at hclaims
  split at hclaims
  · next halg =>
      obtain ⟨payloadBytes, signatureBytes, hsecond, hthird, hfrom, haccepted⟩ :=
        verifyRs256ClaimsAgainstJwk_sound laws hsplit hclaims
      exact ⟨first, second, third, jwk, headerBytes, payloadBytes, signatureBytes, hsplit, hfirst,
        hsecond, hthird, hread', hfrom, hjwk, Or.inl ⟨halg, haccepted⟩⟩
  · split at hclaims
    · obtain ⟨payloadBytes, signatureBytes, algorithm, hsecond, hthird, hfrom, halg, haccepted⟩ :=
        verifyMldsaClaimsAgainstJwk_sound hsplit hclaims
      exact ⟨first, second, third, jwk, headerBytes, payloadBytes, signatureBytes, hsplit, hfirst,
        hsecond, hthird, hread', hfrom, hjwk, Or.inr ⟨algorithm, halg, haccepted⟩⟩
    · cases hclaims

end Verified

end Server

namespace Sample

/-- The signatures of the sample documents. -/
def rsaValid : RsaValidity := fun n e signature message =>
  n = modulus keyPair ∧ e = [1, 0, 1] ∧ ∃ s ∈ signed, signature = s.signature ∧
    ∃ header payload, message = signingInput header payload ∧
      Base64.decode header = some s.header ∧ Base64.decode payload = some s.payload

theorem decodesRs256 : DecodesRs256 rsaValid where
  signed {token n e header payload signature nBytes eBytes bytes} hdecode hsplit hn he := by
    change rs256Decode token n e = .ok bytes at hdecode
    rw [rs256Decode] at hdecode
    split at hdecode
    · cases hdecode
    · next s hread =>
        simp only [readCompact, parseCompactJws_eq_ok.mpr hsplit, Option.bind_eq_bind,
          Option.bind_eq_some_iff, Option.some.injEq] at hread
        obtain ⟨headerBytes, hheader, payloadBytes, hpayload, signatureBytes, hsignature, rfl⟩ := hread
        split at hdecode
        · next hsigned =>
            obtain ⟨hmem, hmodulus, hexponent⟩ := hsigned
            rw [Except.ok.injEq] at hdecode
            subst hdecode
            rw [hn, Option.some.injEq] at hmodulus
            have heBytes : eBytes = [1, 0, 1] := by
              have hexp : Base64.decode "AQAB" = some [1, 0, 1] := by decide
              rw [hexponent, hexp, Option.some.injEq] at he
              exact he.symm
            exact ⟨signatureBytes, hsignature, hpayload, hmodulus, heBytes, _, hmem, rfl, header,
              payload, rfl, hheader, hpayload⟩
        · cases hdecode

/-- The assertion of the actor was accepted for these reasons. -/
theorem actor1_without_confusion :
    SoundlyVerified rsaValid Crates.assertionFromSlice actor1.token ⟨[jwk "agent-1"]⟩ (some ["RS256"])
      ⟨assertionClaims "agent" 200 "a1", "RS256", "agent-1", some "JWT"⟩ := by
  have hheader : Crates.headerFromSlice actor1.header =
      .ok ⟨"RS256", some "agent-1", some "JWT"⟩ := toOption_eq_some.mp (by decide)
  exact verified_without_confusion decodesRs256
    (verify_token (mem_signed_of_mem_assertions (List.mem_cons_self ..)) hheader rfl (by simp)
      (fromSlice_payload (by decide) (List.mem_cons_self ..)))

end Sample

end StsDelegate
