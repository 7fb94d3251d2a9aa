import StsDelegate.Lib.JsonSize
import StsDelegate.Sample.Startup

/-!
# How long minted tokens are

`MAX_TOKEN_LEN` bounds what a request may carry. The token a request is answered with is
not compared with it, and `/introspect` and `/revoke` refuse a token that is longer. Here
the length of a minted token is computed from what goes into it: the compact form of
header, claims and signature, each in base64url.
-/

namespace StsDelegate

open Text Fallible Effectful Prog

/-! ### What is written -/

def ProtectedHeader.size (header : ProtectedHeader) : Nat :=
  JsonSize.object [("alg", JsonSize.text header.alg), ("kid", JsonSize.text header.kid),
    ("typ", JsonSize.text header.typ)]

def ActClaim.size : ActClaim → Nat
  | mk sub iss act =>
      JsonSize.object ([("sub", JsonSize.text sub)] ++ JsonSize.optional "iss" JsonSize.text iss ++
        (match act with
          | some act => [("act", act.size)]
          | none => []))

/-- The claims as an object, absent members left out. -/
def MintedClaims.size (claims : MintedClaims) : Nat :=
  JsonSize.object
    ([("iss", JsonSize.text claims.iss), ("sub", JsonSize.text claims.sub),
      ("aud", JsonSize.text claims.aud), ("scope", JsonSize.text claims.scope),
      ("iat", JsonSize.integer claims.iat), ("exp", JsonSize.integer claims.exp),
      ("jti", JsonSize.text claims.jti), ("client_id", JsonSize.text claims.clientId)] ++
    JsonSize.optional "act" ActClaim.size claims.act ++
    JsonSize.optional "cnf" (fun jkt => JsonSize.object [("jkt", JsonSize.text jkt)]) claims.cnfJkt ++
    JsonSize.optional "auth_time" JsonSize.integer claims.authTime ++
    JsonSize.optional "acr" JsonSize.text claims.acr ++
    if claims.amr.isEmpty then [] else [("amr", JsonSize.array (claims.amr.map JsonSize.text))])

section Server

variable [Crates]

/-- The octets of a signature. -/
def JoseSigner.signatureLen : JoseSigner → Nat
  | .rsa s => (Crates.rsaPublicComponents s.encodingKey).1.length
  | .externalRs256 s => (((s.publicJwk.n).bind Base64.decode).getD []).length
  | .mlDsa s => s.algorithm.signatureLen
  | .externalMlDsa s => s.algorithm.signatureLen

/-- What is relied on of the crates that write tokens: JSON is compact, and an RSA
signature is as long as the modulus. -/
structure CompactEncoding : Prop where
  header : ∀ {header bytes}, Crates.headerToVec header = .ok bytes → bytes.length = header.size
  claims : ∀ {claims bytes}, Crates.mintedToVec claims = .ok bytes → bytes.length = claims.size
  rs256 : ∀ {header claims key entropy token},
    Crates.rs256Encode header claims key entropy = .ok token →
      ∃ headerBytes payload signature, token = compactJws headerBytes payload signature ∧
        headerBytes.length = header.size ∧ payload.length = claims.size ∧
        signature.length = (Crates.rsaPublicComponents key).1.length

/-- What is relied on of an external RSA provider: a signature is as long as the
modulus. -/
def JoseSigner.FullSignatures : JoseSigner → Prop
  | .externalRs256 s => ∀ entropy input signature, s.provider entropy input = .ok signature →
      signature.length = (JoseSigner.externalRs256 s).signatureLen
  | _ => True

theorem signCompact_compact (laws : CompactEncoding) {header : ProtectedHeader}
    {claims : MintedClaims} {sign : Bytes → Except JoseError Bytes} {token : String} {size : Nat}
    (hsize : ∀ input signature, sign input = .ok signature → signature.length = size)
    (h : signCompact header claims sign = .ok token) :
    ∃ headerBytes payload signature, token = compactJws headerBytes payload signature ∧
      headerBytes.length = header.size ∧ payload.length = claims.size ∧ signature.length = size := by
  simp only [signCompact, bind_eq_ok, mapError_eq_ok, pure_eq_ok] at h
  obtain ⟨headerBytes, hheader, payload, hpayload, signature, hsignature, heq⟩ := h
  exact ⟨headerBytes, payload, signature, by rw [← heq, compactJws], laws.header hheader,
    laws.claims hpayload, hsize _ _ hsignature⟩

/-- The parts of every token a signer makes. -/
theorem signClaims_compact (laws : CompactEncoding) {signer : JoseSigner}
    (hsigner : signer.FullSignatures) {claims : MintedClaims} {entropy : Bytes} {token : String}
    (h : signer.signClaims claims entropy = .ok token) :
    ∃ headerBytes payload signature, token = compactJws headerBytes payload signature ∧
      headerBytes.length = signer.header.size ∧ payload.length = claims.size ∧
      signature.length = signer.signatureLen := by
  cases signer with
  | rsa s => exact laws.rs256 (mapError_eq_ok.mp h)
  | externalRs256 s => exact signCompact_compact laws (hsigner entropy) h
  | mlDsa s =>
      refine signCompact_compact laws (fun input signature hsign => ?_) h
      simp only [opensslSignMldsa, bind_eq_ok, rejectIf_eq_ok, pure_eq_ok] at hsign
      obtain ⟨_, -, signature', -, _, hlength, heq⟩ := hsign
      simpa [heq, JoseSigner.signatureLen] using hlength
  | externalMlDsa s =>
      refine signCompact_compact laws (fun input signature hsign => ?_) h
      simp only [ExternalMlDsaJoseSigner.sign, bind_eq_ok, rejectIf_eq_ok, pure_eq_ok] at hsign
      obtain ⟨signature', -, _, hlength, heq⟩ := hsign
      simpa [heq, JoseSigner.signatureLen] using hlength

omit [Crates] in
/-- The online endpoints accept a compact token exactly when it is not too long. -/
theorem requiredOnlineToken_compactJws {form : OnlineTokenForm} {maxTokenLen : Nat}
    {header payload signature : Bytes}
    (h : form.token = some (compactJws header payload signature)) :
    requiredOnlineToken form maxTokenLen = .ok (compactJws header payload signature) ↔
      compactLen header.length payload.length signature.length ≤ maxTokenLen := by
  rw [requiredOnlineToken_eq h (isBlank_compactJws header payload signature), len_compactJws]
  by_cases hlen : maxTokenLen < compactLen header.length payload.length signature.length
  · rw [if_pos hlen]
    exact iff_of_false nofun (Nat.not_le.mpr hlen)
  · rw [if_neg hlen]
    exact iff_of_true rfl (Nat.not_lt.mp hlen)

/-- The octets of the claims of a planned token: the issuer, the user, target and scope
that were asked for, the times, the drawn id, the actor or client, and what the subject
token and the proof bring with them. -/
def Plan.claimsSize (state : HttpState) (plan : Plan) (jti : String) : Nat :=
  JsonSize.object
    ([("iss", JsonSize.text state.config.ourIssuer),
      ("sub", JsonSize.text plan.exchange.subjectSub),
      ("aud", JsonSize.text plan.exchange.target), ("scope", JsonSize.text plan.exchange.scope),
      ("iat", JsonSize.integer plan.now),
      ("exp", JsonSize.integer (mintedExp state.config.scopedTokenTtl plan.now
        plan.exchange.subjectClaims.exp plan.assertionExp)),
      ("jti", JsonSize.text jti), ("client_id", JsonSize.text plan.clientId)] ++
    JsonSize.optional "act" ActClaim.size plan.act ++
    JsonSize.optional "cnf" (fun jkt => JsonSize.object [("jkt", JsonSize.text jkt)])
      (plan.exchange.dpopBinding.map DpopBinding.jkt) ++
    JsonSize.optional "auth_time" JsonSize.integer plan.exchange.subjectClaims.authTime ++
    JsonSize.optional "acr" JsonSize.text plan.exchange.subjectClaims.acr ++
    if (plan.exchange.subjectClaims.amr.getD []).isEmpty then []
    else [("amr", JsonSize.array ((plan.exchange.subjectClaims.amr.getD []).map JsonSize.text))])

theorem Plan.size_payload (state : HttpState) (plan : Plan) (jti : String) :
    (plan.payload state jti).size = plan.claimsSize state jti := rfl

/-- Header, claims and signature in base64url, with the dots between them, are not longer
than `MAX_TOKEN_LEN`. -/
def Plan.FitsOnline (state : HttpState) (plan : Plan) (jti : String) : Prop :=
  compactLen state.signer.header.size (plan.claimsSize state jti) state.signer.signatureLen ≤
    state.config.maxTokenLen

/-- **Which tokens can be managed online.** A token that was issued passes the check of
`/introspect` and `/revoke` exactly when its parts fit: the header of the signer, the
claims of the plan and the signature, in base64url. -/
theorem minted_token_manageable_iff (laws : CompactEncoding) {state : HttpState}
    {moves : List (Move Request Tick)} {w : ServerPool} {i : Nat} {request : Request}
    {response : TokenResponse} (hsigner : state.signer.FullSignatures)
    (hrun : ServerPool.run state moves = some w) (h : w.Issues i request response) :
    ∃ plan jti, IssuedFor state request response plan jti ∧
      ∀ form : OnlineTokenForm, form.token = some response.accessToken →
        (requiredOnlineToken form state.config.maxTokenLen = .ok response.accessToken ↔
          plan.FitsOnline state jti) := by
  obtain ⟨plan, jti, hissued⟩ := issuedFor_of_run hrun h
  obtain ⟨entropy, hsigned⟩ := hissued.signed
  obtain ⟨header, payload, signature, htoken, hheader, hpayload, hsignature⟩ :=
    signClaims_compact laws hsigner hsigned
  refine ⟨plan, jti, hissued, fun form hform => ?_⟩
  rw [htoken] at hform ⊢
  rw [requiredOnlineToken_compactJws hform, hheader, hpayload, hsignature, plan.size_payload]
  rfl

end Server

namespace Sample

/-- The variables of a server that takes short tokens only. -/
def smallSource : ConfigSource := source [("MAX_SEEN_JTI", "1"), ("MAX_TOKEN_LEN", "600")]

def smallKnobs : Knobs where
  maxTokenLen := 600

abbrev smallState : HttpState := state .both 1 Nat.one_pos smallKnobs

abbrev smallResponse : TokenResponse := actorResponse "a1" none 50 mintedDelegation.token

set_option maxRecDepth 10000 in
theorem fromSource_small :
    StartConfig.fromSource smallSource disk = .ok (startConfig smallKnobs none) := by
  with_unfolding_all rfl

theorem small_issued :
    ∃ moves w, ServerPool.run smallState moves = some w ∧
      w.Issues 0 (delegationRequest formHeaders actor1) smallResponse :=
  delegation_issued (by decide) (by decide) (List.mem_cons_self ..)

/-- The parts of the sample tokens are as long as their contents say. -/
theorem length_minted {s : Signed} {claims : MintedClaims} (h : (s, claims) ∈ mintedTokens) :
    s.header.length = ProtectedHeader.size ⟨"RS256", "sts-1", "at+jwt"⟩ ∧
      s.payload.length = claims.size ∧ s.signature.length = (modulus keyPair).length := by
  simp only [mintedTokens, List.mem_cons, List.not_mem_nil, or_false] at h
  rcases h with h | h | h | h | h
  all_goals
    cases h
    decide +kernel

theorem compactEncoding : CompactEncoding where
  header h := by cases h
  claims h := by cases h
  rs256 h := by
    obtain ⟨rfl, rfl, s, hs, rfl⟩ := rs256Encode_eq_ok h
    exact ⟨s.header, s.payload, s.signature, rfl, length_minted hs⟩

/-- The minted token has 614 octets. -/
theorem len_mintedDelegation : len mintedDelegation.token = 614 := by
  obtain ⟨hheader, hpayload, hsignature⟩ := length_minted (List.mem_cons_self ..)
  rw [Signed.token, len_compactJws, hheader, hpayload, hsignature]
  decide +kernel

theorem requiredOnlineToken_minted (knobs : Knobs) {form : OnlineTokenForm}
    (h : form.token = some mintedDelegation.token) :
    requiredOnlineToken form knobs.maxTokenLen =
      if knobs.maxTokenLen < 614 then .error (HttpError.invalidRequest "token too large")
      else .ok mintedDelegation.token := by
  rw [requiredOnlineToken_eq h (isBlank_token _), len_mintedDelegation]

theorem minted_token_refused :
    StartConfig.fromSource smallSource disk = .ok (startConfig smallKnobs none) ∧
      buildStateFromConfig (startConfig smallKnobs none) disk (web idp) [] =
        .ok (smallState, .memory (.new 1 256)) ∧
      (∃ moves w, ServerPool.run smallState moves = some w ∧
        w.Issues 0 (delegationRequest formHeaders actor1) smallResponse) ∧
      requiredOnlineToken { token := some smallResponse.accessToken }
          smallState.config.maxTokenLen =
        .error (HttpError.invalidRequest "token too large") :=
  ⟨fromSource_small, buildStateFromConfig_sample smallKnobs none (web idp) [], small_issued,
    (requiredOnlineToken_minted smallKnobs rfl).trans (if_pos (by decide))⟩

/-- With the standard limit the parts fit, and the token is accepted. -/
theorem delegation_manageable :
    ∃ moves w, ServerPool.run (state .both 1 Nat.one_pos) moves = some w ∧
      w.Issues 0 (delegationRequest formHeaders actor1) smallResponse ∧
      ∃ plan jti, IssuedFor (state .both 1 Nat.one_pos) (delegationRequest formHeaders actor1)
          smallResponse plan jti ∧
        plan.FitsOnline (state .both 1 Nat.one_pos) jti ∧
        ∀ form : OnlineTokenForm, form.token = some smallResponse.accessToken →
          requiredOnlineToken form (state .both 1 Nat.one_pos).config.maxTokenLen =
            .ok smallResponse.accessToken := by
  obtain ⟨moves, w, hrun, hissues⟩ : ∃ moves w,
      ServerPool.run (state .both 1 Nat.one_pos) moves = some w ∧
        w.Issues 0 (delegationRequest formHeaders actor1) smallResponse :=
    delegation_issued (by decide) (by decide) (List.mem_cons_self ..)
  have hsigner : (state .both 1 Nat.one_pos).signer.FullSignatures := trivial
  obtain ⟨plan, jti, hissued, hmanageable⟩ :=
    minted_token_manageable_iff compactEncoding hsigner hrun hissues
  have hfits : plan.FitsOnline (state .both 1 Nat.one_pos) jti := by
    refine (hmanageable { token := some smallResponse.accessToken } rfl).mp ?_
    exact (requiredOnlineToken_minted .standard rfl).trans (if_neg (by decide))
  exact ⟨moves, w, hrun, hissues, plan, jti, hissued, hfits,
    fun form hform => (hmanageable form hform).mpr hfits⟩

end Sample

end StsDelegate
