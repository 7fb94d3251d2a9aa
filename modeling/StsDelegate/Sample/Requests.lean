import StsDelegate.Sample.Documents

/-!
# The sample requests

Tokens are hundreds of characters long, too long to compute with. Here the sample
documents are read symbolically, once and for all: forms of plain texts are read
back, tokens are split and decoded, and `planExchange_actor`, `planExchange_client`
and `verifyOnline_client` say what is left of the gates of a whole request, which
is its readings of the clock.
-/

namespace StsDelegate

namespace Sample

open Text Fallible Effectful Prog

/-! ### Texts that need no escapes -/

/-- Characters that stand for themselves in a form and in a header field. -/
def plain (c : Char) : Bool := 32 < c.toNat && c.toNat < 127 && c != '&' && c != '='

def Plain (s : String) : Prop := ∀ c ∈ s.toList, plain c = true

instance (s : String) : Decidable (Plain s) :=
  decidable_of_iff (s.toList.all plain = true) List.all_eq_true

theorem plain_encode (bytes : Bytes) : Plain (Base64.encode bytes) := by
  have hdigits : ∀ i : Fin 64, plain (Base64.digit i) = true := by decide
  intro c hc
  rw [Base64.encode, String.toList_ofList] at hc
  obtain ⟨n, hn, rfl⟩ := Base64.mem_encodeChars hc
  exact hdigits ⟨n, hn⟩

theorem Plain.append {s t : String} (hs : Plain s) (ht : Plain t) : Plain (s ++ t) := by
  intro c hc
  rw [String.toList_append, List.mem_append] at hc
  rcases hc with hc | hc
  · exact hs c hc
  · exact ht c hc

theorem plain_token (s : Signed) : Plain s.token :=
  (((plain_encode _).append (by decide)).append (plain_encode _)).append (by decide) |>.append
    (plain_encode _)

/-- A plain character is an octet, and not one that structures a form. -/
theorem plain_octet {c : Char} (h : plain c = true) :
    (UInt8.ofNat c.toNat).toNat = c.toNat ∧ 32 < c.toNat ∧ c.toNat < 127 ∧ c.toNat ≠ 38 ∧
      c.toNat ≠ 61 := by
  simp only [plain, Bool.and_eq_true, decide_eq_true_eq, bne_iff_ne] at h
  obtain ⟨⟨⟨hlow, hhigh⟩, hamp⟩, heq⟩ := h
  refine ⟨?_, hlow, hhigh, ?_, ?_⟩
  · rw [UInt8.toNat_ofNat', Nat.mod_eq_of_lt (by omega)]
  · intro hc
    exact hamp (Char.toNat_inj.mp hc)
  · intro hc
    exact heq (Char.toNat_inj.mp hc)

theorem unascii_ascii {s : String} (h : Plain s) : unascii (ascii s) = s := by
  have hmap : (ascii s).map (fun b => Char.ofNat b.toNat) = s.toList := by
    rw [ascii, List.map_map]
    conv_rhs => rw [← List.map_id s.toList]
    apply List.map_congr_left
    intro c hc
    simp only [Function.comp, (plain_octet (h c hc)).1, Char.ofNat_toNat, id]
  rw [unascii, hmap, String.ofList_toList]

theorem notMem_ascii {s : String} (h : Plain s) : 38 ∉ ascii s ∧ 61 ∉ ascii s := by
  have hmem : ∀ b ∈ ascii s, b.toNat ≠ 38 ∧ b.toNat ≠ 61 := by
    intro b hb
    rw [ascii, List.mem_map] at hb
    obtain ⟨c, hc, rfl⟩ := hb
    obtain ⟨hoctet, -, -, hamp, heq⟩ := plain_octet (h c hc)
    rw [hoctet]
    exact ⟨hamp, heq⟩
  exact ⟨fun hb => (hmem 38 hb).1 rfl, fun hb => (hmem 61 hb).2 rfl⟩

theorem splitPair_pair {name value : String} (hname : Plain name) (hvalue : Plain value) :
    splitPair (ascii name ++ 61 :: ascii value) = (name, value) := by
  have hsplit : (ascii name ++ 61 :: ascii value).splitOn 61 = [ascii name, ascii value] := by
    have h : ([61].intercalate [ascii name, ascii value]).splitOn 61 = [ascii name, ascii value] :=
      List.splitOn_intercalate 61 (by simp [(notMem_ascii hname).2, (notMem_ascii hvalue).2])
        (by simp)
    simpa [List.intercalate] using h
  rw [splitPair, hsplit]
  simp [unascii_ascii hname, unascii_ascii hvalue]

/-- A form of plain pairs is read back. -/
theorem formUrlencodedParse_form {pairs : List (String × String)} (hne : pairs ≠ [])
    (h : ∀ pair ∈ pairs, Plain pair.1 ∧ Plain pair.2) :
    formUrlencodedParse (form pairs) = pairs := by
  have hsplit : (form pairs).splitOn 38 =
      pairs.map fun pair => ascii pair.1 ++ 61 :: ascii pair.2 := by
    rw [form]
    refine List.splitOn_intercalate 38 ?_ (by simpa using hne)
    intro piece hpiece
    rw [List.mem_map] at hpiece
    obtain ⟨pair, hpair, rfl⟩ := hpiece
    obtain ⟨hname, hvalue⟩ := h pair hpair
    simp [(notMem_ascii hname).1, (notMem_ascii hvalue).1]
  have hpieces : ∀ piece ∈ pairs.map (fun pair => ascii pair.1 ++ 61 :: ascii pair.2),
      (!piece.isEmpty) = true := by
    intro piece hpiece
    rw [List.mem_map] at hpiece
    obtain ⟨pair, -, rfl⟩ := hpiece
    simp
  rw [formUrlencodedParse, hsplit, List.filter_eq_self.mpr hpieces, List.map_map]
  conv_rhs => rw [← List.map_id pairs]
  apply List.map_congr_left
  intro pair hpair
  exact splitPair_pair (h pair hpair).1 (h pair hpair).2

/-- A plain header field is a text. -/
theorem toStr_ascii {s : String} (h : Plain s) : HeaderValue.toStr (ascii s) = some s := by
  have hall : ((ascii s).all fun b => b == 9 || (32 ≤ b && b < 127)) = true := by
    rw [List.all_eq_true]
    intro b hb
    rw [ascii, List.mem_map] at hb
    obtain ⟨c, hc, rfl⟩ := hb
    obtain ⟨hoctet, hlow, hhigh, -, -⟩ := plain_octet (h c hc)
    simp only [Bool.or_eq_true, Bool.and_eq_true, decide_eq_true_eq, UInt8.le_iff_toNat_le,
      UInt8.lt_iff_toNat_lt, hoctet]
    right
    exact ⟨Nat.le_of_lt hlow, hhigh⟩
  rw [HeaderValue.toStr, if_pos hall]
  exact congrArg some (unascii_ascii h)

/-! ### Tokens -/

theorem len_token_eq (s : Signed) : len s.token =
    compactLen s.header.length s.payload.length s.signature.length := len_compactJws _ _ _

/-- Every document is within the limits on tokens and proofs. -/
theorem len_token {s : Signed} (h : s ∈ proof :: signed) : len s.token ≤ 8192 := by
  have hall : ∀ s ∈ proof :: signed,
      compactLen s.header.length s.payload.length s.signature.length ≤ 8192 := by
    decide +kernel
  rw [len_token_eq]
  exact hall s h

/-- Those that are received are within the limit of every sample server. -/
theorem len_received {s : Signed} (h : s ∈ exchanged.map Prod.fst ++ assertions.map Prod.fst)
    (knobs : Knobs) : len s.token ≤ knobs.maxTokenLen := by
  have hall : ∀ s ∈ exchanged.map Prod.fst ++ assertions.map Prod.fst,
      compactLen s.header.length s.payload.length s.signature.length ≤ 600 := by
    decide +kernel
  rw [len_token_eq]
  exact Nat.le_trans (hall s h) knobs.maxTokenLen_large

theorem isBlank_token (s : Signed) : isBlank s.token = false := isBlank_compactJws _ _ _

theorem isEmpty_token (s : Signed) : s.token.isEmpty = false := by
  rw [Bool.eq_false_iff, Ne, String.isEmpty_iff]
  intro hempty
  have hdot : '.' ∈ s.token.toList := dot_mem_compactJws _ _ _
  rw [hempty] at hdot
  simp at hdot

theorem readCompact_token (s : Signed) : readCompact s.token = some s := by
  simp [readCompact, Signed.token, parseCompactJws_compactJws]

/-- A document is found in a table by its payload, if no two share one. -/
theorem find?_payload {β : Type} {l : List (Signed × β)} {s : Signed} {b : β}
    (hnodup : (l.map fun entry => entry.1.payload).Nodup) (h : (s, b) ∈ l) :
    l.find? (fun entry => entry.1.payload == s.payload) = some (s, b) := by
  induction l with
  | nil => cases h
  | cons entry rest ih =>
      rw [List.map_cons, List.nodup_cons] at hnodup
      rw [List.find?_cons]
      rcases List.mem_cons.mp h with rfl | h
      · simp
      · have hne : (entry.1.payload == s.payload) = false := by
          rw [beq_eq_false_iff_ne]
          intro heq
          exact hnodup.1 (heq ▸ List.mem_map_of_mem (f := fun entry => entry.1.payload) h)
        rw [hne]
        exact ih hnodup.2 h

theorem fromSlice_payload {T : Type} {table : List (Signed × T)} {s : Signed} {claims : T}
    (hnodup : (table.map fun entry => entry.1.payload).Nodup) (h : (s, claims) ∈ table) :
    fromSlice table s.payload = .ok claims := by
  rw [fromSlice, find?_payload hnodup h]

theorem validatePublicComponents_modulus :
    validatePublicComponents (modulus keyPair) [1, 0, 1] = .ok () :=
  toOption_eq_some.mp (by decide +kernel)

theorem mem_signed_of_mem_mintedTokens {s : Signed} {claims : MintedClaims}
    (h : (s, claims) ∈ mintedTokens) : s ∈ signed :=
  List.mem_cons_of_mem _ (List.mem_append_right _
    (List.mem_append_left _ (List.mem_map_of_mem (f := Prod.fst) h)))

theorem headerFromSlice_minted :
    Crates.headerFromSlice mintedHeader = .ok ⟨"RS256", some "sts-1", some "at+jwt"⟩ := by
  show headerFromSlice mintedHeader = _
  rw [headerFromSlice, if_pos rfl]

theorem rs256Decode_token {s : Signed} (h : s ∈ signed) :
    Crates.rs256Decode s.token (Base64.encode (modulus keyPair)) (Base64.encode [1, 0, 1]) =
      .ok s.payload := by
  have he : Base64.encode [1, 0, 1] = "AQAB" := by decide
  show rs256Decode s.token _ _ = _
  simp only [rs256Decode, readCompact_token, h, Base64.decode_encode, he, and_self, if_true]

/-- Documents signed with the RSA key are accepted under it. -/
theorem verify_token {T : Type} {fromSlice : Bytes → Except String T} {s : Signed}
    {kid : String} {typ : Option String} {claims : T} {jwks : JwksDocument}
    {allowedAlgs : Option (List String)} (hs : s ∈ signed)
    (hheader : Crates.headerFromSlice s.header = .ok ⟨"RS256", some kid, typ⟩)
    (hjwks : jwks.keys.find? (fun key => key.kid == kid) = some (jwk kid))
    (hallowed : ∀ allowed, allowedAlgs = some allowed → "RS256" ∈ allowed)
    (hclaims : fromSlice s.payload = .ok claims) :
    verifyClaimsAgainstJwksInner fromSlice s.token jwks allowedAlgs =
      .ok ⟨claims, "RS256", kid, typ⟩ := by
  exact verifyClaimsAgainstJwksInner_rs256 hheader hallowed hjwks
    (rsaPublicKeyFromJwk_encode rfl rfl rfl rfl validatePublicComponents_modulus) rfl rfl rfl
    (rs256Decode_token hs) hclaims

/-! ### What is left of the gates -/

theorem validateIssuer_issuer : validateIssuer issuer = .ok issuer :=
  toOption_eq_some.mp (by decide)

theorem validateIssuer_idp : validateIssuer idp = .ok idp :=
  toOption_eq_some.mp (by decide)

section Exchanged

variable {token : Signed} {claims : SubjectTokenClaims}

/-- A subject token that is exchanged is signed by the identity provider, and says whom it
is about and until when; only its scope differs. -/
theorem exchanged_eq (h : (token, claims) ∈ exchanged) :
    token.header = headerText "idp-1" ∧ token ∈ signed ∧
      ∃ scope, claims = { subjectClaims with scope := scope } := by
  rcases List.mem_pair.mp h with heq | heq
  · cases heq
    exact ⟨rfl, List.mem_cons_self .., none, rfl⟩
  · cases heq
    exact ⟨rfl, List.mem_cons_of_mem _ (List.mem_append_right _ (List.mem_append_right _
      (List.mem_cons_of_mem _ (List.mem_cons_self ..)))), some "read", rfl⟩

/-- It is accepted while its window is open. -/
theorem verifySubjectToken_exchanged (h : (token, claims) ∈ exchanged) :
    verifySubjectToken token.token ⟨[jwk "idp-1"]⟩ idp (OrdSet.ofList [issuer]).toList 30 =
      (do validateTimeWindow 105 none 30; pure claims) := by
  obtain ⟨hidp, hsigned, scope, hclaims⟩ := exchanged_eq h
  have hheader : Crates.headerFromSlice (headerText "idp-1") =
      .ok ⟨"RS256", some "idp-1", some "JWT"⟩ :=
    toOption_eq_some.mp (by decide)
  have hverified : verifyClaimsAgainstJwksWithAllowedAlgs Crates.subjectFromSlice token.token
      ⟨[jwk "idp-1"]⟩ SUBJECT_TOKEN_SIGNING_ALGS = .ok ⟨claims, "RS256", "idp-1", some "JWT"⟩ :=
    verify_token hsigned (hidp ▸ hheader) rfl (by simp [SUBJECT_TOKEN_SIGNING_ALGS])
      (fromSlice_payload (by decide) (List.mem_append_left _ h))
  have haud : ensureAudienceMatches subjectClaims.aud (OrdSet.ofList [issuer]).toList = .ok () :=
    rfl
  have hiss : (subjectClaims.iss != idp) = false := by decide
  rw [hclaims] at hverified ⊢
  simp only [verifySubjectToken, hverified, validateIssuer_idp, mapError_ok, liftM_eq, ofExcept_ok,
    done_bind, hiss, rejectIf, Bool.false_eq_true, if_false, haud]
  rfl

end Exchanged

/-- What is left of verifying one of the assertions: its window and its lifetime. -/
def assertionChecks (claims : AssertionClaims) : Handler VerifyError Unit := do
  validateTimeWindow claims.exp none 30
  validateAssertionLifetime claims 300 30

/-- An assertion is accepted while its window is open, wherever this issuer is
the audience. -/
theorem verifyAssertion_token {s : Signed} {party jti kid : String} {exp : Int64}
    {options : AssertionVerificationOptions} {registry : OrdSet String}
    (h : (s, assertionClaims party exp jti) ∈ assertions)
    (hheader : Crates.headerFromSlice s.header = .ok ⟨"RS256", some kid, some "JWT"⟩)
    (hissuer : options.expectedIssuer = issuer) (haud : issuer ∈ options.expectedAudiences)
    (hleeway : options.clockSkewLeeway = 30) (hmaxTtl : options.maxTtl = 300)
    (hbinding : options.requireSubjectBinding = false)
    (hregistry : options.keyBindingRegistry = some registry)
    (hkid : kidBelongsToClaimedIdentity kid party registry = true) :
    verifyAssertionWithAllowedAlgs s.token ⟨[jwk kid]⟩ ["RS256"] options =
      (do assertionChecks (assertionClaims party exp jti)
          pure (assertionClaims party exp jti)) := by
  have hs : s ∈ signed :=
    List.mem_cons_of_mem _ (List.mem_append_left _ (List.mem_map_of_mem (f := Prod.fst) h))
  have hverified : verifyClaimsAgainstJwksWithAllowedAlgs Crates.assertionFromSlice s.token
      ⟨[jwk kid]⟩ ["RS256"] =
        .ok ⟨assertionClaims party exp jti, "RS256", kid, some "JWT"⟩ :=
    verify_token hs hheader (by simp [jwk]) (by simp)
      (fromSlice_payload (by decide) h)
  have haud' : options.expectedAudiences.any (audienceMatches (.string issuer)) = true :=
    List.any_eq_true.mpr ⟨issuer, haud, beq_self_eq_true issuer⟩
  have hkid' : (options.keyBindingRegistry.any fun registry =>
      !kidBelongsToClaimedIdentity kid party registry) = false := by
    rw [hregistry, Option.any_some, hkid, Bool.not_true]
  have hbound : boundToSubject (assertionClaims party exp jti) options = true := by
    rw [boundToSubject, hbinding, Bool.not_false, Bool.true_or]
  rw [verifyAssertionWithAllowedAlgs_eq hverified (hissuer ▸ validateIssuer_issuer) rfl haud' hkid'
    hbound, hleeway, hmaxTtl]
  rfl

theorem requireFormUrlencoded_ok {headers : HeaderMap}
    (h : headers = formHeaders ∨ headers = proofHeaders) :
    requireFormUrlencoded headers = .ok () ∧
      rejectAuthorizationHeaderClientAuth headers = .ok () := by
  have hform : requireFormUrlencoded formHeaders = .ok () := toOption_eq_some.mp (by decide)
  rcases h with rfl | rfl
  · exact ⟨hform, rfl⟩
  · exact ⟨hform, rfl⟩

theorem parseTokenForm_form {headers : HeaderMap} {pairs : List (String × String)}
    (hheaders : headers = formHeaders ∨ headers = proofHeaders) (hne : pairs ≠ [])
    (h : ∀ pair ∈ pairs, Plain pair.1 ∧ Plain pair.2) :
    parseTokenForm headers (form pairs) = parseTokenPairs pairs OrdSet.empty {} := by
  obtain ⟨htype, hauth⟩ := requireFormUrlencoded_ok hheaders
  rw [parseTokenForm, htype, hauth]
  exact congrArg (parseTokenPairs · OrdSet.empty {}) (formUrlencodedParse_form hne h)

/-- The names used here, as the parser knows them. -/
theorem ofKey_names :
    TokenParam.ofKey "grant_type" = some .grantType ∧
    TokenParam.ofKey "subject_token" = some .subjectToken ∧
    TokenParam.ofKey "subject_token_type" = some .subjectTokenType ∧
    TokenParam.ofKey "audience" = some .audience ∧
    TokenParam.ofKey "actor_token" = some .actorToken ∧
    TokenParam.ofKey "actor_token_type" = some .actorTokenType ∧
    TokenParam.ofKey "client_assertion_type" = some .clientAssertionType ∧
    TokenParam.ofKey "client_assertion" = some .clientAssertion := by
  decide

/-- The parsed form of an exchange. -/
def exchangeForm (actor client : Option Signed) (token : Signed := subject) : TokenForm where
  grantType := some TOKEN_EXCHANGE_GRANT_TYPE
  subjectToken := some token.token
  subjectTokenType := some JWT_TOKEN_TYPE
  actorToken := actor.map Signed.token
  actorTokenType := actor.map fun _ => JWT_TOKEN_TYPE
  audience := some api
  clientAssertion := client.map Signed.token
  clientAssertionType := client.map fun _ => CLIENT_ASSERTION_TYPE

theorem parseTokenPairs_actor (token s : Signed) :
    parseTokenPairs (exchangePairs token ++ actorPairs s) OrdSet.empty {} =
      .ok (exchangeForm (some s) none token) := by
  obtain ⟨h₁, h₂, h₃, h₄, h₅, h₆, -, -⟩ := ofKey_names
  simp [exchangePairs, actorPairs, parseTokenPairs, h₁, h₂, h₃, h₄, h₅, h₆, TokenForm.assign,
    nonEmptyFormValue, isEmpty_token, exchangeForm, TOKEN_EXCHANGE_GRANT_TYPE, JWT_TOKEN_TYPE, api]

theorem parseTokenPairs_client (s : Signed) :
    parseTokenPairs (exchangePairs ++ clientPairs s) OrdSet.empty {} =
      .ok (exchangeForm none (some s)) := by
  obtain ⟨h₁, h₂, h₃, h₄, -, -, h₇, h₈⟩ := ofKey_names
  simp [exchangePairs, clientPairs, parseTokenPairs, h₁, h₂, h₃, h₄, h₇, h₈, TokenForm.assign,
    nonEmptyFormValue, isEmpty_token, exchangeForm, TOKEN_EXCHANGE_GRANT_TYPE, JWT_TOKEN_TYPE,
    CLIENT_ASSERTION_TYPE, api]

theorem plain_exchangePairs {token : Signed} {pair : String × String}
    (h : pair ∈ exchangePairs token) :
    Plain pair.1 ∧ Plain pair.2 := by
  simp only [exchangePairs, List.mem_cons, List.not_mem_nil, or_false] at h
  rcases h with rfl | rfl | rfl | rfl
  · exact ⟨by decide, by decide +kernel⟩
  · have hname : Plain "subject_token" := by decide
    exact ⟨hname, plain_token token⟩
  · exact ⟨by decide, by decide +kernel⟩
  · exact ⟨by decide, by decide +kernel⟩

theorem plain_actorPairs (s : Signed) {pair : String × String} (h : pair ∈ actorPairs s) :
    Plain pair.1 ∧ Plain pair.2 := by
  simp only [actorPairs, List.mem_cons, List.not_mem_nil, or_false] at h
  rcases h with rfl | rfl
  · have hname : Plain "actor_token" := by decide
    exact ⟨hname, plain_token s⟩
  · exact ⟨by decide, by decide +kernel⟩

theorem plain_clientPairs (s : Signed) {pair : String × String} (h : pair ∈ clientPairs s) :
    Plain pair.1 ∧ Plain pair.2 := by
  simp only [clientPairs, List.mem_cons, List.not_mem_nil, or_false] at h
  rcases h with rfl | rfl
  · exact ⟨by decide, by decide +kernel⟩
  · have hname : Plain "client_assertion" := by decide
    exact ⟨hname, plain_token s⟩

theorem parseTokenForm_actor {headers : HeaderMap}
    (hheaders : headers = formHeaders ∨ headers = proofHeaders) (token s : Signed) :
    parseTokenForm headers (form (exchangePairs token ++ actorPairs s)) =
      .ok (exchangeForm (some s) none token) := by
  rw [parseTokenForm_form hheaders (by simp [exchangePairs]), parseTokenPairs_actor]
  intro pair hpair
  rcases List.mem_append.mp hpair with h | h
  · exact plain_exchangePairs h
  · exact plain_actorPairs s h

theorem parseTokenForm_client {headers : HeaderMap}
    (hheaders : headers = formHeaders ∨ headers = proofHeaders) (s : Signed) :
    parseTokenForm headers (form (exchangePairs ++ clientPairs s)) =
      .ok (exchangeForm none (some s)) := by
  rw [parseTokenForm_form hheaders (by simp [exchangePairs]), parseTokenPairs_client]
  intro pair hpair
  rcases List.mem_append.mp hpair with h | h
  · exact plain_exchangePairs h
  · exact plain_clientPairs s h

theorem validateRequestParams_exchangeForm {token : Signed} {claims : SubjectTokenClaims}
    {actor client : Option Signed} (knobs : Knobs) (htoken : (token, claims) ∈ exchanged)
    (hactor : ∀ s, actor = some s → s ∈ assertions.map Prod.fst)
    (hclient : ∀ s, client = some s → s ∈ assertions.map Prod.fst) :
    validateRequestParams (exchangeForm actor client token).intoExchangeRequest knobs.maxTokenLen =
      .ok () := by
  have hlen : ∀ s ∈ assertions.map Prod.fst, len s.token ≤ knobs.maxTokenLen :=
    fun s hs => len_received (List.mem_append_right _ hs) knobs
  have hparams : validateActorTokenParams (exchangeForm actor client token).intoExchangeRequest
      knobs.maxTokenLen = .ok () := by
    have htype : JWT_TOKEN_TYPE.isEmpty = false := by decide
    cases actor with
    | none => rfl
    | some a =>
        have ha := hlen a (hactor a rfl)
        simp [validateActorTokenParams, exchangeForm, TokenForm.intoExchangeRequest, isEmpty_token,
          ha, htype]
  have hlengths : checkFieldLengths knobs.maxTokenLen
      [("scope", none), ("audience", some api), ("resource", none),
        ("client_assertion", client.map Signed.token)] = .ok () := by
    have hapi : len api ≤ knobs.maxTokenLen := Nat.le_trans (by decide) knobs.maxTokenLen_large
    cases client with
    | none => simp [checkFieldLengths, hapi]
    | some c =>
        have hc := hlen c (hclient c rfl)
        simp [checkFieldLengths, hapi, hc]
  have htypes : (actor.map (fun _ => JWT_TOKEN_TYPE)).any
      (fun actorType => !isSupportedInputTokenType actorType) = false := by
    have htype : isSupportedInputTokenType JWT_TOKEN_TYPE = true := by decide
    cases actor with
    | none => rfl
    | some a => simp [htype]
  have hsupported : (!isSupportedInputTokenType JWT_TOKEN_TYPE) = false := by decide
  have hgrant : TOKEN_EXCHANGE_GRANT_TYPE.isEmpty = false := by decide
  have hsubjectType : (token.token.isEmpty || JWT_TOKEN_TYPE.isEmpty) = false := by
    rw [isEmpty_token, Bool.false_or]
    decide
  have hpresent : ((actor.map fun _ => JWT_TOKEN_TYPE).isSome && (actor.map Signed.token).isNone) =
      false := by
    cases actor <;> rfl
  simp only [validateRequestParams, bind_eq_ok, rejectIf_eq_ok, decide_eq_false_iff_not]
  exact ⟨(), hgrant, (), rfl, (), hsubjectType, (),
    Nat.not_lt.mpr (len_received (List.mem_append_left _ (List.mem_map_of_mem htoken)) knobs), (), hparams, (), hpresent, (),
    hsupported, (), htypes, (), rfl, hlengths⟩

section Deployment

variable {mode : TokenExchangeMode} {maxSeen : Nat} {hmax : 1 ≤ maxSeen} {knobs : Knobs}

theorem resolveTargetForRequest_api (actor client : Option Signed) (token : Signed) :
    resolveTargetForRequest (exchangeForm actor client token).intoExchangeRequest
      (state mode maxSeen hmax knobs) = .ok api := by
  have htarget : resolveTarget (some api) none = .ok api := toOption_eq_some.mp (by decide)
  have haud : ((some api : Option String) == some "") = false := by decide
  simp only [resolveTargetForRequest, exchangeForm, TokenForm.intoExchangeRequest, haud, htarget]
  rfl

theorem resolveScopeForRequest_read {token : Signed} {claims : SubjectTokenClaims}
    (h : (token, claims) ∈ exchanged) (actor client : Option Signed) :
    resolveScopeForRequest (exchangeForm actor client token).intoExchangeRequest
      (state mode maxSeen hmax knobs) claims api = .ok "read" := by
  have hscope : ∀ entry ∈ exchanged,
      (resolveScopeForRequest (exchangeForm none none).intoExchangeRequest
        (state .both 1 (by decide)) entry.2 api).toOption = some "read" := by
    decide
  exact toOption_eq_some.mp (hscope (token, claims) h)

theorem signingDecisionForTarget_api :
    (signingDecisionForTarget (state mode maxSeen hmax knobs) api) = .ok ⟨"RS256", false, none⟩ := by
  rfl

/-- What the common gates find out about an exchange. -/
def exchange (client : Option AssertionClaims) (dpopBinding : Option DpopBinding)
    (claims : SubjectTokenClaims := subjectClaims) : VerifiedExchange where
  subjectClaims := claims
  subjectSub := "alice"
  target := api
  scope := "read"
  clientClaims := client
  dpopBinding := dpopBinding

end Deployment

/-! ### The proof -/

theorem validateHeader_proofHeader :
    validateHeader proofHeader = .ok (.edDsa, ⟨.octetKeyPair,
      .object [("kty", .string "OKP"), ("crv", .string "Ed25519"), ("x", .string proofKey)]⟩) := by
  rfl

theorem compactParts_proof : compactParts proof.token =
    .ok (Base64.encode proof.header, Base64.encode proof.payload,
      Base64.encode proof.signature) := by
  have hne : ∀ bytes, (Base64.encodeChars bytes).isEmpty = false →
      (Base64.encode bytes).isEmpty = false := by
    intro bytes h
    rw [Bool.eq_false_iff, Ne, String.isEmpty_iff, Base64.encode, ← String.toList_inj,
      String.toList_ofList, String.toList_empty]
    rintro hnil
    rw [hnil] at h
    simp at h
  rw [compactParts, Signed.token, splitAtChar_compactJws]
  simp only [hne proof.header (by decide), hne proof.payload (by decide +kernel),
    hne proof.signature (by decide)]
  rfl

/-- The proof is accepted while its `iat` is within the leeway. -/
theorem validateDpopProof_proof (now : Int64) :
    validateDpopProof ⟨proof.token, "POST", "https://sts.example/token", now, 30⟩ = (do
      rejectIf (30 < absDiff now 70) ⟨"DPoP proof iat is outside the acceptable window"⟩
      pure binding) := by
  have hinput : checkProofInput ⟨proof.token, "POST", "https://sts.example/token", now, 30⟩ =
      .ok () := by
    have hlen := len_token (List.mem_cons_self (a := proof) (l := signed))
    have hblank : (isBlank "POST" || isBlank "https://sts.example/token") = false := by
      decide
    simp only [checkProofInput, bind_eq_ok, rejectIf_eq_ok, decide_eq_false_iff_not]
    exact ⟨(), isBlank_token proof, (), Nat.not_lt.mpr hlen, hblank⟩
  have hheader : decodeJsonPart (Base64.encode proof.header) "header" = .ok proofHeader := by
    have hvalue : Crates.valueFromSlice proof.header = .ok proofHeader := by
      have htake : proof.header.take 1 = [123] := by decide
      show valueFromSlice proof.header = _
      rw [valueFromSlice_of_take htake (by decide), readDocument, if_pos rfl]
    simp only [decodeJsonPart, Base64.decode_encode, okOr_some, ok_bind, hvalue, mapError_ok]
  have hsignature : ∀ jwk, verifyProofSignature proof.token .edDsa jwk = .ok proofClaims := by
    intro jwk
    have hdecode : Crates.dpopDecode .edDsa jwk proof.token = some proof.payload := if_pos rfl
    have hclaims : Crates.dpopFromSlice proof.payload = .ok proofClaims :=
      fromSlice_payload (by simp) (List.mem_singleton.mpr rfl)
    rw [verifyProofSignature, hdecode, okOr_some, ok_bind, hclaims]
    rfl
  have hiat : validateIat proofClaims.iat now 30 = (do
      rejectIf (30 < absDiff now 70) ⟨"DPoP proof iat is outside the acceptable window"⟩
      pure 70) := by
    have hvalue : valueToI64 (.number (.posInt 70)) = some 70 := rfl
    have hleeway : (maxZero 30).toInt.toNat = 30 := by decide
    simp only [validateIat, proofClaims, okOr_some, ok_bind, hvalue, hleeway]
  have hexpires : saturatingAdd 70 (maxZero 30) = 100 := by decide
  have hjti : requiredStringClaim proofClaims.jti "jti" = .ok "p1" := rfl
  have hjtiLen : validateJti "p1" = .ok "p1" := toOption_eq_some.mp (by decide)
  have hhtm : requiredStringClaim proofClaims.htm "htm" = .ok "POST" := rfl
  have hmethod : validateHtm "POST" "POST" = .ok () := toOption_eq_some.mp (by decide)
  have hhtu : requiredStringClaim proofClaims.htu "htu" = .ok "https://sts.example/token" := rfl
  have huri : validateHtu "https://sts.example/token" "https://sts.example/token" = .ok () :=
    toOption_eq_some.mp (by decide)
  rw [validateDpopProof_eq hinput compactParts_proof hheader validateHeader_proofHeader
    (hsignature _) hjti hjtiLen hhtm hmethod hhtu huri, hiat, bind_assoc]
  refine bind_congr fun _ => ?_
  rw [pure_bind, hexpires]
  rfl

variable {mode : TokenExchangeMode} {maxSeen : Nat} {hmax : 1 ≤ maxSeen} {knobs : Knobs}

theorem validateDpopHeader_proofHeaders (now : Int64) :
    validateDpopHeader proofHeaders (state mode maxSeen hmax knobs) now = (do
      rejectIf (30 < absDiff now 70)
        (.invalidDpopProof "DPoP proof iat is outside the acceptable window")
      pure (some binding)) := by
  have hall : proofHeaders.getAll "dpop" = [ascii proof.token] := by
    simp [proofHeaders, formHeaders, HeaderMap.getAll]
  have hendpoint : (state mode maxSeen hmax knobs).tokenEndpoint = "https://sts.example/token" := by
    have h : trimEndMatches '/' issuer ++ "/token" = "https://sts.example/token" := by
      decide
    exact h
  have hleeway : (state mode maxSeen hmax knobs).config.clockSkewLeeway = 30 := rfl
  rw [validateDpopHeader_single hall (toStr_ascii (plain_token proof)), hendpoint, hleeway,
    validateDpopProof_proof]
  generalize decide (30 < absDiff now 70) = outside
  cases outside with
  | false => rfl
  | true => rfl

/-! ### Whole requests -/

/-- The common gates of an exchange: the client, the clock, the proof and the
subject's window. -/
theorem verifyExchange_form {token : Signed} {claims : SubjectTokenClaims} {headers : HeaderMap}
    {body : Bytes} {actor client : Option Signed} (htoken : (token, claims) ∈ exchanged)
    (hform : parseTokenForm headers body = .ok (exchangeForm actor client token))
    (hactor : ∀ s, actor = some s → s ∈ assertions.map Prod.fst)
    (hclient : ∀ s, client = some s → s ∈ assertions.map Prod.fst) :
    verifyExchange headers (state mode maxSeen hmax knobs) body = (do
      let clientClaims ← authenticateClientIfPresent (state mode maxSeen hmax knobs)
        (exchangeForm actor client token).intoExchangeRequest
        (effectiveExchangeMode (state mode maxSeen hmax knobs).config
          (exchangeForm actor client token).intoExchangeRequest
          (exchangeForm actor client token).emptyActorTokenSupplied)
      let now ← unixNow
      let dpopBinding ← validateDpopHeader headers (state mode maxSeen hmax knobs) now
      (validateTimeWindow 105 none 30).mapErr mapSubjectVerifyError
      pure (effectiveExchangeMode (state mode maxSeen hmax knobs).config
          (exchangeForm actor client token).intoExchangeRequest
          (exchangeForm actor client token).emptyActorTokenSupplied,
        (exchangeForm actor client token).intoExchangeRequest, exchange clientClaims dpopBinding claims)) := by
  have hparams : validateRequestParams (exchangeForm actor client token).intoExchangeRequest
      (state mode maxSeen hmax knobs).config.maxTokenLen = .ok () :=
    validateRequestParams_exchangeForm knobs htoken hactor hclient
  have hsubject : verifySubjectToken (exchangeForm actor client token).intoExchangeRequest.subjectToken
      (state mode maxSeen hmax knobs).subjectJwks (state mode maxSeen hmax knobs).config.idpIssuer
      (state mode maxSeen hmax knobs).config.expectedSubjectAud.toList
      (state mode maxSeen hmax knobs).config.clockSkewLeeway =
        (do validateTimeWindow 105 none 30; pure claims) :=
    verifySubjectToken_exchanged htoken
  have hsub : (subjectClaims.sub.filter fun value => !isBlank value) = some "alice" := by
    decide
  obtain ⟨-, -, scope, hclaims⟩ := exchanged_eq htoken
  exact verifyExchange_eq hform hparams hsubject (resolveTargetForRequest_api actor client token)
    (resolveScopeForRequest_read htoken actor client) (by rw [hclaims]; exact hsub)

/-- The identities whose keys must be told apart. -/
def registry : OrdSet String := (OrdSet.ofList ["agent"]).extend (OrdSet.ofList ["app"]).toList

theorem mem_signed_of_mem_assertions {s : Signed} {claims : AssertionClaims}
    (h : (s, claims) ∈ assertions) : s ∈ signed :=
  List.mem_cons_of_mem _ (List.mem_append_left _ (List.mem_map_of_mem (f := Prod.fst) h))

/-- A delegation waits for the clock only. -/
theorem planExchange_actor {token : Signed} {claims : SubjectTokenClaims} {headers : HeaderMap}
    {s : Signed} {jti : String} (htoken : (token, claims) ∈ exchanged)
    (hheaders : headers = formHeaders ∨ headers = proofHeaders)
    (h : (s, assertionClaims "agent" 200 jti) ∈ assertions)
    (hheader : Crates.headerFromSlice s.header = .ok ⟨"RS256", some "agent-1", some "JWT"⟩)
    (hjti : isBlank jti = false) :
    planExchange headers (state .both maxSeen hmax knobs)
      (form (exchangePairs token ++ actorPairs s)) = (do
      let now ← unixNow
      let dpopBinding ← validateDpopHeader headers (state .both maxSeen hmax knobs) now
      (validateTimeWindow 105 none 30).mapErr mapSubjectVerifyError
      (assertionChecks (assertionClaims "agent" 200 jti)).mapErr
        fun err => HttpError.invalidClient err.message
      let now ← unixNow
      pure (delegationPlan (exchange none dpopBinding claims)
        { actorClaims := assertionClaims "agent" 200 jti
          signingDecision := ⟨"RS256", false, none⟩
          now := now
          act := buildAct "agent" none
          actorJti := jti })) := by
  have hsigned : ∀ s', some s = some s' → s' ∈ assertions.map Prod.fst := by
    intro s' hs'
    exact Option.some.inj hs' ▸ List.mem_map_of_mem (f := Prod.fst) h
  have hkid : kidBelongsToClaimedIdentity "agent-1" "agent" registry = true := by decide
  have hverify : ∀ subjectToken, verifyAssertionWithAllowedAlgs s.token
      (state .both maxSeen hmax knobs).actorJwks (state .both maxSeen hmax knobs).config.inboundAssertionAlgs
      (actorAssertionOptions (state .both maxSeen hmax knobs) subjectToken) =
        (do assertionChecks (assertionClaims "agent" 200 jti)
            pure (assertionClaims "agent" 200 jti)) :=
    fun subjectToken => verifyAssertion_token h hheader rfl (List.mem_cons_self ..) rfl rfl rfl rfl
      hkid
  have hidentity : validateActorIdentity (state .both maxSeen hmax knobs)
      (assertionClaims "agent" 200 jti) = .ok () := by
    have hmem : "agent" ∈ (state .both maxSeen hmax knobs).config.actorIds :=
      OrdSet.mem_ofList.mpr (List.mem_singleton.mpr rfl)
    simp [validateActorIdentity, assertionClaims, hmem]
  have hjti' : ((assertionClaims "agent" 200 jti).jti.filter fun value => !isBlank value) =
      some jti := by
    simp [assertionClaims, hjti]
  -- the checks that do not look at the clock are done; those that do are what is left
  obtain ⟨-, -, scope, hclaims⟩ := exchanged_eq htoken
  have hmayAct : gateMayAct claims (assertionClaims "agent" 200 jti) = .ok () := by
    rw [hclaims]
    rfl
  have hprior : priorActOf claims = .ok none := by
    rw [hclaims]
    rfl
  have hgates : ∀ dpopBinding, delegationGates (state .both maxSeen hmax knobs)
      (exchangeForm (some s) none token).intoExchangeRequest (exchange none dpopBinding claims) = _ :=
    fun dpopBinding => delegationGates_eq rfl (hverify _) hidentity hmayAct
      signingDecisionForTarget_api hprior hjti'
  have hclient : authenticateClientIfPresent (state .both maxSeen hmax knobs)
      (exchangeForm (some s) none token).intoExchangeRequest .delegation = pure none := rfl
  have hmode : effectiveExchangeMode (state .both maxSeen hmax knobs).config
      (exchangeForm (some s) none token).intoExchangeRequest
      (exchangeForm (some s) none token).emptyActorTokenSupplied = .delegation := rfl
  rw [planExchange, verifyExchange_form htoken (parseTokenForm_actor hheaders token s) hsigned (by simp), hmode,
    hclient]
  simp only [pure_bind, bind_assoc, planIn, hgates]
  rfl

/-- A client's assertion is accepted at every endpoint. -/
theorem authenticateClient_client {s : Signed} {jti endpoint : String} {exp : Int64}
    {request : ExchangeRequest} (h : (s, assertionClaims "app" exp jti) ∈ assertions)
    (hheader : Crates.headerFromSlice s.header = .ok ⟨"RS256", some "app-1", some "JWT"⟩)
    (hjti : clientAssertionJti (assertionClaims "app" exp jti) = .ok jti)
    (hassertion : request.clientAssertion = some s.token)
    (htype : request.clientAssertionType = some CLIENT_ASSERTION_TYPE)
    (hid : request.clientId = none) :
    authenticateClient (state mode maxSeen hmax knobs) request endpoint = (do
      (assertionChecks (assertionClaims "app" exp jti)).mapErr
        fun err => HttpError.invalidClient err.message
      pure (assertionClaims "app" exp jti)) := by
  have hkid : kidBelongsToClaimedIdentity "app-1" "app" registry = true := by decide
  have hverify : verifyAssertionWithAllowedAlgs s.token
      (state mode maxSeen hmax knobs).clientJwks (state mode maxSeen hmax knobs).config.inboundAssertionAlgs
      (clientAssertionOptions (state mode maxSeen hmax knobs) endpoint) =
        (do assertionChecks (assertionClaims "app" exp jti)
            pure (assertionClaims "app" exp jti)) :=
    verifyAssertion_token h hheader rfl (List.mem_cons_self ..) rfl rfl rfl rfl hkid
  have hmember : (assertionClaims "app" exp jti).sub ∈ (state mode maxSeen hmax knobs).config.clientIds :=
    OrdSet.mem_ofList.mpr (List.mem_singleton.mpr rfl)
  have htypeBlank : isBlank CLIENT_ASSERTION_TYPE = false := by decide
  have hblank : checkNotBlank [("client_assertion", request.clientAssertion),
      ("client_assertion_type", request.clientAssertionType), ("client_id", request.clientId)] =
        .ok () := by
    simp [hassertion, htype, hid, checkNotBlank, isBlank_token, htypeBlank]
  have htype' : validateClientAssertionType request = .ok () := by
    simp [validateClientAssertionType, htype]
  exact authenticateClient_eq hblank htype' hassertion hverify hmember hid hjti

/-- An impersonation waits for the clock only. -/
theorem planExchange_client {s : Signed} {jti : String} {exp : Int64}
    (h : (s, assertionClaims "app" exp jti) ∈ assertions)
    (hheader : Crates.headerFromSlice s.header = .ok ⟨"RS256", some "app-1", some "JWT"⟩)
    (hjti : clientAssertionJti (assertionClaims "app" exp jti) = .ok jti) :
    planExchange formHeaders (state .both maxSeen hmax knobs)
      (form (exchangePairs ++ clientPairs s)) = (do
      (assertionChecks (assertionClaims "app" exp jti)).mapErr
        fun err => HttpError.invalidClient err.message
      let _ ← unixNow
      (validateTimeWindow 105 none 30).mapErr mapSubjectVerifyError
      let now ← unixNow
      pure (impersonationPlan (exchange (some (assertionClaims "app" exp jti)) none)
        { clientClaims := assertionClaims "app" exp jti
          signingDecision := ⟨"RS256", false, none⟩
          now := now })) := by
  have hsigned : ∀ s', some s = some s' → s' ∈ assertions.map Prod.fst := by
    intro s' hs'
    exact Option.some.inj hs' ▸ List.mem_map_of_mem (f := Prod.fst) h
  have hclient : authenticateClientIfPresent (state .both maxSeen hmax knobs)
      (exchangeForm none (some s)).intoExchangeRequest .impersonation = (do
        (assertionChecks (assertionClaims "app" exp jti)).mapErr
          fun err => HttpError.invalidClient err.message
        pure (some (assertionClaims "app" exp jti))) := by
    have hauth : hasClientAuth (exchangeForm none (some s)).intoExchangeRequest = true := rfl
    have hactor : (exchangeForm none (some s)).intoExchangeRequest.actorToken = none := rfl
    have hclaims : authenticateClient (state .both maxSeen hmax knobs)
        (exchangeForm none (some s)).intoExchangeRequest (state .both maxSeen hmax knobs).tokenEndpoint =
          _ :=
      authenticateClient_client h hheader hjti rfl rfl rfl
    simp [authenticateClientIfPresent, hauth, hactor, hclaims, rejectIf]
  have hmode : effectiveExchangeMode (state .both maxSeen hmax knobs).config
      (exchangeForm none (some s)).intoExchangeRequest
      (exchangeForm none (some s)).emptyActorTokenSupplied = .impersonation := rfl
  have hgates : impersonationGates (state .both maxSeen hmax knobs)
      (exchangeForm none (some s)).intoExchangeRequest
      (exchange (some (assertionClaims "app" exp jti)) none) = _ :=
    impersonationGates_eq rfl rfl (AList.lookup_insert _) rfl rfl signingDecisionForTarget_api
  have hdpop : ∀ now, validateDpopHeader formHeaders (state .both maxSeen hmax knobs) now = .ok none :=
    fun _ => rfl
  rw [planExchange, verifyExchange_form (List.mem_cons_self ..) (parseTokenForm_client (Or.inl rfl) s) (by simp) hsigned,
    hmode, hclient]
  simp only [bind_assoc, pure_bind, hdpop, liftM_eq, ofExcept_ok, done_bind, planIn, hgates]

/-! ### Online requests -/

theorem parseOnlinePairs_client {token : String} (htoken : token.isEmpty = false) (s : Signed) :
    parseOnlinePairs (onlinePairs token s) OrdSet.empty {} =
      .ok { token := some token, clientAssertion := some s.token,
            clientAssertionType := some CLIENT_ASSERTION_TYPE } := by
  simp [onlinePairs, clientPairs, parseOnlinePairs, isOnlineTokenParam,
    assignOnlineTokenFormValue, nonEmptyFormValue, isEmpty_token, htoken, CLIENT_ASSERTION_TYPE]

/-- The form of an online request is read back. -/
theorem parseOnlineTokenForm_client {token : String} (htoken : Plain token)
    (hblank : isBlank token = false) (s : Signed) :
    parseOnlineTokenForm formHeaders (form (onlinePairs token s)) =
      .ok { token := some token, clientAssertion := some s.token,
            clientAssertionType := some CLIENT_ASSERTION_TYPE } := by
  have hempty : token.isEmpty = false := by
    rw [Bool.eq_false_iff, Ne, String.isEmpty_iff]
    rintro rfl
    exact absurd hblank (by decide)
  have hplain : ∀ pair ∈ onlinePairs token s, Plain pair.1 ∧ Plain pair.2 := by
    intro pair hpair
    rcases List.mem_cons.mp hpair with rfl | hpair
    · have hname : Plain "token" := by decide
      exact ⟨hname, htoken⟩
    · exact plain_clientPairs s hpair
  have hparse : Crates.formUrlencodedParse (form (onlinePairs token s)) = onlinePairs token s :=
    formUrlencodedParse_form (by simp [onlinePairs]) hplain
  obtain ⟨htype, hauth⟩ := requireFormUrlencoded_ok (Or.inl rfl)
  rw [parseOnlineTokenForm, htype, hauth, hparse]
  exact parseOnlinePairs_client hempty s

/-- The client of an online request waits for the clock only. -/
theorem authenticateOnlineClient_client {s : Signed} {jti : String} {exp : Int64}
    (token : Option String) (endpoint : String)
    (h : (s, assertionClaims "app" exp jti) ∈ assertions)
    (hheader : Crates.headerFromSlice s.header = .ok ⟨"RS256", some "app-1", some "JWT"⟩)
    (hjti : clientAssertionJti (assertionClaims "app" exp jti) = .ok jti) :
    authenticateOnlineClient (state mode maxSeen hmax knobs)
      { token := token, clientAssertion := some s.token,
        clientAssertionType := some CLIENT_ASSERTION_TYPE } endpoint = (do
          (assertionChecks (assertionClaims "app" exp jti)).mapErr
            fun err => HttpError.invalidClient err.message
          pure (assertionClaims "app" exp jti)) := by
  simp only [authenticateOnlineClient, hasClientAuth, Option.isSome_some, Bool.true_or,
    Bool.not_true, rejectIf, Bool.false_eq_true, if_false, liftM_eq, ofExcept_ok, done_bind]
  exact authenticateClient_client h hheader hjti rfl rfl rfl

/-- An online request waits for the clock only. -/
theorem verifyOnline_client {s : Signed} {token jti endpoint : String} {exp : Int64}
    (htoken : Plain token) (hblank : isBlank token = false) (hlen : len token ≤ knobs.maxTokenLen)
    (h : (s, assertionClaims "app" exp jti) ∈ assertions)
    (hheader : Crates.headerFromSlice s.header = .ok ⟨"RS256", some "app-1", some "JWT"⟩)
    (hjti : clientAssertionJti (assertionClaims "app" exp jti) = .ok jti) :
    verifyOnline formHeaders (state mode maxSeen hmax knobs) (form (onlinePairs token s)) endpoint = (do
      (assertionChecks (assertionClaims "app" exp jti)).mapErr
        fun err => HttpError.invalidClient err.message
      pure (token, assertionClaims "app" exp jti)) := by
  have hform := parseOnlineTokenForm_client htoken hblank s
  have hrequired : requiredOnlineToken
      { token := some token, clientAssertion := some s.token,
        clientAssertionType := some CLIENT_ASSERTION_TYPE }
      (state mode maxSeen hmax knobs).config.maxTokenLen = .ok token := by
    exact (requiredOnlineToken_eq rfl hblank _).trans (if_neg (Nat.not_lt.mpr hlen))
  have hclient : authenticateOnlineClient (state mode maxSeen hmax knobs) _ endpoint = _ :=
    authenticateOnlineClient_client (some token) endpoint h hheader hjti
  simp only [verifyOnline, hform, hrequired, hclient, liftM_eq, ofExcept_ok, done_bind, bind_assoc,
    pure_bind]

/-! ### Minted tokens -/

theorem find?_published :
    (publishedJwks signer none).keys.find? (fun key => key.kid == "sts-1") =
      some (jwk "sts-1") := by
  have hkey : signer.publicJwk = jwk "sts-1" := by
    simp only [signer, JoseSigner.publicJwk, RsaJoseSigner.publicJwk, jwk, Crates.rsaPublicComponents]
  have hkeys : (publishedJwks signer none).keys = [jwk "sts-1"] := by
    simp [publishedJwks, JoseSigner.publicJwks, hkey]
  rw [hkeys]
  simp [jwk]

/-- A minted token verifies under the published keys. -/
theorem verify_minted {s : Signed} {claims : MintedClaims} (h : (s, claims) ∈ mintedTokens)
    (hheader : s.header = mintedHeader) :
    verifyClaimsAgainstJwksWithHeader Crates.mintedFromSlice s.token
        (state mode maxSeen hmax knobs).publishedJwks =
      .ok ⟨claims, "RS256", "sts-1", some "at+jwt"⟩ := by
  have hread : Crates.headerFromSlice s.header = .ok ⟨"RS256", some "sts-1", some "at+jwt"⟩ := by
    rw [hheader]
    exact headerFromSlice_minted
  exact verify_token (mem_signed_of_mem_mintedTokens h) hread find?_published nofun
    (fromSlice_payload (by decide) h)

/-- A minted token that has begun and has not run out is active. -/
theorem stsTokenClaims_minted {s : Signed} {iat exp now : Int64} {clientId : String}
    {act : Option ActClaim} {cnfJkt : Option String}
    (h : (s, mintedClaims iat exp clientId act cnfJkt) ∈ mintedTokens)
    (hheader : s.header = mintedHeader) (hclient : isBlank clientId = false)
    (hopen : now < exp) (hbegun : iat ≤ now + 30) :
    stsTokenClaims (state mode maxSeen hmax) s.token now =
      some (mintedClaims iat exp clientId act cnfJkt) :=
  stsTokenClaims_eq_some.mpr
    { verified := ⟨_, _, verify_minted h hheader⟩
      iss := rfl
      aud := (AList.mem_insert _).mpr (Or.inl rfl)
      sub_nonblank := (by decide : isBlank "alice" = false)
      clientId_nonblank := hclient
      scope_nonblank := (by decide : isBlank "read" = false)
      exp := hopen
      iat := hbegun }

end Sample

end StsDelegate
