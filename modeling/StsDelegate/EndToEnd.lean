import StsDelegate.Cli.ExchangeTrust
import StsDelegate.Http.Hops
import StsDelegate.Http.Lifetime
import StsDelegate.JsonOrder

/-!
# From the server back to the client

The client does not trust the server's word: it verifies the token that it gets, and compares
the key that the token is bound to with its own. `issued_token_reported` says that a server
that was started does not fail these checks. Whatever it has issued, in a run with any other
requests, the client accepts under the keys that the server publishes, and reports as it was
issued.
-/

namespace StsDelegate

open Text Fallible Effectful Prog

/-! ### What is the same for the client -/

namespace Json.Same

variable {value value' : Json}

theorem bind_eq {α : Type} {f : Json → Option α} (hf : ∀ {a b}, Same a b → f a = f b)
    {a b : Option Json} (h : Option.Rel Same a b) : a.bind f = b.bind f := by
  cases h with
  | none => rfl
  | some h => exact hf h

theorem member (h : Same value value') (name : String) :
    Option.Rel Same (value.member name) (value'.member name) := by
  cases h with
  | refl => exact refl_option _
  | array h => exact .none
  | object h => exact h name

theorem textMember_eq (h : Same value value') (name : String) :
    value.textMember name = value'.textMember name :=
  bind_eq Same.asStr_eq (h.member name)

theorem safeAudienceClaim_eq (h : Same value value') :
    safeAudienceClaim value = safeAudienceClaim value' := by
  unfold safeAudienceClaim
  have haud := h.member "aud"
  generalize value.member "aud" = aud at haud
  generalize value'.member "aud" = aud' at haud
  cases haud with
  | none => rfl
  | some haud =>
      cases haud with
      | refl => rfl
      | array hitems => simp only [filterMap_asStr hitems]
      | object _ => rfl

/-- The summary of claims does not depend on their order. -/
theorem safeClaimsSummary_eq [Crates] (h : Same value value') :
    safeClaimsSummary value = safeClaimsSummary value' := by
  have hnested : ∀ name name' : String, (value.member name).bind (·.textMember name') =
      (value'.member name).bind (·.textMember name') := fun name name' =>
    bind_eq (fun hmember => hmember.textMember_eq name') (h.member name)
  have htime : ∀ name : String, (value.member name).bind Json.asI64 =
      (value'.member name).bind Json.asI64 := fun name => bind_eq Same.asI64_eq (h.member name)
  simp only [safeClaimsSummary, safeStringClaim, h.textMember_eq, h.safeAudienceClaim_eq, hnested,
    htime]

end Json.Same

/-- The octets are read as this value, up to the order of members. -/
def Reads (json : Bytes → Except String Json) (bytes : Bytes) (value : Json) : Prop :=
  ∃ read, json bytes = .ok read ∧ Json.Same read value

section Server

variable [crates : Crates]

/-- The client is another program, with a reader of its own for JSON values. -/
@[reducible] def clientCrates (json : Bytes → Except String Json) : Crates :=
  { crates with valueFromSlice := json }

/-- Nothing is read for a summary. -/
theorem safeClaimsSummary_client (json : Bytes → Except String Json) (claims : Json) :
    @safeClaimsSummary (clientCrates json) claims = safeClaimsSummary claims := rfl

/-- What is relied on of that reader: it reads what the server writes into a token. -/
structure ReadsTokens (json : Bytes → Except String Json) : Prop where
  header : ∀ {header : ProtectedHeader} {bytes : Bytes}, Crates.headerToVec header = .ok bytes →
    ∃ value, json bytes = .ok value
  claims : ∀ {claims : MintedClaims} {bytes : Bytes}, Crates.mintedToVec claims = .ok bytes →
    Reads json bytes claims.toValue
  rs256 : ∀ {header : ProtectedHeader} {claims : MintedClaims} {key entropy : Bytes}
      {headerBytes payload signature : Bytes},
    Crates.rs256Encode header claims key entropy =
      .ok (compactJws headerBytes payload signature) →
    (∃ value, json headerBytes = .ok value) ∧ Reads json payload claims.toValue

/-! ### The token -/

/-- The client can read both parts of a token that the server has signed. -/
theorem signClaims_reads (signing : LawfulSigning) {json : Bytes → Except String Json}
    (reads : ReadsTokens json) {signer : JoseSigner} {claims : MintedClaims} {entropy : Bytes}
    {token : String} (hsign : signer.signClaims claims entropy = .ok token) :
    ∃ header payload signature value, token = compactJws header payload signature ∧
      json header = .ok value ∧ Reads json payload claims.toValue := by
  have hcompact : ∀ {protected' : ProtectedHeader} {sign : Bytes → Except JoseError Bytes},
      signCompact protected' claims sign = .ok token →
      ∃ header payload signature value, token = compactJws header payload signature ∧
        json header = .ok value ∧ Reads json payload claims.toValue := by
    intro protected' sign hsign
    obtain ⟨header, payload, signature, htoken, hheader, hpayload, -⟩ := signCompact_eq_ok hsign
    obtain ⟨value, hvalue⟩ := reads.header hheader
    exact ⟨header, payload, signature, value, htoken, hvalue, reads.claims hpayload⟩
  cases signer with
  | rsa s =>
      have hencode := mapError_eq_ok.mp hsign
      obtain ⟨header, payload, signature, rfl, -⟩ := signing.rs256 hencode
      obtain ⟨⟨value, hvalue⟩, hclaims⟩ := reads.rs256 hencode
      exact ⟨header, payload, signature, value, rfl, hvalue, hclaims⟩
  | externalRs256 s => exact hcompact hsign
  | mlDsa s => exact hcompact hsign
  | externalMlDsa s => exact hcompact hsign

/-- A verification hands octets to its reader, and does not look at what that makes of them. -/
theorem payload_of_verified {T : Type} {fromSlice : Bytes → Except String T} {token : String}
    {jwks : JwksDocument} {allowedAlgs : Option (List String)} {v : VerifiedJws T}
    (h : verifyClaimsAgainstJwksInner fromSlice token jwks allowedAlgs = .ok v) :
    ∃ bytes, ∀ {T' : Type} {fromSlice' : Bytes → Except String T'} {claims : T'},
      fromSlice' bytes = .ok claims →
      verifyClaimsAgainstJwksInner fromSlice' token jwks allowedAlgs =
        .ok ⟨claims, v.alg, v.kid, v.typ⟩ := by
  simp only [verifyClaimsAgainstJwksInner, bind_eq_ok, rejectIf_eq_ok, okOr_eq_ok, pure_eq_ok] at h
  obtain ⟨header, hheader, _, hallowed, kid, hkid, jwk, hjwk, claims, hverify, rfl⟩ := h
  -- only the last step of either procedure is the reader's
  suffices hlast : ∃ bytes, ∀ {T' : Type} {fromSlice' : Bytes → Except String T'} {claims : T'},
      fromSlice' bytes = .ok claims →
      verifyClaimsAgainstJwk fromSlice' token jwk header.alg = .ok claims by
    obtain ⟨bytes, hbytes⟩ := hlast
    refine ⟨bytes, fun hclaims => ?_⟩
    simp only [verifyClaimsAgainstJwksInner, bind_eq_ok, rejectIf_eq_ok, okOr_eq_ok, pure_eq_ok]
    exact ⟨header, hheader, (), hallowed, kid, hkid, jwk, hjwk, _, hbytes hclaims, rfl⟩
  rw [verifyClaimsAgainstJwk] at hverify
  by_cases halg : header.alg = "RS256"
  · simp only [if_pos halg, verifyRs256ClaimsAgainstJwk, bind_eq_ok, okOr_eq_ok,
      mapError_eq_ok] at hverify
    obtain ⟨key, hkey, n, hn, e, he, _, hcomponents, bytes, hdecode, -⟩ := hverify
    refine ⟨bytes, fun hclaims => ?_⟩
    simp only [verifyClaimsAgainstJwk, if_pos halg, verifyRs256ClaimsAgainstJwk, bind_eq_ok,
      okOr_eq_ok, mapError_eq_ok]
    exact ⟨key, hkey, n, hn, e, he, (), hcomponents, bytes, hdecode, hclaims⟩
  · rw [if_neg halg] at hverify
    by_cases hmlDsa : (MlDsaAlgorithm.fromJoseAlg header.alg).isSome = true
    · simp only [if_pos hmlDsa, verifyMldsaClaimsAgainstJwk, decodePayloadClaims, bind_eq_ok,
        okOr_eq_ok, mapError_eq_ok, rejectIf_eq_ok] at hverify
      obtain ⟨algorithm, halgorithm, key, hkey, _, hsame, segments, hsegments, signature, hsignature, _,
        hlength, _, hpublic, _, hverifier, valid, hvalid, _, hsigned, bytes, hbytes, -⟩ := hverify
      refine ⟨bytes, fun hclaims => ?_⟩
      simp only [verifyClaimsAgainstJwk, if_neg halg, if_pos hmlDsa, verifyMldsaClaimsAgainstJwk,
        decodePayloadClaims, bind_eq_ok, okOr_eq_ok, mapError_eq_ok, rejectIf_eq_ok]
      exact ⟨algorithm, halgorithm, key, hkey, (), hsame, segments, hsegments, signature, hsignature,
        (), hlength, (), hpublic, (), hverifier, valid, hvalid, (), hsigned, bytes, hbytes, hclaims⟩
    · rw [if_neg hmlDsa] at hverify
      cases hverify

/-- A token that one reader has accepted is accepted by any other that can read its payload. -/
theorem verified_reread {T T' : Type} {fromSlice : Bytes → Except String T}
    {fromSlice' : Bytes → Except String T'} {valid : RsaValidity} (decodes : DecodesRs256 valid)
    {header payload signature : Bytes} {jwks : JwksDocument} {allowedAlgs : Option (List String)}
    {v : VerifiedJws T} {claims : T'}
    (h : verifyClaimsAgainstJwksInner fromSlice (compactJws header payload signature) jwks
      allowedAlgs = .ok v) (hclaims : fromSlice' payload = .ok claims) :
    verifyClaimsAgainstJwksInner fromSlice' (compactJws header payload signature) jwks allowedAlgs =
      .ok ⟨claims, v.alg, v.kid, v.typ⟩ := by
  obtain ⟨bytes, hreread⟩ := payload_of_verified h
  have hpayload : Except.ok payload = (Except.ok bytes : Except String Bytes) :=
    claims_of_verified decodes (@hreread Bytes Except.ok bytes rfl)
  cases hpayload
  exact hreread hclaims

/-! ### The keys -/

omit crates in
/-- A written key has no members but texts. -/
theorem text_of_get_toMembers (jwk : PublicJwk) {name : String} {value : Json}
    (h : Json.get jwk.toMembers name = some value) : ∃ s, value = .string s := by
  have htexts : ∀ member ∈ jwk.toMembers, ∃ s, member.2 = .string s := by
    obtain ⟨kty, kid, use, alg, n, e, pub⟩ := jwk
    cases n <;> cases e <;> cases pub <;> simp [PublicJwk.toMembers, PublicJwk.optionalMember]
  obtain ⟨before, after, heq, -⟩ := List.lookup_eq_some_iff.mp h
  exact htexts (name, value) (by rw [heq]; simp)

section Keys

variable {jwk : PublicJwk} {members : List (String × Json)}

omit crates in
/-- A key is read by the names of its members. -/
theorem fromMembers_of_get (h : ∀ name, Json.get members name = Json.get jwk.toMembers name) :
    PublicJwk.fromMembers members = some jwk := by
  rw [← PublicJwk.fromMembers_toMembers jwk]
  simp only [PublicJwk.fromMembers, requiredText, defaultText, optionalText, h]

/-- And inspected by them. -/
theorem inspectPublicKey_of_get (h : ∀ name, Json.get members name = Json.get jwk.toMembers name)
    {index : Nat} {inspected : InspectedKey}
    (hinspected : inspectPublicKey index jwk.toMembers = .ok inspected) :
    inspectPublicKey index members = .ok inspected := by
  have hpublic : (members.any fun member => privateJwkMembers.contains member.1) = false := by
    rw [List.any_eq_false]
    intro member hmember hprivate
    have hhidden := containsKey_toMembers (by simpa using hprivate) jwk
    rw [Json.containsKey, ← h] at hhidden
    have hnone : Json.get members member.1 = none := by simpa using hhidden
    exact absurd (List.lookup_eq_none_iff.mp hnone member hmember) (by simp)
  simp only [inspectPublicKey, hpublic, rsaModulusBitsFromKey, akpPublicFromKey, requiredString,
    optionalString, h, bind_eq_ok, rejectIf_eq_ok] at hinspected ⊢
  obtain ⟨_, -, hrest⟩ := hinspected
  exact ⟨(), trivial, hrest⟩

end Keys

omit crates in
/-- The entries of a written document, however their members are ordered. -/
theorem normalizeJwksValue_same {document : JwksDocument} {value : Json}
    (hsame : Json.Same value document.toValue) (hne : document.keys ≠ []) :
    ∃ objects, normalizeJwksValue value = .ok objects ∧
      List.Forall₂ (fun object (key : PublicJwk) =>
        ∀ name, Json.get object name = Json.get key.toMembers name) objects document.keys := by
  obtain ⟨members, rfl, hmembers⟩ := hsame.of_object
  obtain ⟨items, hitems, hkeys⟩ : ∃ items, Json.get members "keys" = some (.array items) ∧
      List.Forall₂ (fun item (key : PublicJwk) => Json.Same item (.object key.toMembers)) items
        document.keys := by
    have hmember : Option.Rel Json.Same (Json.get members "keys")
        (some (.array (document.keys.map fun key => .object key.toMembers))) := hmembers "keys"
    generalize Json.get members "keys" = keys at hmember
    cases hmember with
    | some harray =>
        obtain ⟨items, rfl, hitems⟩ := harray.of_array
        exact ⟨items, rfl, List.forall₂_map_right_iff.mp hitems⟩
  have hraws : publicJwksKeys (.object members) "" = .ok items := by simp [publicJwksKeys, hitems]
  have hitemsNe : items ≠ [] := by
    rintro rfl
    exact hne (List.forall₂_nil_left_iff.mp hkeys)
  suffices hentries : ∃ objects : List (List (String × Json)),
      List.Forall₂ (fun item object => item.asObject = some object) items objects ∧
      List.Forall₂ (fun object (key : PublicJwk) =>
        ∀ name, Json.get object name = Json.get key.toMembers name) objects document.keys by
    obtain ⟨objects, hobjects, hentries⟩ := hentries
    exact ⟨objects, (normalizeJwksValue_eq_ok hraws).mpr ⟨hitemsNe, hobjects⟩, hentries⟩
  generalize document.keys = keys at hkeys
  clear hraws hitems hitemsNe
  induction hkeys with
  | nil => exact ⟨[], .nil, .nil⟩
  | @cons item key _ _ hitem _ ih =>
      obtain ⟨objects, hobjects, hentries⟩ := ih
      obtain ⟨object, rfl, hobject⟩ := hitem.of_object
      exact ⟨object :: objects, .cons rfl hobjects,
        .cons (Json.Same.get_eq hobject fun _ _ => text_of_get_toMembers key) hentries⟩

variable [KeyCrates]

/-- A published document is read as it was written, if its keys have ids. -/
theorem parseExchangeJwksDocument_same {document : JwksDocument} {raw : String} {value : Json}
    (hread : valueFromStr raw = .ok value) (hsame : Json.Same value document.toValue)
    (hne : document.keys ≠ []) (hchecked : ∀ key ∈ document.keys, CheckedJwk key)
    (hkids : ∀ key ∈ document.keys, key.kid ≠ "") (label : String) :
    parseExchangeJwksDocument raw label = .ok document := by
  obtain ⟨objects, hobjects, hentries⟩ := normalizeJwksValue_same hsame hne
  obtain ⟨inspected, hinspected⟩ : ∃ inspected, inspectPublicKeys objects = .ok inspected := by
    refine exists_mapM_eq_ok fun entry hentry => ?_
    have hmem := List.mem_of_getElem? (List.mem_zipIdx_iff_getElem?.mp hentry)
    obtain ⟨key, hkey, hget⟩ := exists_of_forall₂_mem hentries.flip hmem
    obtain ⟨report, hreport⟩ := inspectPublicKey_toMembers (hchecked key hkey) entry.2
    exact ⟨report, inspectPublicKey_of_get hget hreport⟩
  have hkeys : objects.zipIdx.mapM (fun entry => exchangePublicKey label entry.2 entry.1) =
      .ok document.keys := by
    have hnamed := ((List.forall₂_and_left _ _).mpr ⟨hkids, hentries.flip⟩).flip
    refine mapM_eq_ok.mpr ((forall₂_zipIdx.mpr hnamed).imp fun entry key hentry => ?_)
    have hkid : key.kid.isEmpty = false := by simpa using hentry.1
    simp only [exchangePublicKey, fromMembers_of_get hentry.2, okOr_some, ok_bind, hkid, rejectIf]
    rfl
  simp only [parseExchangeJwksDocument, hread, mapError_ok, ok_bind, hobjects, hinspected, hkeys]
  rfl

/-! ### The holder -/

omit crates [KeyCrates] in
/-- The characters of ASCII octets are encoded as these octets. -/
theorem asBytes_ofList_ascii {bytes : Bytes} (h : ∀ b ∈ bytes, b.toNat < 128) :
    asBytes (String.ofList (bytes.map fun b => Char.ofNat b.toNat)) = bytes := by
  have hchar : ∀ n : Fin 128, String.utf8EncodeChar (Char.ofNat n) = [UInt8.ofNat n] := by decide
  have hencode : ∀ cs : List Char,
      asBytes (String.ofList cs) = cs.flatMap String.utf8EncodeChar := by
    intro cs
    simp [asBytes, List.utf8Encode]
  rw [hencode]
  induction bytes with
  | nil => rfl
  | cons b rest ih =>
      obtain ⟨hb, hrest⟩ := List.forall_mem_cons.mp h
      rw [List.map_cons, List.flatMap_cons, hchar ⟨b.toNat, hb⟩, UInt8.ofNat_toNat, ih hrest]
      rfl

omit crates [KeyCrates] in
/-- A header field that was sent as a text is read as that text, if it is read at all. -/
theorem toStr_asBytes {s t : String} (h : HeaderValue.toStr (asBytes s) = some t) : t = s := by
  rw [HeaderValue.toStr] at h
  split at h
  · next hall =>
      have hascii : ∀ b ∈ asBytes s, b.toNat < 128 := by
        intro b hb
        have hvisible := List.all_eq_true.mp hall b hb
        simp only [Bool.or_eq_true, beq_iff_eq, Bool.and_eq_true, decide_eq_true_eq,
          UInt8.lt_iff_toNat_lt] at hvisible
        rcases hvisible with rfl | ⟨-, hlow⟩
        · decide
        · exact hlow.trans (by decide)
      rw [← Option.some.inj h]
      exact asBytes_injective (asBytes_ofList_ascii hascii)
  · cases h

variable [HolderCrates]

/-- What is relied on of JWK serialization: the key in the header of a proof is read as the key
that was written. -/
structure ReadsProofKeys : Prop where
  header : ∀ {x y : String} {jwk : Jwk} {members : List (String × Json)},
    Crates.jwkFromValue (publicJwkValue x y) = some jwk →
    Crates.valueFromSlice (HolderCrates.valueToVec (.object (proofHeaderMembers jwk))) =
      .ok (.object members) →
    (Json.get members "jwk").bind Crates.jwkFromValue = some jwk

omit [KeyCrates] in
/-- An accepted proof binds to the key that its holder has written into it. -/
theorem jkt_of_accepted (proofs : ReadsProofKeys) {x y : String} {jwk : Jwk}
    (hjwk : Crates.jwkFromValue (publicJwkValue x y) = some jwk) {claims signature : Bytes}
    {input : DpopProofRequest} {binding : DpopBinding}
    (hproof : input.proof =
      compactJws (HolderCrates.valueToVec (.object (proofHeaderMembers jwk))) claims signature)
    (h : validateDpopProof input = .ok binding) : binding.jkt = Crates.jwkThumbprint jwk := by
  obtain ⟨header, payload, signature', alg, jwk', _, jti, iat, hchecked, -, rfl⟩ :=
    validateDpopProof_eq_ok.mp h
  have hsplit := hchecked.shape.segments
  rw [hproof, splitAtChar_compactJws] at hsplit
  obtain ⟨bytes, members, keyMembers, algName, hbytes, hvalue, hsound⟩ := hchecked.header
  simp only [List.cons.injEq] at hsplit
  rw [← hsplit.1, Base64.decode_encode, Option.some.injEq] at hbytes
  subst hbytes
  have hkey := proofs.header hjwk hvalue
  rw [hsound.key, Option.bind_some, hsound.read, Option.some.injEq] at hkey
  exact congrArg Crates.jwkThumbprint hkey

omit [KeyCrates] in
/-- The binding of an issued token: the key that the sent proof was made with. -/
theorem cnfJkt_of_sent (proofs : ReadsProofKeys) {state : HttpState} {headers : HeaderMap}
    {body : Bytes} {t : List Ev} {mode : EffectiveExchangeMode} {request : ExchangeRequest}
    {plan : Plan} {sent : Option String}
    (h : Planned headers state body t mode request plan)
    (hsent : headers.getAll "dpop" = (sent.map asBytes).toList) (jti : String) :
    (plan.payload state jti).cnfJkt.isSome = sent.isSome ∧
    ∀ x y jwk claims signature, Crates.jwkFromValue (publicJwkValue x y) = some jwk →
      sent = some (compactJws (HolderCrates.valueToVec (.object (proofHeaderMembers jwk))) claims
        signature) →
      (plan.payload state jti).cnfJkt = some (Crates.jwkThumbprint jwk) := by
  obtain ⟨now, -, hbinding⟩ := h.verified.dpop
  have hpayload : (plan.payload state jti).cnfJkt = plan.exchange.dpopBinding.map DpopBinding.jkt :=
    rfl
  cases sent with
  | none =>
      simp only [validateDpopHeader, hsent, Option.map_none, Option.toList_none] at hbinding
      rw [hpayload, ← Except.ok.inj hbinding]
      exact ⟨rfl, fun _ _ _ _ _ _ hsome => by cases hsome⟩
  | some proof =>
      simp only [validateDpopHeader, hsent, Option.map_some, Option.toList_some, bind_eq_ok,
        okOr_eq_ok, mapError_eq_ok, pure_eq_ok] at hbinding
      obtain ⟨read, hread, binding, haccepted, hsome⟩ := hbinding
      rw [toStr_asBytes hread] at haccepted
      rw [hpayload, ← hsome]
      refine ⟨rfl, fun x y jwk claims signature hjwk hproof => ?_⟩
      exact congrArg some (jkt_of_accepted proofs hjwk (Option.some.inj hproof) haccepted)

omit crates [HolderCrates] [KeyCrates] in
/-- The thumbprint in the JSON of claims. -/
theorem jkt_toValue (claims : MintedClaims) :
    (claims.toValue.member "cnf").bind (·.textMember "jkt") = claims.cnfJkt := by
  have hget : claims.toValue.member "cnf" =
      claims.cnfJkt.map fun jkt => .object [("jkt", .string jkt)] := by
    simp [Json.member, MintedClaims.toValue, Json.asObject, Json.get, MintedClaims.toMembers,
      List.lookup_append, List.lookup_cons]
  rw [hget]
  cases claims.cnfJkt <;> rfl

omit [KeyCrates] in
/-- The client waits for the key that it has written into its proof. -/
theorem jkt_of_built {args : ExchangeArgs} {outside : Outside} {sent : ExchangeHttpRequest}
    {jkt : String} (hbuilt : buildExchangeHttpRequest args outside = .ok sent)
    (hjkt : sent.dpopJkt = some jkt) :
    ∃ x y jwk claims signature, Crates.jwkFromValue (publicJwkValue x y) = some jwk ∧
      sent.dpopProof = some (compactJws (HolderCrates.valueToVec (.object (proofHeaderMembers jwk)))
        claims signature) ∧ jkt = Crates.jwkThumbprint jwk := by
  obtain ⟨-, -, hproof⟩ := buildExchangeHttpRequest_eq_ok hbuilt
  rcases hproof with ⟨-, hnone, -⟩ | ⟨path, key, -, hsigned⟩
  · rw [hnone] at hjkt
    cases hjkt
  · obtain ⟨proof, htu, iat, hproof, -, hsign⟩ := hsigned.proof
    obtain ⟨jwk, der, signature, hjwk, -, -, hcompact⟩ := signProof_eq_ok hsign
    rw [DpopHolderKey.publicJwk, okOr_eq_ok] at hjwk
    obtain ⟨jwk', hjwk', hthumbprint⟩ := key.thumbprint
    rw [hjwk, Option.some.injEq] at hjwk'
    subst hjwk'
    rw [hsigned.jkt, Option.some.injEq, DpopHolderKey.publicJkt, hthumbprint] at hjkt
    exact ⟨key.x, key.y, jwk, _, signature, hjwk, hproof.trans (congrArg some hcompact), hjkt.symm⟩

/-! ### The run of the client -/

omit crates [KeyCrates] [HolderCrates] in
/-- `serde_json::to_value` of a response. -/
def TokenResponse.toMembers (response : TokenResponse) : List (String × Json) :=
  [("access_token", .string response.accessToken),
    ("issued_token_type", .string response.issuedTokenType),
    ("token_type", .string response.tokenType), ("expires_in", .ofI64 response.expiresIn),
    ("scope", .string response.scope)] ++
  writtenMember "signing_alg_selected" .string
    (if response.signingAlgSelected.isEmpty then none else some response.signingAlgSelected) ++
  [("pqc_fallback", .bool response.pqcFallback)] ++
  writtenMember "pqc_fallback_reason" .string response.pqcFallbackReason

omit crates [KeyCrates] [HolderCrates] in
def TokenResponse.toValue (response : TokenResponse) : Json := .object response.toMembers

omit crates [KeyCrates] [HolderCrates] in
/-- The client is given its keys in this text. -/
def GivesKeys (args : ExchangeArgs) (outside : Outside) (text : String) : Prop :=
  (∃ path, args.jwksFile = some path ∧ outside.readToString path = .ok text) ∨
  args.jwksFile = none ∧ ∃ url answer, args.jwksUrl = some url ∧
    (startsWith url "https://" || startsWith url "http://") = true ∧
    outside.get url = .ok answer ∧ answer.isSuccess = true ∧ answer.text = .ok text

omit crates [KeyCrates] [HolderCrates] in
theorem gives_some {args : ExchangeArgs} {outside : Outside} {text : String}
    (h : GivesKeys args outside text) : (args.jwksFile.isSome || args.jwksUrl.isSome) = true := by
  rcases h with ⟨path, hfile, -⟩ | ⟨-, url, answer, hurl, -⟩
  · rw [hfile]
    rfl
  · rw [hurl, Option.isSome_some, Bool.or_true]

omit [HolderCrates] in
theorem loadExchangeJwks_of_gives {args : ExchangeArgs} {outside : Outside} {text : String}
    {document : JwksDocument} (h : GivesKeys args outside text)
    (hparse : ∀ label, parseExchangeJwksDocument text label = .ok document) :
    ∃ source, loadExchangeJwks args outside = .ok (some (document, source)) := by
  rcases h with ⟨path, hfile, hread⟩ | ⟨hfile, url, answer, hurl, hscheme, hget, hsuccess, htext⟩
  · refine ⟨"file", ?_⟩
    simp [loadExchangeJwks, loadJwks, hfile, hread, hparse]
  · refine ⟨"url", ?_⟩
    have hhttp : (!startsWith url "https://" && !startsWith url "http://") = false := by
      rw [← Bool.not_or, hscheme]
      rfl
    simp [loadExchangeJwks, loadJwks, hfile, hurl, rejectIf, hhttp, hget, htext, hsuccess, hparse]

omit [KeyCrates] [HolderCrates] in
theorem decodeCompactJwt_compactJws {header payload signature : Bytes} {protected' claims : Json}
    (hheader : Crates.valueFromSlice header = .ok protected')
    (hclaims : Crates.valueFromSlice payload = .ok claims) :
    decodeCompactJwt (compactJws header payload signature) = .ok (some (protected', claims)) := by
  simp [decodeCompactJwt, splitAtChar_compactJws, decodeCompactJwtJsonPart, hheader, hclaims]

variable [PrintCrates]

/-- The client has sent its request, with the proof that the server has read, and gets what
the server has answered and the keys that it publishes. -/
structure Answers (json : Bytes → Except String Json) (args : ExchangeArgs) (outside : Outside)
    (state : HttpState) (request : Request) (response : TokenResponse)
    (sent : ExchangeHttpRequest) : Prop where
  built : @buildExchangeHttpRequest (clientCrates json) _ args outside = .ok sent
  proof : request.headers.getAll "dpop" = (sent.dpopProof.map asBytes).toList
  answered : ∃ text, outside.post sent = .ok ⟨200, .ok text⟩ ∧
    Reads json (asBytes text) response.toValue
  published : ∃ text, GivesKeys args outside text ∧
    Reads json (asBytes text) state.publishedJwks.toValue

/-- What a report tells of an issued token with these claims. -/
structure ReportsIssued (state : HttpState) (args : ExchangeArgs) (response : TokenResponse)
    (claims : MintedClaims) (fields : List (String × String)) : Prop where
  reports : Reports args response.accessToken (some claims.toValue) fields
  verified : fields.lookup "jwt_signature_verified" = some "true"
  alg : fields.lookup "jwt_header_alg" = some (sanitize state.signer.alg)
  kid : fields.lookup "jwt_header_kid" = some (sanitize state.signer.kid)
  tokenType : fields.lookup "token_type" = some (sanitize response.tokenType)
  expiresIn : fields.lookup "expires_in" = some (displayJsonScalar (.ofI64 response.expiresIn))

omit [HolderCrates] [KeyCrates] [PrintCrates] crates in
/-- What the client reads of the response. -/
theorem read_response {value : Json} {response : TokenResponse}
    (h : Json.Same value response.toValue) :
    value.textMember "access_token" = some response.accessToken ∧
    value.textMember "token_type" = some response.tokenType ∧
    (value.member "expires_in").bind Json.asI64 = some response.expiresIn := by
  refine ⟨?_, ?_, ?_⟩
  · rw [h.textMember_eq]
    rfl
  · rw [h.textMember_eq]
    rfl
  · rw [Json.Same.bind_eq Json.Same.asI64_eq (h.member "expires_in")]
    exact Json.asI64_ofI64 response.expiresIn

/-- A token that verifies, and is bound to the holder's key if there is one, is reported. -/
theorem reported_of_verified {args : ExchangeArgs} {outside : Outside} {sent : ExchangeHttpRequest}
    {text token source : String} {body : Json} {decoded : Option (Json × Json)}
    {document : JwksDocument} {verified : VerifiedJws Json}
    (hbuilt : buildExchangeHttpRequest args outside = .ok sent)
    (hposted : outside.post sent = .ok ⟨200, .ok text⟩) (hbody : valueFromStr text = .ok body)
    (htoken : body.textMember "access_token" = some token)
    (hdecoded : decodeCompactJwt token = .ok decoded)
    (hloads : loadExchangeJwks args outside = .ok (some (document, source)))
    (hverified : verifyClaimsAgainstJwksWithHeader Crates.valueFromSlice token document =
      .ok verified)
    (hholder : ∀ jkt, sent.dpopJkt = some jkt →
      (verified.claims.member "cnf").bind (·.textMember "jkt") = some jkt) :
    ∃ output, runExchange args outside = .ok output ∧
      (args.output = .redacted → args.printToken = false →
        output = renderLines (readLines output) ∧
        Reports args token (some verified.claims) (readLines output) ∧
        (readLines output).lookup "jwt_header_alg" = some (sanitize verified.alg) ∧
        (readLines output).lookup "jwt_header_kid" = some (sanitize verified.kid) ∧
        (∀ tokenType, body.textMember "token_type" = some tokenType →
          (readLines output).lookup "token_type" = some (sanitize tokenType)) ∧
        ∀ expiresIn, (body.member "expires_in").bind Json.asI64 = some expiresIn →
          (readLines output).lookup "expires_in" = some (displayJsonScalar (.ofI64 expiresIn))) := by
  obtain ⟨holder, hbinds⟩ : ∃ holder, checkHolder
      ⟨some verified.claims, some verified.alg, some verified.kid, source⟩ sent.dpopJkt =
        .ok holder := by
    cases hjkt : sent.dpopJkt with
    | none => exact ⟨[], rfl⟩
    | some jkt =>
        refine ⟨[("dpop_cnf_jkt_matches_holder", .bool true),
          ("dpop_holder_jkt_sha256_prefix", .string (sha256HexPrefix jkt))], ?_⟩
        simp [checkHolder, hholder jkt hjkt, rejectIf]
  have hdone : Exchanged args outside sent ⟨200, .ok text⟩ body token decoded
      (some (document, source))
      ⟨some verified.claims, some verified.alg, some verified.kid, source⟩ holder :=
    { built := hbuilt
      posted := hposted
      read := ⟨text, rfl, hbody⟩
      success := rfl
      carries := htoken
      decodes := hdecoded
      loads := hloads
      examines := examineToken_eq_ok.mpr (.inr ⟨document, source, verified, rfl, hverified, rfl⟩)
      binds := hbinds }
  refine ⟨_, runExchange_eq_ok.mpr ⟨_, _, _, _, _, _, _, _, hdone, rfl⟩, fun hformat hprint => ?_⟩
  obtain ⟨-, hclaims, -⟩ := checkHolder_eq_ok hbinds
  have hmembers : SummaryMembers (exchangeSummary 200 body token decoded
      ⟨some verified.claims, some verified.alg, some verified.kid, source⟩ holder) token
      ⟨some verified.claims, some verified.alg, some verified.kid, source⟩ holder :=
    summaryMembers hclaims
  obtain ⟨hrendered, hread⟩ := @renderSummary_redacted _ _ args 200 body token decoded _ holder
    sent.dpopJkt hbinds hformat hprint
  rw [hrendered, hread]
  refine ⟨rfl, hdone.reports, ?_, ?_, fun tokenType htype => ?_, fun expiresIn hexpires => ?_⟩
  · rw [lookup_mapFields fieldNames_exchange (by decide), hmembers.alg verified.alg rfl]
    exact congrArg some (sanitize_sanitize verified.alg)
  · rw [lookup_mapFields fieldNames_exchange (by decide), hmembers.kid verified.kid rfl]
    exact congrArg some (sanitize_sanitize verified.kid)
  · rw [lookup_mapFields fieldNames_exchange (by decide)]
    simp only [exchangeSummary, Json.get_append, Json.get_cons, htype]
    exact congrArg some (sanitize_sanitize tokenType)
  · rw [lookup_mapFields fieldNames_exchange (by decide)]
    simp [exchangeSummary, Json.get_append, Json.get_cons, get_safeMember, hexpires]

/-- **Client and server agree.** Whatever request a started server has answered with a token, in
a run with any others: a client that gets the response and the published keys, and whose proof
was the one that the server has read, does not refuse it. It reports the token as verified under
the key of the server, with the claims that were issued. The token is bound to a key exactly if
a proof was sent. -/
theorem issued_token_reported (signing : LawfulSigning) (keys : LawfulRsaKeyPair)
    {valid : RsaValidity} (decodes : DecodesRs256 valid) {json : Bytes → Except String Json}
    (reads : ReadsTokens json) (proofs : ReadsProofKeys) {config : StartConfig} {disk : Disk}
    {web : Web} {entropy : Bytes} {state : HttpState} {replay : ReplayPolicy}
    (hstart : buildStateFromConfig config disk web entropy = .ok (state, replay))
    (hprovider : state.signer.ProviderMatches)
    (hkids : ∀ key ∈ state.publishedJwks.keys, key.kid ≠ "") {moves : List (Move Request Tick)}
    {w : ServerPool} {i : Nat} {request : Request} {response : TokenResponse}
    (hrun : ServerPool.run state moves = some w) (hissues : w.Issues i request response)
    {args : ExchangeArgs} {outside : Outside} {sent : ExchangeHttpRequest}
    (h : Answers json args outside state request response sent) :
    ∃ output plan jti, IssuedFor state request response plan jti ∧
      (plan.payload state jti).cnfJkt.isSome = sent.dpopProof.isSome ∧
      @runExchange (clientCrates json) _ _ _ args outside = .ok output ∧
      (args.output = .redacted → args.printToken = false →
        output = renderLines (readLines output) ∧
        ReportsIssued state args response (plan.payload state jti) (readLines output)) := by
  obtain ⟨plan, jti, t, mode, exchangeRequest, hissued, hplanned, -⟩ := planned_of_run hrun hissues
  obtain ⟨random, hsign⟩ := hissued.signed
  obtain ⟨hbound, hholder⟩ := cnfJkt_of_sent proofs hplanned h.proof jti
  have hstarted := buildStateFromConfig_eq_ok.mp hstart
  obtain ⟨extra, hextra, hpublished⟩ := hstarted.published
  have haccepted := accepted_of_loadSigner keys hstarted.signer
  -- the token verifies, and so it does for the client
  have hverified := verify_signClaims signing haccepted.1 hprovider
    (find?_publishedJwks state.signer extra) ((hplanned.actDepth_le jti).trans (by decide)) hsign
  rw [← hpublished] at hverified
  obtain ⟨header, payload, signature, protected', htoken, hheader, claims, hclaims, hsame⟩ :=
    signClaims_reads signing reads hsign
  rw [htoken] at hverified
  have hreverified := verified_reread decodes hverified hclaims
  rw [← htoken] at hreverified
  -- the keys are read as they are published
  have hchecked : ∀ key ∈ state.publishedJwks.keys, CheckedJwk key := by
    rw [hpublished]
    intro key hkey
    exact (acceptedJwk_iff.mp (accepted_publishedJwks haccepted hextra key hkey)).2
  have hne : state.publishedJwks.keys ≠ [] := by
    obtain ⟨⟨rest, hrest⟩, -⟩ := publishedJwks_keys state.signer extra
    rw [hpublished, hrest]
    exact List.cons_ne_nil _ _
  obtain ⟨keysText, hgives, keysValue, hkeysValue, hkeysSame⟩ := h.published
  obtain ⟨source, hloads⟩ := @loadExchangeJwks_of_gives (clientCrates json) _ args outside keysText
    state.publishedJwks hgives
    (@parseExchangeJwksDocument_same (clientCrates json) _ _ _ _ hkeysValue hkeysSame hne hchecked
      hkids)
  -- and the response as it was answered
  obtain ⟨text, hposted, body, hbody, hbodySame⟩ := h.answered
  obtain ⟨haccess, htype, hexpires⟩ := read_response hbodySame
  have hdecoded : @decodeCompactJwt (clientCrates json) response.accessToken =
      .ok (some (protected', claims)) := by
    rw [htoken]
    exact @decodeCompactJwt_compactJws (clientCrates json) _ _ _ _ _ hheader hclaims
  have hcnf : (claims.member "cnf").bind (·.textMember "jkt") = (plan.payload state jti).cnfJkt := by
    rw [Json.Same.bind_eq (fun hmember => hmember.textMember_eq "jkt") (hsame.member "cnf")]
    exact jkt_toValue _
  obtain ⟨output, hok, hreport⟩ := @reported_of_verified (clientCrates json) _ _ _ args outside sent
    text response.accessToken source body _ state.publishedJwks _ h.built hposted hbody haccess
    hdecoded hloads hreverified (by
      intro jkt hjkt
      show (claims.member "cnf").bind (·.textMember "jkt") = some jkt
      obtain ⟨x, y, jwk, _, signature, hjwk, hproof, hthumbprint⟩ :=
        @jkt_of_built (clientCrates json) _ _ _ _ _ h.built hjkt
      rw [hcnf, hthumbprint]
      exact hholder x y jwk _ signature hjwk hproof)
  refine ⟨output, plan, jti, hissued, hbound, hok, fun hformat hprint => ?_⟩
  obtain ⟨hlines, ⟨hdigest, hsigned, hmatches, hclaimLines⟩, halg, hkid, htokenType, hexpiresIn⟩ :=
    hreport hformat hprint
  refine ⟨hlines, ?_, ?_, halg, hkid, htokenType _ htype, hexpiresIn _ hexpires⟩
  · refine ⟨hdigest, hsigned, hmatches, fun name hname => ?_⟩
    rw [hclaimLines name hname]
    rw [Option.bind_some, Option.bind_some, safeClaimsSummary_client, hsame.safeClaimsSummary_eq]
  · rw [hsigned, gives_some hgives]
    rfl

end Server

/-! ### A sample exchange -/

namespace Sample

scoped instance holderCrates : HolderCrates := HolderSample.holderCrates

scoped instance printCrates : PrintCrates := ClientSample.printCrates

/-- The response to `delegationRequest` as it is written. -/
def responseText : String :=
  "\x7b\"access_token\":\"" ++ (mintedDelegation.token ++
    ("\",\"issued_token_type\":\"urn:ietf:params:oauth:token-type:access_token\"," ++
    "\"token_type\":\"Bearer\",\"expires_in\":55,\"scope\":\"read\"," ++
    "\"signing_alg_selected\":\"RS256\",\"pqc_fallback\":false\x7d"))

def mintedHeaderValue : Json :=
  .object [("alg", .string "RS256"), ("kid", .string "sts-1"), ("typ", .string "at+jwt")]

/-- What the client reads. -/
def readJson (bytes : Bytes) : Except String Json :=
  if bytes = asBytes responseText then .ok earlyResponse.toValue
  else if bytes = asBytes (jwksText "sts-1") then .ok (JwksDocument.toValue ⟨[jwk "sts-1"]⟩)
  else if bytes = mintedHeader then .ok mintedHeaderValue
  else (fromSlice mintedTokens bytes).map MintedClaims.toValue

/-- The first octets of these documents. -/
theorem take_documents : (asBytes responseText).take 3 = [123, 34, 97] ∧
    (asBytes (jwksText "sts-1")).take 3 = [123, 34, 107] ∧
    mintedHeader.take 3 = [123, 34, 116] ∧
    ∀ entry ∈ mintedTokens, entry.1.header = mintedHeader ∧
      entry.1.payload.take 3 = [123, 34, 105] := by
  have hresponse : (asBytes "\x7b\"access_token\":\"").take 3 = [123, 34, 97] := by decide
  exact ⟨take_append hresponse rfl, (take_texts "sts-1").1, by decide, by decide⟩

theorem readsTokens : ReadsTokens readJson where
  header h := by cases h
  claims h := by cases h
  rs256 h := by
    obtain ⟨s, hs, rfl, rfl⟩ := rs256Encode_parts h
    obtain ⟨hresponse, hkeys, hheader, hminted⟩ := take_documents
    obtain ⟨heq, hpayload⟩ := hminted _ hs
    refine ⟨⟨mintedHeaderValue, ?_⟩, _, ?_, .refl _⟩
    · rw [readJson, heq, if_neg (ne_of_take (by rw [hresponse, hheader]; decide)),
        if_neg (ne_of_take (by rw [hkeys, hheader]; decide)), if_pos rfl]
    · rw [readJson, if_neg (ne_of_take (by rw [hresponse, hpayload]; decide)),
        if_neg (ne_of_take (by rw [hkeys, hpayload]; decide)),
        if_neg (ne_of_take (by rw [hheader, hpayload]; decide)), fromSlice_payload (by decide) hs]
      rfl

/-- No header of a holder's proof is among the documents of the sample. -/
theorem readsProofKeys : ReadsProofKeys where
  header {x y jwk members} _ hvalue := by
    have hheader : HolderCrates.valueToVec (.object (proofHeaderMembers jwk)) =
        HolderSample.proof.header := rfl
    have hrefused : valueFromSlice HolderSample.proof.header = .error refused := by
      have htake : HolderSample.proof.header.take 3 = [123, 34, 116] := by decide
      obtain ⟨-, -, -, htarget, himpersonation⟩ := take_texts ""
      have hfind : ["idp-1", "agent-1", "app-1"].find? (fun kid =>
          asBytes (jwksText kid) == HolderSample.proof.header) = none := by
        rw [List.find?_eq_none]
        intro kid _ heq
        exact ne_of_take (by rw [(take_texts kid).1, htake]; decide) (beq_iff_eq.mp heq)
      rw [valueFromSlice_of_take htake (by decide), readDocument, if_neg (by decide),
        if_neg (ne_of_take (by rw [htake, htarget]; decide)),
        if_neg (ne_of_take (by rw [htake, himpersonation]; decide)), hfind]
    rw [hheader] at hvalue
    cases hrefused.symm.trans hvalue

/-- The client of the sample exchange. -/
def clientArgs : ExchangeArgs :=
  { tokenEndpoint := some "https://sts.example/token", subjectTokenFile := "subject.jwt",
    actorTokenFile := some "actor.jwt", audience := [api], jwksFile := some "published.json" }

def clientOutside : Outside where
  readToString path := .ok (if path = "published.json" then jwksText "sts-1" else "header.payload.sig")
  sinceEpoch := .ok 50
  dpopJti := "p2"
  entropy := []
  post _ := .ok ⟨200, .ok responseText⟩
  get _ := .error "refused"

theorem published_keys : (state .both 1 (by decide)).publishedJwks = ⟨[jwk "sts-1"]⟩ := by
  have hkey : signer.publicJwk = jwk "sts-1" := by
    simp only [signer, JoseSigner.publicJwk, RsaJoseSigner.publicJwk, jwk, Crates.rsaPublicComponents]
  show publishedJwks signer none = _
  simp [publishedJwks, JoseSigner.publicJwks, hkey]

/-- The client of the sample is answered with the sample delegation. -/
theorem answers_delegation : ∃ sent, Answers readJson clientArgs clientOutside
    (state .both 1 (by decide)) (delegationRequest formHeaders actor1) earlyResponse sent := by
  have hok : (@buildExchangeHttpRequest (clientCrates readJson) _ clientArgs
      clientOutside).toOption.isSome = true := by
    decide +kernel
  obtain ⟨sent, hsent⟩ := Option.isSome_iff_exists.mp hok
  have hbuilt := toOption_eq_some.mp hsent
  have hproof : sent.dpopProof = none := by
    obtain ⟨-, -, hproof⟩ := @buildExchangeHttpRequest_eq_ok (clientCrates readJson) _ _ _ _ hbuilt
    rcases hproof with ⟨-, -, hgiven⟩ | ⟨path, key, hpath, -⟩
    · exact (Except.ok.inj hgiven).symm
    · cases hpath
  obtain ⟨hresponse, hkeys, -⟩ := take_documents
  refine ⟨sent, hbuilt, ?_, ⟨responseText, rfl, _, if_pos rfl, .refl _⟩,
    jwksText "sts-1", .inl ⟨"published.json", rfl, rfl⟩, _, ?_, .refl _⟩
  · rw [hproof]
    rfl
  · rw [published_keys, readJson, if_neg (ne_of_take (by rw [hresponse, hkeys]; decide)), if_pos rfl]

/-- It reports the token as verified, under the key of the server. -/
theorem delegation_reported : ∃ output,
    @runExchange (clientCrates readJson) _ _ _ clientArgs clientOutside = .ok output ∧
      (readLines output).lookup "jwt_signature_verified" = some "true" ∧
      (readLines output).lookup "jwt_header_kid" = some "sts-1" := by
  obtain ⟨moves, w, hrun, hissues⟩ := early_issued
  obtain ⟨sent, hanswers⟩ := answers_delegation
  have hkids : ∀ key ∈ (state .both 1 (by decide)).publishedJwks.keys, key.kid ≠ "" := by
    rw [published_keys]
    intro key hkey
    rw [List.mem_singleton.mp hkey]
    exact (by decide : "sts-1" ≠ "")
  obtain ⟨output, plan, jti, -, -, hok, hreport⟩ :=
    issued_token_reported lawfulSigning lawfulRsaKeyPair decodesRs256 readsTokens readsProofKeys
      (buildStateFromConfig_sample {} none (web idp) []) trivial hkids hrun hissues hanswers
  obtain ⟨-, hfields⟩ := hreport rfl rfl
  have hkid : sanitize "sts-1" = "sts-1" := by decide
  exact ⟨output, hok, hfields.verified, hfields.kid.trans (congrArg some hkid)⟩

end Sample

end StsDelegate
