import StsDelegate.Cli.ExchangeOutput
import StsDelegate.Sample.Keys

/-!
# What the client's report is worth

The server that answers may be anyone. Whatever it answers, a run of the client that ends
well has done what its report says: the signature is said to be verified only where it was,
under the keys that were given, and then the claims that are shown are those of the verified
token; the token is said to be bound to the holder key only where its claims name the key
that has signed the proof.
-/

namespace StsDelegate

open Text Fallible

section Runs

variable [Crates] [PrintCrates] [KeyCrates] [HolderCrates]

/-- What has happened in a run that ends well. -/
structure Exchanged (args : ExchangeArgs) (outside : Outside) (request : ExchangeHttpRequest)
    (response : HttpResponse) (body : Json) (token : String) (decoded : Option (Json × Json))
    (jwks : Option (JwksDocument × String)) (examined : Examined) (holder : List (String × Json)) :
    Prop where
  built : buildExchangeHttpRequest args outside = .ok request
  posted : outside.post request = .ok response
  read : ∃ text, response.text = .ok text ∧ valueFromStr text = .ok body
  success : response.isSuccess = true
  carries : body.textMember "access_token" = some token
  decodes : decodeCompactJwt token = .ok decoded
  loads : loadExchangeJwks args outside = .ok jwks
  examines : examineToken token decoded jwks = .ok examined
  binds : checkHolder examined request.dpopJkt = .ok holder

theorem runExchange_eq_ok {args : ExchangeArgs} {outside : Outside} {output : String} :
    runExchange args outside = .ok output ↔
      ∃ request response body token decoded jwks examined holder,
        Exchanged args outside request response body token decoded jwks examined holder ∧
        output = renderSummary args
          (exchangeSummary response.status body token decoded examined holder) token := by
  simp only [runExchange, renderExchangeSuccess, bind_eq_ok, mapError_eq_ok, rejectIf_eq_ok,
    okOr_eq_ok, pure_eq_ok, Bool.not_eq_false']
  constructor
  · intro h
    obtain ⟨request, hbuilt, response, hposted, text, htext, body, hbody, -, hsuccess, token, htoken,
      decoded, hdecoded, jwks, hjwks, examined, hexamined, holder, hholder, houtput⟩ := h
    exact ⟨request, response, body, token, decoded, jwks, examined, holder,
      ⟨hbuilt, hposted, ⟨text, htext, hbody⟩, hsuccess, htoken, hdecoded, hjwks, hexamined, hholder⟩,
      houtput.symm⟩
  · intro h
    obtain ⟨request, response, body, token, decoded, jwks, examined, holder, hdone, houtput⟩ := h
    obtain ⟨text, htext, hbody⟩ := hdone.read
    exact ⟨request, hdone.built, response, hdone.posted, text, htext, body, hbody, (), hdone.success,
      token, hdone.carries, decoded, hdone.decodes, jwks, hdone.loads, examined, hdone.examines, holder,
      hdone.binds, houtput.symm⟩

/-! ### Keys -/

omit [PrintCrates] [HolderCrates] in
/-- Keys are loaded if they are given, and come from somewhere. -/
theorem loadJwks_source {outside : Outside} {jwksFile jwksUrl : Option String}
    {jwks : Option (JwksDocument × String)} (h : loadJwks outside jwksFile jwksUrl = .ok jwks) :
    jwks.isSome = (jwksFile.isSome || jwksUrl.isSome) ∧
      ∀ loaded ∈ jwks, loaded.2 = "file" ∨ loaded.2 = "url" := by
  unfold loadJwks at h
  split at h
  · simp only [bind_eq_ok, pure_eq_ok] at h
    obtain ⟨raw, -, document, -, rfl⟩ := h
    refine ⟨rfl, fun loaded hloaded => ?_⟩
    cases hloaded
    exact .inl rfl
  · simp only [bind_eq_ok, pure_eq_ok] at h
    obtain ⟨-, -, response, -, raw, -, -, -, document, -, rfl⟩ := h
    refine ⟨rfl, fun loaded hloaded => ?_⟩
    cases hloaded
    exact .inr rfl
  · cases h
    exact ⟨rfl, by simp⟩

omit [PrintCrates] [KeyCrates] [HolderCrates] in
/-- The claims are those of the verified token, or what an unverified one says. -/
theorem examineToken_eq_ok {token : String} {decoded : Option (Json × Json)}
    {jwks : Option (JwksDocument × String)} {examined : Examined} :
    examineToken token decoded jwks = .ok examined ↔
      (jwks = none ∧ examined = ⟨decoded.map Prod.snd, none, none, "none"⟩) ∨
      ∃ document source verified, jwks = some (document, source) ∧
        verifyClaimsAgainstJwksWithHeader Crates.valueFromSlice token document = .ok verified ∧
        examined = ⟨some verified.claims, some verified.alg, some verified.kid, source⟩ := by
  cases jwks with
  | none =>
      simp only [examineToken, Except.ok.injEq, true_and, reduceCtorEq, false_and, exists_false,
        or_false]
      exact eq_comm
  | some loaded =>
      obtain ⟨document, source⟩ := loaded
      simp only [examineToken, bind_eq_ok, mapError_eq_ok, pure_eq_ok, reduceCtorEq, false_and,
        false_or, Option.some.injEq, Prod.mk.injEq]
      constructor
      · intro h
        obtain ⟨verified, hverified, heq⟩ := h
        exact ⟨document, source, verified, ⟨rfl, rfl⟩, hverified, heq.symm⟩
      · intro h
        obtain ⟨document', source', verified, ⟨hdocument, hsource⟩, hverified, heq⟩ := h
        subst hdocument hsource
        exact ⟨verified, hverified, heq.symm⟩

/-! ### The holder -/

/-- The proof that was sent is one that the holder key has signed, for a request to this
endpoint. -/
structure SignedByHolder (outside : Outside) (path : String) (request : ExchangeHttpRequest)
    (key : DpopHolderKey) : Prop where
  loaded : ∃ raw, readSecretFile outside path "DPoP holder key" = .ok raw ∧
    DpopHolderKey.fromPrivateJwk raw = .ok key
  jkt : request.dpopJkt = some key.publicJkt
  proof : ∃ proof htu iat, request.dpopProof = some proof ∧
    dpopHtuForRequestUri request.tokenEndpoint = .ok htu ∧
    key.signProof ⟨"POST", htu, iat, outside.dpopJti⟩ outside.entropy = .ok proof

omit [PrintCrates] [KeyCrates] in
/-- What a request is built from. -/
theorem buildExchangeHttpRequest_eq_ok {args : ExchangeArgs} {outside : Outside}
    {request : ExchangeHttpRequest} (h : buildExchangeHttpRequest args outside = .ok request) :
    resolveTokenEndpoint args = .ok request.tokenEndpoint ∧
    (∃ subjectToken actorToken clientAssertion form,
      readSecretFile outside args.subjectTokenFile "subject token" = .ok subjectToken ∧
      readOptionalSecretFile outside args.actorTokenFile "actor token" = .ok actorToken ∧
      readOptionalSecretFile outside args.clientAssertionFile "client assertion" =
        .ok clientAssertion ∧
      (formPairs args subjectToken actorToken clientAssertion).foldlM
        (fun form pair => pushFormParam form pair.1 pair.2) [] = .ok form ∧
      request.body = FormUrlencoded.serialize form) ∧
    ((args.dpopKeyFile = none ∧ request.dpopJkt = none ∧
        readOptionalSecretFile outside args.dpopProofFile "DPoP proof" = .ok request.dpopProof) ∨
      ∃ path key, args.dpopKeyFile = some path ∧ SignedByHolder outside path request key) := by
  simp only [buildExchangeHttpRequest, bind_eq_ok, pure_eq_ok] at h
  obtain ⟨tokenEndpoint, hendpoint, subjectToken, hsubject, actorToken, hactor, clientAssertion,
    hclient, given, hgiven, sent, hsent, form, hform, rfl⟩ := h
  refine ⟨hendpoint, ⟨subjectToken, actorToken, clientAssertion, form, hsubject, hactor, hclient,
    hform, rfl⟩, ?_⟩
  cases hpath : args.dpopKeyFile with
  | none =>
      simp only [proofToSend, hpath] at hsent
      cases hsent
      exact .inl ⟨rfl, rfl, hgiven⟩
  | some path =>
      simp only [proofToSend, hpath, bind_eq_ok, pure_eq_ok, generateDpopProof, mapError_eq_ok] at hsent
      obtain ⟨generated, ⟨raw, hraw, key, hkey, htu, hhtu, iat, -, proof, hproof, rfl⟩, rfl⟩ := hsent
      exact .inr ⟨path, key, rfl, ⟨raw, hraw, hkey⟩, rfl, proof, htu, iat, rfl, hhtu, hproof⟩

omit [PrintCrates] [KeyCrates] [HolderCrates] in
/-- The holder is told only if the claims name it. -/
theorem checkHolder_eq_ok {examined : Examined} {expected : Option String}
    {holder : List (String × Json)} (h : checkHolder examined expected = .ok holder) :
    (∀ member ∈ holder, NotFloat member.2) ∧ Json.get holder "claims" = none ∧
    Json.get holder "dpop_cnf_jkt_matches_holder" = expected.map (fun _ => .bool true) ∧
    ∀ jkt, expected = some jkt → ∃ claims, examined.claims = some claims ∧
      (claims.member "cnf").bind (·.textMember "jkt") = some jkt := by
  cases expected with
  | none =>
      cases h
      exact ⟨by simp, rfl, rfl, by simp⟩
  | some jkt =>
      simp only [checkHolder, bind_eq_ok, okOr_eq_ok, rejectIf_eq_ok, bne_eq_false_iff_eq,
        pure_eq_ok] at h
      obtain ⟨claims, hclaims, actual, hactual, -, rfl, rfl⟩ := h
      refine ⟨by simp [NotFloat], rfl, rfl, fun jkt hjkt => ?_⟩
      cases hjkt
      exact ⟨claims, hclaims, hactual⟩

/-! ### The report -/

/-- What the fields of a report say. -/
structure Reports (args : ExchangeArgs) (token : String) (claims : Option Json)
    (fields : List (String × String)) : Prop where
  digest : fields.lookup "access_token_sha256_prefix" = some (sha256HexPrefix token)
  verified : fields.lookup "jwt_signature_verified" =
    some (toString (args.jwksFile.isSome || args.jwksUrl.isSome))
  holder : fields.lookup "dpop_cnf_jkt_matches_holder" =
    args.dpopKeyFile.map fun _ => "true"
  claims : ∀ name ∈ claimNames, fields.lookup ("claims." ++ name) =
    (claims.bind fun claims => Json.get (safeClaimsSummary claims) name).map displayJsonScalar

omit [PrintCrates] [KeyCrates] [HolderCrates] in
theorem sanitize_sha256HexPrefix (value : String) :
    sanitize (sha256HexPrefix value) = sha256HexPrefix value := by
  have hdigit : ∀ n : Fin 16, isAsciiGraphic (hexDigit n) = true := by decide
  have hgraphic : ∀ c ∈ (sha256HexPrefix value).toList, isAsciiGraphic c = true := by
    intro c hc
    rw [sha256HexPrefix, sha256BytesHexPrefix, hexLower, String.toList_ofList, List.mem_flatMap] at hc
    obtain ⟨b, -, hc⟩ := hc
    have hb := b.toNat_lt
    rcases List.mem_cons.mp hc with rfl | hc
    · exact hdigit ⟨b.toNat / 16, by omega⟩
    · rw [List.mem_singleton.mp hc]
      exact hdigit ⟨b.toNat % 16, by omega⟩
  have hlen : ∀ bytes : Bytes, (hexLower bytes).toList.length = 2 * bytes.length := by
    intro bytes
    rw [hexLower, String.toList_ofList]
    induction bytes with
    | nil => rfl
    | cons b bytes ih =>
        rw [List.flatMap_cons, List.length_append, ih, List.length_cons]
        simp
        omega
  have hshort : (sha256HexPrefix value).toList.length ≤ maxFieldLen := by
    have htake := List.length_take_le 8 (Crates.sha256 (asBytes value))
    rw [sha256HexPrefix, sha256BytesHexPrefix, hlen]
    exact (Nat.mul_le_mul_left 2 htake).trans (by decide)
  rw [sanitize, if_neg (Nat.not_lt.mpr hshort), List.take_of_length_le hshort, ← printed,
    printed_of_graphic hgraphic, String.ofList_toList]

omit [KeyCrates] [HolderCrates] in
/-- A report without the token is its fields, and is read as them. -/
theorem renderSummary_redacted {args : ExchangeArgs} {httpStatus : Nat} {body : Json} {token : String}
    {decoded : Option (Json × Json)} {examined : Examined} {holder : List (String × Json)}
    {expected : Option String} (hholder : checkHolder examined expected = .ok holder)
    (hformat : args.output = .redacted) (hprint : args.printToken = false) :
    renderSummary args (exchangeSummary httpStatus body token decoded examined holder) token =
        renderLines (mapFields exchangeNames
          (exchangeSummary httpStatus body token decoded examined holder)) ∧
      readLines (renderLines (mapFields exchangeNames
          (exchangeSummary httpStatus body token decoded examined holder))) =
        mapFields exchangeNames (exchangeSummary httpStatus body token decoded examined holder) := by
  obtain ⟨hknown, hclaims, -⟩ := checkHolder_eq_ok hholder
  have hmembers : SummaryMembers (exchangeSummary httpStatus body token decoded examined holder)
      token examined holder := summaryMembers hclaims
  have hknownClaims : ∀ member ∈ claimMembers
      (exchangeSummary httpStatus body token decoded examined holder), NotFloat member.2 := by
    rw [hmembers.claims]
    cases examined.claims with
    | none => simp
    | some claims => exact notFloat_safeClaimsSummary claims
  refine ⟨?_, readLines_renderLines (onOneLine_mapFields fieldNames_exchange
    (notFloat_exchangeSummary hknown) hknownClaims)⟩
  simp only [renderSummary, hformat, hprint, renderExchangeMapLines, Bool.false_eq_true, if_false,
    String.append_empty]

/-- What is behind a report of a verified token. -/
structure VerifiedUnder (args : ExchangeArgs) (outside : Outside) (token : String)
    (claims : Option Json) (fields : List (String × String)) (jwks : JwksDocument)
    (verified : VerifiedJws Json) : Prop where
  loads : ∃ source, loadExchangeJwks args outside = .ok (some (jwks, source))
  verifies : verifyClaimsAgainstJwksWithHeader Crates.valueFromSlice token jwks = .ok verified
  claims : claims = some verified.claims
  alg : fields.lookup "jwt_header_alg" = some (sanitize verified.alg)
  kid : fields.lookup "jwt_header_kid" = some (sanitize verified.kid)

omit [KeyCrates] [HolderCrates] in
/-- The fields of a summary. -/
theorem reports_exchangeSummary {args : ExchangeArgs} {httpStatus : Nat} {body : Json}
    {token : String} {decoded : Option (Json × Json)} {examined : Examined}
    {holder : List (String × Json)} {expected : Option String}
    (hholder : checkHolder examined expected = .ok holder)
    (hexpected : expected.isSome = args.dpopKeyFile.isSome)
    (hsource : (examined.source != "none") = (args.jwksFile.isSome || args.jwksUrl.isSome)) :
    Reports args token examined.claims
      (mapFields exchangeNames (exchangeSummary httpStatus body token decoded examined holder)) := by
  obtain ⟨-, hclaims, hmatches, -⟩ := checkHolder_eq_ok hholder
  have hmembers : SummaryMembers (exchangeSummary httpStatus body token decoded examined holder)
      token examined holder := summaryMembers hclaims
  have hfield := fun {name : String} (hname : name ∈ exchangeNames) =>
    @lookup_mapFields _ (exchangeSummary httpStatus body token decoded examined holder) _
      fieldNames_exchange _ hname
  constructor
  · rw [hfield (by decide), hmembers.digest]
    exact congrArg some (sanitize_sha256HexPrefix token)
  · rw [hfield (by decide), hmembers.verified, hsource]
    rfl
  · rw [hfield (by decide), hmembers.holder, hmatches]
    cases hkey : args.dpopKeyFile <;> cases hjkt : expected <;>
      simp [hkey, hjkt] at hexpected <;> rfl
  · intro name hname
    rw [lookup_mapFields_claim fieldNames_exchange hname, hmembers.claims]
    cases examined.claims <;> rfl

/-- The fields of a run that ends well. -/
theorem Exchanged.reports {args : ExchangeArgs} {outside : Outside} {request : ExchangeHttpRequest}
    {response : HttpResponse} {body : Json} {token : String} {decoded : Option (Json × Json)}
    {jwks : Option (JwksDocument × String)} {examined : Examined} {holder : List (String × Json)}
    (h : Exchanged args outside request response body token decoded jwks examined holder) :
    Reports args token examined.claims (mapFields exchangeNames
      (exchangeSummary response.status body token decoded examined holder)) := by
  obtain ⟨-, -, hproof⟩ := buildExchangeHttpRequest_eq_ok h.built
  obtain ⟨hgiven, hsource⟩ := loadJwks_source h.loads
  have hexpected : request.dpopJkt.isSome = args.dpopKeyFile.isSome := by
    rcases hproof with ⟨hnone, hjkt, -⟩ | ⟨path, key, hpath, hsigned⟩
    · rw [hnone, hjkt]
    · rw [hpath, hsigned.jkt]
      rfl
  have hverified : (examined.source != "none") = (args.jwksFile.isSome || args.jwksUrl.isSome) := by
    rw [← hgiven]
    rcases examineToken_eq_ok.mp h.examines with ⟨rfl, rfl⟩ | ⟨document, source, v, rfl, -, rfl⟩
    · rfl
    · rcases hsource _ rfl with hfile | hurl
      · rw [show source = "file" from hfile]
        rfl
      · rw [show source = "url" from hurl]
        rfl
  exact reports_exchangeSummary h.binds hexpected hverified

/-- **What a report is worth.** Whatever the server has answered, the lines of a report are
its fields, each of them told once. They name the token by its digest, and say that its
signature is verified exactly if keys were given. Then it is, and the claims that are told
are those of the verified token. They say that the token is bound to the holder exactly if
the client has a holder key, and then the claims name the key that has signed the proof. -/
theorem exchange_reports_what_it_checked {args : ExchangeArgs} {outside : Outside} {output : String}
    (h : runExchange args outside = .ok output) (hformat : args.output = .redacted)
    (hprint : args.printToken = false) :
    output = renderLines (readLines output) ∧ ((readLines output).map Prod.fst).Nodup ∧
    ∃ request response body token claims,
      buildExchangeHttpRequest args outside = .ok request ∧ outside.post request = .ok response ∧
      response.isSuccess = true ∧ (∃ text, response.text = .ok text ∧ valueFromStr text = .ok body) ∧
      body.textMember "access_token" = some token ∧
      Reports args token claims (readLines output) ∧
      ((args.jwksFile.isSome || args.jwksUrl.isSome) = true → ∃ jwks verified,
        VerifiedUnder args outside token claims (readLines output) jwks verified) ∧
      ∀ path, args.dpopKeyFile = some path → ∃ key, SignedByHolder outside path request key ∧
        ∃ bound, claims = some bound ∧
          (bound.member "cnf").bind (·.textMember "jkt") = some key.publicJkt := by
  obtain ⟨request, response, body, token, decoded, jwks, examined, holder, hdone, rfl⟩ :=
    runExchange_eq_ok.mp h
  obtain ⟨-, hclaims, -, hbound⟩ := checkHolder_eq_ok hdone.binds
  obtain ⟨-, -, hproof⟩ := buildExchangeHttpRequest_eq_ok hdone.built
  obtain ⟨hgiven, -⟩ := loadJwks_source hdone.loads
  have hmembers : SummaryMembers
      (exchangeSummary response.status body token decoded examined holder) token examined holder :=
    summaryMembers hclaims
  obtain ⟨hrendered, hread⟩ := @renderSummary_redacted _ _ args response.status body token decoded
    examined holder request.dpopJkt hdone.binds hformat hprint
  rw [hrendered, hread]
  refine ⟨rfl, nodup_mapFields fieldNames_exchange, request, response, body, token,
    examined.claims, hdone.built, hdone.posted, hdone.success, hdone.read, hdone.carries,
    hdone.reports,
    fun hkeys => ?_, fun path hpath => ?_⟩
  · rcases examineToken_eq_ok.mp hdone.examines with ⟨rfl, -⟩ | ⟨document, source, v, rfl, hv, heq⟩
    · rw [← hgiven] at hkeys
      cases hkeys
    · have halg := hmembers.alg v.alg (by rw [heq])
      have hkid := hmembers.kid v.kid (by rw [heq])
      refine ⟨document, v, ⟨source, hdone.loads⟩, hv, by rw [heq], ?_, ?_⟩
      · rw [lookup_mapFields fieldNames_exchange (by decide), halg]
        exact congrArg some (sanitize_sanitize v.alg)
      · rw [lookup_mapFields fieldNames_exchange (by decide), hkid]
        exact congrArg some (sanitize_sanitize v.kid)
  · rcases hproof with ⟨hnone, -, -⟩ | ⟨path', key, hpath', hsigned⟩
    · rw [hnone] at hpath
      cases hpath
    · rw [hpath] at hpath'
      cases hpath'
      obtain ⟨bound, hbound, hjkt⟩ := hbound key.publicJkt hsigned.jkt
      exact ⟨key, hsigned, bound, hbound, hjkt⟩

omit [HolderCrates] in
/-- What a report of a verification is worth. -/
theorem verify_reports_what_it_checked {args : TokenVerifyArgs} {outside : Outside} {output : String}
    (h : verifyToken args outside = .ok output) (hformat : args.output = .redacted) :
    output = renderLines (readLines output) ∧ ((readLines output).map Prod.fst).Nodup ∧
    ∃ token jwks source verified, readSecretFile outside args.tokenFile "token" = .ok token ∧
      loadJwks outside args.jwksFile args.jwksUrl = .ok (some (jwks, source)) ∧
      verifyClaimsAgainstJwksWithHeader Crates.valueFromSlice token jwks = .ok verified ∧
      (readLines output).lookup "access_token_sha256_prefix" = some (sha256HexPrefix token) ∧
      ∀ name ∈ claimNames, (readLines output).lookup ("claims." ++ name) =
        (Json.get (safeClaimsSummary verified.claims) name).map displayJsonScalar := by
  simp only [verifyToken, loadJwksForVerification, bind_eq_ok, mapError_eq_ok, okOr_eq_ok,
    pure_eq_ok, hformat, renderTokenVerifyMapLines] at h
  obtain ⟨token, htoken, ⟨jwks, source⟩, ⟨loaded, hloaded, hsome⟩, verified, hverified, rfl⟩ := h
  rw [hsome] at hloaded
  have hclaims : claimMembers (verifySummary token source verified) =
      safeClaimsSummary verified.claims := by
    simp [claimMembers, verifySummary, Json.get_cons]
  have hknown : ∀ member ∈ verifySummary token source verified, NotFloat member.2 := by
    simp [verifySummary, NotFloat]
  have honeLine := onOneLine_mapFields fieldNames_tokenVerify hknown (by
    rw [hclaims]
    exact notFloat_safeClaimsSummary verified.claims)
  rw [readLines_renderLines honeLine]
  refine ⟨rfl, nodup_mapFields fieldNames_tokenVerify, token, jwks, source, verified, htoken,
    hloaded, hverified, ?_, fun name hname => ?_⟩
  · rw [lookup_mapFields fieldNames_tokenVerify (by decide)]
    simp only [verifySummary, Json.get_cons]
    exact congrArg some (sanitize_sha256HexPrefix token)
  · rw [lookup_mapFields_claim fieldNames_tokenVerify hname, hclaims]

end Runs

/-! ### A sample run -/

namespace ClientSample

open HolderSample (pointX pointY scalar)

/-- A text that is a holder key, an answer and a payload at once. -/
def everything : Json :=
  .object [("kty", .string "EC"), ("crv", .string "P-256"),
    ("x", .string (Base64.encode pointX)), ("y", .string (Base64.encode pointY)),
    ("d", .string (Base64.encode scalar)), ("access_token", .string ".."),
    ("cnf", .object [("jkt", .string "PygUY2qHiyoFJKy3APN9s2dPx5qVhQa_JB2Eo-cRPfk")])]

scoped instance crates : Crates :=
  { HolderSample.crates with valueFromSlice := fun _ => .ok everything }

scoped instance holderCrates : HolderCrates := HolderSample.holderCrates

scoped instance keyCrates : KeyCrates := KeySample.keyCrates

scoped instance printCrates : PrintCrates where
  valueToString _ := none
  valueToStringPretty _ := none
  floatText _ := ""

def args : ExchangeArgs :=
  { tokenEndpoint := some "https://sts.example/token", subjectTokenFile := "subject.jwt",
    dpopKeyFile := some "holder.json" }

def outside : Outside where
  readToString _ := .ok "text"
  sinceEpoch := .ok 100
  dpopJti := "p2"
  entropy := []
  post _ := .ok ⟨200, .ok "text"⟩
  get _ := .error "refused"

/-- A run with a holder key. -/
theorem run_ok : ∃ output, runExchange args outside = .ok output := by
  have hok : (runExchange args outside).toOption.isSome = true := by decide +kernel
  obtain ⟨output, houtput⟩ := Option.isSome_iff_exists.mp hok
  exact ⟨output, toOption_eq_some.mp houtput⟩

theorem holder_reported : ∃ output, runExchange args outside = .ok output ∧
    output = renderLines (readLines output) ∧
    (readLines output).lookup "dpop_cnf_jkt_matches_holder" = some "true" ∧
    ∃ request key, SignedByHolder outside "holder.json" request key := by
  obtain ⟨output, houtput⟩ := run_ok
  obtain ⟨hlines, -, request, response, body, token, claims, -, -, -, -, -, hreports, -, hholder⟩ :=
    exchange_reports_what_it_checked houtput rfl rfl
  obtain ⟨key, hsigned, -⟩ := hholder "holder.json" rfl
  exact ⟨output, houtput, hlines, hreports.holder, request, key, hsigned⟩

end ClientSample

end StsDelegate
