import StsDelegate.Cli.ExchangeTrust
import StsDelegate.Http.FormOrder

/-!
# What the server reads of the client's form

The client encodes its parameters, the server decodes the body and sorts the pairs by their
names. `client_form_received` says that what comes out is what the client was told to send,
unless it was told to send several targets, which the command line allows and the server
refuses.
-/

namespace StsDelegate

open Text Fallible

/-! ### The form that is pushed -/

theorem pushFormParam_eq_ok {form form' : List (String × String)} {name value : String} :
    pushFormParam form name value = .ok form' ↔
      isBlank value = false ∧ form' = form ++ [(name, value)] := by
  simp only [pushFormParam, bind_eq_ok, rejectIf_eq_ok, pure_eq_ok, exists_const]
  exact and_congr_right fun _ => eq_comm

/-- No blank parameter is sent, and all others are. -/
theorem pushFormParams_eq_ok {pairs form form' : List (String × String)} :
    pairs.foldlM (fun form pair => pushFormParam form pair.1 pair.2) form = .ok form' ↔
      (∀ pair ∈ pairs, isBlank pair.2 = false) ∧ form' = form ++ pairs := by
  induction pairs generalizing form with
  | nil =>
      simp only [List.foldlM_nil, pure_eq_ok, List.append_nil, List.not_mem_nil, false_implies,
        implies_true, true_and]
      exact eq_comm
  | cons pair rest ih =>
      simp only [List.foldlM_cons, bind_eq_ok, pushFormParam_eq_ok, ih, List.forall_mem_cons]
      constructor
      · rintro ⟨_, ⟨hpair, rfl⟩, hrest, rfl⟩
        exact ⟨⟨hpair, hrest⟩, by simp⟩
      · rintro ⟨⟨hpair, hrest⟩, rfl⟩
        exact ⟨_, ⟨hpair, rfl⟩, hrest, by simp⟩

/-- The form that the client means, with at most one target of each kind. -/
def sentForm (args : ExchangeArgs) (subjectToken : String)
    (actorToken clientAssertion : Option String) : TokenForm where
  grantType := some TOKEN_EXCHANGE_GRANT_TYPE
  subjectToken := some subjectToken
  subjectTokenType := some args.subjectTokenType
  actorToken
  actorTokenType := actorToken.map fun _ => args.actorTokenType
  audience := args.audience.head?
  resource := args.resource.head?
  scope := args.scope
  requestedTokenType := args.requestedTokenType
  clientId := args.clientId
  clientAssertion
  clientAssertionType := clientAssertion.map fun _ => args.clientAssertionType

section Pairs

variable {args : ExchangeArgs} {subjectToken : String} {actorToken clientAssertion : Option String}

/-- The pairs hold each parameter of the form, and the targets that are left over. -/
theorem mem_formPairs {param : TokenParam} {value : String} :
    (param.name, value) ∈ formPairs args subjectToken actorToken clientAssertion ↔
      match param with
      | .audience => value ∈ args.audience
      | .resource => value ∈ args.resource
      | _ => (sentForm args subjectToken actorToken clientAssertion).get param = some value := by
  cases param <;> cases actorToken <;> cases clientAssertion <;>
    simp [formPairs, TokenParam.name, sentForm, TokenForm.get, Cli.TOKEN_EXCHANGE_GRANT_TYPE,
      TOKEN_EXCHANGE_GRANT_TYPE, eq_comm]

theorem count_repeated (name name' : String) (values : List String) :
    ((values.map (name, ·)).map Prod.fst).count name' = if name = name' then values.length else 0 := by
  rw [List.map_map]
  show (values.map fun _ => name).count name' = _
  rw [List.map_const', List.count_replicate]
  simp

theorem count_optional (name name' : String) (value : Option String) :
    ((value.map (name, ·)).toList.map Prod.fst).count name' =
      if name = name' then value.toList.length else 0 := by
  cases value <;> simp [List.count_cons]

/-- Every name is pushed once at most, but for those of the targets. -/
theorem count_formPairs {param : TokenParam} (haudience : param ≠ .audience)
    (hresource : param ≠ .resource) :
    ((formPairs args subjectToken actorToken clientAssertion).map Prod.fst).count param.name ≤ 1 := by
  have hone : ∀ value : Option String, value.toList.length ≤ 1 := fun _ => Option.length_toList_le
  simp only [formPairs, List.map_append, List.count_append, count_repeated, count_optional]
  cases actorToken <;> cases clientAssertion <;> cases param <;>
    first | exact absurd rfl haudience | exact absurd rfl hresource | simp [TokenParam.name, hone]

theorem count_audience :
    ((formPairs args subjectToken actorToken clientAssertion).map Prod.fst).count
      TokenParam.audience.name = args.audience.length := by
  simp only [formPairs, List.map_append, List.count_append, count_repeated, count_optional]
  cases actorToken <;> cases clientAssertion <;> simp [TokenParam.name]

theorem count_resource :
    ((formPairs args subjectToken actorToken clientAssertion).map Prod.fst).count
      TokenParam.resource.name = args.resource.length := by
  simp only [formPairs, List.map_append, List.count_append, count_repeated, count_optional]
  cases actorToken <;> cases clientAssertion <;> simp [TokenParam.name]

/-- A parameter is repeated only if it is a target that was given several times. -/
theorem nodup_formPairs : (occurring (formPairs args subjectToken actorToken clientAssertion)).Nodup ↔
    args.audience.length ≤ 1 ∧ args.resource.length ≤ 1 := by
  simp only [List.nodup_iff_count_le_one, count_occurring]
  constructor
  · intro hall
    exact ⟨count_audience ▸ hall .audience, count_resource ▸ hall .resource⟩
  · intro ⟨haudience, hresource⟩ param
    by_cases hisAudience : param = .audience
    · rw [hisAudience, count_audience]
      exact haudience
    · by_cases hisResource : param = .resource
      · rw [hisResource, count_resource]
        exact hresource
      · exact count_formPairs hisAudience hisResource

end Pairs

/-! ### The form that is read -/

theorem RepeatsFirst.two_le_count {α : Type} [BEq α] [LawfulBEq α] {l : List α} {x : α}
    (h : RepeatsFirst l x) : 2 ≤ l.count x := by
  obtain ⟨xs, ys, rfl, -, hmem⟩ := h
  have hone : 1 ≤ xs.count x := List.count_pos_iff.mpr hmem
  rw [List.count_append, List.count_cons_self]
  omega

section Received

variable [Crates]

/-- What is relied on of the form decoder: it reads form bodies, and it replaces nothing in
what is UTF-8. -/
structure LawfulForms (lossy : Bytes → String) : Prop where
  parse : ∀ bytes, Crates.formUrlencodedParse bytes = FormUrlencoded.parse lossy bytes
  utf8 : ∀ s, lossy (asBytes s) = s

/-- The pairs that the client has pushed are the form that it means. -/
theorem parseTokenPairs_formPairs {args : ExchangeArgs} {subjectToken : String}
    {actorToken clientAssertion : Option String}
    (hpushed : ∀ pair ∈ formPairs args subjectToken actorToken clientAssertion,
      isBlank pair.2 = false)
    (htargets : args.audience.length ≤ 1 ∧ args.resource.length ≤ 1) :
    parseTokenPairs (formPairs args subjectToken actorToken clientAssertion) OrdSet.empty {} =
      .ok (sentForm args subjectToken actorToken clientAssertion) := by
  obtain ⟨-, form, hform⟩ | ⟨param, hrepeats, -⟩ :=
    parseTokenPairs_cases (formPairs args subjectToken actorToken clientAssertion)
  · have hsent : ∀ param value,
        (sentForm args subjectToken actorToken clientAssertion).get param = some value ↔
          (param.name, value) ∈ formPairs args subjectToken actorToken clientAssertion := by
      have hhead : ∀ (values : List String) (value : String), values.length ≤ 1 →
          (values.head? = some value ↔ value ∈ values) := by
        intro values value hlen
        match values, hlen with
        | [], _ => simp
        | [only], _ => simp [eq_comm]
      intro param value
      rw [mem_formPairs]
      cases param with
      | audience => exact hhead args.audience value htargets.1
      | resource => exact hhead args.resource value htargets.2
      | _ => exact Iff.rfl
    have hnonempty : ∀ {param : TokenParam} {value : String},
        (param.name, value) ∈ formPairs args subjectToken actorToken clientAssertion →
          value ≠ "" := by
      rintro param value hmem rfl
      have hblank : isBlank "" = false := hpushed (param.name, "") hmem
      exact absurd hblank (by decide)
    rw [hform]
    refine congrArg Except.ok (TokenForm.ext_get (fun param => Option.ext fun value => ?_) ?_)
    · rw [get_of_parseTokenPairs hform, hsent]
      exact ⟨And.left, fun hmem => ⟨hmem, hnonempty hmem⟩⟩
    · have hflag : ¬form.emptyActorTokenSupplied = true := by
        rw [emptyActorTokenSupplied_of_parseTokenPairs hform]
        intro hmem
        exact absurd (hpushed ("actor_token", "") hmem) (by decide)
      exact Bool.eq_false_iff.mpr hflag
  · exact absurd (nodup_formPairs.mpr htargets) hrepeats.not_nodup

/-- **From the client to the server.** The server reads exactly the form that the client
means, whatever its values are, if there is at most one audience and one resource. More of
them are sent, and refused as an invalid target. -/
theorem client_form_received [HolderCrates] {lossy : Bytes → String} (forms : LawfulForms lossy)
    {args : ExchangeArgs} {outside : Outside} {request : ExchangeHttpRequest}
    (hbuilt : buildExchangeHttpRequest args outside = .ok request) {headers : HeaderMap}
    (hcontent : headers.get "content-type" =
      some (asBytes "application/x-www-form-urlencoded; charset=utf-8"))
    (hauth : headers.get "authorization" = none) :
    ∃ subjectToken actorToken clientAssertion,
      readSecretFile outside args.subjectTokenFile "subject token" = .ok subjectToken ∧
      readOptionalSecretFile outside args.actorTokenFile "actor token" = .ok actorToken ∧
      readOptionalSecretFile outside args.clientAssertionFile "client assertion" =
        .ok clientAssertion ∧
      (args.audience.length ≤ 1 ∧ args.resource.length ≤ 1 →
        parseTokenForm headers request.body =
          .ok (sentForm args subjectToken actorToken clientAssertion)) ∧
      (¬(args.audience.length ≤ 1 ∧ args.resource.length ≤ 1) →
        ∃ err, parseTokenForm headers request.body = .error err ∧
          err.error = some "invalid_target") := by
  obtain ⟨-, ⟨subjectToken, actorToken, clientAssertion, form, hsubject, hactor, hclient, hform,
    hbody⟩, -⟩ := buildExchangeHttpRequest_eq_ok hbuilt
  obtain ⟨hpushed, hpairs⟩ := pushFormParams_eq_ok.mp hform
  rw [List.nil_append] at hpairs
  have hrequired : requireFormUrlencoded headers = .ok () := by
    rw [requireFormUrlencoded, hcontent]
    decide
  have hallowed : rejectAuthorizationHeaderClientAuth headers = .ok () := by
    rw [rejectAuthorizationHeaderClientAuth, hauth]
  have hread : parseTokenForm headers request.body =
      parseTokenPairs (formPairs args subjectToken actorToken clientAssertion) OrdSet.empty {} := by
    rw [parseTokenForm, hrequired, hallowed, ok_bind, ok_bind, hbody, forms.parse,
      FormUrlencoded.parse_serialize forms.utf8, hpairs]
  refine ⟨subjectToken, actorToken, clientAssertion, hsubject, hactor, hclient, fun htargets => ?_,
    fun htargets => ?_⟩
  · rw [hread]
    exact parseTokenPairs_formPairs hpushed htargets
  · obtain ⟨hnodup, -⟩ | ⟨param, hrepeats, herr⟩ :=
      parseTokenPairs_cases (formPairs args subjectToken actorToken clientAssertion)
    · exact absurd (nodup_formPairs.mp hnodup) htargets
    · refine ⟨_, hread.trans herr, ?_⟩
      have htwice := hrepeats.two_le_count
      rw [count_occurring] at htwice
      rw [error_repeatError, if_pos]
      by_contra hother
      obtain ⟨haudience, hresource⟩ := not_or.mp hother
      exact absurd (htwice.trans (count_formPairs haudience hresource)) (by decide)

end Received

namespace FormSample

/-- The text of octets that are UTF-8. -/
def decodeUtf8 (bytes : Bytes) : String :=
  ((ByteArray.mk bytes.toArray).utf8Decode?.map fun chars => String.ofList chars.toList).getD ""

theorem decodeUtf8_asBytes (s : String) : decodeUtf8 (asBytes s) = s := by
  have hdecode : s.toByteArray.utf8Decode? = some s.toList.toArray := by
    rw [← String.ofList_toList (s := s), String.toByteArray_ofList, List.utf8Decode?_utf8Encode,
      String.toList_ofList]
  have hbytes : ByteArray.mk (asBytes s).toArray = s.toByteArray := by
    simp [asBytes]
  rw [decodeUtf8, hbytes, hdecode]
  exact String.ofList_toList

scoped instance crates : Crates :=
  { Sample.crates with formUrlencodedParse := FormUrlencoded.parse decodeUtf8 }

theorem lawfulForms : LawfulForms decodeUtf8 := ⟨fun _ => rfl, decodeUtf8_asBytes⟩

/-- An exchange for a target with a space and an ampersand in its name. -/
def args : ExchangeArgs :=
  { stsUrl := some "https://sts.example/", subjectTokenFile := "subject.jwt",
    clientId := some "app", audience := ["R&D api"] }

theorem form_received : ∃ request subjectToken,
    @buildExchangeHttpRequest _ HolderSample.holderCrates args ClientSample.outside = .ok request ∧
      parseTokenForm [("content-type", asBytes "application/x-www-form-urlencoded; charset=utf-8")]
        request.body = .ok (sentForm args subjectToken none none) := by
  have hok : (@buildExchangeHttpRequest _ HolderSample.holderCrates args
      ClientSample.outside).toOption.isSome = true := by
    decide +kernel
  obtain ⟨request, hrequest⟩ := Option.isSome_iff_exists.mp hok
  have hbuilt := toOption_eq_some.mp hrequest
  obtain ⟨subjectToken, actorToken, clientAssertion, -, hactor, hclient, hform, -⟩ :=
    @client_form_received _ HolderSample.holderCrates decodeUtf8 lawfulForms args
      ClientSample.outside request hbuilt
      [("content-type", asBytes "application/x-www-form-urlencoded; charset=utf-8")] rfl rfl
  cases hactor
  cases hclient
  exact ⟨request, subjectToken, hbuilt, hform ⟨by decide, by decide⟩⟩

end FormSample

end StsDelegate
