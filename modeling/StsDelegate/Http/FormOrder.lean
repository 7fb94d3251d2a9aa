import StsDelegate.Http.Form
import StsDelegate.Sample.Requests

/-!
# The order of a form does not matter

The loop of `parse_token_form` goes through the pairs once and stops at the first name it
has met before. Seen from outside it knows nothing but which recognized name has which
value: `parseTokenPairs_ok_iff` and `parseTokenPairs_error` say what a run of the loop does
in terms of the recognized pairs alone, and `token_form_exact` what that makes of a request.
-/

namespace StsDelegate

open Text Fallible

/-! ### The first repetition -/

section Repetition

variable {α : Type}

/-- `x` is the element whose second occurrence comes first. -/
def RepeatsFirst (l : List α) (x : α) : Prop := ∃ xs ys, l = xs ++ x :: ys ∧ xs.Nodup ∧ x ∈ xs

theorem RepeatsFirst.not_nodup {l : List α} {x : α} (h : RepeatsFirst l x) : ¬l.Nodup := by
  obtain ⟨xs, ys, rfl, -, hmem⟩ := h
  intro hnodup
  exact (List.nodup_append.mp hnodup).2.2 x hmem x (List.mem_cons_self ..) rfl

/-- There is only one such element. -/
theorem RepeatsFirst.unique {l : List α} {x y : α} (hx : RepeatsFirst l x)
    (hy : RepeatsFirst l y) : x = y := by
  obtain ⟨xs, xt, rfl, hxs, hxmem⟩ := hx
  obtain ⟨ys, yt, heq, hys, hymem⟩ := hy
  -- a longer part before the repetition would have the shorter one's repetition in it
  have hno : ∀ {as bs cs : List α} {a : α}, as.Nodup → as = bs ++ a :: cs → a ∉ bs := by
    intro as bs cs a hnodup has hmem
    rw [has] at hnodup
    exact (List.nodup_append.mp hnodup).2.2 a hmem a (List.mem_cons_self ..) rfl
  rcases Text.append_cons_eq heq with ⟨-, hsame, -⟩ | ⟨rest, hlonger, -⟩ | ⟨rest, hlonger, -⟩
  · exact hsame
  · exact absurd hxmem (hno hys hlonger)
  · exact absurd hymem (hno hxs hlonger)

end Repetition

/-! ### What a run of the loop does -/

/-- The recognized pairs, in their order. -/
def recognized (pairs : List (String × String)) : List (TokenParam × String) :=
  pairs.filterMap fun pair => (TokenParam.ofKey pair.1).map fun param => (param, pair.2)

/-- The parameters that occur, as often as they do. -/
def occurring (pairs : List (String × String)) : List TokenParam := (recognized pairs).map Prod.fst

/-- `is_recognized_token_form_key`. -/
def isRecognizedTokenFormKey (key : String) : Bool := (TokenParam.ofKey key).isSome

/-- The error for a parameter that occurs again. -/
def repeatError [Crates] (param : TokenParam) : HttpError :=
  if param = .audience ∨ param = .resource then
    .invalidTarget ("multiple " ++ param.name ++ " values are not supported; send one target")
  else .invalidRequest ("parameter " ++ debug param.name ++ " is included more than once")

theorem name_injective : Function.Injective TokenParam.name := by
  intro param other h
  have hparam := TokenParam.ofKey_name param
  rw [h, TokenParam.ofKey_name] at hparam
  exact (Option.some.inj hparam).symm

theorem recognized_cons_of_none {key value : String} {rest : List (String × String)}
    (h : TokenParam.ofKey key = none) : recognized ((key, value) :: rest) = recognized rest := by
  simp [recognized, h]

theorem recognized_cons_of_some {key value : String} {rest : List (String × String)}
    {param : TokenParam} (h : TokenParam.ofKey key = some param) :
    recognized ((key, value) :: rest) = (param, value) :: recognized rest := by
  simp [recognized, h]

theorem mem_recognized {pairs : List (String × String)} {param : TokenParam} {value : String} :
    (param, value) ∈ recognized pairs ↔ (param.name, value) ∈ pairs := by
  rw [recognized, List.mem_filterMap]
  constructor
  · intro ⟨⟨key, value'⟩, hmem, heq⟩
    rw [Option.map_eq_some_iff] at heq
    obtain ⟨param', hkey, hpair⟩ := heq
    cases hpair
    rw [TokenParam.name_of_ofKey hkey]
    exact hmem
  · intro hmem
    exact ⟨_, hmem, by rw [TokenParam.ofKey_name]; rfl⟩

theorem recognized_filter (pairs : List (String × String)) :
    recognized (pairs.filter fun pair => isRecognizedTokenFormKey pair.1) = recognized pairs := by
  rw [recognized, recognized, List.filterMap_filter]
  congr 1
  funext pair
  cases hkey : TokenParam.ofKey pair.1 <;> simp [isRecognizedTokenFormKey, hkey]

section Loop

variable [Crates]

/-- The loop succeeds when no recognized name occurs twice, and then it has assigned each
value in turn. -/
theorem parseTokenPairs_ok_iff {pairs : List (String × String)} {seen : OrdSet String}
    {form out : TokenForm} :
    parseTokenPairs pairs seen form = .ok out ↔ (occurring pairs).Nodup ∧
      (∀ param ∈ occurring pairs, param.name ∉ seen) ∧
      out = (recognized pairs).foldl (fun form pair => form.assign pair.1 pair.2) form := by
  induction pairs generalizing seen form with
  | nil =>
      simp only [parseTokenPairs, occurring, recognized, List.filterMap_nil, List.map_nil,
        List.nodup_nil, List.foldl_nil, true_and, Except.ok.injEq, List.not_mem_nil, false_implies,
        implies_true]
      exact eq_comm
  | cons pair rest ih =>
      obtain ⟨key, value⟩ := pair
      rw [parseTokenPairs]
      cases hkey : TokenParam.ofKey key with
      | none => rw [occurring, recognized_cons_of_none hkey, ih, occurring]
      | some param =>
          obtain rfl := TokenParam.name_of_ofKey hkey
          rw [occurring, recognized_cons_of_some hkey, List.map_cons, List.foldl_cons]
          by_cases hseen : param.name ∈ seen
          · simp only [if_pos hseen]
            constructor
            · intro h
              split at h <;> cases h
            · intro hparts
              obtain ⟨_, hfresh, _⟩ := hparts
              exact absurd hseen (hfresh param (List.mem_cons_self ..))
          · simp only [if_neg hseen, ih, List.nodup_cons, List.mem_cons, forall_eq_or_imp]
            have hfresh : (∀ other ∈ occurring rest, other.name ∉ seen.insert param.name) ↔
                param ∉ occurring rest ∧ ∀ other ∈ occurring rest, other.name ∉ seen := by
              constructor
              · intro hall
                refine ⟨fun hmem => ?_, fun other hmem hother => ?_⟩
                · exact hall param hmem (OrdSet.mem_insert.mpr (Or.inl rfl))
                · exact hall other hmem (OrdSet.mem_insert.mpr (Or.inr hother))
              · intro hparts other hmem hother
                obtain ⟨hparam, hall⟩ := hparts
                rcases OrdSet.mem_insert.mp hother with heq | hother
                · exact hparam (name_injective heq ▸ hmem)
                · exact hall other hmem hother
            rw [hfresh]
            constructor
            · intro hparts
              obtain ⟨hnodup, ⟨hparam, hall⟩, hout⟩ := hparts
              exact ⟨⟨hparam, hnodup⟩, ⟨hseen, hall⟩, hout⟩
            · intro hparts
              obtain ⟨⟨hparam, hnodup⟩, ⟨_, hall⟩, hout⟩ := hparts
              exact ⟨hnodup, ⟨hparam, hall⟩, hout⟩

/-- When it fails, it stops at the first name that it has met before. -/
theorem parseTokenPairs_error {pairs : List (String × String)} {seen : OrdSet String}
    {form : TokenForm} {err : HttpError} (h : parseTokenPairs pairs seen form = .error err) :
    ∃ xs param ys, occurring pairs = xs ++ param :: ys ∧ xs.Nodup ∧
      (∀ other ∈ xs, other.name ∉ seen) ∧ (param ∈ xs ∨ param.name ∈ seen) ∧
      err = repeatError param := by
  induction pairs generalizing seen form with
  | nil => cases h
  | cons pair rest ih =>
      obtain ⟨key, value⟩ := pair
      rw [parseTokenPairs] at h
      cases hkey : TokenParam.ofKey key with
      | none =>
          rw [hkey] at h
          rw [occurring, recognized_cons_of_none hkey]
          exact ih h
      | some param =>
          rw [hkey] at h
          obtain rfl := TokenParam.name_of_ofKey hkey
          rw [occurring, recognized_cons_of_some hkey, List.map_cons]
          by_cases hseen : param.name ∈ seen
          · simp only [if_pos hseen] at h
            refine ⟨[], param, occurring rest, rfl, List.nodup_nil, by simp, Or.inr hseen, ?_⟩
            rw [repeatError]
            split at h <;> cases h <;> simp_all
          · simp only [if_neg hseen] at h
            obtain ⟨xs, other, ys, hsplit, hnodup, hfresh, hmet, herr⟩ := ih h
            have hparam : param ∉ xs := fun hmem =>
              hfresh param hmem (OrdSet.mem_insert.mpr (Or.inl rfl))
            refine ⟨param :: xs, other, ys, ?_, List.nodup_cons.mpr ⟨hparam, hnodup⟩, ?_, ?_, herr⟩
            · show param :: occurring rest = _
              rw [hsplit, List.cons_append]
            · intro p hp
              rcases List.mem_cons.mp hp with heq | hp
              · rw [heq]
                exact hseen
              · exact fun hin => hfresh p hp (OrdSet.mem_insert.mpr (Or.inr hin))
            · rcases hmet with hmet | hmet
              · exact Or.inl (List.mem_cons_of_mem _ hmet)
              · rcases OrdSet.mem_insert.mp hmet with heq | hmet
                · exact Or.inl (name_injective heq ▸ List.mem_cons_self ..)
                · exact Or.inr hmet

/-- The loop succeeds or stops at the first repetition. -/
theorem parseTokenPairs_cases (pairs : List (String × String)) :
    ((occurring pairs).Nodup ∧ ∃ form, parseTokenPairs pairs OrdSet.empty {} = .ok form) ∨
      ∃ param, RepeatsFirst (occurring pairs) param ∧
        parseTokenPairs pairs OrdSet.empty {} = .error (repeatError param) := by
  cases hrun : parseTokenPairs pairs OrdSet.empty {} with
  | ok form => exact Or.inl ⟨(parseTokenPairs_ok_iff.mp hrun).1, form, rfl⟩
  | error err =>
      obtain ⟨xs, param, ys, hsplit, hnodup, -, hmet, rfl⟩ := parseTokenPairs_error hrun
      have hmem : param ∈ xs := hmet.resolve_right OrdSet.not_mem_empty
      exact Or.inr ⟨param, ⟨xs, ys, hsplit, hnodup, hmem⟩, rfl⟩

omit [Crates] in
theorem error_repeatError [Crates] (param : TokenParam) :
    (repeatError param).error =
      if param = .audience ∨ param = .resource then some "invalid_target"
      else some "invalid_request" := by
  rw [repeatError]
  split <;> rfl

omit [Crates] in
theorem count_occurring (pairs : List (String × String)) (param : TokenParam) :
    (occurring pairs).count param = (pairs.map Prod.fst).count param.name := by
  induction pairs with
  | nil => rfl
  | cons pair rest ih =>
      obtain ⟨key, value⟩ := pair
      rw [List.map_cons, List.count_cons, ← ih]
      cases hkey : TokenParam.ofKey key with
      | none =>
          have hne : ¬(key == param.name) = true := by
            rw [beq_iff_eq]
            intro heq
            rw [heq, TokenParam.ofKey_name] at hkey
            cases hkey
          rw [occurring, recognized_cons_of_none hkey, if_neg hne]
          rfl
      | some other =>
          obtain rfl := TokenParam.name_of_ofKey hkey
          rw [occurring, recognized_cons_of_some hkey, List.map_cons, List.count_cons]
          have hiff : (other == param) = (other.name == param.name) := by
            rw [Bool.eq_iff_iff, beq_iff_eq, beq_iff_eq]
            exact name_injective.eq_iff.symm
          rw [hiff]
          rfl

/-! ### What a form holds -/

omit [Crates] in
theorem emptyActorTokenSupplied_foldl (pairs : List (TokenParam × String)) (form : TokenForm) :
    (pairs.foldl (fun form pair => form.assign pair.1 pair.2) form).emptyActorTokenSupplied = true ↔
      form.emptyActorTokenSupplied = true ∨ (.actorToken, "") ∈ pairs := by
  induction pairs generalizing form with
  | nil => simp
  | cons pair rest ih =>
      obtain ⟨param, value⟩ := pair
      rw [List.foldl_cons, ih, TokenForm.emptyActorTokenSupplied_assign, Bool.or_eq_true,
        Bool.and_eq_true, beq_iff_eq, String.isEmpty_iff, List.mem_cons, Prod.mk.injEq, or_assoc]
      simp only [eq_comm]

/-- A field is the value of its name, if that is there and not empty. -/
theorem get_of_parseTokenPairs {pairs : List (String × String)} {form : TokenForm}
    (h : parseTokenPairs pairs OrdSet.empty {} = .ok form) (param : TokenParam) (value : String) :
    form.get param = some value ↔ (param.name, value) ∈ pairs ∧ value ≠ "" := by
  obtain ⟨hpresent, habsent, -⟩ := parseTokenPairs_ok h param
  constructor
  · intro hget
    by_cases hsome : ∃ v, (param.name, v) ∈ pairs
    · obtain ⟨v, hv⟩ := hsome
      rw [(hpresent v hv).2.1, nonEmptyFormValue] at hget
      split at hget
      · cases hget
      · next hne =>
          cases hget
          exact ⟨hv, fun hempty => hne (String.isEmpty_iff.mpr hempty)⟩
    · rw [habsent fun v hv => hsome ⟨v, hv⟩] at hget
      cases param <;> cases hget
  · intro hall
    obtain ⟨hmem, hne⟩ := hall
    rw [(hpresent value hmem).2.1, nonEmptyFormValue, if_neg]
    rwa [String.isEmpty_iff]

theorem emptyActorTokenSupplied_of_parseTokenPairs {pairs : List (String × String)}
    {form : TokenForm} (h : parseTokenPairs pairs OrdSet.empty {} = .ok form) :
    form.emptyActorTokenSupplied = true ↔ ("actor_token", "") ∈ pairs := by
  obtain ⟨-, -, rfl⟩ := parseTokenPairs_ok_iff.mp h
  rw [emptyActorTokenSupplied_foldl, mem_recognized]
  simp [TokenParam.name]

omit [Crates] in
theorem TokenForm.ext_get {form other : TokenForm} (h : ∀ param, form.get param = other.get param)
    (hflag : form.emptyActorTokenSupplied = other.emptyActorTokenSupplied) : form = other := by
  cases form
  cases other
  simp only [TokenForm.mk.injEq]
  exact ⟨h .grantType, h .subjectToken, h .subjectTokenType, h .actorToken, h .actorTokenType, hflag,
    h .audience, h .resource, h .scope, h .requestedTokenType, h .clientId, h .clientAssertion,
    h .clientAssertionType⟩

/-- A form depends only on which recognized pairs there are. -/
theorem parseTokenPairs_perm {pairs pairs' : List (String × String)} {form : TokenForm}
    (hperm : (recognized pairs').Perm (recognized pairs))
    (h : parseTokenPairs pairs OrdSet.empty {} = .ok form) :
    parseTokenPairs pairs' OrdSet.empty {} = .ok form := by
  have hnodup : (occurring pairs').Nodup :=
    (hperm.map Prod.fst).nodup_iff.mpr (parseTokenPairs_ok_iff.mp h).1
  have hmem : ∀ (param : TokenParam) (value : String),
      (param.name, value) ∈ pairs' ↔ (param.name, value) ∈ pairs := by
    intro param value
    rw [← mem_recognized, ← mem_recognized]
    exact hperm.mem_iff
  have hrun : parseTokenPairs pairs' OrdSet.empty {} = .ok _ :=
    parseTokenPairs_ok_iff.mpr ⟨hnodup, fun _ _ => OrdSet.not_mem_empty, rfl⟩
  rw [hrun]
  refine congrArg Except.ok (TokenForm.ext_get (fun param => Option.ext fun value => ?_) ?_)
  · rw [get_of_parseTokenPairs hrun, get_of_parseTokenPairs h, hmem]
  · rw [Bool.eq_iff_iff, emptyActorTokenSupplied_of_parseTokenPairs hrun,
      emptyActorTokenSupplied_of_parseTokenPairs h]
    exact hmem .actorToken ""

end Loop

/-- A form is refused for a repeated name only, the first one, and otherwise holds the value
of each name, whatever else is in the body and in whatever order. -/
theorem token_form_exact [Crates] {headers : HeaderMap}
    (hform : requireFormUrlencoded headers = .ok ())
    (hauth : rejectAuthorizationHeaderClientAuth headers = .ok ()) (body : Bytes) :
    ((∃ err, parseTokenForm headers body = .error err) ↔ ∃ param : TokenParam,
      2 ≤ ((Crates.formUrlencodedParse body).map Prod.fst).count param.name) ∧
    (∀ err, parseTokenForm headers body = .error err →
      (err.error = some "invalid_target" ∨ err.error = some "invalid_request") ∧
      (err.error = some "invalid_target" ↔
        RepeatsFirst (occurring (Crates.formUrlencodedParse body)) .audience ∨
          RepeatsFirst (occurring (Crates.formUrlencodedParse body)) .resource)) ∧
    ∀ form, parseTokenForm headers body = .ok form →
      (∀ param value, form.get param = some value ↔
        (param.name, value) ∈ Crates.formUrlencodedParse body ∧ value ≠ "") ∧
      (form.emptyActorTokenSupplied = true ↔
        ("actor_token", "") ∈ Crates.formUrlencodedParse body) ∧
      (∀ body', (Crates.formUrlencodedParse body').Perm (Crates.formUrlencodedParse body) →
        parseTokenForm headers body' = .ok form) ∧
      ∀ body', (Crates.formUrlencodedParse body').filter
            (fun pair => isRecognizedTokenFormKey pair.1) =
          (Crates.formUrlencodedParse body).filter
            (fun pair => isRecognizedTokenFormKey pair.1) →
        parseTokenForm headers body' = .ok form := by
  have hparse : ∀ body, parseTokenForm headers body =
      parseTokenPairs (Crates.formUrlencodedParse body) OrdSet.empty {} := by
    intro body
    rw [parseTokenForm, hform, hauth, ok_bind, ok_bind]
  simp only [hparse]
  generalize Crates.formUrlencodedParse body = pairs
  refine ⟨?_, ?_, ?_⟩
  · have htwice : ¬(occurring pairs).Nodup ↔
        ∃ param : TokenParam, 2 ≤ (pairs.map Prod.fst).count param.name := by
      simp only [List.nodup_iff_count_le_one, not_forall, Nat.not_le, count_occurring]
      rfl
    rw [← htwice]
    rcases parseTokenPairs_cases pairs with ⟨hnodup, form, hok⟩ | ⟨param, hrepeat, herror⟩
    · simp [hok, hnodup]
    · simp [herror, hrepeat.not_nodup]
  · intro err herr
    rcases parseTokenPairs_cases pairs with ⟨-, form, hok⟩ | ⟨param, hrepeat, herror⟩
    · rw [hok] at herr
      cases herr
    · rw [herror] at herr
      cases herr
      rw [error_repeatError]
      by_cases htarget : param = .audience ∨ param = .resource
      · rw [if_pos htarget]
        refine ⟨Or.inl rfl, iff_of_true rfl ?_⟩
        rcases htarget with rfl | rfl
        · exact Or.inl hrepeat
        · exact Or.inr hrepeat
      · rw [if_neg htarget]
        refine ⟨Or.inr rfl, iff_of_false (by decide) fun hother => htarget ?_⟩
        exact hother.imp hrepeat.unique hrepeat.unique
  · intro form hok
    -- both changes of the body only reorder the recognized pairs
    refine ⟨get_of_parseTokenPairs hok, emptyActorTokenSupplied_of_parseTokenPairs hok, ?_, ?_⟩
    · intro body' hperm
      exact parseTokenPairs_perm (hperm.filterMap _) hok
    · intro body' hsame
      refine parseTokenPairs_perm ?_ hok
      rw [← recognized_filter, hsame, recognized_filter]

open Sample in
/-- The sample request, backwards. -/
theorem reversed_form_parsed :
    parseTokenForm formHeaders (form (exchangePairs ++ actorPairs actor1).reverse) =
      .ok (exchangeForm (some actor1) none) := by
  have hplain : ∀ pair ∈ exchangePairs ++ actorPairs actor1, Plain pair.1 ∧ Plain pair.2 := by
    intro pair hpair
    rcases List.mem_append.mp hpair with h | h
    · exact plain_exchangePairs h
    · exact plain_actorPairs actor1 h
  have hread : ∀ pairs : List (String × String), pairs.Perm (exchangePairs ++ actorPairs actor1) →
      Crates.formUrlencodedParse (form pairs) = pairs := by
    intro pairs hperm
    refine formUrlencodedParse_form ?_ fun pair hpair => hplain pair (hperm.mem_iff.mp hpair)
    intro hnil
    rw [hnil] at hperm
    cases hperm.nil_eq
  obtain ⟨hform, hauth⟩ := requireFormUrlencoded_ok (Or.inl (rfl : formHeaders = formHeaders))
  have hparsed := parseTokenForm_actor (Or.inl (rfl : formHeaders = formHeaders)) subject actor1
  refine ((token_form_exact hform hauth _).2.2 _ hparsed).2.2.1 _ ?_
  rw [hread _ (List.reverse_perm _), hread _ (List.Perm.refl _)]
  exact List.reverse_perm _

end StsDelegate
