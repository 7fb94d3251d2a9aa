import StsDelegate.Cli.Exchange

/-!
# Reading what the client reports

A response is another party's text. The client prints what it reports as lines of names and
values, and no value that it prints can begin a line of its own: `readLines` takes an output
apart, and finds the fields that were rendered and no others. So
`exchange_reports_what_it_checked` can say what a reader may conclude from the lines, whatever
the server has answered.
-/

namespace StsDelegate

open Text Fallible

/-! ### Lines -/

/-- A line, taken apart at its first `=`. -/
def readField (line : String) : String × String :=
  (String.ofList (line.toList.takeWhile (· != '=')),
    String.ofList ((line.toList.dropWhile (· != '=')).drop 1))

/-- What a reader takes from an output. -/
def readLines (output : String) : List (String × String) :=
  (splitAtChar '\n' output).dropLast.map readField

/-- A field that stays on its line. -/
structure OnOneLine (field : String × String) : Prop where
  nameEq : '=' ∉ field.1.toList
  name : '\n' ∉ field.1.toList
  value : '\n' ∉ field.2.toList

theorem readField_line {field : String × String} (h : OnOneLine field) :
    readField (field.1 ++ "=" ++ field.2) = field := by
  have hname : ∀ c ∈ field.1.toList, (c != '=') = true := by
    intro c hc
    rw [bne_iff_ne]
    rintro rfl
    exact h.nameEq hc
  have hline : (field.1 ++ "=" ++ field.2).toList = field.1.toList ++ '=' :: field.2.toList := by
    simp [String.toList_append]
  rw [readField, hline, List.takeWhile_append_of_pos hname, List.dropWhile_append_of_pos hname,
    List.takeWhile_cons_of_neg (by decide), List.dropWhile_cons_of_neg (by decide), List.append_nil,
    List.drop_one, List.tail_cons, String.ofList_toList, String.ofList_toList]

theorem renderLines_cons (field : String × String) (fields : List (String × String)) :
    renderLines (field :: fields) =
      (field.1 ++ "=" ++ field.2) ++ (String.singleton '\n' ++ renderLines fields) := by
  have hbreak : ("\n" : String) = String.singleton '\n' := by decide
  rw [renderLines, renderLines, List.map_cons, String.join_cons, ← hbreak, String.append_assoc,
    String.append_assoc, String.append_assoc]

theorem splitAtChar_renderLines {fields : List (String × String)} (h : ∀ field ∈ fields, OnOneLine field) :
    splitAtChar '\n' (renderLines fields) =
      fields.map (fun field => field.1 ++ "=" ++ field.2) ++ [""] := by
  induction fields with
  | nil => rfl
  | cons field fields ih =>
      obtain ⟨hfield, hrest⟩ := List.forall_mem_cons.mp h
      have hline : '\n' ∉ (field.1 ++ "=" ++ field.2).toList := by
        simp only [String.toList_append, List.mem_append, not_or]
        exact ⟨⟨hfield.name, by decide⟩, hfield.value⟩
      rw [renderLines_cons, splitAtChar_append hline, ih hrest, List.map_cons, List.cons_append]

/-- **Round trip**: the lines are read as they were rendered. -/
theorem readLines_renderLines {fields : List (String × String)}
    (h : ∀ field ∈ fields, OnOneLine field) : readLines (renderLines fields) = fields := by
  rw [readLines, splitAtChar_renderLines h, List.dropLast_concat, List.map_map]
  conv_rhs => rw [← List.map_id fields]
  exact List.map_congr_left fun field hfield => readField_line (h field hfield)

/-! ### Values -/

/-- What is left of a text prints. -/
theorem lineBreak_not_mem_sanitize (value : String) : '\n' ∉ (sanitize value).toList := by
  have hkept : '\n' ∉ (value.toList.take maxFieldLen).map sanitizeChar := by
    intro hmem
    obtain ⟨c, -, hc⟩ := List.mem_map.mp hmem
    have hspace := isWhitespace_sanitizeChar c
    rw [hc] at hspace
    exact absurd hspace (by decide)
  unfold sanitize
  split
  · rw [String.toList_append, String.toList_ofList, List.mem_append, not_or]
    exact ⟨hkept, by decide⟩
  · rwa [String.toList_ofList]

theorem sanitizeChar_sanitizeChar (ch : Char) : sanitizeChar (sanitizeChar ch) = sanitizeChar ch := by
  by_cases hkept : (isAsciiGraphic ch || ch == ' ') = true
  · have hsame : sanitizeChar ch = ch := if_pos hkept
    rw [hsame, hsame]
  · have hmark : sanitizeChar ch = '?' := if_neg hkept
    rw [hmark]
    decide

/-- A text that was sanitized once stays as it is. -/
theorem sanitize_sanitize (value : String) : sanitize (sanitize value) = sanitize value := by
  have htwice : ∀ cs : List Char, (cs.map sanitizeChar).map sanitizeChar = cs.map sanitizeChar := by
    intro cs
    rw [List.map_map]
    exact List.map_congr_left fun c _ => sanitizeChar_sanitizeChar c
  by_cases hlong : value.toList.length > maxFieldLen
  · have hcut : (sanitize value).toList =
        (value.toList.take maxFieldLen).map sanitizeChar ++ "...".toList := by
      rw [sanitize, if_pos hlong, String.toList_append, String.toList_ofList]
    have hlen : ((value.toList.take maxFieldLen).map sanitizeChar).length = maxFieldLen := by
      rw [List.length_map, List.length_take]
      omega
    have htake : (sanitize value).toList.take maxFieldLen =
        (value.toList.take maxFieldLen).map sanitizeChar := by
      rw [hcut, List.take_append_of_le_length (Nat.le_of_eq hlen.symm),
        List.take_of_length_le (Nat.le_of_eq hlen)]
    have hagain : (sanitize value).toList.length > maxFieldLen := by
      rw [hcut, List.length_append, hlen]
      decide
    conv_lhs => rw [sanitize, if_pos hagain, htake, htwice]
    rw [sanitize, if_pos hlong]
  · have hwhole : sanitize value = String.ofList (value.toList.map sanitizeChar) := by
      rw [sanitize, if_neg hlong, List.take_of_length_le (by omega)]
    have hagain : ¬(sanitize value).toList.length > maxFieldLen := by
      rw [hwhole, String.toList_ofList, List.length_map]
      exact hlong
    conv_lhs => rw [sanitize, if_neg hagain, List.take_of_length_le (by omega)]
    rw [hwhole, String.toList_ofList, htwice]

section Values

variable [PrintCrates]

/-- A value whose text is known: anything but a floating point number. -/
def NotFloat : Json → Prop
  | .number (.float _) => False
  | _ => True

theorem lineBreak_not_mem_display {value : Json} (h : NotFloat value) :
    '\n' ∉ (displayJsonScalar value).toList := by
  have hdigits : ∀ n, '\n' ∉ Decimal.displayNat n := by
    intro n hmem
    exact absurd (Decimal.isDigit_of_mem_displayNat hmem) (by decide)
  cases value with
  | null => simp [displayJsonScalar]
  | bool b =>
      rw [displayJsonScalar]
      cases b <;> decide
  | string s => exact lineBreak_not_mem_sanitize s
  | number n =>
      cases n with
      | posInt n =>
          rw [displayJsonScalar, JsonNumber.display, String.toList_ofList]
          exact hdigits _
      | negInt n =>
          rw [displayJsonScalar, JsonNumber.display, Decimal.toList_displayI64]
          split
          · rw [List.mem_cons, not_or]
            exact ⟨by decide, hdigits _⟩
          · exact hdigits _
      | float q => exact h.elim
  | array items =>
      rw [displayJsonScalar]
      split
      · exact lineBreak_not_mem_sanitize _
      · decide
  | object members =>
      rw [displayJsonScalar]
      split
      · exact lineBreak_not_mem_sanitize _
      · decide

end Values

/-! ### Fields -/

theorem Json.get_append (members members' : List (String × Json)) (name : String) :
    Json.get (members ++ members') name = (Json.get members name).or (Json.get members' name) :=
  List.lookup_append

theorem get_safeMember (name name' : String) (value : Option Json) :
    Json.get (safeMember name value) name' = if name' == name then value else none := by
  cases value with
  | none => simp [safeMember, Json.get]
  | some value => cases h : name' == name <;> simp [safeMember, Json.get, List.lookup_cons, h]

section Fields

variable [PrintCrates] {safe : List (String × Json)}

theorem mem_shownFields {qualifier : String} {names : List String} {field : String × String} :
    field ∈ shownFields qualifier names safe ↔ ∃ name ∈ names, ∃ value,
      Json.get safe name = some value ∧ field = (qualifier ++ name, displayJsonScalar value) := by
  rw [shownFields, List.mem_filterMap]
  refine exists_congr fun name => and_congr_right fun _ => ?_
  rw [Option.map_eq_some_iff]
  exact exists_congr fun value => and_congr_right fun _ => eq_comm

/-- A field is there if its member is. -/
theorem lookup_shownFields (qualifier : String) (names : List String) (name : String) :
    (shownFields qualifier names safe).lookup (qualifier ++ name) =
      if name ∈ names then (Json.get safe name).map displayJsonScalar else none := by
  induction names with
  | nil => rfl
  | cons first rest ih =>
      by_cases hname : name = first
      · subst hname
        rw [if_pos (List.mem_cons_self ..)]
        cases hget : Json.get safe name with
        | none =>
            have hskip : shownFields qualifier (name :: rest) safe = shownFields qualifier rest safe := by
              simp [shownFields, hget]
            rw [hskip, ih, hget]
            simp
        | some value => simp [shownFields, hget]
      · have hmem : name ∈ first :: rest ↔ name ∈ rest := by simp [hname]
        have hkey : (qualifier ++ name == qualifier ++ first) = false := by
          rw [beq_eq_false_iff_ne]
          exact fun heq => hname (String.append_right_inj qualifier |>.mp heq)
        simp only [hmem, ← ih]
        cases hget : Json.get safe first with
        | none => simp [shownFields, hget]
        | some value => simp [shownFields, hget, List.lookup_cons, hkey]

theorem nodup_shownFields {qualifier : String} {names : List String} (h : names.Nodup) :
    ((shownFields qualifier names safe).map Prod.fst).Nodup := by
  have hnames : (shownFields qualifier names safe).map Prod.fst =
      (names.filter fun name => (Json.get safe name).isSome).map (qualifier ++ ·) := by
    rw [shownFields, List.map_filterMap, ← List.filterMap_eq_filter, List.map_filterMap]
    refine List.filterMap_congr fun name _ => ?_
    cases hget : Json.get safe name <;> simp [Option.guard, hget]
  rw [hnames]
  exact (h.filter _).map fun a b heq => String.append_right_inj qualifier |>.mp heq

/-- Names that the fields of a map may have. -/
structure FieldNames (names : List String) : Prop where
  nodup : names.Nodup
  apart : ∀ claim ∈ claimNames, "claims." ++ claim ∉ names
  oneLine : ∀ name ∈ names, '=' ∉ name.toList ∧ '\n' ∉ name.toList

omit [PrintCrates] in
theorem fieldNames_exchange : FieldNames exchangeNames where
  nodup := by decide
  apart := by decide
  oneLine := by decide

omit [PrintCrates] in
theorem fieldNames_tokenVerify : FieldNames tokenVerifyNames where
  nodup := by decide
  apart := by decide
  oneLine := by decide

omit [PrintCrates] in
theorem fieldNames_claims : claimNames.Nodup ∧
    ∀ name ∈ claimNames, '=' ∉ name.toList ∧ '\n' ∉ name.toList := by
  decide

variable {names : List String}

/-- A field of a map is the member of that name. -/
theorem lookup_mapFields (h : FieldNames names) {name : String} (hname : name ∈ names) :
    (mapFields names safe).lookup name = (Json.get safe name).map displayJsonScalar := by
  have hfield := @lookup_shownFields _ safe "" names name
  rw [String.empty_append, if_pos hname] at hfield
  have hclaims : (shownFields "claims." claimNames (claimMembers safe)).lookup name = none := by
    rw [List.lookup_eq_none_iff]
    intro field hmem
    obtain ⟨claim, hclaim, value, -, rfl⟩ := mem_shownFields.mp hmem
    rw [bne_iff_ne]
    rintro rfl
    exact h.apart claim hclaim hname
  rw [mapFields, List.lookup_append, hfield, hclaims, Option.or_none]

/-- A field of the claims is the claim of that name. -/
theorem lookup_mapFields_claim (h : FieldNames names) {name : String} (hname : name ∈ claimNames) :
    (mapFields names safe).lookup ("claims." ++ name) =
      (Json.get (claimMembers safe) name).map displayJsonScalar := by
  have hfields : (shownFields "" names safe).lookup ("claims." ++ name) = none := by
    rw [List.lookup_eq_none_iff]
    intro field hmem
    obtain ⟨other, hother, value, -, rfl⟩ := mem_shownFields.mp hmem
    rw [bne_iff_ne, String.empty_append]
    rintro heq
    exact h.apart name hname (heq ▸ hother)
  rw [mapFields, List.lookup_append, hfields, Option.none_or, lookup_shownFields, if_pos hname]

/-- No field is told twice. -/
theorem nodup_mapFields (h : FieldNames names) : ((mapFields names safe).map Prod.fst).Nodup := by
  rw [mapFields, List.map_append, List.nodup_append]
  refine ⟨nodup_shownFields h.nodup, nodup_shownFields fieldNames_claims.1, ?_⟩
  intro shown hshown shown' hshown' heq
  obtain ⟨field, hfield, rfl⟩ := List.mem_map.mp hshown
  obtain ⟨field', hfield', rfl⟩ := List.mem_map.mp hshown'
  obtain ⟨name, hname, value, -, rfl⟩ := mem_shownFields.mp hfield
  obtain ⟨claim, hclaim, value', -, rfl⟩ := mem_shownFields.mp hfield'
  have hsame : name = "claims." ++ claim := by
    rw [← String.empty_append (s := name)]
    exact heq
  exact h.apart claim hclaim (hsame ▸ hname)

/-- Every field stays on its line. -/
theorem onOneLine_mapFields (h : FieldNames names) (hsafe : ∀ member ∈ safe, NotFloat member.2)
    (hclaims : ∀ member ∈ claimMembers safe, NotFloat member.2) :
    ∀ field ∈ mapFields names safe, OnOneLine field := by
  have hmem : ∀ {members : List (String × Json)} {name : String} {value : Json},
      Json.get members name = some value → (name, value) ∈ members := by
    intro members name value hget
    obtain ⟨before, after, heq, -⟩ := List.lookup_eq_some_iff.mp hget
    rw [heq]
    simp
  intro field hfield
  rw [mapFields, List.mem_append] at hfield
  rcases hfield with hfield | hfield
  · obtain ⟨name, hname, value, hget, rfl⟩ := mem_shownFields.mp hfield
    obtain ⟨heq, hbreak⟩ := h.oneLine name hname
    rw [String.empty_append]
    exact ⟨heq, hbreak, lineBreak_not_mem_display (hsafe _ (hmem hget))⟩
  · obtain ⟨name, hname, value, hget, rfl⟩ := mem_shownFields.mp hfield
    obtain ⟨heq, hbreak⟩ := fieldNames_claims.2 name hname
    refine ⟨?_, ?_, lineBreak_not_mem_display (hclaims _ (hmem hget))⟩
    · rw [String.toList_append, List.mem_append, not_or]
      exact ⟨by decide, heq⟩
    · rw [String.toList_append, List.mem_append, not_or]
      exact ⟨by decide, hbreak⟩

end Fields

/-! ### What is in the maps -/

theorem Json.get_cons (first : String × Json) (rest : List (String × Json)) (name : String) :
    Json.get (first :: rest) name = if name == first.1 then some first.2 else Json.get rest name := by
  rw [Json.get, Json.get, List.lookup_cons]
  cases name == first.1 <;> rfl

theorem notFloat_ofI64 (n : Int64) : NotFloat (Json.ofI64 n) := by
  unfold Json.ofI64
  split <;> trivial

theorem notFloat_safeMember {α : Type} {f : α → Json} (h : ∀ a, NotFloat (f a)) (name : String)
    (value : Option α) : ∀ member ∈ safeMember name (value.map f), NotFloat member.2 := by
  intro member hmember
  cases value with
  | none => cases hmember
  | some a =>
      rw [List.mem_singleton.mp hmember]
      exact h a

theorem notFloat_safeText {α : Type} (g : α → String) (name : String) (value : Option α) :
    ∀ member ∈ safeMember name (value.map fun a => .string (g a)), NotFloat member.2 :=
  notFloat_safeMember (f := fun a => .string (g a)) (fun _ => trivial) name value

section Maps

variable [Crates]

theorem notFloat_safeClaimsSummary (claims : Json) :
    ∀ member ∈ safeClaimsSummary claims, NotFloat member.2 := by
  have haud : ∀ member ∈ safeAudienceClaim claims, NotFloat member.2 := by
    intro member hmember
    unfold safeAudienceClaim at hmember
    split at hmember
    · rw [List.mem_singleton.mp hmember]
      trivial
    · rw [List.mem_singleton.mp hmember]
      trivial
    · cases hmember
  simp only [safeClaimsSummary, List.forall_mem_append]
  exact ⟨⟨⟨⟨⟨⟨⟨⟨⟨notFloat_safeText _ _ _, haud⟩, notFloat_safeText _ _ _⟩, notFloat_safeText _ _ _⟩,
    notFloat_safeText _ _ _⟩, notFloat_safeText _ _ _⟩, notFloat_safeText _ _ _⟩, notFloat_safeText _ _ _⟩,
    notFloat_safeMember notFloat_ofI64 _ _⟩, notFloat_safeMember notFloat_ofI64 _ _⟩

variable {httpStatus : Nat} {body : Json} {token : String} {decoded : Option (Json × Json)}
  {examined : Examined} {holder : List (String × Json)}

omit [Crates] in
theorem notFloat_headerMembers : ∀ member ∈ headerMembers decoded examined, NotFloat member.2 := by
  have hkept : ∀ (kept : Bool) (name : String) (value : Option String), ∀ member ∈
      (if kept then safeMember name (value.map fun text => .string (sanitize text)) else []),
        NotFloat member.2 := by
    intro kept name value member hmember
    cases kept with
    | false => cases hmember
    | true => exact notFloat_safeText _ _ _ member hmember
  unfold headerMembers
  split
  · simp
  · simp only [List.forall_mem_append]
    exact ⟨⟨hkept _ _ _, hkept _ _ _⟩, notFloat_safeText _ _ _⟩

theorem notFloat_exchangeSummary (hholder : ∀ member ∈ holder, NotFloat member.2) :
    ∀ member ∈ exchangeSummary httpStatus body token decoded examined holder, NotFloat member.2 := by
  simp only [exchangeSummary, List.forall_mem_append, List.forall_mem_cons]
  exact ⟨⟨⟨⟨⟨⟨⟨⟨⟨trivial, trivial, trivial, trivial, trivial, by simp⟩, notFloat_safeText _ _ _⟩,
    notFloat_safeMember notFloat_ofI64 _ _⟩, trivial, trivial, by simp⟩, notFloat_headerMembers⟩,
    notFloat_safeText _ _ _⟩, notFloat_safeText _ _ _⟩, hholder⟩,
    notFloat_safeMember (f := fun claims => .object (safeClaimsSummary claims)) (fun _ => trivial) _ _⟩

/-- The members that come from the checks of the token, among the others. -/
structure SummaryMembers (safe : List (String × Json)) (token : String) (examined : Examined)
    (holder : List (String × Json)) : Prop where
  digest : Json.get safe "access_token_sha256_prefix" = some (.string (sha256HexPrefix token))
  verified : Json.get safe "jwt_signature_verified" = some (.bool (examined.source != "none"))
  source : Json.get safe "jwt_verification_source" = some (.string examined.source)
  alg : ∀ alg, examined.alg = some alg → Json.get safe "jwt_header_alg" = some (.string (sanitize alg))
  kid : ∀ kid, examined.kid = some kid → Json.get safe "jwt_header_kid" = some (.string (sanitize kid))
  holder : Json.get safe "dpop_cnf_jkt_matches_holder" = Json.get holder "dpop_cnf_jkt_matches_holder"
  claims : claimMembers safe = (examined.claims.map safeClaimsSummary).getD []

omit [Crates] in
/-- The header is told by the token where it was not verified, and then only three members of it. -/
theorem get_headerMembers {name : String} (halg : name = "jwt_header_alg" → examined.alg.isSome = true)
    (hkid : name = "jwt_header_kid" → examined.kid.isSome = true) (htyp : name ≠ "jwt_header_typ") :
    Json.get (headerMembers decoded examined) name = none := by
  have hkept : ∀ {kept : Bool} {shown : String} (value : Option Json), (name = shown → kept = false) →
      Json.get (if kept then safeMember shown value else []) name = none := by
    intro kept shown value hshown
    cases kept with
    | false => rfl
    | true =>
        have hne : (name == shown) = false := by
          rw [beq_eq_false_iff_ne]
          exact fun heq => absurd (hshown heq) (by decide)
        simp [get_safeMember, hne]
  unfold headerMembers
  cases decoded with
  | none => rfl
  | some parts =>
      have hne : (name == "jwt_header_typ") = false := by simpa using htyp
      simp only [Json.get_append, get_safeMember, hne]
      rw [hkept _ fun heq => by simpa using halg heq, hkept _ fun heq => by simpa using hkid heq]
      rfl

theorem summaryMembers (hholder : Json.get holder "claims" = none) :
    SummaryMembers (exchangeSummary httpStatus body token decoded examined holder) token examined
      holder where
  digest := by simp [exchangeSummary, Json.get_cons]
  verified := by simp [exchangeSummary, Json.get_append, Json.get_cons, get_safeMember]
  source := by simp [exchangeSummary, Json.get_append, Json.get_cons, get_safeMember]
  alg := by
    intro alg halg
    have hheader : Json.get (headerMembers decoded examined) "jwt_header_alg" = none :=
      get_headerMembers (fun _ => by rw [halg]; rfl) (by simp) (by decide)
    simp [exchangeSummary, Json.get_append, Json.get_cons, get_safeMember, hheader, halg]
  kid := by
    intro kid hkid
    have hheader : Json.get (headerMembers decoded examined) "jwt_header_kid" = none :=
      get_headerMembers (by simp) (fun _ => by rw [hkid]; rfl) (by decide)
    simp [exchangeSummary, Json.get_append, Json.get_cons, get_safeMember, hheader, hkid]
  holder := by
    have hheader : Json.get (headerMembers decoded examined) "dpop_cnf_jkt_matches_holder" = none :=
      get_headerMembers (by simp) (by simp) (by decide)
    simp [exchangeSummary, Json.get_append, Json.get_cons, get_safeMember, hheader]
  claims := by
    have hheader : Json.get (headerMembers decoded examined) "claims" = none :=
      get_headerMembers (by simp) (by simp) (by decide)
    have hget : Json.get (exchangeSummary httpStatus body token decoded examined holder) "claims" =
        examined.claims.map fun claims => .object (safeClaimsSummary claims) := by
      simp [exchangeSummary, Json.get_append, Json.get_cons, get_safeMember, hheader, hholder]
    rw [claimMembers, hget]
    cases examined.claims with
    | none => rfl
    | some claims => rfl

end Maps

end StsDelegate
