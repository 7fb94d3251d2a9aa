import StsDelegate.Keys

/-!
# Minted claims as JSON

How the claims of a token become a JSON object and come back: what `serde` derives for
`MintedClaims` and `ActClaim`. Optional claims are left out when there are none, the
thumbprint of a holder's key is wrapped into an object of its own, and an actor carries
its past inside.

A list of values in the order of the fields is read too, as `serde` does.
-/

namespace StsDelegate

open Text

/-! ### Members -/

/-- A member that is left out when there is no value. -/
def writtenMember {α : Type} (name : String) (write : α → Json) (value : Option α) :
    List (String × Json) :=
  (value.map fun a => (name, write a)).toList

/-- A member that may be left out or `null`. -/
def readMember {α : Type} (read : Json → Option α) (members : List (String × Json))
    (name : String) : Option (Option α) :=
  match Json.get members name with
  | none => some none
  | some .null => some none
  | some value => (read value).map some

@[simp] theorem lookup_writtenMember {α : Type} {name : String} {write : α → Json}
    {value : Option α} {key : String} :
    (writtenMember name write value).lookup key =
      if key = name then value.map write else none := by
  cases value with
  | none => simp [writtenMember]
  | some a =>
      by_cases h : key = name
      · simp [writtenMember, h]
      · simp [writtenMember, List.lookup_cons, h, beq_eq_false_iff_ne.mpr h]

/-- A member that was written is read back. -/
theorem readMember_written {α : Type} {read : Json → Option α} (write : α → Json)
    {members : List (String × Json)} {name : String} {value : Option α}
    (hread : ∀ a, value = some a → read (write a) = some a)
    (hnull : ∀ a, value = some a → write a ≠ .null)
    (h : Json.get members name = value.map write) :
    readMember read members name = some value := by
  unfold readMember
  rw [h]
  cases value with
  | none => rfl
  | some a =>
      rw [Option.map_some]
      split
      · next heq => cases heq
      · next heq => exact absurd (Option.some.inj heq) (hnull a rfl)
      · next heq => rw [← Option.some.inj heq, hread a rfl, Option.map_some]

/-! ### Numbers -/

theorem Json.asI64_ofI64 (n : Int64) : (Json.ofI64 n).asI64 = some n := by
  unfold Json.ofI64
  by_cases h : 0 ≤ n
  · have hnonneg : 0 ≤ n.toInt := by simpa using Int64.le_iff_toInt_le.mp h
    have hlt : n.toInt < 2 ^ 63 := Int64.toInt_lt n
    have hsmall : n.toInt.toNat < 2 ^ 64 := by omega
    have hnat : (UInt64.ofNat n.toInt.toNat).toNat = n.toInt.toNat :=
      UInt64.toNat_ofNat_of_lt' hsmall
    have hback : Int64.ofNat n.toInt.toNat = n := by
      rw [← Int64.toInt_inj, Int64.toInt_ofNat_of_lt (by omega)]
      omega
    rw [if_pos h, Json.asI64, hnat, if_pos (by omega), hback]
  · rw [if_neg h]
    rfl

/-! ### Actors -/

namespace ActClaim

/-- How many actors stand in the chain. -/
def depth : ActClaim → Nat
  | mk _ _ act =>
      (match act with
        | some act => act.depth
        | none => 0) + 1

/-- `serde_json::from_value`, with the number of levels still allowed. -/
def fromValue : (levels : Nat) → Json → Option ActClaim
  | 0, _ => none
  | levels + 1, value => do
      let members ← recordMembers ["sub", "iss", "act"] value
      let sub ← requiredText members "sub"
      let iss ← readMember Json.asStr members "iss"
      let act ← readMember (fromValue levels) members "act"
      pure (mk sub iss act)

theorem toValue_ne_null (a : ActClaim) : a.toValue ≠ .null := by
  obtain ⟨sub, iss, act⟩ := a
  cases act <;> simp [toValue]

/-- A chain that is not too deep is read back. -/
theorem fromValue_toValue {levels : Nat} {a : ActClaim} (h : a.depth ≤ levels) :
    fromValue levels a.toValue = some a := by
  induction levels generalizing a with
  | zero =>
      obtain ⟨sub, iss, act⟩ := a
      cases act <;> cases h
  | succ levels ih =>
      obtain ⟨sub, iss, act⟩ := a
      have hmembers : (mk sub iss act).toValue = .object ([("sub", .string sub)] ++
          writtenMember "iss" .string iss ++ writtenMember "act" toValue act) := by
        cases iss <;> cases act <;> simp [toValue, writtenMember]
      have hiss : readMember Json.asStr ([("sub", .string sub)] ++
          writtenMember "iss" .string iss ++ writtenMember "act" toValue act) "iss" = some iss :=
        readMember_written Json.string (fun _ _ => rfl) (fun _ _ => by simp)
          (by simp [Json.get, List.lookup_append, List.lookup_cons])
      have hact : readMember (fromValue levels) ([("sub", .string sub)] ++
          writtenMember "iss" .string iss ++ writtenMember "act" toValue act) "act" = some act := by
        refine readMember_written toValue (fun inner hinner => ih ?_)
          (fun inner _ => inner.toValue_ne_null)
          (by simp [Json.get, List.lookup_append, List.lookup_cons])
        -- the past is one level shallower
        rw [hinner, depth] at h
        exact Nat.le_of_succ_le_succ h
      have hsub : requiredText ([("sub", .string sub)] ++
          writtenMember "iss" .string iss ++ writtenMember "act" toValue act) "sub" = some sub := by
        simp [requiredText, Json.get, Json.asStr]
      simp only [fromValue, hmembers, recordMembers, hsub, hiss, hact, Option.bind_eq_bind,
        Option.bind_some, Option.pure_def]

end ActClaim

/-! ### Claims -/

namespace MintedClaims

/-- `serde_json::to_value`. -/
def toMembers (claims : MintedClaims) : List (String × Json) :=
  [("iss", .string claims.iss), ("sub", .string claims.sub), ("aud", .string claims.aud),
    ("scope", .string claims.scope), ("iat", .ofI64 claims.iat), ("exp", .ofI64 claims.exp),
    ("jti", .string claims.jti), ("client_id", .string claims.clientId)] ++
  writtenMember "act" ActClaim.toValue claims.act ++
  writtenMember "cnf" (fun jkt => .object [("jkt", .string jkt)]) claims.cnfJkt ++
  writtenMember "auth_time" .ofI64 claims.authTime ++
  writtenMember "acr" .string claims.acr ++
  writtenMember "amr" (fun values => .array (values.map .string))
    (if claims.amr.isEmpty then none else some claims.amr)

def toValue (claims : MintedClaims) : Json := .object claims.toMembers

/-- `deserialize_cnf_jkt`, of a value that is not `null`. -/
def cnfJktFromValue (value : Json) : Option String := do
  let members ← recordMembers ["jkt"] value
  requiredText members "jkt"

/-- A member that has to be an integer. -/
def requiredI64 (members : List (String × Json)) (name : String) : Option Int64 :=
  (Json.get members name).bind Json.asI64

/-- A list of texts, empty if it is left out. -/
def amrFromMembers (members : List (String × Json)) : Option (List String) :=
  match Json.get members "amr" with
  | none => some []
  | some value => value.asArray.bind fun items => items.mapM Json.asStr

def fields : List String :=
  ["iss", "sub", "aud", "scope", "iat", "exp", "jti", "client_id", "act", "cnf", "auth_time", "acr",
    "amr"]

/-- The members of the claims. A list may leave out the last one. -/
def membersOf : Json → Option (List (String × Json))
  | .object members => some members
  | .array items =>
      if items.length = 12 ∨ items.length = 13 then some (fields.zip items) else none
  | _ => none

/-- `serde_json::from_value`. Of the 127 levels that `serde_json` reads, the claims
themselves are one. -/
def fromValue (value : Json) : Option MintedClaims := do
  let members ← membersOf value
  let iss ← requiredText members "iss"
  let sub ← requiredText members "sub"
  let aud ← requiredText members "aud"
  let scope ← requiredText members "scope"
  let iat ← requiredI64 members "iat"
  let exp ← requiredI64 members "exp"
  let jti ← requiredText members "jti"
  let clientId ← requiredText members "client_id"
  let act ← readMember (ActClaim.fromValue 126) members "act"
  let cnfJkt ← readMember cnfJktFromValue members "cnf"
  let authTime ← readMember Json.asI64 members "auth_time"
  let acr ← readMember Json.asStr members "acr"
  let amr ← amrFromMembers members
  pure ⟨iss, sub, aud, scope, iat, exp, jti, clientId, act, cnfJkt, authTime, acr, amr⟩

/-- The length of the chain of actors. -/
def actDepth (claims : MintedClaims) : Nat := (claims.act.map ActClaim.depth).getD 0

variable (claims : MintedClaims)

theorem mapM_asStr (values : List String) :
    (values.map Json.string).mapM Json.asStr = some values := by
  induction values with
  | nil => rfl
  | cons value rest ih => simp [List.mapM_cons, Json.asStr, ih]

theorem amrFromMembers_toMembers : amrFromMembers claims.toMembers = some claims.amr := by
  have hget : Json.get claims.toMembers "amr" =
      (if claims.amr.isEmpty then none else some claims.amr).map
        fun values => .array (values.map .string) := by
    simp [Json.get, toMembers, List.lookup_append, List.lookup_cons]
  unfold amrFromMembers
  rw [hget]
  cases hamr : claims.amr with
  | nil => rfl
  | cons value rest => exact mapM_asStr (value :: rest)

/-- What is written is read back, whatever optional claims there are. -/
theorem fromValue_toValue {claims : MintedClaims} (h : claims.actDepth ≤ 126) :
    fromValue claims.toValue = some claims := by
  have hact : readMember (ActClaim.fromValue 126) claims.toMembers "act" = some claims.act := by
    refine readMember_written ActClaim.toValue (fun act hact => ?_)
      (fun act _ => act.toValue_ne_null)
      (by simp [Json.get, toMembers, List.lookup_append, List.lookup_cons])
    rw [actDepth, hact] at h
    exact ActClaim.fromValue_toValue h
  have hcnf : readMember cnfJktFromValue claims.toMembers "cnf" = some claims.cnfJkt :=
    readMember_written (fun jkt => .object [("jkt", .string jkt)]) (fun _ _ => rfl)
      (fun _ _ => by simp) (by simp [Json.get, toMembers, List.lookup_append, List.lookup_cons])
  have hauthTime : readMember Json.asI64 claims.toMembers "auth_time" = some claims.authTime := by
    refine readMember_written Json.ofI64 (fun time _ => Json.asI64_ofI64 time) (fun time _ => ?_)
      (by simp [Json.get, toMembers, List.lookup_append, List.lookup_cons])
    unfold Json.ofI64
    split <;> simp
  have hacr : readMember Json.asStr claims.toMembers "acr" = some claims.acr :=
    readMember_written Json.string (fun _ _ => rfl) (fun _ _ => by simp)
      (by simp [Json.get, toMembers, List.lookup_append, List.lookup_cons])
  have hrequired : requiredText claims.toMembers "iss" = some claims.iss ∧
      requiredText claims.toMembers "sub" = some claims.sub ∧
      requiredText claims.toMembers "aud" = some claims.aud ∧
      requiredText claims.toMembers "scope" = some claims.scope ∧
      requiredI64 claims.toMembers "iat" = some claims.iat ∧
      requiredI64 claims.toMembers "exp" = some claims.exp ∧
      requiredText claims.toMembers "jti" = some claims.jti ∧
      requiredText claims.toMembers "client_id" = some claims.clientId := by
    simp [requiredText, requiredI64, Json.get, toMembers, List.lookup_cons, Json.asStr,
      Json.asI64_ofI64]
  obtain ⟨hiss, hsub, haud, hscope, hiat, hexp, hjti, hclientId⟩ := hrequired
  have hsome : ∀ {α β : Type} (a : α) (f : α → Option β), (some a >>= f) = f a := fun _ _ => rfl
  have hmembers : membersOf claims.toValue = some claims.toMembers := rfl
  unfold fromValue
  rw [hmembers, hsome, hiss, hsome, hsub, hsome, haud, hsome, hscope, hsome, hiat, hsome, hexp, hsome,
    hjti, hsome, hclientId, hsome, hact, hsome, hcnf, hsome, hauthTime, hsome, hacr, hsome,
    amrFromMembers_toMembers, hsome]
  rfl

end MintedClaims

end StsDelegate
