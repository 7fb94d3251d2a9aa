import StsDelegate.Json
import Mathlib.Data.Option.Basic
import Mathlib.Data.List.Forall2

/-!
# Values up to the order of members

A struct is written in the order of its fields, and an object that is read is kept in the
order of its names. So a value that went through a text is the same up to the order of the
members of its objects, at any depth. Whatever looks members up by their names cannot tell.
-/

namespace StsDelegate.Json

/-- The same value, up to the order of members. -/
inductive Same : Json → Json → Prop
  | refl (value : Json) : Same value value
  | array {items items' : List Json} (h : List.Forall₂ Same items items') :
      Same (.array items) (.array items')
  | object {members members' : List (String × Json)}
      (h : ∀ name, Option.Rel Same (get members name) (get members' name)) :
      Same (.object members) (.object members')

namespace Same

theorem refl_option (value : Option Json) : Option.Rel Same value value := by
  cases value with
  | none => exact .none
  | some value => exact .some (.refl value)

/-- The members of that name are the same. -/
theorem get {members members' : List (String × Json)} (h : Same (.object members) (.object members'))
    (name : String) : Option.Rel Same (get members name) (get members' name) := by
  cases h with
  | refl => exact refl_option _
  | object h => exact h name

theorem asStr_eq {value value' : Json} (h : Same value value') : value.asStr = value'.asStr := by
  cases h <;> rfl

theorem asI64_eq {value value' : Json} (h : Same value value') : value.asI64 = value'.asI64 := by
  cases h <;> rfl

/-- A text has no members. -/
theorem eq_string {value : Json} {s : String} (h : Same value (.string s)) : value = .string s := by
  cases h
  rfl

/-- What is the same as an object is one. -/
theorem of_object {value : Json} {members' : List (String × Json)} (h : Same value (.object members')) :
    ∃ members, value = .object members ∧
      ∀ name, Option.Rel Same (Json.get members name) (Json.get members' name) := by
  cases h with
  | refl => exact ⟨members', rfl, fun name => refl_option _⟩
  | @object members _ h => exact ⟨members, rfl, h⟩

theorem of_array {value : Json} {items' : List Json} (h : Same value (.array items')) :
    ∃ items, value = .array items ∧ List.Forall₂ Same items items' := by
  cases h with
  | refl => exact ⟨items', rfl, List.forall₂_same.mpr fun item _ => .refl item⟩
  | @array items _ h => exact ⟨items, rfl, h⟩

/-- The texts among the items are the same. -/
theorem filterMap_asStr {items items' : List Json} (h : List.Forall₂ Same items items') :
    items.filterMap asStr = items'.filterMap asStr := by
  induction h with
  | nil => rfl
  | cons hitem _ ih => rw [List.filterMap_cons, List.filterMap_cons, hitem.asStr_eq, ih]

/-- Members that are all texts are the same members. -/
theorem get_eq {members members' : List (String × Json)}
    (h : ∀ name, Option.Rel Same (Json.get members name) (Json.get members' name))
    (htexts : ∀ name value, Json.get members' name = some value → ∃ s, value = .string s)
    (name : String) : Json.get members name = Json.get members' name := by
  have hname := h name
  cases hget : Json.get members' name with
  | none =>
      rw [hget] at hname
      cases hmember : Json.get members name with
      | none => rfl
      | some value =>
          rw [hmember] at hname
          cases hname
  | some value' =>
      obtain ⟨s, rfl⟩ := htexts name value' hget
      rw [hget] at hname
      cases hmember : Json.get members name with
      | none =>
          rw [hmember] at hname
          cases hname
      | some value =>
          rw [hmember] at hname
          cases hname with
          | some hvalue => rw [hvalue.eq_string]

end Same

end StsDelegate.Json
