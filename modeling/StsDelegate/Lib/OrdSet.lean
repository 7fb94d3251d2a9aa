import Mathlib.Order.Lattice
import Mathlib.Order.Defs.LinearOrder
import Mathlib.Data.String.Basic

/-!
# Ordered sets

A finite set over a linear order, kept as the strictly increasing list of its
elements, so that iterating over it visits the elements in order and equal sets
are equal lists. The strict order is a field of the structure: a list with a
duplicate or out of order is not an `OrdSet`.
-/

/-- A finite set, as the strictly increasing list of its elements. -/
structure OrdSet (α : Type) [LinearOrder α] where
  toList : List α
  sorted : toList.Pairwise (· < ·)

namespace OrdSet

variable {α : Type} [LinearOrder α]

instance : Membership α (OrdSet α) := ⟨fun s a => a ∈ s.toList⟩

instance (a : α) (s : OrdSet α) : Decidable (a ∈ s) := inferInstanceAs (Decidable (a ∈ s.toList))

/-- The empty set. -/
def empty : OrdSet α := ⟨[], List.Pairwise.nil⟩

/-- Does the set have no element? -/
def isEmpty (s : OrdSet α) : Bool := s.toList.isEmpty

/-- Put an element in its place, unless it is there already. -/
def insertList (a : α) : List α → List α
  | [] => [a]
  | b :: bs => if a < b then a :: b :: bs else if a = b then b :: bs else b :: insertList a bs

theorem mem_insertList {a b : α} {l : List α} : b ∈ insertList a l ↔ b = a ∨ b ∈ l := by
  induction l with
  | nil => simp [insertList]
  | cons c cs ih =>
      rw [insertList]
      by_cases hlt : a < c
      · rw [if_pos hlt, List.mem_cons]
      · rw [if_neg hlt]
        by_cases heq : a = c
        · rw [if_pos heq, heq, List.mem_cons]
          tauto
        · rw [if_neg heq, List.mem_cons, ih, List.mem_cons]
          tauto

theorem pairwise_insertList {a : α} {l : List α} (h : l.Pairwise (· < ·)) :
    (insertList a l).Pairwise (· < ·) := by
  induction l with
  | nil => simp [insertList]
  | cons c cs ih =>
      rw [List.pairwise_cons] at h
      rw [insertList]
      by_cases hlt : a < c
      · rw [if_pos hlt, List.pairwise_cons]
        refine ⟨fun d hd => ?_, List.pairwise_cons.mpr h⟩
        rcases List.mem_cons.mp hd with rfl | hd
        · exact hlt
        · exact lt_trans hlt (h.1 d hd)
      · rw [if_neg hlt]
        by_cases heq : a = c
        · rw [if_pos heq]
          exact List.pairwise_cons.mpr h
        · rw [if_neg heq, List.pairwise_cons]
          refine ⟨fun d hd => ?_, ih h.2⟩
          rcases mem_insertList.mp hd with rfl | hd
          · exact lt_of_le_of_ne (not_lt.mp hlt) (Ne.symm heq)
          · exact h.1 d hd

/-- The set with one more element. -/
def insert (a : α) (s : OrdSet α) : OrdSet α := ⟨insertList a s.toList, pairwise_insertList s.sorted⟩

@[simp] theorem mem_insert {a b : α} {s : OrdSet α} : b ∈ s.insert a ↔ b = a ∨ b ∈ s :=
  mem_insertList

/-- Add all elements of a list. -/
def extend (s : OrdSet α) : List α → OrdSet α
  | [] => s
  | a :: as => (s.insert a).extend as

@[simp] theorem mem_extend {b : α} {s : OrdSet α} {l : List α} :
    b ∈ s.extend l ↔ b ∈ s ∨ b ∈ l := by
  induction l generalizing s with
  | nil => simp [extend]
  | cons a as ih =>
      rw [extend, ih, mem_insert, List.mem_cons]
      tauto

/-- The set of the elements of a list. -/
def ofList (l : List α) : OrdSet α := empty.extend l

@[simp] theorem not_mem_empty {a : α} : ¬ a ∈ (empty : OrdSet α) := List.not_mem_nil

theorem mem_ofList {a : α} {l : List α} : a ∈ ofList l ↔ a ∈ l := by
  simp [ofList]

theorem isEmpty_eq_false_iff {s : OrdSet α} : s.isEmpty = false ↔ ∃ a, a ∈ s := by
  rw [isEmpty, List.isEmpty_eq_false_iff_exists_mem]
  exact Iff.rfl

end OrdSet
