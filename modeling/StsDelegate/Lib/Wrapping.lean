import Mathlib.Algebra.Group.Int.Defs
import Mathlib.Order.Basic

/-!
# Machine arithmetic as integers

`+` and `-` on `Int64` wrap around. Read as integers, a result is the exact one or
differs from it by `2 ^ 64`, and which of these it is can be told from the exact
result. The lemmas say so in a form that `omega` can use.
-/

namespace Wrapping

theorem toInt_range (a : Int64) : -2 ^ 63 ≤ a.toInt ∧ a.toInt < 2 ^ 63 := ⟨a.le_toInt, a.toInt_lt⟩

/-- `+`, exact or wrapped. -/
theorem toInt_add_cases (a b : Int64) :
    (-2 ^ 63 ≤ a.toInt + b.toInt ∧ a.toInt + b.toInt < 2 ^ 63 ∧
        (a + b).toInt = a.toInt + b.toInt) ∨
      (2 ^ 63 ≤ a.toInt + b.toInt ∧ (a + b).toInt = a.toInt + b.toInt - 2 ^ 64) ∨
      (a.toInt + b.toInt < -2 ^ 63 ∧ (a + b).toInt = a.toInt + b.toInt + 2 ^ 64) := by
  have ha := toInt_range a
  have hb := toInt_range b
  rw [Int64.toInt_add, Int.bmod_def]
  omega

/-- `-`, exact or wrapped. -/
theorem toInt_sub_cases (a b : Int64) :
    (-2 ^ 63 ≤ a.toInt - b.toInt ∧ a.toInt - b.toInt < 2 ^ 63 ∧
        (a - b).toInt = a.toInt - b.toInt) ∨
      (2 ^ 63 ≤ a.toInt - b.toInt ∧ (a - b).toInt = a.toInt - b.toInt - 2 ^ 64) ∨
      (a.toInt - b.toInt < -2 ^ 63 ∧ (a - b).toInt = a.toInt - b.toInt + 2 ^ 64) := by
  have ha := toInt_range a
  have hb := toInt_range b
  rw [Int64.toInt_sub, Int.bmod_def]
  omega

/-! ### Results in range -/

/-- The integer is a 64 bit one. -/
def IsI64 (n : Int) : Prop := -2 ^ 63 ≤ n ∧ n < 2 ^ 63

theorem toInt_add {a b : Int64} (h : IsI64 (a.toInt + b.toInt)) :
    (a + b).toInt = a.toInt + b.toInt := by
  obtain ⟨hlow, hhigh⟩ := h
  have hcases := toInt_add_cases a b
  omega

theorem toInt_sub {a b : Int64} (h : IsI64 (a.toInt - b.toInt)) :
    (a - b).toInt = a.toInt - b.toInt := by
  obtain ⟨hlow, hhigh⟩ := h
  have hcases := toInt_sub_cases a b
  omega

end Wrapping
