import StsDelegate.Lib.Wrapping
import Mathlib.Data.Rat.Floor
import Mathlib.Data.List.Basic

/-!
# JSON values and 64 bit integers

`serde_json::Value` as far as the token code looks at it. Reading text into a
value is the parser's business and not modelled; what is modelled is how the code
takes a value apart (`as_str`, `as_object`, `as_i64`, …) and how it builds one.

A number keeps the three forms the parser distinguishes. A floating point number
that came out of a JSON text is finite, hence a rational.

Times are `i64`, Lean's `Int64`: `+` and `-` wrap around as in a release build,
and the operations the code chooses to avoid that are at the end of the module.
-/

namespace StsDelegate

/-- `serde_json::Number`. -/
inductive JsonNumber
  /-- A non-negative integer that fits 64 bits. -/
  | posInt (n : UInt64)
  /-- A negative integer that fits 64 bits. -/
  | negInt (n : Int64)
  /-- Any other number. -/
  | float (q : Rat)

/-- `serde_json::Value`. The members of an object carry distinct names. -/
inductive Json
  | null
  | bool (b : Bool)
  | number (n : JsonNumber)
  | string (s : String)
  | array (items : List Json)
  | object (members : List (String × Json))

namespace Json

/-- `Value::as_str`. -/
def asStr : Json → Option String
  | .string s => some s
  | _ => none

/-- `Value::as_object`. -/
def asObject : Json → Option (List (String × Json))
  | .object members => some members
  | _ => none

/-- `Value::as_array`. -/
def asArray : Json → Option (List Json)
  | .array items => some items
  | _ => none

/-- `Value::as_bool`. -/
def asBool : Json → Option Bool
  | .bool b => some b
  | _ => none

/-- `Map::get`. -/
def get (members : List (String × Json)) (name : String) : Option Json := members.lookup name

/-- `Map::contains_key`. -/
def containsKey (members : List (String × Json)) (name : String) : Bool := (get members name).isSome

/-- `Map::insert` at a name that is not a member yet. -/
def insert (members : List (String × Json)) (name : String) (value : Json) :
    List (String × Json) :=
  members ++ [(name, value)]

/-- `Value::as_i64`. -/
def asI64 : Json → Option Int64
  | .number (.posInt n) => if n.toNat < 2 ^ 63 then some (Int64.ofNat n.toNat) else none
  | .number (.negInt n) => some n
  | _ => none

/-- `Value::as_u64`. -/
def asU64 : Json → Option UInt64
  | .number (.posInt n) => some n
  | _ => none

/-- `Value::as_f64`, of a value that is not an integer. -/
def asF64 : Json → Option Rat
  | .number (.float q) => some q
  | _ => none

/-- `From<i64>`. -/
def ofI64 (n : Int64) : Json :=
  if 0 ≤ n then .number (.posInt (UInt64.ofNat n.toInt.toNat)) else .number (.negInt n)

end Json

/-! ### 64 bit arithmetic -/

/-- `f64 as i64`: towards zero, clamped to the range of the target. -/
def floatToI64 (q : Rat) : Int64 :=
  let n : Int := if 0 ≤ q then ⌊q⌋ else ⌈q⌉
  if n < -2 ^ 63 then Int64.minValue else if 2 ^ 63 ≤ n then Int64.maxValue else Int64.ofInt n

/-- `i64::saturating_add`. -/
def saturatingAdd (a b : Int64) : Int64 :=
  let n := a.toInt + b.toInt
  if n < -2 ^ 63 then Int64.minValue else if 2 ^ 63 ≤ n then Int64.maxValue else Int64.ofInt n

/-- `i64::abs_diff`. -/
def absDiff (a b : Int64) : Nat := (a.toInt - b.toInt).natAbs

/-- `i64::max` with zero. -/
def maxZero (a : Int64) : Int64 := if 0 ≤ a then a else 0

/-- The smaller of two `i64` values. -/
def minI64 (a b : Int64) : Int64 := if a ≤ b then a else b

/-! Read as integers. -/

theorem toInt_maxZero (a : Int64) : (maxZero a).toInt = max a.toInt 0 := by
  have hzero : (0 : Int64).toInt = 0 := rfl
  rw [maxZero]
  split
  · next h => exact (max_eq_left (by rwa [Int64.le_iff_toInt_le, hzero] at h)).symm
  · next h =>
      rw [Int64.le_iff_toInt_le, hzero, not_le] at h
      exact (max_eq_right (le_of_lt h)).symm

/-- The exact sum, clamped to the range. -/
theorem toInt_saturatingAdd (a b : Int64) :
    (saturatingAdd a b).toInt = max (-2 ^ 63) (min (a.toInt + b.toInt) (2 ^ 63 - 1)) := by
  have ha := Wrapping.toInt_range a
  have hb := Wrapping.toInt_range b
  have hmin : Int64.minValue.toInt = -2 ^ 63 := rfl
  have hmax : Int64.maxValue.toInt = 2 ^ 63 - 1 := rfl
  simp only [saturatingAdd]
  split
  · next hlow => omega
  · next hlow =>
      split
      · next hhigh => omega
      · next hhigh =>
          have hexact : (Int64.ofInt (a.toInt + b.toInt)).toInt = a.toInt + b.toInt :=
            Int64.toInt_ofInt_of_le (by omega) (by omega)
          omega

end StsDelegate
