import StsDelegate.Lib.Decimal
import Mathlib.Algebra.GroupWithZero.Nat

/-!
# Sizes of JSON texts

How many octets the compact form of a JSON value takes: no blanks, and in strings
nothing is escaped that need not be. Values are given by their sizes, so a record
that is written as an object is measured member by member.
-/

namespace JsonSize

open Text

/-- A character of a string. Quotes, backslashes and five control characters have short
escapes, the other control characters are written as `\u` and four digits. -/
def char (c : Char) : Nat :=
  if c = '"' ∨ c = '\\' then 2
  else if c.toNat = 8 ∨ c.toNat = 9 ∨ c.toNat = 10 ∨ c.toNat = 12 ∨ c.toNat = 13 then 2
  else if c.toNat < 32 then 6
  else c.utf8Size

/-- A string, with its quotes. -/
def text (s : String) : Nat := 2 + (s.toList.map char).sum

/-- An integer. -/
def integer (n : Int64) : Nat := (Decimal.displayI64 n).toList.length

/-- Values one after another, with commas between them. -/
def items : List Nat → Nat
  | [] => 0
  | [size] => size
  | size :: rest => size + 1 + items rest

def array (sizes : List Nat) : Nat := 2 + items sizes

/-- An object, given the names of its members and the sizes of their values. -/
def object (members : List (String × Nat)) : Nat :=
  2 + items (members.map fun member => text member.1 + 1 + member.2)

/-- A member that may be absent. -/
def optional {α : Type} (name : String) (size : α → Nat) (value : Option α) : List (String × Nat) :=
  (value.map fun a => (name, size a)).toList

end JsonSize
