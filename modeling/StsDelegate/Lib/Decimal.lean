import StsDelegate.Lib.Text
import Mathlib.Data.Int.Order.Basic

/-!
# Decimal numerals

How Rust writes a 64 bit integer (`{}`) and reads one (`str::parse::<i64>`). A
numeral is a non-empty run of decimal digits, with a sign in front where the
number is negative; reading refuses anything else, and numbers that do not fit.
`parseI64_displayI64` says that what was written is read back.
-/

namespace Decimal

open Text

/-- The digits of a number, the most significant one first. -/
def digitsOf : (fuel n : Nat) → List Nat
  | 0, _ => []
  | fuel + 1, n => if n < 10 then [n] else digitsOf fuel (n / 10) ++ [n % 10]

def digitChar (d : Nat) : Char := Char.ofNat (48 + d)

def displayNat (n : Nat) : List Char := (digitsOf (n + 1) n).map digitChar

/-- `{}` of an `i64`. -/
def displayI64 (n : Int64) : String :=
  String.ofList (if n.toInt < 0 then '-' :: displayNat n.toInt.natAbs
    else displayNat n.toInt.natAbs)

/-- The value of a decimal digit. -/
def digitValue (c : Char) : Option Nat :=
  if 48 ≤ c.toNat ∧ c.toNat < 58 then some (c.toNat - 48) else none

/-- Read digits, continuing a number already read. -/
def parseFrom (acc : Nat) : List Char → Option Nat
  | [] => some acc
  | c :: cs => (digitValue c).bind fun d => parseFrom (acc * 10 + d) cs

/-- Read a non-empty run of digits. -/
def parseNat (cs : List Char) : Option Nat := if cs = [] then none else parseFrom 0 cs

/-- `str::parse::<i64>`. -/
def parseI64 (s : String) : Option Int64 :=
  match s.toList with
  | '-' :: cs => (parseNat cs).bind fun n =>
      if n ≤ 2 ^ 63 then some (Int64.ofInt (-(n : Int))) else none
  | '+' :: cs => (parseNat cs).bind fun n =>
      if n < 2 ^ 63 then some (Int64.ofInt n) else none
  | cs => (parseNat cs).bind fun n =>
      if n < 2 ^ 63 then some (Int64.ofInt n) else none

/-- `str::parse::<usize>`, for words of 64 bits. -/
def parseUsize (s : String) : Option Nat :=
  match s.toList with
  | '+' :: cs => (parseNat cs).bind fun n => if n < 2 ^ 64 then some n else none
  | cs => (parseNat cs).bind fun n => if n < 2 ^ 64 then some n else none

/-! ### Reading back what was written -/

theorem mem_digitsOf {fuel n d : Nat} (h : d ∈ digitsOf fuel n) : d < 10 := by
  induction fuel generalizing n with
  | zero => cases h
  | succ fuel ih =>
      rw [digitsOf] at h
      split at h
      · next hlt =>
          rw [List.mem_singleton] at h
          omega
      · rcases List.mem_append.mp h with h | h
        · exact ih h
        · rw [List.mem_singleton] at h
          omega

theorem digitsOf_ne_nil (fuel n : Nat) : digitsOf (fuel + 1) n ≠ [] := by
  rw [digitsOf]
  split
  · exact List.cons_ne_nil _ _
  · exact List.append_ne_nil_of_right_ne_nil _ (List.cons_ne_nil _ _)

theorem digitValue_digitChar {d : Nat} (h : d < 10) : digitValue (digitChar d) = some d := by
  have key : ∀ i : Fin 10, digitValue (digitChar i) = some i.val := by decide
  exact key ⟨d, h⟩

theorem parseFrom_append (acc : Nat) (cs ds : List Char) :
    parseFrom acc (cs ++ ds) = (parseFrom acc cs).bind fun n => parseFrom n ds := by
  induction cs generalizing acc with
  | nil => rfl
  | cons c cs ih =>
      rw [List.cons_append, parseFrom, parseFrom]
      cases digitValue c with
      | none => rfl
      | some d => exact ih _

theorem parseFrom_digitsOf {fuel n : Nat} (h : n < fuel) :
    parseFrom 0 ((digitsOf fuel n).map digitChar) = some n := by
  induction fuel generalizing n with
  | zero => omega
  | succ fuel ih =>
      rw [digitsOf]
      split
      · next hlt => simp [parseFrom, digitValue_digitChar hlt]
      · next hge =>
          have hquot : n / 10 < fuel := by omega
          have hrem : n % 10 < 10 := Nat.mod_lt _ (by omega)
          rw [List.map_append, parseFrom_append, ih hquot, Option.bind_some]
          simp only [List.map_cons, List.map_nil, parseFrom, digitValue_digitChar hrem,
            Option.bind_some]
          congr 1
          omega

theorem displayNat_ne_nil (n : Nat) : displayNat n ≠ [] := by
  unfold displayNat
  rw [Ne, List.map_eq_nil_iff]
  exact digitsOf_ne_nil n n

theorem parseNat_displayNat (n : Nat) : parseNat (displayNat n) = some n := by
  rw [parseNat, if_neg (displayNat_ne_nil n)]
  exact parseFrom_digitsOf (Nat.lt_succ_self n)

/-- The characters of a numeral. -/
theorem mem_displayNat {n : Nat} {c : Char} (h : c ∈ displayNat n) :
    c ≠ '-' ∧ c ≠ '+' ∧ isWhitespace c = false := by
  obtain ⟨d, hd, rfl⟩ := List.mem_map.mp h
  have key : ∀ i : Fin 10, digitChar i ≠ '-' ∧ digitChar i ≠ '+' ∧
      isWhitespace (digitChar i) = false := by decide
  exact key ⟨d, mem_digitsOf hd⟩

theorem isDigit_of_mem_displayNat {n : Nat} {c : Char} (h : c ∈ displayNat n) :
    c.isDigit = true := by
  obtain ⟨d, hd, heq⟩ := List.mem_map.mp h
  have key : ∀ i : Fin 10, (digitChar i).isDigit = true := by decide
  exact heq ▸ key ⟨d, mem_digitsOf hd⟩

theorem toList_displayI64 (n : Int64) :
    (displayI64 n).toList = if n.toInt < 0 then '-' :: displayNat n.toInt.natAbs
      else displayNat n.toInt.natAbs := by
  rw [displayI64, String.toList_ofList]

/-- **A written integer is read back.** -/
theorem parseI64_displayI64 (n : Int64) : parseI64 (displayI64 n) = some n := by
  have hlow := n.le_toInt
  have hhigh := n.toInt_lt
  unfold parseI64
  rw [toList_displayI64]
  by_cases hneg : n.toInt < 0
  · rw [if_pos hneg]
    simp only [parseNat_displayNat, Option.bind_some]
    have hbound : n.toInt.natAbs ≤ 2 ^ 63 := by omega
    have hvalue : -(n.toInt.natAbs : Int) = n.toInt := by omega
    rw [if_pos hbound, hvalue, Int64.ofInt_toInt]
  · rw [if_neg hneg]
    have hbound : n.toInt.natAbs < 2 ^ 63 := by omega
    have hvalue : (n.toInt.natAbs : Int) = n.toInt := by omega
    cases hcs : displayNat n.toInt.natAbs with
    | nil => exact absurd hcs (displayNat_ne_nil _)
    | cons c cs =>
        have hfirst := mem_displayNat (n := n.toInt.natAbs) (c := c) (by rw [hcs]; simp)
        have hread := parseNat_displayNat n.toInt.natAbs
        rw [hcs] at hread
        split
        · next heq => exact absurd (List.cons.inj heq).1 hfirst.1
        · next heq => exact absurd (List.cons.inj heq).1 hfirst.2.1
        · rw [hread, Option.bind_some, if_pos hbound, hvalue, Int64.ofInt_toInt]

/-- A line with a numeral on it is the numeral, once it is trimmed. -/
theorem trim_displayI64_line (n : Int64) : trim (displayI64 n ++ "\n") = displayI64 n := by
  have hspaceless : ∀ c ∈ (displayI64 n).toList, isWhitespace c = false := by
    intro c hc
    rw [toList_displayI64] at hc
    split at hc
    · rcases List.mem_cons.mp hc with rfl | hc
      · decide
      · exact (mem_displayNat hc).2.2
    · exact (mem_displayNat hc).2.2
  have hne : (displayI64 n).toList ≠ [] := by
    rw [toList_displayI64]
    split
    · exact List.cons_ne_nil _ _
    · exact displayNat_ne_nil _
  have hline : (displayI64 n ++ "\n").toList = (displayI64 n).toList ++ ['\n'] := by
    simp
  rw [trim, hline]
  have hdrop : ((displayI64 n).toList ++ ['\n']).dropWhile isWhitespace =
      (displayI64 n).toList ++ ['\n'] := by
    cases hcs : (displayI64 n).toList with
    | nil => exact absurd hcs hne
    | cons c cs => simp [hspaceless c (by rw [hcs]; simp)]
  have hword : (displayI64 n).toList.rdropWhile isWhitespace = (displayI64 n).toList := by
    rw [List.rdropWhile_eq_self_iff]
    intro hl
    simp [hspaceless _ (List.getLast_mem hl)]
  rw [hdrop, List.rdropWhile_concat_pos _ _ _ (by decide), hword, String.ofList_toList]

end Decimal
