import Mathlib.Data.Nat.Digits.Defs
import Mathlib.Data.Nat.Digits.Lemmas
import Mathlib.Data.Nat.Size

/-!
# Unsigned numbers as octets

The most significant octet comes first. Any octets stand for a number, and leading zeros do
not change it; a number is written without them.
-/

namespace BigEndian

/-- The number that octets stand for. -/
def fromBytesBE (bytes : List UInt8) : Nat := bytes.foldl (fun n byte => n * 256 + byte.toNat) 0

/-- The shortest octets for a number; zero has one. -/
def toBytesBE (n : Nat) : List UInt8 :=
  if n = 0 then [0] else ((Nat.digits 256 n).map UInt8.ofNat).reverse

/-! ### Reading -/

theorem foldl_eq (bytes : List UInt8) (n : Nat) :
    bytes.foldl (fun n byte => n * 256 + byte.toNat) n =
      n * 256 ^ bytes.length + fromBytesBE bytes := by
  induction bytes generalizing n with
  | nil => simp [fromBytesBE]
  | cons byte rest ih =>
      rw [fromBytesBE, List.foldl_cons, List.foldl_cons, ih, ih (0 * 256 + byte.toNat),
        List.length_cons]
      ring

theorem fromBytesBE_cons (byte : UInt8) (rest : List UInt8) :
    fromBytesBE (byte :: rest) = byte.toNat * 256 ^ rest.length + fromBytesBE rest := by
  rw [fromBytesBE, List.foldl_cons, foldl_eq, Nat.zero_mul, Nat.zero_add]

theorem fromBytesBE_append (bytes rest : List UInt8) :
    fromBytesBE (bytes ++ rest) = fromBytesBE bytes * 256 ^ rest.length + fromBytesBE rest := by
  show (bytes ++ rest).foldl (fun n byte => n * 256 + byte.toNat) 0 = _
  rw [List.foldl_append, foldl_eq]
  rfl

theorem fromBytesBE_lt (bytes : List UInt8) : fromBytesBE bytes < 256 ^ bytes.length := by
  induction bytes with
  | nil => exact Nat.one_pos
  | cons byte rest ih =>
      have hbyte : byte.toNat + 1 ≤ 256 := byte.toNat_lt
      rw [fromBytesBE_cons, List.length_cons]
      calc byte.toNat * 256 ^ rest.length + fromBytesBE rest
          < byte.toNat * 256 ^ rest.length + 256 ^ rest.length := Nat.add_lt_add_left ih _
        _ = (byte.toNat + 1) * 256 ^ rest.length := by ring
        _ ≤ 256 * 256 ^ rest.length := Nat.mul_le_mul_right _ hbyte
        _ = 256 ^ (rest.length + 1) := by ring

/-- Leading zeros do not count. -/
theorem fromBytesBE_dropWhile (bytes : List UInt8) :
    fromBytesBE (bytes.dropWhile (· == 0)) = fromBytesBE bytes := by
  induction bytes with
  | nil => rfl
  | cons byte rest ih =>
      by_cases hzero : byte = 0
      · subst hzero
        rw [List.dropWhile_cons_of_pos (by simp), ih, fromBytesBE_cons]
        simp
      · rw [List.dropWhile_cons_of_neg (by simpa using hzero)]

/-- The size in bits, from the first octet that is not zero. -/
theorem size_fromBytesBE_cons {first : UInt8} (hfirst : first ≠ 0) (rest : List UInt8) :
    (fromBytesBE (first :: rest)).size = rest.length * 8 + (first.toNat.log2 + 1) := by
  have hne : first.toNat ≠ 0 := fun h => hfirst (UInt8.toNat_inj.mp h)
  have hpow : (2 : Nat) ^ (rest.length * 8) = 256 ^ rest.length := by
    rw [Nat.mul_comm, Nat.pow_mul]
  have hlow : 2 ^ first.toNat.log2 ≤ first.toNat := Nat.log2_self_le hne
  have hhigh : first.toNat + 1 ≤ 2 ^ (first.toNat.log2 + 1) := Nat.lt_log2_self
  have hrest := fromBytesBE_lt rest
  have hvalue := fromBytesBE_cons first rest
  refine le_antisymm (Nat.size_le.mpr ?_) (Nat.lt_size.mpr ?_)
  · calc fromBytesBE (first :: rest)
        < (first.toNat + 1) * 256 ^ rest.length := by rw [hvalue, Nat.add_mul]; omega
      _ ≤ 2 ^ (first.toNat.log2 + 1) * 256 ^ rest.length := Nat.mul_le_mul_right _ hhigh
      _ = 2 ^ (rest.length * 8 + (first.toNat.log2 + 1)) := by rw [← hpow, ← Nat.pow_add]; ring_nf
  · calc 2 ^ (rest.length * 8 + first.toNat.log2)
        = 2 ^ first.toNat.log2 * 256 ^ rest.length := by rw [← hpow, ← Nat.pow_add]; ring_nf
      _ ≤ first.toNat * 256 ^ rest.length := Nat.mul_le_mul_right _ hlow
      _ ≤ fromBytesBE (first :: rest) := by rw [hvalue]; exact Nat.le_add_right _ _

/-! ### Writing -/

theorem fromBytesBE_eq_ofDigits (bytes : List UInt8) :
    fromBytesBE bytes.reverse = Nat.ofDigits 256 (bytes.map UInt8.toNat) := by
  induction bytes with
  | nil => rfl
  | cons byte rest ih =>
      rw [List.reverse_cons, fromBytesBE_append, ih, List.map_cons, Nat.ofDigits_cons,
        fromBytesBE_cons]
      simp [fromBytesBE, Nat.mul_comm, Nat.add_comm]

/-- Octets that do not start with zero are the digits of their number. -/
theorem digits_fromBytesBE {bytes : List UInt8} (h : bytes.head? ≠ some 0) :
    Nat.digits 256 (fromBytesBE bytes) = bytes.reverse.map UInt8.toNat := by
  have hvalue := fromBytesBE_eq_ofDigits bytes.reverse
  rw [List.reverse_reverse] at hvalue
  rw [hvalue]
  refine Nat.digits_ofDigits 256 (by decide) _ (fun digit hdigit => ?_) fun hne hlast => h ?_
  · obtain ⟨byte, -, rfl⟩ := List.mem_map.mp hdigit
    exact byte.toNat_lt
  · have hlast' := List.getLast?_eq_some_getLast hne
    rw [hlast, List.getLast?_map, List.getLast?_reverse, Option.map_eq_some_iff] at hlast'
    obtain ⟨first, hfirst, hzero⟩ := hlast'
    rw [hfirst, UInt8.toNat_inj.mp (hzero.trans UInt8.toNat_zero.symm)]

/-- They are the only ones of that number. -/
theorem fromBytesBE_inj {bytes bytes' : List UInt8} (h : bytes.head? ≠ some 0)
    (h' : bytes'.head? ≠ some 0) (heq : fromBytesBE bytes = fromBytesBE bytes') :
    bytes = bytes' := by
  have hdigits := digits_fromBytesBE h
  rw [heq, digits_fromBytesBE h'] at hdigits
  have hinjective : Function.Injective UInt8.toNat := fun _ _ => UInt8.toNat_inj.mp
  exact (List.reverse_injective (hinjective.list_map hdigits)).symm

/-- A number is read back. -/
theorem fromBytesBE_toBytesBE (n : Nat) : fromBytesBE (toBytesBE n) = n := by
  unfold toBytesBE
  split
  · next hzero => rw [hzero]; rfl
  · have hdigits : ((Nat.digits 256 n).map UInt8.ofNat).map UInt8.toNat = Nat.digits 256 n := by
      rw [List.map_map]
      conv_rhs => rw [← List.map_id (Nat.digits 256 n)]
      refine List.map_congr_left fun digit hdigit => ?_
      exact UInt8.toNat_ofNat_of_lt' (Nat.digits_lt_base (by decide) hdigit)
    rw [fromBytesBE_eq_ofDigits, hdigits, Nat.ofDigits_digits]

/-- A positive number starts with an octet that is not zero. -/
theorem toBytesBE_eq_cons {n : Nat} (h : 0 < n) :
    ∃ first rest, toBytesBE n = first :: rest ∧ first ≠ 0 := by
  have hne : Nat.digits 256 n ≠ [] := Nat.digits_ne_nil_iff_ne_zero.mpr h.ne'
  have hlast : (Nat.digits 256 n).getLast hne ≠ 0 := Nat.getLast_digit_ne_zero 256 h.ne'
  have hlt : (Nat.digits 256 n).getLast hne < 256 :=
    Nat.digits_lt_base (by decide) (List.getLast_mem hne)
  refine ⟨UInt8.ofNat ((Nat.digits 256 n).getLast hne),
    ((Nat.digits 256 n).dropLast.map UInt8.ofNat).reverse, ?_, fun hzero => hlast ?_⟩
  · rw [toBytesBE, if_neg h.ne']
    conv_lhs => rw [← List.dropLast_append_getLast hne]
    rw [List.map_append, List.reverse_append]
    rfl
  · rw [← UInt8.toNat_ofNat_of_lt' hlt, hzero]
    rfl

end BigEndian
