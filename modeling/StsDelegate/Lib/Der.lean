import StsDelegate.Lib.BigEndian

/-!
# Tagged octets

The outer layer of DER: items of a tag, a length and a content, one after another, and the
contents of integers. A length is one octet below 128 and its own octets after their number
otherwise. The octet 255, which DER reserves, starts the lengths whose number of octets
does not fit, so that every content can be written.
-/

namespace Der

open BigEndian

/-! ### Lengths -/

def encodeLength (n : Nat) : List UInt8 :=
  if n < 128 then [UInt8.ofNat n]
  else if (toBytesBE n).length < 127 then
    UInt8.ofNat (128 + (toBytesBE n).length) :: toBytesBE n
  else 255 :: (List.replicate n 0 ++ [1])

/-- The length at the start of the octets, and what comes after it. -/
def decodeLength : List UInt8 → Option (Nat × List UInt8)
  | [] => none
  | first :: rest =>
      if first.toNat < 128 then some (first.toNat, rest)
      else if first = 255 then
        some ((rest.takeWhile (· == 0)).length, (rest.dropWhile (· == 0)).tail)
      else if rest.length < first.toNat - 128 then none
      else some (fromBytesBE (rest.take (first.toNat - 128)), rest.drop (first.toNat - 128))

/-- A length is read back. -/
theorem decodeLength_encodeLength (n : Nat) (rest : List UInt8) :
    decodeLength (encodeLength n ++ rest) = some (n, rest) := by
  unfold encodeLength
  by_cases hshort : n < 128
  · have hoctet : (UInt8.ofNat n).toNat = n := UInt8.toNat_ofNat_of_lt' (show n < 256 by omega)
    rw [if_pos hshort, List.singleton_append, decodeLength, hoctet, if_pos hshort]
  · rw [if_neg hshort]
    by_cases hlong : (toBytesBE n).length < 127
    · have hoctet : (UInt8.ofNat (128 + (toBytesBE n).length)).toNat = 128 + (toBytesBE n).length :=
        UInt8.toNat_ofNat_of_lt' (show 128 + (toBytesBE n).length < 256 by omega)
      have hnot : UInt8.ofNat (128 + (toBytesBE n).length) ≠ 255 := by
        intro heq
        have hvalue := congrArg UInt8.toNat heq
        rw [hoctet] at hvalue
        simp at hvalue
        omega
      rw [if_pos hlong, List.cons_append, decodeLength, hoctet, if_neg (by omega), if_neg hnot,
        if_neg (by simp), Nat.add_sub_cancel_left, List.take_left, List.drop_left,
        fromBytesBE_toBytesBE]
    · rw [if_neg hlong, List.cons_append, decodeLength, if_neg (by decide), if_pos rfl,
        List.append_assoc]
      simp

/-! ### Items -/

def encodeItem (item : UInt8 × List UInt8) : List UInt8 :=
  item.1 :: encodeLength item.2.length ++ item.2

/-- An item that was read: where it and its content start, and what it is. -/
structure Item where
  offset : Nat
  start : Nat
  tag : UInt8
  content : List UInt8

/-- The tag and the content. -/
def Item.body (item : Item) : UInt8 × List UInt8 := (item.tag, item.content)

def decodeItem : List UInt8 → Option ((UInt8 × List UInt8) × List UInt8)
  | [] => none
  | tag :: rest => do
      let (length, rest) ← decodeLength rest
      if rest.length < length then none
      else some ((tag, rest.take length), rest.drop length)

theorem decodeItem_encodeItem (item : UInt8 × List UInt8) (rest : List UInt8) :
    decodeItem (encodeItem item ++ rest) = some (item, rest) := by
  have hfits : ¬ (item.2 ++ rest).length < item.2.length := by
    rw [List.length_append]
    omega
  simp only [encodeItem, List.cons_append, List.append_assoc, decodeItem,
    decodeLength_encodeLength, Option.bind_eq_bind, Option.bind_some, if_neg hfits,
    List.take_left, List.drop_left]

/-- All the items in some octets, with at most this many. -/
def readItems : Nat → Nat → List UInt8 → Option (List Item)
  | _, _, [] => some []
  | 0, _, _ :: _ => none
  | fuel + 1, offset, first :: more => do
      let (body, rest) ← decodeItem (first :: more)
      let stop := offset + (more.length + 1 - rest.length)
      let items ← readItems fuel stop rest
      some (⟨offset, stop - body.2.length, body.1, body.2⟩ :: items)

/-- Items are read back. -/
theorem readItems_flatMap (items : List (UInt8 × List UInt8)) {fuel : Nat}
    (hfuel : items.length ≤ fuel) (offset : Nat) :
    ∃ read, readItems fuel offset (items.flatMap encodeItem) = some read ∧
      read.map Item.body = items := by
  induction items generalizing fuel offset with
  | nil => exact ⟨[], by cases fuel <;> rfl, rfl⟩
  | cons item items ih =>
      cases fuel with
      | zero => simp at hfuel
      | succ fuel =>
          have hdecode := decodeItem_encodeItem item (items.flatMap encodeItem)
          rw [List.flatMap_cons]
          rw [encodeItem, List.cons_append, List.cons_append] at hdecode ⊢
          obtain ⟨read, hread, hbodies⟩ := ih (by simpa using hfuel)
            (offset + ((encodeLength item.2.length ++ item.2 ++ items.flatMap encodeItem).length +
              1 - (items.flatMap encodeItem).length))
          simp only [readItems, hdecode, Option.bind_eq_bind, Option.bind_some, hread]
          refine ⟨_, rfl, ?_⟩
          rw [List.map_cons, hbodies]
          rfl

theorem length_le_flatMap_encodeItem (items : List (UInt8 × List UInt8)) :
    items.length ≤ (items.flatMap encodeItem).length := by
  induction items with
  | nil => exact Nat.le_refl _
  | cons item items ih =>
      rw [List.flatMap_cons, List.length_append, List.length_cons, encodeItem, List.cons_append,
        List.length_cons]
      omega

/-! ### Integers -/

/-- The content of a natural number: a zero comes first where the highest bit is set. -/
def encodeNat (n : Nat) : List UInt8 :=
  if (toBytesBE n).head?.any (128 ≤ ·.toNat) then 0 :: toBytesBE n else toBytesBE n

/-- The integer of a content, in two's complement. -/
def decodeInteger : List UInt8 → Option Int
  | [] => none
  | first :: rest =>
      if first.toNat < 128 then some (fromBytesBE (first :: rest))
      else some (fromBytesBE (first :: rest) - (256 : Int) ^ (rest.length + 1))

theorem toBytesBE_ne_nil (n : Nat) : toBytesBE n ≠ [] := by
  rcases Nat.eq_zero_or_pos n with hzero | hpos
  · rw [hzero]
    exact List.cons_ne_nil _ _
  · obtain ⟨first, rest, heq, -⟩ := toBytesBE_eq_cons hpos
    rw [heq]
    exact List.cons_ne_nil _ _

/-- A natural number is read back. -/
theorem decodeInteger_encodeNat (n : Nat) : decodeInteger (encodeNat n) = some (n : Int) := by
  obtain ⟨first, rest, heq⟩ := List.exists_cons_of_ne_nil (toBytesBE_ne_nil n)
  have hvalue : fromBytesBE (first :: rest) = n := by
    rw [← heq, fromBytesBE_toBytesBE]
  unfold encodeNat
  rw [heq]
  by_cases hhigh : 128 ≤ first.toNat
  · have hpadded : fromBytesBE (0 :: first :: rest) = n := by
      rw [fromBytesBE_cons, hvalue]
      simp
    rw [if_pos (by simpa using hhigh), decodeInteger, if_pos (by decide), hpadded]
  · rw [if_neg (by simpa using hhigh), decodeInteger, if_pos (by omega), hvalue]

end Der
