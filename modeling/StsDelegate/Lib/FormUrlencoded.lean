import StsDelegate.Lib.Text

/-!
# Form bodies

`application/x-www-form-urlencoded`: names and values are written octet by octet, a pair is
joined by `=`, and the pairs by `&`. The reader splits in the same places and is lenient: it
skips empty pieces, takes a piece without `=` for a name alone, and leaves a percent sign
that no two digits follow as it is.

What comes out of the octets of a name or value is a text; how octets that are no UTF-8 are
replaced is a parameter of the reader. `parse_serialize` says that what was written is read.
-/

namespace StsDelegate.FormUrlencoded

open Text

/-! ### Writing -/

/-- Octets that stand for themselves: letters, digits, and `*`, `-`, `.`, `_`. -/
def unreserved (b : UInt8) : Bool :=
  (0x30 ≤ b && b ≤ 0x39) || (0x41 ≤ b && b ≤ 0x5a) || (0x61 ≤ b && b ≤ 0x7a) ||
    b == 0x2a || b == 0x2d || b == 0x2e || b == 0x5f

/-- One upper case hexadecimal digit. -/
def hexUpper (n : UInt8) : UInt8 := if n < 10 then 0x30 + n else 0x37 + n

def encodeOctet (b : UInt8) : Bytes :=
  if unreserved b then [b] else if b = 0x20 then [0x2b] else [0x25, hexUpper (b / 16), hexUpper (b % 16)]

def encode (bytes : Bytes) : Bytes := bytes.flatMap encodeOctet

def encodePair (pair : String × String) : Bytes :=
  encode (asBytes pair.1) ++ 0x3d :: encode (asBytes pair.2)

/-- Write the pairs. -/
def serialize (pairs : List (String × String)) : Bytes := [0x26].intercalate (pairs.map encodePair)

/-! ### Reading -/

def hexValue (b : UInt8) : Option UInt8 :=
  if 0x30 ≤ b && b ≤ 0x39 then some (b - 0x30)
  else if 0x41 ≤ b && b ≤ 0x46 then some (b - 0x37)
  else if 0x61 ≤ b && b ≤ 0x66 then some (b - 0x57)
  else none

/-- The octet that the two digits in front stand for. -/
def escaped : Bytes → Option UInt8
  | hi :: lo :: _ => do
      let high ← hexValue hi
      let low ← hexValue lo
      pure (high * 16 + low)
  | _ => none

def percentDecode : Bytes → Bytes
  | [] => []
  | b :: rest =>
      if b = 0x25 then
        match escaped rest with
        | some value => value :: percentDecode (rest.drop 2)
        | none => b :: percentDecode rest
      else b :: percentDecode rest
termination_by bytes => bytes.length

/-- A plus sign is a space. -/
def plusToSpace (b : UInt8) : UInt8 := if b = 0x2b then 0x20 else b

def decode (lossy : Bytes → String) (bytes : Bytes) : String :=
  lossy (percentDecode (bytes.map plusToSpace))

/-- Split at the first `=`. -/
def parsePair (lossy : Bytes → String) (piece : Bytes) : String × String :=
  (decode lossy (piece.takeWhile (· != 0x3d)), decode lossy ((piece.dropWhile (· != 0x3d)).drop 1))

/-- Read the pairs. -/
def parse (lossy : Bytes → String) (bytes : Bytes) : List (String × String) :=
  ((bytes.splitOn 0x26).filter fun piece => !piece.isEmpty).map (parsePair lossy)

/-! ### The round trip -/

/-- What is said of every octet can be looked up. -/
theorem forall_octet {P : UInt8 → Prop} (h : ∀ n : Fin 256, P (UInt8.ofNat n)) (b : UInt8) : P b := by
  have hb := h ⟨b.toNat, b.toNat_lt⟩
  rwa [UInt8.ofNat_toNat] at hb

/-- No octet is written with one of the signs that split a body. -/
theorem not_mem_encodeOctet (b : UInt8) : (0x26 : UInt8) ∉ encodeOctet b ∧ (0x3d : UInt8) ∉ encodeOctet b :=
  forall_octet (P := fun b => (0x26 : UInt8) ∉ encodeOctet b ∧ (0x3d : UInt8) ∉ encodeOctet b)
    (by decide +kernel) b

theorem not_mem_encode {c : UInt8} (h : c = 0x26 ∨ c = 0x3d) (bytes : Bytes) : c ∉ encode bytes := by
  intro hmem
  obtain ⟨b, -, hb⟩ := List.mem_flatMap.mp hmem
  rcases h with rfl | rfl
  · exact (not_mem_encodeOctet b).1 hb
  · exact (not_mem_encodeOctet b).2 hb

/-- The digits of an octet are its digits. -/
theorem hexValue_hexUpper (b : UInt8) :
    hexValue (hexUpper (b / 16)) = some (b / 16) ∧ hexValue (hexUpper (b % 16)) = some (b % 16) ∧
      b / 16 * 16 + b % 16 = b ∧ plusToSpace (hexUpper (b / 16)) = hexUpper (b / 16) ∧
      plusToSpace (hexUpper (b % 16)) = hexUpper (b % 16) :=
  forall_octet (P := fun b => hexValue (hexUpper (b / 16)) = some (b / 16) ∧
    hexValue (hexUpper (b % 16)) = some (b % 16) ∧ b / 16 * 16 + b % 16 = b ∧
    plusToSpace (hexUpper (b / 16)) = hexUpper (b / 16) ∧
    plusToSpace (hexUpper (b % 16)) = hexUpper (b % 16)) (by decide +kernel) b

theorem percentDecode_cons_of_ne {b : UInt8} (h : b ≠ 0x25) (rest : Bytes) :
    percentDecode (b :: rest) = b :: percentDecode rest := by
  rw [percentDecode, if_neg h]

theorem percentDecode_escaped (b : UInt8) (rest : Bytes) :
    percentDecode (0x25 :: hexUpper (b / 16) :: hexUpper (b % 16) :: rest) =
      b :: percentDecode rest := by
  obtain ⟨hhigh, hlow, hvalue, -, -⟩ := hexValue_hexUpper b
  have hescaped : escaped (hexUpper (b / 16) :: hexUpper (b % 16) :: rest) = some b := by
    simp [escaped, hhigh, hlow, hvalue]
  rw [percentDecode, if_pos rfl, hescaped]
  rfl

theorem percentDecode_encodeOctet (b : UInt8) (rest : Bytes) :
    percentDecode ((encodeOctet b).map plusToSpace ++ rest) = b :: percentDecode rest := by
  have hplain : unreserved b = true → b ≠ 0x25 ∧ plusToSpace b = b :=
    forall_octet (P := fun b => unreserved b = true → b ≠ 0x25 ∧ plusToSpace b = b)
      (by decide +kernel) b
  unfold encodeOctet
  by_cases hunreserved : unreserved b = true
  · obtain ⟨hne, hplus⟩ := hplain hunreserved
    rw [if_pos hunreserved, List.map_singleton, hplus]
    exact percentDecode_cons_of_ne hne rest
  · rw [if_neg hunreserved]
    by_cases hspace : b = 0x20
    · subst hspace
      exact percentDecode_cons_of_ne (by decide) rest
    · obtain ⟨-, -, -, hhigh, hlow⟩ := hexValue_hexUpper b
      rw [if_neg hspace, List.map_cons, List.map_cons, List.map_singleton, hhigh, hlow]
      exact percentDecode_escaped b rest

theorem percentDecode_encode (bytes : Bytes) : percentDecode ((encode bytes).map plusToSpace) = bytes := by
  induction bytes with
  | nil => rw [encode, List.flatMap_nil, List.map_nil, percentDecode]
  | cons b bytes ih =>
      rw [encode, List.flatMap_cons, List.map_append, percentDecode_encodeOctet, ← encode, ih]

variable {lossy : Bytes → String}

theorem decode_encode (h : ∀ s, lossy (asBytes s) = s) (s : String) :
    decode lossy (encode (asBytes s)) = s := by
  rw [decode, percentDecode_encode, h]

theorem parsePair_encodePair (h : ∀ s, lossy (asBytes s) = s) (pair : String × String) :
    parsePair lossy (encodePair pair) = pair := by
  have hname : ∀ b ∈ encode (asBytes pair.1), (b != 0x3d) = true := by
    intro b hb
    rw [bne_iff_ne]
    rintro rfl
    exact not_mem_encode (.inr rfl) _ hb
  rw [parsePair, encodePair, List.takeWhile_append_of_pos hname, List.dropWhile_append_of_pos hname,
    List.takeWhile_cons_of_neg (by decide), List.dropWhile_cons_of_neg (by decide), List.append_nil,
    List.drop_one, List.tail_cons, decode_encode h, decode_encode h]

/-- **Round trip**: what was written is read. -/
theorem parse_serialize (h : ∀ s, lossy (asBytes s) = s) (pairs : List (String × String)) :
    parse lossy (serialize pairs) = pairs := by
  have hpieces : ∀ piece ∈ pairs.map encodePair, (0x26 : UInt8) ∉ piece ∧ piece ≠ [] := by
    intro piece hpiece
    obtain ⟨pair, -, rfl⟩ := List.mem_map.mp hpiece
    refine ⟨fun hmem => ?_, by simp [encodePair]⟩
    rcases List.mem_append.mp hmem with hname | hvalue
    · exact not_mem_encode (.inl rfl) _ hname
    · rcases List.mem_cons.mp hvalue with heq | hvalue
      · exact absurd heq (by decide)
      · exact not_mem_encode (.inl rfl) _ hvalue
  cases pairs with
  | nil => rfl
  | cons pair rest =>
      have hkept : ((pair :: rest).map encodePair).filter (fun piece => !piece.isEmpty) =
          (pair :: rest).map encodePair :=
        List.filter_eq_self.mpr fun piece hpiece => by simpa using (hpieces piece hpiece).2
      rw [parse, serialize, List.splitOn_intercalate _ (fun piece hpiece => (hpieces piece hpiece).1)
        (by simp), hkept, List.map_map]
      refine List.map_id'' (fun pair => ?_) _
      exact parsePair_encodePair h pair

end StsDelegate.FormUrlencoded
