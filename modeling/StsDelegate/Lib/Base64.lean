import StsDelegate.Lib.Text

/-!
# Base64url without padding

The URL-safe base64 alphabet of RFC 4648 §5 with the padding left out, as JWS
uses it: three octets make four digits, and a tail of one or two octets makes
two or three digits whose unused low bits are zero. Decoding refuses every
character outside the alphabet, a tail of one digit and a tail whose unused bits
are not zero, so every text decodes to at most one octet string and
`decode_encode` is the round trip.
-/

namespace Base64

open Text

/-- The digit with value `n`, for `n < 64`. -/
def digit (n : Nat) : Char :=
  if n < 26 then Char.ofNat (65 + n)
  else if n < 52 then Char.ofNat (71 + n)
  else if n < 62 then Char.ofNat (n - 4)
  else if n = 62 then '-'
  else '_'

/-- The value of a digit; `none` outside the alphabet. -/
def value (c : Char) : Option Nat :=
  if 65 ≤ c.toNat ∧ c.toNat ≤ 90 then some (c.toNat - 65)
  else if 97 ≤ c.toNat ∧ c.toNat ≤ 122 then some (c.toNat - 71)
  else if 48 ≤ c.toNat ∧ c.toNat ≤ 57 then some (c.toNat + 4)
  else if c = '-' then some 62
  else if c = '_' then some 63
  else none

theorem value_digit {n : Nat} (h : n < 64) : value (digit n) = some n := by
  have key : ∀ i : Fin 64, value (digit i) = some i.val := by decide
  exact key ⟨n, h⟩

theorem digit_ne_dot {n : Nat} (h : n < 64) : digit n ≠ '.' := by
  have key : ∀ i : Fin 64, digit i ≠ '.' := by decide
  exact key ⟨n, h⟩

/-- The digits of an octet string. -/
def encodeChars : Bytes → List Char
  | [] => []
  | [a] => [digit (a.toNat / 4), digit (a.toNat % 4 * 16)]
  | [a, b] =>
      [digit (a.toNat / 4), digit (a.toNat % 4 * 16 + b.toNat / 16), digit (b.toNat % 16 * 4)]
  | a :: b :: c :: rest =>
      digit (a.toNat / 4) :: digit (a.toNat % 4 * 16 + b.toNat / 16) ::
        digit (b.toNat % 16 * 4 + c.toNat / 64) :: digit (c.toNat % 64) :: encodeChars rest

/-- The octets of a digit string, if it is one. -/
def decodeChars : List Char → Option Bytes
  | [] => some []
  | [_] => none
  | [w, x] => do
      let w ← value w
      let x ← value x
      if x % 16 = 0 then some [UInt8.ofNat (w * 4 + x / 16)] else none
  | [w, x, y] => do
      let w ← value w
      let x ← value x
      let y ← value y
      if y % 4 = 0 then
        some [UInt8.ofNat (w * 4 + x / 16), UInt8.ofNat (x % 16 * 16 + y / 4)]
      else none
  | w :: x :: y :: z :: rest => do
      let w ← value w
      let x ← value x
      let y ← value y
      let z ← value z
      let tail ← decodeChars rest
      some (UInt8.ofNat (w * 4 + x / 16) :: UInt8.ofNat (x % 16 * 16 + y / 4) ::
        UInt8.ofNat (y % 4 * 64 + z) :: tail)

/-- `URL_SAFE_NO_PAD.encode`. -/
def encode (bytes : Bytes) : String := String.ofList (encodeChars bytes)

/-- `URL_SAFE_NO_PAD.decode`. -/
def decode (s : String) : Option Bytes := decodeChars s.toList

/-- An octet is found again from any number that agrees with it. -/
theorem ofNat_eq {a : UInt8} {n : Nat} (h : n = a.toNat) : UInt8.ofNat n = a := by
  rw [h]
  exact UInt8.ofNat_toNat

theorem decodeChars_encodeChars (bytes : Bytes) : decodeChars (encodeChars bytes) = some bytes := by
  induction bytes using encodeChars.induct with
  | case1 => rfl
  | case2 a =>
      have ha := a.toNat_lt
      rw [encodeChars, decodeChars, value_digit (by omega), value_digit (by omega)]
      simp only [Option.bind_eq_bind, Option.bind_some]
      rw [if_pos (by omega), ofNat_eq (a := a) (by omega)]
  | case3 a b =>
      have ha := a.toNat_lt
      have hb := b.toNat_lt
      rw [encodeChars, decodeChars, value_digit (by omega), value_digit (by omega),
        value_digit (by omega)]
      simp only [Option.bind_eq_bind, Option.bind_some]
      rw [if_pos (by omega), ofNat_eq (a := a) (by omega), ofNat_eq (a := b) (by omega)]
  | case4 a b c rest ih =>
      have ha := a.toNat_lt
      have hb := b.toNat_lt
      have hc := c.toNat_lt
      rw [encodeChars, decodeChars, value_digit (by omega), value_digit (by omega),
        value_digit (by omega), value_digit (by omega), ih]
      simp only [Option.bind_eq_bind, Option.bind_some]
      rw [ofNat_eq (a := a) (by omega), ofNat_eq (a := b) (by omega), ofNat_eq (a := c) (by omega)]

/-- Decoding undoes encoding. -/
@[simp] theorem decode_encode (bytes : Bytes) : decode (encode bytes) = some bytes := by
  rw [decode, encode, String.toList_ofList, decodeChars_encodeChars]

/-- Octets are written as some text. -/
theorem encode_ne_empty {bytes : Bytes} (h : bytes ≠ []) : encode bytes ≠ "" := by
  intro hempty
  have hdecode := decode_encode bytes
  have hnil : encode [] = "" := rfl
  rw [hempty, ← hnil, decode_encode] at hdecode
  exact h (Option.some.inj hdecode).symm

/-- Encoding writes nothing but digits. -/
theorem mem_encodeChars {bytes : Bytes} {c : Char} (h : c ∈ encodeChars bytes) :
    ∃ n, n < 64 ∧ c = digit n := by
  induction bytes using encodeChars.induct with
  | case1 => simp [encodeChars] at h
  | case2 a =>
      have ha := a.toNat_lt
      simp only [encodeChars, List.mem_cons, List.not_mem_nil, or_false] at h
      rcases h with rfl | rfl
      · exact ⟨_, by omega, rfl⟩
      · exact ⟨_, by omega, rfl⟩
  | case3 a b =>
      have ha := a.toNat_lt
      have hb := b.toNat_lt
      simp only [encodeChars, List.mem_cons, List.not_mem_nil, or_false] at h
      rcases h with rfl | rfl | rfl
      · exact ⟨_, by omega, rfl⟩
      · exact ⟨_, by omega, rfl⟩
      · exact ⟨_, by omega, rfl⟩
  | case4 a b c rest ih =>
      have ha := a.toNat_lt
      have hb := b.toNat_lt
      have hc := c.toNat_lt
      simp only [encodeChars, List.mem_cons] at h
      rcases h with rfl | rfl | rfl | rfl | h
      · exact ⟨_, by omega, rfl⟩
      · exact ⟨_, by omega, rfl⟩
      · exact ⟨_, by omega, rfl⟩
      · exact ⟨_, by omega, rfl⟩
      · exact ih h

/-- The dot that separates the segments of a compact token is not a digit. -/
theorem dot_not_mem_encode (bytes : Bytes) : '.' ∉ (encode bytes).toList := by
  intro h
  rw [encode, String.toList_ofList] at h
  obtain ⟨n, hn, heq⟩ := mem_encodeChars h
  exact digit_ne_dot hn heq.symm

/-! ### Lengths -/

/-- How many digits stand for so many octets. -/
def encodedLen (n : Nat) : Nat := (4 * n + 2) / 3

theorem length_encodeChars (bytes : Bytes) : (encodeChars bytes).length = encodedLen bytes.length := by
  induction bytes using encodeChars.induct with
  | case1 => rfl
  | case2 a => simp [encodeChars, encodedLen]
  | case3 a b => simp [encodeChars, encodedLen]
  | case4 a b c rest ih =>
      simp only [encodeChars, List.length_cons, ih, encodedLen]
      omega

theorem utf8Size_digit {n : Nat} (h : n < 64) : (digit n).utf8Size = 1 := by
  have key : ∀ i : Fin 64, (digit i).utf8Size = 1 := by decide
  exact key ⟨n, h⟩

/-- Digits are single octets. -/
@[simp] theorem len_encode (bytes : Bytes) : len (encode bytes) = encodedLen bytes.length := by
  have hdigits : ∀ cs : List Char, (∀ c ∈ cs, ∃ n, n < 64 ∧ c = digit n) →
      len (String.ofList cs) = cs.length := by
    intro cs hcs
    induction cs with
    | nil => rfl
    | cons c cs ih =>
        obtain ⟨n, hn, hc⟩ := hcs c (List.mem_cons_self ..)
        have hrest := ih fun c' hmem => hcs c' (List.mem_cons_of_mem _ hmem)
        rw [len] at hrest
        rw [len, String.ofList_cons, String.utf8ByteSize_append, String.utf8ByteSize_singleton,
          hrest, hc, utf8Size_digit hn, List.length_cons, Nat.add_comm]
  rw [encode, hdigits _ fun c hc => mem_encodeChars hc, length_encodeChars]

end Base64
