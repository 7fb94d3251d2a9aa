import StsDelegate.Lib.BigEndian
import StsDelegate.Overlap
import StsDelegate.NoConfusion
import StsDelegate.Sample.Keys

/-!
# The size of an RSA key, twice

`sts-jose` measures a modulus from its first octet that is not zero. The CLI's inspection
takes the first octet as it comes: a zero there counts for no bits, but the octets after it
all count for eight. That is right for no leading zero and, by luck, for a single one that
DER puts before a high bit; `reported_size_iff` says that it is wrong otherwise.
-/

namespace StsDelegate

open Text Fallible BigEndian

/-- The library's size is the size of the number. -/
theorem rsaModulusBits_eq_size (modulus : Bytes) :
    rsaModulusBits modulus = (fromBytesBE modulus).size := by
  rw [rsaModulusBits, ← fromBytesBE_dropWhile]
  cases hdrop : modulus.dropWhile (· == 0) with
  | nil => rfl
  | cons first rest =>
      have hfirst : first ≠ 0 := by
        have hne : modulus.dropWhile (· == 0) ≠ [] := by
          rw [hdrop]
          exact List.cons_ne_nil _ _
        have hhead := List.head_dropWhile_not (· == 0) hne
        simpa [hdrop] using hhead
      exact (size_fromBytesBE_cons hfirst rest).symm

/-- Octets whose size the first one tells. -/
def SizeReadable (modulus : Bytes) : Prop :=
  (∃ first rest, modulus = first :: rest ∧ first ≠ 0) ∨
    ∃ first rest, modulus = 0 :: first :: rest ∧ 128 ≤ first.toNat

/-- The CLI's size, from the first octet. -/
def reportedBits (modulus : Bytes) : Nat :=
  (modulus.length - 1) * 8 +
    match modulus.head? with
    | some 0 => 0
    | some first => first.toNat.log2 + 1
    | none => 0

theorem reportedBits_cons {first : UInt8} (h : first ≠ 0) (rest : Bytes) :
    reportedBits (first :: rest) = rest.length * 8 + (first.toNat.log2 + 1) := by
  -- `h` rules out the branch of a leading zero
  simp [reportedBits]

theorem reportedBits_zero_cons (rest : Bytes) : reportedBits (0 :: rest) = rest.length * 8 := by
  simp [reportedBits]

/-- An octet fills its eight bits from its highest one on. -/
theorem log2_eq_seven_iff (octet : UInt8) : octet.toNat.log2 = 7 ↔ 128 ≤ octet.toNat := by
  have hlt : octet.toNat < 256 := octet.toNat_lt
  constructor
  · intro heq
    by_contra hlow
    by_cases hzero : octet.toNat = 0
    · rw [hzero] at heq
      exact absurd heq (by decide)
    · have hsmall : octet.toNat.log2 < 7 := (Nat.log2_lt hzero).mpr (by omega)
      omega
  · intro hhigh
    have hle : 7 ≤ octet.toNat.log2 := (Nat.le_log2 (by omega)).mpr hhigh
    have hge : octet.toNat.log2 < 8 := (Nat.log2_lt (by omega)).mpr hlt
    omega

/-- Octets fill all their bits exactly when the first one does. -/
theorem size_eq_length_iff {bytes : Bytes} (hne : bytes ≠ []) :
    (fromBytesBE bytes).size = bytes.length * 8 ↔
      ∃ first rest, bytes = first :: rest ∧ 128 ≤ first.toNat := by
  cases bytes with
  | nil => exact absurd rfl hne
  | cons first rest =>
      have hhigh : (∃ head tail, first :: rest = head :: tail ∧ 128 ≤ head.toNat) ↔
          128 ≤ first.toNat := by simp
      rw [hhigh, List.length_cons]
      by_cases hfirst : first = 0
      · -- eight bits at least are missing
        subst hfirst
        have hsize : (fromBytesBE (0 :: rest)).size ≤ rest.length * 8 := by
          have hpow : (2 : Nat) ^ (rest.length * 8) = 256 ^ rest.length := by
            rw [Nat.mul_comm, Nat.pow_mul]
          rw [Nat.size_le, hpow, fromBytesBE_cons]
          simpa using fromBytesBE_lt rest
        constructor
        · intro heq
          omega
        · intro hzero
          exact absurd hzero (by decide)
      · rw [size_fromBytesBE_cons hfirst, ← log2_eq_seven_iff]
        omega

/-- They are the same size exactly for such octets. -/
theorem reportedBits_eq_size_iff {modulus : Bytes} (h : modulus.all (· == 0) = false) :
    reportedBits modulus = (fromBytesBE modulus).size ↔ SizeReadable modulus := by
  cases modulus with
  | nil => cases h
  | cons first rest =>
      by_cases hfirst : first = 0
      · subst hfirst
        have hne : rest ≠ [] := by
          intro hnil
          subst hnil
          exact absurd h (by decide)
        have hvalue : fromBytesBE (0 :: rest) = fromBytesBE rest := by
          simp [fromBytesBE_cons]
        rw [reportedBits_zero_cons, hvalue, eq_comm, size_eq_length_iff hne]
        constructor
        · intro ⟨next, tail, heq, hhigh⟩
          exact Or.inr ⟨next, tail, by rw [heq], hhigh⟩
        · intro hreadable
          rcases hreadable with ⟨head, tail, heq, hhead⟩ | ⟨next, tail, heq, hhigh⟩
          · exact absurd (List.cons.inj heq).1.symm hhead
          · exact ⟨next, tail, (List.cons.inj heq).2, hhigh⟩
      · rw [reportedBits_cons hfirst, size_fromBytesBE_cons hfirst]
        exact iff_of_true rfl (Or.inl ⟨first, rest, rfl, hfirst⟩)

/-- The CLI's reading of a key's size, whatever the key's position. -/
theorem rsaModulusBitsFromKey_eq_ok {key : List (String × Json)} {index bits : Nat} :
    rsaModulusBitsFromKey key index = .ok bits ↔
      ∃ n e modulus exponent, Json.get key "n" = some (.string n) ∧
        Json.get key "e" = some (.string e) ∧ Base64.decode n = some modulus ∧
        Base64.decode e = some exponent ∧ exponent.all (· == 0) = false ∧
        modulus.all (· == 0) = false ∧ bits = reportedBits modulus := by
  simp only [rsaModulusBitsFromKey, decodeBase64urlUint, bind_eq_ok, requiredString_eq_ok,
    okOr_eq_ok, rejectIf_eq_ok, pure_eq_ok]
  constructor
  · intro h
    obtain ⟨n, hn, e, he, modulus, hmodulus, exponent, hexponent, _, hexp, _, hmod, hbits⟩ := h
    exact ⟨n, e, modulus, exponent, hn, he, hmodulus, hexponent, hexp, hmod, hbits.symm⟩
  · intro h
    obtain ⟨n, e, modulus, exponent, hn, he, hmodulus, hexponent, hexp, hmod, hbits⟩ := h
    exact ⟨n, hn, e, he, modulus, hmodulus, exponent, hexponent, (), hexp, (), hmod, hbits.symm⟩

section Inspection

variable [Crates]

/-- What an accepted inspection says of an RSA key. -/
theorem inspectPublicKey_rsa {index : Nat} {key : List (String × Json)} {inspected : InspectedKey}
    (h : inspectPublicKey index key = .ok inspected)
    (hkty : Json.get key "kty" = some (.string "RSA")) :
    ∃ bits, rsaModulusBitsFromKey key index = .ok bits ∧
      inspected.rsaModulusBits = some bits := by
  simp only [inspectPublicKey, bind_eq_ok, requiredString_eq_ok] at h
  obtain ⟨_, -, kty, hget, kid, -, use, -, alg, -, hrest⟩ := h
  have hrsa : kty = "RSA" := by
    rw [hkty] at hget
    exact (Json.string.inj (Option.some.inj hget)).symm
  have hnot : kty ≠ "AKP" := by
    rw [hrsa]
    decide
  simp only [if_pos hrsa, if_neg hnot, bind_eq_ok, pure_bind, pure_eq_ok] at hrest
  obtain ⟨bits, hbits, heq⟩ := hrest
  exact ⟨bits, hbits, by rw [← heq]⟩

/-- An inspection reports each key at its position. -/
theorem inspectPublicKeys_getElem? {keys : List (List (String × Json))}
    {inspected : List InspectedKey} (h : inspectPublicKeys keys = .ok inspected) {index : Nat}
    {key : List (String × Json)} (hkey : keys[index]? = some key) :
    ∃ report, inspected[index]? = some report ∧ inspectPublicKey index key = .ok report := by
  have hall := mapM_eq_ok.mp h
  obtain ⟨hindex, hget⟩ := List.getElem?_eq_some_iff.mp hkey
  have hlen : keys.length = inspected.length := by
    simpa using hall.length_eq
  have hreport : index < inspected.length := by omega
  have hzip : index < keys.zipIdx.length := by simpa using hindex
  refine ⟨inspected[index], List.getElem?_eq_getElem hreport, ?_⟩
  have hstep := List.Forall₂.get hall hzip hreport
  simpa [hget] using hstep

/-- **The reported size.** The inspection of an accepted RSA key reports a number of bits.
It is the size of the number that `n` stands for, which is the library's size, exactly when
the octets start with one that is not zero or with a zero before a high bit. -/
theorem reported_size_iff {keys : List (List (String × Json))} {inspected : List InspectedKey}
    (haccepted : inspectPublicKeys keys = .ok inspected) {index : Nat}
    {key : List (String × Json)} (hkey : keys[index]? = some key)
    (hkty : Json.get key "kty" = some (.string "RSA")) :
    ∃ n modulus bits, Json.get key "n" = some (.string n) ∧ Base64.decode n = some modulus ∧
      rsaModulusBitsFromKey key index = .ok bits ∧
      inspected[index]?.bind InspectedKey.rsaModulusBits = some bits ∧
      (bits = (fromBytesBE modulus).size ∧ bits = rsaModulusBits modulus ↔
        SizeReadable modulus) := by
  obtain ⟨report, hreport, hinspect⟩ := inspectPublicKeys_getElem? haccepted hkey
  obtain ⟨bits, hbits, hreported⟩ := inspectPublicKey_rsa hinspect hkty
  obtain ⟨n, e, modulus, exponent, hn, -, hmodulus, -, -, hnonzero, hvalue⟩ :=
    rsaModulusBitsFromKey_eq_ok.mp hbits
  refine ⟨n, modulus, bits, hn, hmodulus, hbits, ?_, ?_⟩
  · rw [hreport]
    exact hreported
  · rw [rsaModulusBits_eq_size, and_self, hvalue]
    exact reportedBits_eq_size_iff hnonzero

end Inspection

namespace KeySample

/-- A public RSA key with these octets for its modulus. -/
def publicRsa (modulus : Bytes) : List (String × Json) :=
  [("kty", .string "RSA"), ("n", .string (Base64.encode modulus)), ("e", .string "AQAB")]

theorem publicRsa_bits {modulus : Bytes} (h : modulus.all (· == 0) = false) (index : Nat) :
    rsaModulusBitsFromKey (publicRsa modulus) index = .ok (reportedBits modulus) :=
  rsaModulusBitsFromKey_eq_ok.mpr ⟨_, _, modulus, [1, 0, 1], rfl, rfl, Base64.decode_encode modulus,
    by decide, by decide, h, rfl⟩

theorem publicRsa_inspected {modulus : Bytes} (h : modulus.all (· == 0) = false) :
    inspectPublicKeys [publicRsa modulus] =
      .ok [⟨0, none, "RSA", none, none, some (reportedBits modulus), none, none⟩] := by
  have hinspect : inspectPublicKey 0 (publicRsa modulus) =
      .ok ⟨0, none, "RSA", none, none, some (reportedBits modulus), none, none⟩ := by
    have hpublic : ¬ (publicRsa modulus).any (fun member => privateJwkMembers.contains member.1) := by
      show ¬ false
      exact Bool.false_ne_true
    have hkty : requiredString (publicRsa modulus) "kty" 0 = .ok "RSA" := rfl
    have hkid : optionalString (publicRsa modulus) "kid" 0 = .ok none := rfl
    have huse : optionalString (publicRsa modulus) "use" 0 = .ok none := rfl
    have halg : optionalString (publicRsa modulus) "alg" 0 = .ok none := rfl
    simp only [inspectPublicKey, rejectIf, if_neg hpublic, hkty, hkid, huse, halg, publicRsa_bits h]
    rfl
  simp [inspectPublicKeys, hinspect]

/-- A modulus of 2048 bits, with the zero that DER puts before it. -/
def paddedModulus : Bytes := 0 :: 128 :: List.replicate 255 1

/-- A modulus of 2047 bits with one zero too many. -/
def shortModulus : Bytes := 0 :: 127 :: List.replicate 255 1

theorem padded_size_reported :
    ∃ n modulus bits, Json.get (publicRsa paddedModulus) "n" = some (.string n) ∧
      Base64.decode n = some modulus ∧
      rsaModulusBitsFromKey (publicRsa paddedModulus) 0 = .ok bits ∧
      [InspectedKey.mk 0 none "RSA" none none (some (reportedBits paddedModulus)) none
        none][0]?.bind InspectedKey.rsaModulusBits = some bits ∧
      (bits = (fromBytesBE modulus).size ∧ bits = rsaModulusBits modulus ↔
        SizeReadable modulus) :=
  reported_size_iff (publicRsa_inspected (by decide)) rfl rfl

/-- The inspection reports 2048 bits for a modulus of 2047, which the server refuses. -/
theorem short_modulus_overstated :
    ¬ ∀ (keys : List (List (String × Json))) (inspected : List InspectedKey) (index : Nat)
        (key : List (String × Json)) (n : String) (modulus : Bytes) (bits : Nat),
      inspectPublicKeys keys = .ok inspected → keys[index]? = some key →
      Json.get key "kty" = some (.string "RSA") → Json.get key "n" = some (.string n) →
      Base64.decode n = some modulus → rsaModulusBitsFromKey key index = .ok bits →
      bits = (fromBytesBE modulus).size ∧ bits = rsaModulusBits modulus := by
  intro h
  have hnonzero : shortModulus.all (· == 0) = false := by decide
  have hsize := (h [publicRsa shortModulus] _ 0 _ _ shortModulus _ (publicRsa_inspected hnonzero)
    rfl rfl rfl (Base64.decode_encode shortModulus) (publicRsa_bits hnonzero 0)).2
  have hreported : reportedBits shortModulus = 2048 := by
    rw [shortModulus, reportedBits_zero_cons, List.length_cons, List.length_replicate]
  have hreal : rsaModulusBits shortModulus = 2047 := by
    rw [rsaModulusBits_eq_size, shortModulus, ← fromBytesBE_dropWhile,
      List.dropWhile_cons_of_pos (by decide), List.dropWhile_cons_of_neg (by decide),
      size_fromBytesBE_cons (by decide), List.length_replicate]
    decide
  rw [hreported, hreal] at hsize
  exact absurd hsize (by decide)

end KeySample

end StsDelegate
