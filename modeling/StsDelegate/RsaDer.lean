import StsDelegate.Lib.Der
import StsDelegate.Overlap
import StsDelegate.Sample.Keys

/-!
# RSA private keys between DER and JWK

`sts-jose` exports a generated key as a private JWK and imports a private JWK as PKCS#1. The
export looks for the integers at their positions in a PKCS#1 sequence, which it finds in the
first octet string of a PKCS#8 document; the import writes such a sequence. The DER codec is
a parameter, and `LawfulDer` says what is used of it.
-/

namespace StsDelegate

open Text Fallible BigEndian

/-! ### The code -/

mutual

/-- The first octet string in some blocks, in the order of the text. -/
def findFirstOctetString : List Asn1Block → Option Bytes
  | [] => none
  | block :: rest => (octetStringIn block).orElse fun _ => findFirstOctetString rest

def octetStringIn : Asn1Block → Option Bytes
  | .octetString _ value => some value
  | .sequence _ values => findFirstOctetString values
  | .set _ values => findFirstOctetString values
  | .explicit _ _ inner => octetStringIn inner
  | .integer _ _ => none
  | .null _ => none
  | .objectIdentifier _ _ => none
  | .other _ _ _ => none

end

def rsaIntegerComponent (sequence : List Asn1Block) (index : Nat) (name : String) :
    Except JoseError String :=
  match sequence[index]? with
  | some (.integer _ value) => do
      rejectIf (value ≤ 0)
        ⟨.invalidKey, "invalid generated RSA key DER: non-positive integer " ++ name⟩
      pure (Base64.encode (toBytesBE value.natAbs))
  | _ => .error ⟨.invalidKey, "invalid generated RSA key DER: missing integer " ++ name⟩

section Code

variable [KeyCrates]

def extractPkcs8PrivateKeyOctets (privateDer : Bytes) : Except JoseError Bytes := do
  let blocks ← (DerCrates.fromDer privateDer).mapError fun e =>
    ⟨.invalidKey, "invalid RSA private key DER: " ++ e⟩
  okOr (findFirstOctetString blocks)
    ⟨.invalidKey, "invalid RSA private key DER: PKCS#8 privateKey octets not found"⟩

def normalizeRsaPrivateKeyDer (privateDer : Bytes) : Except JoseError Bytes :=
  if (KeyCrates.rsaFromDerError privateDer).isNone then .ok privateDer
  else extractPkcs8PrivateKeyOctets privateDer

/-- Export a private key as a JWK with the key id of its public part. -/
def privateJwkJsonFromPkcs8Der (privateDer : Bytes) (publicJwk : PublicJwk) :
    Except JoseError Json := do
  let pkcs1Der ← normalizeRsaPrivateKeyDer privateDer
  let blocks ← (DerCrates.fromDer pkcs1Der).mapError fun e =>
    ⟨.invalidKey, "invalid generated RSA key DER: " ++ e⟩
  let sequence ← match blocks with
    | [.sequence _ sequence] => pure sequence
    | _ => .error ⟨.invalidKey, "invalid generated RSA key DER: expected PKCS#1 sequence"⟩
  rejectIf (sequence.length < 9)
    ⟨.invalidKey, "invalid generated RSA key DER: missing RSA private key components"⟩
  let n ← rsaIntegerComponent sequence 1 "n"
  let e ← rsaIntegerComponent sequence 2 "e"
  let d ← rsaIntegerComponent sequence 3 "d"
  let p ← rsaIntegerComponent sequence 4 "p"
  let q ← rsaIntegerComponent sequence 5 "q"
  let dp ← rsaIntegerComponent sequence 6 "dp"
  let dq ← rsaIntegerComponent sequence 7 "dq"
  let qi ← rsaIntegerComponent sequence 8 "qi"
  pure (.object [("kty", .string "RSA"), ("kid", .string publicJwk.kid), ("use", .string "sig"),
    ("alg", .string "RS256"), ("n", .string n), ("e", .string e), ("d", .string d),
    ("p", .string p), ("q", .string q), ("dp", .string dp), ("dq", .string dq),
    ("qi", .string qi)])

end Code

/-! ### Documents -/

/-- The integers of an RSA private key. -/
structure RsaIntegers where
  n : Nat
  e : Nat
  d : Nat
  p : Nat
  q : Nat
  dp : Nat
  dq : Nat
  qi : Nat

namespace RsaIntegers

def list (key : RsaIntegers) : List Nat :=
  [key.n, key.e, key.d, key.p, key.q, key.dp, key.dq, key.qi]

def Positive (key : RsaIntegers) : Prop := ∀ value ∈ key.list, 0 < value

/-- The shortest octets of each. -/
def components (key : RsaIntegers) : RsaComponents where
  n := toBytesBE key.n
  e := toBytesBE key.e
  d := toBytesBE key.d
  p := toBytesBE key.p
  q := toBytesBE key.q
  dp := toBytesBE key.dp
  dq := toBytesBE key.dq
  qi := toBytesBE key.qi

@[simp] theorem list_components (key : RsaIntegers) :
    key.components.list = key.list.map toBytesBE := rfl

end RsaIntegers

theorem integerValue_eq_some {block : Asn1Block} {value : Int}
    (h : block.integerValue = some value) : ∃ offset, block = .integer offset value := by
  cases block with
  | integer offset value' => exact ⟨offset, by rw [Option.some.inj h]⟩
  | _ => cases h

/-- Blocks that are these integers, wherever they were read. -/
def AreIntegers (blocks : List Asn1Block) (values : List Nat) : Prop :=
  blocks.map Asn1Block.integerValue = values.map fun value : Nat => some (value : Int)

section Documents

variable [DerCrates]

/-- The octets are the PKCS#1 form of the key: its integers after the version 0. -/
def IsPkcs1 (der : Bytes) (key : RsaIntegers) : Prop :=
  ∃ offset blocks, DerCrates.fromDer der = .ok [.sequence offset blocks] ∧
    AreIntegers blocks (0 :: key.list)

/-- The object identifier `rsaEncryption`. -/
def rsaEncryption : List Nat := [1, 2, 840, 113549, 1, 1, 1]

/-- The octets are a PKCS#8 form of the key: the version 0, the algorithm `rsaEncryption` with
`NULL` parameters and the PKCS#1 form as an octet string, before any attributes. -/
def IsPkcs8 (der : Bytes) (key : RsaIntegers) : Prop :=
  ∃ offset version algorithm oid parameters octets privateKey attributes,
    DerCrates.fromDer der = .ok [.sequence offset (.integer version 0 ::
      .sequence algorithm [.objectIdentifier oid rsaEncryption, .null parameters] ::
      .octetString octets privateKey :: attributes)] ∧
    IsPkcs1 privateKey key

/-- What is used of the DER codec: sequences of integers are written and read back. -/
structure LawfulDer : Prop where
  encodes : ∀ values : List Nat,
    ∃ der, DerCrates.toDer (.sequence 0 (values.map fun value : Nat => .integer 0 (value : Int))) =
      .ok der
  decodes : ∀ {values : List Nat} {der : Bytes},
    DerCrates.toDer (.sequence 0 (values.map fun value : Nat => .integer 0 (value : Int))) =
      .ok der →
    ∃ offset blocks, DerCrates.fromDer der = .ok [.sequence offset blocks] ∧
      AreIntegers blocks values

end Documents

/-- The library recognises PKCS#1 in these octets exactly when they are. -/
def RecognizesPkcs1 [KeyCrates] (der : Bytes) : Prop :=
  KeyCrates.rsaFromDerError der = none ↔ ∃ key, IsPkcs1 der key

/-! ### The export -/

theorem AreIntegers.length_eq {blocks : List Asn1Block} {values : List Nat}
    (h : AreIntegers blocks values) : blocks.length = values.length := by
  simpa using congrArg List.length h

theorem AreIntegers.getElem? {blocks : List Asn1Block} {values : List Nat}
    (h : AreIntegers blocks values) {index value : Nat} (hvalue : values[index]? = some value) :
    ∃ offset, blocks[index]? = some (.integer offset value) := by
  have hget : (blocks.map Asn1Block.integerValue)[index]? = some (some (value : Int)) := by
    rw [h, List.getElem?_map, hvalue]
    rfl
  rw [List.getElem?_map, Option.map_eq_some_iff] at hget
  obtain ⟨block, hblock, hinteger⟩ := hget
  obtain ⟨offset, heq⟩ := integerValue_eq_some hinteger
  exact ⟨offset, by rw [hblock, heq]⟩

/-- The component at a position is the integer there, in its shortest octets. -/
theorem rsaIntegerComponent_eq {blocks : List Asn1Block} {values : List Nat}
    (h : AreIntegers blocks values) {index value : Nat} (hvalue : values[index]? = some value)
    (hpositive : 0 < value) (name : String) :
    rsaIntegerComponent blocks index name = .ok (Base64.encode (toBytesBE value)) := by
  obtain ⟨offset, hblock⟩ := h.getElem? hvalue
  have hnot : ¬ decide ((value : Int) ≤ 0) = true := by
    rw [decide_eq_true_eq]
    omega
  simp only [rsaIntegerComponent, hblock, rejectIf, if_neg hnot]
  rfl

/-- In a PKCS#8 document the first octet string is the private key. -/
theorem findFirstOctetString_pkcs8 (offset version algorithm oid parameters octets : Nat)
    (privateKey : Bytes) (attributes : List Asn1Block) :
    findFirstOctetString [.sequence offset (.integer version 0 ::
      .sequence algorithm [.objectIdentifier oid rsaEncryption, .null parameters] ::
      .octetString octets privateKey :: attributes)] = some privateKey := by
  simp [findFirstOctetString, octetStringIn]

/-- A PKCS#8 document is not a PKCS#1 one: its second block is no integer. -/
theorem IsPkcs8.not_isPkcs1 [DerCrates] {der : Bytes} {key key' : RsaIntegers} (h : IsPkcs8 der key) :
    ¬ IsPkcs1 der key' := by
  intro ⟨offset', blocks, hblocks, hintegers⟩
  obtain ⟨offset, version, algorithm, oid, parameters, octets, privateKey, attributes, hder, -⟩ := h
  rw [hder, Except.ok.injEq, List.cons.injEq, Asn1Block.sequence.injEq] at hblocks
  rw [← hblocks.1.2] at hintegers
  cases hintegers

section Export

variable [KeyCrates]

/-- Either document is reduced to the PKCS#1 form of the key. -/
theorem normalizeRsaPrivateKeyDer_eq_ok {der : Bytes} {key : RsaIntegers}
    (hgiven : IsPkcs1 der key ∨ IsPkcs8 der key) (hrecognized : RecognizesPkcs1 der) :
    ∃ pkcs1, normalizeRsaPrivateKeyDer der = .ok pkcs1 ∧ IsPkcs1 pkcs1 key := by
  rcases hgiven with hpkcs1 | hpkcs8
  · have hnone := hrecognized.mpr ⟨key, hpkcs1⟩
    exact ⟨der, by simp [normalizeRsaPrivateKeyDer, hnone], hpkcs1⟩
  · have hsome : ¬ (KeyCrates.rsaFromDerError der).isNone := by
      rw [Option.isNone_iff_eq_none]
      intro hnone
      obtain ⟨key', hpkcs1⟩ := hrecognized.mp hnone
      exact hpkcs8.not_isPkcs1 hpkcs1
    obtain ⟨offset, version, algorithm, oid, parameters, octets, privateKey, attributes, hder,
      hpkcs1⟩ := hpkcs8
    refine ⟨privateKey, ?_, hpkcs1⟩
    rw [normalizeRsaPrivateKeyDer, if_neg hsome, extractPkcs8PrivateKeyOctets, hder]
    simp only [Except.mapError, ok_bind, findFirstOctetString_pkcs8, okOr]

/-- The private JWK with these components. -/
def rsaPrivateJwkJson (kid : String) (key : RsaComponents) : Json :=
  .object [("kty", .string "RSA"), ("kid", .string kid), ("use", .string "sig"),
    ("alg", .string "RS256"), ("n", .string (Base64.encode key.n)),
    ("e", .string (Base64.encode key.e)), ("d", .string (Base64.encode key.d)),
    ("p", .string (Base64.encode key.p)), ("q", .string (Base64.encode key.q)),
    ("dp", .string (Base64.encode key.dp)), ("dq", .string (Base64.encode key.dq)),
    ("qi", .string (Base64.encode key.qi))]

/-- The export has the integers of the key, each under its name. -/
theorem privateJwkJsonFromPkcs8Der_eq_ok {der : Bytes} {key : RsaIntegers}
    (hpositive : key.Positive) (hgiven : IsPkcs1 der key ∨ IsPkcs8 der key)
    (hrecognized : RecognizesPkcs1 der) (publicJwk : PublicJwk) :
    privateJwkJsonFromPkcs8Der der publicJwk =
      .ok (rsaPrivateJwkJson publicJwk.kid key.components) := by
  obtain ⟨pkcs1, hnormalized, offset, blocks, hblocks, hintegers⟩ :=
    normalizeRsaPrivateKeyDer_eq_ok hgiven hrecognized
  have hlen : ¬ blocks.length < 9 := by
    rw [hintegers.length_eq]
    simp [RsaIntegers.list]
  -- after the version, the positions are those of the list
  have hcomponent : ∀ (index value : Nat) (name : String), key.list[index]? = some value →
      rsaIntegerComponent blocks (index + 1) name = .ok (Base64.encode (toBytesBE value)) :=
    fun index value name hvalue => rsaIntegerComponent_eq hintegers
      (by rw [List.getElem?_cons_succ, hvalue]) (hpositive value (List.mem_of_getElem? hvalue)) name
  unfold privateJwkJsonFromPkcs8Der
  simp only [hnormalized, hblocks, Except.mapError, ok_bind, pure_bind, rejectIf,
    decide_eq_true_eq, if_neg hlen, hcomponent 0 key.n "n" rfl, hcomponent 1 key.e "e" rfl,
    hcomponent 2 key.d "d" rfl, hcomponent 3 key.p "p" rfl, hcomponent 4 key.q "q" rfl,
    hcomponent 5 key.dp "dp" rfl, hcomponent 6 key.dq "dq" rfl, hcomponent 7 key.qi "qi" rfl]
  rfl

/-- A generated key is the export of its DER form. -/
theorem generatePrivateJwk_exported [Crates] {entropy : Bytes} {generated : GeneratedKey}
    (hgenerated : RsaJoseSigner.generatePrivateJwk entropy = .ok generated) {key : RsaIntegers}
    (hkey : KeyCrates.rsaGenerate entropy = .ok key.components) {der : Bytes}
    (hpositive : key.Positive) (hder : IsPkcs8 der key) (hrecognized : RecognizesPkcs1 der) :
    privateJwkJsonFromPkcs8Der der generated.publicJwk = .ok generated.privateJwk := by
  rw [privateJwkJsonFromPkcs8Der_eq_ok hpositive (Or.inr hder) hrecognized]
  simp only [RsaJoseSigner.generatePrivateJwk, hkey, mapError_ok, ok_bind, pure_eq_ok] at hgenerated
  rw [← hgenerated]
  rfl

end Export

/-! ### The import -/

/-- The record that an exported key is read as. -/
def exportedRecord (kid : String) (key : RsaComponents) : PrivateRsaJwk where
  kty := "RSA"
  kid := some kid
  n := Base64.encode key.n
  e := Base64.encode key.e
  d := Base64.encode key.d
  p := Base64.encode key.p
  q := Base64.encode key.q
  dp := some (Base64.encode key.dp)
  dq := some (Base64.encode key.dq)
  qi := some (Base64.encode key.qi)

theorem fromValue_rsaPrivateJwkJson (kid : String) (key : RsaComponents) :
    PrivateRsaJwk.fromValue (rsaPrivateJwkJson kid key) = some (exportedRecord kid key) := rfl

/-- The shortest octets of a positive number start with one that is not zero. -/
theorem minimal_toBytesBE {value : Nat} (h : 0 < value) :
    toBytesBE value ≠ [] ∧ (toBytesBE value).head? ≠ some 0 := by
  obtain ⟨first, rest, heq, hfirst⟩ := toBytesBE_eq_cons h
  rw [heq]
  exact ⟨List.cons_ne_nil _ _, by simpa using hfirst⟩

theorem positiveIntegerBlock_toBytesBE {value : Nat} (h : 0 < value) (name : String) :
    positiveIntegerBlock name (toBytesBE value) = .ok (.integer 0 (value : Int)) := by
  obtain ⟨hne, hhead⟩ := minimal_toBytesBE h
  have hnot : (toBytesBE value).all (· == 0) = false := not_all_zero hne hhead
  simp only [positiveIntegerBlock, hnot, rejectIf, fromBytesBE_toBytesBE]
  rfl

/-- The names of the components, in the order of the integers. -/
def rsaMemberNames : List String := ["n", "e", "d", "p", "q", "dp", "dq", "qi"]

/-- A JWK member that is the shortest form of a number. -/
def MinimalMember (jwk : Json) (name : String) (value : Nat) : Prop :=
  ∃ members text first rest, jwk = .object members ∧ Json.get members name = some (.string text) ∧
    Base64.decode text = some (first :: rest) ∧ first ≠ 0 ∧ fromBytesBE (first :: rest) = value

theorem minimalMembers_exported {key : RsaIntegers} (hpositive : key.Positive) (kid : String) :
    List.Forall₂ (MinimalMember (rsaPrivateJwkJson kid key.components)) rsaMemberNames
      key.list := by
  have hmember : ∀ {members : List (String × Json)} {name : String} {value : Nat},
      Json.get members name = some (.string (Base64.encode (toBytesBE value))) → 0 < value →
      MinimalMember (.object members) name value := by
    intro members name value hget hvalue
    obtain ⟨first, rest, heq, hfirst⟩ := toBytesBE_eq_cons hvalue
    refine ⟨members, _, first, rest, rfl, hget, ?_, hfirst, ?_⟩
    · rw [Base64.decode_encode, heq]
    · rw [← heq, fromBytesBE_toBytesBE]
  simp only [RsaIntegers.Positive, RsaIntegers.list, List.forall_mem_cons] at hpositive
  obtain ⟨hn, he, hd, hp, hq, hdp, hdq, hqi, -⟩ := hpositive
  exact .cons (hmember rfl hn) (.cons (hmember rfl he) (.cons (hmember rfl hd)
    (.cons (hmember rfl hp) (.cons (hmember rfl hq) (.cons (hmember rfl hdp)
      (.cons (hmember rfl hdq) (.cons (hmember rfl hqi) .nil)))))))

section Import

variable [Crates]

theorem decodeJwkComponent_toBytesBE {value : Nat} (h : 0 < value) (name : String) :
    decodeJwkComponent name (Base64.encode (toBytesBE value)) = .ok (toBytesBE value) := by
  have hempty : ¬ (toBytesBE value).isEmpty := by simpa using (minimal_toBytesBE h).1
  simp only [decodeJwkComponent, decodeJwkOctets, Base64.decode_encode, okOr, ok_bind, rejectIf,
    if_neg hempty]
  rfl

theorem decodeRequiredPrivateComponent_toBytesBE {value : Nat} (h : 0 < value) (name : String) :
    decodeRequiredPrivateComponent name (some (Base64.encode (toBytesBE value))) =
      .ok (toBytesBE value) :=
  decodeJwkComponent_toBytesBE h name

omit [Crates] in
theorem validatePublicComponents_toBytesBE {n e : Nat} (hn : 0 < n) (he : 0 < e) :
    validatePublicComponents (toBytesBE n) (toBytesBE e) = .ok () := by
  have hminimal := minimal_toBytesBE hn
  have hminimal' := minimal_toBytesBE he
  simp [validatePublicComponents, rejectIf, hminimal, hminimal']

variable [KeyCrates]

/-- The import writes the integers of an exported key, after the version. -/
theorem rsaPrivateJwkToPkcs1Der_exported {key : RsaIntegers} (hpositive : key.Positive)
    (kid : String) :
    rsaPrivateJwkToPkcs1Der (exportedRecord kid key.components) =
      (DerCrates.toDer (.sequence 0
        ((0 :: key.list).map fun value : Nat => .integer 0 (value : Int)))).mapError fun err =>
        ⟨.invalidKey, "failed to encode RSA private JWK as PKCS#1 DER: " ++ err⟩ := by
  simp only [RsaIntegers.Positive, RsaIntegers.list, List.forall_mem_cons] at hpositive
  obtain ⟨hn, he, hd, hp, hq, hdp, hdq, hqi, -⟩ := hpositive
  simp only [rsaPrivateJwkToPkcs1Der, exportedRecord, RsaIntegers.components,
    decodeJwkComponent_toBytesBE hn, decodeJwkComponent_toBytesBE he,
    decodeJwkComponent_toBytesBE hd, decodeJwkComponent_toBytesBE hp,
    decodeJwkComponent_toBytesBE hq, decodeRequiredPrivateComponent_toBytesBE hdp,
    decodeRequiredPrivateComponent_toBytesBE hdq, decodeRequiredPrivateComponent_toBytesBE hqi,
    positiveIntegerBlock_toBytesBE hn, positiveIntegerBlock_toBytesBE he,
    positiveIntegerBlock_toBytesBE hd, positiveIntegerBlock_toBytesBE hp,
    positiveIntegerBlock_toBytesBE hq, positiveIntegerBlock_toBytesBE hdp,
    positiveIntegerBlock_toBytesBE hdq, positiveIntegerBlock_toBytesBE hqi, ok_bind]
  rfl

/-- What the import writes is the PKCS#1 form of the exported key. -/
theorem imported_isPkcs1 (laws : LawfulDer) {key : RsaIntegers} (hpositive : key.Positive)
    (kid : String) : ∃ der,
      rsaPrivateJwkToPkcs1Der (exportedRecord kid key.components) = .ok der ∧
      IsPkcs1 der key := by
  obtain ⟨der, hder⟩ := laws.encodes (0 :: key.list)
  obtain ⟨offset, blocks, hblocks, hintegers⟩ := laws.decodes hder
  refine ⟨der, ?_, offset, blocks, hblocks, hintegers⟩
  rw [rsaPrivateJwkToPkcs1Der_exported hpositive, hder]
  rfl

/-- **Export and import.** A private key is exported from either form, each integer in its
shortest octets, and the import of the exported JWK is the PKCS#1 form of the same key. -/
theorem rsa_export_import (laws : LawfulDer) {der : Bytes} {key : RsaIntegers}
    (hpositive : key.Positive) (hgiven : IsPkcs1 der key ∨ IsPkcs8 der key)
    (hrecognized : RecognizesPkcs1 der) (publicJwk : PublicJwk) :
    ∃ json jwk der', privateJwkJsonFromPkcs8Der der publicJwk = .ok json ∧
      PrivateRsaJwk.fromValue json = some jwk ∧ rsaPrivateJwkToPkcs1Der jwk = .ok der' ∧
      IsPkcs1 der' key ∧ List.Forall₂ (MinimalMember json) rsaMemberNames key.list ∧
      ∃ n e, decodeJwkComponent "n" jwk.n = .ok n ∧ decodeJwkComponent "e" jwk.e = .ok e ∧
        validatePublicComponents n e = .ok () := by
  obtain ⟨der', hder', hpkcs1⟩ := imported_isPkcs1 laws hpositive publicJwk.kid
  have hn : 0 < key.n := hpositive key.n (by simp [RsaIntegers.list])
  have he : 0 < key.e := hpositive key.e (by simp [RsaIntegers.list])
  exact ⟨_, _, der', privateJwkJsonFromPkcs8Der_eq_ok hpositive hgiven hrecognized publicJwk,
    fromValue_rsaPrivateJwkJson _ _, hder', hpkcs1, minimalMembers_exported hpositive _,
    toBytesBE key.n, toBytesBE key.e, decodeJwkComponent_toBytesBE hn "n",
    decodeJwkComponent_toBytesBE he "e", validatePublicComponents_toBytesBE hn he⟩

end Import

/-! ### A sample codec and key -/

namespace DerSample

open Der

/-- The arcs of an object identifier. -/
def arcs : Bytes → List Nat
  | [] => []
  | first :: rest =>
      let step (state : Nat × List Nat) (octet : UInt8) : Nat × List Nat :=
        if octet.toNat < 128 then (0, state.2 ++ [state.1 * 128 + octet.toNat])
        else (state.1 * 128 + (octet.toNat - 128), state.2)
      first.toNat / 40 :: first.toNat % 40 :: (rest.foldl step (0, [])).2

/-- The block of an item, with a way to read the blocks inside. -/
def blockOf (inside : Nat → Bytes → Option (List Asn1Block)) (item : Item) : Option Asn1Block :=
  if item.tag = 0x02 then (decodeInteger item.content).map (.integer item.offset)
  else if item.tag = 0x04 then some (.octetString item.offset item.content)
  else if item.tag = 0x05 then some (.null item.offset)
  else if item.tag = 0x06 then some (.objectIdentifier item.offset (arcs item.content))
  else if item.tag = 0x30 then (inside item.start item.content).map (.sequence item.offset)
  else if item.tag = 0x31 then (inside item.start item.content).map (.set item.offset)
  else some (.other item.offset item.tag.toNat item.content)

/-- The blocks of some octets, nested no deeper than this. -/
def decodeBlocks : Nat → Nat → Bytes → Option (List Asn1Block)
  | 0, _, _ => none
  | depth + 1, offset, bytes => do
      let items ← readItems bytes.length offset bytes
      items.mapM (blockOf (decodeBlocks depth))

def encodeIntegers (values : List Nat) : Bytes :=
  encodeItem (0x30, (values.map fun value => (0x02, encodeNat value)).flatMap encodeItem)

/-- Only sequences of numbers are written. -/
def toDer : Asn1Block → Except String Bytes
  | .sequence _ blocks =>
      match blocks.mapM fun block => block.integerValue.bind Int.toNat? with
      | some values => .ok (encodeIntegers values)
      | none => .error "unsupported"
  | _ => .error "unsupported"

def fromDer (bytes : Bytes) : Except String (List Asn1Block) :=
  match decodeBlocks 16 0 bytes with
  | some blocks => .ok blocks
  | none => .error "ASN1DecodeErr"

/-- A PKCS#1 sequence of a key. -/
def pkcs1Shaped : Except String (List Asn1Block) → Bool
  | .ok [.sequence _ blocks] =>
      match blocks.mapM fun block => block.integerValue.bind Int.toNat? with
      | some (0 :: values) => values.length == 8
      | _ => false
  | _ => false

scoped instance crates : Crates := Sample.crates

scoped instance keyCrates : KeyCrates :=
  { KeySample.keyCrates with
    toDer := toDer
    fromDer := fromDer
    rsaFromDerError := fun der =>
      if pkcs1Shaped (fromDer der) then none else some "InvalidEncoding" }

theorem mapM_integerValue (values : List Nat) :
    (values.map fun value : Nat => Asn1Block.integer 0 (value : Int)).mapM
      (fun block => block.integerValue.bind Int.toNat?) = some values := by
  induction values with
  | nil => rfl
  | cons value values ih =>
      rw [List.map_cons, List.mapM_cons, ih]
      rfl

theorem toDer_integers (values : List Nat) :
    toDer (.sequence 0 (values.map fun value : Nat => .integer 0 (value : Int))) =
      .ok (encodeIntegers values) := by
  simp only [toDer, mapM_integerValue]

/-- Items with the contents of numbers are read as these. -/
theorem mapM_blockOf {inside : Nat → Bytes → Option (List Asn1Block)} {values : List Nat}
    {items : List Item}
    (h : items.map Item.body = values.map fun value => (0x02, encodeNat value)) :
    ∃ blocks, items.mapM (blockOf inside) = some blocks ∧ AreIntegers blocks values := by
  induction items generalizing values with
  | nil =>
      have hnil : values = [] := by simpa using h.symm
      exact ⟨[], rfl, by rw [hnil]; rfl⟩
  | cons item items ih =>
      cases values with
      | nil => cases h
      | cons value values =>
          obtain ⟨hitem, hitems⟩ := List.cons.inj h
          obtain ⟨blocks, hblocks, hintegers⟩ := ih hitems
          have htag : item.tag = 0x02 := congrArg Prod.fst hitem
          have hcontent : item.content = encodeNat value := congrArg Prod.snd hitem
          have hblock : blockOf inside item = some (.integer item.offset value) := by
            rw [blockOf, if_pos htag, hcontent, decodeInteger_encodeNat]
            rfl
          refine ⟨.integer item.offset value :: blocks, ?_, ?_⟩
          · rw [List.mapM_cons, hblock, hblocks]
            rfl
          · rw [AreIntegers, List.map_cons, hintegers]
            rfl

/-- A written sequence of numbers is read back. -/
theorem decodeBlocks_encodeIntegers (values : List Nat) (depth : Nat) :
    ∃ offset blocks, decodeBlocks (depth + 2) 0 (encodeIntegers values) =
      some [.sequence offset blocks] ∧ AreIntegers blocks values := by
  have houter := readItems_flatMap
    [(0x30, (values.map fun value => (0x02, encodeNat value)).flatMap encodeItem)]
    (length_le_flatMap_encodeItem _) 0
  obtain ⟨items, hitems, hbodies⟩ := houter
  rw [List.flatMap_singleton] at hitems
  obtain ⟨item, hone, hbody⟩ := List.map_eq_singleton_iff.mp hbodies
  subst hone
  have htag : item.tag = 0x30 := congrArg Prod.fst hbody
  have hcontent : item.content =
      (values.map fun value => (0x02, encodeNat value)).flatMap encodeItem :=
    congrArg Prod.snd hbody
  obtain ⟨inner, hinner, hinnerBodies⟩ := readItems_flatMap
    (values.map fun value => ((0x02 : UInt8), encodeNat value))
    (length_le_flatMap_encodeItem _) item.start
  obtain ⟨blocks, hblocks, hintegers⟩ := @mapM_blockOf (decodeBlocks depth) _ _ hinnerBodies
  refine ⟨item.offset, blocks, ?_, hintegers⟩
  have hinside : decodeBlocks (depth + 1) item.start item.content = some blocks := by
    simp only [decodeBlocks, hcontent, hinner, Option.bind_eq_bind, Option.bind_some, hblocks]
  have hblock : blockOf (decodeBlocks (depth + 1)) item = some (.sequence item.offset blocks) := by
    rw [blockOf, htag, if_neg (by decide), if_neg (by decide), if_neg (by decide),
      if_neg (by decide), if_pos rfl, hinside]
    rfl
  rw [decodeBlocks, encodeIntegers, hitems]
  simp [hblock]

theorem lawfulDer : LawfulDer where
  encodes values := ⟨encodeIntegers values, toDer_integers values⟩
  decodes := by
    intro values der hder
    have heq : encodeIntegers values = der :=
      Except.ok.inj ((toDer_integers values).symm.trans hder)
    obtain ⟨offset, blocks, hblocks, hintegers⟩ := decodeBlocks_encodeIntegers values 14
    refine ⟨offset, blocks, ?_, hintegers⟩
    show fromDer der = _
    simp only [fromDer, ← heq, hblocks]

/-- A key with the primes 193 and 197. -/
def smallKey : RsaIntegers := ⟨38021, 5, 15053, 193, 197, 77, 157, 145⟩

/-- Its PKCS#1 form. -/
def smallPkcs1 : Bytes :=
  [0x30, 0x22, 0x02, 0x01, 0x00, 0x02, 0x03, 0x00, 0x94, 0x85, 0x02, 0x01, 0x05, 0x02, 0x02, 0x3a,
    0xcd, 0x02, 0x02, 0x00, 0xc1, 0x02, 0x02, 0x00, 0xc5, 0x02, 0x01, 0x4d, 0x02, 0x02, 0x00, 0x9d,
    0x02, 0x02, 0x00, 0x91]

/-- Its PKCS#8 form. -/
def smallPkcs8 : Bytes :=
  [0x30, 0x38, 0x02, 0x01, 0x00, 0x30, 0x0d, 0x06, 0x09, 0x2a, 0x86, 0x48, 0x86, 0xf7, 0x0d, 0x01,
    0x01, 0x01, 0x05, 0x00, 0x04, 0x24] ++ smallPkcs1

theorem smallKey_positive : smallKey.Positive := by
  unfold RsaIntegers.Positive
  decide

theorem isPkcs8_smallPkcs8 : IsPkcs8 smallPkcs8 smallKey :=
  ⟨_, _, _, _, _, _, smallPkcs1, [], rfl, _, _, rfl, rfl⟩

/-- It is no PKCS#1 document, and the library says so. -/
theorem recognizes_smallPkcs8 : RecognizesPkcs1 smallPkcs8 := by
  refine iff_of_false ?_ fun ⟨_, hpkcs1⟩ => isPkcs8_smallPkcs8.not_isPkcs1 hpkcs1
  have hshape : pkcs1Shaped (fromDer smallPkcs8) = false := rfl
  show (if pkcs1Shaped (fromDer smallPkcs8) then none else some "InvalidEncoding") ≠ none
  rw [hshape]
  exact Option.some_ne_none _

/-- Its public part. -/
def smallPublicJwk : PublicJwk :=
  ⟨"RSA", "small", "sig", "RS256", some "lIU", some "BQ", none⟩

theorem smallKey_kept : ∃ json jwk der',
    privateJwkJsonFromPkcs8Der smallPkcs8 smallPublicJwk = .ok json ∧
      PrivateRsaJwk.fromValue json = some jwk ∧ rsaPrivateJwkToPkcs1Der jwk = .ok der' ∧
      IsPkcs1 der' smallKey ∧ List.Forall₂ (MinimalMember json) rsaMemberNames smallKey.list ∧
      ∃ n e, decodeJwkComponent "n" jwk.n = .ok n ∧ decodeJwkComponent "e" jwk.e = .ok e ∧
        validatePublicComponents n e = .ok () :=
  rsa_export_import lawfulDer smallKey_positive (Or.inr isPkcs8_smallPkcs8) recognizes_smallPkcs8
    smallPublicJwk

end DerSample

end StsDelegate
