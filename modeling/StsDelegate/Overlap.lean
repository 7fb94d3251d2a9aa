import StsDelegate.Rotate

/-!
# Two validators of one format

The overlap JWKS is read by the rotation (`parse_public_jwks_document`) and by the
server (`normalize_public_jwks_value`). Both read the same keys from a document, and
they demand the same of a key but for its `use`, which only the server looks at
(`acceptedJwk_iff`). So a document that a rotation writes is loaded by the server
exactly when all its keys are for signatures (`loadPublicJwksFile_written`).
-/

namespace StsDelegate

open Text Fallible

variable [Crates] [KeyCrates]

/-! ### What is demanded of a key -/

/-- The RSA key is large enough. -/
def RsaLargeEnough (jwk : PublicJwk) : Prop :=
  ∃ bits, rsaPublicKeyBitsFromJwk jwk = .ok bits ∧ 2048 ≤ bits

/-- What the server demands of a public key. -/
def AcceptedJwk (jwk : PublicJwk) : Prop :=
  validatePublicJwk jwk = .ok () ∧ (jwk.kty = "RSA" → RsaLargeEnough jwk)

/-- What the rotation demands of a public key. -/
def CheckedJwk (jwk : PublicJwk) : Prop :=
  (jwk.kty = "RSA" ∧ RsaLargeEnough jwk) ∨
    (jwk.kty = "AKP" ∧ ∃ bytes, akpPublicBytes jwk = .ok bytes)

omit [KeyCrates] in
theorem rsaBits_eq_ok {ε : Type} {jwk result : PublicJwk} {f : JoseError → ε} {e : ε} :
    (do
      let bits ← (rsaPublicKeyBitsFromJwk jwk).mapError f
      rejectIf (bits < 2048) e
      pure jwk) = .ok result ↔ jwk = result ∧ RsaLargeEnough jwk := by
  simp only [bind_eq_ok, mapError_eq_ok, rejectIf_eq_ok, pure_eq_ok, decide_eq_false_iff_not,
    Nat.not_lt, RsaLargeEnough]
  constructor
  · intro h
    obtain ⟨bits, hbits, _, hlarge, heq⟩ := h
    exact ⟨heq, bits, hbits, hlarge⟩
  · intro h
    obtain ⟨heq, bits, hbits, hlarge⟩ := h
    exact ⟨bits, hbits, (), hlarge, heq⟩

/-- What the server reads from one entry of a document. -/
theorem normalizePublicKey_eq_ok {label : String} {key : Json} {jwk : PublicJwk} :
    normalizePublicKey label key = .ok jwk ↔
      ∃ members, key.asObject = some members ∧
        (∀ member ∈ privateJwkMembers, Json.containsKey members member = false) ∧
        PublicJwk.fromMembers members = some jwk ∧ AcceptedJwk jwk := by
  have hsize : ∀ read : PublicJwk,
      (if read.kty = "RSA" then do
        let bits ← (rsaPublicKeyBitsFromJwk read).mapError BootstrapError.jose
        rejectIf (bits < 2048)
          (BootstrapError.invalidJwks label "RSA public keys must be at least 2048 bits")
        pure read
      else pure read) = .ok jwk ↔ read = jwk ∧ (read.kty = "RSA" → RsaLargeEnough read) := by
    intro read
    by_cases hkty : read.kty = "RSA"
    · rw [if_pos hkty, rsaBits_eq_ok]
      simp [hkty]
    · rw [if_neg hkty, pure_eq_ok]
      simp [hkty]
  unfold normalizePublicKey
  simp only [bind_eq_ok, okOr_eq_ok, rejectIf_eq_ok, mapError_eq_ok, Bool.not_eq_false',
    List.isEmpty_iff, List.filter_eq_nil_iff, Bool.not_eq_true, hsize]
  constructor
  · intro h
    obtain ⟨members, hmembers, _, hpublic, read, hread, _, hvalid, heq, hlarge⟩ := h
    subst heq
    exact ⟨members, hmembers, hpublic, hread, hvalid, hlarge⟩
  · intro h
    obtain ⟨members, hmembers, hpublic, hread, hvalid, hlarge⟩ := h
    exact ⟨members, hmembers, (), hpublic, jwk, hread, (), hvalid, rfl, hlarge⟩

/-- What the rotation reads from one entry of a document. -/
theorem parsePublicKey_eq_ok {label : String} {index : Nat} {key : List (String × Json)}
    {jwk : PublicJwk} :
    parsePublicKey label index key = .ok jwk ↔
      PublicJwk.fromMembers key = some jwk ∧ CheckedJwk jwk := by
  unfold parsePublicKey CheckedJwk
  simp only [bind_eq_ok, okOr_eq_ok]
  constructor
  · intro h
    obtain ⟨read, hread, hcheck⟩ := h
    by_cases hrsa : read.kty = "RSA"
    · rw [if_pos hrsa, rsaBits_eq_ok] at hcheck
      obtain ⟨heq, hlarge⟩ := hcheck
      subst heq
      exact ⟨hread, Or.inl ⟨hrsa, hlarge⟩⟩
    · rw [if_neg hrsa] at hcheck
      by_cases hakp : read.kty = "AKP"
      · rw [if_pos hakp] at hcheck
        simp only [bind_eq_ok, pure_eq_ok] at hcheck
        obtain ⟨bytes, hbytes, heq⟩ := hcheck
        subst heq
        exact ⟨hread, Or.inr ⟨hakp, bytes, hbytes⟩⟩
      · rw [if_neg hakp] at hcheck
        simp at hcheck
  · intro h
    obtain ⟨hread, hchecked⟩ := h
    refine ⟨jwk, hread, ?_⟩
    rcases hchecked with ⟨hrsa, hlarge⟩ | ⟨hakp, bytes, hbytes⟩
    · rw [if_pos hrsa, rsaBits_eq_ok]
      exact ⟨rfl, hlarge⟩
    · rw [if_neg (by rw [hakp]; decide), if_pos hakp]
      simp [hbytes]

section Members

omit [Crates] [KeyCrates]

variable (jwk : PublicJwk)

@[simp] theorem get_toMembers_alg : Json.get jwk.toMembers "alg" = some (.string jwk.alg) := by
  obtain ⟨kty, kid, use, alg, n, e, pub⟩ := jwk
  rfl

@[simp] theorem get_toMembers_n : Json.get jwk.toMembers "n" = jwk.n.map .string := by
  obtain ⟨kty, kid, use, alg, n, e, pub⟩ := jwk
  cases n <;> cases e <;> cases pub <;> rfl

@[simp] theorem get_toMembers_e : Json.get jwk.toMembers "e" = jwk.e.map .string := by
  obtain ⟨kty, kid, use, alg, n, e, pub⟩ := jwk
  cases n <;> cases e <;> cases pub <;> rfl

@[simp] theorem get_toMembers_pub : Json.get jwk.toMembers "pub" = jwk.pub.map .string := by
  obtain ⟨kty, kid, use, alg, n, e, pub⟩ := jwk
  cases n <;> cases e <;> cases pub <;> rfl

end Members

omit [Crates] [KeyCrates] in
theorem requiredString_eq_ok {key : List (String × Json)} {member text : String} {index : Nat} :
    requiredString key member index = .ok text ↔ Json.get key member = some (.string text) := by
  unfold requiredString optionalString
  cases hget : Json.get key member with
  | none => simp
  | some value => cases value <;> simp [Json.asStr]

omit [KeyCrates] in
/-- The public octets of an AKP key, as the rotation and as the server take them. -/
theorem akpPublicBytes_eq_ok {jwk : PublicJwk} (hkty : jwk.kty = "AKP") :
    (∃ bytes, akpPublicBytes jwk = .ok bytes) ↔ ∃ key, akpPublicKeyFromJwk jwk = .ok key := by
  unfold akpPublicBytes akpPublicFromKey akpPublicKeyFromJwk decodeJwkOctets
  simp only [bind_eq_ok, rejectIf_eq_ok, okOr_eq_ok, pure_eq_ok, requiredString_eq_ok,
    get_toMembers_n, get_toMembers_e, get_toMembers_alg, get_toMembers_pub, Option.isSome_map,
    Option.some.injEq, Json.string.injEq, Option.map_eq_some_iff, exists_eq_right, exists_eq_left',
    hkty]
  constructor
  · intro h
    obtain ⟨_, bytes, ⟨_, hrsa, algorithm, halg, pub, hpub, octets, hoctets, _, hlen, _⟩, _⟩ := h
    exact ⟨_, (), rfl, algorithm, halg, (), hrsa, pub, hpub, octets, hoctets, (), hlen, rfl⟩
  · intro h
    obtain ⟨_, _, _, algorithm, halg, _, hrsa, pub, hpub, octets, hoctets, _, hlen, _⟩ := h
    exact ⟨_, octets, ⟨(), hrsa, algorithm, halg, pub, hpub, octets, hoctets, (), hlen, rfl⟩, rfl⟩

omit [KeyCrates] in
theorem RsaLargeEnough.key {jwk : PublicJwk} (h : RsaLargeEnough jwk) :
    ∃ key, rsaPublicKeyFromJwk jwk = .ok key := by
  obtain ⟨bits, hbits, -⟩ := h
  rw [rsaPublicKeyBitsFromJwk, bind_eq_ok] at hbits
  obtain ⟨key, hkey, -⟩ := hbits
  exact ⟨key, hkey⟩

omit [KeyCrates] in
/-- **One difference.** The server accepts a key that the rotation accepts exactly when
it is for signatures. -/
theorem acceptedJwk_iff {jwk : PublicJwk} : AcceptedJwk jwk ↔ jwk.use = "sig" ∧ CheckedJwk jwk := by
  unfold AcceptedJwk CheckedJwk validatePublicJwk
  simp only [bind_eq_ok, rejectIf_eq_ok, bne_eq_false_iff_eq, exists_const, and_assoc]
  refine and_congr_right fun _ => ?_
  by_cases hrsa : jwk.kty = "RSA"
  · have hnot : jwk.kty ≠ "AKP" := by
      rw [hrsa]
      decide
    rw [if_pos hrsa]
    constructor
    · intro h
      obtain ⟨_, hlarge⟩ := h
      exact Or.inl ⟨hrsa, hlarge hrsa⟩
    · intro hchecked
      rcases hchecked with ⟨-, hlarge⟩ | ⟨hakp, -⟩
      · obtain ⟨key, hkey⟩ := hlarge.key
        exact ⟨by simp [hkey], fun _ => hlarge⟩
      · exact absurd hakp hnot
  · rw [if_neg hrsa]
    by_cases hakp : jwk.kty = "AKP"
    · rw [if_pos hakp]
      constructor
      · intro h
        obtain ⟨hvalid, _⟩ := h
        rw [bind_eq_ok] at hvalid
        obtain ⟨key, hkey, -⟩ := hvalid
        exact Or.inr ⟨hakp, (akpPublicBytes_eq_ok hakp).mpr ⟨key, hkey⟩⟩
      · intro hchecked
        rcases hchecked with ⟨hkty, -⟩ | ⟨-, hbytes⟩
        · exact absurd hkty hrsa
        · obtain ⟨key, hkey⟩ := (akpPublicBytes_eq_ok hakp).mp hbytes
          exact ⟨by simp [hkey], fun hkty => absurd hkty hrsa⟩
    · rw [if_neg hakp]
      constructor
      · intro h
        obtain ⟨hvalid, _⟩ := h
        cases hvalid
      · intro hchecked
        rcases hchecked with ⟨hkty, -⟩ | ⟨hkty, -⟩
        · exact absurd hkty hrsa
        · exact absurd hkty hakp

/-! ### Documents -/

/-- The keys the server reads from a document. -/
theorem normalizePublicJwksValue_eq_ok {value : Json} {label : String} {document : JwksDocument} :
    normalizePublicJwksValue value label = .ok document ↔
      ∃ keys, publicJwksKeys value label = .ok keys ∧ keys ≠ [] ∧
        List.Forall₂ (fun key jwk => normalizePublicKey label key = .ok jwk) keys document.keys := by
  unfold normalizePublicJwksValue
  simp only [bind_eq_ok, rejectIf_eq_ok, pure_eq_ok, mapM_eq_ok]
  constructor
  · intro h
    obtain ⟨keys, hkeys, _, hne, jwks, hjwks, heq⟩ := h
    subst heq
    exact ⟨keys, hkeys, by simpa using hne, hjwks⟩
  · intro h
    obtain ⟨keys, hkeys, hne, hjwks⟩ := h
    exact ⟨keys, hkeys, (), by simpa using hne, document.keys, hjwks, rfl⟩

/-- The server accepts every key it reads. -/
theorem accepted_of_normalize {value : Json} {label : String} {document : JwksDocument}
    (h : normalizePublicJwksValue value label = .ok document) :
    ∀ key ∈ document.keys, AcceptedJwk key := by
  obtain ⟨keys, -, -, hjwks⟩ := normalizePublicJwksValue_eq_ok.mp h
  intro jwk hmem
  obtain ⟨key, -, hkey⟩ := exists_of_forall₂_mem hjwks hmem
  obtain ⟨_, -, -, -, haccepted⟩ := normalizePublicKey_eq_ok.mp hkey
  exact haccepted

/-- What the server reads from a key as it is written. -/
theorem normalizePublicKey_toMembers {label : String} {key jwk : PublicJwk} :
    normalizePublicKey label (.object key.toMembers) = .ok jwk ↔ AcceptedJwk key ∧ key = jwk := by
  rw [normalizePublicKey_eq_ok]
  constructor
  · intro ⟨members, hmembers, _, hread, haccepted⟩
    cases hmembers
    rw [PublicJwk.fromMembers_toMembers] at hread
    cases hread
    exact ⟨haccepted, rfl⟩
  · intro ⟨haccepted, heq⟩
    subst heq
    exact ⟨_, rfl, fun member hmem => containsKey_toMembers hmem key,
      PublicJwk.fromMembers_toMembers key, haccepted⟩

/-- The server loads a document exactly when it accepts every key in it, and then it
has the keys that were written. -/
theorem normalizePublicJwksValue_toValue {keys : List PublicJwk} {label : String}
    {document : JwksDocument} (hne : keys ≠ []) :
    normalizePublicJwksValue (JwksDocument.toValue ⟨keys⟩) label = .ok document ↔
      (∀ key ∈ keys, AcceptedJwk key) ∧ keys = document.keys := by
  have hkeys : publicJwksKeys (JwksDocument.toValue ⟨keys⟩) label =
      .ok (keys.map fun key => .object key.toMembers) := rfl
  rw [normalizePublicJwksValue_eq_ok, hkeys]
  have hread : List.Forall₂ (fun key jwk => normalizePublicKey label key = .ok jwk)
      (keys.map fun key => Json.object key.toMembers) document.keys ↔
        (∀ key ∈ keys, AcceptedJwk key) ∧ keys = document.keys := by
    simp only [List.forall₂_map_left_iff, normalizePublicKey_toMembers, List.forall₂_and_left,
      List.forall₂_eq_eq_eq]
  rw [← hread]
  constructor
  · intro ⟨written, hwritten, _, hforall⟩
    cases hwritten
    exact hforall
  · exact fun hforall => ⟨_, rfl, by simpa using hne, hforall⟩

/-- The keys the rotation reads from a document. -/
theorem parsePublicJwksDocument_eq_ok {value : Json} {label : String} {keys : List PublicJwk} :
    parsePublicJwksDocument (.json value) label = .ok keys ↔
      ∃ objects, normalizeJwksValue value = .ok objects ∧
        (∃ inspected, inspectPublicKeys objects = .ok inspected) ∧
        List.Forall₂ (fun members jwk => PublicJwk.fromMembers members = some jwk ∧ CheckedJwk jwk)
          objects keys := by
  unfold parsePublicJwksDocument
  simp only [bind_eq_ok, mapM_eq_ok, parsePublicKey_eq_ok]
  constructor
  · intro h
    obtain ⟨objects, hobjects, inspected, hinspected, hkeys⟩ := h
    exact ⟨objects, hobjects, ⟨inspected, hinspected⟩, forall₂_zipIdx.mp hkeys⟩
  · intro h
    obtain ⟨objects, hobjects, ⟨inspected, hinspected⟩, hkeys⟩ := h
    exact ⟨objects, hobjects, inspected, hinspected, forall₂_zipIdx.mpr hkeys⟩

omit [Crates] [KeyCrates] in
/-- The entries of a document, as the rotation takes them apart. -/
theorem normalizeJwksValue_eq_ok {value : Json} {label : String} {raws : List Json}
    {objects : List (List (String × Json))} (hraws : publicJwksKeys value label = .ok raws) :
    normalizeJwksValue value = .ok objects ↔
      raws ≠ [] ∧ List.Forall₂ (fun key members => key.asObject = some members) raws objects := by
  cases value with
  | object members =>
      unfold normalizeJwksValue
      rw [publicJwksKeys] at hraws
      cases hkeys : Json.get members "keys" with
      | none =>
          rw [hkeys] at hraws
          cases hraws
          simp [Json.asObject, hkeys, mapM_eq_ok, -List.mapM_cons]
      | some keys =>
          rw [hkeys] at hraws
          cases keys with
          | array keys =>
              cases hraws
              simp [Json.asObject, hkeys, mapM_eq_ok]
          | null => cases hraws
          | bool b => cases hraws
          | number n => cases hraws
          | string s => cases hraws
          | object o => cases hraws
  | null => cases hraws
  | bool b => cases hraws
  | number n => cases hraws
  | string s => cases hraws
  | array items => cases hraws

/-- The two readers agree on the keys of a document. -/
theorem keys_eq_of_both {value : Json} {label label' : String} {document : JwksDocument}
    {keys : List PublicJwk} (hserver : normalizePublicJwksValue value label = .ok document)
    (hrotation : parsePublicJwksDocument (.json value) label' = .ok keys) :
    keys = document.keys := by
  obtain ⟨raws, hraws, -, hread⟩ := normalizePublicJwksValue_eq_ok.mp hserver
  obtain ⟨objects, hobjects, -, hparsed⟩ := parsePublicJwksDocument_eq_ok.mp hrotation
  obtain ⟨-, hentries⟩ := (normalizeJwksValue_eq_ok hraws).mp hobjects
  generalize document.keys = jwks at hread ⊢
  clear hserver hrotation hraws hobjects
  -- entry by entry: the same members, hence the same key
  induction hentries generalizing keys jwks with
  | nil =>
      cases hread
      cases hparsed
      rfl
  | cons hentry _ ih =>
      cases hread with
      | cons hfirst hrest =>
          cases hparsed with
          | cons hfirst' hrest' =>
              obtain ⟨members, hmembers, -, hjwk, -⟩ := normalizePublicKey_eq_ok.mp hfirst
              rw [hentry] at hmembers
              cases hmembers
              rw [hjwk] at hfirst'
              cases hfirst'.1
              rw [ih hrest' _ hrest]

omit [Crates] [KeyCrates] in
/-- An integer without leading zero octets is not zero. -/
theorem not_all_zero {bytes : Bytes} (hne : bytes ≠ []) (hhead : bytes.head? ≠ some 0) :
    bytes.all (· == 0) = false := by
  cases bytes with
  | nil => exact absurd rfl hne
  | cons first rest =>
      have hfirst : first ≠ 0 := by simpa using hhead
      simp [hfirst]

omit [Crates] [KeyCrates] in
/-- An index only names a key in an error. -/
theorem akpPublicFromKey_index {key : List (String × Json)} {index : Nat} {bytes : Bytes}
    (h : akpPublicFromKey key index = .ok bytes) (index' : Nat) :
    akpPublicFromKey key index' = .ok bytes := by
  simp only [akpPublicFromKey, bind_eq_ok, rejectIf_eq_ok, okOr_eq_ok, pure_eq_ok,
    requiredString_eq_ok] at h ⊢
  exact h

omit [KeyCrates] in
/-- A written key that the rotation accepts passes its inspection. -/
theorem inspectPublicKey_toMembers {jwk : PublicJwk} (h : CheckedJwk jwk) (index : Nat) :
    ∃ inspected, inspectPublicKey index jwk.toMembers = .ok inspected := by
  have hpublic : (jwk.toMembers.any fun member => privateJwkMembers.contains member.1) = false := by
    obtain ⟨kty, kid, use, alg, n, e, pub⟩ := jwk
    cases n <;> cases e <;> cases pub <;> rfl
  have hkty : requiredString jwk.toMembers "kty" index = .ok jwk.kty := rfl
  have hkid : optionalString jwk.toMembers "kid" index = .ok (some jwk.kid) := rfl
  have huse : optionalString jwk.toMembers "use" index = .ok (some jwk.use) := rfl
  have halg : optionalString jwk.toMembers "alg" index = .ok (some jwk.alg) := rfl
  unfold inspectPublicKey
  simp only [hpublic, rejectIf, Bool.false_eq_true, if_false, ok_bind, hkty, hkid, huse, halg]
  rcases h with ⟨hrsa, hlarge⟩ | ⟨hakp, bytes, hbytes⟩
  -- the parser of the server takes no less than what the inspection reads
  · have hnot : jwk.kty ≠ "AKP" := by
      rw [hrsa]
      decide
    obtain ⟨key, hkey⟩ := hlarge.key
    have hbits : ∃ bits, rsaModulusBitsFromKey jwk.toMembers index = .ok bits := by
      simp only [rsaPublicKeyFromJwk, decodeJwkComponent, decodeJwkOctets, validatePublicComponents,
        bind_eq_ok, rejectIf_eq_ok, okOr_eq_ok, pure_eq_ok, Bool.or_eq_false_iff,
        beq_eq_false_iff_ne, List.isEmpty_eq_false_iff] at hkey
      obtain ⟨_, -, _, -, n, hn, _, ⟨modulus, hmodulus, _, -, hsame⟩, e, he, _,
        ⟨exponent, hexponent, _, -, hsame'⟩, _, ⟨_, hne, hhead⟩, -⟩ := hkey
      subst hsame hsame'
      simp only [rsaModulusBitsFromKey, decodeBase64urlUint, bind_eq_ok, requiredString_eq_ok,
        okOr_eq_ok, rejectIf_eq_ok, pure_eq_ok, get_toMembers_n, get_toMembers_e, hn, he,
        Option.map_some]
      exact ⟨_, n, rfl, e, rfl, modulus, hmodulus, exponent, hexponent, (),
        not_all_zero hne.2 hhead.2, (), not_all_zero hne.1 hhead.1, rfl⟩
    obtain ⟨bits, hbits⟩ := hbits
    simp only [if_pos hrsa, hbits, ok_bind, pure_bind, if_neg hnot]
    exact ⟨_, rfl⟩
  · have hnot : jwk.kty ≠ "RSA" := by
      rw [hakp]
      decide
    rw [akpPublicBytes, bind_eq_ok] at hbytes
    obtain ⟨octets, hoctets, -⟩ := hbytes
    simp only [if_neg hnot, pure_bind, if_pos hakp, akpPublicFromKey_index hoctets index, ok_bind]
    exact ⟨_, rfl⟩

/-- The rotation reads back the keys it writes. -/
theorem parsePublicJwksDocument_toValue {keys : List PublicJwk} (hne : keys ≠ [])
    (h : ∀ key ∈ keys, CheckedJwk key) (label : String) :
    parsePublicJwksDocument (.json (JwksDocument.toValue ⟨keys⟩)) label = .ok keys := by
  have hraws : publicJwksKeys (JwksDocument.toValue ⟨keys⟩) label =
      .ok (keys.map fun key => .object key.toMembers) := rfl
  refine parsePublicJwksDocument_eq_ok.mpr ⟨keys.map PublicJwk.toMembers, ?_, ?_, ?_⟩
  · refine (normalizeJwksValue_eq_ok hraws).mpr ⟨by simpa using hne, ?_⟩
    simp only [List.forall₂_map_left_iff, List.forall₂_map_right_iff, Json.asObject]
    exact List.forall₂_same.mpr fun key _ => rfl
  · refine exists_mapM_eq_ok fun entry hentry => ?_
    have hmem := List.mem_of_getElem? (List.mem_zipIdx_iff_getElem?.mp hentry)
    obtain ⟨key, hkey, heq⟩ := List.mem_map.mp hmem
    rw [← heq]
    exact inspectPublicKey_toMembers (h key hkey) entry.2
  · simp only [List.forall₂_map_left_iff, PublicJwk.fromMembers_toMembers]
    exact List.forall₂_same.mpr fun key hmem => ⟨rfl, h key hmem⟩

end StsDelegate
