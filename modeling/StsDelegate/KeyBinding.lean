import StsDelegate.Verify

/-!
# Keys and identities

A key id belongs to the identity it names: the id is the identity itself, or the
identity followed by a separator. Registered identities may be prefixes of one
another and may contain separators, so that one key id can name several of them;
`kid_belongs_to_claimed_identity` settles this in favour of the longest one.
`key_speaks_for_longest` says that it does, and that a key therefore speaks for at
most one identity.
-/

namespace StsDelegate

open Text

/-- The key id is the identity, or the identity up to a separator. -/
def Names (kid identity : String) : Prop :=
  kid = identity ∨ ∃ sep rest, (sep = '-' ∨ sep = '/' ∨ sep = '.') ∧
    kid.toList = identity.toList ++ sep :: rest

theorem startsWithChar_iff {s : String} {c : Char} :
    startsWithChar s c = true ↔ ∃ rest, s.toList = c :: rest := by
  rw [startsWithChar, beq_iff_eq, List.head?_eq_some_iff]

theorem stripPrefix_eq_some {s pre rest : String} :
    stripPrefix s pre = some rest ↔ s.toList = pre.toList ++ rest.toList := by
  unfold stripPrefix
  constructor
  · intro h
    split at h
    · next hprefix =>
        obtain ⟨tail, htail⟩ := List.isPrefixOf_iff_prefix.mp hprefix
        have hrest := Option.some.inj h
        rw [← htail, List.drop_left] at hrest
        rw [← hrest, String.toList_ofList, htail]
    · cases h
  · intro h
    have hprefix : pre.toList.isPrefixOf s.toList = true := by
      rw [List.isPrefixOf_iff_prefix, h]
      exact List.prefix_append _ _
    rw [if_pos hprefix, h, List.drop_left, String.ofList_toList]

theorem prefixMatch_iff {kid identity : String} :
    prefixMatch kid identity = true ↔ Names kid identity := by
  unfold prefixMatch Names
  rw [Bool.or_eq_true, beq_iff_eq]
  refine or_congr Iff.rfl ?_
  rw [Option.any_eq_true]
  constructor
  · intro ⟨suffix, hstrip, hstarts⟩
    rw [stripPrefix_eq_some] at hstrip
    simp only [Bool.or_eq_true, startsWithChar_iff] at hstarts
    rcases hstarts with (⟨rest, hrest⟩ | ⟨rest, hrest⟩) | ⟨rest, hrest⟩
    · exact ⟨'-', rest, Or.inl rfl, by rw [hstrip, hrest]⟩
    · exact ⟨'/', rest, Or.inr (Or.inl rfl), by rw [hstrip, hrest]⟩
    · exact ⟨'.', rest, Or.inr (Or.inr rfl), by rw [hstrip, hrest]⟩
  · intro ⟨sep, rest, hsep, hkid⟩
    refine ⟨String.ofList (sep :: rest), ?_, ?_⟩
    · rw [stripPrefix_eq_some, String.toList_ofList, hkid]
    · simp only [Bool.or_eq_true, startsWithChar_iff, String.toList_ofList]
      rcases hsep with rfl | rfl | rfl
      · exact Or.inl (Or.inl ⟨rest, rfl⟩)
      · exact Or.inl (Or.inr ⟨rest, rfl⟩)
      · exact Or.inr ⟨rest, rfl⟩

/-- What a key id names is a prefix of it. -/
theorem Names.isPrefix {kid identity : String} (h : Names kid identity) :
    identity.toList <+: kid.toList := by
  rcases h with rfl | ⟨sep, rest, -, hkid⟩
  · exact List.prefix_refl _
  · rw [hkid]
    exact List.prefix_append _ _

/-- A prefix that is not shorter is the whole text. -/
theorem eq_of_isPrefix_of_len_le {s t : String} (h : s.toList <+: t.toList)
    (hlen : len t ≤ len s) : s = t := by
  obtain ⟨rest, hrest⟩ := h
  have ht : t = s ++ String.ofList rest := by
    rw [← String.toList_inj, String.toList_append, String.toList_ofList, hrest]
  have hsize : len t = len s + len (String.ofList rest) := by
    rw [ht]
    exact String.utf8ByteSize_append
  have hzero : String.ofList rest = "" := by
    apply String.utf8ByteSize_eq_zero_iff.mp
    change len (String.ofList rest) = 0
    omega
  rw [ht, hzero, String.append_empty]

/-- Two identities that one key id names are ordered by their length. -/
theorem Names.eq_of_len_eq {kid a b : String} (ha : Names kid a) (hb : Names kid b)
    (hlen : len a = len b) : a = b := by
  rcases List.prefix_or_prefix_of_prefix ha.isPrefix hb.isPrefix with h | h
  · exact eq_of_isPrefix_of_len_le h (Nat.le_of_eq hlen.symm)
  · exact (eq_of_isPrefix_of_len_le h (Nat.le_of_eq hlen)).symm

theorem kidBelongs_iff {kid identity : String} {registry : OrdSet String} :
    kidBelongsToClaimedIdentity kid identity registry = true ↔
      kid ≠ "" ∧ identity ≠ "" ∧ Names kid identity ∧
        ∀ other ∈ registry, Names kid other → len other ≤ len identity := by
  unfold kidBelongsToClaimedIdentity
  by_cases hempty : (kid.isEmpty || identity.isEmpty) = true
  · rw [if_pos hempty]
    simp only [Bool.or_eq_true, String.isEmpty_iff] at hempty
    refine iff_of_false Bool.false_ne_true fun h => ?_
    rcases hempty with hkid | hidentity
    · exact h.1 hkid
    · exact h.2.1 hidentity
  · rw [if_neg hempty]
    simp only [Bool.or_eq_true, String.isEmpty_iff, not_or] at hempty
    by_cases hnames : prefixMatch kid identity = true
    -- a longer identity is another one, so the first test adds nothing
    · have hlonger : ∀ other, (other != identity && decide (len identity < len other) &&
          prefixMatch kid other) = true ↔ len identity < len other ∧ Names kid other := by
        intro other
        simp only [Bool.and_eq_true, decide_eq_true_eq, prefixMatch_iff, bne_iff_ne]
        constructor
        · intro h
          exact ⟨h.1.2, h.2⟩
        · intro h
          refine ⟨⟨fun heq => ?_, h.1⟩, h.2⟩
          rw [heq] at h
          exact Nat.lt_irrefl _ h.1
      rw [hnames, Bool.not_true, if_neg Bool.false_ne_true, Bool.not_eq_true',
        List.any_eq_false]
      simp only [hlonger, not_and]
      refine ⟨fun h => ⟨hempty.1, hempty.2, prefixMatch_iff.mp hnames, fun other hmem hother => ?_⟩,
        fun h other hmem hlt hother => ?_⟩
      · exact Nat.le_of_not_lt fun hlt => h other hmem hlt hother
      · exact absurd (h.2.2.2 other hmem hother) (Nat.not_le.mpr hlt)
    · have hnot : ¬ Names kid identity := fun h => hnames (prefixMatch_iff.mpr h)
      rw [Bool.not_eq_true] at hnames
      rw [hnames, Bool.not_false, if_pos rfl]
      exact iff_of_false Bool.false_ne_true fun h => hnot h.2.2.1

/-- **A key speaks for the longest identity it names**, and so for at most one. -/
theorem key_speaks_for_longest (registry : OrdSet String) (kid : String) :
    (∀ a ∈ registry, ∀ b ∈ registry, a ≠ b →
      ¬ (kidBelongsToClaimedIdentity kid a registry = true ∧
        kidBelongsToClaimedIdentity kid b registry = true)) ∧
    ∀ a ∈ registry, a ≠ "" →
      (kidBelongsToClaimedIdentity kid a registry = true ↔
        Names kid a ∧ ∀ b ∈ registry, Names kid b → b ≠ a → len b < len a) := by
  refine ⟨fun a ha b hb hne hboth => ?_, fun a ha hnonempty => ?_⟩
  · obtain ⟨-, -, hnamesA, hlongestA⟩ := kidBelongs_iff.mp hboth.1
    obtain ⟨-, -, hnamesB, hlongestB⟩ := kidBelongs_iff.mp hboth.2
    have hlen : len a = len b :=
      Nat.le_antisymm (hlongestB a ha hnamesA) (hlongestA b hb hnamesB)
    exact hne (hnamesA.eq_of_len_eq hnamesB hlen)
  · rw [kidBelongs_iff]
    constructor
    · intro ⟨_, _, hnames, hlongest⟩
      refine ⟨hnames, fun b hb hnamesB hne => ?_⟩
      refine Nat.lt_of_le_of_ne (hlongest b hb hnamesB) fun hlen => ?_
      exact hne (hnamesB.eq_of_len_eq hnames hlen)
    · intro ⟨hnames, hlongest⟩
      refine ⟨fun hkid => ?_, hnonempty, hnames, fun b hb hnamesB => ?_⟩
      · have hprefix := hnames.isPrefix
        rw [hkid, String.toList_empty, List.prefix_nil, String.toList_eq_nil_iff] at hprefix
        exact hnonempty hprefix
      · by_cases heq : b = a
        · rw [heq]
        · exact Nat.le_of_lt (hlongest b hb hnamesB heq)

end StsDelegate
