import Mathlib.Data.List.AList

/-!
# Maps with expiry

A finite map from keys to the last moment their entry counts. The only way an
entry leaves such a map is a **sweep** at some moment `now`, which drops every
entry that ends before `now` and keeps the rest untouched. All the lemmas say
what a lookup sees after an operation, so that a store built on such a map is
reasoned about without ever opening it.
-/

/-- A map from keys to the last moment their entry counts. -/
abbrev ExpiryMap (κ τ : Type) : Type := AList fun _ : κ => τ

namespace ExpiryMap

variable {κ τ : Type} [LE τ] [DecidableLE τ]

/-- Drop the entries that end before `now`. -/
def sweep (now : τ) (m : ExpiryMap κ τ) : ExpiryMap κ τ :=
  ⟨m.entries.filter fun entry => now ≤ entry.2,
    List.NodupKeys.sublist List.filter_sublist m.nodupKeys⟩

/-- The number of entries. -/
def size (m : ExpiryMap κ τ) : Nat := m.entries.length

/-- The number of entries that still count at `now`. -/
def live (now : τ) (m : ExpiryMap κ τ) : Nat := (m.sweep now).size

/-- Sweeping a second time at the same moment changes nothing. -/
@[simp] theorem sweep_sweep (now : τ) (m : ExpiryMap κ τ) :
    (m.sweep now).sweep now = m.sweep now := by
  apply AList.ext
  simp [sweep]

@[simp] theorem live_sweep (now : τ) (m : ExpiryMap κ τ) : (m.sweep now).live now = m.live now := by
  rw [live, live, sweep_sweep]

theorem live_le_size (now : τ) (m : ExpiryMap κ τ) : m.live now ≤ m.size :=
  List.length_filter_le _ _

theorem size_sweep (now : τ) (m : ExpiryMap κ τ) : (m.sweep now).size = m.live now := rfl

section Lookup

variable [DecidableEq κ]

/-- An entry survives a sweep exactly when it does not end before it. -/
theorem lookup_sweep {now : τ} {m : ExpiryMap κ τ} {k : κ} {e : τ} :
    (m.sweep now).lookup k = some e ↔ m.lookup k = some e ∧ now ≤ e := by
  have hmem : ∀ m' : ExpiryMap κ τ, m'.lookup k = some e ↔ ⟨k, e⟩ ∈ m'.entries :=
    fun _ => AList.mem_lookup_iff
  rw [hmem, hmem]
  simp [sweep]

theorem mem_of_mem_sweep {now : τ} {m : ExpiryMap κ τ} {k : κ} (h : k ∈ m.sweep now) : k ∈ m := by
  rw [← AList.lookup_isSome, Option.isSome_iff_exists] at h
  obtain ⟨e, he⟩ := h
  rw [← AList.lookup_isSome, Option.isSome_iff_exists]
  exact ⟨e, (lookup_sweep.mp he).1⟩

/-- How many entries still count is a matter of the entries that do. -/
theorem live_congr {now : τ} {m m' : ExpiryMap κ τ}
    (h : ∀ k e, now ≤ e → (m.lookup k = some e ↔ m'.lookup k = some e)) :
    m.live now = m'.live now := by
  have hmem : ∀ entry, entry ∈ (m.sweep now).entries ↔ entry ∈ (m'.sweep now).entries := by
    intro ⟨k, e⟩
    have hiff : ∀ m₀ : ExpiryMap κ τ, ⟨k, e⟩ ∈ (m₀.sweep now).entries ↔
        m₀.lookup k = some e ∧ now ≤ e := by
      intro m₀
      rw [← lookup_sweep]
      exact AList.mem_lookup_iff.symm
    rw [hiff, hiff]
    exact and_congr_left (h k e)
  have hperm : (m.sweep now).entries.Perm (m'.sweep now).entries :=
    (List.perm_ext_iff_of_nodup (m.sweep now).nodupKeys.nodup (m'.sweep now).nodupKeys.nodup).mpr
      hmem
  exact hperm.length_eq

/-- Inserting at a new key adds one entry. -/
theorem size_insert_of_notMem {τ : Type} {m : ExpiryMap κ τ} {k : κ} {e : τ} (h : k ∉ m) :
    size (m.insert k e) = m.size + 1 := by
  rw [size, AList.entries_insert_of_notMem h, List.length_cons, size]

/-- Inserting at a key that is there replaces its entry. -/
theorem size_insert_of_mem {τ : Type} {m : ExpiryMap κ τ} {k : κ} {e : τ} (h : k ∈ m) :
    size (m.insert k e) = m.size := by
  have hkeys : ∀ m' : ExpiryMap κ τ, m'.size = m'.keys.length := fun m' => (List.length_map _).symm
  have hpos : 0 < m.keys.length := List.length_pos_of_mem (AList.mem_keys.mp h)
  rw [hkeys, hkeys, AList.keys_insert, List.length_cons,
    List.length_erase_of_mem (AList.mem_keys.mp h), Nat.sub_add_cancel hpos]

/-- The keys that still count are as many as the map has live entries. -/
theorem exists_live_keys (now : τ) (m : ExpiryMap κ τ) :
    ∃ keys : List κ, keys.Nodup ∧ keys.length = m.live now ∧
      ∀ k ∈ keys, ∃ e, m.lookup k = some e ∧ now ≤ e := by
  refine ⟨(m.sweep now).keys, (m.sweep now).nodupKeys, List.length_map _, fun k hk => ?_⟩
  have hmem : k ∈ m.sweep now := AList.mem_keys.mpr hk
  rw [← AList.lookup_isSome, Option.isSome_iff_exists] at hmem
  obtain ⟨e, he⟩ := hmem
  exact ⟨e, lookup_sweep.mp he⟩

end Lookup

end ExpiryMap
