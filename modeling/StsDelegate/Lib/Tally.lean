import Mathlib.Order.Defs.LinearOrder
import Mathlib.Data.List.Count
import Mathlib.Data.UInt

/-!
# Counters by label

A counter for every label of a linear order, kept as the list of the labels that have been
counted, in increasing order, each with its 64 bit counter. That the labels increase is a
field of the structure, so a label has at most one counter.

What a tally holds is said in terms of the labels that were counted, in any order
(`count_ofList`, `mem_labels_ofList`, `total_ofList`).
-/

/-- Counters by label. -/
structure Tally (K : Type) [LinearOrder K] where
  entries : List (K × UInt64)
  sorted : (entries.map Prod.fst).Pairwise (· < ·)

namespace Tally

variable {K : Type} [LinearOrder K]

theorem sorted_nil : (([] : List (K × UInt64)).map Prod.fst).Pairwise (· < ·) := List.Pairwise.nil

/-- No label has been counted. -/
def empty : Tally K := ⟨[], sorted_nil⟩

/-- Count a label once more, from zero if it is new. -/
def bumpList (k : K) : List (K × UInt64) → List (K × UInt64)
  | [] => [(k, 1)]
  | (l, n) :: rest =>
      if k < l then (k, 1) :: (l, n) :: rest
      else if k = l then (l, n + 1) :: rest
      else (l, n) :: bumpList k rest

theorem mem_bumpList {k l : K} {entries : List (K × UInt64)} :
    l ∈ (bumpList k entries).map Prod.fst ↔ l = k ∨ l ∈ entries.map Prod.fst := by
  induction entries with
  | nil => simp [bumpList]
  | cons entry rest ih =>
      obtain ⟨m, n⟩ := entry
      rw [bumpList]
      split
      · simp
      · split
        · next heq => simp [heq]
        · simp only [List.map_cons, List.mem_cons, ih]
          tauto

theorem pairwise_bumpList {k : K} {entries : List (K × UInt64)}
    (h : (entries.map Prod.fst).Pairwise (· < ·)) :
    ((bumpList k entries).map Prod.fst).Pairwise (· < ·) := by
  induction entries with
  | nil => simp [bumpList]
  | cons entry rest ih =>
      obtain ⟨m, n⟩ := entry
      simp only [List.map_cons, List.pairwise_cons] at h
      rw [bumpList]
      split
      · next hlt =>
          simp only [List.map_cons, List.pairwise_cons, List.mem_cons]
          refine ⟨fun l hl => ?_, h⟩
          rcases hl with rfl | hl
          · exact hlt
          · exact lt_trans hlt (h.1 l hl)
      · next hge =>
          split
          · simpa using h
          · next hne =>
              simp only [List.map_cons, List.pairwise_cons]
              refine ⟨fun l hl => ?_, ih h.2⟩
              rcases mem_bumpList.mp hl with rfl | hl
              · exact lt_of_le_of_ne (not_lt.mp hge) (Ne.symm hne)
              · exact h.1 l hl

/-- Count a label. -/
def bump (t : Tally K) (k : K) : Tally K := ⟨bumpList k t.entries, pairwise_bumpList t.sorted⟩

/-- The counter of a label, zero if it was never counted. -/
def countList (k : K) : List (K × UInt64) → UInt64
  | [] => 0
  | (l, n) :: rest => if k = l then n else countList k rest

def count (t : Tally K) (k : K) : UInt64 := countList k t.entries

/-- The labels that have a counter. -/
def labels (t : Tally K) : List K := t.entries.map Prod.fst

/-- The sum of all counters. -/
def total (t : Tally K) : Nat := (t.entries.map fun entry => entry.2.toNat).sum

/-- Count the labels of a list. -/
def ofList (ks : List K) : Tally K := ks.foldl bump empty

theorem ofList_concat (ks : List K) (k : K) : ofList (ks ++ [k]) = (ofList ks).bump k := by
  simp [ofList, List.foldl_append]

theorem countList_eq_zero {k : K} {entries : List (K × UInt64)}
    (h : k ∉ entries.map Prod.fst) : countList k entries = 0 := by
  induction entries with
  | nil => rfl
  | cons entry rest ih =>
      obtain ⟨m, n⟩ := entry
      simp only [List.map_cons, List.mem_cons, not_or] at h
      rw [countList, if_neg h.1, ih h.2]

theorem countList_bumpList {k l : K} {entries : List (K × UInt64)}
    (h : (entries.map Prod.fst).Pairwise (· < ·)) :
    countList l (bumpList k entries) = if l = k then countList l entries + 1 else countList l entries := by
  induction entries with
  | nil => simp [bumpList, countList]
  | cons entry rest ih =>
      obtain ⟨m, n⟩ := entry
      simp only [List.map_cons, List.pairwise_cons] at h
      rw [bumpList]
      split
      · next hlt =>
          -- the label is new, since all others are greater
          have hnew : k ∉ (m :: rest.map Prod.fst) := by
            intro hmem
            rcases List.mem_cons.mp hmem with rfl | hmem
            · exact lt_irrefl _ hlt
            · exact lt_asymm hlt (h.1 k hmem)
          by_cases hlk : l = k
          · subst hlk
            rw [if_pos rfl, countList, if_pos rfl]
            rw [show countList l ((m, n) :: rest) = 0 from countList_eq_zero hnew]
            rfl
          · rw [countList, if_neg hlk, if_neg hlk]
      · split
        · next heq =>
            subst heq
            by_cases hlk : l = k <;> simp [countList, hlk]
        · next hne =>
            rw [countList, countList, ih h.2]
            by_cases hlm : l = m
            · subst hlm
              rw [if_pos rfl, if_pos rfl, if_neg (Ne.symm hne)]
            · rw [if_neg hlm, if_neg hlm]

/-- Only the counter of the label changes. -/
theorem count_bump (t : Tally K) (k l : K) :
    (t.bump k).count l = if l = k then t.count l + 1 else t.count l :=
  countList_bumpList t.sorted

theorem mem_labels_bump {t : Tally K} {k l : K} : l ∈ (t.bump k).labels ↔ l = k ∨ l ∈ t.labels :=
  mem_bumpList

/-- A counter tells how often its label was counted, up to a whole number of turns. -/
theorem count_ofList (ks : List K) (k : K) : (ofList ks).count k = UInt64.ofNat (ks.count k) := by
  induction ks using List.reverseRecOn with
  | nil => rfl
  | append_singleton ks l ih =>
      rw [ofList_concat, count_bump, ih, List.count_append, List.count_singleton]
      by_cases hk : k = l
      · simp [hk]
      · have hl : ¬ l = k := fun h => hk h.symm
        simp [hk, hl]

theorem toNat_count_ofList {ks : List K} (h : ks.length < 2 ^ 64) (k : K) :
    ((ofList ks).count k).toNat = ks.count k := by
  rw [count_ofList, UInt64.toNat_ofNat']
  exact Nat.mod_eq_of_lt (Nat.lt_of_le_of_lt List.count_le_length h)

/-- Counters do not go back while labels are counted. -/
theorem count_ofList_le {ks ks' : List K} (h : ks <+: ks') (hlength : ks'.length < 2 ^ 64) (k : K) :
    (ofList ks).count k ≤ (ofList ks').count k := by
  rw [UInt64.le_iff_toNat_le, toNat_count_ofList (Nat.lt_of_le_of_lt h.length_le hlength),
    toNat_count_ofList hlength]
  exact h.sublist.count_le k

theorem mem_labels_ofList {ks : List K} {k : K} : k ∈ (ofList ks).labels ↔ k ∈ ks := by
  induction ks using List.reverseRecOn with
  | nil => simp [ofList, empty, labels]
  | append_singleton ks l ih =>
      rw [ofList_concat, mem_labels_bump, ih, List.mem_append, List.mem_singleton]
      tauto

theorem total_bumpList {k : K} {entries : List (K × UInt64)}
    (h : (countList k entries).toNat + 1 < 2 ^ 64) :
    ((bumpList k entries).map fun entry => entry.2.toNat).sum =
      (entries.map fun entry => entry.2.toNat).sum + 1 := by
  induction entries with
  | nil => simp [bumpList]
  | cons entry rest ih =>
      obtain ⟨m, n⟩ := entry
      rw [bumpList]
      split
      · simp only [List.map_cons, List.sum_cons, UInt64.toNat_one]
        omega
      · split
        · next heq =>
            rw [countList, if_pos heq] at h
            simp only [List.map_cons, List.sum_cons, UInt64.toNat_add, UInt64.toNat_one]
            rw [Nat.mod_eq_of_lt h]
            omega
        · next hne =>
            rw [countList, if_neg hne] at h
            simp only [List.map_cons, List.sum_cons, ih h]
            omega

/-- The counters add up to the number of labels that were counted. -/
theorem total_ofList {ks : List K} (h : ks.length < 2 ^ 64) : (ofList ks).total = ks.length := by
  induction ks using List.reverseRecOn with
  | nil => rfl
  | append_singleton ks l ih =>
      rw [List.length_append, List.length_singleton] at h
      have hlt : ks.length < 2 ^ 64 := by omega
      have hroom : ((ofList ks).count l).toNat + 1 < 2 ^ 64 := by
        rw [toNat_count_ofList hlt]
        have := List.count_le_length (a := l) (l := ks)
        omega
      rw [ofList_concat, List.length_append, List.length_singleton, ← ih hlt]
      exact total_bumpList hroom

end Tally
