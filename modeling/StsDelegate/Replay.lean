import StsDelegate.Lib.ExpiryMap
import StsDelegate.Lib.Text

/-!
# The in-memory replay store

`InMemoryReplayStore` of `sts-replay`: a map from replay keys to the expiry they
were recorded with, and a counter that decides when to sweep. A call of
`check_and_record` refuses a key that is still in the map; otherwise it counts
itself, sweeps the expired entries when the counter says so or when the map is
full, and records the key unless the map is full even then.

The rest of the development uses the store through two facts: what a call
answers (`checkAndRecord_cases`, `checkAndRecord_ok_iff`) and what it keeps
(`lookup_checkAndRecord`): an entry is lost only in a call whose `now` lies
beyond the entry's expiry.
-/

namespace StsDelegate

open Text

/-- Failure categories for replay enforcement. -/
inductive ReplayErrorKind
  | invalidRequest
  | replayDetected
  | storeFull
  deriving DecidableEq

/-- A replay-layer error. -/
structure ReplayError where
  kind : ReplayErrorKind
  message : String
  deriving DecidableEq

/-- In-memory replay store for single-process validation. -/
structure InMemoryReplayStore where
  seen : ExpiryMap String Int64
  callsSinceSweep : Nat
  maxSeen : Nat
  sweepEvery : Nat
  sweepEvery_pos : 1 ≤ sweepEvery

theorem one_le_max (n : Nat) : 1 ≤ max n 1 := Nat.le_max_right n 1

namespace InMemoryReplayStore

/-- A new store; sweeping happens at least every call. -/
def new (maxSeen sweepEvery : Nat) : InMemoryReplayStore where
  seen := ∅
  callsSinceSweep := 0
  maxSeen := maxSeen
  sweepEvery := max sweepEvery 1
  sweepEvery_pos := one_le_max sweepEvery

def sweepExpired (store : InMemoryReplayStore) (now : Int64) : InMemoryReplayStore :=
  { store with seen := ExpiryMap.sweep now store.seen }

/-- Count a call, and sweep when enough of them have gone by. -/
def countCall (store : InMemoryReplayStore) (now : Int64) : InMemoryReplayStore :=
  let counted := { store with callsSinceSweep := store.callsSinceSweep + 1 }
  if counted.sweepEvery ≤ counted.callsSinceSweep then
    { counted.sweepExpired now with callsSinceSweep := 0 }
  else counted

/-- Sweep when there is no room. -/
def makeRoom (store : InMemoryReplayStore) (now : Int64) : InMemoryReplayStore :=
  if store.maxSeen ≤ ExpiryMap.size store.seen then store.sweepExpired now else store

/-- Refuse a replayed key, else record it. -/
def checkAndRecord (store : InMemoryReplayStore) (jti : String) (exp now : Int64) :
    Except ReplayError Unit × InMemoryReplayStore :=
  if isBlank jti then (.error ⟨.invalidRequest, "jti must not be empty"⟩, store)
  else if jti ∈ store.seen then
    (.error ⟨.replayDetected, "actor_token replay detected"⟩, store)
  else
    let pruned := (store.countCall now).makeRoom now
    if pruned.maxSeen ≤ ExpiryMap.size pruned.seen then
      (.error ⟨.storeFull, "replay store full, retry shortly"⟩, pruned)
    else (.ok (), { pruned with seen := pruned.seen.insert jti exp })

/-! ### What the two sweeps leave behind -/

/-- The map before recording is the old one, or the old one swept at `now`; the
latter whenever the old one had no room. -/
theorem pruned_seen (store : InMemoryReplayStore) (now : Int64) :
    let pruned := (store.countCall now).makeRoom now
    pruned.maxSeen = store.maxSeen ∧
      (pruned.seen = ExpiryMap.sweep now store.seen ∨
        pruned.seen = store.seen ∧ ExpiryMap.size store.seen < store.maxSeen) := by
  unfold countCall
  by_cases hcount : store.sweepEvery ≤ store.callsSinceSweep + 1
  · simp only [hcount, if_true, makeRoom, sweepExpired]
    split
    · exact ⟨rfl, Or.inl (ExpiryMap.sweep_sweep _ _)⟩
    · exact ⟨rfl, Or.inl rfl⟩
  · simp only [hcount, if_false, makeRoom, sweepExpired]
    split
    · exact ⟨rfl, Or.inl rfl⟩
    · next hroom => exact ⟨rfl, Or.inr ⟨rfl, Nat.lt_of_not_le hroom⟩⟩

/-- After the two sweeps the map is full exactly when the entries that still
count fill it. -/
theorem pruned_full_iff (store : InMemoryReplayStore) (now : Int64) :
    let pruned := (store.countCall now).makeRoom now
    pruned.maxSeen ≤ ExpiryMap.size pruned.seen ↔
      store.maxSeen ≤ ExpiryMap.live now store.seen := by
  obtain ⟨hmax, hseen | ⟨hseen, hroom⟩⟩ := pruned_seen store now
  · simp only [hmax, hseen, ExpiryMap.size_sweep]
  · simp only [hmax, hseen]
    have hlive := ExpiryMap.live_le_size now store.seen
    constructor
    · intro h
      omega
    · intro h
      omega

theorem lookup_pruned {store : InMemoryReplayStore} {now : Int64} {k : String} {e : Int64} :
    (((store.countCall now).makeRoom now).seen.lookup k = some e → store.seen.lookup k = some e) ∧
    (store.seen.lookup k = some e → now ≤ e →
      ((store.countCall now).makeRoom now).seen.lookup k = some e) := by
  obtain ⟨-, hseen | ⟨hseen, -⟩⟩ := pruned_seen store now
  · rw [hseen, ExpiryMap.lookup_sweep]
    exact ⟨And.left, fun h hle => ⟨h, hle⟩⟩
  · rw [hseen]
    exact ⟨id, fun h _ => h⟩

/-! ### What a call answers -/

variable {store : InMemoryReplayStore} {jti : String} {exp now : Int64}

/-- Everything a call can do. -/
theorem checkAndRecord_cases (store : InMemoryReplayStore) (jti : String) (exp now : Int64) :
    (isBlank jti = true ∧ store.checkAndRecord jti exp now =
      (.error ⟨.invalidRequest, "jti must not be empty"⟩, store)) ∨
    (isBlank jti = false ∧ jti ∈ store.seen ∧ store.checkAndRecord jti exp now =
      (.error ⟨.replayDetected, "actor_token replay detected"⟩, store)) ∨
    (isBlank jti = false ∧ jti ∉ store.seen ∧ store.maxSeen ≤ ExpiryMap.live now store.seen ∧
      store.checkAndRecord jti exp now =
        (.error ⟨.storeFull, "replay store full, retry shortly"⟩,
          (store.countCall now).makeRoom now)) ∨
    (isBlank jti = false ∧ jti ∉ store.seen ∧ ExpiryMap.live now store.seen < store.maxSeen ∧
      store.checkAndRecord jti exp now =
        (.ok (), { (store.countCall now).makeRoom now with
          seen := ((store.countCall now).makeRoom now).seen.insert jti exp })) := by
  unfold checkAndRecord
  by_cases hblank : isBlank jti = true
  · exact Or.inl ⟨hblank, by rw [if_pos hblank]⟩
  · rw [if_neg hblank]
    rw [Bool.not_eq_true] at hblank
    by_cases hmem : jti ∈ store.seen
    · exact Or.inr (Or.inl ⟨hblank, hmem, by rw [if_pos hmem]⟩)
    · rw [if_neg hmem]
      by_cases hfull : store.maxSeen ≤ ExpiryMap.live now store.seen
      · refine Or.inr (Or.inr (Or.inl ⟨hblank, hmem, hfull, ?_⟩))
        rw [if_pos ((pruned_full_iff store now).mpr hfull)]
      · refine Or.inr (Or.inr (Or.inr ⟨hblank, hmem, Nat.lt_of_not_le hfull, ?_⟩))
        rw [if_neg fun h => hfull ((pruned_full_iff store now).mp h)]

/-- A call records exactly a non-blank key that is not in the map, while the
entries that still count leave room. -/
theorem checkAndRecord_ok_iff : (store.checkAndRecord jti exp now).1 = .ok () ↔
    isBlank jti = false ∧ jti ∉ store.seen ∧ ExpiryMap.live now store.seen < store.maxSeen := by
  obtain ⟨h, heq⟩ | ⟨h, hmem, heq⟩ | ⟨h, hmem, hfull, heq⟩ | ⟨h, hmem, hroom, heq⟩ :=
    checkAndRecord_cases store jti exp now
  · simp [heq, h]
  · simp [heq, hmem]
  · simp [heq, Nat.not_lt.mpr hfull]
  · simp [heq, h, hmem, hroom]

/-- After a call that records, the key is there with its expiry. -/
theorem lookup_self_of_ok (h : (store.checkAndRecord jti exp now).1 = .ok ()) :
    (store.checkAndRecord jti exp now).2.seen.lookup jti = some exp := by
  obtain ⟨-, heq⟩ | ⟨-, -, heq⟩ | ⟨-, -, -, heq⟩ | ⟨-, -, -, heq⟩ :=
    checkAndRecord_cases store jti exp now
  · simp [heq] at h
  · simp [heq] at h
  · simp [heq] at h
  · rw [heq]
    exact AList.lookup_insert _

/-- An entry is lost only in a call whose `now` lies beyond its expiry. -/
theorem lookup_checkAndRecord {k : String} {e : Int64} (h : store.seen.lookup k = some e)
    (hle : now ≤ e) : (store.checkAndRecord jti exp now).2.seen.lookup k = some e := by
  obtain ⟨-, heq⟩ | ⟨-, -, heq⟩ | ⟨-, -, -, heq⟩ | ⟨-, hmem, -, heq⟩ :=
    checkAndRecord_cases store jti exp now
  · rw [heq]
    exact h
  · rw [heq]
    exact h
  · rw [heq]
    exact lookup_pruned.2 h hle
  · have hne : k ≠ jti := by
      rintro rfl
      rw [← AList.lookup_eq_none, h] at hmem
      cases hmem
    rw [heq]
    simp only
    rw [AList.lookup_insert_ne hne]
    exact lookup_pruned.2 h hle

/-- A call adds no entry but the one it records. -/
theorem lookup_of_lookup_checkAndRecord {k : String} {e : Int64}
    (h : (store.checkAndRecord jti exp now).2.seen.lookup k = some e) :
    store.seen.lookup k = some e ∨
      ((store.checkAndRecord jti exp now).1 = .ok () ∧ k = jti ∧ e = exp) := by
  obtain ⟨-, heq⟩ | ⟨-, -, heq⟩ | ⟨-, -, -, heq⟩ | ⟨-, -, -, heq⟩ :=
    checkAndRecord_cases store jti exp now
  · rw [heq] at h
    exact Or.inl h
  · rw [heq] at h
    exact Or.inl h
  · rw [heq] at h
    exact Or.inl (lookup_pruned.1 h)
  · rw [heq] at h
    simp only at h
    by_cases hk : k = jti
    · subst hk
      rw [AList.lookup_insert] at h
      exact Or.inr ⟨by rw [heq], rfl, (Option.some.inj h).symm⟩
    · rw [AList.lookup_insert_ne hk] at h
      exact Or.inl (lookup_pruned.1 h)

@[simp] theorem checkAndRecord_maxSeen :
    (store.checkAndRecord jti exp now).2.maxSeen = store.maxSeen := by
  have hpruned := (pruned_seen store now).1
  obtain ⟨-, heq⟩ | ⟨-, -, heq⟩ | ⟨-, -, -, heq⟩ | ⟨-, -, -, heq⟩ :=
    checkAndRecord_cases store jti exp now
  · rw [heq]
  · rw [heq]
  · rw [heq]
    exact hpruned
  · rw [heq]
    exact hpruned

end InMemoryReplayStore

end StsDelegate
