import StsDelegate.Replay

/-!
# What a replay store is for

The `ReplayStore` trait and the specification its implementations share. A run of
a store is a sequence of calls, one after another; its **history** lists them with
their results. The history determines which credentials count as used: for each
key the expiry it was last accepted with, as long as that is not over
(`History.live`, the set `L(now)`).

`Conforms` says what one call may answer after a given history. A store refines the
specification (`ReplayStore.Refines`) when every call of every run conforms and its
state stands for the credentials that count; `ReplayStore.refines_of_simulation` is
the induction over runs that this needs, and `InMemoryReplayStore.refines` is the
result for the store in memory.
-/

namespace StsDelegate

open Text

/-- The arguments of `check_and_record`. -/
structure RecordCall where
  jti : String
  exp : Int64
  now : Int64

/-- The trait `ReplayStore`, with the store's state made explicit. -/
structure ReplayStore (S : Type) where
  checkAndRecord : S → RecordCall → Except ReplayError Unit × S

/-- Calls with their results, in order. -/
abbrev History : Type := List (RecordCall × Except ReplayError Unit)

namespace History

/-- Was the key recorded before? -/
def Recorded (history : History) (jti : String) : Prop :=
  ∃ c r, (c, r) ∈ history ∧ c.jti = jti ∧ r = .ok ()

/-- For each key the expiry it was last accepted with. -/
def latest (history : History) : ExpiryMap String Int64 :=
  history.foldl (fun m entry => match entry.2 with
    | .ok _ => m.insert entry.1.jti entry.1.exp
    | .error _ => m) ∅

/-- The credentials that count as used at `now`. -/
def live (history : History) (now : Int64) : ExpiryMap String Int64 :=
  ExpiryMap.sweep now history.latest

@[simp] theorem latest_nil : latest [] = ∅ := rfl

theorem latest_append_ok (history : History) (c : RecordCall) :
    latest (history ++ [(c, .ok ())]) = history.latest.insert c.jti c.exp := by
  simp [latest]

theorem latest_append_error (history : History) (c : RecordCall) (err : ReplayError) :
    latest (history ++ [(c, .error err)]) = history.latest := by
  simp [latest]

/-- A key has a latest expiry exactly when it was recorded. -/
theorem mem_latest {history : History} {jti : String} :
    jti ∈ history.latest ↔ history.Recorded jti := by
  induction history using List.reverseRecOn with
  | nil => simp [Recorded, latest]
  | append_singleton history entry ih =>
      obtain ⟨c, r⟩ := entry
      have hsplit : Recorded (history ++ [(c, r)]) jti ↔
          Recorded history jti ∨ (c.jti = jti ∧ r = .ok ()) := by
        constructor
        · intro ⟨c', r', hmem, hjti, hok⟩
          rcases List.mem_append.mp hmem with hmem | hmem
          · exact Or.inl ⟨c', r', hmem, hjti, hok⟩
          · cases List.mem_singleton.mp hmem
            exact Or.inr ⟨hjti, hok⟩
        · intro h
          rcases h with ⟨c', r', hmem, hjti, hok⟩ | ⟨hjti, hok⟩
          · exact ⟨c', r', List.mem_append_left _ hmem, hjti, hok⟩
          · exact ⟨c, r, List.mem_append_right _ (List.mem_singleton.mpr rfl), hjti, hok⟩
      rw [hsplit]
      cases r with
      | ok _ =>
          rw [latest_append_ok, AList.mem_insert, ih, or_comm]
          simp [eq_comm]
      | error err =>
          rw [latest_append_error, ih]
          simp

theorem lookup_live {history : History} {now : Int64} {k : String} {e : Int64} :
    (history.live now).lookup k = some e ↔ history.latest.lookup k = some e ∧ now ≤ e :=
  ExpiryMap.lookup_sweep

end History

/-! ### Runs -/

/-- What one call may answer after a history, for a store of `maxSeen` credentials. -/
structure Conforms (maxSeen : Nat) (history : History) (c : RecordCall)
    (r : Except ReplayError Unit) : Prop where
  /-- An accepted key did not count as used, there was room, and now it does: the
  set is extended by this pair and changed in no other place. -/
  accepted : r = .ok () → c.jti ∉ history.live c.now ∧
    ExpiryMap.size (history.live c.now) < maxSeen ∧
    ∀ t, c.now ≤ t → ∀ k, (History.live (history ++ [(c, r)]) t).lookup k =
      if k = c.jti ∧ t ≤ c.exp then some c.exp else (history.live t).lookup k
  /-- A full store is full of credentials that count. -/
  full : ∀ err, r = .error err → err.kind = .storeFull →
    maxSeen ≤ ExpiryMap.size (history.live c.now)
  /-- A replayed key was recorded before. -/
  replayed : ∀ err, r = .error err → err.kind = .replayDetected → history.Recorded c.jti
  /-- A refusal changes nothing. -/
  refused : ∀ err, r = .error err → ∀ t, History.live (history ++ [(c, r)]) t = history.live t
  /-- A key that was never recorded is accepted while there is room. -/
  fresh : isBlank c.jti = false → ¬ history.Recorded c.jti →
    ExpiryMap.size (history.live c.now) < maxSeen → r = .ok ()

namespace ReplayStore

variable {S : Type}

/-- One call after another: the history, and the state at the end. -/
def run (store : ReplayStore S) (s : S) (calls : List RecordCall) : History × S :=
  calls.foldl (fun acc c =>
    let r := store.checkAndRecord acc.2 c
    (acc.1 ++ [(c, r.1)], r.2)) ([], s)

theorem run_append (store : ReplayStore S) (s : S) (calls : List RecordCall) (c : RecordCall) :
    store.run s (calls ++ [c]) =
      ((store.run s calls).1 ++ [(c, (store.checkAndRecord (store.run s calls).2 c).1)],
        (store.checkAndRecord (store.run s calls).2 c).2) := by
  simp [run]

/-- The history lists the calls. -/
theorem run_calls (store : ReplayStore S) (s : S) (calls : List RecordCall) :
    (store.run s calls).1.map Prod.fst = calls := by
  induction calls using List.reverseRecOn with
  | nil => rfl
  | append_singleton calls c ih => simp [run_append, ih]

/-- A clock that does not go back. -/
def NowNondecreasing (calls : List RecordCall) : Prop := calls.Pairwise fun c c' => c.now ≤ c'.now

/-- **Simulation.** A relation between histories and states that holds at the start
and is kept by every call whose `now` is not earlier than those before holds
throughout every run with such a clock. -/
theorem rel_of_simulation {store : ReplayStore S} {s₀ : S} {rel : History → S → Prop}
    (hinit : rel [] s₀)
    (hstep : ∀ history s c, rel history s → (∀ c' r', (c', r') ∈ history → c'.now ≤ c.now) →
      rel (history ++ [(c, (store.checkAndRecord s c).1)]) (store.checkAndRecord s c).2)
    {calls : List RecordCall} (htime : NowNondecreasing calls) :
    rel (store.run s₀ calls).1 (store.run s₀ calls).2 := by
  induction calls using List.reverseRecOn with
  | nil => exact hinit
  | append_singleton calls c ih =>
      obtain ⟨hbefore, -, hlast⟩ := List.pairwise_append.mp htime
      rw [run_append]
      refine hstep _ _ c (ih hbefore) fun c' r' hmem => ?_
      have hcall : c' ∈ calls := by
        rw [← run_calls store s₀ calls]
        exact List.mem_map_of_mem hmem
      exact hlast c' hcall c (List.mem_singleton.mpr rfl)

/-- The calls of a run are not later than a call after them. -/
theorem now_le_of_mem_run (store : ReplayStore S) (s₀ : S) {calls : List RecordCall}
    {c : RecordCall} (htime : NowNondecreasing (calls ++ [c])) :
    NowNondecreasing calls ∧
      ∀ c' r', (c', r') ∈ (store.run s₀ calls).1 → c'.now ≤ c.now := by
  obtain ⟨hbefore, -, hlast⟩ := List.pairwise_append.mp htime
  refine ⟨hbefore, fun c' r' hmem => ?_⟩
  have hcall : c' ∈ calls := by
    rw [← run_calls store s₀ calls]
    exact List.mem_map_of_mem hmem
  exact hlast c' hcall c (List.mem_singleton.mpr rfl)

/-- **Refinement.** From `s₀` on, with a clock that does not go back, every call
conforms, and the entries in the state that are not over are the credentials that
count. -/
structure Refines (store : ReplayStore S) (s₀ : S) (maxSeen : Nat)
    (entry : S → String → Option Int64) : Prop where
  conforms : ∀ calls c, NowNondecreasing (calls ++ [c]) →
    Conforms maxSeen (store.run s₀ calls).1 c
      (store.checkAndRecord (store.run s₀ calls).2 c).1
  stands : ∀ calls now, NowNondecreasing calls → (∀ c ∈ calls, c.now ≤ now) →
    ∀ k e, now ≤ e → (entry (store.run s₀ calls).2 k = some e ↔
      (History.live (store.run s₀ calls).1 now).lookup k = some e)

/-- A simulation relation from which conformity follows proves a refinement. -/
theorem refines_of_simulation {store : ReplayStore S} {s₀ : S} {maxSeen : Nat}
    {entry : S → String → Option Int64} {rel : History → S → Prop} (hinit : rel [] s₀)
    (hstep : ∀ history s c, rel history s → (∀ c' r', (c', r') ∈ history → c'.now ≤ c.now) →
      rel (history ++ [(c, (store.checkAndRecord s c).1)]) (store.checkAndRecord s c).2)
    (hconforms : ∀ history s c, rel history s →
      (∀ c' r', (c', r') ∈ history → c'.now ≤ c.now) →
      Conforms maxSeen history c (store.checkAndRecord s c).1)
    (hstands : ∀ history s now, rel history s → (∀ c r, (c, r) ∈ history → c.now ≤ now) →
      ∀ k e, now ≤ e → (entry s k = some e ↔ (History.live history now).lookup k = some e)) :
    Refines store s₀ maxSeen entry where
  conforms calls c htime := by
    obtain ⟨hbefore, hle⟩ := now_le_of_mem_run store s₀ htime
    exact hconforms _ _ c (rel_of_simulation hinit hstep hbefore) hle
  stands calls now htime hle := by
    refine hstands _ _ now (rel_of_simulation hinit hstep htime) fun c r hmem => ?_
    refine hle c ?_
    rw [← run_calls store s₀ calls]
    exact List.mem_map_of_mem hmem

end ReplayStore

/-! ### What follows from a single fact about the map -/

/-- After a key is accepted that did not count as used, exactly it is added. -/
theorem History.lookup_live_append_ok {history : History} {c : RecordCall}
    (h : c.jti ∉ history.live c.now) (t : Int64) (ht : c.now ≤ t) (k : String) :
    (History.live (history ++ [(c, .ok ())]) t).lookup k =
      if k = c.jti ∧ t ≤ c.exp then some c.exp else (history.live t).lookup k := by
  apply Option.ext
  intro e
  rw [History.lookup_live, History.latest_append_ok]
  by_cases hk : k = c.jti
  · -- the record that is replaced does not count any more
    have hover : ∀ e', history.latest.lookup c.jti = some e' → ¬ t ≤ e' := by
      intro e' he' hle
      refine h ?_
      rw [← AList.lookup_isSome, Option.isSome_iff_exists]
      exact ⟨e', History.lookup_live.mpr ⟨he', Int64.le_trans ht hle⟩⟩
    subst hk
    rw [AList.lookup_insert]
    by_cases hle : t ≤ c.exp
    · rw [if_pos ⟨rfl, hle⟩]
      constructor
      · exact fun hboth => hboth.1
      · intro he
        exact ⟨he, by rwa [← Option.some.inj he]⟩
    · rw [if_neg fun hboth => hle hboth.2, History.lookup_live]
      constructor
      · intro hboth
        rw [← Option.some.inj hboth.1] at hboth
        exact absurd hboth.2 hle
      · exact fun hboth => absurd hboth.2 (hover e hboth.1)
  · rw [AList.lookup_insert_ne hk, if_neg fun hboth => hk hboth.1, History.lookup_live]

/-- A call conforms when its result is decided by whether the key is known, by the
credentials that count, and by the capacity. -/
theorem conforms_of_cases {maxSeen : Nat} {history : History} {c : RecordCall}
    {r : Except ReplayError Unit}
    (hok : r = .ok () → c.jti ∉ history.live c.now ∧
      ExpiryMap.size (history.live c.now) < maxSeen)
    (hfull : ∀ err, r = .error err → err.kind = .storeFull →
      maxSeen ≤ ExpiryMap.size (history.live c.now))
    (hreplayed : ∀ err, r = .error err → err.kind = .replayDetected → history.Recorded c.jti)
    (hblank : ∀ err, r = .error err → err.kind = .invalidRequest → isBlank c.jti = true) :
    Conforms maxSeen history c r where
  accepted h := by
    obtain ⟨hnot, hroom⟩ := hok h
    subst h
    exact ⟨hnot, hroom, fun t ht k => History.lookup_live_append_ok hnot t ht k⟩
  full := hfull
  replayed := hreplayed
  refused err h t := by
    rw [h, History.live, History.live, History.latest_append_error]
  fresh hnonblank hnot hroom := by
    cases r with
    | ok _ => rfl
    | error err =>
        cases hkind : err.kind with
        | invalidRequest =>
            have := hblank err rfl hkind
            rw [hnonblank] at this
            cases this
        | replayDetected => exact absurd (hreplayed err rfl hkind) hnot
        | storeFull => exact absurd hroom (Nat.not_lt.mpr (hfull err rfl hkind))

/-! ### The store in memory -/

namespace InMemoryReplayStore

/-- The store in memory, as a `ReplayStore`. -/
def replayStore : ReplayStore InMemoryReplayStore :=
  ⟨fun store c => store.checkAndRecord c.jti c.exp c.now⟩

theorem replayStore_checkAndRecord (store : InMemoryReplayStore) (c : RecordCall) :
    replayStore.checkAndRecord store c = store.checkAndRecord c.jti c.exp c.now := by
  simp only [replayStore]

/-- The entries are latest records, and a record is there as long as it counts. -/
structure Holds (maxSeen : Nat) (history : History) (store : InMemoryReplayStore) : Prop where
  maxSeen_eq : store.maxSeen = maxSeen
  sound : ∀ k e, store.seen.lookup k = some e → history.latest.lookup k = some e
  complete : ∀ k e, history.latest.lookup k = some e →
    (∀ c r, (c, r) ∈ history → c.now ≤ e) → store.seen.lookup k = some e

variable {maxSeen : Nat} {history : History} {store : InMemoryReplayStore}

theorem holds_new (maxSeen sweepEvery : Nat) : Holds maxSeen [] (new maxSeen sweepEvery) where
  maxSeen_eq := rfl
  sound k e h := by
    change (∅ : ExpiryMap String Int64).lookup k = some e at h
    rw [AList.lookup_empty] at h
    cases h
  complete k e h _ := by
    rw [History.latest_nil, AList.lookup_empty] at h
    cases h

/-- At a moment that is not before the history, the store has what counts. -/
theorem Holds.lookup_iff (h : Holds maxSeen history store) {now : Int64}
    (htime : ∀ c r, (c, r) ∈ history → c.now ≤ now) (k : String) (e : Int64) (hle : now ≤ e) :
    store.seen.lookup k = some e ↔ history.latest.lookup k = some e :=
  ⟨h.sound k e, fun hlatest =>
    h.complete k e hlatest fun c r hmem => Int64.le_trans (htime c r hmem) hle⟩

theorem Holds.live_eq (h : Holds maxSeen history store) {now : Int64}
    (htime : ∀ c r, (c, r) ∈ history → c.now ≤ now) :
    ExpiryMap.live now store.seen = ExpiryMap.size (history.live now) :=
  ExpiryMap.live_congr (h.lookup_iff htime)

theorem Holds.conforms (h : Holds maxSeen history store) {c : RecordCall}
    (htime : ∀ c' r', (c', r') ∈ history → c'.now ≤ c.now) :
    Conforms maxSeen history c (store.checkAndRecord c.jti c.exp c.now).1 := by
  have hlive := h.live_eq htime
  have hmax := h.maxSeen_eq
  have hrecorded : c.jti ∈ store.seen → history.Recorded c.jti := by
    intro hmem
    rw [← AList.lookup_isSome, Option.isSome_iff_exists] at hmem
    obtain ⟨e, he⟩ := hmem
    rw [← History.mem_latest, ← AList.lookup_isSome, h.sound _ e he]
    rfl
  have hnotLive : c.jti ∉ store.seen → c.jti ∉ history.live c.now := by
    intro hnot hmem
    rw [← AList.lookup_isSome, Option.isSome_iff_exists] at hmem
    obtain ⟨e, he⟩ := hmem
    obtain ⟨hlatest, hle⟩ := History.lookup_live.mp he
    rw [← AList.lookup_eq_none, (h.lookup_iff htime _ e hle).mpr hlatest] at hnot
    cases hnot
  obtain ⟨hblank, heq⟩ | ⟨-, hmem, heq⟩ | ⟨-, -, hfull, heq⟩ | ⟨-, hmem, hroom, heq⟩ :=
    checkAndRecord_cases store c.jti c.exp c.now
  · rw [heq]
    refine conforms_of_cases ?_ ?_ ?_ ?_
    · intro hok; cases hok
    · intro err herr hkind; cases herr; cases hkind
    · intro err herr hkind; cases herr; cases hkind
    · exact fun _ _ _ => hblank
  · rw [heq]
    refine conforms_of_cases ?_ ?_ ?_ ?_
    · intro hok; cases hok
    · intro err herr hkind; cases herr; cases hkind
    · exact fun _ _ _ => hrecorded hmem
    · intro err herr hkind; cases herr; cases hkind
  · rw [heq]
    refine conforms_of_cases ?_ ?_ ?_ ?_
    · intro hok; cases hok
    · intro err herr hkind
      rwa [← hlive, ← hmax]
    · intro err herr hkind; cases herr; cases hkind
    · intro err herr hkind; cases herr; cases hkind
  · rw [heq]
    refine conforms_of_cases ?_ ?_ ?_ ?_
    · intro _
      refine ⟨hnotLive hmem, ?_⟩
      rwa [← hlive, ← hmax]
    · intro err herr; cases herr
    · intro err herr; cases herr
    · intro err herr; cases herr

/-- A call keeps the store in step with the history. -/
theorem Holds.step (h : Holds maxSeen history store) (c : RecordCall) :
    Holds maxSeen (history ++ [(c, (store.checkAndRecord c.jti c.exp c.now).1)])
      (store.checkAndRecord c.jti c.exp c.now).2 where
  maxSeen_eq := by rw [checkAndRecord_maxSeen, h.maxSeen_eq]
  sound k e hlookup := by
    cases hr : (store.checkAndRecord c.jti c.exp c.now).1 with
    | ok _ =>
        rw [History.latest_append_ok]
        by_cases hk : k = c.jti
        · subst hk
          rw [lookup_self_of_ok hr] at hlookup
          rw [AList.lookup_insert, hlookup]
        · rw [AList.lookup_insert_ne hk]
          rcases lookup_of_lookup_checkAndRecord hlookup with hbefore | ⟨-, hkey, -⟩
          · exact h.sound k e hbefore
          · exact absurd hkey hk
    | error err =>
        rw [History.latest_append_error]
        rcases lookup_of_lookup_checkAndRecord hlookup with hbefore | ⟨hok, -⟩
        · exact h.sound k e hbefore
        · rw [hr] at hok
          cases hok
  complete k e hlookup hcounts := by
    have hle : c.now ≤ e :=
      hcounts c _ (List.mem_append_right _ (List.mem_singleton.mpr rfl))
    have hbefore : ∀ c' r', (c', r') ∈ history → c'.now ≤ e :=
      fun c' r' hmem => hcounts c' r' (List.mem_append_left _ hmem)
    cases hr : (store.checkAndRecord c.jti c.exp c.now).1 with
    | ok _ =>
        rw [hr, History.latest_append_ok] at hlookup
        by_cases hk : k = c.jti
        · subst hk
          rw [AList.lookup_insert] at hlookup
          rw [lookup_self_of_ok hr, hlookup]
        · rw [AList.lookup_insert_ne hk] at hlookup
          exact lookup_checkAndRecord (h.complete k e hlookup hbefore) hle
    | error err =>
        rw [hr, History.latest_append_error] at hlookup
        exact lookup_checkAndRecord (h.complete k e hlookup hbefore) hle

/-- **The store in memory refines the specification.** -/
theorem refines (maxSeen sweepEvery : Nat) :
    ReplayStore.Refines replayStore (new maxSeen sweepEvery) maxSeen
      fun store k => store.seen.lookup k := by
  refine ReplayStore.refines_of_simulation (holds_new maxSeen sweepEvery) ?_ ?_ ?_
  · intro history store c h _
    rw [replayStore_checkAndRecord]
    exact h.step c
  · intro history store c h htime
    rw [replayStore_checkAndRecord]
    exact h.conforms htime
  · intro history store now h htime k e hle
    rw [h.lookup_iff htime k e hle, History.lookup_live]
    exact (and_iff_left hle).symm

end InMemoryReplayStore

end StsDelegate
