import StsDelegate.Lib.Implement

/-!
# Calls beside the calls

A program may make calls of a second signature beside its own: it counts, or looks at what
others have counted. `Machine.beside` answers them from a state of its own; they may look at
the state of the first machine, and do not change it.

With those calls left out, a program is a program over the first signature (`Shows`), and a run
of a pool is a run of a pool without them (`erases_exec`): nothing that is done beside the
calls makes a difference to them. Programs that make no call of the first signature disappear
altogether, and the others keep their order.
-/

namespace Effectful

variable {σ τ : Signature} {ε δ α β γ S T I Q P : Type}

/-- The calls of two signatures. -/
abbrev Signature.sum (σ τ : Signature) : Signature where
  Call := σ.Call ⊕ τ.Call
  Answer
    | .inl c => σ.Answer c
    | .inr d => τ.Answer d

namespace Prog

/-- A machine, and calls beside its own. -/
def Machine.beside (M : Machine σ S I) (watch : (d : τ.Call) → S → T → τ.Answer d × T) :
    Machine (σ.sum τ) (S × T) I where
  answer
    | .inl c, input, s => ((M.answer c input s.1).1, ((M.answer c input s.1).2, s.2))
    | .inr d, _, s => ((watch d s.1 s.2).1, (s.1, (watch d s.1 s.2).2))

/-- A program that makes no calls beside its own. -/
def left : Prog σ ε α → Prog (σ.sum τ) ε α
  | .done a => .done a
  | .fail e => .fail e
  | .call c k => .call (.inl c) fun a => (k a).left

/-- The events beside the calls of the first signature. -/
def besides (t : List (Event (σ.sum τ))) : List (Event τ) :=
  t.filterMap fun ev =>
    match ev with
    | ⟨.inl _, _⟩ => none
    | ⟨.inr d, a⟩ => some ⟨d, a⟩

@[simp] theorem besides_append (t u : List (Event (σ.sum τ))) :
    besides (t ++ u) = besides t ++ besides u :=
  List.filterMap_append

theorem mem_besides {ev : Event τ} {t : List (Event (σ.sum τ))} :
    ev ∈ besides t ↔ (⟨.inr ev.1, ev.2⟩ : Event (σ.sum τ)) ∈ t := by
  rw [besides, List.mem_filterMap]
  constructor
  · rintro ⟨⟨c | d, a⟩, hmem, h⟩
    · cases h
    · cases h
      exact hmem
  · exact fun h => ⟨_, h, rfl⟩

/-- A mark on the calls beside, as a mark on all calls. -/
def onBeside (mark : Event τ → Bool) : Event (σ.sum τ) → Bool
  | ⟨.inl _, _⟩ => false
  | ⟨.inr d, a⟩ => mark ⟨d, a⟩

theorem countP_besides (mark : Event τ → Bool) (t : List (Event (σ.sum τ))) :
    (besides t).countP mark = t.countP (onBeside mark) := by
  induction t with
  | nil => rfl
  | cons ev t ih =>
      obtain ⟨c | d, a⟩ := ev
      · rw [List.countP_cons_of_neg (by simp [onBeside]), ← ih]
        rfl
      · rw [List.countP_cons, ← ih]
        exact List.countP_cons

/-- A program on the left leaves nothing beside. -/
theorem steps_left {p : Prog σ ε α} {t : List (Event (σ.sum τ))} {q : Prog (σ.sum τ) ε α}
    (h : Steps p.left t q) : besides t = [] ∧ ∃ q₀ : Prog σ ε α, q = q₀.left ∧ ∃ u, Steps p u q₀ := by
  induction p generalizing t with
  | done a =>
      obtain ⟨rfl, rfl⟩ := steps_done.mp h
      exact ⟨rfl, .done a, rfl, [], .refl _⟩
  | fail e =>
      obtain ⟨rfl, rfl⟩ := steps_fail.mp h
      exact ⟨rfl, .fail e, rfl, [], .refl _⟩
  | call c k ih =>
      rw [left] at h
      cases h with
      | refl => exact ⟨rfl, .call c k, rfl, [], .refl _⟩
      | @call _ _ a _ _ h' =>
          obtain ⟨hbesides, q₀, hq, u, hu⟩ := ih a h'
          exact ⟨hbesides, q₀, hq, ⟨c, a⟩ :: u, .call hu⟩

/-- With the calls beside left out, the first program is the second one. Its results may say
more. -/
inductive Shows (r : α → β → Prop) : Prog (σ.sum τ) ε α → Prog σ ε β → Prop
  | done {a : α} {b : β} (h : r a b) : Shows r (.done a) (.done b)
  | fail (e : ε) : Shows r (.fail e) (.fail e)
  | call {c : σ.Call} {k : σ.Answer c → Prog (σ.sum τ) ε α} {k₀ : σ.Answer c → Prog σ ε β}
      (h : ∀ a, Shows r (k a) (k₀ a)) : Shows r (.call (.inl c) k) (.call c k₀)
  | beside {d : τ.Call} {k : τ.Answer d → Prog (σ.sum τ) ε α} {p : Prog σ ε β}
      (h : ∀ a, Shows r (k a) p) : Shows r (.call (.inr d) k) p

theorem shows_left (p : Prog σ ε α) : Shows (τ := τ) Eq p.left p := by
  induction p with
  | done a => exact .done rfl
  | fail e => exact .fail e
  | call c k ih => exact .call ih

/-- One part after the other. -/
theorem Shows.bind {r : α → β → Prop} {r' : γ → δ → Prop} {p : Prog (σ.sum τ) ε α} {p₀ : Prog σ ε β}
    {f : α → Prog (σ.sum τ) ε γ} {g : β → Prog σ ε δ} (h : Shows r p p₀)
    (hf : ∀ a b, r a b → Shows r' (f a) (g b)) : Shows r' (p >>= f) (p₀ >>= g) := by
  induction h with
  | done h => exact hf _ _ h
  | fail e => exact .fail e
  | call _ ih => exact .call ih
  | beside _ ih => exact .beside ih

/-- A failure may be caught, if it is passed on in the end. -/
theorem Shows.attempt_bind {r : α → β → Prop} {r' : γ → δ → Prop} {p : Prog (σ.sum τ) ε α}
    {p₀ : Prog σ ε β} {f : Except ε α → Prog (σ.sum τ) ε γ} {g : β → Prog σ ε δ} (h : Shows r p p₀)
    (hok : ∀ a b, r a b → Shows r' (f (.ok a)) (g b))
    (herror : ∀ e, Shows r' (f (.error e)) (.fail e)) : Shows r' (p.attempt >>= f) (p₀ >>= g) := by
  induction h with
  | done h => exact hok _ _ h
  | fail e => exact herror e
  | call _ ih => exact .call ih
  | beside _ ih => exact .beside ih

/-- The program makes calls beside only. -/
abbrev Silent (p : Prog (σ.sum τ) ε α) : Prop :=
  Only (σ := σ.sum τ) (fun c => ∃ d : τ.Call, c = Sum.inr d) p

/-- Make a call beside. -/
def beside (d : τ.Call) : Prog (σ.sum τ) ε (τ.Answer d) := .call (.inr d) .done

end Prog

open Prog

namespace Pool

/-! ### Leaving out -/

variable (base : Q → Option P)

/-- How many of the first programs are kept. -/
def place (requests : List Q) (i : Nat) : Nat := (requests.take i).countP fun q => (base q).isSome

/-- An entry of the log that is kept, under its new number. -/
def keptEntry (number : Nat → Nat) : Nat × Event (σ.sum τ) → Option (Nat × Event σ)
  | (i, ⟨.inl c, a⟩) => some (number i, ⟨c, a⟩)
  | (_, ⟨.inr _, _⟩) => none

variable {base}

theorem place_concat {requests : List Q} {q : Q} {i : Nat} (h : i ≤ requests.length) :
    place base (requests ++ [q]) i = place base requests i := by
  rw [place, place, List.take_append_of_le_length h]

/-- Kept programs get different numbers. -/
theorem place_lt {requests : List Q} {i j : Nat} {q : Q} (hi : requests[i]? = some q)
    (hkept : (base q).isSome = true) (hij : i < j) : place base requests i < place base requests j := by
  obtain ⟨hlt, heq⟩ := List.getElem?_eq_some_iff.mp hi
  have hnext : place base requests (i + 1) = place base requests i + 1 := by
    rw [place, place, List.take_succ_eq_append_getElem hlt, heq, List.countP_append]
    simp [hkept]
  have hmono : place base requests (i + 1) ≤ place base requests j := by
    rw [place, place]
    refine List.Sublist.countP_le (List.IsPrefix.sublist ?_)
    rw [List.prefix_take_iff]
    exact ⟨List.take_prefix _ _, by simp; omega⟩
  omega

/-- The second pool is the first one with everything beside left out. -/
structure Erases (base : Q → Option P) (r : α → β → Prop) (w : Pool (σ.sum τ) ε α (S × T) Q)
    (v : Pool σ ε β S P) : Prop where
  state : v.state = w.state.1
  length : v.threads.length = place base (w.threads.map Prod.fst) w.threads.length
  log : v.log = w.log.filterMap (keptEntry (place base (w.threads.map Prod.fst)))
  kept : ∀ (i : Nat) q p q₀, w.threads[i]? = some (q, p) → base q = some q₀ →
    ∃ p₀, v.threads[place base (w.threads.map Prod.fst) i]? = some (q₀, p₀) ∧ Shows r p p₀
  silent : ∀ (i : Nat) q p, w.threads[i]? = some (q, p) → base q = none → Silent p

variable {r : α → β → Prop} {handler : Q → Prog (σ.sum τ) ε α} {handler₀ : P → Prog σ ε β}
  {w : Pool (σ.sum τ) ε α (S × T) Q} {v : Pool σ ε β S P}

theorem erases_initial {s : S} {t : T} :
    Erases base r (initial (s, t) : Pool (σ.sum τ) ε α (S × T) Q) (initial s : Pool σ ε β S P) :=
  ⟨rfl, rfl, rfl, by simp [initial], by simp [initial]⟩

/-- The numbers of the programs that have made calls stay when another one starts. -/
theorem keptLog_concat (hw : Threaded handler w) (q : Q) :
    w.log.filterMap (keptEntry (place base (w.threads.map Prod.fst))) =
      w.log.filterMap (keptEntry (place base (w.threads.map Prod.fst ++ [q]))) := by
  refine List.filterMap_congr fun entry hentry => ?_
  obtain ⟨i, c, a⟩ := entry
  have hlt := hw.started i _ hentry
  cases c with
  | inl c =>
      show some (place base (w.threads.map Prod.fst) i, _) =
        some (place base (w.threads.map Prod.fst ++ [q]) i, _)
      rw [place_concat (by rw [List.length_map]; omega)]
  | inr d => rfl

/-- A program starts that is left out. -/
theorem Erases.start_silent (h : Erases base r w v) (hw : Threaded handler w) {q : Q}
    (hbase : base q = none) (hq : Silent (handler q)) :
    Erases base r { w with threads := w.threads ++ [(q, handler q)] } v where
  state := h.state
  length := by
    rw [h.length]
    simp [place, List.take_of_length_le, hbase]
  log := by
    rw [h.log, List.map_append]
    exact keptLog_concat hw q
  kept i q' p q₀ hi hq₀ := by
    rcases Nat.lt_or_ge i w.threads.length with hlt | hge
    · rw [List.getElem?_append_left hlt] at hi
      simp only [List.map_append, List.map_cons, List.map_nil]
      rw [place_concat (by rw [List.length_map]; omega)]
      exact h.kept i q' p q₀ hi hq₀
    · rw [List.getElem?_append_right hge, List.getElem?_singleton] at hi
      split at hi
      · cases hi
        rw [hbase] at hq₀
        cases hq₀
      · cases hi
  silent i q' p hi hnone := by
    rcases Nat.lt_or_ge i w.threads.length with hlt | hge
    · rw [List.getElem?_append_left hlt] at hi
      exact h.silent i q' p hi hnone
    · rw [List.getElem?_append_right hge, List.getElem?_singleton] at hi
      split at hi
      · cases hi
        exact hq
      · cases hi

/-- A program starts that is kept. -/
theorem Erases.start_kept (h : Erases base r w v) (hw : Threaded handler w) {q : Q} {q₀ : P}
    (hbase : base q = some q₀) (hq : Shows r (handler q) (handler₀ q₀)) :
    Erases base r { w with threads := w.threads ++ [(q, handler q)] }
      { v with threads := v.threads ++ [(q₀, handler₀ q₀)] } where
  state := h.state
  length := by
    rw [List.length_append, h.length]
    simp [place, List.take_of_length_le, hbase]
  log := by
    rw [h.log, List.map_append]
    exact keptLog_concat hw q
  kept i q' p q₀' hi hq₀ := by
    simp only [List.map_append, List.map_cons, List.map_nil]
    rcases Nat.lt_or_ge i w.threads.length with hlt | hge
    · rw [List.getElem?_append_left hlt] at hi
      rw [place_concat (by rw [List.length_map]; omega)]
      obtain ⟨p₀, hp₀, hshows⟩ := h.kept i q' p q₀' hi hq₀
      exact ⟨p₀, by rw [List.getElem?_append_left (List.getElem?_eq_some_iff.mp hp₀).1, hp₀], hshows⟩
    · rw [List.getElem?_append_right hge, List.getElem?_singleton] at hi
      split at hi
      · next hzero =>
          cases hi
          obtain rfl : i = w.threads.length := by omega
          rw [hbase] at hq₀
          cases hq₀
          rw [place_concat (Nat.le_of_eq (List.length_map _).symm), ← h.length]
          exact ⟨_, by rw [List.getElem?_append_right (Nat.le_refl _)]; simp, hq⟩
      · cases hi
  silent i q' p hi hnone := by
    rcases Nat.lt_or_ge i w.threads.length with hlt | hge
    · rw [List.getElem?_append_left hlt] at hi
      exact h.silent i q' p hi hnone
    · rw [List.getElem?_append_right hge, List.getElem?_singleton] at hi
      split at hi
      · cases hi
        rw [hbase] at hnone
        cases hnone
      · cases hi

theorem map_fst_set {i : Nat} {q : Q} {p p' : Prog (σ.sum τ) ε α} {threads : List (Q × Prog (σ.sum τ) ε α)}
    (hi : threads[i]? = some (q, p)) : (threads.set i (q, p')).map Prod.fst = threads.map Prod.fst := by
  rw [List.map_set]
  exact set_of_getElem? (by rw [List.getElem?_map, hi, Option.map_some])

/-- A call beside. -/
theorem Erases.step_beside (h : Erases base r w v) {i : Nat} {q : Q} {d : τ.Call}
    {k : τ.Answer d → Prog (σ.sum τ) ε α} (hi : w.threads[i]? = some (q, .call (.inr d) k))
    (a : τ.Answer d) (t : T) :
    Erases base r ⟨(w.state.1, t), w.threads.set i (q, k a), w.log ++ [(i, ⟨.inr d, a⟩)]⟩ v := by
  have hlt : i < w.threads.length := (List.getElem?_eq_some_iff.mp hi).1
  refine ⟨h.state, ?_, ?_, fun j q' p q₀ hj hq₀ => ?_, fun j q' p hj hnone => ?_⟩
  · simp only [map_fst_set hi, List.length_set]
    exact h.length
  · simp only [map_fst_set hi]
    rw [List.filterMap_append, h.log]
    exact (List.append_nil _).symm
  · simp only [map_fst_set hi]
    by_cases hij : i = j
    · subst hij
      rw [List.getElem?_set_self hlt] at hj
      cases hj
      obtain ⟨p₀, hp₀, hshows⟩ := h.kept i q _ q₀ hi hq₀
      cases hshows with
      | beside hk => exact ⟨p₀, hp₀, hk a⟩
    · rw [List.getElem?_set_ne hij] at hj
      exact h.kept j q' p q₀ hj hq₀
  · by_cases hij : i = j
    · subst hij
      rw [List.getElem?_set_self hlt] at hj
      cases hj
      exact (h.silent i q _ hi hnone).steps (t := [⟨.inr d, a⟩]) (.call (.refl _))
    · rw [List.getElem?_set_ne hij] at hj
      exact h.silent j q' p hj hnone

/-- A call that is kept. -/
theorem Erases.step_kept (h : Erases base r w v) {i : Nat} {q : Q} {c : σ.Call}
    {k : σ.Answer c → Prog (σ.sum τ) ε α} (hi : w.threads[i]? = some (q, .call (.inl c) k))
    (a : σ.Answer c) (s : S) :
    ∃ (j : Nat) (q₀ : P) (k₀ : σ.Answer c → Prog σ ε β), v.threads[j]? = some (q₀, .call c k₀) ∧
      Erases base r ⟨(s, w.state.2), w.threads.set i (q, k a), w.log ++ [(i, ⟨.inl c, a⟩)]⟩
        ⟨s, v.threads.set j (q₀, k₀ a), v.log ++ [(j, ⟨c, a⟩)]⟩ := by
  have hlt : i < w.threads.length := (List.getElem?_eq_some_iff.mp hi).1
  cases hbase : base q with
  | none =>
      -- such a program does not make this call
      obtain ⟨d, hd⟩ := h.silent i q _ hi hbase [] (.inl c) ⟨k, .refl _⟩
      cases hd
  | some q₀ =>
      obtain ⟨p₀, hp₀, hshows⟩ := h.kept i q _ q₀ hi hbase
      cases hshows with
      | @call _ _ k₀ hk =>
          refine ⟨_, q₀, k₀, hp₀, ⟨rfl, ?_, ?_, fun j q' p q₁ hj hq₁ => ?_, fun j q' p hj hnone => ?_⟩⟩
          · simp only [map_fst_set hi, List.length_set]
            exact h.length
          · simp only [map_fst_set hi]
            rw [List.filterMap_append, h.log]
            rfl
          · simp only [map_fst_set hi]
            by_cases hij : i = j
            · subst hij
              rw [List.getElem?_set_self hlt] at hj
              cases hj
              rw [hbase] at hq₁
              cases hq₁
              exact ⟨k₀ a, List.getElem?_set_self (List.getElem?_eq_some_iff.mp hp₀).1, hk a⟩
            · rw [List.getElem?_set_ne hij] at hj
              obtain ⟨p₁, hp₁, hshows⟩ := h.kept j q' p q₁ hj hq₁
              refine ⟨p₁, ?_, hshows⟩
              have hrequest : (w.threads.map Prod.fst)[i]? = some q := by
                rw [List.getElem?_map, hi, Option.map_some]
              have hrequest' : (w.threads.map Prod.fst)[j]? = some q' := by
                rw [List.getElem?_map, hj, Option.map_some]
              have hne : place base (w.threads.map Prod.fst) i ≠ place base (w.threads.map Prod.fst) j := by
                rcases Nat.lt_or_gt_of_ne hij with hlt' | hgt
                · exact Nat.ne_of_lt (place_lt hrequest (by rw [hbase]; rfl) hlt')
                · exact Nat.ne_of_gt (place_lt hrequest' (by rw [hq₁]; rfl) hgt)
              rw [List.getElem?_set_ne hne, hp₁]
          · by_cases hij : i = j
            · subst hij
              rw [List.getElem?_set_self hlt] at hj
              cases hj
              rw [hbase] at hnone
              cases hnone
            · rw [List.getElem?_set_ne hij] at hj
              exact h.silent j q' p hj hnone

/-- **One move.** It is a move of the pool without everything beside, or none. -/
theorem Erases.move {M : Machine σ S I} {watch : (d : τ.Call) → S → T → τ.Answer d × T}
    (hkept : ∀ q q₀, base q = some q₀ → Shows r (handler q) (handler₀ q₀))
    (hsilent : ∀ q, base q = none → Silent (handler q))
    {w w' : Pool (σ.sum τ) ε α (S × T) Q} {v : Pool σ ε β S P} {m : Move Q I}
    (h : Erases base r w v) (hw : Threaded handler w)
    (hmove : w.move (M.beside watch) handler m = some w') :
    ∃ ms v', v.exec M handler₀ ms = some v' ∧ Erases base r w' v' := by
  obtain ⟨q, rfl, rfl⟩ | ⟨i, input, q, c, k, rfl, hi, rfl⟩ := move_cases hmove
  · cases hbase : base q with
    | none => exact ⟨[], v, rfl, h.start_silent hw hbase (hsilent q hbase)⟩
    | some q₀ => exact ⟨[.start q₀], _, rfl, h.start_kept hw hbase (hkept q q₀ hbase)⟩
  · cases c with
    | inl c =>
        obtain ⟨j, q₀, k₀, hj, herases⟩ := h.step_kept hi (M.answer c input w.state.1).1
          (M.answer c input w.state.1).2
        refine ⟨[.step j input], _, ?_, herases⟩
        simp only [exec, Pool.move, hj, h.state, Option.bind_some]
    | inr d => exact ⟨[], v, rfl, h.step_beside hi _ _⟩

/-- **A whole run.** What is done beside the calls makes no difference to them. -/
theorem erases_exec {M : Machine σ S I} {watch : (d : τ.Call) → S → T → τ.Answer d × T}
    (hkept : ∀ q q₀, base q = some q₀ → Shows r (handler q) (handler₀ q₀))
    (hsilent : ∀ q, base q = none → Silent (handler q)) {s : S} {t : T} {ms : List (Move Q I)}
    {w : Pool (σ.sum τ) ε α (S × T) Q}
    (hrun : (initial (s, t)).exec (M.beside watch) handler ms = some w) :
    ∃ ms₀ v, (initial s).exec M handler₀ ms₀ = some v ∧ Erases base r w v := by
  refine (exec_invariant (C := fun _ _ => True)
    (P := fun w => Threaded handler w ∧
      ∃ ms₀ v, (initial s).exec M handler₀ ms₀ = some v ∧ Erases base r w v)
    (fun w m w' hw _ hmove => ?_) ⟨threaded_initial, [], initial s, rfl, erases_initial⟩ along_true
    hrun).2
  obtain ⟨hthreaded, ms₀, v, hexec, herases⟩ := hw
  obtain ⟨ms₁, v', hexec', herases'⟩ := herases.move hkept hsilent hthreaded hmove
  exact ⟨threaded_move hthreaded hmove, ms₀ ++ ms₁, v', by rw [exec_append, hexec, Option.bind_some, hexec'],
    herases'⟩

end Pool

end Effectful
