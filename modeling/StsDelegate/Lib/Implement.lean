import StsDelegate.Lib.Pool

/-!
# Calls carried out by programs

A program makes calls of one signature. Where each of these calls is itself carried out
by a program over a lower signature, `Prog.expand` puts the two together: the program
becomes one over the lower signature, whose steps can be interleaved with the steps of
others in the middle of what was one call above.

`Linearizes` says when this makes no difference. What is seen of a state below is its
**view**. A program that carries out a call is **pending** until the one step at which
the call takes effect, which changes the view as the call does, and **answered** after
it; all its other steps leave the view alone. Its **stage** records what it relies on
meanwhile (a resource that it owns, say): stages of different programs are **apart**,
and a step keeps what is held at every stage that is apart from its own.

Then every interleaving below has an interleaving above with the same view, the same
results and the same restrictions (`Linearizes.run`).
-/

namespace Effectful

variable {σ τ : Signature} {ε δ α β S T I J Q : Type}

namespace Prog

/-- End with the failure as a result. -/
def attempt : Prog σ ε α → Prog σ δ (Except ε α)
  | .done a => .done (.ok a)
  | .fail e => .done (.error e)
  | .call c k => .call c fun a => (k a).attempt

@[simp] theorem attempt_done (a : α) :
    ((.done a : Prog σ ε α).attempt : Prog σ δ (Except ε α)) = .done (.ok a) := rfl
@[simp] theorem attempt_fail (e : ε) :
    ((.fail e : Prog σ ε α).attempt : Prog σ δ (Except ε α)) = .done (.error e) := rfl
@[simp] theorem attempt_call (c : σ.Call) (k : σ.Answer c → Prog σ ε α) :
    ((Prog.call c k).attempt : Prog σ δ (Except ε α)) = .call c fun a => (k a).attempt := rfl

theorem only_attempt {P : σ.Call → Prop} {p : Prog σ ε α} (hp : Only P p) :
    Only P (p.attempt : Prog σ δ (Except ε α)) := by
  induction p with
  | done a => exact only_done
  | fail e => exact only_done
  | call c k ih =>
      have hc : P c := hp [] c ⟨k, .refl _⟩
      exact only_bind (only_perform hc) fun a =>
        ih a (Only.steps (t := [⟨c, a⟩]) hp (.call (.refl _)))

/-- Catching the failure changes no trace. -/
theorem steps_attempt {p : Prog σ ε α} {t : List (Event σ)} {q : Prog σ δ (Except ε α)}
    (h : Steps (p.attempt : Prog σ δ (Except ε α)) t q) : ∃ q', Steps p t q' ∧ q = q'.attempt := by
  induction p generalizing t with
  | done a =>
      obtain ⟨rfl, rfl⟩ := steps_done.mp h
      exact ⟨.done a, .refl _, rfl⟩
  | fail e =>
      obtain ⟨rfl, rfl⟩ := steps_done.mp h
      exact ⟨.fail e, .refl _, rfl⟩
  | call c k ih =>
      rw [attempt_call] at h
      cases h with
      | refl => exact ⟨.call c k, .refl _, rfl⟩
      | call h' =>
          obtain ⟨q', hq', rfl⟩ := ih _ h'
          exact ⟨q', .call hq', rfl⟩

/-- Carry out every call by the program for it. -/
def expand (impl : (c : σ.Call) → Prog τ ε (σ.Answer c)) : Prog σ ε α → Prog τ ε α
  | .done a => .done a
  | .fail e => .fail e
  | .call c k => impl c >>= fun a => (k a).expand impl

variable {impl : (c : σ.Call) → Prog τ ε (σ.Answer c)}

@[simp] theorem expand_done (a : α) : (.done a : Prog σ ε α).expand impl = .done a := rfl
@[simp] theorem expand_fail (e : ε) : (.fail e : Prog σ ε α).expand impl = .fail e := rfl
@[simp] theorem expand_call (c : σ.Call) (k : σ.Answer c → Prog σ ε α) :
    (Prog.call c k).expand impl = impl c >>= fun a => (k a).expand impl := rfl

end Prog

open Prog

/-- A restriction of the calls that are made, by the call, the input and the state
before it. -/
def Guarded (guard : (c : σ.Call) → I → S → Prop) : Q → Prog σ ε α → I → S → Prop :=
  fun _ p input s => ∀ c k, p = .call c k → guard c input s

/-- A step of a program from one stage to another, as the other programs see it. -/
def StageMoves {Stage : Type} (Inv : T → Prop) (Holds : Stage → T → Prop)
    (Apart : Stage → Stage → Prop) (s : Stage) (t : T) (s' : Stage) (t' : T) : Prop :=
  Inv t' ∧ Holds s' t' ∧ ∀ u, Holds u t → Apart s u → Holds u t' ∧ Apart s' u

/-- Calls above are carried out below by programs that take effect in one step. -/
structure Linearizes (M : Machine σ S I) (N : Machine τ T J)
    (impl : (c : σ.Call) → Prog τ ε (σ.Answer c)) (above : (c : σ.Call) → I → S → Prop)
    (below : (d : τ.Call) → J → T → Prop) where
  /-- What is seen of a state below. -/
  view : T → S
  Inv : T → Prop
  /-- What a program relies on. -/
  Stage : Type
  idle : Stage
  Holds : Stage → T → Prop
  Apart : Stage → Stage → Prop
  holds_idle : ∀ t, Holds idle t
  apart_idle : ∀ u, Apart idle u
  apart_symm : ∀ {s u}, Apart s u → Apart u s
  /-- The call has not taken effect. -/
  Pending : (c : σ.Call) → Stage → Prog τ ε (σ.Answer c) → Prop
  /-- The call has taken effect, with this answer. -/
  Answered : (c : σ.Call) → σ.Answer c → Stage → Prog τ ε (σ.Answer c) → Prop
  pending_start : ∀ c, Pending c idle (impl c)
  call_of_pending : ∀ {c s l}, Pending c s l → ∃ d k, l = .call d k
  leaf_of_answered : ∀ {c a s l}, Answered c a s l → l = .done a ∨ ∃ d k, l = .call d k
  /-- A step before the effect, or the effect. -/
  pending_step : ∀ {c s d k t} j, Inv t → Holds s t → Pending c s (.call d k) → below d j t →
    ∃ s', StageMoves Inv Holds Apart s t s' (N.answer d j t).2 ∧
      ((view (N.answer d j t).2 = view t ∧ Pending c s' (k (N.answer d j t).1)) ∨
        ∃ i, above c i (view t) ∧ view (N.answer d j t).2 = (M.answer c i (view t)).2 ∧
          Answered c (M.answer c i (view t)).1 s' (k (N.answer d j t).1))
  /-- A step after the effect. -/
  answered_step : ∀ {c a s d k t} j, Inv t → Holds s t → Answered c a s (.call d k) →
    below d j t →
    ∃ s', StageMoves Inv Holds Apart s t s' (N.answer d j t).2 ∧
      view (N.answer d j t).2 = view t ∧ Answered c a s' (k (N.answer d j t).1)

namespace Linearizes

variable {M : Machine σ S I} {N : Machine τ T J} {impl : (c : σ.Call) → Prog τ ε (σ.Answer c)}
  {above : (c : σ.Call) → I → S → Prop} {below : (d : τ.Call) → J → T → Prop}

abbrev Moves (L : Linearizes M N impl above below) (s : L.Stage) (t : T) (s' : L.Stage) (t' : T) :
    Prop := StageMoves L.Inv L.Holds L.Apart s t s' t'

/-- A program below and the program above that it is carrying out. -/
inductive Related (L : Linearizes M N impl above below) :
    L.Stage → Prog τ ε α → Prog σ ε α → Prop
  /-- Between two calls. -/
  | rest (s : L.Stage) (p : Prog σ ε α) : Related L s (p.expand impl) p
  | pending {c : σ.Call} {s : L.Stage} {l : Prog τ ε (σ.Answer c)}
      (k : σ.Answer c → Prog σ ε α) (h : L.Pending c s l) :
      Related L s (l >>= fun a => (k a).expand impl) (.call c k)
  | answered {c : σ.Call} {a : σ.Answer c} {s : L.Stage} {l : Prog τ ε (σ.Answer c)}
      (k : σ.Answer c → Prog σ ε α) (h : L.Answered c a s l) :
      Related L s (l >>= fun a => (k a).expand impl) (k a)

/-- A further invariant, under a further restriction of the calls below. -/
def withInvariant (L : Linearizes M N impl above below) (P : T → Prop)
    {below' : (d : τ.Call) → J → T → Prop} (hbelow : ∀ d j t, below' d j t → below d j t)
    (hpending : ∀ {c s d k t} j, L.Inv t → L.Holds s t → L.Pending c s (.call d k) →
      below' d j t → P t → P (N.answer d j t).2)
    (hanswered : ∀ {c a s d k t} j, L.Inv t → L.Holds s t → L.Answered c a s (.call d k) →
      below' d j t → P t → P (N.answer d j t).2) :
    Linearizes M N impl above below' :=
  { L with
    Inv := fun t => L.Inv t ∧ P t
    pending_step := by
      intro c s d k t j hinv hholds h hok
      obtain ⟨s', ⟨hinv', hrest⟩, hcases⟩ :=
        L.pending_step j hinv.1 hholds h (hbelow d j t hok)
      exact ⟨s', ⟨⟨hinv', hpending j hinv.1 hholds h hok hinv.2⟩, hrest⟩, hcases⟩
    answered_step := by
      intro c a s d k t j hinv hholds h hok
      obtain ⟨s', ⟨hinv', hrest⟩, hview⟩ :=
        L.answered_step j hinv.1 hholds h (hbelow d j t hok)
      exact ⟨s', ⟨⟨hinv', hanswered j hinv.1 hholds h hok hinv.2⟩, hrest⟩, hview⟩ }

variable {L : Linearizes M N impl above below} {s : L.Stage} {t : T}

/-- A program that returns below has returned above. -/
theorem Related.of_done {r : α} {p : Prog σ ε α} (h : Related L s (.done r) p) : p = .done r := by
  generalize hl : (Prog.done r : Prog τ ε α) = l at h
  have hrest : ∀ p : Prog σ ε α, .done r = p.expand impl → p = .done r := by
    intro p hp
    cases p with
    | done a => cases hp; rfl
    | fail e => cases hp
    | call c k =>
        obtain ⟨d, k', himpl⟩ := L.call_of_pending (L.pending_start c)
        rw [expand_call, himpl, call_bind] at hp
        cases hp
  cases h with
  | rest => exact hrest p hl
  | pending k hpending =>
      obtain ⟨d, k', rfl⟩ := L.call_of_pending hpending
      rw [call_bind] at hl
      cases hl
  | answered k hanswered =>
      obtain rfl | ⟨d, k', rfl⟩ := L.leaf_of_answered hanswered
      · exact hrest _ hl
      · rw [call_bind] at hl
        cases hl

/-- A program that fails below has failed above. -/
theorem Related.of_fail {e : ε} {p : Prog σ ε α} (h : Related L s (.fail e) p) : p = .fail e := by
  generalize hl : (Prog.fail e : Prog τ ε α) = l at h
  have hrest : ∀ p : Prog σ ε α, .fail e = p.expand impl → p = .fail e := by
    intro p hp
    cases p with
    | done a => cases hp
    | fail e' => cases hp; rfl
    | call c k =>
        obtain ⟨d, k', himpl⟩ := L.call_of_pending (L.pending_start c)
        rw [expand_call, himpl, call_bind] at hp
        cases hp
  cases h with
  | rest => exact hrest p hl
  | pending k hpending =>
      obtain ⟨d, k', rfl⟩ := L.call_of_pending hpending
      rw [call_bind] at hl
      cases hl
  | answered k hanswered =>
      obtain rfl | ⟨d, k', rfl⟩ := L.leaf_of_answered hanswered
      · exact hrest _ hl
      · rw [call_bind] at hl
        cases hl

/-- **One step below** is no step above, or the effect of the call that is pending. -/
theorem Related.step {d : τ.Call} {k : τ.Answer d → Prog τ ε α} {p : Prog σ ε α}
    (h : Related L s (.call d k) p) (j : J) (hinv : L.Inv t) (hholds : L.Holds s t)
    (hbelow : below d j t) :
    ∃ s', L.Moves s t s' (N.answer d j t).2 ∧
      ((L.view (N.answer d j t).2 = L.view t ∧ Related L s' (k (N.answer d j t).1) p) ∨
        ∃ c k' i, p = .call c k' ∧ above c i (L.view t) ∧
          L.view (N.answer d j t).2 = (M.answer c i (L.view t)).2 ∧
          Related L s' (k (N.answer d j t).1) (k' (M.answer c i (L.view t)).1)) := by
  -- the call at the head of what is left is pending, and nothing has been done for it
  have hpending : ∀ {c : σ.Call} {s : L.Stage} {l : Prog τ ε (σ.Answer c)}
      (k' : σ.Answer c → Prog σ ε α), L.Pending c s l → L.Holds s t →
      .call d k = (l >>= fun a => (k' a).expand impl) →
      ∃ s', L.Moves s t s' (N.answer d j t).2 ∧
        ((L.view (N.answer d j t).2 = L.view t ∧
            Related L s' (k (N.answer d j t).1) (.call c k')) ∨
          ∃ i, above c i (L.view t) ∧
            L.view (N.answer d j t).2 = (M.answer c i (L.view t)).2 ∧
            Related L s' (k (N.answer d j t).1) (k' (M.answer c i (L.view t)).1)) := by
    intro c s l k' hl hs heq
    obtain ⟨d', k₀, rfl⟩ := L.call_of_pending hl
    rw [call_bind] at heq
    cases heq
    obtain ⟨s', hmoves, ⟨hview, hl'⟩ | ⟨i, habove, hview, hl'⟩⟩ :=
      L.pending_step j hinv hs hl hbelow
    · exact ⟨s', hmoves, Or.inl ⟨hview, .pending k' hl'⟩⟩
    · exact ⟨s', hmoves, Or.inr ⟨i, habove, hview, .answered k' hl'⟩⟩
  have hrest : ∀ p : Prog σ ε α, .call d k = p.expand impl →
      ∃ s', L.Moves s t s' (N.answer d j t).2 ∧
        ((L.view (N.answer d j t).2 = L.view t ∧ Related L s' (k (N.answer d j t).1) p) ∨
          ∃ c k' i, p = .call c k' ∧ above c i (L.view t) ∧
            L.view (N.answer d j t).2 = (M.answer c i (L.view t)).2 ∧
            Related L s' (k (N.answer d j t).1) (k' (M.answer c i (L.view t)).1)) := by
    intro p heq
    cases p with
    | done a => cases heq
    | fail e => cases heq
    | call c k' =>
        rw [expand_call] at heq
        obtain ⟨s', ⟨hinv', hs', hothers⟩, hcases⟩ :=
          hpending k' (L.pending_start c) (L.holds_idle t) heq
        refine ⟨s', ⟨hinv', hs', fun u hu _ => hothers u hu (L.apart_idle u)⟩, ?_⟩
        obtain h | ⟨i, habove, hview, hl'⟩ := hcases
        · exact Or.inl h
        · exact Or.inr ⟨c, k', i, rfl, habove, hview, hl'⟩
  generalize hl : Prog.call d k = l at h
  cases h with
  | rest => exact hrest p hl
  | pending k' hl' =>
      obtain ⟨s', hmoves, h | ⟨i, habove, hview, hrelated⟩⟩ := hpending k' hl' hholds hl
      · exact ⟨s', hmoves, Or.inl h⟩
      · exact ⟨s', hmoves, Or.inr ⟨_, k', i, rfl, habove, hview, hrelated⟩⟩
  | answered k' hl' =>
      obtain rfl | ⟨d', k₀, rfl⟩ := L.leaf_of_answered hl'
      · exact hrest _ hl
      · rw [call_bind] at hl
        cases hl
        obtain ⟨s', hmoves, hview, hl''⟩ := L.answered_step j hinv hholds hl' hbelow
        exact ⟨s', hmoves, Or.inl ⟨hview, .answered k' hl''⟩⟩

/-! ### Whole runs -/

/-- A pool below and the pool above that it is carrying out. -/
structure Simulates (L : Linearizes M N impl above below) (w : Pool τ ε α T Q)
    (v : Pool σ ε α S Q) (stages : Nat → L.Stage) : Prop where
  state : v.state = L.view w.state
  inv : L.Inv w.state
  length : v.threads.length = w.threads.length
  holds : ∀ i, L.Holds (stages i) w.state
  apart : ∀ i j, i ≠ j → L.Apart (stages i) (stages j)
  idle : ∀ i, w.threads.length ≤ i → stages i = L.idle
  related : ∀ i q l, w.threads[i]? = some (q, l) →
    ∃ p, v.threads[i]? = some (q, p) ∧ L.Related (stages i) l p

theorem simulates_initial (hinv : L.Inv t) :
    L.Simulates (Pool.initial t : Pool τ ε α T Q) (Pool.initial (L.view t)) fun _ => L.idle where
  state := rfl
  inv := hinv
  length := rfl
  holds _ := L.holds_idle t
  apart _ _ _ := L.apart_idle _
  idle _ _ := rfl
  related i q l h := by simp [Pool.initial] at h

/-- One program has moved; the others hold what they held. -/
theorem Simulates.moved {w : Pool τ ε α T Q} {v : Pool σ ε α S Q} {stages : Nat → L.Stage}
    (h : L.Simulates w v stages) {i : Nat} {q : Q} {l l' : Prog τ ε α} {p' : Prog σ ε α}
    {s' : L.Stage} {t' : T} {b : S} {log : List (Nat × Event τ)} {log' : List (Nat × Event σ)}
    (hi : w.threads[i]? = some (q, l)) (hmoves : L.Moves (stages i) w.state s' t')
    (hview : b = L.view t') (hrelated : L.Related s' l' p') :
    L.Simulates ⟨t', w.threads.set i (q, l'), log⟩ ⟨b, v.threads.set i (q, p'), log'⟩
      (Function.update stages i s') := by
  obtain ⟨hinv', hs', hothers⟩ := hmoves
  have hlt : i < w.threads.length := (List.getElem?_eq_some_iff.mp hi).1
  refine ⟨hview, hinv', ?_, fun j => ?_, fun j j' hne => ?_, fun j hj => ?_, fun j q' l'' hj => ?_⟩
  · simpa using h.length
  · by_cases hij : j = i
    · subst hij
      rw [Function.update_self]
      exact hs'
    · rw [Function.update_of_ne hij]
      exact (hothers _ (h.holds j) (h.apart i j (Ne.symm hij))).1
  · by_cases hij : j = i
    · subst hij
      rw [Function.update_self, Function.update_of_ne (Ne.symm hne)]
      exact (hothers _ (h.holds j') (h.apart j j' hne)).2
    · rw [Function.update_of_ne hij]
      by_cases hij' : j' = i
      · subst hij'
        rw [Function.update_self]
        exact L.apart_symm (hothers _ (h.holds j) (h.apart j' j (Ne.symm hij))).2
      · rw [Function.update_of_ne hij']
        exact h.apart j j' hne
  · simp only [List.length_set] at hj
    rw [Function.update_of_ne (by omega)]
    exact h.idle j hj
  · by_cases hij : i = j
    · subst hij
      rw [List.getElem?_set_self hlt] at hj
      cases hj
      rw [Function.update_self]
      exact ⟨p', List.getElem?_set_self (by rw [h.length]; exact hlt), hrelated⟩
    · rw [List.getElem?_set_ne hij] at hj
      rw [Function.update_of_ne (Ne.symm hij)]
      obtain ⟨p, hp, hr⟩ := h.related j q' l'' hj
      exact ⟨p, by rw [List.getElem?_set_ne hij, hp], hr⟩

variable {handler : Q → Prog σ ε α}

/-- **One move below** is no move above, or one. -/
theorem Simulates.move {w w' : Pool τ ε α T Q} {v : Pool σ ε α S Q} {stages : Nat → L.Stage}
    {m : Move Q J} (h : L.Simulates w v stages) (hok : Pool.StepOk (Guarded below) w m)
    (hmove : w.move N (fun q => (handler q).expand impl) m = some w') :
    ∃ ms v' stages', v.exec M handler ms = some v' ∧
      Pool.Along M handler (Pool.StepOk (Guarded above)) v ms ∧ L.Simulates w' v' stages' := by
  obtain ⟨q, rfl, rfl⟩ | ⟨i, j, q, d, k, rfl, hi, rfl⟩ := Pool.move_cases hmove
  · -- the program above starts too
    refine ⟨[.start q], { v with threads := v.threads ++ [(q, handler q)] }, stages, rfl,
      ⟨Pool.stepOk_start q, fun _ _ => trivial⟩, h.state, h.inv, ?_, h.holds, h.apart, ?_, ?_⟩
    · simp [h.length]
    · intro i hi
      exact h.idle i (by simp at hi; omega)
    · intro i q' l hl
      rcases Nat.lt_or_ge i w.threads.length with hlt | hge
      · rw [List.getElem?_append_left hlt] at hl
        obtain ⟨p, hp, hr⟩ := h.related i q' l hl
        exact ⟨p, by rw [List.getElem?_append_left (by rw [h.length]; exact hlt), hp], hr⟩
      · rw [List.getElem?_append_right hge, List.getElem?_singleton] at hl
        split at hl
        · next hzero =>
            cases hl
            refine ⟨handler q, ?_, .rest _ _⟩
            rw [List.getElem?_append_right (by rw [h.length]; exact hge), h.length,
              List.getElem?_singleton, if_pos hzero]
        · cases hl
  · obtain ⟨p, hp, hrelated⟩ := h.related i q _ hi
    obtain ⟨s', hmoves, ⟨hview, hr⟩ | ⟨c, k', input, rfl, habove, hview, hr⟩⟩ :=
      hrelated.step j h.inv (h.holds i) (hok i j q _ rfl hi d k rfl)
    · have hmoved : L.Simulates ⟨(N.answer d j w.state).2,
          w.threads.set i (q, k (N.answer d j w.state).1),
          w.log ++ [(i, ⟨d, (N.answer d j w.state).1⟩)]⟩ ⟨v.state, v.threads.set i (q, p), v.log⟩
          (Function.update stages i s') := h.moved hi hmoves (h.state.trans hview.symm) hr
      rw [Pool.set_of_getElem? hp] at hmoved
      exact ⟨[], v, Function.update stages i s', rfl, trivial, hmoved⟩
    · rw [← h.state] at habove hview hr
      refine ⟨[.step i input], _, _, by rw [Pool.exec, Pool.move, hp]; rfl, ⟨?_, fun _ _ => trivial⟩,
        h.moved hi hmoves hview.symm hr⟩
      refine Pool.stepOk_step hp fun c' k'' heq => ?_
      cases heq
      exact habove

/-- **Every interleaving below is one above.** -/
theorem Simulates.exec {w w' : Pool τ ε α T Q} {v : Pool σ ε α S Q} {stages : Nat → L.Stage}
    {ms : List (Move Q J)} (h : L.Simulates w v stages)
    (hok : Pool.Along N (fun q => (handler q).expand impl) (Pool.StepOk (Guarded below)) w ms)
    (hexec : w.exec N (fun q => (handler q).expand impl) ms = some w') :
    ∃ ms' v' stages', v.exec M handler ms' = some v' ∧
      Pool.Along M handler (Pool.StepOk (Guarded above)) v ms' ∧ L.Simulates w' v' stages' := by
  induction ms generalizing w v stages with
  | nil =>
      rw [Pool.exec] at hexec
      cases hexec
      exact ⟨[], v, stages, rfl, trivial, h⟩
  | cons m ms ih =>
      rw [Pool.exec, Option.bind_eq_some_iff] at hexec
      obtain ⟨w₁, hmove, hrest⟩ := hexec
      obtain ⟨ms₁, v₁, stages₁, hexec₁, halong₁, h₁⟩ := h.move hok.1 hmove
      obtain ⟨ms₂, v₂, stages₂, hexec₂, halong₂, h₂⟩ := ih h₁ (hok.2 w₁ hmove) hrest
      refine ⟨ms₁ ++ ms₂, v₂, stages₂, ?_, (Pool.along_append hexec₁).mpr ⟨halong₁, halong₂⟩, h₂⟩
      rw [Pool.exec_append, hexec₁, Option.bind_some, hexec₂]

/-- A program that has ended below has ended above, in the same way. -/
theorem Simulates.ended {w : Pool τ ε α T Q} {v : Pool σ ε α S Q} {stages : Nat → L.Stage}
    (h : L.Simulates w v stages) {i : Nat} {q : Q} {r : Except ε α}
    (hi : w.threads[i]? = some (q, ofExcept r)) : v.threads[i]? = some (q, ofExcept r) := by
  obtain ⟨p, hp, hrelated⟩ := h.related i q _ hi
  cases r with
  | ok a => rw [hp, hrelated.of_done, ofExcept_ok]
  | error e => rw [hp, hrelated.of_fail, ofExcept_error]

end Linearizes

/-! ### A program that is left alone -/

/-- `Achieves M ok p s r Post`: whatever inputs that are `ok` the environment supplies, the
program ends with `r` in a state with `Post`. -/
def Achieves (M : Machine σ S I) (ok : I → Prop) (p : Prog σ ε α) (s : S) (r : Except ε α)
    (Post : S → Prop) : Prop :=
  ∀ env : Nat → I, (∀ n, ok (env n)) → (p.run M env s).outcome = r ∧ Post (p.run M env s).state

section Achieves

variable {M : Machine σ S I} {ok : I → Prop} {s : S} {Post Mid : S → Prop}

theorem achieves_done {a : α} (h : Post s) : Achieves M ok (.done a : Prog σ ε α) s (.ok a) Post :=
  fun _ _ => ⟨rfl, h⟩

theorem achieves_call {c : σ.Call} {k : σ.Answer c → Prog σ ε α} {r : Except ε α}
    (h : ∀ i, ok i → Achieves M ok (k (M.answer c i s).1) (M.answer c i s).2 r Post) :
    Achieves M ok (.call c k) s r Post :=
  fun env henv => h (env 0) (henv 0) (fun n => env (n + 1)) fun n => henv (n + 1)

theorem achieves_bind {p : Prog σ ε α} {f : α → Prog σ ε β} {a : α} {r : Except ε β}
    (hp : Achieves M ok p s (.ok a) Mid) (hf : ∀ s₁, Mid s₁ → Achieves M ok (f a) s₁ r Post) :
    Achieves M ok (p >>= f) s r Post := by
  intro env henv
  obtain ⟨houtcome, hmid⟩ := hp env henv
  rw [run_bind_ok houtcome]
  exact hf _ hmid _ fun n => henv _

theorem Achieves.mono {p : Prog σ ε α} {r : Except ε α} (h : Achieves M ok p s r Mid)
    (hpost : ∀ s', Mid s' → Post s') : Achieves M ok p s r Post :=
  fun env henv => ⟨(h env henv).1, hpost _ (h env henv).2⟩

theorem achieves_attempt {p : Prog σ ε α} {r : Except ε α} (h : Achieves M ok p s r Post) :
    Achieves M ok (p.attempt : Prog σ δ (Except ε α)) s (.ok r) Post := by
  intro env henv
  have hrun := h env henv
  clear h
  induction p generalizing env s with
  | done a => exact ⟨congrArg Except.ok hrun.1, hrun.2⟩
  | fail e => exact ⟨congrArg Except.ok hrun.1, hrun.2⟩
  | call c k ih => exact ih _ (fun n => env (n + 1)) (fun n => henv _) hrun

end Achieves

/-- What the runs of a program without interruption need: every call is carried out from
every `Good` state, for every `ok` input below, as the input `i` has it above. -/
def CarriesOut (M : Machine σ S I) (N : Machine τ T J) (impl : (c : σ.Call) → Prog τ ε (σ.Answer c))
    (view : T → S) (ok : J → Prop) (i : I) (Good : T → Prop) : Prop :=
  ∀ c t, Good t → Achieves N ok (impl c) t (.ok (M.answer c i (view t)).1) fun t' =>
    view t' = (M.answer c i (view t)).2 ∧ Good t'

section CarriesOut

variable {M : Machine σ S I} {N : Machine τ T J} {impl : (c : σ.Call) → Prog τ ε (σ.Answer c)}
  {view : T → S} {ok : J → Prop} {i : I} {Good : T → Prop} {t : T}

/-- **A program that is left alone** does below what it does above. -/
theorem CarriesOut.achieves (h : CarriesOut M N impl view ok i Good) (p : Prog σ ε α)
    (hgood : Good t) :
    Achieves N ok (p.expand impl) t (p.run M (fun _ => i) (view t)).outcome fun t' =>
      view t' = (p.run M (fun _ => i) (view t)).state ∧ Good t' := by
  induction p generalizing t with
  | done a => exact fun _ _ => ⟨rfl, rfl, hgood⟩
  | fail e => exact fun _ _ => ⟨rfl, rfl, hgood⟩
  | call c k ih =>
      rw [expand_call]
      refine achieves_bind (h c t hgood) fun t₁ hmid => ?_
      obtain ⟨hview, hgood₁⟩ := hmid
      have hrest := ih (M.answer c i (view t)).1 hgood₁
      rw [hview] at hrest
      exact hrest

variable {above : (c : σ.Call) → I → S → Prop} {below : (d : τ.Call) → J → T → Prop} {q : Q}

theorem runOk_bind {p : Prog τ ε α} {f : α → Prog τ ε β} {env : Nat → J}
    (hp : Pool.RunOk N (Guarded below) q p env t)
    (hf : ∀ a, (p.run N env t).outcome = .ok a → Pool.RunOk N (Guarded below) q (f a)
      (fun n => env (n + (p.run N env t).trace.length)) (p.run N env t).state) :
    Pool.RunOk N (Guarded below) q (p >>= f) env t := by
  induction p generalizing env t with
  | done a => exact hf a rfl
  | fail e => trivial
  | call d k ih =>
      obtain ⟨hguard, hrest⟩ := hp
      refine ⟨fun d' k' heq => ?_, ih _ hrest fun a ha => hf a ha⟩
      cases heq
      exact hguard d k rfl

/-- Calls that keep the restriction in every state. -/
theorem runOk_of_only {P : τ.Call → Prop} {p : Prog τ ε α} {env : Nat → J} (hp : Only P p)
    (henv : ∀ n, ok (env n)) (hfree : ∀ d j t, P d → ok j → below d j t) :
    Pool.RunOk N (Guarded below) q p env t := by
  induction p generalizing env t with
  | done a => trivial
  | fail e => trivial
  | call d k ih =>
      have hrest := Only.steps (t := [⟨d, (N.answer d (env 0) t).1⟩]) hp (.call (.refl _))
      refine ⟨fun d' k' heq => ?_, ih _ hrest fun n => henv (n + 1)⟩
      cases heq
      exact hfree d _ _ (hp [] d ⟨k, .refl _⟩) (henv 0)

/-- A run that keeps a restriction above keeps it below. -/
theorem CarriesOut.runOk (h : CarriesOut M N impl view ok i Good)
    (hbelow : ∀ c t env, Good t → (∀ n, ok (env n)) → above c i (view t) →
      Pool.RunOk N (Guarded below) q (impl c) env t)
    {p : Prog σ ε α} {env : Nat → J} (henv : ∀ n, ok (env n)) (hgood : Good t)
    (hp : Pool.RunOk M (Guarded above) q p (fun _ => i) (view t)) :
    Pool.RunOk N (Guarded below) q (p.expand impl) env t := by
  induction p generalizing env t with
  | done a => trivial
  | fail e => trivial
  | call c k ih =>
      obtain ⟨hguard, hrest⟩ := hp
      refine runOk_bind (hbelow c t env hgood henv (hguard c k rfl)) fun a ha => ?_
      obtain ⟨houtcome, hview, hgood₁⟩ := h c t hgood env henv
      rw [houtcome] at ha
      cases ha
      refine ih _ (fun n => henv _) hgood₁ ?_
      rw [hview]
      exact hrest

end CarriesOut

end Effectful
