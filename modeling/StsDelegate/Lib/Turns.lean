import StsDelegate.Lib.Pool

/-!
# Taking turns

Programs of a pool that take turns at a shared resource. Each program is at any
moment **outside** or **inside**; what it may assume about the shared state while it
is inside is part of that position. A lock separates the two: a program gets inside
only when the lock is free, and it is taken while anybody is inside.

`Turns` collects what has to be checked of a single step. `Turns.Taken.run` is what
follows for every run: at most one program is inside at a time, its assumptions hold
there, and the shared state only ever changes in the way `R` allows.

The common case is a program that waits, takes the lock, works undisturbed and gives
the lock back as its last call. `Locking` says which calls these are; what is left to
show is `Orderly` of each program, a statement about its own text, one call after the
other (`Locking.turns`).
-/

namespace Effectful

variable {σ : Signature} {ε α S I Q : Type}

/-- How the programs of a pool take turns. `ok` restricts the steps that are
considered, by the program that takes it, the input and the state before it. -/
structure Turns (M : Prog.Machine σ S I) (handler : Q → Prog σ ε α)
    (ok : Q → Prog σ ε α → I → S → Prop) where
  /-- Is the lock taken? -/
  taken : S → Prop
  Outside : Q → Prog σ ε α → Prop
  Inside : Q → Prog σ ε α → S → Prop
  /-- What may happen to the shared state. -/
  R : S → S → Prop
  refl : ∀ s, R s s
  trans : ∀ {s s' s''}, R s s' → R s' s'' → R s s''
  outside_start : ∀ q, Outside q (handler q)
  taken_of_inside : ∀ {q p s}, Inside q p s → taken s
  /-- A step outside leaves the state alone, or gets inside through a free lock. -/
  outside_step : ∀ {q c k input s}, Outside q (.call c k) → ok q (.call c k) input s →
    (Outside q (k (M.answer c input s).1) ∧ (M.answer c input s).2 = s) ∨
    (¬ taken s ∧ Inside q (k (M.answer c input s).1) (M.answer c input s).2 ∧
      R s (M.answer c input s).2)
  /-- A step inside stays inside, or leaves. -/
  inside_step : ∀ {q c k input s}, Inside q (.call c k) s → ok q (.call c k) input s →
    (Inside q (k (M.answer c input s).1) (M.answer c input s).2 ∨
      Outside q (k (M.answer c input s).1)) ∧ R s (M.answer c input s).2

namespace Turns

variable {M : Prog.Machine σ S I} {handler : Q → Prog σ ε α}
  {ok : Q → Prog σ ε α → I → S → Prop}

/-- Everybody but at most one program, the holder, is outside. -/
structure Taken (T : Turns M handler ok) (w : Pool σ ε α S Q) (holder : Option Nat) : Prop where
  others : ∀ (i : Nat) q p, w.threads[i]? = some (q, p) → holder ≠ some i → T.Outside q p
  holds : ∀ i, holder = some i → ∃ q p, w.threads[i]? = some (q, p) ∧ T.Inside q p w.state

theorem taken_initial (T : Turns M handler ok) (s : S) : T.Taken (Pool.initial s) none where
  others i q p h := by simp [Pool.initial] at h
  holds i h := by cases h

/-- A new program starts outside. -/
theorem Taken.start {T : Turns M handler ok} {w : Pool σ ε α S Q} {holder : Option Nat}
    (h : T.Taken w holder) (q : Q) :
    T.Taken { w with threads := w.threads ++ [(q, handler q)] } holder where
  others i q' p hi hne := by
    rcases Nat.lt_or_ge i w.threads.length with hlt | hge
    · rw [List.getElem?_append_left hlt] at hi
      exact h.others i q' p hi hne
    · rw [List.getElem?_append_right hge, List.getElem?_singleton] at hi
      split at hi
      · cases hi
        exact T.outside_start q
      · cases hi
  holds i hi := by
    obtain ⟨q', p, hthread, hinside⟩ := h.holds i hi
    have hlt : i < w.threads.length := (List.getElem?_eq_some_iff.mp hthread).1
    exact ⟨q', p, by rw [List.getElem?_append_left hlt, hthread], hinside⟩

/-- A program that moves to the outside, while nobody else notices. -/
theorem Taken.moved {T : Turns M handler ok} {w : Pool σ ε α S Q} {holder holder' : Option Nat}
    (h : T.Taken w holder) {i : Nat} {q : Q} {p p' : Prog σ ε α} {s : S}
    {log : List (Nat × Event σ)} (hi : w.threads[i]? = some (q, p))
    (hself : holder' ≠ some i → T.Outside q p')
    (hothers : ∀ j, j ≠ i → holder' ≠ some j → holder ≠ some j)
    (hholds : ∀ j, holder' = some j → (j = i ∧ T.Inside q p' s) ∨
      (j ≠ i ∧ holder = some j ∧ s = w.state)) :
    T.Taken ⟨s, w.threads.set i (q, p'), log⟩ holder' where
  others j q' p'' hj hne := by
    by_cases hij : i = j
    · subst hij
      rw [List.getElem?_set_self (List.getElem?_eq_some_iff.mp hi).1] at hj
      cases hj
      exact hself hne
    · rw [List.getElem?_set_ne hij] at hj
      exact h.others j q' p'' hj (hothers j (Ne.symm hij) hne)
  holds j hj := by
    rcases hholds j hj with ⟨hji, hinside⟩ | ⟨hne, hold, hs⟩
    · subst hji
      exact ⟨q, p', List.getElem?_set_self (List.getElem?_eq_some_iff.mp hi).1, hinside⟩
    · obtain ⟨q', p'', hthread, hinside⟩ := h.holds j hold
      refine ⟨q', p'', by rw [List.getElem?_set_ne (Ne.symm hne), hthread], ?_⟩
      rw [hs]
      exact hinside

/-- **One move.** Turns are kept, and the state changes as allowed. -/
theorem Taken.move {T : Turns M handler ok} {w w' : Pool σ ε α S Q} {holder : Option Nat}
    {m : Move Q I} (h : T.Taken w holder) (hok : Pool.StepOk ok w m)
    (hmove : w.move M handler m = some w') :
    (∃ holder', T.Taken w' holder') ∧ T.R w.state w'.state := by
  obtain ⟨q, rfl, rfl⟩ | ⟨i, input, q, c, k, rfl, hi, rfl⟩ := Pool.move_cases hmove
  · exact ⟨⟨holder, h.start q⟩, T.refl _⟩
  · have hthis := hok i input q _ rfl hi
    by_cases hholder : holder = some i
    · -- the holder moves: it stays inside or hands the turn back
      obtain ⟨q', p, hthread, hinside⟩ := h.holds i hholder
      rw [hi] at hthread
      cases hthread
      obtain ⟨hafter, hR⟩ := T.inside_step hinside hthis
      have hother : ∀ j, j ≠ i → holder ≠ some j := by
        intro j hne heq
        rw [hholder] at heq
        exact hne (Option.some.inj heq).symm
      rcases hafter with hinside' | houtside
      · refine ⟨⟨some i, h.moved hi (fun hne => absurd rfl hne) (fun j hne _ => hother j hne) ?_⟩, hR⟩
        intro j hj
        exact Or.inl ⟨(Option.some.inj hj).symm, hinside'⟩
      · refine ⟨⟨none, h.moved hi (fun _ => houtside) (fun j hne _ => hother j hne) ?_⟩, hR⟩
        intro j hj
        cases hj
    · have houtside := h.others i q _ hi hholder
      rcases T.outside_step houtside hthis with ⟨houtside', hsame⟩ | ⟨hfree, hinside, hR⟩
      · refine ⟨⟨holder, h.moved hi (fun _ => houtside') (fun j _ hne => hne) ?_⟩, ?_⟩
        · intro j hj
          refine Or.inr ⟨fun hji => hholder (by rw [hj, hji]), hj, hsame⟩
        · rw [hsame]
          exact T.refl _
      · -- the lock was free, so nobody held the turn
        have hnone : ∀ j, holder ≠ some j := by
          intro j hj
          obtain ⟨q', p, -, hinside'⟩ := h.holds j hj
          exact hfree (T.taken_of_inside hinside')
        refine ⟨⟨some i, h.moved hi (fun hne => absurd rfl hne) (fun j _ _ => hnone j) ?_⟩, hR⟩
        intro j hj
        exact Or.inl ⟨(Option.some.inj hj).symm, hinside⟩

/-- **A whole run.** Turns are kept, and the state changes as allowed. -/
theorem Taken.run {T : Turns M handler ok} {w w' : Pool σ ε α S Q} {holder : Option Nat}
    {ms : List (Move Q I)} (h : T.Taken w holder)
    (hok : Pool.Along M handler (Pool.StepOk ok) w ms) (hrun : w.exec M handler ms = some w') :
    (∃ holder', T.Taken w' holder') ∧ T.R w.state w'.state := by
  induction ms generalizing w holder with
  | nil =>
      rw [Pool.exec] at hrun
      cases hrun
      exact ⟨⟨holder, h⟩, T.refl _⟩
  | cons m ms ih =>
      rw [Pool.exec, Option.bind_eq_some_iff] at hrun
      obtain ⟨w₁, hmove, hrest⟩ := hrun
      obtain ⟨⟨holder₁, h₁⟩, hR⟩ := h.move hok.1 hmove
      obtain ⟨hlast, hR'⟩ := ih h₁ (hok.2 w₁ hmove) hrest
      exact ⟨hlast, T.trans hR hR'⟩

end Turns

/-! ### Programs that give the lock back at their end -/

/-- A lock, the call that gives it back, and what may happen to the state. `guard`
restricts the calls that are considered. -/
structure Locking (M : Prog.Machine σ S I) where
  taken : S → Prop
  release : σ.Call
  guard : σ.Call → I → S → Prop
  R : S → S → Prop
  refl : ∀ s, R s s
  trans : ∀ {s s' s''}, R s s' → R s' s'' → R s s''
  release_step : ∀ input s, R s (M.answer release input s).2

namespace Locking

variable {M : Prog.Machine σ S I}

/-- The program works while it holds the lock: it keeps it, and each of its calls
changes the state as allowed. -/
def Keeps (L : Locking M) : Prog σ ε α → S → Prop
  | .done _, _ => True
  | .fail _, _ => True
  | .call c k, s => ∀ input, L.guard c input s →
      L.taken (M.answer c input s).2 ∧ L.R s (M.answer c input s).2 ∧
        L.Keeps (k (M.answer c input s).1) (M.answer c input s).2

/-- The program waits without touching the state, and works once it has the lock. -/
def Orderly (L : Locking M) (ok : Q → Prog σ ε α → I → S → Prop) (q : Q) : Prog σ ε α → Prop
  | .done _ => True
  | .fail _ => True
  | .call c k => ∀ input s, ok q (.call c k) input s →
      (L.Orderly ok q (k (M.answer c input s).1) ∧ (M.answer c input s).2 = s) ∨
      (¬ L.taken s ∧ L.taken (M.answer c input s).2 ∧ L.R s (M.answer c input s).2 ∧
        ∃ p, k (M.answer c input s).1 = p.ensuring L.release ∧ L.Keeps p (M.answer c input s).2)

theorem keeps_ofExcept_bind {L : Locking M} {β : Type} {x : Except ε β} {f : β → Prog σ ε α} {s : S}
    (h : ∀ b, x = .ok b → L.Keeps (f b) s) : L.Keeps (Prog.ofExcept x >>= f) s := by
  cases x with
  | ok b => exact h b rfl
  | error e => trivial

theorem orderly_ofExcept_bind {L : Locking M} {ok : Q → Prog σ ε α → I → S → Prop} {q : Q}
    {β : Type} {x : Except ε β} {f : β → Prog σ ε α} (h : ∀ b, x = .ok b → L.Orderly ok q (f b)) :
    L.Orderly ok q (Prog.ofExcept x >>= f) := by
  cases x with
  | ok b => exact h b rfl
  | error e => trivial

/-- Orderly programs take turns. -/
def turns (L : Locking M) (handler : Q → Prog σ ε α) {ok : Q → Prog σ ε α → I → S → Prop}
    (hguard : ∀ {q c k input s}, ok q (.call c k) input s → L.guard c input s)
    (horderly : ∀ q, L.Orderly ok q (handler q)) : Turns M handler ok where
  taken := L.taken
  Outside q p := L.Orderly ok q p
  Inside _ p s := L.taken s ∧ ∃ p', p = p'.ensuring L.release ∧ L.Keeps p' s
  R := L.R
  refl := L.refl
  trans := L.trans
  outside_start := horderly
  taken_of_inside h := h.1
  outside_step := by
    intro q c k input s houtside hok
    rcases houtside input s hok with hwaits | ⟨hfree, htaken, hR, hkeeps⟩
    · exact Or.inl hwaits
    · exact Or.inr ⟨hfree, ⟨htaken, hkeeps⟩, hR⟩
  inside_step := by
    intro q c k input s hinside hok
    obtain ⟨htaken, p, hp, hkeeps⟩ := hinside
    cases p with
    | done a =>
        -- the work is over: the call gives the lock back
        cases hp
        exact ⟨Or.inr trivial, L.release_step input s⟩
    | fail e =>
        cases hp
        exact ⟨Or.inr trivial, L.release_step input s⟩
    | call c' k' =>
        cases hp
        obtain ⟨htaken', hR, hkeeps'⟩ := hkeeps input (hguard hok)
        exact ⟨Or.inl ⟨htaken', _, rfl, hkeeps'⟩, hR⟩

end Locking

end Effectful
