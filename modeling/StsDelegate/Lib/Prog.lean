import Mathlib.Data.List.Basic

/-!
# Programs over an effect signature

A small library for code that is pure except for a fixed set of **calls** into
its surroundings (reading a clock, updating a shared store, drawing randomness).
Such code is a `Prog`: a tree whose leaves are results or failures and whose
inner nodes are calls, each waiting for its answer. One and the same tree is then

* run against a **machine** that answers every call from its own state and an
  input supplied by the environment (`Prog.run`), and
* interleaved with other programs over one shared machine (`Lib/Pool.lean`).

What a program did is its **trace**, the list of completed calls with their
answers. `Steps p tr q` says that answering `tr` takes `p` to `q`; the inversion
lemmas of this module take a trace of `p >>= f` apart into a trace of `p` and a
trace of `f a`, so that proofs about long handlers peel one bind at a time and
never unfold `Prog.bind`.
-/

namespace Effectful

/-- An effect signature: the calls a program may make, and the type of the
answer each call receives. -/
structure Signature where
  Call : Type
  Answer : Call → Type

/-- One completed call: the call together with the answer it received. -/
abbrev Event (σ : Signature) : Type := (c : σ.Call) × σ.Answer c

/-- A program that makes calls from `σ`, fails with `ε` or returns an `α`. -/
inductive Prog (σ : Signature) (ε α : Type)
  /-- The program has returned. -/
  | done (a : α)
  /-- The program has failed; nothing after a failure runs. -/
  | fail (e : ε)
  /-- The program makes call `c` and continues with the answer. -/
  | call (c : σ.Call) (k : σ.Answer c → Prog σ ε α)

namespace Prog

variable {σ : Signature} {ε δ α β γ : Type}

/-! ### The monad -/

/-- Run `f` on the result of `p`, keeping the failures and calls of `p`. -/
def bind (p : Prog σ ε α) (f : α → Prog σ ε β) : Prog σ ε β :=
  match p with
  | .done a => f a
  | .fail e => .fail e
  | .call c k => .call c fun a => (k a).bind f

instance : Monad (Prog σ ε) where
  pure := .done
  bind := bind

@[simp] theorem pure_eq (a : α) : (pure a : Prog σ ε α) = .done a := rfl
@[simp] theorem done_bind (a : α) (f : α → Prog σ ε β) : (Prog.done a >>= f) = f a := rfl
@[simp] theorem fail_bind (e : ε) (f : α → Prog σ ε β) :
    ((.fail e : Prog σ ε α) >>= f) = .fail e := rfl
@[simp] theorem call_bind (c : σ.Call) (k : σ.Answer c → Prog σ ε α) (f : α → Prog σ ε β) :
    (Prog.call c k >>= f) = .call c fun a => k a >>= f := rfl

/-- A program followed by returning its result is the program itself. -/
theorem bind_done (p : Prog σ ε α) : (p >>= fun a => .done a) = p := by
  induction p with
  | done a => rfl
  | fail e => rfl
  | call c k ih =>
      rw [call_bind]
      exact congrArg (Prog.call c) (funext ih)

/-- Sequencing is associative. -/
theorem bind_bind (p : Prog σ ε α) (f : α → Prog σ ε β) (g : β → Prog σ ε γ) :
    ((p >>= f) >>= g) = (p >>= fun a => f a >>= g) := by
  induction p with
  | done a => rfl
  | fail e => rfl
  | call c k ih =>
      simp only [call_bind]
      exact congrArg (Prog.call c) (funext ih)

instance : LawfulMonad (Prog σ ε) :=
  LawfulMonad.mk' _ bind_done (fun _ _ => rfl) bind_bind

/-- Make one call and return its answer. -/
def perform (c : σ.Call) : Prog σ ε (σ.Answer c) := .call c .done

/-- A pure computation that may fail, as a program that makes no call. -/
def ofExcept : Except ε α → Prog σ ε α
  | .ok a => .done a
  | .error e => .fail e

instance : MonadLift (Except ε) (Prog σ ε) := ⟨ofExcept⟩

@[simp] theorem liftM_eq (x : Except ε α) : (liftM x : Prog σ ε α) = ofExcept x := rfl
@[simp] theorem monadLift_eq (x : Except ε α) : (MonadLift.monadLift x : Prog σ ε α) = ofExcept x :=
  rfl
@[simp] theorem ofExcept_ok (a : α) : (ofExcept (.ok a) : Prog σ ε α) = .done a := rfl
@[simp] theorem ofExcept_error (e : ε) : (ofExcept (.error e) : Prog σ ε α) = .fail e := rfl

/-- Translate the failures of a program. -/
def mapErr (f : ε → δ) : Prog σ ε α → Prog σ δ α
  | .done a => .done a
  | .fail e => .fail (f e)
  | .call c k => .call c fun a => (k a).mapErr f

@[simp] theorem mapErr_done (f : ε → δ) (a : α) : (Prog.done a : Prog σ ε α).mapErr f = .done a := rfl

theorem mapErr_bind (f : ε → δ) (p : Prog σ ε α) (g : α → Prog σ ε β) :
    (p >>= g).mapErr f = p.mapErr f >>= fun a => (g a).mapErr f := by
  induction p with
  | done a => rfl
  | fail e => rfl
  | call c k ih =>
      rw [call_bind, mapErr, mapErr, call_bind]
      exact congrArg (Prog.call c) (funext ih)

/-- Make one more call when the program ends, whether it has returned or failed. -/
def ensuring (p : Prog σ ε α) (c : σ.Call) : Prog σ ε α :=
  match p with
  | .done a => .call c fun _ => .done a
  | .fail e => .call c fun _ => .fail e
  | .call c' k => .call c' fun a => (k a).ensuring c

@[simp] theorem ensuring_done (a : α) (c : σ.Call) :
    (.done a : Prog σ ε α).ensuring c = .call c fun _ => .done a := rfl
@[simp] theorem ensuring_fail (e : ε) (c : σ.Call) :
    (.fail e : Prog σ ε α).ensuring c = .call c fun _ => .fail e := rfl
@[simp] theorem ensuring_call (c c' : σ.Call) (k : σ.Answer c' → Prog σ ε α) :
    (Prog.call c' k).ensuring c = .call c' fun a => (k a).ensuring c := rfl

/-! ### Traces -/

/-- `Steps p tr q`: answering the calls of `p` by `tr`, in order, leads to `q`. -/
inductive Steps : Prog σ ε α → List (Event σ) → Prog σ ε α → Prop
  | refl (p : Prog σ ε α) : Steps p [] p
  | call {c : σ.Call} {k : σ.Answer c → Prog σ ε α} {a : σ.Answer c} {tr : List (Event σ)}
      {q : Prog σ ε α} : Steps (k a) tr q → Steps (.call c k) (⟨c, a⟩ :: tr) q

/-- The trace `tr` takes the program to the result `a`. -/
def Returns (p : Prog σ ε α) (tr : List (Event σ)) (a : α) : Prop := Steps p tr (.done a)

/-- The trace `tr` takes the program to the failure `e`. -/
def Fails (p : Prog σ ε α) (tr : List (Event σ)) (e : ε) : Prop := Steps p tr (.fail e)

/-- After the trace `tr` the program's next action is the call `c`. -/
def Calls (p : Prog σ ε α) (tr : List (Event σ)) (c : σ.Call) : Prop :=
  ∃ k, Steps p tr (.call c k)

theorem steps_trans {p q r : Prog σ ε α} {t u : List (Event σ)} (h : Steps p t q)
    (h' : Steps q u r) : Steps p (t ++ u) r := by
  induction h with
  | refl => exact h'
  | call _ ih => exact .call (ih h')

/-- A trace may be extended at its end by one more answered call. -/
theorem steps_snoc {p : Prog σ ε α} {t : List (Event σ)} {c : σ.Call}
    {k : σ.Answer c → Prog σ ε α} (h : Steps p t (.call c k)) (a : σ.Answer c) :
    Steps p (t ++ [⟨c, a⟩]) (k a) :=
  steps_trans h (.call (.refl _))

/-- A leaf has no trace but the empty one. -/
theorem steps_done {a : α} {t : List (Event σ)} {q : Prog σ ε α} :
    Steps (.done a) t q ↔ t = [] ∧ q = .done a := by
  constructor
  · intro h
    cases h
    exact ⟨rfl, rfl⟩
  · rintro ⟨rfl, rfl⟩
    exact .refl _

theorem steps_fail {e : ε} {t : List (Event σ)} {q : Prog σ ε α} :
    Steps (.fail e) t q ↔ t = [] ∧ q = .fail e := by
  constructor
  · intro h
    cases h
    exact ⟨rfl, rfl⟩
  · rintro ⟨rfl, rfl⟩
    exact .refl _

/-- Inverting a trace of a sequential composition: either it never leaves the
first program, or it splits where the first program returned. -/
theorem steps_bind {p : Prog σ ε α} {f : α → Prog σ ε β} {t : List (Event σ)} {q : Prog σ ε β} :
    Steps (p >>= f) t q ↔
      (∃ p', Steps p t p' ∧ q = (p' >>= f)) ∨
      (∃ a t₁ t₂, t = t₁ ++ t₂ ∧ Steps p t₁ (.done a) ∧ Steps (f a) t₂ q) := by
  constructor
  · induction p generalizing t with
    | done a => exact fun h => Or.inr ⟨a, [], t, rfl, .refl _, h⟩
    | fail e =>
        intro h
        obtain ⟨rfl, rfl⟩ := steps_fail.mp h
        exact Or.inl ⟨.fail e, .refl _, rfl⟩
    | call c k ih =>
        intro h
        rw [call_bind] at h
        cases h with
        | refl => exact Or.inl ⟨.call c k, .refl _, rfl⟩
        | call h' =>
            rcases ih _ h' with ⟨p', hp', rfl⟩ | ⟨a, t₁, t₂, rfl, hp, hf⟩
            · exact Or.inl ⟨p', .call hp', rfl⟩
            · exact Or.inr ⟨a, _ :: t₁, t₂, rfl, .call hp, hf⟩
  · rintro (⟨p', hp', rfl⟩ | ⟨a, t₁, t₂, rfl, hp, hf⟩)
    · induction hp' with
      | refl => exact .refl _
      | call _ ih => exact .call ih
    · refine steps_trans ?_ hf
      generalize hd : Prog.done a = d at hp
      induction hp with
      | refl => subst hd; exact .refl _
      | call _ ih => exact .call (ih hd)

/-- Two continuations that agree on everything the first program can return may
be exchanged. -/
theorem bind_congr_returns {p : Prog σ ε α} {f g : α → Prog σ ε β}
    (h : ∀ t a, Returns p t a → f a = g a) : (p >>= f) = (p >>= g) := by
  induction p with
  | done a => exact h [] a (.refl _)
  | fail e => rfl
  | call c k ih =>
      rw [call_bind, call_bind]
      congr 1
      funext a
      exact ih a fun t b hb => h (⟨c, a⟩ :: t) b (.call hb)

/-! ### Peeling a result, a failure or a pending call off a bind -/

/-- A composition returns exactly by running both parts to their results. -/
theorem returns_bind {p : Prog σ ε α} {f : α → Prog σ ε β} {t : List (Event σ)} {b : β} :
    Returns (p >>= f) t b ↔
      ∃ a t₁ t₂, t = t₁ ++ t₂ ∧ Returns p t₁ a ∧ Returns (f a) t₂ b := by
  unfold Returns
  rw [steps_bind]
  constructor
  · rintro (⟨p', hp', hq⟩ | h)
    · cases p' with
      | done a => exact ⟨a, t, [], by simp, hp', hq ▸ .refl _⟩
      | fail e => simp at hq
      | call c k => simp at hq
    · exact h
  · exact Or.inr

/-- A composition fails in its first part, or after it. -/
theorem fails_bind {p : Prog σ ε α} {f : α → Prog σ ε β} {t : List (Event σ)} {e : ε} :
    Fails (p >>= f) t e ↔
      Fails p t e ∨ ∃ a t₁ t₂, t = t₁ ++ t₂ ∧ Returns p t₁ a ∧ Fails (f a) t₂ e := by
  unfold Fails Returns
  rw [steps_bind]
  constructor
  · rintro (⟨p', hp', hq⟩ | h)
    · cases p' with
      | done a => exact Or.inr ⟨a, t, [], by simp, hp', hq ▸ .refl _⟩
      | fail e' =>
          obtain rfl : e = e' := by simpa using hq
          exact Or.inl hp'
      | call c k => simp at hq
    · exact Or.inr h
  · rintro (h | h)
    · exact Or.inl ⟨.fail e, h, rfl⟩
    · exact Or.inr h

/-- The pending call of a composition belongs to its first part, or comes after
the first part has returned. -/
theorem calls_bind {p : Prog σ ε α} {f : α → Prog σ ε β} {t : List (Event σ)} {c : σ.Call} :
    Calls (p >>= f) t c ↔
      Calls p t c ∨ ∃ a t₁ t₂, t = t₁ ++ t₂ ∧ Returns p t₁ a ∧ Calls (f a) t₂ c := by
  unfold Calls Returns
  constructor
  · rintro ⟨k, h⟩
    rcases steps_bind.mp h with ⟨p', hp', hq⟩ | ⟨a, t₁, t₂, rfl, hp, hf⟩
    · cases p' with
      | done a => exact Or.inr ⟨a, t, [], by simp, hp', k, by rw [done_bind] at hq; exact hq ▸ .refl _⟩
      | fail e => simp at hq
      | call c' k' =>
          rw [call_bind] at hq
          obtain rfl : c = c' := by
            injection hq
          exact Or.inl ⟨k', hp'⟩
    · exact Or.inr ⟨a, t₁, t₂, rfl, hp, k, hf⟩
  · rintro (⟨k, h⟩ | ⟨a, t₁, t₂, rfl, hp, k, hf⟩)
    · exact ⟨_, steps_bind.mpr (Or.inl ⟨_, h, rfl⟩)⟩
    · exact ⟨k, steps_bind.mpr (Or.inr ⟨a, t₁, t₂, rfl, hp, hf⟩)⟩

@[simp] theorem returns_done {a b : α} {t : List (Event σ)} :
    Returns (.done a : Prog σ ε α) t b ↔ t = [] ∧ a = b := by
  simp [Returns, steps_done, eq_comm]

@[simp] theorem returns_fail {e : ε} {b : α} {t : List (Event σ)} :
    ¬ Returns (.fail e : Prog σ ε α) t b := by
  simp [Returns, steps_fail]

@[simp] theorem fails_done {a : α} {e : ε} {t : List (Event σ)} :
    ¬ Fails (.done a : Prog σ ε α) t e := by
  simp [Fails, steps_done]

@[simp] theorem fails_fail {e e' : ε} {t : List (Event σ)} :
    Fails (.fail e : Prog σ ε α) t e' ↔ t = [] ∧ e = e' := by
  simp [Fails, steps_fail, eq_comm]

@[simp] theorem calls_done {a : α} {c : σ.Call} {t : List (Event σ)} :
    ¬ Calls (.done a : Prog σ ε α) t c := by
  simp [Calls, steps_done]

@[simp] theorem calls_fail {e : ε} {c : σ.Call} {t : List (Event σ)} :
    ¬ Calls (.fail e : Prog σ ε α) t c := by
  simp [Calls, steps_fail]

theorem returns_ofExcept {x : Except ε α} {a : α} {t : List (Event σ)} :
    Returns (ofExcept x : Prog σ ε α) t a ↔ t = [] ∧ x = .ok a := by
  cases x <;> simp

theorem fails_ofExcept {x : Except ε α} {e : ε} {t : List (Event σ)} :
    Fails (ofExcept x : Prog σ ε α) t e ↔ t = [] ∧ x = .error e := by
  cases x <;> simp

theorem calls_ofExcept {x : Except ε α} {c : σ.Call} {t : List (Event σ)} :
    ¬ Calls (ofExcept x : Prog σ ε α) t c := by
  cases x <;> simp

theorem returns_perform {c : σ.Call} {a : σ.Answer c} {t : List (Event σ)} :
    Returns (perform c : Prog σ ε _) t a ↔ t = [⟨c, a⟩] := by
  constructor
  · intro h
    unfold Returns perform at h
    cases h with
    | call h' =>
        obtain ⟨rfl, hq⟩ := steps_done.mp h'
        cases hq
        rfl
  · rintro rfl
    exact .call (.refl _)

theorem fails_perform {c : σ.Call} {e : ε} {t : List (Event σ)} :
    ¬ Fails (perform c : Prog σ ε _) t e := by
  intro h
  unfold Fails perform at h
  cases h with
  | call h' => simpa using (steps_done.mp h').2

theorem calls_perform {c c' : σ.Call} {t : List (Event σ)} :
    Calls (perform c : Prog σ ε _) t c' ↔ t = [] ∧ c' = c := by
  constructor
  · rintro ⟨k, h⟩
    unfold perform at h
    cases h with
    | refl => exact ⟨rfl, rfl⟩
    | call h' => simpa using (steps_done.mp h').2
  · rintro ⟨rfl, rfl⟩
    exact ⟨_, .refl _⟩

/-- A pure step leaves no trace: what follows it has the whole trace. -/
theorem returns_ofExcept_bind {x : Except ε α} {f : α → Prog σ ε β} {t : List (Event σ)} {b : β} :
    Returns (ofExcept x >>= f) t b ↔ ∃ a, x = .ok a ∧ Returns (f a) t b := by
  cases x <;> simp

theorem fails_ofExcept_bind {x : Except ε α} {f : α → Prog σ ε β} {t : List (Event σ)} {e : ε} :
    Fails (ofExcept x >>= f) t e ↔
      (t = [] ∧ x = .error e) ∨ ∃ a, x = .ok a ∧ Fails (f a) t e := by
  cases x <;> simp

theorem calls_ofExcept_bind {x : Except ε α} {f : α → Prog σ ε β} {t : List (Event σ)}
    {c : σ.Call} : Calls (ofExcept x >>= f) t c ↔ ∃ a, x = .ok a ∧ Calls (f a) t c := by
  cases x <;> simp

/-- A call stands at the head of the trace. -/
theorem returns_perform_then {c : σ.Call} {f : σ.Answer c → Prog σ ε β} {t : List (Event σ)}
    {b : β} : Returns (perform c >>= f) t b ↔ ∃ a t', t = ⟨c, a⟩ :: t' ∧ Returns (f a) t' b := by
  rw [returns_bind]
  constructor
  · rintro ⟨a, t₁, t₂, rfl, h₁, h₂⟩
    exact ⟨a, t₂, by rw [returns_perform.mp h₁, List.singleton_append], h₂⟩
  · rintro ⟨a, t', rfl, h⟩
    exact ⟨a, [⟨c, a⟩], t', rfl, returns_perform.mpr rfl, h⟩

theorem fails_perform_then {c : σ.Call} {f : σ.Answer c → Prog σ ε β} {t : List (Event σ)}
    {e : ε} : Fails (perform c >>= f) t e ↔ ∃ a t', t = ⟨c, a⟩ :: t' ∧ Fails (f a) t' e := by
  rw [fails_bind]
  constructor
  · rintro (h | ⟨a, t₁, t₂, rfl, h₁, h₂⟩)
    · exact absurd h fails_perform
    · exact ⟨a, t₂, by rw [returns_perform.mp h₁, List.singleton_append], h₂⟩
  · rintro ⟨a, t', rfl, h⟩
    exact Or.inr ⟨a, [⟨c, a⟩], t', rfl, returns_perform.mpr rfl, h⟩

theorem calls_perform_then {c c' : σ.Call} {f : σ.Answer c → Prog σ ε β} {t : List (Event σ)} :
    Calls (perform c >>= f) t c' ↔
      (t = [] ∧ c' = c) ∨ ∃ a t', t = ⟨c, a⟩ :: t' ∧ Calls (f a) t' c' := by
  rw [calls_bind, calls_perform]
  constructor
  · rintro (h | ⟨a, t₁, t₂, rfl, h₁, h₂⟩)
    · exact Or.inl h
    · exact Or.inr ⟨a, t₂, by rw [returns_perform.mp h₁, List.singleton_append], h₂⟩
  · rintro (h | ⟨a, t', rfl, h⟩)
    · exact Or.inl h
    · exact Or.inr ⟨a, [⟨c, a⟩], t', rfl, returns_perform.mpr rfl, h⟩

/-- A single call whose answer decides between a result and a failure. -/
theorem returns_perform_bind {c : σ.Call} {g : σ.Answer c → Except ε α} {t : List (Event σ)}
    {a : α} : Returns (perform c >>= fun x => (ofExcept (g x) : Prog σ ε α)) t a ↔
      ∃ x, t = [⟨c, x⟩] ∧ g x = .ok a := by
  rw [returns_bind]
  constructor
  · rintro ⟨x, t₁, t₂, rfl, h₁, h₂⟩
    obtain ⟨rfl, hx⟩ := returns_ofExcept.mp h₂
    exact ⟨x, by rw [returns_perform.mp h₁, List.append_nil], hx⟩
  · rintro ⟨x, rfl, hx⟩
    exact ⟨x, _, [], (List.append_nil _).symm, returns_perform.mpr rfl,
      returns_ofExcept.mpr ⟨rfl, hx⟩⟩

theorem fails_perform_bind {c : σ.Call} {g : σ.Answer c → Except ε α} {t : List (Event σ)}
    {e : ε} : Fails (perform c >>= fun x => (ofExcept (g x) : Prog σ ε α)) t e ↔
      ∃ x, t = [⟨c, x⟩] ∧ g x = .error e := by
  rw [fails_bind]
  constructor
  · rintro (h | ⟨x, t₁, t₂, rfl, h₁, h₂⟩)
    · exact absurd h fails_perform
    · obtain ⟨rfl, hx⟩ := fails_ofExcept.mp h₂
      exact ⟨x, by rw [returns_perform.mp h₁, List.append_nil], hx⟩
  · rintro ⟨x, rfl, hx⟩
    exact Or.inr ⟨x, _, [], (List.append_nil _).symm, returns_perform.mpr rfl,
      fails_ofExcept.mpr ⟨rfl, hx⟩⟩

theorem calls_perform_bind {c c' : σ.Call} {g : σ.Answer c → Except ε α} {t : List (Event σ)} :
    Calls (perform c >>= fun x => (ofExcept (g x) : Prog σ ε α)) t c' ↔ t = [] ∧ c' = c := by
  rw [calls_bind]
  constructor
  · rintro (h | ⟨x, t₁, t₂, rfl, h₁, h₂⟩)
    · exact calls_perform.mp h
    · exact absurd h₂ calls_ofExcept
  · exact fun h => Or.inl (calls_perform.mpr h)

/-- Translating failures changes neither the trace nor the result. -/
theorem steps_mapErr {p : Prog σ ε α} {f : ε → δ} {t : List (Event σ)} {q : Prog σ δ α} :
    Steps (p.mapErr f) t q ↔ ∃ q', Steps p t q' ∧ q = q'.mapErr f := by
  constructor
  · induction p generalizing t with
    | done a =>
        intro h
        obtain ⟨rfl, rfl⟩ := steps_done.mp h
        exact ⟨.done a, .refl _, rfl⟩
    | fail e =>
        intro h
        obtain ⟨rfl, rfl⟩ := steps_fail.mp h
        exact ⟨.fail e, .refl _, rfl⟩
    | call c k ih =>
        intro h
        cases h with
        | refl => exact ⟨.call c k, .refl _, rfl⟩
        | call h' =>
            obtain ⟨q', hq', rfl⟩ := ih _ h'
            exact ⟨q', .call hq', rfl⟩
  · rintro ⟨q', hq', rfl⟩
    induction hq' with
    | refl => exact .refl _
    | call _ ih => exact .call ih

theorem returns_mapErr {p : Prog σ ε α} {f : ε → δ} {t : List (Event σ)} {a : α} :
    Returns (p.mapErr f) t a ↔ Returns p t a := by
  unfold Returns
  rw [steps_mapErr]
  constructor
  · rintro ⟨q', hq', h⟩
    cases q' <;> simp [mapErr] at h
    exact h ▸ hq'
  · exact fun h => ⟨_, h, rfl⟩

theorem fails_mapErr {p : Prog σ ε α} {f : ε → δ} {t : List (Event σ)} {e : δ} :
    Fails (p.mapErr f) t e ↔ ∃ e', Fails p t e' ∧ e = f e' := by
  unfold Fails
  rw [steps_mapErr]
  constructor
  · rintro ⟨q', hq', h⟩
    cases q' <;> simp [mapErr] at h
    exact ⟨_, hq', h⟩
  · rintro ⟨e', h, rfl⟩
    exact ⟨_, h, rfl⟩

theorem calls_mapErr {p : Prog σ ε α} {f : ε → δ} {t : List (Event σ)} {c : σ.Call} :
    Calls (p.mapErr f) t c ↔ Calls p t c := by
  unfold Calls
  constructor
  · rintro ⟨k, h⟩
    obtain ⟨q', hq', h⟩ := steps_mapErr.mp h
    cases q' with
    | done a => simp [mapErr] at h
    | fail e => simp [mapErr] at h
    | call c' k' =>
        rw [mapErr] at h
        obtain rfl : c = c' := by injection h
        exact ⟨k', hq'⟩
  · rintro ⟨k, h⟩
    exact ⟨_, steps_mapErr.mpr ⟨_, h, rfl⟩⟩

/-! ### Programs confined to some calls -/

/-- Every call the program can ever make satisfies `P`. -/
def Only (P : σ.Call → Prop) (p : Prog σ ε α) : Prop := ∀ t c, Calls p t c → P c

theorem only_done {P : σ.Call → Prop} {a : α} : Only P (.done a : Prog σ ε α) :=
  fun _ _ h => absurd h calls_done

theorem only_fail {P : σ.Call → Prop} {e : ε} : Only P (.fail e : Prog σ ε α) :=
  fun _ _ h => absurd h calls_fail

theorem only_ofExcept {P : σ.Call → Prop} {x : Except ε α} : Only P (ofExcept x : Prog σ ε α) :=
  fun _ _ h => absurd h calls_ofExcept

theorem only_perform {P : σ.Call → Prop} {c : σ.Call} (h : P c) :
    Only P (perform c : Prog σ ε _) := by
  intro t c' hc
  obtain ⟨-, rfl⟩ := calls_perform.mp hc
  exact h

theorem only_bind {P : σ.Call → Prop} {p : Prog σ ε α} {f : α → Prog σ ε β}
    (hp : Only P p) (hf : ∀ a, Only P (f a)) : Only P (p >>= f) := by
  intro t c hc
  rcases calls_bind.mp hc with h | ⟨a, t₁, t₂, -, -, h⟩
  · exact hp t c h
  · exact hf a t₂ c h

theorem only_mapErr {P : σ.Call → Prop} {p : Prog σ ε α} {f : ε → δ} (hp : Only P p) :
    Only P (p.mapErr f) :=
  fun t c hc => hp t c (calls_mapErr.mp hc)

/-- Every call on a trace was pending at some point, so it satisfies whatever all
calls of the program satisfy. -/
theorem Only.of_mem {P : σ.Call → Prop} {p q : Prog σ ε α} {t : List (Event σ)}
    (hp : Only P p) (h : Steps p t q) : ∀ ev ∈ t, P ev.1 := by
  induction h with
  | refl => simp
  | @call c k a t q _ ih =>
      intro ev hev
      rcases List.mem_cons.mp hev with rfl | hev
      · exact hp [] c ⟨k, .refl _⟩
      · exact ih (fun t c ⟨k', hk'⟩ => hp (_ :: t) c ⟨k', .call hk'⟩) ev hev

/-- Every call on a trace was pending after the part before it. -/
theorem calls_of_mem {p q : Prog σ ε α} {t : List (Event σ)} (h : Steps p t q) {ev : Event σ}
    (hev : ev ∈ t) : ∃ t₁ t₂, t = t₁ ++ ev :: t₂ ∧ Calls p t₁ ev.1 := by
  induction h with
  | refl => cases hev
  | @call c k a t q _ ih =>
      rcases List.mem_cons.mp hev with rfl | hev
      · exact ⟨[], t, rfl, k, .refl _⟩
      · obtain ⟨t₁, t₂, rfl, k', hsteps⟩ := ih hev
        exact ⟨⟨c, a⟩ :: t₁, t₂, rfl, k', .call hsteps⟩

/-- Wherever a program is confined to, it stays confined. -/
theorem Only.steps {P : σ.Call → Prop} {p q : Prog σ ε α} {t : List (Event σ)}
    (hp : Only P p) (h : Steps p t q) : Only P q :=
  fun u c ⟨k, hk⟩ => hp (t ++ u) c ⟨k, steps_trans h hk⟩

/-! ### Running a program against a machine -/

/-- A machine answers calls: the answer depends on its own state `S` and on the
input `I` the environment supplies for this call. -/
structure Machine (σ : Signature) (S I : Type) where
  answer : (c : σ.Call) → I → S → σ.Answer c × S

/-- What one run of a program leaves behind. -/
structure Result (σ : Signature) (ε α S : Type) where
  /-- The value returned, or the failure. -/
  outcome : Except ε α
  /-- The machine state after the run. -/
  state : S
  /-- The calls made, with their answers. -/
  trace : List (Event σ)

variable {S I : Type}

/-- The result of a run that makes one more call first. -/
def Result.cons (ev : Event σ) (r : Result σ ε α S) : Result σ ε α S :=
  ⟨r.outcome, r.state, ev :: r.trace⟩

/-- Run a program to its end. The `n`-th call of the run sees the environment's
input `env n`. -/
def run (M : Machine σ S I) : Prog σ ε α → (Nat → I) → S → Result σ ε α S
  | .done a, _, s => ⟨.ok a, s, []⟩
  | .fail e, _, s => ⟨.error e, s, []⟩
  | .call c k, env, s =>
      let r := M.answer c (env 0) s
      let rest := (k r.1).run M (fun n => env (n + 1)) r.2
      ⟨rest.outcome, rest.state, ⟨c, r.1⟩ :: rest.trace⟩

theorem run_call (M : Machine σ S I) (c : σ.Call) (k : σ.Answer c → Prog σ ε α) (env : Nat → I)
    (s : S) : (Prog.call c k).run M env s =
      ((k (M.answer c (env 0) s).1).run M (fun n => env (n + 1)) (M.answer c (env 0) s).2).cons
        ⟨c, (M.answer c (env 0) s).1⟩ :=
  rfl

/-- A run is one of the program's traces. -/
theorem run_steps (M : Machine σ S I) (p : Prog σ ε α) (env : Nat → I) (s : S) :
    Steps p (p.run M env s).trace (ofExcept (p.run M env s).outcome) := by
  induction p generalizing env s with
  | done a => exact .refl _
  | fail e => exact .refl _
  | call c k ih => exact .call (ih _ _ _)

theorem run_returns {M : Machine σ S I} {p : Prog σ ε α} {env : Nat → I} {s : S} {a : α}
    (h : (p.run M env s).outcome = .ok a) : Returns p (p.run M env s).trace a := by
  have := run_steps M p env s
  rwa [h] at this

theorem run_fails {M : Machine σ S I} {p : Prog σ ε α} {env : Nat → I} {s : S} {e : ε}
    (h : (p.run M env s).outcome = .error e) : Fails p (p.run M env s).trace e := by
  have := run_steps M p env s
  rwa [h] at this

/-- Running a composition: run the first part, then the second part on what is
left of the environment. -/
theorem run_bind_ok {M : Machine σ S I} {p : Prog σ ε α} {f : α → Prog σ ε β} {env : Nat → I}
    {s : S} {a : α} (h : (p.run M env s).outcome = .ok a) :
    ((p >>= f).run M env s) =
      let r₁ := p.run M env s
      let r₂ := (f a).run M (fun n => env (n + r₁.trace.length)) r₁.state
      ⟨r₂.outcome, r₂.state, r₁.trace ++ r₂.trace⟩ := by
  induction p generalizing env s with
  | done a' =>
      obtain rfl : a' = a := by simpa [run] using h
      rfl
  | fail e => simp [run] at h
  | call c k ih =>
      rw [call_bind]
      simp only [run]
      rw [ih _ h]
      simp only [List.length_cons, List.cons_append, Nat.add_assoc]

theorem run_bind_error {M : Machine σ S I} {p : Prog σ ε α} {f : α → Prog σ ε β} {env : Nat → I}
    {s : S} {e : ε} (h : (p.run M env s).outcome = .error e) :
    ((p >>= f).run M env s) = ⟨.error e, (p.run M env s).state, (p.run M env s).trace⟩ := by
  induction p generalizing env s with
  | done a => simp [run] at h
  | fail e' =>
      obtain rfl : e' = e := by simpa [run] using h
      rfl
  | call c k ih =>
      rw [call_bind]
      simp only [run]
      rw [ih _ h]

/-- A run of a composition begins with a run of its first part. -/
theorem trace_prefix_run_bind (M : Machine σ S I) (p : Prog σ ε α) (f : α → Prog σ ε β)
    (env : Nat → I) (s : S) : (p.run M env s).trace <+: ((p >>= f).run M env s).trace := by
  cases h : (p.run M env s).outcome with
  | ok a =>
      rw [run_bind_ok h]
      exact List.prefix_append _ _
  | error e =>
      simp only [run_bind_error h, List.prefix_rfl]

/-- `Yields M ok p s r s'`: whatever inputs that are `ok` the environment supplies, the
program ends with `r` and takes the machine from `s` to `s'`. -/
def Yields (M : Machine σ S I) (ok : I → Prop) (p : Prog σ ε α) (s : S) (r : Except ε α) (s' : S) :
    Prop :=
  ∀ env : Nat → I, (∀ n, ok (env n)) → ∃ t, p.run M env s = ⟨r, s', t⟩

theorem yields_done {M : Machine σ S I} {ok : I → Prop} (a : α) (s : S) :
    Yields M ok (.done a : Prog σ ε α) s (.ok a) s :=
  fun _ _ => ⟨[], rfl⟩

theorem yields_fail {M : Machine σ S I} {ok : I → Prop} (e : ε) (s : S) :
    Yields M ok (.fail e : Prog σ ε α) s (.error e) s :=
  fun _ _ => ⟨[], rfl⟩

/-- A call whose answer does not depend on the input. -/
theorem yields_perform {M : Machine σ S I} {ok : I → Prop} {c : σ.Call} {s s' : S}
    {a : σ.Answer c} (h : ∀ i, ok i → M.answer c i s = (a, s')) :
    Yields M ok (perform c : Prog σ ε _) s (.ok a) s' := by
  intro env henv
  refine ⟨[⟨c, a⟩], ?_⟩
  simp only [perform, run, h _ (henv 0)]

theorem yields_bind {M : Machine σ S I} {ok : I → Prop} {p : Prog σ ε α} {f : α → Prog σ ε β}
    {s s₁ s₂ : S} {a : α} {r : Except ε β} (hp : Yields M ok p s (.ok a) s₁)
    (hf : Yields M ok (f a) s₁ r s₂) : Yields M ok (p >>= f) s r s₂ := by
  intro env henv
  obtain ⟨t₁, h₁⟩ := hp env henv
  obtain ⟨t₂, h₂⟩ := hf (fun n => env (n + t₁.length)) fun n => henv _
  refine ⟨t₁ ++ t₂, ?_⟩
  rw [run_bind_ok (congrArg Result.outcome h₁), h₁]
  simp only [h₂]

theorem yields_bind_error {M : Machine σ S I} {ok : I → Prop} {p : Prog σ ε α}
    {f : α → Prog σ ε β} {s s₁ : S} {e : ε} (hp : Yields M ok p s (.error e) s₁) :
    Yields M ok (p >>= f) s (.error e) s₁ := by
  intro env henv
  obtain ⟨t₁, h₁⟩ := hp env henv
  refine ⟨t₁, ?_⟩
  rw [run_bind_error (congrArg Result.outcome h₁), h₁]

/-- The last call of an ensured program does not change its result. -/
theorem yields_ensuring {M : Machine σ S I} {ok : I → Prop} {p : Prog σ ε α} {c : σ.Call}
    {s s₁ s₂ : S} {r : Except ε α} (hp : Yields M ok p s r s₁)
    (hc : ∀ i, ok i → (M.answer c i s₁).2 = s₂) : Yields M ok (p.ensuring c) s r s₂ := by
  intro env henv
  obtain ⟨t, ht⟩ := hp env henv
  suffices hrun : ∃ t', (p.ensuring c).run M env s = ⟨r, s₂, t'⟩ from hrun
  clear hp
  induction p generalizing env s t with
  | done a =>
      cases ht
      exact ⟨[⟨c, (M.answer c (env 0) s₁).1⟩], by simp [run, hc _ (henv 0)]⟩
  | fail e =>
      cases ht
      exact ⟨[⟨c, (M.answer c (env 0) s₁).1⟩], by simp [run, hc _ (henv 0)]⟩
  | call c' k ih =>
      rw [run_call] at ht
      injection ht with houtcome hstate htrace
      obtain ⟨t', ht'⟩ := ih (M.answer c' (env 0) s).1 (fun n => env (n + 1)) (fun n => henv _)
        _ (by rw [← houtcome, ← hstate])
      refine ⟨⟨c', (M.answer c' (env 0) s).1⟩ :: t', ?_⟩
      rw [ensuring_call, run_call, ht']
      rfl

/-! ### What a program can end with -/

/-- `Ends M p s r s'`: for some inputs of the environment the program ends with `r` and
takes the machine from `s` to `s'`. -/
def Ends (M : Machine σ S I) : Prog σ ε α → S → Except ε α → S → Prop
  | .done a, s, r, s' => r = .ok a ∧ s' = s
  | .fail e, s, r, s' => r = .error e ∧ s' = s
  | .call c k, s, r, s' => ∃ i, Ends M (k (M.answer c i s).1) (M.answer c i s).2 r s'

theorem ends_run (M : Machine σ S I) (p : Prog σ ε α) (env : Nat → I) (s : S) :
    Ends M p s (p.run M env s).outcome (p.run M env s).state := by
  induction p generalizing env s with
  | done a => exact ⟨rfl, rfl⟩
  | fail e => exact ⟨rfl, rfl⟩
  | call c k ih => exact ⟨env 0, ih _ (fun n => env (n + 1)) _⟩

theorem ends_ofExcept_bind {M : Machine σ S I} {x : Except ε α} {f : α → Prog σ ε β} {s s' : S}
    {b : β} : Ends M (ofExcept x >>= f) s (.ok b) s' ↔ ∃ a, x = .ok a ∧ Ends M (f a) s (.ok b) s' := by
  cases x with
  | ok a => simp
  | error e => simp [Ends]

theorem ends_ensuring {M : Machine σ S I} {p : Prog σ ε α} {c : σ.Call} {s s' : S}
    {r : Except ε α} : Ends M (p.ensuring c) s r s' ↔
      ∃ s₁ i, Ends M p s r s₁ ∧ s' = (M.answer c i s₁).2 := by
  induction p generalizing s with
  | done a =>
      simp only [ensuring_done, Ends]
      constructor
      · intro ⟨i, hr, hs⟩
        exact ⟨s, i, ⟨hr, rfl⟩, hs⟩
      · intro ⟨s₁, i, ⟨hr, hs₁⟩, hs⟩
        exact ⟨i, hr, hs₁ ▸ hs⟩
  | fail e =>
      simp only [ensuring_fail, Ends]
      constructor
      · intro ⟨i, hr, hs⟩
        exact ⟨s, i, ⟨hr, rfl⟩, hs⟩
      · intro ⟨s₁, i, ⟨hr, hs₁⟩, hs⟩
        exact ⟨i, hr, hs₁ ▸ hs⟩
  | call c' k ih =>
      simp only [ensuring_call, Ends, ih]
      constructor
      · intro ⟨i', s₁, i, hends, hs⟩
        exact ⟨s₁, i, ⟨i', hends⟩, hs⟩
      · intro ⟨s₁, i, ⟨i', hends⟩, hs⟩
        exact ⟨i', s₁, i, hends, hs⟩

/-- **Frame rule.** If no call on the trace of a run can change the part of the
state that `view` shows, the run leaves that part as it found it. -/
theorem run_frame {M : Machine σ S I} {V : Type} (view : S → V) {p : Prog σ ε α} {env : Nat → I}
    {s : S} (h : ∀ ev ∈ (p.run M env s).trace, ∀ i s', view (M.answer ev.1 i s').2 = view s') :
    view (p.run M env s).state = view s := by
  induction p generalizing env s with
  | done a => rfl
  | fail e => rfl
  | call c k ih =>
      simp only [run] at h ⊢
      rw [ih _ fun ev hev => h ev (List.mem_cons_of_mem _ hev)]
      exact h ⟨c, _⟩ (List.mem_cons_self ..) (env 0) s

/-- **Invariant rule.** What holds before a run and survives every call that the program
makes after some trace holds at its end. -/
theorem run_invariant {M : Machine σ S I} {P : List (Event σ) → S → Prop} {p : Prog σ ε α}
    (hstep : ∀ t s c i, Calls p t c → P t s →
      P (t ++ [⟨c, (M.answer c i s).1⟩]) (M.answer c i s).2)
    (env : Nat → I) {s : S} (h : P [] s) : P (p.run M env s).trace (p.run M env s).state := by
  induction p generalizing env s P with
  | done a => exact h
  | fail e => exact h
  | call c k ih =>
      have hfirst := hstep [] s c (env 0) ⟨k, .refl _⟩ h
      -- the rest of the run starts with one call on its trace
      refine ih (M.answer c (env 0) s).1
        (P := fun t s' => P (⟨c, (M.answer c (env 0) s).1⟩ :: t) s') ?_ _ hfirst
      intro t s' c' i ⟨k', hk'⟩ ht
      exact hstep _ s' c' i ⟨k', .call hk'⟩ ht

end Prog

end Effectful
