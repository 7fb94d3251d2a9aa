import StsDelegate.Lib.Fallible
import StsDelegate.Lib.Prog

/-!
# What a computation can fail with

`ErrorsOnly P x` and `FailsOnly P p` say that every failure has the property `P`. They
are closed under everything such computations are built from, so that the failures of a long
chain of checks are read off its text, one check after the other.
-/

namespace Fallible

variable {ε δ α β : Type} {P : ε → Prop} {x : Except ε α}

/-- Every error of `x` has the property. -/
def ErrorsOnly (P : ε → Prop) (x : Except ε α) : Prop := ∀ e, x = .error e → P e

theorem errorsOnly_ok (a : α) : ErrorsOnly P (.ok a : Except ε α) := by
  intro e h
  cases h

theorem errorsOnly_error {e : ε} (h : P e) : ErrorsOnly P (.error e : Except ε α) := by
  intro e' h'
  cases h'
  exact h

theorem errorsOnly_rejectIf {bad : Bool} {e : ε} (h : P e) : ErrorsOnly P (rejectIf bad e) := by
  cases bad with
  | true => exact errorsOnly_error h
  | false => exact errorsOnly_ok ()

theorem errorsOnly_okOr {y : Option α} {e : ε} (h : P e) : ErrorsOnly P (okOr y e) := by
  cases y with
  | none => exact errorsOnly_error h
  | some a => exact errorsOnly_ok a

/-- A chain fails only as its steps do. -/
theorem errorsOnly_bind {f : α → Except ε β} (hx : ErrorsOnly P x)
    (hf : ∀ a, ErrorsOnly P (f a)) : ErrorsOnly P (x >>= f) := by
  cases x with
  | error e => exact errorsOnly_error (hx e rfl)
  | ok a => exact hf a

theorem errorsOnly_mapError {f : δ → ε} {y : Except δ α} (h : ∀ e, P (f e)) :
    ErrorsOnly P (y.mapError f) := by
  cases y with
  | error e => exact errorsOnly_error (h e)
  | ok a => exact errorsOnly_ok a

end Fallible

namespace Effectful

namespace Prog

variable {σ : Signature} {ε δ α β : Type} {P : ε → Prop}

/-- Every failure of `p` has the property, whatever its calls are answered. -/
def FailsOnly (P : ε → Prop) (p : Prog σ ε α) : Prop := ∀ t e, Fails p t e → P e

theorem failsOnly_done (a : α) : FailsOnly P (.done a : Prog σ ε α) :=
  fun _ _ h => absurd h fails_done

theorem failsOnly_perform (c : σ.Call) : FailsOnly P (perform c : Prog σ ε (σ.Answer c)) :=
  fun _ _ h => absurd h fails_perform

theorem failsOnly_ofExcept {x : Except ε α} (h : Fallible.ErrorsOnly P x) :
    FailsOnly P (ofExcept x : Prog σ ε α) :=
  fun _ e hfails => h e (fails_ofExcept.mp hfails).2

theorem failsOnly_bind {p : Prog σ ε α} {f : α → Prog σ ε β} (hp : FailsOnly P p)
    (hf : ∀ a, FailsOnly P (f a)) : FailsOnly P (p >>= f) := by
  intro t e h
  rw [fails_bind] at h
  rcases h with h | ⟨a, t₁, t₂, -, -, h⟩
  · exact hp t e h
  · exact hf a t₂ e h

theorem failsOnly_mapErr {p : Prog σ δ α} {f : δ → ε} (h : ∀ e, P (f e)) :
    FailsOnly P (p.mapErr f) := by
  intro t e hfails
  obtain ⟨e', -, rfl⟩ := fails_mapErr.mp hfails
  exact h e'

end Prog

end Effectful
