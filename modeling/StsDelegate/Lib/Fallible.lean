import Mathlib.Data.List.Forall2

/-!
# Fallible computations

Early return in the style of `?`: a computation in `Except ε` stops at its first
error. Each combinator comes with the lemma that says when it succeeds, so that a
successful run of a long chain of checks is taken apart into what every single
check established.
-/

namespace Fallible

variable {ε δ α β : Type}

/-- `if bad { return Err(e) }`. -/
def rejectIf (bad : Bool) (e : ε) : Except ε Unit := if bad then .error e else .ok ()

/-- `Option::ok_or`. -/
def okOr (x : Option α) (e : ε) : Except ε α :=
  match x with
  | some a => .ok a
  | none => .error e

/-- Fail with the error a call reported, if it reported one. -/
def failOn (reported : Option α) (e : α → ε) : Except ε Unit :=
  match reported with
  | some a => .error (e a)
  | none => .ok ()

@[simp] theorem ok_bind (a : α) (f : α → Except ε β) : (Except.ok a >>= f) = f a := rfl
@[simp] theorem error_bind (e : ε) (f : α → Except ε β) :
    ((.error e : Except ε α) >>= f) = .error e := rfl
@[simp] theorem okOr_some (a : α) (e : ε) : okOr (some a) e = .ok a := rfl
@[simp] theorem mapError_ok (a : α) (f : ε → δ) : (Except.ok a).mapError f = .ok a := rfl

@[simp] theorem rejectIf_eq_ok {bad : Bool} {e : ε} {u : Unit} :
    rejectIf bad e = .ok u ↔ bad = false := by
  cases bad <;> simp [rejectIf]

@[simp] theorem okOr_eq_ok {x : Option α} {e : ε} {a : α} : okOr x e = .ok a ↔ x = some a := by
  cases x <;> simp [okOr]

@[simp] theorem failOn_eq_ok {reported : Option α} {e : α → ε} {u : Unit} :
    failOn reported e = .ok u ↔ reported = none := by
  cases reported <;> simp [failOn]

/-- A chain succeeds exactly when its first step does and the rest does. -/
@[simp] theorem bind_eq_ok {x : Except ε α} {f : α → Except ε β} {b : β} :
    (x >>= f) = .ok b ↔ ∃ a, x = .ok a ∧ f a = .ok b := by
  cases x with
  | error e => simp [bind, Except.bind]
  | ok a => simp [bind, Except.bind]

@[simp] theorem pure_eq_ok {a b : α} : (pure a : Except ε α) = .ok b ↔ a = b := by
  simp [pure, Except.pure]

@[simp] theorem mapError_eq_ok {x : Except ε α} {f : ε → δ} {a : α} :
    x.mapError f = .ok a ↔ x = .ok a := by
  cases x <;> simp [Except.mapError]

/-- A traversal succeeds exactly when every step does. -/
theorem mapM_eq_ok {f : α → Except ε β} {xs : List α} {ys : List β} :
    xs.mapM f = .ok ys ↔ List.Forall₂ (fun x y => f x = .ok y) xs ys := by
  induction xs generalizing ys with
  | nil =>
      rw [List.mapM_nil, pure_eq_ok, List.forall₂_nil_left_iff]
      exact eq_comm
  | cons x xs ih =>
      simp only [List.mapM_cons, bind_eq_ok, pure_eq_ok, List.forall₂_cons_left_iff]
      constructor
      · intro ⟨y, hy, rest, hrest, heq⟩
        exact ⟨y, rest, hy, ih.mp hrest, heq.symm⟩
      · intro ⟨y, rest, hy, hrest, heq⟩
        exact ⟨y, hy, rest, ih.mpr hrest, heq.symm⟩

/-- A traversal succeeds when every step can. -/
theorem exists_mapM_eq_ok {f : α → Except ε β} {xs : List α} (h : ∀ x ∈ xs, ∃ y, f x = .ok y) :
    ∃ ys, xs.mapM f = .ok ys := by
  induction xs with
  | nil => exact ⟨[], rfl⟩
  | cons x xs ih =>
      obtain ⟨y, hy⟩ := h x (List.mem_cons_self ..)
      obtain ⟨ys, hys⟩ := ih fun x' hmem => h x' (List.mem_cons_of_mem _ hmem)
      exact ⟨y :: ys, by simp [hy, hys]⟩

/-- Every result of a traversal comes from an item. -/
theorem exists_of_forall₂_mem {R : α → β → Prop} {xs : List α} {ys : List β} {y : β}
    (h : List.Forall₂ R xs ys) (hmem : y ∈ ys) : ∃ x ∈ xs, R x y := by
  induction h with
  | nil => cases hmem
  | @cons x y' xs ys hxy _ ih =>
      rcases List.mem_cons.mp hmem with heq | hmem
      · exact ⟨x, List.mem_cons_self .., heq ▸ hxy⟩
      · obtain ⟨x', hx', hR⟩ := ih hmem
        exact ⟨x', List.mem_cons_of_mem _ hx', hR⟩

/-- The positions of a numbered traversal do not matter when the steps ignore them. -/
theorem forall₂_zipIdx {R : α → β → Prop} {xs : List α} {ys : List β} :
    List.Forall₂ (fun entry y => R entry.1 y) xs.zipIdx ys ↔ List.Forall₂ R xs ys := by
  have hmap := List.forall₂_map_left_iff (R := R) (f := fun entry : α × Nat => entry.1)
    (l := xs.zipIdx) (u := ys)
  rw [← hmap, List.zipIdx_map_fst]

theorem toOption_eq_some {x : Except ε α} {a : α} : x.toOption = some a ↔ x = .ok a := by
  cases x <;> simp [Except.toOption]

end Fallible
