import StsDelegate.Lib.Prog
import Mathlib.Algebra.BigOperators.Ring.Finset
import Mathlib.Algebra.Order.BigOperators.Group.Finset

/-!
# Interleaving programs over one machine

Any number of programs, each started for some request, share one machine. A
**move** either starts a program for a new request or lets one running program
make its next call; the machine answers the call at once, so a call is the unit
of atomicity and everything between two calls of one program can be interleaved
with the others.

Started programs are never removed, so the pool keeps for every request how far
its program has come, and the **log** keeps every answered call with the number
of the program that made it. `Pool.threaded_exec` connects the two: in every
reachable pool, the part of the log that belongs to a program is a trace from
that program's start to where it stands now.
-/

namespace Effectful

variable {σ : Signature} {ε α S I Q : Type}

/-- The shared state, the started programs with their requests, and the log of
answered calls. -/
structure Pool (σ : Signature) (ε α S Q : Type) where
  state : S
  threads : List (Q × Prog σ ε α)
  log : List (Nat × Event σ)

/-- What can happen next in a pool. -/
inductive Move (Q I : Type)
  /-- A new request arrives. -/
  | start (q : Q)
  /-- Program `i` makes its next call; the environment supplies `input`. -/
  | step (i : Nat) (input : I)

namespace Pool

/-- The part of a log that belongs to program `i`. -/
def traceOf (i : Nat) (log : List (Nat × Event σ)) : List (Event σ) :=
  log.filterMap fun entry => if entry.1 = i then some entry.2 else none

@[simp] theorem traceOf_nil (i : Nat) : traceOf (σ := σ) i [] = [] := rfl

theorem traceOf_append (i : Nat) (l l' : List (Nat × Event σ)) :
    traceOf i (l ++ l') = traceOf i l ++ traceOf i l' := by
  simp [traceOf]

theorem traceOf_single_self (i : Nat) (ev : Event σ) : traceOf i [(i, ev)] = [ev] := by
  simp [traceOf]

theorem traceOf_single_ne {i j : Nat} (h : j ≠ i) (ev : Event σ) : traceOf i [(j, ev)] = [] := by
  simp [traceOf, h]

theorem mem_traceOf {i : Nat} {ev : Event σ} {log : List (Nat × Event σ)} :
    ev ∈ traceOf i log ↔ (i, ev) ∈ log := by
  unfold traceOf
  rw [List.mem_filterMap]
  constructor
  · rintro ⟨⟨j, ev'⟩, hmem, h⟩
    by_cases hj : j = i
    · subst hj
      obtain rfl : ev' = ev := by simpa using h
      exact hmem
    · simp [hj] at h
  · exact fun h => ⟨(i, ev), h, by simp⟩

variable (M : Prog.Machine σ S I) (handler : Q → Prog σ ε α)

/-- One move. A program that has returned or failed, or was never started,
cannot move. -/
def move (w : Pool σ ε α S Q) : Move Q I → Option (Pool σ ε α S Q)
  | .start q => some { w with threads := w.threads ++ [(q, handler q)] }
  | .step i input =>
      match w.threads[i]? with
      | some (q, .call c k) =>
          let r := M.answer c input w.state
          some { state := r.2
                 threads := w.threads.set i (q, k r.1)
                 log := w.log ++ [(i, ⟨c, r.1⟩)] }
      | _ => none

/-- A whole run: the moves in order, as long as each of them is possible. -/
def exec (w : Pool σ ε α S Q) : List (Move Q I) → Option (Pool σ ε α S Q)
  | [] => some w
  | m :: ms => (w.move M handler m).bind fun w' => w'.exec ms

/-- The pool before any request has arrived. -/
def initial (s : S) : Pool σ ε α S Q := ⟨s, [], []⟩

@[simp] theorem initial_state (s : S) : (initial s : Pool σ ε α S Q).state = s := rfl

/-- `Along C w ms`: every move of the run from `w` meets the condition `C`, which
may look at the pool just before the move. -/
def Along (C : Pool σ ε α S Q → Move Q I → Prop) (w : Pool σ ε α S Q) : List (Move Q I) → Prop
  | [] => True
  | m :: ms => C w m ∧ ∀ w', w.move M handler m = some w' → w'.Along C ms

variable {M handler}

/-- Everything a move can do. -/
theorem move_cases {w w' : Pool σ ε α S Q} {m : Move Q I} (h : w.move M handler m = some w') :
    (∃ q, m = .start q ∧ w' = { w with threads := w.threads ++ [(q, handler q)] }) ∨
    (∃ i input q c k, m = .step i input ∧ w.threads[i]? = some (q, .call c k) ∧
      w' = { state := (M.answer c input w.state).2
             threads := w.threads.set i (q, k (M.answer c input w.state).1)
             log := w.log ++ [(i, ⟨c, (M.answer c input w.state).1⟩)] }) := by
  cases m with
  | start q =>
      rw [move] at h
      exact Or.inl ⟨q, rfl, (Option.some.inj h).symm⟩
  | step i input =>
      simp only [move] at h
      split at h
      · next q c k hi => exact Or.inr ⟨i, input, q, c, k, rfl, hi, (Option.some.inj h).symm⟩
      · cases h

/-- **Invariant rule.** What holds of the first pool and survives every move that
meets the condition holds of every pool the run reaches. -/
theorem exec_invariant {C : Pool σ ε α S Q → Move Q I → Prop} {P : Pool σ ε α S Q → Prop}
    (hstep : ∀ w m w', P w → C w m → w.move M handler m = some w' → P w') :
    ∀ {w w' : Pool σ ε α S Q} {ms : List (Move Q I)}, P w → Along M handler C w ms →
      w.exec M handler ms = some w' → P w' := by
  intro w w' ms
  induction ms generalizing w with
  | nil =>
      intro hw _ h
      rw [exec] at h
      exact Option.some.inj h ▸ hw
  | cons m ms ih =>
      intro hw hC h
      rw [exec, Option.bind_eq_some_iff] at h
      obtain ⟨w₁, hm, hms⟩ := h
      exact ih (hstep w m w₁ hw hC.1 hm) (hC.2 w₁ hm) hms

theorem along_true {w : Pool σ ε α S Q} {ms : List (Move Q I)} :
    Along M handler (fun _ _ => True) w ms := by
  induction ms generalizing w with
  | nil => trivial
  | cons m ms ih => exact ⟨trivial, fun _ _ => ih⟩

variable (M handler) in
/-- Check a condition along a run by running it. -/
def checkAlong (check : Pool σ ε α S Q → Move Q I → Bool) (w : Pool σ ε α S Q) :
    List (Move Q I) → Bool
  | [] => true
  | m :: ms => check w m &&
      match w.move M handler m with
      | some w' => w'.checkAlong check ms
      | none => true

theorem along_of_check {C : Pool σ ε α S Q → Move Q I → Prop}
    {check : Pool σ ε α S Q → Move Q I → Bool} (hcheck : ∀ w m, check w m = true → C w m)
    {w : Pool σ ε α S Q} {ms : List (Move Q I)} (h : w.checkAlong M handler check ms = true) :
    Along M handler C w ms := by
  induction ms generalizing w with
  | nil => trivial
  | cons m ms ih =>
      rw [checkAlong, Bool.and_eq_true] at h
      refine ⟨hcheck w m h.1, fun w' hmove => ih ?_⟩
      rw [hmove] at h
      exact h.2

/-- The log only grows. -/
theorem log_prefix_of_exec {w w' : Pool σ ε α S Q} {ms : List (Move Q I)}
    (h : w.exec M handler ms = some w') : w.log <+: w'.log := by
  induction ms generalizing w with
  | nil =>
      rw [exec] at h
      exact Option.some.inj h ▸ List.prefix_refl _
  | cons m ms ih =>
      rw [exec, Option.bind_eq_some_iff] at h
      obtain ⟨w₁, hm, hms⟩ := h
      refine List.IsPrefix.trans ?_ (ih hms)
      obtain ⟨q, rfl, rfl⟩ | ⟨i, input, q, c, k, rfl, -, rfl⟩ := move_cases hm
      · exact List.prefix_refl _
      · exact List.prefix_append _ _

/-! ### Log and programs agree -/

/-- The log entries of each program are a trace from its start to where it
stands, and no entry belongs to a program that was never started. -/
structure Threaded (handler : Q → Prog σ ε α) (w : Pool σ ε α S Q) : Prop where
  steps : ∀ i q p, w.threads[i]? = some (q, p) → (handler q).Steps (traceOf i w.log) p
  started : ∀ i ev, (i, ev) ∈ w.log → i < w.threads.length

theorem threaded_initial {s : S} : Threaded handler (initial s : Pool σ ε α S Q) :=
  ⟨by simp [initial], by simp [initial]⟩

/-- One move keeps log and programs in agreement: a started program has made no
call yet, and a call moves exactly its own program along. -/
theorem threaded_move {w w' : Pool σ ε α S Q} {m : Move Q I} (hw : Threaded handler w)
    (h : w.move M handler m = some w') : Threaded handler w' := by
  obtain ⟨q, rfl, rfl⟩ | ⟨i, input, q, c, k, rfl, hi, rfl⟩ := move_cases h
  · refine ⟨fun j q' p hj => ?_, fun j ev hev => ?_⟩
    · rcases Nat.lt_or_ge j w.threads.length with hlt | hge
      · rw [List.getElem?_append_left hlt] at hj
        exact hw.steps j q' p hj
      · rw [List.getElem?_append_right hge, List.getElem?_singleton] at hj
        split at hj
        · cases hj
          -- a thread that just starts has logged nothing
          have hnone : traceOf j w.log = [] := by
            rw [List.eq_nil_iff_forall_not_mem]
            exact fun ev hev => absurd (hw.started j ev (mem_traceOf.mp hev)) (Nat.not_lt.mpr hge)
          simp only [hnone]
          exact .refl _
        · cases hj
    · simp only [List.length_append, List.length_singleton]
      exact Nat.lt_succ_of_lt (hw.started j ev hev)
  · have hlt : i < w.threads.length := (List.getElem?_eq_some_iff.mp hi).1
    refine ⟨fun j q' p hj => ?_, fun j ev hev => ?_⟩
    · simp only [traceOf_append]
      by_cases hji : i = j
      · subst hji
        rw [List.getElem?_set_self hlt] at hj
        cases hj
        rw [traceOf_single_self]
        exact Prog.steps_snoc (hw.steps i q _ hi) _
      · rw [List.getElem?_set_ne hji] at hj
        rw [traceOf_single_ne hji, List.append_nil]
        exact hw.steps j q' p hj
    · simp only [List.length_set]
      rcases List.mem_append.mp hev with hev | hev
      · exact hw.started j ev hev
      · cases List.mem_singleton.mp hev
        exact hlt

theorem threaded_exec {s : S} {w : Pool σ ε α S Q} {ms : List (Move Q I)}
    (h : (initial s).exec M handler ms = some w) : Threaded handler w :=
  exec_invariant (C := fun _ _ => True) (fun _ _ _ hw _ hm => threaded_move hw hm)
    threaded_initial along_true h

/-- Every answer of the log is one the machine gave. -/
theorem answered_exec {s : S} {w : Pool σ ε α S Q} {ms : List (Move Q I)}
    (h : (initial s).exec M handler ms = some w) {i : Nat} {c : σ.Call} {a : σ.Answer c}
    (hev : (i, ⟨c, a⟩) ∈ w.log) : ∃ input s', a = (M.answer c input s').1 := by
  have hall : ∀ entry ∈ w.log, ∃ input s', entry.2.2 = (M.answer entry.2.1 input s').1 := by
    refine exec_invariant (C := fun _ _ => True)
      (P := fun w => ∀ entry ∈ w.log, ∃ input s', entry.2.2 = (M.answer entry.2.1 input s').1)
      (fun w m w' hw _ hm => ?_) (by simp [initial]) along_true h
    obtain ⟨q, rfl, rfl⟩ | ⟨i, input, q, c, k, rfl, -, rfl⟩ := move_cases hm
    · exact hw
    · intro entry hentry
      rcases List.mem_append.mp hentry with hentry | hentry
      · exact hw entry hentry
      · rw [List.mem_singleton.mp hentry]
        exact ⟨input, w.state, rfl⟩
  exact hall _ hev

/-! ### Counting -/

theorem countP_log_eq_sum (mark : Event σ → Bool) {n : Nat} {log : List (Nat × Event σ)}
    (h : ∀ entry ∈ log, entry.1 < n) :
    log.countP (fun entry => mark entry.2) = ∑ i ∈ Finset.range n, (traceOf i log).countP mark := by
  induction log with
  | nil => simp
  | cons entry log ih =>
      obtain ⟨j, ev⟩ := entry
      have hj : j < n := h (j, ev) (List.mem_cons_self ..)
      have hentry : ∀ i, (traceOf i ((j, ev) :: log)).countP mark =
          (traceOf i log).countP mark + if j = i then (if mark ev then 1 else 0) else 0 := by
        intro i
        by_cases hji : j = i <;> simp [traceOf, hji, List.countP_cons]
      rw [List.countP_cons, ih fun entry hmem => h entry (List.mem_cons_of_mem _ hmem)]
      simp only [hentry, Finset.sum_add_distrib, Finset.sum_ite_eq, Finset.mem_range, hj, if_true]

theorem countP_eq_sum_range {β : Type} (p : β → Bool) (l : List β) :
    l.countP p = ∑ i ∈ Finset.range l.length, if l[i]?.any p then 1 else 0 := by
  induction l with
  | nil => simp
  | cons b l ih =>
      rw [List.countP_cons, ih, List.length_cons, Finset.sum_range_succ']
      simp

/-- Programs that have left a mark each are no more than the marks. -/
theorem countP_threads_le_log {w : Pool σ ε α S Q} (hw : Threaded handler w)
    {mark : Event σ → Bool} {marked : Q × Prog σ ε α → Bool}
    (h : ∀ (i : Nat) t, w.threads[i]? = some t → marked t = true →
      0 < (traceOf i w.log).countP mark) :
    w.threads.countP marked ≤ w.log.countP fun entry => mark entry.2 := by
  rw [countP_log_eq_sum mark fun entry hentry => hw.started entry.1 entry.2 hentry,
    countP_eq_sum_range]
  refine Finset.sum_le_sum fun i hi => ?_
  obtain ⟨t, ht⟩ : ∃ t, w.threads[i]? = some t :=
    ⟨_, List.getElem?_eq_getElem (Finset.mem_range.mp hi)⟩
  rw [ht, Option.any_some]
  split
  · next hmarked => exact h i t ht hmarked
  · exact Nat.zero_le _

/-- Marks are no more than the programs that leave them, if each leaves at most one. -/
theorem countP_log_le_threads {w : Pool σ ε α S Q} (hw : Threaded handler w)
    {mark : Event σ → Bool} {marked : Q × Prog σ ε α → Bool}
    (h : ∀ (i : Nat) t, w.threads[i]? = some t →
      (traceOf i w.log).countP mark ≤ if marked t = true then 1 else 0) :
    (w.log.countP fun entry => mark entry.2) ≤ w.threads.countP marked := by
  rw [countP_log_eq_sum mark fun entry hentry => hw.started entry.1 entry.2 hentry,
    countP_eq_sum_range]
  refine Finset.sum_le_sum fun i hi => ?_
  obtain ⟨t, ht⟩ : ∃ t, w.threads[i]? = some t :=
    ⟨_, List.getElem?_eq_getElem (Finset.mem_range.mp hi)⟩
  rw [ht, Option.any_some]
  exact h i t ht

/-- If every program leaves at most as many marks of one kind as of another, so do all together. -/
theorem countP_log_le_log (hw : Threaded handler w) {mark mark' : Event σ → Bool}
    (h : ∀ (i : Nat) t, w.threads[i]? = some t →
      (traceOf i w.log).countP mark ≤ (traceOf i w.log).countP mark') :
    (w.log.countP fun entry => mark entry.2) ≤ w.log.countP fun entry => mark' entry.2 := by
  rw [countP_log_eq_sum mark fun entry hentry => hw.started entry.1 entry.2 hentry,
    countP_log_eq_sum mark' fun entry hentry => hw.started entry.1 entry.2 hentry]
  refine Finset.sum_le_sum fun i hi => ?_
  exact h i _ (List.getElem?_eq_getElem (Finset.mem_range.mp hi))

/-! ### One program after another -/

theorem exec_append (w : Pool σ ε α S Q) (ms ms' : List (Move Q I)) :
    w.exec M handler (ms ++ ms') = (w.exec M handler ms).bind fun w' => w'.exec M handler ms' := by
  induction ms generalizing w with
  | nil => rfl
  | cons m ms ih =>
      simp only [List.cons_append, exec]
      cases w.move M handler m with
      | none => rfl
      | some w' => exact ih w'

/-- The last move of a run. -/
theorem move_of_exec_concat {w w₁ w₂ : Pool σ ε α S Q} {ms : List (Move Q I)} {m : Move Q I}
    (h₁ : w.exec M handler ms = some w₁) (h₂ : w.exec M handler (ms ++ [m]) = some w₂) :
    w₁.move M handler m = some w₂ := by
  rw [exec_append, h₁, Option.bind_some, exec] at h₂
  obtain ⟨w', hmove, hdone⟩ := Option.bind_eq_some_iff.mp h₂
  rw [exec] at hdone
  rw [hmove, hdone]

/-- A condition that holds at every move of a run holds along it. -/
theorem along_of_prefix {C : Pool σ ε α S Q → Move Q I → Prop} {w : Pool σ ε α S Q}
    {ms : List (Move Q I)}
    (h : ∀ before m, before ++ [m] <+: ms → ∀ w', w.exec M handler before = some w' → C w' m) :
    Along M handler C w ms := by
  induction ms generalizing w with
  | nil => trivial
  | cons m ms ih =>
      refine ⟨h [] m (by simp) w rfl, fun w₁ hmove => ih ?_⟩
      intro before m' hprefix w' hexec
      refine h (m :: before) m' (by simpa using hprefix) w' ?_
      rw [exec, hmove, Option.bind_some, hexec]

/-- A condition holds along a run exactly when it holds along its two parts. -/
theorem along_append {C : Pool σ ε α S Q → Move Q I → Prop} {w w' : Pool σ ε α S Q}
    {ms ms' : List (Move Q I)} (hrun : w.exec M handler ms = some w') :
    Along M handler C w (ms ++ ms') ↔ Along M handler C w ms ∧ Along M handler C w' ms' := by
  induction ms generalizing w with
  | nil =>
      rw [exec] at hrun
      cases hrun
      exact ⟨fun h => ⟨trivial, h⟩, fun h => h.2⟩
  | cons m ms ih =>
      rw [exec, Option.bind_eq_some_iff] at hrun
      obtain ⟨w₁, hmove, hrest⟩ := hrun
      simp only [List.cons_append, Along, hmove, Option.some.injEq, forall_eq', ih hrest, and_assoc]

variable (M handler) in
/-- The pool goes on to the other one by moves that meet the condition. -/
def LeadsAlong (C : Pool σ ε α S Q → Move Q I → Prop) (w w' : Pool σ ε α S Q) : Prop :=
  ∃ ms, w.exec M handler ms = some w' ∧ Along M handler C w ms

theorem LeadsAlong.trans {C : Pool σ ε α S Q → Move Q I → Prop} {w v w' : Pool σ ε α S Q}
    (h : LeadsAlong M handler C w v) (h' : LeadsAlong M handler C v w') :
    LeadsAlong M handler C w w' := by
  obtain ⟨ms, hexec, halong⟩ := h
  obtain ⟨ms', hexec', halong'⟩ := h'
  exact ⟨ms ++ ms', by rw [exec_append, hexec, Option.bind_some, hexec'],
    (along_append hexec).mpr ⟨halong, halong'⟩⟩

/-- `ok` restricts the steps of a pool, by the program that takes it, the input and the
state before it. -/
def StepOk (ok : Q → Prog σ ε α → I → S → Prop) (w : Pool σ ε α S Q) (m : Move Q I) : Prop :=
  ∀ i input q p, m = .step i input → w.threads[i]? = some (q, p) → ok q p input w.state

theorem stepOk_step {ok : Q → Prog σ ε α → I → S → Prop} {w : Pool σ ε α S Q} {i : Nat} {input : I}
    {q : Q} {p : Prog σ ε α} (hi : w.threads[i]? = some (q, p)) (h : ok q p input w.state) :
    StepOk ok w (.step i input) := by
  intro i' input' q' p' hm hi'
  cases hm
  rw [hi] at hi'
  cases hi'
  exact h

theorem stepOk_start {ok : Q → Prog σ ε α → I → S → Prop} {w : Pool σ ε α S Q} (q : Q) :
    StepOk ok w (.start q : Move Q I) :=
  fun _ _ _ _ hm => by cases hm

variable (M handler) in
/-- A new request arrives. -/
theorem leads_start (ok : Q → Prog σ ε α → I → S → Prop) (w : Pool σ ε α S Q) (q : Q) :
    LeadsAlong M handler (StepOk ok) w { w with threads := w.threads ++ [(q, handler q)] } :=
  ⟨[.start q], rfl, stepOk_start q, fun _ _ => trivial⟩

variable (M handler) in
/-- A program makes its next call. -/
theorem leads_call {ok : Q → Prog σ ε α → I → S → Prop} {w : Pool σ ε α S Q} {i : Nat} {q : Q}
    {c : σ.Call} {k : σ.Answer c → Prog σ ε α} (input : I) (hi : w.threads[i]? = some (q, .call c k))
    (hok : ok q (.call c k) input w.state) :
    ∃ log, LeadsAlong M handler (StepOk ok) w
      ⟨(M.answer c input w.state).2, w.threads.set i (q, k (M.answer c input w.state).1), log⟩ := by
  refine ⟨w.log ++ [(i, ⟨c, (M.answer c input w.state).1⟩)], [.step i input], ?_,
    stepOk_step hi hok, fun _ _ => trivial⟩
  simp only [exec, move, hi, Option.bind_some]

variable (M handler) in
/-- A step of a program that checks the answer, and the answer passes. -/
theorem leads_check {ok : Q → Prog σ ε α → I → S → Prop} {w : Pool σ ε α S Q} {i : Nat} {q : Q}
    {c : σ.Call} {β : Type} {check : σ.Answer c → Except ε β} {f : β → Prog σ ε α} {b : β} (input : I)
    (hi : w.threads[i]? = some (q, Prog.perform c >>= fun a => Prog.ofExcept (check a) >>= f))
    (hcheck : check (M.answer c input w.state).1 = .ok b)
    (hok : ok q (Prog.perform c >>= fun a => Prog.ofExcept (check a) >>= f) input w.state) :
    ∃ log, LeadsAlong M handler (StepOk ok) w
      ⟨(M.answer c input w.state).2, w.threads.set i (q, f b), log⟩ := by
  have hcall : w.threads[i]? = some (q, .call c fun a => Prog.ofExcept (check a) >>= f) := hi
  obtain ⟨log, hleads⟩ := leads_call M handler input hcall hok
  simp only [hcheck] at hleads
  exact ⟨log, hleads⟩

variable (M) in
/-- Every step of a program that runs undisturbed meets the restriction. -/
def RunOk (ok : Q → Prog σ ε α → I → S → Prop) (q : Q) : Prog σ ε α → (Nat → I) → S → Prop
  | .done _, _, _ => True
  | .fail _, _, _ => True
  | .call c k, env, s => ok q (.call c k) (env 0) s ∧
      RunOk ok q (k (M.answer c (env 0) s).1) (fun n => env (n + 1)) (M.answer c (env 0) s).2

theorem runOk_ofExcept_bind {ok : Q → Prog σ ε α → I → S → Prop} {q : Q} {β : Type}
    {x : Except ε β} {f : β → Prog σ ε α} {env : Nat → I} {s : S}
    (h : ∀ b, x = .ok b → RunOk M ok q (f b) env s) :
    RunOk M ok q (Prog.ofExcept x >>= f) env s := by
  cases x with
  | ok b => exact h b rfl
  | error e => trivial

/-- The same for a program that makes a last call, which is made after a failure too. -/
theorem runOk_ensuring_ofExcept_bind {ok : Q → Prog σ ε α → I → S → Prop} {q : Q} {β : Type}
    {x : Except ε β} {f : β → Prog σ ε α} {c : σ.Call} {env : Nat → I} {s : S}
    (hlast : ∀ k, ok q (.call c k) (env 0) s)
    (h : ∀ b, x = .ok b → RunOk M ok q ((f b).ensuring c) env s) :
    RunOk M ok q ((Prog.ofExcept x >>= f).ensuring c) env s := by
  cases x with
  | ok b => exact h b rfl
  | error e => exact ⟨hlast _, trivial⟩

/-- Putting back what is there changes nothing. -/
theorem set_of_getElem? {β : Type} {l : List β} {i : Nat} {b : β} (h : l[i]? = some b) :
    l.set i b = l := by
  obtain ⟨hlt, heq⟩ := List.getElem?_eq_some_iff.mp h
  rw [← heq, List.set_getElem_self]

variable (M handler) in
/-- The run of a part of a program: `K` is what surrounds the part, which it lets make its
calls. -/
theorem leads_run_within {δ β : Type} (K : Prog σ δ β → Prog σ ε α)
    (hK : ∀ (c : σ.Call) k, K (.call c k) = .call c fun a => K (k a))
    (ok : Q → Prog σ ε α → I → S → Prop) (w : Pool σ ε α S Q) (i : Nat) (q : Q) (p : Prog σ δ β)
    (env : Nat → I) (hi : w.threads[i]? = some (q, K p)) (hok : RunOk M ok q (K p) env w.state) :
    LeadsAlong M handler (StepOk ok) w
      { state := (p.run M env w.state).state
        threads := w.threads.set i (q, K (.ofExcept (p.run M env w.state).outcome))
        log := w.log ++ (p.run M env w.state).trace.map fun ev => (i, ev) } ∧
      RunOk M ok q (K (.ofExcept (p.run M env w.state).outcome))
        (fun n => env (n + (p.run M env w.state).trace.length)) (p.run M env w.state).state := by
  have hlt : i < w.threads.length := (List.getElem?_eq_some_iff.mp hi).1
  induction p generalizing w env with
  | done a =>
      refine ⟨⟨[], ?_, trivial⟩, hok⟩
      simp [exec, Prog.run, set_of_getElem? hi]
  | fail e =>
      refine ⟨⟨[], ?_, trivial⟩, hok⟩
      simp [exec, Prog.run, set_of_getElem? hi]
  | call c k ih =>
      rw [hK] at hi hok
      have hmove : w.move M handler (.step i (env 0)) = some
          { state := (M.answer c (env 0) w.state).2
            threads := w.threads.set i (q, K (k (M.answer c (env 0) w.state).1))
            log := w.log ++ [(i, ⟨c, (M.answer c (env 0) w.state).1⟩)] } := by
        simp only [move, hi]
      -- the thread answers its call, and goes on from the state after it
      obtain ⟨⟨ms, hms, halong⟩, hrest⟩ := ih (M.answer c (env 0) w.state).1
        { state := (M.answer c (env 0) w.state).2
          threads := w.threads.set i (q, K (k (M.answer c (env 0) w.state).1))
          log := w.log ++ [(i, ⟨c, (M.answer c (env 0) w.state).1⟩)] }
        (fun n => env (n + 1)) (List.getElem?_set_self hlt) hok.2 (by simpa using hlt)
      refine ⟨⟨.step i (env 0) :: ms, ?_, stepOk_step hi hok.1, fun w' hmove' => ?_⟩, ?_⟩
      · rw [exec, hmove, Option.bind_some, hms]
        simp [Prog.run]
      · rw [hmove] at hmove'
        cases hmove'
        exact halong
      · simpa only [Prog.run, List.length_cons, Nat.add_assoc] using hrest

variable (M handler) in
/-- A program that is never interrupted goes through its run. -/
theorem exec_run_ok (ok : Q → Prog σ ε α → I → S → Prop) (w : Pool σ ε α S Q) (i : Nat) (q : Q)
    (p : Prog σ ε α) (env : Nat → I) (hi : w.threads[i]? = some (q, p))
    (hok : RunOk M ok q p env w.state) :
    ∃ ms, w.exec M handler ms = some
      { state := (p.run M env w.state).state
        threads := w.threads.set i (q, .ofExcept (p.run M env w.state).outcome)
        log := w.log ++ (p.run M env w.state).trace.map fun ev => (i, ev) } ∧
      Along M handler (StepOk ok) w ms := by
  obtain ⟨⟨ms, hms, halong⟩, -⟩ := leads_run_within M handler id (fun _ _ => rfl) ok w i q p env hi hok
  exact ⟨ms, hms, halong⟩

/-- A program that is started and never interrupted goes through its run. -/
theorem exec_start_run_ok {ok : Q → Prog σ ε α → I → S → Prop} {w : Pool σ ε α S Q} {q : Q}
    {env : Nat → I} (hok : RunOk M ok q (handler q) env w.state) :
    ∃ ms, w.exec M handler ms = some
      { state := ((handler q).run M env w.state).state
        threads := w.threads ++ [(q, .ofExcept ((handler q).run M env w.state).outcome)]
        log := w.log ++ ((handler q).run M env w.state).trace.map fun ev => (w.threads.length, ev) } ∧
      Along M handler (StepOk ok) w ms := by
  have hi : (w.threads ++ [(q, handler q)])[w.threads.length]? = some (q, handler q) := by
    simp
  obtain ⟨ms, hms, halong⟩ := exec_run_ok M handler ok
    { w with threads := w.threads ++ [(q, handler q)] } w.threads.length q (handler q) env hi hok
  refine ⟨.start q :: ms, ?_, stepOk_start q, fun w' hmove => ?_⟩
  · rw [exec, move, Option.bind_some, hms]
    simp only [List.set_append_right _ _ (Nat.le_refl _), Nat.sub_self, List.set_cons_zero]
  · cases hmove
    exact halong

theorem runOk_true {q : Q} {p : Prog σ ε α} {env : Nat → I} {s : S} :
    RunOk M (fun _ _ _ _ => True) q p env s := by
  induction p generalizing env s with
  | done a => trivial
  | fail e => trivial
  | call c k ih => exact ⟨trivial, ih _⟩

variable (M handler) in
/-- Requests served one after another, each program undisturbed. -/
def sequential (w : Pool σ ε α S Q) : List (Q × (Nat → I)) → Pool σ ε α S Q
  | [] => w
  | (q, env) :: rest =>
      let r := (handler q).run M env w.state
      sequential
        { state := r.state
          threads := w.threads ++ [(q, .ofExcept r.outcome)]
          log := w.log ++ r.trace.map fun ev => (w.threads.length, ev) } rest

/-- Serving requests one after another is one of the ways to interleave them. -/
theorem exec_sequential (w : Pool σ ε α S Q) (rs : List (Q × (Nat → I))) :
    ∃ ms, w.exec M handler ms = some (w.sequential M handler rs) := by
  induction rs generalizing w with
  | nil => exact ⟨[], rfl⟩
  | cons r rest ih =>
      obtain ⟨q, env⟩ := r
      have hok : RunOk M (fun _ _ _ _ => True) q (handler q) env w.state := runOk_true
      obtain ⟨ms₁, h₁, -⟩ := exec_start_run_ok hok
      obtain ⟨ms₂, h₂⟩ := ih
        { state := ((handler q).run M env w.state).state
          threads := w.threads ++ [(q, .ofExcept ((handler q).run M env w.state).outcome)]
          log := w.log ++ ((handler q).run M env w.state).trace.map
            fun ev => (w.threads.length, ev) }
      refine ⟨ms₁ ++ ms₂, ?_⟩
      rw [exec_append, h₁, Option.bind_some]
      exact h₂

/-! ### Later pools -/

variable (M handler) in
/-- The pool goes on to the other one. -/
def Leads (w w' : Pool σ ε α S Q) : Prop := ∃ ms, w.exec M handler ms = some w'

variable {w v w' : Pool σ ε α S Q}

theorem Leads.refl (w : Pool σ ε α S Q) : Leads M handler w w := ⟨[], rfl⟩

theorem Leads.trans (h : Leads M handler w v) (h' : Leads M handler v w') : Leads M handler w w' := by
  obtain ⟨ms, hms⟩ := h
  obtain ⟨ms', hms'⟩ := h'
  exact ⟨ms ++ ms', by rw [exec_append, hms, Option.bind_some, hms']⟩

theorem leads_of_move {m : Move Q I} (h : w.move M handler m = some w') : Leads M handler w w' :=
  ⟨[m], by rw [exec, h, Option.bind_some, exec]⟩

theorem Leads.log_isPrefix (h : Leads M handler w w') : w.log <+: w'.log := by
  obtain ⟨ms, hms⟩ := h
  exact log_prefix_of_exec hms

theorem Leads.threaded (h : Leads M handler w w') (hw : Threaded handler w) : Threaded handler w' := by
  obtain ⟨ms, hms⟩ := h
  exact exec_invariant (C := fun _ _ => True) (fun _ _ _ hv _ hm => threaded_move hv hm) hw along_true hms

/-- A program that has made its call by now has made it at some moment on the way. -/
theorem Leads.next {i : Nat} {ev : Event σ} {t u : List (Event σ)} (h : Leads M handler w w')
    (ht : traceOf i w.log = t) (ht' : traceOf i w'.log = t ++ ev :: u) :
    ∃ v v' input, Leads M handler w v ∧ Leads M handler v v' ∧ Leads M handler v' w' ∧
      ev.2 = (M.answer ev.1 input v.state).1 ∧ traceOf i v'.log = t ++ [ev] := by
  obtain ⟨ms, hms⟩ := h
  induction ms generalizing w with
  | nil =>
      rw [exec] at hms
      cases hms
      rw [ht, List.self_eq_append_right] at ht'
      cases ht'
  | cons m ms ih =>
      rw [exec, Option.bind_eq_some_iff] at hms
      obtain ⟨w₁, hm, hms⟩ := hms
      have hcontinue (ht₁ : traceOf i w₁.log = t) : ∃ v v' input, Leads M handler w v ∧
          Leads M handler v v' ∧ Leads M handler v' w' ∧
          ev.2 = (M.answer ev.1 input v.state).1 ∧ traceOf i v'.log = t ++ [ev] := by
        obtain ⟨v, v', input, hv, hrest⟩ := ih ht₁ hms
        exact ⟨v, v', input, (leads_of_move hm).trans hv, hrest⟩
      obtain ⟨q, rfl, rfl⟩ | ⟨j, input, q, c, k, rfl, -, rfl⟩ := move_cases hm
      · exact hcontinue ht
      · by_cases hji : j = i
        · -- this move is the call
          subst hji
          have hnow : traceOf j (w.log ++ [(j, ⟨c, (M.answer c input w.state).1⟩)]) =
              t ++ [⟨c, (M.answer c input w.state).1⟩] := by
            rw [traceOf_append, ht, traceOf_single_self]
          obtain ⟨rest, hrest⟩ := log_prefix_of_exec hms
          rw [← hrest, traceOf_append, hnow, List.append_assoc, List.append_cancel_left_eq,
            List.singleton_append, List.cons.injEq] at ht'
          obtain ⟨rfl, -⟩ := ht'
          exact ⟨w, _, input, .refl w, leads_of_move hm, ⟨ms, hms⟩, rfl, hnow⟩
        · exact hcontinue (by rw [traceOf_append, ht, traceOf_single_ne hji, List.append_nil])

end Pool

end Effectful
