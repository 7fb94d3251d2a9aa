import Mathlib.Data.List.Infix
import StsDelegate.FileReplayRuns
import StsDelegate.FileReplaySpec

/-!
# The capacity of a shared replay directory

How many files the processes that share a directory can leave in it, however their
calls are interleaved.

* Once every call that created a file has also written it, a late sweep empties
  the directory (`capacity_recovered`).
* With `P` calls in progress the directory holds at most `max_seen - 1 + P` files
  (`bounded_overshoot`).
-/

namespace StsDelegate

open Text Effectful Prog

/-! ### Capacity is recovered -/

section Recovery

variable [Crates]

/-- The files of the directory were created by calls of the run, and a call that
has returned has written the file it created. -/
structure FilesWritten (w : FilePool) : Prop where
  entry : ∀ name file, w.state.dir.find name = some file → ∃ i, (i, createdIs name file) ∈ w.log
  written : ∀ (i : Nat) (q : FileCall) name file, (i, createdIs name file) ∈ w.log →
    w.threads[i]? = some (q, .done ()) → w.state.dir.contents file = expLine q.call.exp

/-- A call that is about to write has created that file and no other. -/
theorem file_eq_of_pending {w : FilePool} (hthreaded : Pool.Threaded FileCall.prog w) {i : Nat}
    {q : FileCall} {file file' : Nat} {text name : String}
    {k : Except IoErrorKind Unit → FsProg Unit}
    (hi : w.threads[i]? = some (q, .call (FsCall.write file text) k))
    (hmem : (i, createdIs name file') ∈ w.log) : file' = file := by
  have hstage := stage_of_steps (hthreaded.steps i q _ hi)
  rw [← Pool.mem_traceOf] at hmem
  generalize Pool.traceOf i w.log = t at hstage hmem
  generalize hp : Prog.call (σ := fs) (FsCall.write file text) k = p at hstage
  cases hstage with
  | before quiet _ _ => exact (quiet _ hmem).elim
  | refused _ => cases hp
  | created quiet =>
      injection hp with hcall
      injection hcall with hfile
      rcases List.mem_append.mp hmem with hmem | hmem
      · exact (quiet _ hmem).elim
      · cases List.mem_singleton.mp hmem
        exact hfile.symm
  | @written _ _ r _ =>
      cases r with
      | ok _ => cases hp
      | error _ => cases hp

theorem FilesWritten.fileMove {w w' : FilePool} {i : Nat} {io : Io} {q : FileCall}
    (h : FilesWritten w) (howned : FilesOwned w) (hthreaded : Pool.Threaded FileCall.prog w)
    (hmove : FileMove w i io q w') : FilesWritten w' := by
  have hgrows : ∀ {name file} {ev : Event fs}, (∃ j, (j, createdIs name file) ∈ w.log) →
      ∃ j, (j, createdIs name file) ∈ w.log ++ [(i, ev)] :=
    fun ⟨j, hj⟩ => ⟨j, List.mem_append_left _ hj⟩
  cases hmove with
  | @quiet c k a p s _ hquiet running _ hdir =>
      -- at most an entry is removed: what is still found was found before
      have hkept : ∀ name file, s.dir.find name = some file → w.state.dir.find name = some file := by
        intro name file hfind
        rcases hdir with hdir | ⟨removed, -, -, hdir⟩
        · rwa [← hdir]
        · rw [hdir] at hfind
          exact (Directory.find_of_find_remove hfind).2
      have hcontents : s.dir.contents = w.state.dir.contents := by
        rcases hdir with hdir | ⟨removed, -, -, hdir⟩
        · rw [hdir]
        · rw [hdir, Directory.contents_remove]
      refine ⟨fun name file hfind => hgrows (h.entry name file (hkept name file hfind)),
        fun j q' name file hmem hj => ?_⟩
      change s.dir.contents file = _
      rw [hcontents]
      rcases getElem?_set_cases hj with ⟨-, heq⟩ | ⟨-, hold⟩
      · exact absurd (congrArg Prod.snd heq).symm (running ())
      · rcases List.mem_append.mp hmem with hmem | hmem
        · exact h.written j q' name file hmem hold
        · cases List.mem_singleton.mp hmem
          cases hquiet
  | refused =>
      refine ⟨fun name file hfind => hgrows (h.entry name file hfind),
        fun j q' name file hmem hj => ?_⟩
      rcases getElem?_set_cases hj with ⟨-, heq⟩ | ⟨-, hold⟩
      · cases heq
      · rcases List.mem_append.mp hmem with hmem | hmem
        · exact h.written j q' name file hmem hold
        · cases List.mem_singleton.mp hmem
  | created hfree =>
      -- the new entry is the one just logged, and older files have smaller numbers
      refine ⟨fun name file hfind => ?_, fun j q' name file hmem hj => ?_⟩
      · by_cases hname : name = q.path
        · subst hname
          have hfile : some w.state.dir.next = some file :=
            Directory.find_create_self.symm.trans hfind
          cases hfile
          exact ⟨i, List.mem_append_right _ (List.mem_singleton.mpr rfl)⟩
        · exact hgrows (h.entry name file ((Directory.find_create_ne hname).symm.trans hfind))
      · rcases getElem?_set_cases hj with ⟨-, heq⟩ | ⟨hne, hold⟩
        · cases heq
        · rcases List.mem_append.mp hmem with hmem | hmem
          · exact (Directory.contents_create_of_lt (howned.lt_next j name file hmem)).trans
              (h.written j q' name file hmem hold)
          · cases List.mem_singleton.mp hmem
            exact absurd rfl hne
  | @wrote file r text k pending hcreated htext =>
      -- the caller that created a file is the only one to write it
      refine ⟨fun name file' hfind => hgrows (h.entry name file' hfind),
        fun j q' name file' hmem hj => ?_⟩
      have hlogged : (j, createdIs name file') ∈ w.log := by
        rcases List.mem_append.mp hmem with hmem | hmem
        · exact hmem
        · cases List.mem_singleton.mp hmem
      rcases getElem?_set_cases hj with ⟨hji, heq⟩ | ⟨hne, hold⟩
      · subst hji
        cases r with
        | ok _ =>
            cases heq
            rw [file_eq_of_pending hthreaded pending hlogged]
            exact Directory.contents_write_self.trans (htext rfl)
        | error _ => cases heq
      · have hfile : file' ≠ file := by
          rintro rfl
          exact hne (howned.unique j i _ _ _ hlogged hcreated)
        exact (Directory.contents_write_ne hfile).trans (h.written j q' name file' hlogged hold)

theorem filesWritten_run {moves : List (Move FileCall Io)} {w : FilePool}
    (hrun : FilePool.run .empty moves = some w) : FilesWritten w := by
  have hall : Pool.Threaded FileCall.prog w ∧ FilesOwned w ∧ FilesWritten w := by
    refine Pool.exec_invariant (C := fun _ _ => True)
      (P := fun w => Pool.Threaded FileCall.prog w ∧ FilesOwned w ∧ FilesWritten w) ?_
      ⟨Pool.threaded_initial, filesOwned_initial, ⟨?_, ?_⟩⟩ Pool.along_true hrun
    · intro w m w' ⟨hthreaded, howned, hwritten⟩ _ hmove
      refine ⟨Pool.threaded_move hthreaded hmove, ?_⟩
      cases m with
      | start q =>
          cases hmove
          refine ⟨⟨howned.lt_next, howned.unique⟩, hwritten.entry, fun j q' name file hmem hj => ?_⟩
          rcases getElem?_append_cases hj with hold | heq
          · exact hwritten.written j q' name file hmem hold
          · injection heq with hq hp
            exact absurd hp.symm ((prog_fresh q).1 ())
      | step i io =>
          obtain ⟨q, p, -, hstep⟩ := fileMove_of_step hthreaded hmove
          exact ⟨howned.fileMove hstep, hwritten.fileMove howned hthreaded hstep⟩
    · intro name file hfind
      exact absurd (Directory.find_empty.symm.trans hfind) (by simp)
    · intro i q name file hmem
      cases hmem
  exact hall.2.2

/-- **Capacity is recovered.** In a directory where every call that created a file
has gone on to return, so that none stopped before its write and no write failed, a
sweep later than all expiries leaves no file. -/
theorem capacity_recovered {moves : List (Move FileCall Io)} {w : FilePool} {now : Int64}
    (hrun : FilePool.run .empty moves = some w)
    (hreturned : ∀ i name file, (i, createdIs name file) ∈ w.log →
      ∃ q, w.threads[i]? = some (q, .done ()))
    (hlate : ∀ entry ∈ w.threads, entry.1.call.exp < now) :
    ∀ env : Nat → Io, (∀ n, (env n).Works) →
      ((sweepExpired now).run fileSystem env w.state).outcome = .ok () ∧
      ((sweepExpired now).run fileSystem env w.state).state.dir.names = [] := by
  intro env henv
  obtain ⟨t, ht⟩ := yields_sweepExpired now w.state env henv
  rw [ht]
  refine ⟨rfl, Directory.names_eq_nil fun name => ?_⟩
  have hwritten := filesWritten_run hrun
  change (w.state.sweep now).dir.find name = none
  rw [(find_sweep now w.state name).2]
  cases hfind : w.state.dir.find name with
  | none => exact ite_self _
  | some file =>
      -- the file holds the expiry of the call that created it
      obtain ⟨i, hmem⟩ := hwritten.entry name file hfind
      obtain ⟨q, hi⟩ := hreturned i name file hmem
      have hcontents := hwritten.written i q name file hmem hi
      have hexpired : q.call.exp < now := hlate (q, .done ()) (List.mem_of_getElem? hi)
      have hread : (w.state.dir.read name).bind parseExp = some q.call.exp := by
        rw [Directory.read, hfind, Option.map_some, Option.bind_some, hcontents, parseExp_expLine]
      rw [hread, if_pos (by simpa using hexpired)]

end Recovery

section

open Sample

/-- The first use of the key, alone. -/
def useMoves : List (Move FileCall Io) := [.start firstUse] ++ nextSteps 0 6

theorem use_done :
    (FilePool.run .empty useMoves).map (fun w => w.threads) = some [(firstUse, .done ())] :=
  rfl

/-- The file of the first use is swept at 6. -/
theorem sample_capacity_recovered :
    ∃ w, FilePool.run .empty useMoves = some w ∧
      ((sweepExpired 6).run fileSystem (fun _ => working) w.state).state.dir.names = [] := by
  obtain ⟨w, hrun, hthreads⟩ := Option.map_eq_some_iff.mp use_done
  refine ⟨w, hrun, (capacity_recovered hrun ?_ ?_ (fun _ => working) fun _ => rfl).2⟩
  · intro i name file hmem
    have hstarted := (Pool.threaded_exec hrun).started i _ hmem
    rw [hthreads] at hstarted ⊢
    have hzero : i = 0 := Nat.lt_one_iff.mp hstarted
    rw [hzero]
    exact ⟨firstUse, rfl⟩
  · intro entry hmem
    rw [hthreads, List.mem_singleton] at hmem
    rw [hmem]
    decide

/-- A use that stops after it has created its file. -/
def crashMoves : List (Move FileCall Io) := [.start firstUse] ++ nextSteps 0 5

/-- **A file that is never swept.** The call has created its file and stops there.
The file is empty, so that no sweep finds it expired: it stays for good. -/
theorem capacity_leaked :
    ∃ w, FilePool.run .empty crashMoves = some w ∧
      (∀ entry ∈ w.threads, entry.1.call.exp < 1000) ∧
      ((sweepExpired 1000).run fileSystem (fun _ => working) w.state).state.dir.size = 1 := by
  have hcrash : (FilePool.run .empty crashMoves).map (fun w =>
      (w.threads.map Prod.fst,
        ((sweepExpired 1000).run fileSystem (fun _ => working) w.state).state.dir.size)) =
      some ([firstUse], 1) := rfl
  obtain ⟨w, hrun, hview⟩ := Option.map_eq_some_iff.mp hcrash
  injection hview with hthreads hsize
  refine ⟨w, hrun, fun entry hmem => ?_, hsize⟩
  have hfirst : entry.1 ∈ w.threads.map Prod.fst := List.mem_map_of_mem hmem
  rw [hthreads, List.mem_singleton] at hfirst
  rw [hfirst]
  decide

end

/-! ### Bounded overshoot -/

section Overshoot

/-- Every call into the file system but counting the files. -/
def FsCall.NotCounting : FsCall → Prop
  | .countFiles => False
  | _ => True

/-- A call that may still create its file before it counts the files again. -/
def Armed (p : FsProg Unit) : Prop :=
  ∃ t name, (∀ ev ∈ t, FsCall.NotCounting ev.1) ∧ Calls p t (FsCall.createNew name)

/-- The calls that have not ended. -/
def FilePool.inProgress (w : FilePool) : Nat :=
  w.threads.countP fun entry => match entry.2 with
    | .call _ _ => true
    | _ => false

theorem armed_call {c : FsCall} {k : c.Answer → FsProg Unit} {a : c.Answer}
    (hc : c.NotCounting) (h : Armed (k a)) : Armed (Prog.call (σ := fs) c k) := by
  obtain ⟨t, name, hfree, k', hsteps⟩ := h
  refine ⟨⟨c, a⟩ :: t, name, ?_, k', .call hsteps⟩
  intro ev hmem
  rcases List.mem_cons.mp hmem with heq | hmem
  · rw [heq]
    exact hc
  · exact hfree ev hmem

/-- A call that counts next is not armed. -/
theorem not_armed_countFiles (k : Except IoErrorKind Nat → FsProg Unit) :
    ¬ Armed (Prog.call (σ := fs) FsCall.countFiles k) := by
  intro ⟨t, name, hfree, k', hsteps⟩
  cases hsteps with
  | call _ => exact hfree _ (List.mem_cons_self ..)

/-- What only looks around, and goes on with something not armed, is not armed. -/
theorem not_armed_bind {α : Type} {p : FsProg α} {f : α → FsProg Unit}
    (hp : Only FsCall.Quiet p) (hf : ∀ a, ¬ Armed (f a)) : ¬ Armed (p >>= f) := by
  intro ⟨t, name, hfree, hcalls⟩
  rcases calls_bind.mp hcalls with hcalls | ⟨a, t₁, t₂, rfl, -, hcalls⟩
  · exact hp t _ hcalls
  · exact hf a ⟨t₂, name, fun ev hmem => hfree ev (List.mem_append_right _ hmem), hcalls⟩

theorem not_armed_of_only {p : FsProg Unit} (hp : Only FsCall.Quiet p) : ¬ Armed p := by
  intro ⟨t, name, _, hcalls⟩
  exact hp t _ hcalls

variable [Crates] {store : FileReplayStore} {c : RecordCall}

/-- What follows the counting that decides. -/
abbrev afterRoom (store : FileReplayStore) (c : RecordCall) (count : Except IoErrorKind Nat) :
    FsProg Unit :=
  (orUnavailable count >>= fun n =>
    if store.maxSeen ≤ n then .fail ⟨.storeFull, "replay store full, retry shortly"⟩
    else pure ()) >>= fun _ => FileReplayStore.recordEntry c

theorem ensureRoom_recordEntry :
    (store.ensureRoom >>= fun _ => FileReplayStore.recordEntry c) =
      .call FsCall.countFiles (afterRoom store c) := by
  refine congrArg (Prog.call (σ := fs) FsCall.countFiles) (funext fun count => ?_)
  cases count with
  | error kind => rfl
  | ok n => rfl

theorem checkAndRecord_split (hblank : isBlank c.jti = false) :
    store.checkAndRecord c =
      (store.maybeSweep c.now >>= fun _ => store.sweepIfFull c.now) >>=
        fun _ => .call FsCall.countFiles (afterRoom store c) := by
  rw [FileReplayStore.checkAndRecord, hblank, ← ensureRoom_recordEntry]
  simp only [Bool.false_eq_true, if_false, bind_assoc]

/-- Counting arms a call only when it has found room. -/
theorem armed_afterRoom {count : Except IoErrorKind Nat} (h : Armed (afterRoom store c count)) :
    ∃ n, count = .ok n ∧ n < store.maxSeen := by
  cases count with
  | error kind => exact absurd h (not_armed_of_only only_fail)
  | ok n =>
      refine ⟨n, rfl, Nat.lt_of_not_le fun hfull => ?_⟩
      have hfail : afterRoom store c (.ok n) =
          .fail ⟨.storeFull, "replay store full, retry shortly"⟩ := by
        simp [afterRoom, orUnavailable, hfull]
      rw [hfail] at h
      exact not_armed_of_only only_fail h

/-- After the deciding count the files are not counted again. -/
theorem only_afterRoom (count : Except IoErrorKind Nat) :
    Only FsCall.NotCounting (afterRoom store c count) := by
  refine only_bind (only_bind (only_orUnavailable count) fun n => ?_) fun _ => ?_
  · split
    · exact only_fail
    · exact only_done
  · refine only_bind (only_removeIfExpired _ _ trivial (fun _ => trivial) trivial) fun _ => ?_
    refine only_bind (only_perform trivial) fun created => ?_
    rcases created with (_ | _ | _) | file
    · exact only_fail
    · exact only_fail
    · exact only_fail
    · exact only_bind (only_perform trivial) fun written => only_orUnavailable written

omit [Crates] in
theorem only_prelude :
    Only FsCall.Quiet (store.maybeSweep c.now >>= fun _ => store.sweepIfFull c.now) :=
  only_bind FileReplayStore.only_maybeSweep fun _ => FileReplayStore.only_sweepIfFull

/-- A call that starts is not armed. -/
theorem not_armed_prog (q : FileCall) : ¬ Armed q.prog := by
  unfold FileCall.prog
  cases hblank : isBlank q.call.jti with
  | true =>
      rw [FileReplayStore.checkAndRecord, hblank]
      exact not_armed_of_only only_fail
  | false =>
      rw [checkAndRecord_split hblank]
      exact not_armed_bind only_prelude fun _ => not_armed_countFiles _

/-- A call becomes armed only by counting fewer files than the limit. -/
theorem armed_of_count {q : FileCall} {t : List (Event fs)}
    {k : Except IoErrorKind Nat → FsProg Unit} {count : Except IoErrorKind Nat}
    (hsteps : Steps q.prog t (.call FsCall.countFiles k)) (h : Armed (k count)) :
    ∃ n, count = .ok n ∧ n < q.store.maxSeen := by
  unfold FileCall.prog at hsteps
  cases hblank : isBlank q.call.jti with
  | true =>
      rw [FileReplayStore.checkAndRecord, hblank] at hsteps
      exact absurd (steps_fail.mp hsteps).2 (by simp)
  | false =>
      rw [checkAndRecord_split hblank] at hsteps
      rcases steps_bind.mp hsteps with ⟨p', hp', heq⟩ | ⟨_, t₁, t₂, -, -, hsteps⟩
      · cases p' with
        | done a =>
            injection heq with _ hk
            subst hk
            exact armed_afterRoom h
        | fail e => cases heq
        | call c' k' =>
            -- the first count, before the sweep: the deciding one is still to come
            injection heq with hc hk
            subst hc
            cases hk
            have honly := only_prelude.steps (steps_snoc hp' count)
            exact absurd h (not_armed_bind honly fun _ => not_armed_countFiles _)
      · cases hsteps with
        | refl => exact armed_afterRoom h
        | call hrest =>
            have hcalls : Calls (σ := fs) _ _ FsCall.countFiles := ⟨k, hrest⟩
            exact (only_afterRoom _ _ _ hcalls).elim

omit [Crates] in
theorem not_armed_afterCreate (exp : Int64) (created : Except IoErrorKind Nat) :
    ¬ Armed (afterCreate exp created) := by
  rcases created with (_ | _ | _) | file
  · exact not_armed_of_only only_fail
  · exact not_armed_of_only only_fail
  · exact not_armed_of_only only_fail
  · intro ⟨t, name, _, k, hsteps⟩
    cases hsteps with
    | @call _ _ r _ _ hend =>
        cases r with
        | ok _ => exact absurd (steps_done.mp hend).2 (by simp)
        | error _ => exact absurd (steps_fail.mp hend).2 (by simp)

omit [Crates] in
/-- A call that creates its file next is armed. -/
theorem armed_createNew (name : String) (k : Except IoErrorKind Nat → FsProg Unit) :
    Armed (Prog.call (σ := fs) (FsCall.createNew name) k) :=
  ⟨[], name, fun _ hmem => absurd hmem List.not_mem_nil, ⟨k, .refl _⟩⟩

open Classical in
noncomputable def isArmed (p : FsProg Unit) : Bool := decide (Armed p)

omit [Crates] in
theorem isArmed_iff {p : FsProg Unit} : isArmed p = true ↔ Armed p := by
  simp [isArmed]

/-- The number of armed calls. -/
noncomputable def FilePool.armed (w : FilePool) : Nat :=
  w.threads.countP fun entry => isArmed entry.2

/-- The directory has room for the files that armed calls can still create. -/
structure Bounded (maxSeen P : Nat) (w : FilePool) : Prop where
  maxSeen_eq : ∀ entry ∈ w.threads, entry.1.store.maxSeen = maxSeen
  room : w.state.dir.size + w.armed ≤ maxSeen - 1 + P

omit [Crates] in
/-- Replacing an entry changes a count by what the two entries count. -/
theorem countP_set_add {β : Type} {f : β → Bool} {l : List β} {i : Nat} {b : β}
    (h : l[i]? = some b) (b' : β) :
    (l.set i b').countP f + (if f b then 1 else 0) = l.countP f + if f b' then 1 else 0 := by
  induction l generalizing i with
  | nil => simp at h
  | cons x l ih =>
      cases i with
      | zero =>
          obtain rfl : x = b := by simpa using h
          simp only [List.set_cons_zero, List.countP_cons]
          omega
      | succ i =>
          have hrest := ih (i := i) (by simpa using h)
          simp only [List.set_cons_succ, List.countP_cons]
          omega

omit [Crates] in
/-- The armed calls are in progress. -/
theorem armed_le_inProgress (w : FilePool) : w.armed ≤ w.inProgress := by
  refine List.countP_mono_left fun entry _ harmed => ?_
  obtain ⟨q, p⟩ := entry
  cases p with
  | done a => exact absurd (isArmed_iff.mp harmed) (not_armed_of_only only_done)
  | fail e => exact absurd (isArmed_iff.mp harmed) (not_armed_of_only only_fail)
  | call c k => rfl

variable {maxSeen P : Nat}

theorem Bounded.start {w : FilePool} (h : Bounded maxSeen P w) {q : FileCall}
    (hq : q.store.maxSeen = maxSeen) :
    Bounded maxSeen P { w with threads := w.threads ++ [(q, q.prog)] } where
  maxSeen_eq entry hmem := by
    rcases List.mem_append.mp hmem with hmem | hmem
    · exact h.maxSeen_eq entry hmem
    · rw [List.mem_singleton.mp hmem, hq]
  room := by
    have harmed : FilePool.armed { w with threads := w.threads ++ [(q, q.prog)] } = w.armed := by
      simp [FilePool.armed, isArmed_iff, not_armed_prog q]
    rw [harmed]
    exact h.room

section Set

variable {w : FilePool} {i : Nat} {q : FileCall} {p : FsProg Unit} (s : SharedDir)
  (log : List (Nat × Event fs)) (p' : FsProg Unit)

omit [Crates] in
theorem armed_set (hi : w.threads[i]? = some (q, p)) :
    FilePool.armed ⟨s, w.threads.set i (q, p'), log⟩ + (if isArmed p then 1 else 0) =
      w.armed + if isArmed p' then 1 else 0 :=
  countP_set_add (f := fun entry : FileCall × FsProg Unit => isArmed entry.2) hi (q, p')

omit [Crates] in
theorem armed_set_le (hi : w.threads[i]? = some (q, p)) (h : Armed p' → Armed p) :
    FilePool.armed ⟨s, w.threads.set i (q, p'), log⟩ ≤ w.armed := by
  have hset := armed_set s log p' hi
  by_cases hp' : Armed p'
  · rw [if_pos (isArmed_iff.mpr hp'), if_pos (isArmed_iff.mpr (h hp'))] at hset
    omega
  · rw [if_neg fun harmed => hp' (isArmed_iff.mp harmed)] at hset
    omega

omit [Crates] in
theorem armed_set_lt (hi : w.threads[i]? = some (q, p)) (hp : Armed p) (hp' : ¬ Armed p') :
    FilePool.armed ⟨s, w.threads.set i (q, p'), log⟩ + 1 ≤ w.armed := by
  have hset := armed_set s log p' hi
  rw [if_pos (isArmed_iff.mpr hp), if_neg fun harmed => hp' (isArmed_iff.mp harmed)] at hset
  omega

end Set

omit [Crates] in
/-- A call into the file system counts the files, creates one, or adds none. -/
theorem size_answer_cases (c : FsCall) (io : Io) (s : SharedDir) :
    c = .countFiles ∨ (∃ name, c = .createNew name) ∨
      (c.NotCounting ∧ (fsAnswer c io s).2.dir.size ≤ s.dir.size) := by
  have hquiet : c.Quiet → (fsAnswer c io s).2.dir.size ≤ s.dir.size := by
    intro h
    rcases dir_of_quiet h io s with hdir | ⟨name, -, -, hdir⟩
    · rw [hdir]
    · rw [hdir]
      exact Directory.size_remove_le
  cases c with
  | countFiles => exact Or.inl rfl
  | createNew name => exact Or.inr (Or.inl ⟨name, rfl⟩)
  | write file text =>
      obtain ⟨r, text', hanswer, -⟩ := answer_write file text io s
      exact Or.inr (Or.inr ⟨trivial, by rw [hanswer, Directory.size_write]⟩)
  | countCall store => exact Or.inr (Or.inr ⟨trivial, hquiet trivial⟩)
  | resetCalls store => exact Or.inr (Or.inr ⟨trivial, hquiet trivial⟩)
  | readDir => exact Or.inr (Or.inr ⟨trivial, hquiet trivial⟩)
  | nextEntry => exact Or.inr (Or.inr ⟨trivial, hquiet trivial⟩)
  | isFile name => exact Or.inr (Or.inr ⟨trivial, hquiet trivial⟩)
  | openRead name => exact Or.inr (Or.inr ⟨trivial, hquiet trivial⟩)
  | readToString file => exact Or.inr (Or.inr ⟨trivial, hquiet trivial⟩)
  | removeFile name => exact Or.inr (Or.inr ⟨trivial, hquiet trivial⟩)

omit [Crates] in
/-- Counting the files changes nothing, and counts them. -/
theorem answer_countFiles (io : Io) (s : SharedDir) :
    (fsAnswer .countFiles io s).2 = s ∧
      ∀ n, (fsAnswer .countFiles io s).1 = .ok n → n = s.dir.size := by
  rw [fsAnswer]
  split
  · exact ⟨rfl, fun n h => by cases h⟩
  · refine ⟨rfl, fun n h => ?_⟩
    injection h with h
    exact h.symm

/-- A call that creates its file goes on to write it or fails. -/
theorem afterCreate_of_steps {q : FileCall} {t : List (Event fs)} {name : String}
    {k : Except IoErrorKind Nat → FsProg Unit}
    (h : Steps q.prog t (.call (FsCall.createNew name) k)) : k = afterCreate q.call.exp := by
  have hstage := stage_of_steps h
  generalize hp : Prog.call (σ := fs) (FsCall.createNew name) k = p at hstage
  cases hstage with
  | before _ _ next =>
      rcases next _ _ hp.symm with hquiet | hcreate
      · cases hquiet
      · rw [← hp] at hcreate
        injection hcreate
  | refused _ => cases hp
  | created _ => cases hp
  | @written _ _ r _ =>
      cases r with
      | ok _ => cases hp
      | error _ => cases hp

/-- A step keeps the bound: a call is armed by a count below the limit, and uses its
room up when it creates its file. -/
theorem Bounded.step {w w' : FilePool} {i : Nat} {io : Io} (h : Bounded maxSeen P w)
    (hthreaded : Pool.Threaded FileCall.prog w)
    (hmove : w.move fileSystem FileCall.prog (.step i io) = some w')
    (hprogress : w'.inProgress ≤ P) : Bounded maxSeen P w' := by
  have hroom := h.room
  have harmed' := armed_le_inProgress w'
  obtain ⟨_, hstart, -⟩ | ⟨_, _, q, c, k, hstep, hi, rfl⟩ := Pool.move_cases hmove
  · cases hstart
  cases hstep
  have hmax : q.store.maxSeen = maxSeen := h.maxSeen_eq _ (List.mem_of_getElem? hi)
  have hsteps := hthreaded.steps i q _ hi
  refine ⟨fun entry hmem => ?_, ?_⟩
  · obtain ⟨j, hj⟩ := List.mem_iff_getElem?.mp hmem
    rcases getElem?_set_cases hj with ⟨-, heq⟩ | ⟨-, hold⟩
    · rw [heq]
      exact hmax
    · exact h.maxSeen_eq entry (List.mem_of_getElem? hold)
  · rcases size_answer_cases c io w.state with hc | ⟨name, hc⟩ | ⟨hcounting, hsize⟩
    · subst hc
      obtain ⟨hsame, hcount⟩ := answer_countFiles io w.state
      by_cases harm : Armed (k (fsAnswer .countFiles io w.state).1)
      · -- the files were just counted, and the armed calls are among those in progress
        obtain ⟨n, hn, hlt⟩ := armed_of_count hsteps harm
        have hsize := hcount n hn
        simp only [fileSystem] at harmed' hprogress ⊢
        rw [hsame] at harmed' hprogress ⊢
        omega
      · have hle := armed_set_le (fsAnswer .countFiles io w.state).2
          (w.log ++ [(i, ⟨FsCall.countFiles, (fsAnswer .countFiles io w.state).1⟩)]) _ hi
          (fun hp' => absurd hp' harm)
        simp only [fileSystem]
        rw [hsame] at hle ⊢
        omega
    · subst hc
      obtain rfl := afterCreate_of_steps hsteps
      have hlt := armed_set_lt (fsAnswer (.createNew name) io w.state).2
        (w.log ++ [(i, ⟨FsCall.createNew name, (fsAnswer (.createNew name) io w.state).1⟩)]) _ hi
        (armed_createNew name _)
        (not_armed_afterCreate q.call.exp (fsAnswer (.createNew name) io w.state).1)
      simp only [fileSystem]
      rcases answer_createNew name io w.state with ⟨hfree, hanswer⟩ | ⟨kind, hanswer⟩
      · have hsize := Directory.size_create hfree
        rw [hanswer] at hlt ⊢
        simp only at hlt ⊢
        omega
      · rw [hanswer] at hlt ⊢
        simp only at hlt ⊢
        omega
    · have hle := armed_set_le (fsAnswer c io w.state).2
        (w.log ++ [(i, ⟨c, (fsAnswer c io w.state).1⟩)]) (k (fsAnswer c io w.state).1) hi
        (armed_call hcounting)
      simp only [fileSystem]
      omega

omit [Crates] in
theorem bounded_initial : Bounded maxSeen P (Pool.initial .empty) where
  maxSeen_eq entry hmem := by cases hmem
  room := Nat.zero_le _

/-- **Bounded overshoot.** Let calls on stores with one limit `maxSeen` be interleaved
in any way over a directory that was empty, at most `P` of them in progress at any
time. The directory never holds more than `maxSeen - 1 + P` files, and with `P = 1`
never more than `maxSeen`. -/
theorem bounded_overshoot {moves : List (Move FileCall Io)} {w : FilePool}
    (hpositive : 1 ≤ maxSeen) (hrun : FilePool.run .empty moves = some w)
    (hlimit : ∀ q, .start q ∈ moves → q.store.maxSeen = maxSeen)
    (hprogress : ∀ before w', before <+: moves → FilePool.run .empty before = some w' →
      w'.inProgress ≤ P) :
    w.state.dir.size ≤ maxSeen - 1 + P ∧ (P = 1 → w.state.dir.size ≤ maxSeen) := by
  have halong : Pool.Along fileSystem FileCall.prog
      (fun w m => (∀ q, m = .start q → q.store.maxSeen = maxSeen) ∧
        ∀ w' : FilePool, w.move fileSystem FileCall.prog m = some w' → w'.inProgress ≤ P)
      (Pool.initial .empty) moves := by
    refine Pool.along_of_prefix fun before m hbegins w₁ hbefore => ?_
    refine ⟨fun q hm => ?_, fun w' hmove => ?_⟩
    · subst hm
      exact hlimit q (hbegins.subset (List.mem_append_right _ (List.mem_singleton.mpr rfl)))
    · refine hprogress (before ++ [m]) w' hbegins ?_
      rw [FilePool.run, Pool.exec_append, hbefore, Option.bind_some, Pool.exec, hmove,
        Option.bind_some, Pool.exec]
  have hboth : Pool.Threaded FileCall.prog w ∧ Bounded maxSeen P w := by
    refine Pool.exec_invariant
      (P := fun w => Pool.Threaded FileCall.prog w ∧ Bounded maxSeen P w) ?_
      ⟨Pool.threaded_initial, bounded_initial⟩ halong hrun
    intro w m w' h h' hmove
    obtain ⟨hthreaded, hbounded⟩ := h
    obtain ⟨hstart, hafter⟩ := h'
    refine ⟨Pool.threaded_move hthreaded hmove, ?_⟩
    cases m with
    | start q =>
        cases hmove
        exact hbounded.start (hstart q rfl)
    | step i io => exact hbounded.step hthreaded hmove (hafter w' hmove)
  have hroom := hboth.2.room
  exact ⟨by omega, fun hone => by omega⟩

end Overshoot

section

open Sample

/-- Two processes with room for one file, both of which count before either creates. -/
def crowdMoves : List (Move FileCall Io) :=
  [.start ⟨.new 0 1 100, ⟨"k", 5, 1⟩⟩, .start ⟨.new 1 1 100, ⟨"m", 5, 1⟩⟩] ++ nextSteps 0 4 ++
    nextSteps 1 4 ++ nextSteps 0 2 ++ nextSteps 1 2

theorem crowd_size :
    (FilePool.run .empty crowdMoves).map (fun w => w.state.dir.size) = some 2 :=
  rfl

theorem crowd_inProgress :
    (crowdMoves.inits.all fun before =>
      (FilePool.run .empty before).all fun w => w.inProgress ≤ 2) = true :=
  rfl

/-- Both create their file: one more than the limit, and no more than that. -/
theorem sample_overshoot :
    ∃ w, FilePool.run .empty crowdMoves = some w ∧ w.state.dir.size = 2 ∧
      w.state.dir.size ≤ 1 - 1 + 2 := by
  obtain ⟨w, hrun, hsize⟩ := Option.map_eq_some_iff.mp crowd_size
  refine ⟨w, hrun, hsize, (bounded_overshoot (Nat.le_refl 1) hrun ?_ ?_).1⟩
  · intro q hmem
    simp [crowdMoves, nextSteps] at hmem
    rcases hmem with rfl | rfl
    · rfl
    · rfl
  · intro before w' hprefix hbefore
    have hall := List.all_eq_true.mp crowd_inProgress before ((List.mem_inits _ _).mpr hprefix)
    simpa [hbefore] using hall

end

end StsDelegate
