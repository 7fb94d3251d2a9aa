import StsDelegate.FileReplay
import StsDelegate.Sample.Documents

/-!
# Processes that share a replay directory

What holds of the file-backed store however the calls of its processes are
interleaved. `FileMove` lists everything one step of a call can do to the shared
directory; the invariants of this module and of `FileReplayCapacity` are derived
from that list.

A key that was recorded is recorded again by nobody while it is valid, as long as
every removal finds a file that has expired (`one_winner`).
-/

namespace StsDelegate

open Text Effectful Prog

section Steps

variable [Crates]

/-- The file of that name was created. -/
abbrev createdIs (name : String) (file : Nat) : Event fs := ⟨FsCall.createNew name, .ok file⟩

/-- The file a call records its key in. -/
def FileCall.path (q : FileCall) : String := replayFilename q.call.jti

/-- Everything a step of call `i` can do: something quiet, after which the call has
neither returned nor is about to write; an attempt to create its file that fails or
succeeds; or writing the file it has created. -/
inductive FileMove (w : FilePool) (i : Nat) (io : Io) (q : FileCall) : FilePool → Prop
  | quiet {c : FsCall} {k : c.Answer → FsProg Unit} {a : c.Answer} {p : FsProg Unit}
      {s : SharedDir} (pending : w.threads[i]? = some (q, .call c k)) (hquiet : c.Quiet)
      (running : ∀ x, p ≠ .done x) (next : ∀ file text k', p ≠ .call (FsCall.write file text) k')
      (hdir : s.dir = w.state.dir ∨
        ∃ name, c = .removeFile name ∧ io.fails = false ∧ s.dir = w.state.dir.remove name) :
      FileMove w i io q ⟨s, w.threads.set i (q, p), w.log ++ [(i, ⟨c, a⟩)]⟩
  | refused {kind : IoErrorKind} {err : ReplayError} :
      FileMove w i io q ⟨w.state, w.threads.set i (q, .fail err),
        w.log ++ [(i, ⟨FsCall.createNew q.path, .error kind⟩)]⟩
  | created (free : w.state.dir.find q.path = none) :
      FileMove w i io q ⟨{ w.state with dir := w.state.dir.create q.path },
        w.threads.set i (q, .call (FsCall.write w.state.dir.next (expLine q.call.exp))
          fun written => orUnavailable written),
        w.log ++ [(i, createdIs q.path w.state.dir.next)]⟩
  | wrote {file : Nat} {r : Except IoErrorKind Unit} {text : String}
      {k : Except IoErrorKind Unit → FsProg Unit}
      (pending : w.threads[i]? = some (q, .call (FsCall.write file (expLine q.call.exp)) k))
      (hcreated : (i, createdIs q.path file) ∈ w.log)
      (htext : r = .ok () → text = expLine q.call.exp) :
      FileMove w i io q ⟨{ w.state with dir := w.state.dir.write file text },
        w.threads.set i (q, orUnavailable r),
        w.log ++ [(i, ⟨FsCall.write file (expLine q.call.exp), r⟩)]⟩

omit [Crates] in
/-- A quiet call removes a file, or changes no file. -/
theorem dir_of_quiet {c : FsCall} (h : c.Quiet) (io : Io) (s : SharedDir) :
    (fsAnswer c io s).2.dir = s.dir ∨
      ∃ name, c = .removeFile name ∧ io.fails = false ∧
        (fsAnswer c io s).2.dir = s.dir.remove name := by
  cases c with
  | createNew name => cases h
  | write file text => cases h
  | removeFile name =>
      rw [fsAnswer]
      split
      · exact Or.inl rfl
      · next hok =>
          split
          · exact Or.inr ⟨name, rfl, Bool.eq_false_iff.mpr hok, rfl⟩
          · exact Or.inl rfl
  | countCall store => exact Or.inl rfl
  | resetCalls store => exact Or.inl rfl
  | readDir =>
      rw [fsAnswer]
      split
      · exact Or.inl rfl
      · exact Or.inl rfl
  | nextEntry =>
      rw [fsAnswer]
      split
      · exact Or.inl rfl
      · exact Or.inl rfl
  | isFile name =>
      rw [fsAnswer]
      split
      · exact Or.inl rfl
      · exact Or.inl rfl
  | countFiles =>
      rw [fsAnswer]
      split
      · exact Or.inl rfl
      · exact Or.inl rfl
  | openRead name =>
      rw [fsAnswer]
      split
      · exact Or.inl rfl
      · split
        · exact Or.inl rfl
        · exact Or.inl rfl
  | readToString file =>
      rw [fsAnswer]
      split
      · exact Or.inl rfl
      · exact Or.inl rfl

omit [Crates] in
/-- Creating a file succeeds on a free name, or leaves everything as it is. -/
theorem answer_createNew (name : String) (io : Io) (s : SharedDir) :
    (s.dir.find name = none ∧ fsAnswer (.createNew name) io s =
      (.ok s.dir.next, { s with dir := s.dir.create name })) ∨
    ∃ kind, fsAnswer (.createNew name) io s = (.error kind, s) := by
  rw [fsAnswer]
  split
  · exact Or.inr ⟨.other, rfl⟩
  · split
    · exact Or.inr ⟨.alreadyExists, rfl⟩
    · next hfree => exact Or.inl ⟨hfree, rfl⟩

omit [Crates] in
/-- Writing sets the contents of the file, to the text if it succeeds. -/
theorem answer_write (file : Nat) (text : String) (io : Io) (s : SharedDir) :
    ∃ r text', fsAnswer (.write file text) io s =
      (r, { s with dir := s.dir.write file text' }) ∧ (r = .ok () → text' = text) := by
  rw [fsAnswer]
  split
  · exact ⟨_, _, rfl, fun h => by cases h⟩
  · exact ⟨_, _, rfl, fun _ => rfl⟩

omit [Crates] in
theorem concat_inj {α : Type} {l l' : List α} {a a' : α} (h : l ++ [a] = l' ++ [a']) :
    l = l' ∧ a = a' := by
  simpa using h

/-- After a quiet call the program has not returned and is not about to write. -/
theorem running_of_quiet {c : RecordCall} {t : List (Event fs)} {call : FsCall}
    {a : call.Answer} {p : FsProg Unit} (hquiet : call.Quiet)
    (h : Stage c (t ++ [(⟨call, a⟩ : Event fs)]) p) :
    (∀ x, p ≠ .done x) ∧ ∀ file text k, p ≠ .call (FsCall.write file text) k := by
  generalize hu : t ++ [(⟨call, a⟩ : Event fs)] = u at h
  cases h with
  | before _ running next =>
      refine ⟨running, fun file text k hp => ?_⟩
      rcases next _ k hp with hcall | hcreate
      · cases hcall
      · rw [hp] at hcreate
        cases hcreate
  | refused _ =>
      obtain ⟨-, hev⟩ := concat_inj hu
      cases hev
      cases hquiet
  | created _ =>
      obtain ⟨-, hev⟩ := concat_inj hu
      cases hev
      cases hquiet
  | @written t' file r _ =>
      have hsplit : t' ++ [createdIs (replayFilename c.jti) file,
          (⟨FsCall.write file (expLine c.exp), r⟩ : Event fs)] =
          (t' ++ [createdIs (replayFilename c.jti) file]) ++
            [(⟨FsCall.write file (expLine c.exp), r⟩ : Event fs)] := by
        simp
      -- the last event would be the write, which is not a quiet call
      rw [hsplit] at hu
      obtain ⟨-, hev⟩ := concat_inj hu
      cases hev
      cases hquiet

/-- A step of a call is one of the listed ones. -/
theorem fileMove_of_step {w w' : FilePool} {i : Nat} {input : Io}
    (hthreaded : Pool.Threaded FileCall.prog w)
    (h : w.move fileSystem FileCall.prog (.step i input) = some w') :
    ∃ q p, w.threads[i]? = some (q, p) ∧ FileMove w i input q w' := by
  obtain ⟨_, hstart, -⟩ | ⟨_, _, q, c, k, hmove, hi, rfl⟩ := Pool.move_cases h
  · cases hstart
  cases hmove
  refine ⟨q, .call c k, hi, ?_⟩
  have hsteps := hthreaded.steps i q _ hi
  have hlast : ∀ a, Stage q.call (Pool.traceOf i w.log ++ [(⟨c, a⟩ : Event fs)]) (k a) :=
    fun a => stage_of_steps (steps_snoc hsteps a)
  have hstage := stage_of_steps hsteps
  generalize ht : Pool.traceOf i w.log = t at hstage hlast
  generalize hp : Prog.call c k = p at hstage
  -- the stage that the log says the call is in leaves one kind of step
  cases hstage with
  | before _ _ next =>
      rcases next c k hp.symm with hquiet | hcreate
      · obtain ⟨running, hnext⟩ := running_of_quiet hquiet
          (hlast (fsAnswer c input w.state).1)
        exact .quiet hi hquiet running hnext (dir_of_quiet hquiet input w.state)
      · rw [← hp] at hcreate
        injection hcreate with hc hk
        subst hc
        cases hk
        rcases answer_createNew (replayFilename q.call.jti) input w.state with
          ⟨hfree, hanswer⟩ | ⟨kind, hanswer⟩
        · simp only [fileSystem, hanswer]
          exact .created hfree
        · simp only [fileSystem, hanswer]
          cases kind with
          | notFound => exact .refused
          | alreadyExists => exact .refused
          | other => exact .refused
  | refused _ => cases hp
  | @created t' file _ =>
      injection hp with hc hk
      subst hc
      cases hk
      have hmem : (i, createdIs q.path file) ∈ w.log := by
        rw [← Pool.mem_traceOf, ht]
        exact List.mem_append_right _ (List.mem_singleton.mpr rfl)
      obtain ⟨r, text', hanswer, htext⟩ := answer_write file (expLine q.call.exp) input w.state
      simp only [fileSystem, hanswer]
      exact .wrote hi hmem htext
  | @written _ _ r _ =>
      cases r with
      | ok _ => cases hp
      | error _ => cases hp

/-- A call that is about to write has created the file. -/
theorem created_of_pending {w : FilePool} (hthreaded : Pool.Threaded FileCall.prog w) {i : Nat}
    {q : FileCall} {file : Nat} {text : String} {k : Except IoErrorKind Unit → FsProg Unit}
    (hi : w.threads[i]? = some (q, .call (FsCall.write file text) k)) :
    (i, createdIs q.path file) ∈ w.log := by
  have hstage := stage_of_steps (hthreaded.steps i q _ hi)
  generalize ht : Pool.traceOf i w.log = t at hstage
  generalize hp : Prog.call (σ := fs) (FsCall.write file text) k = p at hstage
  cases hstage with
  | before _ _ next =>
      rcases next _ _ hp.symm with hquiet | hcreate
      · cases hquiet
      · rw [← hp] at hcreate
        cases hcreate
  | refused _ => cases hp
  | @created t' file' _ =>
      injection hp with hcall
      injection hcall with hfile
      subst hfile
      rw [← Pool.mem_traceOf, ht]
      exact List.mem_append_right _ (List.mem_singleton.mpr rfl)
  | @written _ _ r _ =>
      cases r with
      | ok _ => cases hp
      | error _ => cases hp

/-! ### Files and the calls that created them -/

/-- A file belongs to the call that created it. -/
structure FilesOwned (w : FilePool) : Prop where
  lt_next : ∀ i name file, (i, createdIs name file) ∈ w.log → file < w.state.dir.next
  unique : ∀ i j name name' file, (i, createdIs name file) ∈ w.log →
    (j, createdIs name' file) ∈ w.log → i = j

omit [Crates] in
theorem filesOwned_initial {s : SharedDir} : FilesOwned (Pool.initial s) where
  lt_next i name file h := by cases h
  unique i j name name' file h := by cases h

omit [Crates] in
/-- A log entry that creates no file leaves it open who created which. -/
theorem FilesOwned.append {w : FilePool} (h : FilesOwned w) {s : SharedDir}
    {threads : List (FileCall × FsProg Unit)} {i : Nat} {ev : Event fs}
    (hev : ∀ name file, ev ≠ createdIs name file) (hnext : s.dir.next = w.state.dir.next) :
    FilesOwned ⟨s, threads, w.log ++ [(i, ev)]⟩ := by
  have hold : ∀ j name file, (j, createdIs name file) ∈ w.log ++ [(i, ev)] →
      (j, createdIs name file) ∈ w.log := by
    intro j name file hmem
    rcases List.mem_append.mp hmem with hmem | hmem
    · exact hmem
    · exact absurd (congrArg Prod.snd (List.mem_singleton.mp hmem)).symm (hev name file)
  refine ⟨fun j name file hmem => ?_, fun j j' name name' file hmem hmem' => ?_⟩
  · change file < s.dir.next
    rw [hnext]
    exact h.lt_next j name file (hold j name file hmem)
  · exact h.unique j j' name name' file (hold j name file hmem) (hold j' name' file hmem')

theorem FilesOwned.fileMove {w w' : FilePool} {i : Nat} {io : Io} {q : FileCall}
    (h : FilesOwned w) (hmove : FileMove w i io q w') : FilesOwned w' := by
  cases hmove with
  | @quiet c k a p s _ hquiet _ _ hdir =>
      refine h.append (fun name file hev => ?_) ?_
      · injection hev with hc
        subst hc
        cases hquiet
      · rcases hdir with hdir | ⟨name, -, -, hdir⟩
        · rw [hdir]
        · rw [hdir, Directory.next_remove]
  | refused => exact h.append (fun name file hev => by cases hev) rfl
  | created hfree =>
      -- the new file has a number that no file had before
      have hcases : ∀ j name file,
          (j, createdIs name file) ∈ w.log ++ [(i, createdIs q.path w.state.dir.next)] →
            ((j, createdIs name file) ∈ w.log ∧ file < w.state.dir.next) ∨
              (j = i ∧ file = w.state.dir.next) := by
        intro j name file hmem
        rcases List.mem_append.mp hmem with hmem | hmem
        · exact Or.inl ⟨hmem, h.lt_next j name file hmem⟩
        · cases List.mem_singleton.mp hmem
          exact Or.inr ⟨rfl, rfl⟩
      refine ⟨fun j name file hmem => ?_, fun j j' name name' file hmem hmem' => ?_⟩
      · change file < w.state.dir.next + 1
        rcases hcases j name file hmem with ⟨-, hlt⟩ | ⟨-, heq⟩
        · exact Nat.lt_succ_of_lt hlt
        · rw [heq]
          exact Nat.lt_succ_self _
      · rcases hcases j name file hmem with ⟨hold, hlt⟩ | ⟨hj, heq⟩
        · rcases hcases j' name' file hmem' with ⟨hold', -⟩ | ⟨-, heq'⟩
          · exact h.unique j j' name name' file hold hold'
          · omega
        · rcases hcases j' name' file hmem' with ⟨-, hlt'⟩ | ⟨hj', -⟩
          · omega
          · rw [hj, hj']
  | wrote _ _ _ => exact h.append (fun name file hev => by cases hev) rfl

/-- Every file of a run belongs to one call. -/
theorem filesOwned_run {s : SharedDir} {moves : List (Move FileCall Io)} {w : FilePool}
    (hrun : FilePool.run s moves = some w) : FilesOwned w := by
  have hboth : Pool.Threaded FileCall.prog w ∧ FilesOwned w := by
    refine Pool.exec_invariant (C := fun _ _ => True)
      (P := fun w => Pool.Threaded FileCall.prog w ∧ FilesOwned w) ?_
      ⟨Pool.threaded_initial, filesOwned_initial⟩ Pool.along_true hrun
    intro w m w' hw _ hmove
    refine ⟨Pool.threaded_move hw.1 hmove, ?_⟩
    cases m with
    | start q =>
        cases hmove
        exact ⟨hw.2.lt_next, hw.2.unique⟩
    | step i io =>
        obtain ⟨q, p, -, hstep⟩ := fileMove_of_step hw.1 hmove
        exact hw.2.fileMove hstep
  exact hboth.2

end Steps

/-! ### One winner -/

section OneWinner

variable [Crates]

/-- Some call of the run has read the clock after that moment. -/
def Past (w : FilePool) (e : Int64) : Prop := ∃ entry ∈ w.threads, e < entry.1.call.now

/-- A file that is removed at this move was written, and has expired by the clock
readings so far. -/
def RemovesExpired (w : FilePool) (m : Move FileCall Io) : Prop :=
  ∀ i io q name k, m = .step i io → io.fails = false →
    w.threads[i]? = some (q, .call (FsCall.removeFile name) k) →
    ∀ file, w.state.dir.find name = some file →
      ∃ e, parseExp (w.state.dir.contents file) = some e ∧ Past w e

/-- A call that is about to write finds its file under its name, still empty; a
call that has recorded its key finds it there with its expiry, or that is past. -/
structure Holding (w : FilePool) : Prop where
  pending : ∀ (i : Nat) (q : FileCall) file text k,
    w.threads[i]? = some (q, .call (FsCall.write file text) k) →
    w.state.dir.find q.path = some file ∧ w.state.dir.contents file = ""
  won : ∀ (i : Nat) (q : FileCall), w.threads[i]? = some (q, .done ()) →
    (∃ file, w.state.dir.find q.path = some file ∧
      w.state.dir.contents file = expLine q.call.exp) ∨ Past w q.call.exp

omit [Crates] in
/-- A move forgets no clock reading. -/
theorem Past.set {w : FilePool} {e : Int64} (h : Past w e) {s : SharedDir} {i : Nat} {q : FileCall}
    {p₀ p : FsProg Unit} {log : List (Nat × Event fs)} (hi : w.threads[i]? = some (q, p₀)) :
    Past ⟨s, w.threads.set i (q, p), log⟩ e := by
  obtain ⟨entry, hmem, hlt⟩ := h
  obtain ⟨j, hj⟩ := List.mem_iff_getElem?.mp hmem
  have hlength : i < w.threads.length := (List.getElem?_eq_some_iff.mp hi).1
  by_cases hij : i = j
  · subst hij
    rw [hi] at hj
    cases hj
    exact ⟨(q, p), List.mem_iff_getElem?.mpr ⟨i, List.getElem?_set_self hlength⟩, hlt⟩
  · refine ⟨entry, List.mem_iff_getElem?.mpr ⟨j, ?_⟩, hlt⟩
    rw [List.getElem?_set_ne hij, hj]

omit [Crates] in
theorem expLine_ne_empty (exp : Int64) : expLine exp ≠ "" := by
  intro h
  have hparse := parseExp_expLine exp
  rw [h, parseExp_empty] at hparse
  cases hparse

omit [Crates] in
/-- The threads after a step: the one that moved, or an old one. -/
theorem getElem?_set_cases {β : Type} {l : List β} {i j : Nat} {b b' : β}
    (h : (l.set i b)[j]? = some b') : (j = i ∧ b' = b) ∨ (j ≠ i ∧ l[j]? = some b') := by
  by_cases hij : i = j
  · subst hij
    rw [List.getElem?_set] at h
    split at h
    · split at h
      · exact Or.inl ⟨rfl, (Option.some.inj h).symm⟩
      · cases h
    · next hne => exact absurd rfl hne
  · rw [List.getElem?_set_ne hij] at h
    exact Or.inr ⟨Ne.symm hij, h⟩

theorem Holding.fileMove {w w' : FilePool} {i : Nat} {io : Io} {q : FileCall} {p₀ : FsProg Unit}
    (h : Holding w) (howned : FilesOwned w) (hthreaded : Pool.Threaded FileCall.prog w)
    (hi : w.threads[i]? = some (q, p₀)) (hremoves : RemovesExpired w (.step i io))
    (hmove : FileMove w i io q w') : Holding w' := by
  cases hmove with
  | @quiet c k a p s pending hquiet running next hdir =>
      rcases hdir with hdir | ⟨name, hc, hok, hdir⟩
      · refine ⟨fun j q' file text k' hj => ?_, fun j q' hj => ?_⟩
        · rcases getElem?_set_cases hj with ⟨-, heq⟩ | ⟨-, hj⟩
          · exact absurd (congrArg Prod.snd heq).symm (next file text k')
          · simp only [hdir]
            exact h.pending j q' file text k' hj
        · rcases getElem?_set_cases hj with ⟨-, heq⟩ | ⟨-, hj⟩
          · exact absurd (congrArg Prod.snd heq).symm (running ())
          · simp only [hdir]
            exact (h.won j q' hj).imp id fun hpast => hpast.set hi
      · -- a removal: what is removed was written and is past
        subst hc
        have hexpired : ∀ file, w.state.dir.find name = some file →
            ∃ e, parseExp (w.state.dir.contents file) = some e ∧ Past w e :=
          hremoves i io q name k rfl hok pending
        refine ⟨fun j q' file text k' hj => ?_, fun j q' hj => ?_⟩
        · rcases getElem?_set_cases hj with ⟨-, heq⟩ | ⟨-, hj⟩
          · exact absurd (congrArg Prod.snd heq).symm (next file text k')
          · obtain ⟨hfind, hempty⟩ := h.pending j q' file text k' hj
            have hname : q'.path ≠ name := by
              intro heq
              obtain ⟨e, he, -⟩ := hexpired file (heq ▸ hfind)
              rw [hempty, parseExp_empty] at he
              cases he
            simp only [hdir, Directory.find_remove_ne hname, Directory.contents_remove]
            exact ⟨hfind, hempty⟩
        · rcases getElem?_set_cases hj with ⟨-, heq⟩ | ⟨-, hj⟩
          · exact absurd (congrArg Prod.snd heq).symm (running ())
          · rcases h.won j q' hj with ⟨file, hfind, hcontents⟩ | hpast
            · by_cases hname : q'.path = name
              · obtain ⟨e, he, hpast⟩ := hexpired file (hname ▸ hfind)
                rw [hcontents, parseExp_expLine] at he
                cases he
                exact Or.inr (hpast.set hi)
              · refine Or.inl ⟨file, ?_⟩
                simp only [hdir, Directory.find_remove_ne hname, Directory.contents_remove]
                exact ⟨hfind, hcontents⟩
            · exact Or.inr (hpast.set hi)
  | refused =>
      refine ⟨fun j q' file text k' hj => ?_, fun j q' hj => ?_⟩
      · rcases getElem?_set_cases hj with ⟨-, heq⟩ | ⟨-, hj⟩
        · cases heq
        · exact h.pending j q' file text k' hj
      · rcases getElem?_set_cases hj with ⟨-, heq⟩ | ⟨-, hj⟩
        · cases heq
        · exact (h.won j q' hj).imp id fun hpast => hpast.set hi
  | created hfree =>
      -- the name was free, so it is nobody else's
      have hother : ∀ name file, w.state.dir.find name = some file →
          (w.state.dir.create q.path).find name = some file ∧
            (w.state.dir.create q.path).contents file = w.state.dir.contents file := by
        intro name file hfind
        have hname : name ≠ q.path := by
          rintro rfl
          rw [hfree] at hfind
          cases hfind
        exact ⟨by rw [Directory.find_create_ne hname, hfind],
          Directory.contents_create_of_lt (Directory.find_lt_next hfind)⟩
      refine ⟨fun j q' file text k' hj => ?_, fun j q' hj => ?_⟩
      · rcases getElem?_set_cases hj with ⟨-, heq⟩ | ⟨-, hj⟩
        · cases heq
          exact ⟨Directory.find_create_self, Directory.contents_create_next⟩
        · obtain ⟨hfind, hempty⟩ := h.pending j q' file text k' hj
          obtain ⟨hfind', hcontents⟩ := hother _ file hfind
          exact ⟨hfind', hcontents.trans hempty⟩
      · rcases getElem?_set_cases hj with ⟨-, heq⟩ | ⟨-, hj⟩
        · cases heq
        · rcases h.won j q' hj with ⟨file, hfind, hcontents⟩ | hpast
          · obtain ⟨hfind', hsame⟩ := hother _ file hfind
            exact Or.inl ⟨file, hfind', hsame.trans hcontents⟩
          · exact Or.inr (hpast.set hi)
  | @wrote file r text k pending hcreated htext =>
      obtain ⟨hfind, hempty⟩ := h.pending i q file _ k pending
      refine ⟨fun j q' file' text' k' hj => ?_, fun j q' hj => ?_⟩
      · rcases getElem?_set_cases hj with ⟨-, heq⟩ | ⟨hne, hold⟩
        · cases r with
          | ok _ => cases heq
          | error _ => cases heq
        · -- another call about to write has created another file
          obtain ⟨hfind', hempty'⟩ := h.pending j q' file' text' k' hold
          have hmem := created_of_pending hthreaded hold
          have hfile : file' ≠ file := by
            rintro rfl
            exact hne (howned.unique j i _ _ _ hmem hcreated)
          exact ⟨hfind', by rw [Directory.contents_write_ne hfile, hempty']⟩
      · rcases getElem?_set_cases hj with ⟨-, heq⟩ | ⟨-, hj⟩
        · cases r with
          | ok _ =>
              cases heq
              exact Or.inl ⟨file, hfind, by rw [Directory.contents_write_self, htext rfl]⟩
          | error _ => cases heq
        · rcases h.won j q' hj with ⟨file', hfind', hcontents⟩ | hpast
          · have hfile : file' ≠ file := by
              rintro rfl
              rw [hempty] at hcontents
              exact expLine_ne_empty _ hcontents.symm
            exact Or.inl ⟨file', hfind', by rw [Directory.contents_write_ne hfile, hcontents]⟩
          · exact Or.inr (hpast.set hi)

omit [Crates] in
/-- A call that starts has neither returned nor is it about to write. -/
theorem getElem?_append_cases {β : Type} {l : List β} {b b' : β} {j : Nat}
    (h : (l ++ [b])[j]? = some b') : l[j]? = some b' ∨ b' = b := by
  rcases Nat.lt_or_ge j l.length with hlt | hge
  · rw [List.getElem?_append_left hlt] at h
    exact Or.inl h
  · rw [List.getElem?_append_right hge, List.getElem?_singleton] at h
    split at h
    · exact Or.inr (Option.some.inj h).symm
    · cases h

theorem prog_fresh (q : FileCall) :
    (∀ x, q.prog ≠ .done x) ∧ ∀ file text k, q.prog ≠ .call (FsCall.write file text) k := by
  have hstage := stage_of_steps (Steps.refl q.prog)
  generalize ht : ([] : List (Event fs)) = t at hstage
  generalize hp : q.prog = p at hstage
  cases hstage with
  | before _ running next =>
      refine ⟨running, fun file text k heq => ?_⟩
      rcases next _ k heq with hquiet | hcreate
      · cases hquiet
      · rw [heq] at hcreate
        cases hcreate
  | refused _ => simp at ht
  | created _ => simp at ht
  | written _ => simp at ht

theorem Holding.start {w : FilePool} (h : Holding w) (q : FileCall) :
    Holding { w with threads := w.threads ++ [(q, q.prog)] } := by
  have hpast : ∀ e, Past w e → Past { w with threads := w.threads ++ [(q, q.prog)] } e := by
    intro e ⟨entry, hmem, hlt⟩
    exact ⟨entry, List.mem_append_left _ hmem, hlt⟩
  refine ⟨fun j q' file text k hj => ?_, fun j q' hj => ?_⟩
  · rcases getElem?_append_cases hj with hold | heq
    · exact h.pending j q' file text k hold
    · injection heq with hq hp
      exact absurd hp.symm ((prog_fresh q).2 file text k)
  · rcases getElem?_append_cases hj with hold | heq
    · exact (h.won j q' hold).imp id (hpast _)
    · injection heq with hq hp
      exact absurd hp.symm ((prog_fresh q).1 ())

/-- In a run whose removals are all of expired files, recorded keys are held. -/
theorem holding_run {s : SharedDir} {moves : List (Move FileCall Io)} {w : FilePool}
    (hrun : FilePool.run s moves = some w)
    (hremoves : Pool.Along fileSystem FileCall.prog RemovesExpired (Pool.initial s) moves) :
    Holding w := by
  have hall : Pool.Threaded FileCall.prog w ∧ FilesOwned w ∧ Holding w := by
    refine Pool.exec_invariant (C := RemovesExpired)
      (P := fun w => Pool.Threaded FileCall.prog w ∧ FilesOwned w ∧ Holding w) ?_
      ⟨Pool.threaded_initial, filesOwned_initial, ⟨?_, ?_⟩⟩ hremoves hrun
    · intro w m w' ⟨hthreaded, howned, hholding⟩ hC hmove
      refine ⟨Pool.threaded_move hthreaded hmove, ?_⟩
      cases m with
      | start q =>
          cases hmove
          exact ⟨⟨howned.lt_next, howned.unique⟩, hholding.start q⟩
      | step i io =>
          obtain ⟨q, p, hi, hstep⟩ := fileMove_of_step hthreaded hmove
          exact ⟨howned.fileMove hstep, hholding.fileMove howned hthreaded hi hC hstep⟩
    · intro i q file text k hi
      simp [Pool.initial] at hi
    · intro i q hi
      simp [Pool.initial] at hi
  exact hall.2.2

/-- **One winner.** Let calls of any processes be interleaved in any way, so that
every removal finds a file that was written and has expired. When a call records a
key that another call has recorded before, the earlier expiry is past. -/
theorem one_winner {s : SharedDir} {moves : List (Move FileCall Io)} {w w' : FilePool} {j : Nat}
    {io : Io} (hrun : FilePool.run s moves = some w)
    (hremoves : Pool.Along fileSystem FileCall.prog RemovesExpired (Pool.initial s) moves)
    (hmove : w.move fileSystem FileCall.prog (.step j io) = some w') :
    ∀ (i : Nat) (q q' : FileCall), w.threads[i]? = some (q, .done ()) →
      w'.threads[j]? = some (q', .done ()) → q.call.jti = q'.call.jti → Past w q.call.exp := by
  intro i q q' hi hj hjti
  have hholding := holding_run hrun hremoves
  obtain ⟨q₀, p₀, hj₀, hstep⟩ := fileMove_of_step (Pool.threaded_exec hrun) hmove
  have hlength : j < w.threads.length := (List.getElem?_eq_some_iff.mp hj₀).1
  cases hstep with
  | quiet _ _ running _ _ =>
      rw [List.getElem?_set_self hlength] at hj
      injection Option.some.inj hj with hq hp
      exact absurd hp (running ())
  | refused =>
      rw [List.getElem?_set_self hlength] at hj
      cases hj
  | created _ =>
      rw [List.getElem?_set_self hlength] at hj
      cases hj
  | @wrote file r text k pending _ _ =>
      rw [List.getElem?_set_self hlength] at hj
      injection Option.some.inj hj with hq
      subst hq
      obtain ⟨hfind, hempty⟩ := hholding.pending j q₀ file _ k pending
      rcases hholding.won i q hi with ⟨file', hfind', hcontents⟩ | hpast
      · -- both files are the one under the name of the key
        have hpath : q.path = q₀.path := congrArg replayFilename hjti
        rw [hpath, hfind] at hfind'
        cases hfind'
        rw [hempty] at hcontents
        exact absurd hcontents.symm (expLine_ne_empty _)
      · exact hpast

end OneWinner

section

open Sample

/-- A call into the file system that works. -/
def working : Io := ⟨false, 0⟩

/-- The next steps of a call. -/
def nextSteps (i n : Nat) : List (Move FileCall Io) := List.replicate n (.step i working)

/-- Uses of one key by two processes, the first of them long before the others. -/
def firstUse : FileCall := ⟨.new 0 8 100, ⟨"k", 5, 1⟩⟩

def slowUse : FileCall := ⟨.new 0 8 100, ⟨"k", 20, 10⟩⟩

def fastUse : FileCall := ⟨.new 1 8 100, ⟨"k", 20, 10⟩⟩

/-- The two later uses race: the slow one reads that the first use has expired, then
the fast one replaces the file, and the slow one removes and replaces it again. -/
def raceMoves : List (Move FileCall Io) :=
  [.start firstUse] ++ nextSteps 0 6 ++ [.start slowUse, .start fastUse] ++ nextSteps 1 5 ++
    nextSteps 2 8 ++ nextSteps 1 2

theorem race_before : (FilePool.run .empty raceMoves).map (fun w => w.threads) =
    some [(firstUse, .done ()),
      (slowUse, .call (FsCall.write 2 (expLine 20)) fun written => orUnavailable written),
      (fastUse, .done ())] :=
  rfl

theorem race_after :
    (FilePool.run .empty (raceMoves ++ [.step 1 working])).map (fun w => w.threads) =
      some [(firstUse, .done ()), (slowUse, .done ()), (fastUse, .done ())] :=
  rfl

/-- **Two winners.** The fast use of the key has recorded it until 20 when the slow
one records it as well, and no clock has shown more than 10. -/
theorem two_winners :
    ∃ moves w w', FilePool.run .empty moves = some w ∧
      w.move fileSystem FileCall.prog (.step 1 working) = some w' ∧
      w.threads[2]? = some (fastUse, .done ()) ∧ w'.threads[1]? = some (slowUse, .done ()) ∧
      fastUse.call.jti = slowUse.call.jti ∧ ¬ Past w fastUse.call.exp ∧
      (w.threads.map fun entry => entry.1.call.now).Pairwise (· ≤ ·) := by
  obtain ⟨w, hrun, hthreads⟩ := Option.map_eq_some_iff.mp race_before
  obtain ⟨w', hrun', hthreads'⟩ := Option.map_eq_some_iff.mp race_after
  have hmove := Pool.move_of_exec_concat hrun hrun'
  refine ⟨raceMoves, w, w', hrun, hmove, by rw [hthreads]; rfl, by rw [hthreads']; rfl, rfl, ?_,
    ?_⟩
  · rintro ⟨entry, hmem, hlt⟩
    rw [hthreads] at hmem
    simp only [List.mem_cons, List.not_mem_nil, or_false] at hmem
    rcases hmem with rfl | rfl | rfl
    · exact absurd hlt (by decide)
    · exact absurd hlt (by decide)
    · exact absurd hlt (by decide)
  · rw [hthreads]
    decide

/-- The second use after the first one, alone. -/
def reuseMoves : List (Move FileCall Io) :=
  [.start firstUse] ++ nextSteps 0 6 ++ [.start slowUse] ++ nextSteps 1 7

theorem reuse_before : (FilePool.run .empty reuseMoves).map (fun w => w.threads) =
    some [(firstUse, .done ()),
      (slowUse, .call (FsCall.write 1 (expLine 20)) fun written => orUnavailable written)] :=
  rfl

theorem reuse_after :
    (FilePool.run .empty (reuseMoves ++ [.step 1 working])).map (fun w => w.threads) =
      some [(firstUse, .done ()), (slowUse, .done ())] :=
  rfl

/-- Check that a removal is of an expired file. -/
def checkRemovesExpired (w : FilePool) (m : Move FileCall Io) : Bool :=
  match m with
  | .start _ => true
  | .step i _ =>
      match w.threads[i]? with
      | some (_, .call (FsCall.removeFile name) _) =>
          (w.state.dir.find name).all fun file =>
            (parseExp (w.state.dir.contents file)).any fun e =>
              w.threads.any fun entry => e < entry.1.call.now
      | _ => true

theorem removesExpired_of_check {w : FilePool} {m : Move FileCall Io}
    (h : checkRemovesExpired w m = true) : RemovesExpired w m := by
  intro i io q name k hm _ hi file hfile
  subst hm
  simp only [checkRemovesExpired, hi, hfile, Option.all_some, Option.any_eq_true,
    List.any_eq_true, decide_eq_true_eq] at h
  exact h

/-- The second use finds the first one expired, and wins after it. -/
theorem sample_one_winner :
    ∃ w, FilePool.run .empty reuseMoves = some w ∧
      w.threads[0]? = some (firstUse, .done ()) ∧ Past w firstUse.call.exp := by
  obtain ⟨w, hrun, hthreads⟩ := Option.map_eq_some_iff.mp reuse_before
  obtain ⟨w', hrun', hthreads'⟩ := Option.map_eq_some_iff.mp reuse_after
  have hmove := Pool.move_of_exec_concat hrun hrun'
  have hremoves : Pool.Along fileSystem FileCall.prog RemovesExpired (Pool.initial .empty)
      reuseMoves :=
    Pool.along_of_check (fun _ _ => removesExpired_of_check) rfl
  have hfirst : w.threads[0]? = some (firstUse, .done ()) := by
    rw [hthreads]
    rfl
  exact ⟨w, hrun, hfirst, one_winner hrun hremoves hmove 0 firstUse slowUse hfirst
    (by rw [hthreads']; rfl) rfl⟩

end

end StsDelegate
