import StsDelegate.FileReplay
import StsDelegate.Sample.Documents

/-!
# The file-backed store refines the specification

A store value that has the directory for itself, on a disk that works, answers
every call as `Conforms` demands. What the programs of the store do on such a disk
is said once for each of them (`Yields`); a directory then stands for the latest
records of a history (`Mirrors`), and every call keeps it in step (`Reflects.call`).
-/

namespace StsDelegate

open Text Effectful Prog

/-! ### What a sweep leaves behind -/

/-- A call into the file system that does not fail. -/
def Io.Works (io : Io) : Prop := io.fails = false

theorem Io.Works.else_branch {io : Io} (h : io.Works) {β : Type} {x y : β} :
    (if io.fails then x else y) = y := by
  have hfails : io.fails = false := h
  rw [hfails]
  rfl

/-- Remove the file of that name if it has expired. -/
def SharedDir.dropExpired (now : Int64) (s : SharedDir) (path : String) : SharedDir :=
  if ((s.dir.read path).bind parseExp).any (· < now) then { s with dir := s.dir.remove path }
  else s

/-- Remove all files that have expired. -/
def SharedDir.sweep (now : Int64) (s : SharedDir) : SharedDir :=
  s.dir.names.foldl (SharedDir.dropExpired now) s

theorem yields_readExp (path : String) (s : SharedDir) :
    Yields fileSystem Io.Works (readExp path) s (.ok ((s.dir.read path).bind parseExp)) s := by
  have hopen : ∀ r, (∀ io, Io.Works io → fsAnswer (.openRead path) io s = (r, s)) →
      Yields fileSystem Io.Works (openRead path) s (.ok r) s :=
    fun r h => yields_perform h
  cases hfind : s.dir.find path with
  | none =>
      have hread : s.dir.read path = none := by rw [Directory.read, hfind]; rfl
      rw [hread]
      refine yields_bind (hopen (.error .notFound) fun io hio => ?_) (yields_done _ _)
      exact hio.else_branch.trans (by rw [hfind])
  | some file =>
      have hread : s.dir.read path = some (s.dir.contents file) := by
        rw [Directory.read, hfind]
        rfl
      rw [hread, Option.bind_some]
      refine yields_bind (hopen (.ok file) fun io hio => ?_) ?_
      · exact hio.else_branch.trans (by rw [hfind])
      · have hcontents : Yields fileSystem Io.Works (readToString file) s
            (.ok (.ok (s.dir.contents file))) s := by
          exact yields_perform fun io hio => hio.else_branch
        exact yields_bind hcontents (yields_done _ _)

theorem yields_removeReplayFile {path : String} {s : SharedDir} {file : Nat}
    (h : s.dir.find path = some file) :
    Yields fileSystem Io.Works (removeReplayFile path) s (.ok ())
      { s with dir := s.dir.remove path } := by
  have hremove : Yields fileSystem Io.Works (removeFile path) s (.ok (.ok ()))
      { s with dir := s.dir.remove path } := by
    exact yields_perform fun io hio => hio.else_branch.trans (by rw [h]; rfl)
  exact yields_bind hremove (yields_done _ _)

theorem yields_removeIfExpired (path : String) (now : Int64) (s : SharedDir) :
    Yields fileSystem Io.Works (removeIfExpired path now) s (.ok ()) (s.dropExpired now path) := by
  refine yields_bind (yields_readExp path s) ?_
  unfold SharedDir.dropExpired
  split
  · next hexpired =>
      cases hfind : s.dir.find path with
      | none => simp [Directory.read, hfind] at hexpired
      | some file => exact yields_removeReplayFile hfind
  · exact yields_done _ _

theorem yields_sweepEntry (now : Int64) (path : String) (s : SharedDir) :
    Yields fileSystem Io.Works (sweepEntry now path) s (.ok ()) (s.dropExpired now path) := by
  have hentry : Yields fileSystem Io.Works nextEntry s (.ok (.ok ())) s := by
    exact yields_perform fun io hio => hio.else_branch
  have hregular : Yields fileSystem Io.Works (isFile path) s (.ok (s.dir.find path).isSome) s := by
    exact yields_perform fun io hio => hio.else_branch
  refine yields_bind hentry (yields_bind (yields_done () s) (yields_bind hregular ?_))
  split
  · exact yields_removeIfExpired path now s
  · next hfile =>
      have hfind : s.dir.find path = none := by simpa using hfile
      have hsame : s.dropExpired now path = s := by
        simp [SharedDir.dropExpired, Directory.read, hfind]
      rw [hsame]
      exact yields_done _ _

/-- A sweep without I/O errors removes the expired files. -/
theorem yields_sweepExpired (now : Int64) (s : SharedDir) :
    Yields fileSystem Io.Works (sweepExpired now) s (.ok ()) (s.sweep now) := by
  have hnames : Yields fileSystem Io.Works readDir s (.ok (.ok s.dir.names)) s := by
    exact yields_perform fun io hio => hio.else_branch
  have hentries : ∀ (names : List String) (s : SharedDir),
      Yields fileSystem Io.Works (sweepEntries now names) s (.ok ())
        (names.foldl (SharedDir.dropExpired now) s) := by
    intro names
    induction names with
    | nil => exact fun s => yields_done () s
    | cons path rest ih => exact fun s => yields_bind (yields_sweepEntry now path s) (ih _)
  exact yields_bind hnames (yields_bind (yields_done _ _) (hentries _ _))

/-- Looking at one entry affects only that entry. -/
theorem find_dropExpired (now : Int64) (s : SharedDir) (path name : String) :
    (s.dropExpired now path).dir.contents = s.dir.contents ∧
    (s.dropExpired now path).dir.find name =
      if name = path ∧ ((s.dir.read name).bind parseExp).any (· < now) = true then none
      else s.dir.find name := by
  unfold SharedDir.dropExpired
  by_cases hname : name = path
  · subst hname
    split
    · next hexpired => exact ⟨rfl, by rw [if_pos ⟨rfl, hexpired⟩, Directory.find_remove_self]⟩
    · next hkept => exact ⟨rfl, by rw [if_neg fun h => hkept h.2]⟩
  · rw [if_neg (c := name = path ∧ _) fun h => hname h.1]
    split
    · exact ⟨rfl, Directory.find_remove_ne hname⟩
    · exact ⟨rfl, rfl⟩

/-- What is found after a sweep: a file that has not expired. -/
theorem find_sweep (now : Int64) (s : SharedDir) (name : String) :
    (s.sweep now).dir.contents = s.dir.contents ∧
    (s.sweep now).dir.find name =
      if ((s.dir.read name).bind parseExp).any (· < now) = true then none
      else s.dir.find name := by
  have hfold : ∀ (names : List String) (s : SharedDir),
      (names.foldl (SharedDir.dropExpired now) s).dir.contents = s.dir.contents ∧
      (names.foldl (SharedDir.dropExpired now) s).dir.find name =
        if name ∈ names ∧ ((s.dir.read name).bind parseExp).any (· < now) = true then none
        else s.dir.find name := by
    intro names
    induction names with
    | nil =>
        intro s
        exact ⟨rfl, by rw [if_neg fun h => List.not_mem_nil h.1]; rfl⟩
    | cons path rest ih =>
        intro s
        obtain ⟨hcontents, hfind⟩ := find_dropExpired now s path name
        obtain ⟨hrest, hrestFind⟩ := ih (s.dropExpired now path)
        rw [List.foldl_cons]
        refine ⟨hrest.trans hcontents, hrestFind.trans ?_⟩
        by_cases hexpired : ((s.dir.read name).bind parseExp).any (· < now) = true
        · by_cases hname : name = path
          · -- this entry is the one: it is gone from here on
            rw [if_pos ⟨hname, hexpired⟩] at hfind
            rw [hfind, ite_self, if_pos ⟨by rw [hname]; exact List.mem_cons_self .., hexpired⟩]
          · rw [if_neg fun h => hname h.1] at hfind
            have hread : (s.dropExpired now path).dir.read name = s.dir.read name := by
              rw [Directory.read, Directory.read, hfind, hcontents]
            rw [hread, hfind]
            simp only [List.mem_cons, hname, false_or]
        · rw [if_neg fun h => hexpired h.2] at hfind
          have hread : (s.dropExpired now path).dir.read name = s.dir.read name := by
            rw [Directory.read, Directory.read, hfind, hcontents]
          rw [hread, hfind, if_neg fun h => hexpired h.2, if_neg fun h => hexpired h.2]
  obtain ⟨hcontents, hfind⟩ := hfold s.dir.names s
  refine ⟨hcontents, hfind.trans ?_⟩
  by_cases hmem : name ∈ s.dir.names
  · simp only [hmem, true_and]
  · have hnone : s.dir.find name = none := by
      cases hfound : s.dir.find name with
      | none => rfl
      | some file => exact absurd (Directory.mem_names.mpr ⟨file, hfound⟩) hmem
    rw [hnone, ite_self, ite_self]

/-! ### What the programs do on a disk that works -/

/-- A directory after a sweep: the files that have expired are gone. -/
structure Swept (now : Int64) (d d' : Directory) : Prop where
  contents_eq : d'.contents = d.contents
  find_eq : ∀ name, d'.find name =
    if ((d.read name).bind parseExp).any (· < now) = true then none else d.find name

theorem swept_sweep (now : Int64) (s : SharedDir) : Swept now s.dir (s.sweep now).dir where
  contents_eq := (find_sweep now s "").1
  find_eq name := (find_sweep now s name).2

section Programs

variable (store : FileReplayStore) (now : Int64) (s : SharedDir)

theorem yields_maybeSweep :
    ∃ s', Yields fileSystem Io.Works (store.maybeSweep now) s (.ok ()) s' ∧
      (s'.dir = s.dir ∨ Swept now s.dir s'.dir) := by
  let counted : SharedDir :=
    ⟨s.dir, Function.update s.callsSinceSweep store.id (s.callsSinceSweep store.id + 1)⟩
  have hcount : Yields fileSystem Io.Works (countCall store.id) s
      (.ok (s.callsSinceSweep store.id + 1)) counted := by
    exact yields_perform fun io hio => rfl
  by_cases hdue : store.sweepEvery ≤ s.callsSinceSweep store.id + 1
  · let reset : SharedDir :=
      ⟨(counted.sweep now).dir, Function.update (counted.sweep now).callsSinceSweep store.id 0⟩
    have hreset : Yields fileSystem Io.Works (resetCalls store.id) (counted.sweep now) (.ok ())
        reset := by
      exact yields_perform fun io hio => rfl
    refine ⟨reset, yields_bind hcount ?_, Or.inr (swept_sweep now counted)⟩
    rw [if_pos hdue]
    exact yields_bind (yields_sweepExpired now counted) hreset
  · refine ⟨counted, yields_bind hcount ?_, Or.inl rfl⟩
    rw [if_neg hdue]
    exact yields_done _ _

theorem yields_activeEntryCount :
    Yields fileSystem Io.Works activeEntryCount s (.ok s.dir.size) s := by
  have hcount : Yields fileSystem Io.Works countFiles s (.ok (.ok s.dir.size)) s := by
    exact yields_perform fun io hio => hio.else_branch
  exact yields_bind hcount (yields_done _ _)

theorem yields_sweepIfFull :
    ∃ s', Yields fileSystem Io.Works (store.sweepIfFull now) s (.ok ()) s' ∧
      ((s.dir.size < store.maxSeen ∧ s'.dir = s.dir) ∨ Swept now s.dir s'.dir) := by
  by_cases hfull : store.maxSeen ≤ s.dir.size
  · refine ⟨s.sweep now, yields_bind (yields_activeEntryCount s) ?_, Or.inr (swept_sweep now s)⟩
    rw [if_pos hfull]
    exact yields_sweepExpired now s
  · refine ⟨s, yields_bind (yields_activeEntryCount s) ?_, Or.inl ⟨Nat.lt_of_not_le hfull, rfl⟩⟩
    rw [if_neg hfull]
    exact yields_done _ _

theorem yields_ensureRoom_full (hfull : store.maxSeen ≤ s.dir.size) :
    Yields fileSystem Io.Works store.ensureRoom s
      (.error ⟨.storeFull, "replay store full, retry shortly"⟩) s := by
  refine yields_bind (yields_activeEntryCount s) ?_
  rw [if_pos hfull]
  exact yields_fail _ _

theorem yields_ensureRoom (hroom : s.dir.size < store.maxSeen) :
    Yields fileSystem Io.Works store.ensureRoom s (.ok ()) s := by
  refine yields_bind (yields_activeEntryCount s) ?_
  rw [if_neg (Nat.not_le.mpr hroom)]
  exact yields_done _ _

theorem yields_createEntry_taken {path : String} {file : Nat} (exp : Int64)
    (h : s.dir.find path = some file) :
    Yields fileSystem Io.Works (createEntry path exp) s
      (.error ⟨.replayDetected, "actor_token replay detected"⟩) s := by
  have hcreate : Yields fileSystem Io.Works (createNew path) s (.ok (.error .alreadyExists)) s := by
    exact yields_perform fun io hio => hio.else_branch.trans (by rw [h]; rfl)
  exact yields_bind hcreate (yields_fail _ _)

theorem yields_createEntry {path : String} (exp : Int64) (h : s.dir.find path = none) :
    Yields fileSystem Io.Works (createEntry path exp) s (.ok ())
      { s with dir := (s.dir.create path).write s.dir.next (expLine exp) } := by
  have hcreate : Yields fileSystem Io.Works (createNew path) s (.ok (.ok s.dir.next))
      { s with dir := s.dir.create path } := by
    exact yields_perform fun io hio => hio.else_branch.trans (by rw [h]; rfl)
  have hwrite : Yields fileSystem Io.Works (write s.dir.next (expLine exp))
      { s with dir := s.dir.create path } (.ok (.ok ()))
      { s with dir := (s.dir.create path).write s.dir.next (expLine exp) } := by
    exact yields_perform fun io hio => hio.else_branch
  exact yields_bind hcreate (yields_bind hwrite (yields_done _ _))

end Programs

/-! ### A directory that stands for records -/

section Records

variable [Crates]

/-- Keys have different files when their digests differ. -/
theorem replayFilename_injective (hsha : Function.Injective Crates.sha256) :
    Function.Injective replayFilename := by
  intro jti jti' h
  have hhex := String.append_left_inj _ |>.mp h
  have hbytes := hsha (hexLower_injective hhex)
  exact asBytes_injective (List.append_cancel_left hbytes)

/-- The files of a directory stand for latest records, and every record that counts
at `now` has its file. -/
structure Mirrors (records : ExpiryMap String Int64) (now : Int64) (d : Directory) : Prop where
  sound : ∀ name file, d.find name = some file → ∃ k e, name = replayFilename k ∧
    d.contents file = expLine e ∧ records.lookup k = some e
  complete : ∀ k e, records.lookup k = some e → now ≤ e →
    d.read (replayFilename k) = some (expLine e)

variable {records : ExpiryMap String Int64} {now : Int64} {d d' : Directory}

theorem Mirrors.mono (h : Mirrors records now d) {now' : Int64} (hle : now ≤ now') :
    Mirrors records now' d :=
  ⟨h.sound, fun k e hlookup hcounts => h.complete k e hlookup (Int64.le_trans hle hcounts)⟩

omit [Crates] in
/-- What is read in a swept directory. -/
theorem Swept.read_eq (h : Swept now d d') (name : String) :
    d'.read name = if ((d.read name).bind parseExp).any (· < now) = true then none
      else d.read name := by
  rw [Directory.read, h.find_eq, h.contents_eq]
  split
  · rfl
  · rfl

theorem Mirrors.swept (h : Mirrors records now d) (hswept : Swept now d d') :
    Mirrors records now d' where
  sound name file hfind := by
    rw [hswept.find_eq] at hfind
    split at hfind
    · cases hfind
    · rw [hswept.contents_eq]
      exact h.sound name file hfind
  complete k e hlookup hcounts := by
    have hread := h.complete k e hlookup hcounts
    rw [hswept.read_eq, hread, Option.bind_some, parseExp_expLine, if_neg]
    simpa using hcounts

/-- The files of the records that count are in the directory. -/
theorem Mirrors.mem_names (h : Mirrors records now d) {k : String}
    (hk : k ∈ (ExpiryMap.sweep now records).keys) : replayFilename k ∈ d.names := by
  rw [← AList.mem_keys, ← AList.lookup_isSome, Option.isSome_iff_exists] at hk
  obtain ⟨e, he⟩ := hk
  obtain ⟨hlookup, hcounts⟩ := ExpiryMap.lookup_sweep.mp he
  have hread := h.complete k e hlookup hcounts
  rw [Directory.read, Option.map_eq_some_iff] at hread
  obtain ⟨file, hfind, -⟩ := hread
  exact Directory.mem_names.mpr ⟨file, hfind⟩

omit [Crates] in
theorem size_eq_length_keys (m : ExpiryMap String Int64) : ExpiryMap.size m = m.keys.length := by
  rw [ExpiryMap.size, AList.keys, List.keys, List.length_map]

/-- There are no fewer files than records that count. -/
theorem Mirrors.live_le_size (hsha : Function.Injective Crates.sha256)
    (h : Mirrors records now d) : ExpiryMap.size (ExpiryMap.sweep now records) ≤ d.size := by
  have hnodup : ((ExpiryMap.sweep now records).keys.map replayFilename).Nodup :=
    (AList.keys_nodup _).map (replayFilename_injective hsha)
  have hsub : (ExpiryMap.sweep now records).keys.map replayFilename ⊆ d.names := by
    intro name hname
    obtain ⟨k, hk, rfl⟩ := List.mem_map.mp hname
    exact h.mem_names hk
  have hle := (List.subperm_of_subset hnodup hsub).length_le
  rwa [List.length_map, ← size_eq_length_keys] at hle

/-- After a sweep there are no more files than records that count. -/
theorem Mirrors.size_swept (h : Mirrors records now d) (hswept : Swept now d d') :
    d'.size ≤ ExpiryMap.size (ExpiryMap.sweep now records) := by
  have hsub : d'.names ⊆ (ExpiryMap.sweep now records).keys.map replayFilename := by
    intro name hname
    obtain ⟨file, hfind⟩ := Directory.mem_names.mp hname
    rw [hswept.find_eq] at hfind
    split at hfind
    · cases hfind
    · next hkept =>
        obtain ⟨k, e, hpath, hcontents, hlookup⟩ := h.sound name file hfind
        have hcounts : now ≤ e := by
          simpa [Directory.read, hfind, hcontents, parseExp_expLine] using hkept
        have hlive : (ExpiryMap.sweep now records).lookup k = some e :=
          ExpiryMap.lookup_sweep.mpr ⟨hlookup, hcounts⟩
        refine List.mem_map.mpr ⟨k, ?_, hpath.symm⟩
        rw [← AList.mem_keys, ← AList.lookup_isSome, hlive]
        rfl
  have hle := (List.subperm_of_subset d'.names_nodup hsub).length_le
  rwa [List.length_map, ← size_eq_length_keys] at hle

/-- Looking at the file of one key is a sweep of that file. -/
theorem Mirrors.dropExpired {s : SharedDir} (h : Mirrors records now s.dir) (path : String) :
    Mirrors records now (s.dropExpired now path).dir where
  sound name file hfind := by
    obtain ⟨hcontents, hfind'⟩ := find_dropExpired now s path name
    rw [hfind'] at hfind
    split at hfind
    · cases hfind
    · rw [hcontents]
      exact h.sound name file hfind
  complete k e hlookup hcounts := by
    obtain ⟨hcontents, hfind⟩ := find_dropExpired now s path (replayFilename k)
    have hread := h.complete k e hlookup hcounts
    have hkept : ¬ ((s.dir.read (replayFilename k)).bind parseExp).any (· < now) = true := by
      rw [hread, Option.bind_some, parseExp_expLine]
      simpa using hcounts
    rw [if_neg fun hboth => hkept hboth.2] at hfind
    rw [Directory.read, hfind, hcontents]
    exact hread

/-- A key whose file is there is recorded with that expiry. -/
theorem Mirrors.lookup_of_find (hsha : Function.Injective Crates.sha256)
    (h : Mirrors records now d) {k : String} {file : Nat}
    (hfind : d.find (replayFilename k) = some file) :
    ∃ e, d.contents file = expLine e ∧ records.lookup k = some e := by
  obtain ⟨k', e, hpath, hcontents, hlookup⟩ := h.sound _ file hfind
  rw [← replayFilename_injective hsha hpath] at hlookup
  exact ⟨e, hcontents, hlookup⟩

/-- Recording a key that has no file. -/
theorem Mirrors.insert (hsha : Function.Injective Crates.sha256) (h : Mirrors records now d)
    {jti : String} (exp : Int64) (hfree : d.find (replayFilename jti) = none) :
    Mirrors (records.insert jti exp) now
      ((d.create (replayFilename jti)).write d.next (expLine exp)) where
  sound name file hfind := by
    rw [Directory.find_write] at hfind
    -- the new file holds the new expiry; any other is older, so it is not the one written
    by_cases hname : name = replayFilename jti
    · subst hname
      rw [Directory.find_create_self] at hfind
      cases hfind
      exact ⟨jti, exp, rfl, Directory.contents_write_self, AList.lookup_insert _⟩
    · rw [Directory.find_create_ne hname] at hfind
      obtain ⟨k, e, hpath, hcontents, hlookup⟩ := h.sound name file hfind
      have hlt := Directory.find_lt_next hfind
      have hkey : k ≠ jti := by
        intro heq
        rw [heq] at hpath
        exact hname hpath
      refine ⟨k, e, hpath, ?_, ?_⟩
      · rw [Directory.contents_write_ne (Nat.ne_of_lt hlt), Directory.contents_create_of_lt hlt,
          hcontents]
      · rw [AList.lookup_insert_ne hkey, hlookup]
  complete k e hlookup hcounts := by
    by_cases hkey : k = jti
    · subst hkey
      rw [AList.lookup_insert] at hlookup
      cases hlookup
      rw [Directory.read, Directory.find_write, Directory.find_create_self, Option.map_some,
        Directory.contents_write_self]
    · rw [AList.lookup_insert_ne hkey] at hlookup
      have hpath : replayFilename k ≠ replayFilename jti :=
        fun heq => hkey (replayFilename_injective hsha heq)
      have hread := h.complete k e hlookup hcounts
      rw [Directory.read, Option.map_eq_some_iff] at hread
      obtain ⟨file, hfind, hcontents⟩ := hread
      have hlt := Directory.find_lt_next hfind
      rw [Directory.read, Directory.find_write, Directory.find_create_ne hpath, hfind,
        Option.map_some, Directory.contents_write_ne (Nat.ne_of_lt hlt),
        Directory.contents_create_of_lt hlt, hcontents]

/-- Everything a call can do on a disk that works. -/
theorem yields_checkAndRecord (hsha : Function.Injective Crates.sha256) (store : FileReplayStore)
    (c : RecordCall) {s : SharedDir} (h : Mirrors records c.now s.dir) :
    ∃ r s', Yields fileSystem Io.Works (store.checkAndRecord c) s r s' ∧
      ((isBlank c.jti = true ∧ r = .error ⟨.invalidRequest, "jti must not be empty"⟩ ∧
          Mirrors records c.now s'.dir) ∨
        (store.maxSeen ≤ ExpiryMap.size (ExpiryMap.sweep c.now records) ∧
          r = .error ⟨.storeFull, "replay store full, retry shortly"⟩ ∧
          Mirrors records c.now s'.dir) ∨
        (c.jti ∈ ExpiryMap.sweep c.now records ∧
          r = .error ⟨.replayDetected, "actor_token replay detected"⟩ ∧
          Mirrors records c.now s'.dir) ∨
        (c.jti ∉ ExpiryMap.sweep c.now records ∧
          ExpiryMap.size (ExpiryMap.sweep c.now records) < store.maxSeen ∧ r = .ok () ∧
          Mirrors (records.insert c.jti c.exp) c.now s'.dir)) := by
  cases hblank : isBlank c.jti with
  | true =>
      refine ⟨.error ⟨.invalidRequest, "jti must not be empty"⟩, s, ?_, Or.inl ⟨rfl, rfl, h⟩⟩
      rw [FileReplayStore.checkAndRecord, hblank]
      exact yields_fail _ _
  | false =>
      rw [FileReplayStore.checkAndRecord, hblank]
      simp only [Bool.false_eq_true, if_false, false_and, false_or]
      -- the two sweeps
      obtain ⟨s₁, hmaybe, hdir₁⟩ := yields_maybeSweep store c.now s
      have h₁ : Mirrors records c.now s₁.dir := by
        rcases hdir₁ with hdir | hswept
        · rwa [hdir]
        · exact h.swept hswept
      obtain ⟨s₂, hfull, hdir₂⟩ := yields_sweepIfFull store c.now s₁
      have h₂ : Mirrors records c.now s₂.dir := by
        rcases hdir₂ with ⟨-, hdir⟩ | hswept
        · rwa [hdir]
        · exact h₁.swept hswept
      by_cases hroom : s₂.dir.size < store.maxSeen
      · have hlive := Nat.lt_of_le_of_lt (h₂.live_le_size hsha) hroom
        have hensure := yields_ensureRoom store s₂ hroom
        -- the file of the key is looked at, then created
        have hdrop := yields_removeIfExpired (replayFilename c.jti) c.now s₂
        have h₃ := h₂.dropExpired (replayFilename c.jti)
        cases hfind : (s₂.dropExpired c.now (replayFilename c.jti)).dir.find
            (replayFilename c.jti) with
        | some file =>
            refine ⟨_, _, yields_bind hmaybe (yields_bind hfull (yields_bind hensure
              (yields_bind hdrop (yields_createEntry_taken _ c.exp hfind)))), ?_⟩
            refine Or.inr (Or.inl ⟨?_, rfl, h₃⟩)
            obtain ⟨e, hcontents, hlookup⟩ := h₃.lookup_of_find hsha hfind
            obtain ⟨hsame, hkept⟩ := find_dropExpired c.now s₂ (replayFilename c.jti)
              (replayFilename c.jti)
            rw [hfind] at hkept
            split at hkept
            · cases hkept
            · next hexpired =>
                rw [hsame] at hcontents
                have hcounts : c.now ≤ e := by
                  simpa [Directory.read, ← hkept, hcontents, parseExp_expLine] using hexpired
                rw [← AList.lookup_isSome, ExpiryMap.lookup_sweep.mpr ⟨hlookup, hcounts⟩]
                rfl
        | none =>
            refine ⟨_, _, yields_bind hmaybe (yields_bind hfull (yields_bind hensure
              (yields_bind hdrop (yields_createEntry _ c.exp hfind)))), ?_⟩
            refine Or.inr (Or.inr ⟨?_, hlive, rfl, h₃.insert hsha c.exp hfind⟩)
            intro hmem
            obtain ⟨file, hfile⟩ := Directory.mem_names.mp (h₃.mem_names (AList.mem_keys.mp hmem))
            rw [hfind] at hfile
            cases hfile
      · have hover : store.maxSeen ≤ s₂.dir.size := Nat.le_of_not_lt hroom
        refine ⟨_, s₂, yields_bind hmaybe (yields_bind hfull (yields_bind_error
          (yields_ensureRoom_full store s₂ hover))), Or.inl ⟨?_, rfl, h₂⟩⟩
        rcases hdir₂ with ⟨hlt, hdir⟩ | hswept
        · rw [hdir] at hover
          omega
        · exact Nat.le_trans hover (h₁.size_swept hswept)

end Records

/-! ### The store -/

section Refinement

variable [Crates]

/-- A store value that has the directory for itself, as a `ReplayStore`. -/
def FileReplayStore.replayStore (store : FileReplayStore) (env : Nat → Io) :
    ReplayStore SharedDir :=
  ⟨fun s c =>
    (((store.checkAndRecord c).run fileSystem env s).outcome,
      ((store.checkAndRecord c).run fileSystem env s).state)⟩

/-- The expiry that the directory has for a key. -/
def SharedDir.recorded (s : SharedDir) (jti : String) : Option Int64 :=
  (s.dir.read (replayFilename jti)).bind parseExp

/-- The directory stands for the history, at every moment not before it. -/
def Reflects (history : History) (s : SharedDir) : Prop :=
  ∀ now, (∀ c r, (c, r) ∈ history → c.now ≤ now) → Mirrors history.latest now s.dir

theorem reflects_empty : Reflects [] .empty := by
  intro now _
  refine ⟨fun name file hfind => ?_, fun k e hlookup => ?_⟩
  · exact absurd (Directory.find_empty.symm.trans hfind) (by simp)
  · rw [History.latest_nil, AList.lookup_empty] at hlookup
    cases hlookup

/-- One call: it conforms, a replay it detects is of a key that counts, and the
directory goes on to stand for the history. -/
theorem Reflects.call (hsha : Function.Injective Crates.sha256) {store : FileReplayStore}
    {env : Nat → Io} (henv : ∀ n, (env n).Works) {history : History} {s : SharedDir}
    (h : Reflects history s) (c : RecordCall)
    (htime : ∀ c' r', (c', r') ∈ history → c'.now ≤ c.now) :
    Conforms store.maxSeen history c ((store.replayStore env).checkAndRecord s c).1 ∧
    (∀ err, ((store.replayStore env).checkAndRecord s c).1 = .error err →
      err.kind = .replayDetected → c.jti ∈ history.live c.now) ∧
    Reflects (history ++ [(c, ((store.replayStore env).checkAndRecord s c).1)])
      ((store.replayStore env).checkAndRecord s c).2 := by
  obtain ⟨r, s', hyields, hcases⟩ := yields_checkAndRecord hsha store c (h c.now htime)
  obtain ⟨t, hrun⟩ := hyields env henv
  have hresult : (store.replayStore env).checkAndRecord s c = (r, s') := by
    unfold FileReplayStore.replayStore
    simp only [hrun]
  rw [hresult]
  -- it is enough to have the relation at the moment of the call
  have hreflects : Mirrors (History.latest (history ++ [(c, r)])) c.now s'.dir →
      Reflects (history ++ [(c, r)]) s' := by
    intro hmirrors now hnow
    exact hmirrors.mono (hnow c r (List.mem_append_right _ (List.mem_singleton.mpr rfl)))
  have hrecorded : c.jti ∈ history.live c.now → history.Recorded c.jti :=
    fun hmem => History.mem_latest.mp (ExpiryMap.mem_of_mem_sweep hmem)
  rcases hcases with ⟨hblank, rfl, hmirrors⟩ | ⟨hfull, rfl, hmirrors⟩ | ⟨hmem, rfl, hmirrors⟩ |
      ⟨hnot, hroom, rfl, hmirrors⟩
  · refine ⟨conforms_of_cases ?_ ?_ ?_ ?_, ?_, hreflects ?_⟩
    · intro hok; cases hok
    · intro err herr hkind; cases herr; cases hkind
    · intro err herr hkind; cases herr; cases hkind
    · exact fun _ _ _ => hblank
    · intro err herr hkind; cases herr; cases hkind
    · rwa [History.latest_append_error]
  · refine ⟨conforms_of_cases ?_ ?_ ?_ ?_, ?_, hreflects ?_⟩
    · intro hok; cases hok
    · exact fun _ _ _ => hfull
    · intro err herr hkind; cases herr; cases hkind
    · intro err herr hkind; cases herr; cases hkind
    · intro err herr hkind; cases herr; cases hkind
    · rwa [History.latest_append_error]
  · refine ⟨conforms_of_cases ?_ ?_ ?_ ?_, ?_, hreflects ?_⟩
    · intro hok; cases hok
    · intro err herr hkind; cases herr; cases hkind
    · exact fun _ _ _ => hrecorded hmem
    · intro err herr hkind; cases herr; cases hkind
    · exact fun _ _ _ => hmem
    · rwa [History.latest_append_error]
  · refine ⟨conforms_of_cases ?_ ?_ ?_ ?_, ?_, hreflects ?_⟩
    · exact fun _ => ⟨hnot, hroom⟩
    · intro err herr; cases herr
    · intro err herr; cases herr
    · intro err herr; cases herr
    · intro err herr; cases herr
    · rwa [History.latest_append_ok]

/-- The directory has for a key the record that counts. -/
theorem Reflects.recorded_iff (hsha : Function.Injective Crates.sha256) {history : History}
    {s : SharedDir} (h : Reflects history s) {now : Int64}
    (htime : ∀ c r, (c, r) ∈ history → c.now ≤ now) (k : String) (e : Int64) (hle : now ≤ e) :
    s.recorded k = some e ↔ (history.live now).lookup k = some e := by
  have hmirrors := h now htime
  rw [History.lookup_live, SharedDir.recorded]
  constructor
  · intro hrecorded
    cases hfind : s.dir.find (replayFilename k) with
    | none => simp [Directory.read, hfind] at hrecorded
    | some file =>
        obtain ⟨e', hcontents, hlookup⟩ := hmirrors.lookup_of_find hsha hfind
        rw [Directory.read, hfind, Option.map_some, Option.bind_some, hcontents,
          parseExp_expLine] at hrecorded
        cases hrecorded
        exact ⟨hlookup, hle⟩
  · intro ⟨hlookup, hcounts⟩
    rw [hmirrors.complete k e hlookup hcounts, Option.bind_some, parseExp_expLine]

/-- **The file-backed store refines the specification.** -/
theorem FileReplayStore.refines (hsha : Function.Injective Crates.sha256) (store : FileReplayStore)
    {env : Nat → Io} (henv : ∀ n, (env n).Works) :
    ReplayStore.Refines (store.replayStore env) .empty store.maxSeen SharedDir.recorded := by
  refine ReplayStore.refines_of_simulation reflects_empty ?_ ?_ ?_
  · exact fun history s c h htime => (h.call hsha henv c htime).2.2
  · exact fun history s c h htime => (h.call hsha henv c htime).1
  · exact fun history s now h htime => h.recorded_iff hsha htime

/-- **Both replay stores refine one specification.** Whatever the limit and the sweep
interval, on a clock that does not go back every call to either store answers as the
credentials that count demand and extends or keeps exactly these; what the
file-backed store, alone in its directory on a disk that works, refuses as replayed
still counts. -/
theorem stores_refine (hsha : Function.Injective Crates.sha256) (maxSeen sweepEvery id : Nat)
    (env : Nat → Io) (henv : ∀ n, (env n).Works) :
    (InMemoryReplayStore.replayStore.Refines (.new maxSeen sweepEvery) maxSeen
      fun store k => store.seen.lookup k) ∧
    (((FileReplayStore.new id maxSeen sweepEvery).replayStore env).Refines .empty maxSeen
      SharedDir.recorded) ∧
    ∀ calls c, ReplayStore.NowNondecreasing (calls ++ [c]) →
      let run := ((FileReplayStore.new id maxSeen sweepEvery).replayStore env).run .empty calls
      ∀ err, (((FileReplayStore.new id maxSeen sweepEvery).replayStore env).checkAndRecord
          run.2 c).1 = .error err → err.kind = .replayDetected →
        c.jti ∈ History.live run.1 c.now := by
  refine ⟨InMemoryReplayStore.refines maxSeen sweepEvery,
    FileReplayStore.refines hsha (.new id maxSeen sweepEvery) henv, ?_⟩
  intro calls c htime
  let store := (FileReplayStore.new id maxSeen sweepEvery).replayStore env
  obtain ⟨hbefore, hle⟩ := ReplayStore.now_le_of_mem_run store .empty htime
  have hreflects : Reflects (store.run .empty calls).1 (store.run .empty calls).2 :=
    ReplayStore.rel_of_simulation reflects_empty
      (fun history s c h htime => (h.call hsha henv c htime).2.2) hbefore
  exact (hreflects.call hsha henv c hle).2.1

end Refinement

section

open Sample

/-- A store for two credentials, in memory and on a disk. -/
theorem sample_stores_refine :
    (InMemoryReplayStore.replayStore.Refines (.new 2 1) 2 fun store k => store.seen.lookup k) ∧
    ((FileReplayStore.new 0 2 1).replayStore fun _ => ⟨false, 0⟩).Refines .empty 2
      SharedDir.recorded := by
  obtain ⟨hmemory, hfile, -⟩ :=
    stores_refine sha256_injective 2 1 0 (fun _ => ⟨false, 0⟩) fun _ => rfl
  exact ⟨hmemory, hfile⟩

end

end StsDelegate
