import Mathlib.Logic.Function.Basic

/-!
# Files under paths

A path leads to a **file** (an inode) and the file has contents. Renaming gives a file
another path in one step, and takes that path away from the file that had it; a program
that has opened a file keeps reaching it whatever happens to its paths.

All lemmas say what is found under a path, or in a file, after an operation.
-/

/-- Files with contents `α` under paths `P`, numbered in the order they are created. -/
structure Files (P α : Type) where
  find : P → Option Nat
  contents : Nat → α
  /-- The number of the next file. -/
  next : Nat
  /-- The files that are found have been created. -/
  lt_next : ∀ path file, find path = some file → file < next

namespace Files

variable {P α : Type}

/-- What is to be read under a path. -/
def read (t : Files P α) (path : P) : Option α := (t.find path).map t.contents

/-- No file has two paths. -/
def Separate (t : Files P α) : Prop :=
  ∀ path other file, t.find path = some file → t.find other = some file → path = other

/-- Set the contents of a file, whether or not it has a path. -/
def write (t : Files P α) (file : Nat) (a : α) : Files P α :=
  { t with contents := Function.update t.contents file a }

variable [DecidableEq P]

/-- Create a file under a path. -/
def create (t : Files P α) (path : P) (a : α) : Files P α where
  find := Function.update t.find path (some t.next)
  contents := Function.update t.contents t.next a
  next := t.next + 1
  lt_next other file h := by
    by_cases hpath : other = path
    · subst hpath
      rw [Function.update_self] at h
      cases h
      exact Nat.lt_succ_self _
    · rw [Function.update_of_ne hpath] at h
      exact Nat.lt_succ_of_lt (t.lt_next other file h)

/-- Take a path away. -/
def remove (t : Files P α) (path : P) : Files P α where
  find := Function.update t.find path none
  contents := t.contents
  next := t.next
  lt_next other file h := by
    by_cases hpath : other = path
    · subst hpath
      rw [Function.update_self] at h
      cases h
    · rw [Function.update_of_ne hpath] at h
      exact t.lt_next other file h

/-- Give what is under one path the other path. -/
def rename (t : Files P α) (source target : P) : Files P α where
  find := Function.update (Function.update t.find source none) target (t.find source)
  contents := t.contents
  next := t.next
  lt_next other file h := by
    by_cases htarget : other = target
    · subst htarget
      rw [Function.update_self] at h
      exact t.lt_next source file h
    · rw [Function.update_of_ne htarget] at h
      by_cases hsource : other = source
      · subst hsource
        rw [Function.update_self] at h
        cases h
      · rw [Function.update_of_ne hsource] at h
        exact t.lt_next other file h

/-! ### What is found afterwards -/

variable {t : Files P α} {path other source target : P} {file : Nat} {a : α}

omit [DecidableEq P] in
@[simp] theorem find_write : (t.write file a).find path = t.find path := rfl

omit [DecidableEq P] in
@[simp] theorem next_write : (t.write file a).next = t.next := rfl

omit [DecidableEq P] in
@[simp] theorem contents_write_self : (t.write file a).contents file = a :=
  Function.update_self ..

omit [DecidableEq P] in
theorem contents_write_ne {file' : Nat} (h : file' ≠ file) :
    (t.write file a).contents file' = t.contents file' :=
  Function.update_of_ne h ..

@[simp] theorem find_create_self : (t.create path a).find path = some t.next :=
  Function.update_self ..

theorem find_create_ne (h : other ≠ path) : (t.create path a).find other = t.find other :=
  Function.update_of_ne h ..

@[simp] theorem next_create : (t.create path a).next = t.next + 1 := rfl

@[simp] theorem contents_create_next : (t.create path a).contents t.next = a :=
  Function.update_self ..

/-- Creating a file leaves all other files alone. -/
theorem contents_create_of_lt (h : file < t.next) :
    (t.create path a).contents file = t.contents file :=
  Function.update_of_ne (Nat.ne_of_lt h) ..

@[simp] theorem find_remove_self : (t.remove path).find path = none := Function.update_self ..

theorem find_remove_ne (h : other ≠ path) : (t.remove path).find other = t.find other :=
  Function.update_of_ne h ..

@[simp] theorem contents_remove : (t.remove path).contents = t.contents := rfl

@[simp] theorem next_remove : (t.remove path).next = t.next := rfl

@[simp] theorem find_rename_target : (t.rename source target).find target = t.find source :=
  Function.update_self ..

theorem find_rename_source (h : source ≠ target) : (t.rename source target).find source = none := by
  show Function.update (Function.update t.find source none) target (t.find source) source = none
  rw [Function.update_of_ne h, Function.update_self]

theorem find_rename_ne (hsource : other ≠ source) (htarget : other ≠ target) :
    (t.rename source target).find other = t.find other := by
  show Function.update (Function.update t.find source none) target (t.find source) other = _
  rw [Function.update_of_ne htarget, Function.update_of_ne hsource]

@[simp] theorem contents_rename : (t.rename source target).contents = t.contents := rfl

@[simp] theorem next_rename : (t.rename source target).next = t.next := rfl

/-! ### What is read afterwards -/

omit [DecidableEq P] in
theorem read_write (h : t.find path ≠ some file) : (t.write file a).read path = t.read path := by
  rw [read, read, find_write]
  cases hfind : t.find path with
  | none => rfl
  | some file' =>
      have hne : file' ≠ file := by
        rintro rfl
        exact h hfind
      rw [Option.map_some, Option.map_some, contents_write_ne hne]

theorem read_create_ne (h : other ≠ path) : (t.create path a).read other = t.read other := by
  rw [read, read, find_create_ne h]
  cases hfind : t.find other with
  | none => rfl
  | some file =>
      rw [Option.map_some, Option.map_some, contents_create_of_lt (t.lt_next other file hfind)]

theorem read_remove_ne (h : other ≠ path) : (t.remove path).read other = t.read other := by
  rw [read, read, find_remove_ne h, contents_remove]

@[simp] theorem read_rename_target : (t.rename source target).read target = t.read source := by
  rw [read, read, find_rename_target, contents_rename]

theorem read_rename_ne (hsource : other ≠ source) (htarget : other ≠ target) :
    (t.rename source target).read other = t.read other := by
  rw [read, read, find_rename_ne hsource htarget, contents_rename]

/-! ### Files with one path -/

omit [DecidableEq P] in
theorem Separate.write (h : t.Separate) (file : Nat) (a : α) : (t.write file a).Separate := h

theorem Separate.create (h : t.Separate) (path : P) (a : α) : (t.create path a).Separate := by
  intro p q file hp hq
  by_cases hpath : p = path
  · by_cases hqath : q = path
    · rw [hpath, hqath]
    · -- the new file has no other path
      rw [hpath, find_create_self] at hp
      rw [find_create_ne hqath] at hq
      cases hp
      exact absurd (t.lt_next _ _ hq) (Nat.lt_irrefl _)
  · rw [find_create_ne hpath] at hp
    by_cases hqath : q = path
    · rw [hqath, find_create_self] at hq
      cases hq
      exact absurd (t.lt_next _ _ hp) (Nat.lt_irrefl _)
    · rw [find_create_ne hqath] at hq
      exact h p q file hp hq

theorem Separate.remove (h : t.Separate) (path : P) : (t.remove path).Separate := by
  intro p q file hp hq
  by_cases hpath : p = path
  · rw [hpath, find_remove_self] at hp
    cases hp
  · by_cases hqath : q = path
    · rw [hqath, find_remove_self] at hq
      cases hq
    · rw [find_remove_ne hpath] at hp
      rw [find_remove_ne hqath] at hq
      exact h p q file hp hq

theorem Separate.rename (h : t.Separate) (source target : P) :
    (t.rename source target).Separate := by
  -- the target leads to the old file, and no other path does
  have hfind : ∀ p file, (t.rename source target).find p = some file →
      (p = target ∧ t.find source = some file) ∨ (p ≠ source ∧ t.find p = some file) := by
    intro p file hp
    by_cases htarget : p = target
    · rw [htarget, find_rename_target] at hp
      exact Or.inl ⟨htarget, hp⟩
    · by_cases hsource : p = source
      · subst hsource
        rw [find_rename_source htarget] at hp
        cases hp
      · rw [find_rename_ne hsource htarget] at hp
        exact Or.inr ⟨hsource, hp⟩
  intro p q file hp hq
  obtain ⟨rfl, hsource⟩ | ⟨hp', hold⟩ := hfind p file hp
  · obtain ⟨rfl, -⟩ | ⟨hq', hold⟩ := hfind q file hq
    · rfl
    · exact absurd (h q source file hold hsource) hq'
  · obtain ⟨rfl, hsource⟩ | ⟨-, hold'⟩ := hfind q file hq
    · exact absurd (h p source file hold hsource) hp'
    · exact h p q file hold hold'

end Files
