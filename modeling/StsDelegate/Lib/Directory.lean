import Mathlib.Data.List.AList
import Mathlib.Logic.Function.Basic

/-!
# A directory of files

A flat directory as several processes share it. A name leads to a **file** (an
inode), and the file has the contents; a process that has opened a file keeps
reaching it after its name was removed or given to another file. Creating a file
fails when the name is taken, so that of several processes that try to create the
same name one wins.

All lemmas say what is found under a name, or in a file, after an operation.
-/

/-- A directory. Files are numbered in the order they are created. -/
structure Directory where
  entries : AList fun _ : String => Nat
  contents : Nat → String
  /-- The number of the next file. -/
  next : Nat
  /-- The files in the directory have been created. -/
  lt_next : ∀ name file, entries.lookup name = some file → file < next

namespace Directory

/-- The file under a name. -/
def find (d : Directory) (name : String) : Option Nat := d.entries.lookup name

/-- What is to be read under a name. -/
def read (d : Directory) (name : String) : Option String := (d.find name).map d.contents

/-- The names in the directory. -/
def names (d : Directory) : List String := d.entries.keys

/-- The number of files in the directory. -/
def size (d : Directory) : Nat := d.names.length

def empty : Directory where
  entries := ∅
  contents _ := ""
  next := 0
  lt_next name file h := by
    rw [AList.lookup_empty] at h
    cases h

/-- Create a file under a name that is not taken. -/
def create (d : Directory) (name : String) : Directory where
  entries := d.entries.insert name d.next
  contents := Function.update d.contents d.next ""
  next := d.next + 1
  lt_next other file h := by
    by_cases hname : other = name
    · subst hname
      rw [AList.lookup_insert] at h
      have := Option.some.inj h
      omega
    · rw [AList.lookup_insert_ne hname] at h
      exact Nat.lt_succ_of_lt (d.lt_next other file h)

/-- Set the contents of a file, whether or not it still has a name. -/
def write (d : Directory) (file : Nat) (text : String) : Directory :=
  { d with contents := Function.update d.contents file text }

/-- Remove a name. -/
def remove (d : Directory) (name : String) : Directory where
  entries := d.entries.erase name
  contents := d.contents
  next := d.next
  lt_next other file h := by
    by_cases hname : other = name
    · subst hname
      rw [AList.lookup_erase] at h
      cases h
    · rw [AList.lookup_erase_ne hname] at h
      exact d.lt_next other file h

/-! ### What is found afterwards -/

variable {d : Directory} {name other : String} {file : Nat} {text : String}

@[simp] theorem find_empty : empty.find name = none := AList.lookup_empty name

@[simp] theorem names_empty : empty.names = [] := rfl

theorem find_lt_next (h : d.find name = some file) : file < d.next := d.lt_next name file h

@[simp] theorem find_create_self : (d.create name).find name = some d.next :=
  AList.lookup_insert _

@[simp] theorem find_create_ne (h : other ≠ name) : (d.create name).find other = d.find other :=
  AList.lookup_insert_ne h

@[simp] theorem contents_create_next : (d.create name).contents d.next = "" :=
  Function.update_self ..

/-- Creating a file leaves all other files alone. -/
theorem contents_create_of_lt (h : file < d.next) :
    (d.create name).contents file = d.contents file :=
  Function.update_of_ne (Nat.ne_of_lt h) ..

@[simp] theorem next_create : (d.create name).next = d.next + 1 := rfl

@[simp] theorem find_write : (d.write file text).find name = d.find name := rfl

@[simp] theorem contents_write_self : (d.write file text).contents file = text :=
  Function.update_self ..

@[simp] theorem contents_write_ne {file' : Nat} (h : file' ≠ file) :
    (d.write file text).contents file' = d.contents file' :=
  Function.update_of_ne h ..

@[simp] theorem next_write : (d.write file text).next = d.next := rfl

@[simp] theorem find_remove_self : (d.remove name).find name = none := AList.lookup_erase ..

@[simp] theorem find_remove_ne (h : other ≠ name) : (d.remove name).find other = d.find other :=
  AList.lookup_erase_ne h

@[simp] theorem contents_remove : (d.remove name).contents = d.contents := rfl

@[simp] theorem next_remove : (d.remove name).next = d.next := rfl

/-- Removing a name finds nothing new. -/
theorem find_of_find_remove (h : (d.remove name).find other = some file) :
    other ≠ name ∧ d.find other = some file := by
  by_cases hname : other = name
  · subst hname
    rw [find_remove_self] at h
    cases h
  · rw [find_remove_ne hname] at h
    exact ⟨hname, h⟩

theorem mem_names : name ∈ d.names ↔ ∃ file, d.find name = some file := by
  rw [names, ← AList.mem_keys, ← AList.lookup_isSome, Option.isSome_iff_exists]
  rfl

theorem names_nodup (d : Directory) : d.names.Nodup := d.entries.keys_nodup

/-- A directory in which nothing is found has no names. -/
theorem names_eq_nil (h : ∀ name, d.find name = none) : d.names = [] := by
  rw [List.eq_nil_iff_forall_not_mem]
  intro name hmem
  obtain ⟨file, hfile⟩ := mem_names.mp hmem
  rw [h name] at hfile
  cases hfile

/-! ### How many files there are -/

@[simp] theorem size_empty : empty.size = 0 := rfl

theorem size_create (h : d.find name = none) : (d.create name).size = d.size + 1 := by
  have hnot : name ∉ d.entries.keys := AList.lookup_eq_none.mp h
  have hkeys : (d.create name).names = name :: d.names := by
    rw [names, names, create, AList.keys_insert, List.erase_of_not_mem hnot]
  rw [size, hkeys, List.length_cons, size]

@[simp] theorem size_write : (d.write file text).size = d.size := rfl

theorem size_remove_le : (d.remove name).size ≤ d.size := by
  have hkeys : (d.remove name).names = d.names.erase name := AList.keys_erase _ _
  rw [size, hkeys]
  exact List.length_erase_le ..

end Directory
