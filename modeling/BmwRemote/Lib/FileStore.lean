import Mathlib.Logic.Function.Basic

/-! Files by their paths, and a process that works on them. The process may be stopped
between any two of its operations, so what must not be lost is asked of every state
of the files that it passes. -/
namespace BmwRemote.Lib

universe u v

abbrev FileStore (P : Type u) (C : Type v) := P → Option C

inductive FileOperation (P : Type u) (C : Type v) where
  | put (path : P) (content : C)
  | remove (path : P)
  | rename (source target : P)

/-- The files, and the files that the process has passed before. -/
structure Disk (P : Type u) (C : Type v) where
  files : FileStore P C
  past : List (FileStore P C) := []

variable {P : Type u} {C : Type v}

namespace Disk

variable {disk : Disk P C} {holds : FileStore P C → Prop}

def points (disk : Disk P C) : List (FileStore P C) := disk.past ++ [disk.files]

/-- Wherever the process is stopped. -/
def Always (holds : FileStore P C → Prop) (disk : Disk P C) : Prop :=
  ∀ files ∈ disk.points, holds files

theorem Always.now (h : disk.Always holds) : holds disk.files :=
  h disk.files (by simp [points])

theorem always_start {files : FileStore P C} (h : holds files) :
    ({ files } : Disk P C).Always holds := by
  simpa [Always, points] using h

theorem Always.mono {weaker : FileStore P C → Prop} (h : disk.Always holds)
    (hweaker : ∀ files, holds files → weaker files) : disk.Always weaker :=
  fun files hfiles => hweaker files (h files hfiles)

end Disk

variable [DecidableEq P]

namespace FileOperation

def apply (operation : FileOperation P C) (files : FileStore P C) : FileStore P C :=
  match operation with
  | put path content => Function.update files path (some content)
  | remove path => Function.update files path none
  | rename source target =>
      if files source = none then files
      else Function.update (Function.update files source none) target (files source)

variable {files : FileStore P C} {path source target other : P} {content : C}

@[simp] theorem apply_put_same : (put path content).apply files path = some content :=
  Function.update_self ..

theorem apply_put_other (h : other ≠ path) : (put path content).apply files other = files other :=
  Function.update_of_ne h ..

theorem apply_remove_other (h : other ≠ path) :
    (remove path : FileOperation P C).apply files other = files other :=
  Function.update_of_ne h ..

theorem apply_rename (files : FileStore P C) (source target : P) :
    (rename source target).apply files =
      if files source = none then files
      else Function.update (Function.update files source none) target (files source) := rfl

@[simp] theorem apply_rename_target (h : files source ≠ none) :
    (rename source target : FileOperation P C).apply files target = files source := by
  rw [apply_rename, if_neg h, Function.update_self]

theorem apply_rename_source (h : files source ≠ none) (hpaths : source ≠ target) :
    (rename source target : FileOperation P C).apply files source = none := by
  rw [apply_rename, if_neg h, Function.update_of_ne hpaths, Function.update_self]

theorem apply_rename_other (hsource : other ≠ source) (htarget : other ≠ target) :
    (rename source target : FileOperation P C).apply files other = files other := by
  rw [apply_rename]
  split
  · rfl
  · rw [Function.update_of_ne htarget, Function.update_of_ne hsource]

end FileOperation

namespace Disk

variable {disk : Disk P C} {holds : FileStore P C → Prop}

def perform (operation : FileOperation P C) (disk : Disk P C) : Disk P C where
  files := operation.apply disk.files
  past := disk.past ++ [disk.files]

def attempt (works : Bool) (operation : FileOperation P C) (disk : Disk P C) : Disk P C :=
  if works then disk.perform operation else disk

def rewrite (path : P) (contents : List C) (disk : Disk P C) : Disk P C :=
  contents.foldl (fun disk content => disk.perform (.put path content)) disk

@[simp] theorem perform_files (operation : FileOperation P C) (disk : Disk P C) :
    (disk.perform operation).files = operation.apply disk.files := rfl

theorem Always.perform {operation : FileOperation P C} (h : disk.Always holds)
    (hnext : holds (operation.apply disk.files)) : (disk.perform operation).Always holds := by
  intro files hfiles
  unfold points at hfiles
  rw [List.mem_append, List.mem_singleton] at hfiles
  rcases hfiles with hpast | rfl
  · exact h files hpast
  · exact hnext

theorem Always.attempt {works : Bool} {operation : FileOperation P C} (h : disk.Always holds)
    (hnext : holds (operation.apply disk.files)) :
    (disk.attempt works operation).Always holds := by
  unfold Disk.attempt
  split
  · exact h.perform hnext
  · exact h

/-- What does not look at a file is not told of writes into it. -/
theorem Always.rewrite {path : P} (contents : List C) (h : disk.Always holds)
    (hnext : ∀ files content, holds files → holds ((FileOperation.put path content).apply files)) :
    (disk.rewrite path contents).Always holds := by
  induction contents generalizing disk with
  | nil => exact h
  | cons content rest ih => exact ih (h.perform (hnext disk.files content h.now))

theorem rewrite_other {path other : P} (contents : List C) (disk : Disk P C) (h : other ≠ path) :
    (disk.rewrite path contents).files other = disk.files other := by
  induction contents generalizing disk with
  | nil => rfl
  | cons content rest ih =>
    exact (ih (disk.perform (.put path content))).trans (FileOperation.apply_put_other h)

theorem rewrite_same (path : P) (contents : List C) (disk : Disk P C) :
    (disk.rewrite path contents).files path = contents.getLast?.or (disk.files path) := by
  induction contents generalizing disk with
  | nil => rfl
  | cons content rest ih =>
    refine (ih (disk.perform (.put path content))).trans ?_
    rw [perform_files, FileOperation.apply_put_same, List.getLast?_cons]
    cases rest.getLast? with
    | none => rfl
    | some last => rfl

theorem attempt_other {works : Bool} {operation : FileOperation P C} {other : P}
    (h : operation.apply disk.files other = disk.files other) :
    (disk.attempt works operation).files other = disk.files other := by
  unfold attempt
  split
  · exact h
  · rfl

end Disk

end BmwRemote.Lib
