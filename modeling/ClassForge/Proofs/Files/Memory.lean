import ClassForge.Files.Store

/-!
# Stores in Memory

What the operations of a store in memory do to it, seen through the two questions
that can be asked of it: whether there is a directory, and what is in a file.
Both are asked by path, and paths that have the same components ask the same.

Nothing here needs the files to be in order. A file is put in front of the first
that comes after it, so it is found first in any case.

## Main definitions

* `Memory.Sets`: A file has been set and no other has changed.
* `Memory.Provides`: A directory has been provided and nothing else has changed.

## Theorems

* `read?_putFile`: Looking up a file after one has been put.
* `isDir_addDirs`: Registering a directory and those above it.
* `write_cases`: Writing a file.
-/

namespace ClassForge

namespace Files

namespace Memory

/-- The files of a store are those of an older one with one of them set, whether
    it was there or not. -/
def Sets (file : Path) (contents : String) (old new : Memory) : Prop :=
  ∀ path, new.read? path = if path.same file then some contents else old.read? path

/-- The directories of a store are those of an older one in which a directory has
    been provided: nothing new if it was registered, and otherwise the directory
    itself and those above it, as far as they are not empty. -/
structure Provides (directory : Path) (old new : Memory) : Prop where
  registered : old.isDir directory = true → new.directories = old.directories
  unregistered : old.isDir directory = false → ∀ path, new.isDir path = true ↔
    old.isDir path = true ∨
      ∃ ancestor ∈ directory.ancestors, ancestor.text ≠ "" ∧ path.same ancestor = true

theorem same_iff {a b : Path} : a.same b = true ↔ a.components = b.components := by
  rw [Path.same, decide_eq_true_eq]

/-- Looking up a file after one has been put. -/
theorem read?_putFile (file : Path) (contents : String) (files : List (Path × String))
    (path : Path) :
    ((putFile file contents files).find? fun entry => path.same entry.1).map Prod.snd
      = if path.same file then some contents
        else (files.find? fun entry => path.same entry.1).map Prod.snd := by
  induction files with
  | nil =>
      rw [putFile, List.find?_cons, List.find?_nil]
      cases path.same file <;> rfl
  | cons entry files ih =>
      rw [putFile]
      by_cases hsame : file.same entry.1 = true
      · -- The two paths are the same, so the entry is found by both or neither.
        have heq : path.same entry.1 = path.same file := by
          rw [Path.same, Path.same, same_iff.mp hsame]
        rw [if_pos hsame, List.find?_cons, List.find?_cons, heq]
        cases path.same file <;> rfl
      -- The file goes in front of the first path behind it, where it hides no entry of its own
      -- path.
      rw [if_neg hsame]
      by_cases hbefore : file.before entry.1 = true
      · rw [if_pos hbefore, List.find?_cons]
        cases path.same file <;> rfl
      · rw [if_neg hbefore, List.find?_cons, List.find?_cons]
        cases hentry : path.same entry.1 with
        | false => exact ih
        | true =>
            have hother : path.same file = false := by
              rw [Bool.eq_false_iff]
              intro hfile
              exact hsame (same_iff.mpr ((same_iff.mp hfile).symm.trans (same_iff.mp hentry)))
            rw [hother]
            rfl

theorem isDir_iff {path : Path} {memory : Memory} :
    memory.isDir path = true ↔ ∃ directory ∈ memory.directories, path.same directory = true := by
  rw [isDir, List.any_eq_true]

theorem isDir_addDir (directory : Path) (memory : Memory) (path : Path) :
    (memory.addDir directory).isDir path = true ↔
      memory.isDir path = true ∨ path.same directory = true := by
  unfold addDir
  by_cases hregistered : memory.isDir directory = true
  · rw [if_pos hregistered]
    refine ⟨Or.inl, fun h => h.elim id fun hsame => ?_⟩
    rcases isDir_iff.mp hregistered with ⟨other, hother, hdirectory⟩
    exact isDir_iff.mpr
      ⟨other, hother, same_iff.mpr ((same_iff.mp hsame).trans (same_iff.mp hdirectory))⟩
  · rw [if_neg hregistered]
    simp only [isDir_iff, List.mem_append, List.mem_singleton, or_and_right, exists_or,
      exists_eq_left]

theorem files_addDir (directory : Path) (memory : Memory) :
    (memory.addDir directory).files = memory.files := by
  unfold addDir
  split <;> rfl

/-- Registering directories one after the other. -/
theorem isDir_foldl_addDir (directories : List Path) (memory : Memory) (path : Path) :
    (directories.foldl (fun memory directory => memory.addDir directory) memory).isDir path = true ↔
      memory.isDir path = true ∨ ∃ directory ∈ directories, path.same directory = true := by
  induction directories generalizing memory with
  | nil => simp only [List.foldl_nil, List.not_mem_nil, false_and, exists_false, or_false]
  | cons directory directories ih =>
      rw [List.foldl_cons, ih, isDir_addDir, or_assoc]
      simp only [List.mem_cons, or_and_right, exists_or, exists_eq_left]

theorem files_foldl_addDir (directories : List Path) (memory : Memory) :
    (directories.foldl (fun memory directory => memory.addDir directory) memory).files
      = memory.files := by
  induction directories generalizing memory with
  | nil => rfl
  | cons directory directories ih => rw [List.foldl_cons, ih, files_addDir]

theorem files_addDirs (directory : Path) (memory : Memory) :
    (memory.addDirs directory).files = memory.files := files_foldl_addDir _ _

/-- Registering a directory and those above it, as far as they are not empty. -/
theorem isDir_addDirs (directory : Path) (memory : Memory) (path : Path) :
    (memory.addDirs directory).isDir path = true ↔ memory.isDir path = true ∨
      ∃ ancestor ∈ directory.ancestors, ancestor.text ≠ "" ∧ path.same ancestor = true := by
  rw [addDirs, isDir_foldl_addDir]
  simp only [List.mem_filter, decide_eq_true_eq, and_assoc]

/-- Registering a directory that is not there provides it. -/
theorem provides_addDirs {directory : Path} {memory : Memory}
    (hmissing : memory.isDir directory = false) :
    Provides directory memory (memory.addDirs directory) where
  registered hregistered := by
    rw [hmissing] at hregistered
    cases hregistered
  unregistered _ path := isDir_addDirs directory memory path

theorem provides_self {directory : Path} {memory : Memory}
    (hregistered : memory.isDir directory = true) : Provides directory memory memory where
  registered _ := rfl
  unregistered hmissing := by
    rw [hregistered] at hmissing
    cases hmissing

/-- Only the directories of a store are provided. -/
theorem Provides.of_directories {directory : Path} {old ready new : Memory}
    (h : Provides directory old ready) (hsame : new.directories = ready.directories) :
    Provides directory old new where
  registered hregistered := hsame.trans (h.registered hregistered)
  unregistered hmissing path := by
    rw [← h.unregistered hmissing path, isDir, isDir, hsame]

/-- Only the files of a store are set. -/
theorem Sets.of_files {file : Path} {contents : String} {old ready new : Memory}
    (h : Sets file contents ready new) (hsame : ready.files = old.files) :
    Sets file contents old new := by
  intro path
  rw [h path, read?, read?, hsame]

/-- Writing a file: it is set and the directories stay, or the directory that it
    needs is missing and nothing has changed. -/
theorem write_cases (file : Path) (contents : String) (memory : Memory) :
    (∃ new, memory.write file contents = (.ok (), new) ∧ memory.Sets file contents new ∧
        new.directories = memory.directories) ∨
      ∃ needed, neededDir? file = some needed ∧ memory.isDir needed = false ∧
        memory.write file contents = (.error (.missingDirectory needed.text), memory) := by
  unfold write
  cases hneeded : (neededDir? file).filter fun dir => !memory.isDir dir with
  | none =>
      exact .inl ⟨_, rfl, read?_putFile file contents memory.files, rfl⟩
  | some needed =>
      rw [Option.filter_eq_some_iff, Bool.not_eq_true'] at hneeded
      exact .inr ⟨needed, hneeded.1, hneeded.2, rfl⟩

end Memory

end Files

end ClassForge
