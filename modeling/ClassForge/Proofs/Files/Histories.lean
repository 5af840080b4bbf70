import ClassForge.Proofs.Files.Memory
import ClassForge.Proofs.Files.Paths

/-!
# Histories of Stores in Memory

What holds of a store in memory after any calls whatsoever, in any order.

Files and directories are kept under the paths they were first given, and looked
up by components, while the directory that a file needs is taken from the text of
its path. That these fit together is what the lemmas on paths are for: the path
above a file of a directory has the components of the directory, however both
are written, so a directory that has been made takes files from then on.

Nothing is ever removed, so a call can only add directories and set a file. What
a call does to each of the two questions that can be asked of a store is one
lemma, and a history follows call by call.

## Main definitions

* `Call`, `Call.perform`: The calls that change a store, and what they do.
* `after`: The store after some calls.
* `writes`: The writes of a history that succeeded.
* `Housed`: Every file is in a directory.

## Theorems

* `isDir_perform`, `read?_perform`, `housed_perform`: One call.
* `isDir_after`, `read?_after`, `housed_after`: Many calls.
* `write_below`: A directory takes files.
* `store_over_histories`: What holds after any calls.
-/

namespace ClassForge

namespace Files

namespace Memory

/-- A call that changes a store in memory. -/
inductive Call where
  /-- Register a directory. -/
  | addDir (path : Path)
  /-- Make a directory and those above it. -/
  | createDirs (path : Path)
  /-- Write a file. -/
  | write (path : Path) (contents : String)
  deriving DecidableEq

/-- What a call answers, and the store after it. -/
def Call.perform : Call → Memory → Except FileError Unit × Memory
  | .addDir path, memory => (.ok (), memory.addDir path)
  | .createDirs path, memory => store.createDirs path memory
  | .write path contents, memory => store.write path contents memory

/-- The store after some calls. -/
def after (memory : Memory) (calls : List Call) : Memory :=
  calls.foldl (fun memory call => (call.perform memory).2) memory

/-- The file that a call sets, which it does if it is a write that succeeds. -/
def Call.written? (memory : Memory) (call : Call) : Option (Path × String) :=
  match call, (call.perform memory).1 with
  | .write path contents, .ok _ => some (path, contents)
  | _, _ => none

/-- The writes of a history that succeeded, in order. -/
def writes : Memory → List Call → List (Path × String)
  | _, [] => []
  | memory, call :: calls =>
    (call.written? memory).toList ++ writes (call.perform memory).2 calls

/-- Every file is in a registered directory, unless it needs none. -/
def Housed (memory : Memory) : Prop :=
  ∀ file ∈ memory.files, ∀ parent, file.1.parent? = some parent → parent.text ≠ "" →
    memory.isDir parent = true

section Calls

variable {memory : Memory} {path : Path}

theorem isDir_congr {other : Path} (hsame : path.components = other.components) :
    memory.isDir path = memory.isDir other := by
  unfold isDir Path.same
  rw [hsame]

theorem neededDir?_eq_some_iff {needed : Path} :
    neededDir? path = some needed ↔ path.parent? = some needed ∧ needed.text ≠ "" := by
  unfold neededDir?
  rw [Option.filter_eq_some_iff, decide_eq_true_eq]

/-- A file is written if the directory it needs is there. -/
theorem write_of_needed {contents : String}
    (hneeded : ∀ needed, neededDir? path = some needed → memory.isDir needed = true) :
    memory.write path contents
      = (.ok (), { memory with files := putFile path contents memory.files }) := by
  have hnone : ((neededDir? path).filter fun dir => !memory.isDir dir) = none := by
    rw [Option.filter_eq_none_iff]
    intro needed hmem
    simp [hneeded needed hmem]
  unfold write
  rw [hnone]

/-- A write that fails changes nothing. -/
theorem write_of_error {contents : String} {error : FileError}
    (hfails : (memory.write path contents).1 = .error error) :
    (memory.write path contents).2 = memory := by
  rcases write_cases path contents memory with ⟨new, hwrite, -, -⟩ | ⟨needed, -, -, hwrite⟩
  · rw [hwrite] at hfails
    cases hfails
  · rw [hwrite]

/-- A write that succeeds had the directory that it needed. -/
theorem isDir_of_written {contents : String} (hwrite : (memory.write path contents).1 = .ok ())
    {needed : Path} (hneeded : neededDir? path = some needed) : memory.isDir needed = true := by
  by_contra hmissing
  have hfilter : ((neededDir? path).filter fun dir => !memory.isDir dir) = some needed := by
    rw [Option.filter_eq_some_iff]
    exact ⟨hneeded, by simpa using hmissing⟩
  unfold write at hwrite
  rw [hfilter] at hwrite
  cases hwrite

/-- The paths of the files stay when one is put, and the new one joins them. -/
theorem mem_putFile {contents : String} {files : List (Path × String)} {file : Path × String}
    (hfile : file ∈ putFile path contents files) :
    file.1 = path ∨ ∃ old ∈ files, file.1 = old.1 := by
  induction files with
  | nil =>
      simp only [putFile, List.mem_singleton] at hfile
      exact .inl (by rw [hfile])
  | cons entry files ih =>
      rw [putFile] at hfile
      split at hfile
      · rcases List.mem_cons.mp hfile with rfl | hold
        · exact .inr ⟨entry, List.mem_cons_self, rfl⟩
        · exact .inr ⟨file, List.mem_cons_of_mem _ hold, rfl⟩
      split at hfile
      · rcases List.mem_cons.mp hfile with rfl | hold
        · exact .inl rfl
        · exact .inr ⟨file, hold, rfl⟩
      · rcases List.mem_cons.mp hfile with rfl | hput
        · exact .inr ⟨_, List.mem_cons_self, rfl⟩
        · rcases ih hput with hnew | ⟨old, hold, heq⟩
          · exact .inl hnew
          · exact .inr ⟨old, List.mem_cons_of_mem _ hold, heq⟩

/-- A call removes no directory. -/
theorem isDir_perform (call : Call) (hdir : memory.isDir path = true) :
    (call.perform memory).2.isDir path = true := by
  cases call with
  | addDir directory => exact (isDir_addDir directory memory path).mpr (.inl hdir)
  | createDirs directory => exact (isDir_addDirs directory memory path).mpr (.inl hdir)
  | write file contents =>
      change (memory.write file contents).2.isDir path = true
      rcases write_cases file contents memory with ⟨new, hwrite, -, hsame⟩ | ⟨needed, -, -, hwrite⟩
      · rw [hwrite, isDir, hsame]
        exact hdir
      · rw [hwrite]
        exact hdir

/-- A call sets the file that it writes and leaves all others as they are. -/
theorem read?_perform (call : Call) (memory : Memory) (path : Path) :
    (call.perform memory).2.read? path
      = match call.written? memory with
        | some file => if path.same file.1 then some file.2 else memory.read? path
        | none => memory.read? path := by
  cases call with
  | addDir directory =>
      change (memory.addDir directory).read? path = memory.read? path
      rw [read?, files_addDir, read?]
  | createDirs directory =>
      change (memory.addDirs directory).read? path = memory.read? path
      rw [read?, files_addDirs, read?]
  | write file contents =>
      change (memory.write file contents).2.read? path = _
      rcases write_cases file contents memory with ⟨new, hwrite, hsets, -⟩ | ⟨needed, -, -, hwrite⟩
      · have hwritten : (Call.write file contents).written? memory = some (file, contents) := by
          unfold Call.written? Call.perform store
          simp only [hwrite]
        rw [hwrite, hwritten]
        exact hsets path
      · have hwritten : (Call.write file contents).written? memory = none := by
          unfold Call.written? Call.perform store
          simp only [hwrite]
        rw [hwrite, hwritten]

/-- A call leaves every file in a directory. -/
theorem housed_perform (call : Call) (hhoused : memory.Housed) :
    (call.perform memory).2.Housed := by
  intro file hfile parent hparent htext
  cases call with
  | addDir directory =>
      rw [Call.perform, files_addDir] at hfile
      exact isDir_perform (.addDir directory) (hhoused file hfile parent hparent htext)
  | createDirs directory =>
      change file ∈ (memory.addDirs directory).files at hfile
      rw [files_addDirs] at hfile
      exact isDir_perform (.createDirs directory) (hhoused file hfile parent hparent htext)
  | write path contents =>
      refine isDir_perform (.write path contents) ?_
      change file ∈ (memory.write path contents).2.files at hfile
      cases hwrite : (memory.write path contents).1 with
      | error error =>
          rw [write_of_error hwrite] at hfile
          exact hhoused file hfile parent hparent htext
      | ok _ =>
          -- A file that was written has a directory to be in, and so has every file that was there.
          have hneeded : ∀ needed, neededDir? path = some needed → memory.isDir needed = true :=
            fun needed => isDir_of_written hwrite
          rw [write_of_needed hneeded] at hfile
          rcases mem_putFile hfile with heq | ⟨old, hold, heq⟩
          · rw [heq] at hparent
            exact hneeded parent (neededDir?_eq_some_iff.mpr ⟨hparent, htext⟩)
          · rw [heq] at hparent
            exact hhoused old hold parent hparent htext

/-- A registered directory takes every file that is in it by a single name,
    however both are written. -/
theorem write_below {below : Path} {name : String} (contents : String)
    (hdir : path.text ≠ "" → memory.isDir path = true) (hbelow : below.components = [.name name]) :
    (memory.write (path.join below) contents).1 = .ok () := by
  rw [write_of_needed]
  intro needed hneeded
  obtain ⟨hparent, htext⟩ := neededDir?_eq_some_iff.mp hneeded
  -- The path above the file has the components of the directory.
  have hsame : needed.components = path.components := by
    have hjoin : (path.join below).components = path.components ++ [.name name] :=
      Path.components_join_name hbelow
    rcases (path.join below).parent?_cases with ⟨hnone, -⟩ | ⟨parent, last, hfound, hcomponents⟩
    · rw [hnone] at hparent
      cases hparent
    · rw [hfound, Option.some.injEq] at hparent
      rw [hjoin, hparent] at hcomponents
      exact (List.append_inj_left' hcomponents rfl).symm
  rw [isDir_congr hsame]
  apply hdir
  rwa [ne_eq, ← Path.components_eq_nil_iff, ← hsame, Path.components_eq_nil_iff]

end Calls

section Histories

variable {memory : Memory} {path : Path}

theorem after_cons (memory : Memory) (call : Call) (calls : List Call) :
    memory.after (call :: calls) = (call.perform memory).2.after calls := rfl

theorem after_append (memory : Memory) (calls later : List Call) :
    memory.after (calls ++ later) = (memory.after calls).after later :=
  List.foldl_append

theorem isDir_after (calls : List Call) (hdir : memory.isDir path = true) :
    (memory.after calls).isDir path = true := by
  induction calls generalizing memory with
  | nil => exact hdir
  | cons call calls ih => exact ih (isDir_perform call hdir)

theorem housed_after (calls : List Call) (hhoused : memory.Housed) :
    (memory.after calls).Housed := by
  induction calls generalizing memory with
  | nil => exact hhoused
  | cons call calls ih => exact ih (housed_perform call hhoused)

/-- A file holds what was last written to it, and what it held before if nothing
    was. -/
theorem read?_after (memory : Memory) (calls : List Call) (path : Path) :
    (memory.after calls).read? path
      = ((memory.writes calls).filter fun file => path.same file.1).getLast?.elim
        (memory.read? path) fun file => some file.2 := by
  induction calls generalizing memory with
  | nil => rfl
  | cons call calls ih =>
      rw [after_cons, ih, writes, List.filter_append, List.getLast?_append, read?_perform]
      cases hlast : ((writes (call.perform memory).2 calls).filter
          fun file => path.same file.1).getLast? with
      | some last => simp
      | none =>
          cases hwritten : call.written? memory with
          | none => simp
          | some file =>
              by_cases hsame : path.same file.1 = true
              · simp [hsame]
              · simp [hsame]

end Histories

/-- What holds of a store in memory after any calls. Every file is in a directory.
    Reading gives what the last successful write to the same path has written. A
    write that fails changes nothing. Where a directory has been made at any time,
    all that is above it is there, and it takes files under any name. -/
theorem store_over_histories (calls : List Call) :
    let memory := empty.after calls
    (∀ file ∈ memory.files, ∀ parent, file.1.parent? = some parent → parent.text ≠ "" →
        memory.isDir parent = true) ∧
      (∀ path, memory.read? path
        = ((empty.writes calls).filter fun file => path.same file.1).getLast?.map Prod.snd) ∧
      (∀ path contents error, (memory.write path contents).1 = .error error →
        (memory.write path contents).2 = memory) ∧
      ∀ before path later, calls = before ++ .createDirs path :: later →
        (∀ above,
          Relation.ReflTransGen (fun below parent => below.parent? = some parent) path above →
          above.text ≠ "" → memory.isDir above = true) ∧
        ∀ below name contents, below.components = [.name name] →
          (memory.write (path.join below) contents).1 = .ok () := by
  intro memory
  have hhoused : empty.Housed := by
    intro file hfile
    cases hfile
  refine ⟨housed_after calls hhoused, fun path => ?_, fun path contents error => write_of_error,
    fun before path later hcalls => ?_⟩
  · rw [read?_after]
    cases ((empty.writes calls).filter fun file => path.same file.1).getLast? <;> rfl
  · -- The directories are made in the middle of the history and stay to its end.
    have hmade : ∀ above, Relation.ReflTransGen (fun below parent => below.parent? = some parent)
        path above → above.text ≠ "" → memory.isDir above = true := by
      intro above habove htext
      have hthen : ((empty.after before).addDirs path).isDir above = true :=
        (isDir_addDirs path _ above).mpr
          (.inr ⟨above, Path.mem_ancestors habove, htext, same_iff.mpr rfl⟩)
      have hsplit : memory = ((empty.after before).addDirs path).after later := by
        change empty.after calls = _
        rw [hcalls, after_append, after_cons]
        rfl
      rw [hsplit]
      exact isDir_after later hthen
    exact ⟨hmade, fun below name contents => write_below contents (hmade path .refl)⟩

/-- Odd spellings of one directory and one file, with a failing write among the
    others. -/
theorem store_over_odd_spellings :
    let calls : List Call := [.createDirs ⟨"./a//b/../"⟩, .write ⟨"./a/b/../x"⟩ "first",
      .write ⟨"c/x"⟩ "lost", .write ⟨"./a/./b/..//x"⟩ "last"]
    let memory := empty.after calls
    memory.files = [(⟨"./a/b/../x"⟩, "last")] ∧ memory.isDir ⟨"./a/b/.."⟩ = true ∧
      memory.read? ⟨"./a/b/../x/"⟩ = some "last" ∧ memory.read? ⟨"c/x"⟩ = none ∧
      (memory.write ⟨"c/x"⟩ "lost").2 = memory ∧ memory.isDir ⟨"./a"⟩ = true ∧
      (memory.write (Path.join ⟨"./a//b/../"⟩ ⟨"y"⟩) "new").1 = .ok () := by
  intro calls memory
  have hfiles : memory.files = [(⟨"./a/b/../x"⟩, "last")] := by decide +kernel
  obtain ⟨hhoused, hread, hfails, hmade⟩ := store_over_histories calls
  obtain ⟨habove, hbelow⟩ := hmade [] ⟨"./a//b/../"⟩ _ rfl
  have hparent : Path.parent? ⟨"./a/b/../x"⟩ = some ⟨"./a/b/.."⟩ := by decide +kernel
  -- Two steps up from the directory.
  have hup : Relation.ReflTransGen (fun below parent => Path.parent? below = some parent)
      ⟨"./a//b/../"⟩ ⟨"./a"⟩ :=
    .tail (.single (by decide +kernel : Path.parent? ⟨"./a//b/../"⟩ = some ⟨"./a//b"⟩))
      (by decide +kernel)
  refine ⟨hfiles, hhoused (⟨"./a/b/../x"⟩, "last") ?_ _ hparent (by decide), ?_, ?_,
    hfails _ _ (.missingDirectory "c") (by decide +kernel), habove ⟨"./a"⟩ hup (by decide),
    hbelow ⟨"y"⟩ "y" "new" (by decide +kernel)⟩
  · rw [hfiles]
    exact List.mem_singleton_self _
  · rw [hread]
    decide +kernel
  · rw [hread]
    decide +kernel

end Memory

end Files

end ClassForge
