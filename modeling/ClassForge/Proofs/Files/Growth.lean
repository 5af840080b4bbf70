import ClassForge.Files.Disk
import ClassForge.Proofs.Files.Paths

/-!
# Growing Disks

What making directories and writing files does to a disk, and that a path which
leads to a file goes on to lead to the same place.

A path is followed segment by segment, and every step only asks whether there is
a directory. No operation takes a directory away or puts something else in its
place, so whatever a path leads to stays where it is, and all that can change is
what is in a file. `Grows` says how one disk has come out of another in these
terms: which directories there are matters in one direction only, and which files
there are is told exactly, by what was written to which location.

Nor does it take the disk to tell where a path leads. The disk decides whether it
leads anywhere, and if so its components have said where.

## Main definitions

* `file?`: What is in the file at a location.
* `Grows`: A disk has grown out of another by writing certain files.
* `landing`: Where a path leads if it leads anywhere.

## Theorems

* `Grows.trans`: Growing twice.
* `grows_createDirs`: Making directories touches no file.
* `write_eq_ok`: What a write that succeeds has found on its way.
* `Grows.resolve`: A path goes on to lead to the same file.
* `grows_write`: A write sets the file to which its path leads.
* `landing_of_resolve`: Where a path leads can be told without the disk.
-/

namespace ClassForge

namespace Files

namespace Disk

/-- What is in the file at a location, if there is a file. -/
def file? (disk : Disk) (location : Location) : Option String :=
  match disk.entry? location with
  | some (.file contents) => some contents
  | _ => none

/-- A disk has grown out of an older one by writing certain files: all
    directories are still there, and every file that was not written is as it
    was. -/
structure Grows (written : Location → Option String) (old new : Disk) : Prop where
  directory : ∀ location, old.entry? location = some .directory →
    new.entry? location = some .directory
  file : ∀ location, new.file? location = (written location).or (old.file? location)

/-- A file that was written to a single location. -/
def single (location : Location) (contents : String) (other : Location) : Option String :=
  if other = location then some contents else none

/-- No file was written. -/
def nowhere (_ : Location) : Option String := none

/-- Where a component leads from a location. -/
def arrive (location : Location) : Component → Location
  | .root => []
  | .current => location
  | .parent => location.dropLast
  | .name text => location ++ [text]

/-- Where a path leads if it leads anywhere. -/
def landing (cwd : Location) (path : Path) : Location := path.components.foldl arrive cwd

theorem file?_eq_some_iff {disk : Disk} {location : Location} {contents : String} :
    disk.file? location = some contents ↔ disk.entry? location = some (.file contents) := by
  unfold file?
  split
  · rename_i h
    simp [h]
  · rename_i h
    simp only [reduceCtorEq, false_iff]
    exact h contents

section Growing

variable {first second : Location → Option String} {old middle new : Disk}

theorem Grows.refl (disk : Disk) : Grows nowhere disk disk where
  directory _ h := h
  file _ := rfl

/-- Growing twice: what was written later counts. -/
theorem Grows.trans (hfirst : Grows first old middle) (hsecond : Grows second middle new) :
    Grows (fun location => (second location).or (first location)) old new where
  directory location h := hsecond.directory location (hfirst.directory location h)
  file location := by rw [hsecond.file, hfirst.file, Option.or_assoc]

theorem Grows.of_nowhere (hfirst : Grows nowhere old middle) (hsecond : Grows second middle new) :
    Grows second old new where
  directory location h := hsecond.directory location (hfirst.directory location h)
  file location := by
    rw [hsecond.file, hfirst.file]
    rfl

end Growing

section Putting

variable {disk : Disk} {location : Location}

/-- Looking something up after the entries at a location have been replaced. -/
theorem find?_replaced (entries : List (Location × Entry)) (location other : Location)
    (entry : Entry) :
    (entries.map fun old => if old.1 = location then (location, entry) else old).find?
        (fun found => found.1 = other)
      = if other = location then
          (entries.find? fun found => found.1 = location).map fun _ => (location, entry)
        else entries.find? fun found => found.1 = other := by
  induction entries with
  | nil => simp only [List.map_nil, List.find?_nil, Option.map_none, ite_self]
  | cons found entries ih =>
      simp only [List.map_cons, List.find?_cons, ih]
      by_cases hfound : found.1 = location
      · by_cases hother : other = location
        · simp only [hfound, hother, if_true, decide_true, Option.map_some]
        · simp only [hfound, hother, Ne.symm hother, if_true, if_false, decide_false]
      · by_cases hother : other = location
        · simp only [hfound, hother, if_false, if_true, decide_false]
        · simp only [hfound, hother, if_false]

/-- Looking something up after something has been put at a location. -/
theorem entry?_put (hne : location ≠ []) (entry : Entry) (other : Location) :
    Disk.entry? (disk.put location entry) other
      = if other = location then some entry else disk.entry? other := by
  unfold put entry?
  by_cases hroot : other = []
  · rw [if_pos hroot, if_pos hroot, if_neg (by rw [hroot]; exact hne.symm)]
  -- An entry that is there is replaced in its place, and a new one goes to the end.
  rw [if_neg hroot, if_neg hroot]
  by_cases hthere : (disk.entries.any fun old => old.1 = location) = true
  · rw [if_pos hthere, find?_replaced]
    by_cases hother : other = location
    · obtain ⟨found, hfound⟩ : ∃ found, (disk.entries.find? fun old => old.1 = location)
          = some found := Option.isSome_iff_exists.mp (List.find?_isSome.mpr
            (List.any_eq_true.mp hthere))
      rw [if_pos hother, if_pos hother, hfound]
      rfl
    · rw [if_neg hother, if_neg hother]
  · rw [if_neg hthere, List.find?_append, List.find?_singleton]
    by_cases hother : other = location
    · -- Nothing is found in front of the new entry.
      have hnone : (disk.entries.find? fun old => old.1 = location) = none := by
        rw [List.find?_eq_none]
        intro found hfound heq
        exact hthere (List.any_eq_true.mpr ⟨found, hfound, heq⟩)
      rw [if_pos hother, hother, hnone, if_pos (decide_eq_true rfl)]
      rfl
    · rw [if_neg hother, if_neg (by simpa using Ne.symm hother), Option.or_none]

theorem file?_put (hne : location ≠ []) (entry : Entry) (other : Location) :
    (disk.put location entry).file? other
      = if other = location then
          match entry with
          | .file contents => some contents
          | .directory => none
        else disk.file? other := by
  unfold file?
  rw [entry?_put hne]
  by_cases hother : other = location
  · rw [if_pos hother, if_pos hother]
    cases entry <;> rfl
  · rw [if_neg hother, if_neg hother]

/-- Making a directory where nothing is touches no file. -/
theorem grows_put_directory (hne : location ≠ []) (hfree : disk.entry? location = none) :
    Grows nowhere disk (disk.put location .directory) where
  directory other h := by
    rw [entry?_put hne]
    split
    · rfl
    · exact h
  file other := by
    rw [file?_put hne]
    by_cases hother : other = location
    · rw [if_pos hother, hother, file?, hfree]
      rfl
    · rw [if_neg hother]
      rfl

/-- Putting a file where no directory is sets that file. -/
theorem grows_put_file {contents : String} (hne : location ≠ [])
    (hfree : disk.entry? location ≠ some .directory) :
    Grows (single location contents) disk (disk.put location (.file contents)) where
  directory other h := by
    have hother : other ≠ location := by
      intro heq
      rw [heq] at h
      exact hfree h
    rw [entry?_put hne, if_neg hother]
    exact h
  file other := by
    rw [file?_put hne, single]
    by_cases hother : other = location
    · rw [if_pos hother, if_pos hother]
      rfl
    · rw [if_neg hother, if_neg hother]
      rfl

end Putting

section Following

variable {written : Location → Option String} {old new : Disk} {cwd : Location} {path : Path}

theorem place_eq_ok {directory location : Location} {name : String}
    (h : place directory name = .ok location) : location = directory ++ [name] := by
  unfold place at h
  split at h
  · cases h
  · cases h
    rfl

/-- What a computation has gone through when it succeeds. -/
theorem exists_of_bind {ε α β : Type} {first : Except ε α} {next : α → Except ε β} {result : β}
    (h : first >>= next = .ok result) : ∃ value, first = .ok value ∧ next value = .ok result := by
  cases first with
  | error error => cases h
  | ok value => exact ⟨value, rfl, h⟩

/-- A step succeeds only in a directory. -/
theorem entry?_of_step {disk : Disk} {location next : Location} {segment : String}
    (hstep : disk.step location segment = .ok next) :
    disk.entry? location = some .directory := by
  unfold step at hstep
  split at hstep
  · cases hstep
  · cases hstep
  · assumption

theorem Grows.step (hgrows : Grows written old new) {location next : Location} {segment : String}
    (hstep : old.step location segment = .ok next) : new.step location segment = .ok next := by
  have hdirectory := entry?_of_step hstep
  unfold Disk.step at hstep ⊢
  rw [hdirectory] at hstep
  rw [hgrows.directory location hdirectory]
  exact hstep

theorem walk_cons (disk : Disk) (location : Location) (segment : String) (segments : List String) :
    disk.walk location (segment :: segments)
      = disk.step location segment >>= fun next => disk.walk next segments := by
  rw [walk, List.foldlM_cons]
  rfl

theorem walk_concat (disk : Disk) (location : Location) (segments : List String)
    (segment : String) :
    disk.walk location (segments ++ [segment])
      = disk.walk location segments >>= fun next => disk.step next segment := by
  rw [walk, List.foldlM_append]
  simp only [List.foldlM_cons, List.foldlM_nil, bind_pure]
  rfl

theorem Grows.walk (hgrows : Grows written old new) {location found : Location}
    {segments : List String} (hwalk : old.walk location segments = .ok found) :
    new.walk location segments = .ok found := by
  induction segments generalizing location with
  | nil => exact hwalk
  | cons segment segments ih =>
      rw [walk_cons] at hwalk ⊢
      obtain ⟨next, hstep, hrest⟩ := exists_of_bind hwalk
      rw [hgrows.step hstep]
      exact ih hrest

/-- What a path that leads somewhere has gone through. -/
theorem resolve_eq_ok_iff {disk : Disk} {location : Location} {entry : Entry} :
    disk.resolve cwd path = .ok (location, entry) ↔ checkPath path = .ok () ∧
      disk.walk (startOf cwd path) path.rawSegments = .ok location ∧
      disk.entry? location = some entry := by
  constructor
  · intro h
    unfold resolve at h
    obtain ⟨_, hcheck, h⟩ := exists_of_bind h
    obtain ⟨found, hwalk, h⟩ := exists_of_bind h
    cases hentry : disk.entry? found with
    | none =>
        rw [hentry] at h
        cases h
    | some there =>
        rw [hentry] at h
        cases h
        exact ⟨hcheck, hwalk, hentry⟩
  · rintro ⟨hcheck, hwalk, hentry⟩
    unfold resolve
    rw [hcheck, hwalk]
    simp only [bind, Except.bind, hentry]
    rfl

/-- A path that leads to a file goes on to lead to the same place, where there is
    what was written there since, or what there was. -/
theorem Grows.resolve (hgrows : Grows written old new) {location : Location} {contents : String}
    (hresolve : old.resolve cwd path = .ok (location, .file contents)) :
    new.resolve cwd path = .ok (location, .file ((written location).getD contents)) := by
  obtain ⟨hcheck, hwalk, hentry⟩ := resolve_eq_ok_iff.mp hresolve
  refine resolve_eq_ok_iff.mpr ⟨hcheck, hgrows.walk hwalk, ?_⟩
  rw [← file?_eq_some_iff, hgrows.file, file?_eq_some_iff.mpr hentry]
  cases written location <;> rfl

/-- A path has a last segment. -/
theorem exists_last (path : Path) : ∃ segments last, path.rawSegments = segments ++ [last] :=
  (List.eq_nil_or_concat' _).resolve_left path.rawSegments_ne_nil

end Following

section Landing

variable {disk : Disk} {cwd : Location} {path : Path}

theorem step_lands {location next : Location} {segment : String}
    (hstep : disk.step location segment = .ok next) :
    next = (Path.component? segment).elim location (arrive location) := by
  have hdirectory := entry?_of_step hstep
  unfold step at hstep
  simp only [hdirectory] at hstep
  unfold Path.component?
  by_cases htrivial : isTrivial segment = true
  · rw [if_pos htrivial] at hstep ⊢
    exact (Except.ok.inj hstep).symm
  · rw [if_neg htrivial] at hstep ⊢
    by_cases hdots : segment = ".."
    · rw [if_pos hdots] at hstep ⊢
      exact (Except.ok.inj hstep).symm
    · rw [if_neg hdots] at hstep ⊢
      exact place_eq_ok hstep

theorem walk_lands {location found : Location} {segments : List String}
    (hwalk : disk.walk location segments = .ok found) :
    found = (segments.filterMap Path.component?).foldl arrive location := by
  induction segments generalizing location with
  | nil => exact (Except.ok.inj hwalk).symm
  | cons segment segments ih =>
      rw [walk_cons] at hwalk
      obtain ⟨next, hstep, hrest⟩ := exists_of_bind hwalk
      have hnext := step_lands hstep
      rw [ih hrest, hnext, List.filterMap_cons]
      cases Path.component? segment <;> rfl

/-- The root is where an absolute path starts. -/
theorem landing_eq (cwd : Location) (path : Path) :
    landing cwd path
      = (path.rawSegments.filterMap Path.component?).foldl arrive (startOf cwd path) := by
  unfold landing startOf
  rw [Path.components_eq, List.foldl_append]
  unfold Path.head
  by_cases habsolute : path.isAbsolute = true
  · rw [if_pos habsolute, if_pos habsolute]
    rfl
  · rw [if_neg habsolute, if_neg habsolute]
    split <;> rfl

/-- Where a path leads can be told without the disk. -/
theorem landing_of_resolve {location : Location} {entry : Entry}
    (hresolve : disk.resolve cwd path = .ok (location, entry)) : location = landing cwd path := by
  obtain ⟨-, hwalk, -⟩ := resolve_eq_ok_iff.mp hresolve
  rw [landing_eq]
  exact walk_lands hwalk

/-- A file that is read is where its path leads. -/
theorem read_eq_ok_iff {text : String} :
    disk.read cwd path = .ok text
      ↔ disk.resolve cwd path = .ok (landing cwd path, .file text) := by
  unfold read
  constructor
  · intro h
    obtain ⟨⟨location, entry⟩, hresolve, h⟩ := exists_of_bind h
    cases entry with
    | directory => cases h
    | file contents =>
        cases h
        rw [hresolve, landing_of_resolve hresolve]
  · intro h
    rw [h]
    rfl

/-- A path leads to something that is called like the last name of the path. -/
theorem getLast?_landing {name : String} (hname : path.fileName? = some name) :
    (landing cwd path).getLast? = some name := by
  unfold Path.fileName? at hname
  split at hname
  · rename_i text hlast
    cases hname
    obtain ⟨above, habove⟩ := List.getLast?_eq_some_iff.mp hlast
    rw [landing, habove, List.foldl_append]
    exact List.getLast?_concat ..
  · cases hname

end Landing

section Operations

variable {disk new : Disk} {cwd : Location} {path : Path}

/-- Where the last name of some segments is looked for. -/
theorem lastName_eq_ok {start directory : Location} {segments : List String} {name : String}
    (h : disk.lastName start segments = .ok (directory, some name)) :
    ∃ parts, segments = parts ++ [name] ∧ disk.walk start parts = .ok directory ∧
      disk.entry? directory = some .directory ∧ isTrivial name = false ∧ name ≠ ".." := by
  unfold lastName at h
  obtain ⟨found, hwalk, h⟩ := exists_of_bind h
  obtain ⟨_, hstep, h⟩ := exists_of_bind h
  rcases List.eq_nil_or_concat' segments with hnil | ⟨parts, last, hparts⟩
  · rw [hnil] at h
    cases h
  · rw [hparts, List.getLast?_concat] at h
    rw [hparts, List.dropLast_concat] at hwalk
    by_cases hlast : (isTrivial last || decide (last = "..")) = true
    · simp only [if_pos hlast] at h
      cases h
    · simp only [if_neg hlast] at h
      cases h
      simp only [Bool.or_eq_true, decide_eq_true_eq, not_or, Bool.not_eq_true] at hlast
      exact ⟨parts, hparts, hwalk, entry?_of_step hstep, hlast⟩

/-- A path that does not end with a separator is opened as it is. -/
theorem openSegments_eq (hslash : path.rawSegments.getLast? ≠ some "") :
    openSegments path = path.rawSegments := by
  obtain ⟨segments, last, hparts⟩ := exists_last path
  rw [hparts, List.getLast?_concat, ne_eq, Option.some.injEq] at hslash
  rw [openSegments, hparts]
  exact List.rdropWhile_concat_neg _ _ _ (by simpa using hslash)

theorem makeDir_eq_ok (h : disk.makeDir cwd path = .ok new) :
    ∃ location, location ≠ [] ∧ disk.entry? location = none ∧
      new = disk.put location .directory := by
  unfold makeDir at h
  obtain ⟨_, -, h⟩ := exists_of_bind h
  obtain ⟨⟨directory, last⟩, -, h⟩ := exists_of_bind h
  cases last with
  | none => cases h
  | some name =>
      obtain ⟨location, hplace, h⟩ := exists_of_bind h
      cases hentry : disk.entry? location with
      | some entry =>
          rw [hentry] at h
          cases h
      | none =>
          rw [hentry] at h
          cases h
          refine ⟨location, ?_, hentry, rfl⟩
          rw [place_eq_ok hplace]
          exact List.concat_ne_nil _ _

theorem grows_makeDirs (cwd : Location) (paths : List Path) (disk : Disk) :
    Grows nowhere disk (disk.makeDirs cwd paths).2 := by
  induction paths generalizing disk with
  | nil => exact .refl disk
  | cons path paths ih =>
      rw [makeDirs]
      cases hmake : disk.makeDir cwd path with
      | ok made =>
          obtain ⟨location, hne, hfree, rfl⟩ := makeDir_eq_ok hmake
          exact (grows_put_directory hne hfree).of_nowhere (ih _)
      | error error =>
          by_cases hthere : disk.isDir cwd path = true
          · simp only [hthere, if_true]
            exact ih disk
          · simp only [hthere]
            exact .refl disk

/-- Making directories touches no file, whether it succeeds or not. -/
theorem grows_createDirs (cwd : Location) (path : Path) (disk : Disk) :
    Grows nowhere disk (disk.createDirs cwd path).2 := grows_makeDirs cwd _ disk

/-- What a write that succeeds has found on its way: the segments in front of the
    last lead to a directory, and the last is the name of a file in it, or of
    nothing. -/
theorem write_eq_ok {contents : String} (h : disk.write cwd path contents = (.ok (), new)) :
    ∃ parts directory name, path.rawSegments = parts ++ [name] ∧ checkPath path = .ok () ∧
      disk.walk (startOf cwd path) parts = .ok directory ∧
      disk.entry? directory = some .directory ∧ isTrivial name = false ∧ name ≠ ".." ∧
      place directory name = .ok (directory ++ [name]) ∧
      disk.entry? (directory ++ [name]) ≠ some .directory ∧
      new = disk.put (directory ++ [name]) (.file contents) := by
  unfold write at h
  extract_lets target at h
  -- Each check that the path passes is peeled off, and each one that it fails ends the case.
  cases htarget : target with
  | error error =>
      rw [htarget] at h
      cases h
  | ok location =>
      rw [htarget] at h
      cases h
      obtain ⟨_, hcheck, hrest⟩ := exists_of_bind htarget
      obtain ⟨⟨directory, last⟩, hlast, hrest⟩ := exists_of_bind hrest
      cases last with
      | none => cases hrest
      | some name =>
          by_cases hslash : path.rawSegments.getLast? = some ""
          · simp only [if_pos hslash] at hrest
            cases hrest
          · simp only [if_neg hslash] at hrest
            rw [openSegments_eq hslash] at hlast
            obtain ⟨parts, hparts, hwalk, hdirectory, htrivial, hdots⟩ := lastName_eq_ok hlast
            obtain ⟨found, hplace, hrest⟩ := exists_of_bind hrest
            obtain rfl := place_eq_ok hplace
            by_cases hthere : disk.entry? (directory ++ [name]) = some .directory
            · rw [if_pos hthere] at hrest
              cases hrest
            · rw [if_neg hthere] at hrest
              cases hrest
              exact ⟨parts, directory, name, hparts, hcheck, hwalk, hdirectory, htrivial, hdots,
                hplace, hthere, rfl⟩

/-- A write that succeeds sets one file, to which the path then leads, in the
    directory to which all but the last segment lead. -/
theorem grows_write {contents : String} (h : disk.write cwd path contents = (.ok (), new)) :
    ∃ parts directory name, path.rawSegments = parts ++ [name] ∧
      new.walk (startOf cwd path) parts = .ok directory ∧
      new.entry? directory = some .directory ∧
      Grows (single (directory ++ [name]) contents) disk new ∧
      new.resolve cwd path = .ok (directory ++ [name], .file contents) := by
  obtain ⟨parts, directory, name, hparts, hcheck, hwalk, hdirectory, htrivial, hdots, hplace,
    hthere, rfl⟩ := write_eq_ok h
  have hne : directory ++ [name] ≠ [] := List.concat_ne_nil _ _
  have hgrows := @grows_put_file disk _ contents hne hthere
  have hdirectory := hgrows.directory directory hdirectory
  refine ⟨parts, directory, name, hparts, hgrows.walk hwalk, hdirectory, hgrows,
    resolve_eq_ok_iff.mpr ⟨hcheck, ?_, ?_⟩⟩
  · -- The last step is the one that the write has taken.
    rw [hparts, walk_concat, hgrows.walk hwalk]
    change step _ directory name = _
    unfold step
    simp only [hdirectory, htrivial, hdots, if_false, hplace]
    rfl
  · rw [entry?_put hne, if_pos rfl]

end Operations

end Disk

end Files

end ClassForge
