import ClassForge.Command.Generate
import ClassForge.Proofs.Files.Paths
import Mathlib.Data.List.Nodup
import Mathlib.Data.List.Sort
import Mathlib.Data.Prod.Lex
import Mathlib.Data.String.Basic

/-!
# Finding Specs

The specs below a directory are found by walking everything below it, in no order that
anything may rely on, and sorting what is left by path. Which specs are found is a matter of
the last name on the way to a file, and the order is that of paths: component by component,
so what is in a directory comes before a file whose name only goes on with more characters.

The order of paths is total up to what paths name. Components are compared through a key,
the place of their kind and then their text, so a path is a list of keys, and comparing
paths is comparing such lists. Below one directory nothing but the names is left of that,
and different files have different names, so the sorted list is the only one there is.

## Main definitions

* `IsName`: What an entry of a directory may be called.
* `Disk.IsTree`: A disk whose entries have names, and a location each.
* `Component.key`, `Path.keys`: What decides the order of paths.

## Theorems

* `Path.before_iff`: One path comes before another if its keys do.
* `Disk.mem_entriesBelow`, `Disk.IsTree.entry?_eq_some_iff`: What is below a directory.
* `Path.extensionOf?_eq_some_iff`: Which names have an extension.
* `before_pathBelow_iff`: The order of paths below one directory.
* `mem_specFiles_below_iff`: Which files are specs.
* `ascending_specFiles`, `specFiles_of_perm`: Their order, and that the walk does not matter.
* `discovery_exact`: The specs below a directory, whatever the order of the walk.
-/

namespace ClassForge

namespace Files

namespace Component

/-- What decides the order of components: the place of the kind, then the text. -/
def key : Component → ℕ ×ₗ String
  | .name text => toLex (3, text)
  | component => toLex (component.rank, "")

theorem lt_iff (a b : Component) : a.lt b = true ↔ a.key < b.key := by
  cases a <;> cases b <;> simp [lt, rank, key, Prod.Lex.toLex_lt_toLex, -String.lt_iff_ltb]

theorem key_injective : Function.Injective key := by
  intro a b hkey
  cases a <;> cases b <;> simp_all [key, rank]

end Component

namespace Path

/-- What decides the order of paths. -/
def keys (path : Path) : List (ℕ ×ₗ String) := path.components.map Component.key

theorem keys_inj {a b : Path} : a.keys = b.keys ↔ a.components = b.components :=
  List.map_inj_right fun _ _ hkey => Component.key_injective hkey

theorem componentsBefore_iff (as bs : List Component) :
    componentsBefore as bs = true ↔ as.map Component.key < bs.map Component.key := by
  fun_induction componentsBefore as bs with
  | case1 => simp
  | case2 => simp
  | case3 => simp
  | case4 as b bs ih =>
      rw [ih, List.map_cons, List.map_cons, List.cons_lt_cons_iff]
      simp
  | case5 a as b bs hne =>
      have hkey : a.key ≠ b.key := fun h => hne (Component.key_injective h)
      rw [Component.lt_iff, List.map_cons, List.map_cons, List.cons_lt_cons_iff]
      simp [hkey]

/-- One path comes before another if its keys do. -/
theorem before_iff (a b : Path) : a.before b = true ↔ a.keys < b.keys :=
  componentsBefore_iff _ _

theorem not_before_iff (a b : Path) : (!b.before a) = true ↔ a.keys ≤ b.keys := by
  rw [Bool.not_eq_true', ← Bool.not_eq_true, before_iff, not_lt]

theorem componentsBefore_append (front as bs : List Component) :
    componentsBefore (front ++ as) (front ++ bs) = componentsBefore as bs := by
  induction front with
  | nil => rfl
  | cons a front ih => simp [componentsBefore, ih]

theorem componentsBefore_names (names others : Location) :
    componentsBefore (names.map Component.name) (others.map Component.name) = true
      ↔ List.Lex (· < ·) names others := by
  induction names generalizing others with
  | nil => cases others <;> simp [componentsBefore]
  | cons name names ih =>
      cases others with
      | nil => simp [componentsBefore]
      | cons other others =>
          rw [List.map_cons, List.map_cons, componentsBefore]
          by_cases hname : name = other
          · subst hname
            rw [if_pos rfl, ih, List.lex_cons_iff]
          · rw [if_neg (by simpa using hname)]
            constructor
            · intro hlt
              exact .rel (by simpa [Component.lt] using hlt)
            · intro hlex
              cases hlex with
              | cons => exact absurd rfl hname
              | rel hlt => simpa [Component.lt] using hlt

/-- The extension of a name is what follows its last dot, unless the name starts with
    that dot. -/
theorem extensionOf?_eq_some_iff {extension : String} (hdot : '.' ∉ extension.toList)
    (name : String) :
    extensionOf? name = some extension
      ↔ ∃ stem, stem ≠ "" ∧ name = stem ++ "." ++ extension := by
  unfold extensionOf?
  -- The extension is read from the end: up to the last dot, and something must be left behind it.
  have hsplit : name.toList.reverse.takeWhile (· ≠ '.') ++ name.toList.reverse.dropWhile (· ≠ '.')
      = name.toList.reverse := List.takeWhile_append_dropWhile
  constructor
  · intro hextension
    dsimp only at hextension
    split at hextension
    next dot last rest hdrop =>
      rw [Option.some.injEq, ← String.toList_inj, String.toList_ofList] at hextension
      have hstop : dot = '.' := by
        have hhead := List.head?_dropWhile_not (fun c => decide (c ≠ '.')) name.toList.reverse
        rw [hdrop] at hhead
        simpa using hhead
      refine ⟨String.ofList (last :: rest).reverse, by simp, ?_⟩
      rw [← String.toList_inj, ← List.reverse_inj, ← hsplit, hdrop, hstop]
      simp [← hextension]
    next => cases hextension
  · rintro ⟨stem, hstem, rfl⟩
    have hchars : stem.toList ≠ [] := by simpa using hstem
    have hrest : stem.toList.reverse ≠ [] := by simpa using hchars
    obtain ⟨last, rest, hstem⟩ := List.exists_cons_of_ne_nil hrest
    have hclear : ∀ c ∈ extension.toList.reverse, decide (c ≠ '.') = true := by
      intro c hc
      rw [decide_eq_true_eq]
      rintro rfl
      exact hdot (List.mem_reverse.mp hc)
    have hname : (stem ++ "." ++ extension).toList.reverse
        = extension.toList.reverse ++ '.' :: last :: rest := by
      simp [← hstem]
    dsimp only
    rw [hname, List.takeWhile_append_of_pos hclear, List.dropWhile_append_of_pos hclear]
    simp

end Path

/-- What an entry of a directory may be called. -/
structure IsName (text : String) : Prop where
  /-- It is one part of a path. -/
  unseparated : '/' ∉ text.toList
  /-- It leads somewhere. -/
  nontrivial : isTrivial text = false
  /-- It does not lead up. -/
  proper : text ≠ ".."

instance (text : String) : Decidable (IsName text) :=
  decidable_of_iff ('/' ∉ text.toList ∧ isTrivial text = false ∧ text ≠ "..")
    ⟨fun h => ⟨h.1, h.2.1, h.2.2⟩, fun h => ⟨h.unseparated, h.nontrivial, h.proper⟩⟩

theorem IsName.components {text : String} (h : IsName text) :
    Path.components ⟨text⟩ = [.name text] :=
  Path.components_of_name h.unseparated h.nontrivial h.proper

namespace Disk

/-- A disk whose entries have names, and a location each. -/
structure IsTree (disk : Disk) : Prop where
  /-- There is one entry at a location. -/
  distinct : (disk.entries.map Prod.fst).Nodup
  /-- Locations are made of names. -/
  named : ∀ entry ∈ disk.entries, ∀ name ∈ entry.1, IsName name

section Below

variable {disk : Disk} {location names : Location} {entry : Entry}

/-- What is below a location is on the disk at a longer one. -/
theorem mem_entriesBelow :
    (names, entry) ∈ disk.entriesBelow location
      ↔ names ≠ [] ∧ (location ++ names, entry) ∈ disk.entries := by
  unfold entriesBelow
  rw [List.mem_filterMap]
  constructor
  · rintro ⟨⟨found, there⟩, hthere, hbelow⟩
    simp only [Option.ite_none_right_eq_some, Option.some.injEq, Prod.mk.injEq] at hbelow
    obtain ⟨⟨⟨rest, rfl⟩, hne⟩, hnames, rfl⟩ := hbelow
    rw [List.drop_left] at hnames
    subst hnames
    refine ⟨?_, hthere⟩
    intro hnil
    exact hne (by rw [hnil, List.append_nil])
  · rintro ⟨hne, hthere⟩
    refine ⟨_, hthere, ?_⟩
    have hlonger : location ++ names ≠ location := by simpa using hne
    simp only [List.prefix_append, ne_eq, hlonger, not_false_eq_true, and_self, if_true,
      List.drop_left]

/-- What is found at a location is what the disk holds there. -/
theorem IsTree.entry?_eq_some_iff (hdisk : disk.IsTree) (hne : location ≠ []) :
    disk.entry? location = some entry ↔ (location, entry) ∈ disk.entries := by
  unfold entry?
  rw [if_neg hne, Option.map_eq_some_iff]
  constructor
  · rintro ⟨⟨found, there⟩, hfound, rfl⟩
    have hat : found = location := by simpa using List.find?_some hfound
    subst hat
    exact List.mem_of_find?_eq_some hfound
  · intro hthere
    have hsome : (disk.entries.find? fun old => old.1 = location).isSome :=
      List.find?_isSome.mpr ⟨_, hthere, by simp⟩
    obtain ⟨⟨found, other⟩, hfound⟩ := Option.isSome_iff_exists.mp hsome
    have hat : found = location := by simpa using List.find?_some hfound
    subst hat
    -- There is no second entry at the location.
    have hsame : ((found, other) : Location × Entry) = (found, entry) :=
      List.inj_on_of_nodup_map hdisk.distinct (List.mem_of_find?_eq_some hfound) hthere rfl
    cases hsame
    exact ⟨_, hfound, rfl⟩

/-- Below a location there is one entry for every way down. -/
theorem IsTree.distinct_below (hdisk : disk.IsTree) (location : Location) :
    (disk.entriesBelow location).Pairwise fun a b => a.1 ≠ b.1 := by
  have hpairs : disk.entries.Pairwise fun a b => a.1 ≠ b.1 := List.pairwise_map.mp hdisk.distinct
  refine List.pairwise_filterMap.mpr (hpairs.imp ?_)
  intro a b hne a' ha b' hb heq
  simp only [Option.ite_none_right_eq_some, Option.some.injEq] at ha hb
  obtain ⟨⟨⟨as, has⟩, -⟩, ha⟩ := ha
  obtain ⟨⟨⟨bs, hbs⟩, -⟩, hb⟩ := hb
  -- Both have the location in front, so what follows it decides.
  rw [← has, List.drop_left] at ha
  rw [← hbs, List.drop_left] at hb
  subst ha hb
  apply hne
  rw [← has, ← hbs]
  exact congrArg (location ++ ·) heq

/-- What is below a location is found by names. -/
theorem IsTree.named_below (hdisk : disk.IsTree) (location : Location) :
    ∀ entry ∈ disk.entriesBelow location, ∀ name ∈ entry.1, IsName name := by
  intro entry hentry name hname
  obtain ⟨-, hthere⟩ := mem_entriesBelow.mp hentry
  exact hdisk.named _ hthere name (List.mem_append_right location hname)

end Below

end Disk

end Files

namespace Command

open Files

section Paths

variable {directory : Path} {names others : Location}

theorem components_pathBelow (directory : Path) (hnames : ∀ name ∈ names, IsName name) :
    (pathBelow directory names).components
      = directory.components ++ names.map Component.name := by
  unfold pathBelow
  induction names generalizing directory with
  | nil => simp
  | cons name names ih =>
      obtain ⟨hname, hnames⟩ := List.forall_mem_cons.mp hnames
      rw [List.foldl_cons, ih _ hnames, Path.components_join_name hname.components]
      simp

/-- Below a directory, different names lead to different paths. -/
theorem pathBelow_inj (hnames : ∀ name ∈ names, IsName name)
    (hothers : ∀ name ∈ others, IsName name)
    (hpaths : (pathBelow directory names).keys = (pathBelow directory others).keys) :
    names = others := by
  rw [Path.keys_inj, components_pathBelow directory hnames,
    components_pathBelow directory hothers, List.append_cancel_left_eq] at hpaths
  exact List.map_injective_iff.mpr (fun _ _ h => Component.name.inj h) hpaths

/-- The order of paths below one directory is that of the names, one by one. -/
theorem before_pathBelow_iff (hnames : ∀ name ∈ names, IsName name)
    (hothers : ∀ name ∈ others, IsName name) :
    (pathBelow directory names).before (pathBelow directory others) = true
      ↔ List.Lex (· < ·) names others := by
  unfold Path.before
  rw [components_pathBelow directory hnames, components_pathBelow directory hothers,
    Path.componentsBefore_append, Path.componentsBefore_names]

/-- What leads to a spec is told by the last name. -/
theorem isSpecPath_pathBelow_iff (directory : Path) (hnames : ∀ name ∈ names, IsName name)
    (hne : names ≠ []) :
    isSpecPath (pathBelow directory names) = true
      ↔ ∃ above stem, stem ≠ "" ∧ names = above ++ [stem ++ ".json"] ∧
          stem ++ ".json" ≠ configName := by
  obtain ⟨above, last, rfl⟩ := (List.eq_nil_or_concat' names).resolve_left hne
  have hfile : (pathBelow directory (above ++ [last])).fileName? = some last := by
    unfold Path.fileName?
    rw [components_pathBelow directory hnames, List.map_append, ← List.append_assoc]
    simp
  have hdot : '.' ∉ "json".toList := by decide
  -- The dot belongs to the extension in one way to say it and to the ending in the other.
  have hending : ∀ stem : String, stem ++ "." ++ "json" = stem ++ ".json" := by
    intro stem
    rw [String.append_assoc]
    rfl
  unfold isSpecPath Path.extension?
  rw [hfile, Option.bind_some, Bool.and_eq_true, decide_eq_true_eq, decide_eq_true_eq,
    Path.extensionOf?_eq_some_iff hdot]
  constructor
  · rintro ⟨⟨stem, hstem, rfl⟩, hconfig⟩
    rw [hending] at hconfig ⊢
    exact ⟨above, stem, hstem, rfl, fun h => hconfig (congrArg some h)⟩
  · rintro ⟨_, stem, hstem, hlast, hconfig⟩
    have hname : last = stem ++ ".json" :=
      List.singleton_inj.mp (List.append_inj_right' hlast rfl)
    rw [hname]
    exact ⟨⟨stem, hstem, (hending stem).symm⟩, fun h => hconfig (Option.some.inj h)⟩

end Paths

section Sorting

variable {directory : Path} {entries walk : List (Location × Entry)}

theorem specFile?_eq_some_iff {names : Location} {entry : Entry} {file : SpecFile} :
    specFile? directory (names, entry) = some file
      ↔ (∃ contents, entry = .file contents) ∧ isSpecPath (pathBelow directory names) = true ∧
          file = ⟨names, pathBelow directory names⟩ := by
  cases entry with
  | directory => simp [specFile?]
  | file contents => simp [specFile?, @eq_comm _ file]

theorem mem_specFiles_iff {file : SpecFile} :
    file ∈ specFiles directory entries
      ↔ file.path = pathBelow directory file.names ∧
          (∃ contents, (file.names, .file contents) ∈ entries) ∧ isSpecPath file.path = true := by
  unfold specFiles
  rw [List.mem_mergeSort, List.mem_filterMap]
  constructor
  · rintro ⟨⟨names, entry⟩, hentry, hfile⟩
    obtain ⟨⟨contents, rfl⟩, hspec, rfl⟩ := specFile?_eq_some_iff.mp hfile
    exact ⟨rfl, ⟨contents, hentry⟩, hspec⟩
  · rintro ⟨hpath, ⟨contents, hentry⟩, hspec⟩
    rw [hpath] at hspec
    have hfile : file = ⟨file.names, pathBelow directory file.names⟩ := by rw [← hpath]
    exact ⟨_, hentry, specFile?_eq_some_iff.mpr ⟨⟨contents, rfl⟩, hspec, hfile⟩⟩

/-- Specs are in strictly ascending order if every entry has names of its own. -/
theorem ascending_specFiles (hdistinct : entries.Pairwise fun a b => a.1 ≠ b.1)
    (hnamed : ∀ entry ∈ entries, ∀ name ∈ entry.1, IsName name) :
    (specFiles directory entries).Pairwise fun a b => a.path.before b.path = true := by
  have hsorted : (specFiles directory entries).Pairwise
      fun a b => (!b.path.before a.path) = true := by
    refine List.pairwise_mergeSort ?_ ?_ _
    · intro a b c hab hbc
      rw [Path.not_before_iff] at hab hbc ⊢
      exact hab.trans hbc
    · intro a b
      rw [Bool.or_eq_true, Path.not_before_iff, Path.not_before_iff]
      exact le_total _ _
  -- Sorting only rules out pairs in the wrong order; that no two are equal is up to the walk.
  have hnames : (specFiles directory entries).Pairwise fun a b => a.names ≠ b.names := by
    refine (List.mergeSort_perm _ _).symm.pairwise ?_ fun {a b} h => h.symm
    refine List.pairwise_filterMap.mpr (hdistinct.imp ?_)
    intro a b hne file hfile other hother
    obtain ⟨-, -, rfl⟩ := specFile?_eq_some_iff.mp hfile
    obtain ⟨-, -, rfl⟩ := specFile?_eq_some_iff.mp hother
    exact hne
  refine (hsorted.and hnames).imp_of_mem ?_
  intro a b ha hb hab
  obtain ⟨hle, hne⟩ := hab
  rw [Path.not_before_iff] at hle
  obtain ⟨hpatha, ⟨_, hmema⟩, -⟩ := mem_specFiles_iff.mp ha
  obtain ⟨hpathb, ⟨_, hmemb⟩, -⟩ := mem_specFiles_iff.mp hb
  rw [Path.before_iff]
  refine lt_of_le_of_ne hle fun hkeys => hne ?_
  rw [hpatha, hpathb] at hkeys
  exact pathBelow_inj (hnamed _ hmema) (hnamed _ hmemb) hkeys

/-- The order of a walk does not matter. -/
theorem specFiles_of_perm (hwalk : walk.Perm entries)
    (hdistinct : entries.Pairwise fun a b => a.1 ≠ b.1)
    (hnamed : ∀ entry ∈ entries, ∀ name ∈ entry.1, IsName name) :
    specFiles directory walk = specFiles directory entries := by
  have hdistinctwalk : walk.Pairwise fun a b => a.1 ≠ b.1 :=
    hwalk.symm.pairwise hdistinct fun {a b} h => h.symm
  have hnamedwalk : ∀ entry ∈ walk, ∀ name ∈ entry.1, IsName name :=
    fun entry hentry => hnamed entry (hwalk.subset hentry)
  have hperm : (specFiles directory walk).Perm (specFiles directory entries) :=
    (List.mergeSort_perm _ _).trans
      ((hwalk.filterMap _).trans (List.mergeSort_perm _ _).symm)
  -- A strict order never holds both ways, so at most one list has it.
  refine hperm.eq_of_pairwise ?_ (ascending_specFiles hdistinctwalk hnamedwalk)
    (ascending_specFiles hdistinct hnamed)
  intro a b _ _ hab hba
  rw [Path.before_iff] at hab hba
  exact absurd hab hba.asymm

end Sorting

section Trees

variable {disk : Disk} {location : Location}

/-- The specs below a directory are files of the disk with the name of a spec. -/
theorem mem_specFiles_below_iff (hdisk : disk.IsTree) (directory : Path) (file : SpecFile) :
    file ∈ specFiles directory (disk.entriesBelow location)
      ↔ file.path = pathBelow directory file.names ∧
        (∃ contents, disk.entry? (location ++ file.names) = some (.file contents)) ∧
        ∃ above stem, stem ≠ "" ∧ file.names = above ++ [stem ++ ".json"] ∧
          stem ++ ".json" ≠ configName := by
  rw [mem_specFiles_iff]
  refine and_congr_right fun hpath => ?_
  rw [hpath]
  constructor
  · rintro ⟨⟨contents, hentry⟩, hspec⟩
    obtain ⟨hne, hthere⟩ := Disk.mem_entriesBelow.mp hentry
    have hfound : disk.entry? (location ++ file.names) = some (.file contents) :=
      (hdisk.entry?_eq_some_iff (List.append_ne_nil_of_right_ne_nil _ hne)).mpr hthere
    have hnames := hdisk.named_below location _ hentry
    exact ⟨⟨contents, hfound⟩, (isSpecPath_pathBelow_iff directory hnames hne).mp hspec⟩
  · rintro ⟨⟨contents, hfound⟩, hname⟩
    -- There is a last name, so the file is not the directory itself.
    have hne : file.names ≠ [] := by
      obtain ⟨above, stem, -, hnames, -⟩ := hname
      rw [hnames]
      exact List.concat_ne_nil _ _
    have hthere := (hdisk.entry?_eq_some_iff
      (List.append_ne_nil_of_right_ne_nil location hne)).mp hfound
    have hentry := Disk.mem_entriesBelow.mpr ⟨hne, hthere⟩
    have hnames := hdisk.named_below location _ hentry
    exact ⟨⟨contents, hentry⟩, (isSpecPath_pathBelow_iff directory hnames hne).mpr hname⟩

/-- The specs below a directory of a disk, found by walking the entries below it in
    whatever order. They are the files whose last name is `.json` behind something, other
    than the name of the configuration, each once. Their paths ascend component by
    component, and the list does not depend on the order of the walk. -/
theorem discovery_exact (hdisk : disk.IsTree) (location : Location) (directory : Path)
    {walk : List (Location × Entry)} (hwalk : walk.Perm (disk.entriesBelow location)) :
    let files := specFiles directory walk
    (∀ file : SpecFile, file ∈ files ↔
      file.path = pathBelow directory file.names ∧
        (∃ contents, disk.entry? (location ++ file.names) = some (.file contents)) ∧
        ∃ above stem, stem ≠ "" ∧ file.names = above ++ [stem ++ ".json"] ∧
          stem ++ ".json" ≠ configName) ∧
      files.Nodup ∧
      (files.Pairwise fun a b =>
        a.path.before b.path = true ∧ List.Lex (· < ·) a.names b.names) ∧
      files = specFiles directory (disk.entriesBelow location) := by
  intro files
  -- Everything else follows from the order, which is strict because all names differ.
  have hdistinct := hdisk.distinct_below location
  have hnamed := hdisk.named_below location
  have hfiles : files = specFiles directory (disk.entriesBelow location) :=
    specFiles_of_perm hwalk hdistinct hnamed
  have hascending : files.Pairwise fun a b => a.path.before b.path = true := by
    rw [hfiles]
    exact ascending_specFiles hdistinct hnamed
  refine ⟨fun file => ?_, ?_, ?_, hfiles⟩
  · rw [hfiles]
    exact mem_specFiles_below_iff hdisk directory file
  · refine hascending.imp ?_
    intro a b hbefore heq
    rw [heq, Path.before_iff] at hbefore
    exact hbefore.false
  · -- Below one directory the names decide.
    refine hascending.imp_of_mem ?_
    intro a b ha hb hbefore
    rw [hfiles, mem_specFiles_iff] at ha hb
    obtain ⟨hpatha, ⟨_, hentrya⟩, -⟩ := ha
    obtain ⟨hpathb, ⟨_, hentryb⟩, -⟩ := hb
    refine ⟨hbefore, ?_⟩
    rw [hpatha, hpathb] at hbefore
    exact (before_pathBelow_iff (hnamed _ hentrya) (hnamed _ hentryb)).mp hbefore

/-- A directory with specs and what may be taken for specs. -/
def mixed : Disk :=
  ⟨[(["work"], .directory), (["work", "a"], .directory), (["work", "a", "z.json"], .file "{}"),
    (["work", "a.json"], .file "{}"), (["work", "a", ".json"], .file "{}"),
    (["work", "a", "b.json"], .directory), (["work", "b.JSON"], .file "{}"),
    (["work", "specgen.config.json"], .file "{}"), (["a.json"], .file "{}")]⟩

/-- The walk goes backwards, and still what is in `a` comes before `a.json`. -/
theorem discovery_exact_mixed :
    mixed.IsTree ∧
      specFiles ⟨"/work/."⟩ (mixed.entriesBelow ["work"]).reverse
        = [⟨["a", "z.json"], ⟨"/work/./a/z.json"⟩⟩, ⟨["a.json"], ⟨"/work/./a.json"⟩⟩] := by
  have hdisk : mixed.IsTree := ⟨by decide, by decide +kernel⟩
  have hfound : (mixed.entriesBelow ["work"]).filterMap (specFile? ⟨"/work/."⟩)
      = [⟨["a", "z.json"], ⟨"/work/./a/z.json"⟩⟩, ⟨["a.json"], ⟨"/work/./a.json"⟩⟩] := rfl
  obtain ⟨-, -, -, hfiles⟩ := discovery_exact hdisk ["work"] ⟨"/work/."⟩
    (List.reverse_perm (mixed.entriesBelow ["work"]))
  refine ⟨hdisk, ?_⟩
  rw [hfiles]
  unfold specFiles
  rw [hfound]
  exact List.mergeSort_of_pairwise (by decide)

end Trees

end Command

end ClassForge
