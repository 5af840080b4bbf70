import ClassForge.Proofs.Command.Emission
import ClassForge.Proofs.Files.Growth
import ClassForge.Proofs.Spec.Documents

/-!
# Where Files Are Written

That the emission of a spec writes nothing but the file of its class, and where
that file is.

The name of the file is joined to the output directory as a text. Joining takes a
name with separators apart, and takes an absolute one for the whole path, so
where the file ends up is a question of the name of the class alone: without
separators it is in the output directory under exactly that name, whatever the
directory looks like, and with separators it is not. Nothing looks at the name
before it is joined.

On a disk paths are followed, so it takes one more step to see that a path which
is below another leads to where the other leads.

## Main definitions

* `Store.noting`: A store that takes down the paths that are written to.
* `IsIn`: A path is in a directory under a name.

## Theorems

* `isIn_join_iff`: When the file of a class is in the output directory.
* `writesOnly_deliver`: What delivery writes.
* `emit_eq_ok`: What an emission that succeeds has gone through.
* `written_in_directory`: Where the file of a spec is written.
-/

namespace ClassForge

namespace Files

/-- A store that takes down the paths that are written to. -/
def Store.noting {σ : Type} (store : Store σ) : Store (σ × List Path) where
  isDir path state := store.isDir path state.1
  createDirs path state :=
    let (made, after) := store.createDirs path state.1
    (made, after, state.2)
  write path contents state :=
    let (written, after) := store.write path contents state.1
    (written, after, state.2 ++ [path])

/-- A path is in a directory under a name. -/
def IsIn (directory : Path) (name : String) (path : Path) : Prop :=
  (∃ parent, path.parent? = some parent ∧ parent.same directory = true) ∧
    path.fileName? = some name

namespace Path

/-- The name of a file is a part of its path. -/
theorem separator_notMem_fileName {path : Path} {name : String}
    (hname : path.fileName? = some name) : '/' ∉ name.toList := by
  unfold fileName? at hname
  split at hname
  · rename_i text hlast
    cases hname
    have hmem : Component.name name ∈ path.components := List.mem_of_getLast? hlast
    rw [components_eq, List.mem_append, List.mem_filterMap] at hmem
    rcases hmem with hhead | ⟨segment, hsegment, hcomponent⟩
    · cases hstart : path.head with
      | root => simp [hstart, headComponent] at hhead
      | current => simp [hstart, headComponent] at hhead
      | none => simp [hstart, headComponent] at hhead
    · unfold component? at hcomponent
      split at hcomponent
      · cases hcomponent
      split at hcomponent
      · cases hcomponent
      · cases hcomponent
        exact path.separator_notMem_rawSegments _ hsegment
  · cases hname

/-- A name that is joined to a directory is in it. -/
theorem isIn_join {directory : Path} {name : String} (hname : components ⟨name⟩ = [.name name]) :
    IsIn directory name (directory.join ⟨name⟩) := by
  have hjoin : (directory.join ⟨name⟩).components = directory.components ++ [.name name] :=
    components_join_name hname
  constructor
  · rcases (directory.join ⟨name⟩).parent?_cases with ⟨-, hroot⟩ | ⟨parent, last, hparent, hsplit⟩
    · -- There is a name, so the path is not the root.
      rw [hjoin] at hroot
      rcases hroot with hnil | hroot
      · exact absurd hnil (List.concat_ne_nil _ _)
      · have hlast := congrArg List.getLast? hroot
        rw [List.getLast?_concat] at hlast
        cases hlast
    · rw [hjoin] at hsplit
      exact ⟨parent, hparent, Memory.same_iff.mpr (List.append_inj_left' hsplit rfl).symm⟩
  · unfold fileName?
    rw [hjoin, List.getLast?_concat]

end Path

end Files

namespace Generate

theorem separator_notMem_extension (language : Spec.Language) :
    '/' ∉ (extension language).toList := by
  cases language <;> decide

theorem separator_notMem_fileName {language : Spec.Language} {name : String}
    (hname : '/' ∉ name.toList) : '/' ∉ (name ++ extension language).toList := by
  rw [String.toList_append, List.mem_append]
  rintro (hmem | hmem)
  · exact hname hmem
  · exact separator_notMem_extension language hmem

/-- The name of a generated file is a name, because the extension alone is longer
    than anything that is not. -/
theorem isName_fileName (language : Spec.Language) (name : String) :
    Files.isTrivial (name ++ extension language) = false ∧ name ++ extension language ≠ ".." := by
  have hlength : 3 ≤ (name ++ extension language).length := by
    rw [String.length_append]
    have hextension : 3 ≤ (extension language).length := by cases language <;> decide
    omega
  have hlonger : ∀ text : String, text.length < 3 → name ++ extension language ≠ text := by
    intro text htext heq
    rw [heq] at hlength
    omega
  refine ⟨?_, hlonger ".." (by decide)⟩
  unfold Files.isTrivial
  rw [Bool.or_eq_false_iff, decide_eq_false_iff_not, decide_eq_false_iff_not]
  exact ⟨hlonger "" (by decide), hlonger "." (by decide)⟩

theorem components_fileName {language : Spec.Language} {name : String}
    (hname : '/' ∉ name.toList) :
    Files.Path.components ⟨name ++ extension language⟩
      = [.name (name ++ extension language)] := by
  obtain ⟨htrivial, hdots⟩ := isName_fileName language name
  exact Files.Path.components_of_name (separator_notMem_fileName hname) htrivial hdots

end Generate

namespace Command

open Files

variable {σ : Type}

/-- The file of a class is in the output directory under its own name exactly if
    there are no separators in the name of the class. -/
theorem isIn_join_iff (language : Spec.Language) (directory : Path) (name : String) :
    IsIn directory (name ++ Generate.extension language)
        (directory.join ⟨name ++ Generate.extension language⟩) ↔ '/' ∉ name.toList := by
  constructor
  · rintro ⟨-, hfile⟩ hmem
    refine Path.separator_notMem_fileName hfile ?_
    rw [String.toList_append, List.mem_append]
    exact .inl hmem
  · intro hname
    exact Path.isIn_join (Generate.components_fileName hname)

/-- A spec is loaded from the text that is written of it. -/
theorem load_write {spec : Spec} (hspec : spec.normalized = spec) (specFile : Path) :
    load specFile (.ok spec.write) = .ok spec := by
  rw [load, Spec.ofText_write, hspec]
  rfl

section Noting

variable {store : Store σ} {language : Spec.Language} {config : Print.Config}
  {specFile : Path} {contents : Except FileError String} {directory : Option Path}

/-- An emission, and the same emission with what it writes taken down: all that it
    writes is one file, and it is written if the emission succeeds. -/
structure WritesOnly (file : Path) (plain : Emission σ) (noted : Emission (σ × List Path)) :
    Prop where
  result : noted.result = plain.result
  state : noted.state.1 = plain.state
  printed : noted.printed = plain.printed
  atMost : noted.state.2 = [] ∨ noted.state.2 = [file]
  onSuccess : ∀ text, plain.result = .ok text → text = file.text ∧ noted.state.2 = [file]

theorem ensureDir_noting (store : Store σ) (directory : Path) (state : σ) (notes : List Path) :
    ensureDir store.noting directory (state, notes)
      = ⟨(ensureDir store directory state).result, ((ensureDir store directory state).state, notes),
        (ensureDir store directory state).printed⟩ := by
  unfold ensureDir
  by_cases hdirectory : store.isDir directory state = true
  · rw [if_pos hdirectory]
    exact if_pos hdirectory
  · rw [if_neg hdirectory]
    exact if_neg hdirectory

/-- Without a directory nothing is written. -/
theorem deliver_of_error {directory : Path} {fileName code : String} {state : σ}
    {error : EmitError} (hready : (ensureDir store directory state).result = .error error) :
    deliver store directory fileName code state
      = ⟨.error error, (ensureDir store directory state).state,
        (ensureDir store directory state).printed⟩ := by
  simp only [deliver, hready]

/-- With a directory all depends on the write. -/
theorem deliver_of_ok {directory : Path} {fileName code text : String} {state : σ}
    (hready : (ensureDir store directory state).result = .ok text) :
    deliver store directory fileName code state
      = ⟨((store.write (directory.join ⟨fileName⟩) code
          (ensureDir store directory state).state).1.map
            fun _ => (directory.join ⟨fileName⟩).text).mapError .file,
        (store.write (directory.join ⟨fileName⟩) code (ensureDir store directory state).state).2,
        (ensureDir store directory state).printed⟩ := by
  simp only [deliver, hready]

/-- Delivery writes at most the file that it is for, and does so if it succeeds. -/
theorem writesOnly_deliver (store : Store σ) (directory : Path) (fileName code : String)
    (state : σ) :
    WritesOnly (directory.join ⟨fileName⟩) (deliver store directory fileName code state)
      (deliver store.noting directory fileName code (state, [])) := by
  have hnoted := ensureDir_noting store directory state []
  cases hready : (ensureDir store directory state).result with
  | error error =>
      rw [deliver_of_error hready, deliver_of_error (by rw [hnoted]; exact hready), hnoted]
      exact ⟨rfl, rfl, rfl, .inl rfl, fun text hresult => by cases hresult⟩
  | ok ready =>
      rw [deliver_of_ok hready, deliver_of_ok (by rw [hnoted]; exact hready), hnoted]
      refine ⟨rfl, rfl, rfl, .inr rfl, fun text hresult => ⟨?_, rfl⟩⟩
      cases hwrite : (store.write (directory.join ⟨fileName⟩) code
          (ensureDir store directory state).state).1 with
      | error error =>
          rw [hwrite] at hresult
          cases hresult
      | ok _ =>
          rw [hwrite] at hresult
          cases hresult
          rfl

theorem writesOnly_emit {spec : Spec} {name : String}
    (hload : load specFile contents = .ok spec)
    (hname : Generate.className language spec = .ok name) (state : σ) :
    WritesOnly ((outDirFor specFile spec.outDir directory).join
        ⟨name ++ Generate.extension language⟩)
      (emit store language config (.files directory) specFile contents state)
      (emit store.noting language config (.files directory) specFile contents (state, [])) := by
  cases hcode : Generate.text language spec config with
  | error error =>
      rw [emit_of_generate hload hcode, emit_of_generate hload hcode]
      exact ⟨rfl, rfl, rfl, .inl rfl, fun text hresult => by cases hresult⟩
  | ok code =>
      rw [emit_of_code hload hcode hname, emit_of_code hload hcode hname]
      exact writesOnly_deliver store _ _ code state

end Noting

section Succeeding

variable {store : Store σ} {language : Spec.Language} {config : Print.Config}
  {specFile : Path} {contents : Except FileError String} {directory : Option Path} {state : σ}
  {text : String}

/-- A delivery that succeeds has made sure of the directory and written the file. -/
theorem deliver_eq_ok {directory : Path} {fileName code : String}
    (h : (deliver store directory fileName code state).result = .ok text) :
    ∃ after, store.write (directory.join ⟨fileName⟩) code (ensureDir store directory state).state
        = (.ok (), after) ∧
      deliver store directory fileName code state
        = ⟨.ok (directory.join ⟨fileName⟩).text, after,
          (ensureDir store directory state).printed⟩ := by
  cases hready : (ensureDir store directory state).result with
  | error error =>
      rw [deliver_of_error hready] at h
      cases h
  | ok ready =>
      rw [deliver_of_ok hready] at h ⊢
      rcases hwrite : store.write (directory.join ⟨fileName⟩) code
        (ensureDir store directory state).state with ⟨written, after⟩
      rw [hwrite] at h
      cases written with
      | error error => cases h
      | ok _ => exact ⟨after, rfl, rfl⟩

/-- An emission that succeeds has delivered the code of a spec. -/
theorem emit_eq_ok
    (h : (emit store language config (.files directory) specFile contents state).result
      = .ok text) :
    ∃ spec code name, load specFile contents = .ok spec ∧
      Generate.text language spec config = .ok code ∧
      Generate.className language spec = .ok name ∧
      emit store language config (.files directory) specFile contents state
        = deliver store (outDirFor specFile spec.outDir directory)
          (name ++ Generate.extension language) code state := by
  cases hload : load specFile contents with
  | error error =>
      rw [emit_of_load hload] at h
      cases h
  | ok spec =>
      cases hcode : Generate.text language spec config with
      | error error =>
          rw [emit_of_generate hload hcode] at h
          cases h
      | ok code =>
          obtain ⟨name, hname⟩ := Generate.className_of_text hcode
          exact ⟨spec, code, name, rfl, hcode, hname, emit_of_code hload hcode hname⟩

end Succeeding

section Disks

variable {cwd : Location} {disk : Disk} {language : Spec.Language} {config : Print.Config}
  {specFile : Path} {contents : Except FileError String} {directory : Option Path} {text : String}

/-- Making sure of a directory touches no file of a disk. -/
theorem grows_ensureDir (cwd : Location) (directory : Path) (disk : Disk) :
    Disk.Grows Disk.nowhere disk (ensureDir (Disk.store cwd) directory disk).state := by
  unfold ensureDir
  split
  · exact .refl disk
  · exact Disk.grows_createDirs cwd directory disk

/-- Where all but the last segment of a path lead that is in a directory by its
    name, there leads the directory. -/
theorem walk_of_join {directory : Path} {name last : String} {parts : List String}
    {location : Location} (hname : '/' ∉ name.toList)
    (hparts : (directory.join ⟨name⟩).rawSegments = parts ++ [last])
    (hwalk : disk.walk (Disk.startOf cwd (directory.join ⟨name⟩)) parts = .ok location)
    (hthere : disk.entry? location = some .directory) :
    last = name ∧
      disk.walk (Disk.startOf cwd directory) directory.rawSegments = .ok location := by
  have hbelow : Path.isAbsolute ⟨name⟩ = false := Path.isAbsolute_of_notMem hname
  -- An empty segment stays where it is.
  have hstay : disk.step location "" = .ok location := by
    unfold Disk.step
    simp only [hthere]
    rfl
  by_cases hdirectory : directory.text = ""
  · -- The name is all there is, and it is looked for where the directory is.
    have hjoin : directory.join ⟨name⟩ = ⟨name⟩ := Path.join_of_empty hdirectory _
    have hsegments : [] ++ [name] = parts ++ [last] := by
      rw [← hparts, hjoin, Path.rawSegments_of_notMem hname]
      rfl
    have habsolute : directory.isAbsolute = false := by
      rw [Bool.eq_false_iff, ne_eq, Path.isAbsolute_iff]
      exact fun h => h.1 hdirectory
    have hstart : Disk.startOf cwd (directory.join ⟨name⟩) = Disk.startOf cwd directory := by
      unfold Disk.startOf
      rw [hjoin, hbelow, habsolute]
    obtain ⟨rfl, hlast⟩ := List.append_inj' hsegments rfl
    rw [hstart] at hwalk
    cases hwalk
    refine ⟨(List.singleton_inj.mp hlast).symm, ?_⟩
    obtain ⟨text⟩ := directory
    cases hdirectory
    change disk.walk _ [""] = _
    rw [Disk.walk_cons, hstay]
    rfl
  · obtain ⟨front, gone, -, hraw, hgone, hjoin, -⟩ := Path.rawSegments_join hdirectory hbelow
    rw [Path.rawSegments_of_notMem hname] at hjoin
    obtain ⟨rfl, hlast⟩ := List.append_inj' (hjoin.symm.trans hparts) rfl
    have hstart : Disk.startOf cwd (directory.join ⟨name⟩) = Disk.startOf cwd directory := by
      unfold Disk.startOf
      rw [Path.isAbsolute_join hdirectory hbelow]
    rw [hstart] at hwalk
    refine ⟨(List.singleton_inj.mp hlast).symm, ?_⟩
    rcases hgone with rfl | rfl
    · rw [hraw, List.append_nil]
      exact hwalk
    · rw [hraw, Disk.walk_concat, hwalk]
      exact hstay

/-- A delivery to a disk that succeeds sets the file to which its path leads, in
    the directory to which all but the last segment of the path lead. -/
theorem deliver_on_disk {directory : Path} {fileName code : String}
    (h : (deliver (Disk.store cwd) directory fileName code disk).result = .ok text) :
    ∃ after parts location last,
      deliver (Disk.store cwd) directory fileName code disk
        = ⟨.ok (directory.join ⟨fileName⟩).text, after,
          (ensureDir (Disk.store cwd) directory disk).printed⟩ ∧
      (directory.join ⟨fileName⟩).rawSegments = parts ++ [last] ∧
      after.walk (Disk.startOf cwd (directory.join ⟨fileName⟩)) parts = .ok location ∧
      after.entry? location = some .directory ∧
      Disk.Grows (Disk.single (location ++ [last]) code) disk after ∧
      after.resolve cwd (directory.join ⟨fileName⟩) = .ok (location ++ [last], .file code) := by
  obtain ⟨after, hwrite, hdeliver⟩ := deliver_eq_ok h
  obtain ⟨parts, location, last, hparts, hwalk, hthere, hgrows, hresolve⟩ :=
    Disk.grows_write hwrite
  exact ⟨after, parts, location, last, hdeliver, hparts, hwalk, hthere,
    (grows_ensureDir cwd directory disk).of_nowhere hgrows, hresolve⟩

/-- On a disk the file of a class without separators is set in the directory to
    which the output directory leads, and no other file is. -/
theorem emit_in_directory {spec : Spec} {name : String}
    (hload : load specFile contents = .ok spec)
    (hname : Generate.className language spec = .ok name) (hseparator : '/' ∉ name.toList)
    {emission : Emission Disk}
    (hemission : emit (Disk.store cwd) language config (.files directory) specFile contents disk
      = emission) (hresult : emission.result = .ok text) :
    ∃ location code, Generate.text language spec config = .ok code ∧
      emission.state.walk (Disk.startOf cwd (outDirFor specFile spec.outDir directory))
        (outDirFor specFile spec.outDir directory).rawSegments = .ok location ∧
      Disk.Grows (Disk.single (location ++ [name ++ Generate.extension language]) code) disk
        emission.state := by
  rw [← hemission] at hresult
  obtain ⟨found, code, called, hfound, hcode, hcalled, hemit⟩ := emit_eq_ok hresult
  rw [hload] at hfound
  cases hfound
  rw [hname] at hcalled
  cases hcalled
  rw [hemit] at hresult
  obtain ⟨after, parts, location, last, hdeliver, hparts, hwalk, hthere, hgrows, -⟩ :=
    deliver_on_disk hresult
  obtain ⟨rfl, hleads⟩ :=
    walk_of_join (Generate.separator_notMem_fileName hseparator) hparts hwalk hthere
  rw [← hemission, hemit, hdeliver]
  exact ⟨location, code, hcode, hleads, hgrows⟩

end Disks

/-- Where the file of a spec is written. Into any store, the emission of a spec
    writes nothing but one path, and does so if it succeeds. That path is in the
    output directory under the name of the class and its extension exactly if there
    are no separators in the name of the class. On a disk the file is then set in
    the directory to which the output directory leads, and no other file is. -/
theorem written_in_directory {language : Spec.Language} {specFile : Path}
    {contents : Except FileError String} {spec : Spec} {name : String}
    (hload : load specFile contents = .ok spec)
    (hname : Generate.className language spec = .ok name) (config : Print.Config)
    (directory : Option Path) :
    let folder := outDirFor specFile spec.outDir directory
    let fileName := name ++ Generate.extension language
    (∀ (σ : Type) (store : Store σ) (state : σ), WritesOnly (folder.join ⟨fileName⟩)
        (emit store language config (.files directory) specFile contents state)
        (emit store.noting language config (.files directory) specFile contents (state, []))) ∧
      (IsIn folder fileName (folder.join ⟨fileName⟩) ↔ '/' ∉ name.toList) ∧
      ∀ cwd disk emission text, '/' ∉ name.toList →
        emit (Disk.store cwd) language config (.files directory) specFile contents disk = emission →
        emission.result = .ok text →
        ∃ location code, Generate.text language spec config = .ok code ∧
          emission.state.walk (Disk.startOf cwd folder) folder.rawSegments = .ok location ∧
          Disk.Grows (Disk.single (location ++ [fileName]) code) disk emission.state :=
  ⟨fun _ _ => writesOnly_emit hload hname, isIn_join_iff language _ name,
    fun _ _ _ _ hseparator => emit_in_directory hload hname hseparator⟩

/-- The output directory is made, and the file of the class is set in it. -/
theorem written_in_directory_item :
    let spec : Spec := ⟨"out", ⟨none, some ⟨"Item"⟩⟩, []⟩
    let disk : Disk := ⟨[(["work"], .directory), (["work", "item.json"], .file spec.write)]⟩
    load ⟨"/work/item.json"⟩ (.ok spec.write) = .ok spec ∧
      Generate.className .ts spec = .ok "Item" ∧
      IsIn ⟨"/work/out"⟩ "Item.ts" ⟨"/work/out/Item.ts"⟩ ∧
      ∃ code, Generate.text .ts spec .standard = .ok code ∧
        Disk.Grows (Disk.single ["work", "out", "Item.ts"] code) disk
          (emit (Disk.store ["work"]) .ts .standard (.files none) ⟨"/work/item.json"⟩
            (.ok spec.write) disk).state := by
  intro spec disk
  have hload : load ⟨"/work/item.json"⟩ (.ok spec.write) = .ok spec := load_write rfl _
  have hname : Generate.className .ts spec = .ok "Item" := rfl
  have hfolder : outDirFor ⟨"/work/item.json"⟩ spec.outDir none = ⟨"/work/out"⟩ := by decide
  have hseparator : '/' ∉ "Item".toList := by decide
  obtain ⟨-, hin, hdisk⟩ := written_in_directory hload hname .standard none
  rw [hfolder] at hin hdisk
  obtain ⟨code, hcode⟩ := Generate.exists_text hname Generate.lead_standard
  -- What the emission comes to can be computed without a look into the code.
  have hemit : emit (Disk.store ["work"]) .ts .standard (.files none) ⟨"/work/item.json"⟩
      (.ok spec.write) disk = ⟨.ok "/work/out/Item.ts", ⟨[(["work"], .directory),
        (["work", "item.json"], .file spec.write), (["work", "out"], .directory),
        (["work", "out", "Item.ts"], .file code)]⟩,
        "  ⚠️ creating output directory /work/out\n"⟩ := by
    rw [emit_of_code hload hcode hname]
    change deliver _ (outDirFor ⟨"/work/item.json"⟩ spec.outDir none) _ _ _ = _
    rw [hfolder]
    rfl
  rw [hemit]
  obtain ⟨location, found, hfound, hwalk, hgrows⟩ := hdisk ["work"] disk _ _ hseparator hemit rfl
  cases hwalk
  exact ⟨hload, hname, hin.mpr hseparator, found, hfound, hgrows⟩

/-- A class whose name is an absolute path is not written to the output
    directory, although it was chosen. -/
theorem absolute_class_escapes :
    let spec : Spec := ⟨"out", ⟨none, some ⟨"/Item"⟩⟩, []⟩
    let emission := emit Memory.store .ts .standard (.files (some ⟨"/out"⟩)) ⟨"/work/item.json"⟩
      (.ok spec.write) .empty
    load ⟨"/work/item.json"⟩ (.ok spec.write) = .ok spec ∧
      Generate.className .ts spec = .ok "/Item" ∧
      emission.result = .ok "/Item.ts" ∧
      emission.state.files.map Prod.fst = [⟨"/Item.ts"⟩] ∧
      Path.parent? ⟨"/Item.ts"⟩ = some ⟨"/"⟩ ∧ Path.same ⟨"/"⟩ ⟨"/out"⟩ = false ∧
      Path.fileName? ⟨"/Item.ts"⟩ ≠ some "/Item.ts" := by
  intro spec emission
  have hload : load ⟨"/work/item.json"⟩ (.ok spec.write) = .ok spec := load_write rfl _
  have hname : Generate.className .ts spec = .ok "/Item" := rfl
  obtain ⟨code, hcode⟩ := Generate.exists_text hname Generate.lead_standard
  have hemission : emission
      = deliver Memory.store ⟨"/out"⟩ ("/Item" ++ Generate.extension .ts) code .empty :=
    emit_of_code hload hcode hname
  have hdeliver : deliver Memory.store ⟨"/out"⟩ ("/Item" ++ Generate.extension .ts) code .empty
      = ⟨.ok "/Item.ts", ⟨[⟨"/out"⟩, ⟨"/"⟩], [(⟨"/Item.ts"⟩, code)]⟩,
        "  ⚠️ creating output directory /out\n"⟩ := rfl
  rw [hemission, hdeliver]
  exact ⟨hload, hname, rfl, rfl, by decide, by decide, by decide⟩

end Command

end ClassForge
