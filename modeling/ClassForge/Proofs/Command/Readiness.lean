import ClassForge.Proofs.Command.Containment
import ClassForge.Proofs.Files.Histories

/-!
# Delivery That Cannot Fail

Once there is code, the emission of a spec to a store in memory looks for the output
directory, makes it if it is missing, and writes the file. Any of this could go wrong: the
directory is made from one path, while the directory that the file needs is read off the
text of another, and either may be written in many ways.

As long as the name of the class has no separators, nothing does. The path above the file
then has the components of the output directory, and directories are looked up by
components. There is one path that is never registered, the empty one, and a file right
below it needs no directory. So all failures of an emission come from the spec or from its
code, before the store is touched.

## Theorems

* `Memory.Provides.isDir`: What has been provided is there.
* `deliver_ready`, `emit_ready`: Delivery of a file that has a single name.
* `emission_fails_only_early`: When the emission of a spec fails.
-/

namespace ClassForge

namespace Files

/-- What has been provided is there, unless it is the empty path. -/
theorem Memory.Provides.isDir {directory : Path} {old new : Memory}
    (h : old.Provides directory new) (htext : directory.text ≠ "") :
    new.isDir directory = true := by
  by_cases hthere : old.isDir directory = true
  · have hsame : new.directories = old.directories := h.registered hthere
    rw [Memory.isDir, hsame]
    exact hthere
  · -- It has just been made, as the first of its own ancestors.
    have hself : directory ∈ directory.ancestors := Path.mem_ancestors .refl
    rw [h.unregistered (Bool.eq_false_iff.mpr hthere)]
    exact .inr ⟨directory, hself, htext, Memory.same_iff.mpr rfl⟩

end Files

namespace Command

open Files

/-- A file with a single name is delivered, into whatever directory. -/
theorem deliver_ready (directory : Path) {fileName : String}
    (hname : Path.components ⟨fileName⟩ = [.name fileName]) (code : String) (old : Memory) :
    ∃ new printed,
      deliver Memory.store directory fileName code old
        = ⟨.ok (directory.join ⟨fileName⟩).text, new, printed⟩ ∧
      old.Sets (directory.join ⟨fileName⟩) code new ∧ old.Provides directory new := by
  rcases deliver_memory directory fileName code old with
    ⟨new, printed, hdirs, ⟨hdeliver, hsets⟩ | ⟨needed, hneeded, hmissing, -, -⟩⟩
  · exact ⟨new, printed, hdeliver, hsets, hdirs⟩
  · -- The store that refuses the file has the directory, so it would take it.
    exfalso
    have hwrite : (new.write (directory.join ⟨fileName⟩) code).1 = .ok () :=
      Memory.write_below code hdirs.isDir hname
    have hthere : new.isDir needed = true := Memory.isDir_of_written hwrite hneeded
    rw [hmissing] at hthere
    cases hthere

/-- A spec that has code is emitted if the name of its class has no separators. -/
theorem emit_ready {language : Spec.Language} {config : Print.Config} {specFile : Path}
    {contents : Except FileError String} {spec : Spec} {code name : String}
    (hload : load specFile contents = .ok spec)
    (hcode : Generate.text language spec config = .ok code)
    (hname : Generate.className language spec = .ok name) (hseparator : '/' ∉ name.toList)
    (directory : Option Path) (old : Memory) :
    let folder := outDirFor specFile spec.outDir directory
    let file := folder.join ⟨name ++ Generate.extension language⟩
    ∃ new printed,
      emit Memory.store language config (.files directory) specFile contents old
        = ⟨.ok file.text, new, printed⟩ ∧
      old.Sets file code new ∧ old.Provides folder new := by
  rw [emit_of_code hload hcode hname]
  exact deliver_ready _ (Generate.components_fileName hseparator) code old

/-- The emission of a spec into files of a store in memory. If the name of its class has
    no separators, the emission fails exactly if the spec cannot be loaded or its code
    cannot be generated, whatever is in the store and however the output directory is
    written. Otherwise the output directory is provided and the file of the class is set
    to the code. -/
theorem emission_fails_only_early (language : Spec.Language) (config : Print.Config)
    (directory : Option Path) (specFile : Path) (contents : Except FileError String)
    (old : Memory)
    (hclass : ∀ spec name, load specFile contents = .ok spec →
      Generate.className language spec = .ok name → '/' ∉ name.toList) :
    let emission :=
      emit Memory.store language config (.files directory) specFile contents old
    ((∃ error, emission.result = .error error) ↔
      (∃ error, load specFile contents = .error error) ∨
        ∃ spec error, load specFile contents = .ok spec ∧
          Generate.text language spec config = .error error) ∧
      ∀ spec code, load specFile contents = .ok spec →
        Generate.text language spec config = .ok code →
        ∃ name, Generate.className language spec = .ok name ∧
          let folder := outDirFor specFile spec.outDir directory
          let file := folder.join ⟨name ++ Generate.extension language⟩
          emission.result = .ok file.text ∧ old.Sets file code emission.state ∧
            old.Provides folder emission.state := by
  -- What can go wrong goes wrong before anything is written, so there are three cases in all.
  cases hload : load specFile contents with
  | error error =>
      rw [emit_of_load hload]
      refine ⟨⟨fun _ => .inl ⟨error, rfl⟩, fun _ => ⟨error, rfl⟩⟩, fun spec code hfound => ?_⟩
      cases hfound
  | ok spec =>
      cases hcode : Generate.text language spec config with
      | error error =>
          rw [emit_of_generate hload hcode]
          refine ⟨⟨fun _ => .inr ⟨spec, error, rfl, hcode⟩, fun _ => ⟨_, rfl⟩⟩, ?_⟩
          intro found code hfound hmade
          cases hfound
          rw [hcode] at hmade
          cases hmade
      | ok code =>
          -- With the code at hand the file has a place, and the store is ready to take it.
          obtain ⟨name, hname⟩ := Generate.className_of_text hcode
          obtain ⟨new, printed, hemit, hsets, hdirs⟩ :=
            emit_ready hload hcode hname (hclass spec name hload hname) directory old
          rw [hemit]
          refine ⟨⟨?_, ?_⟩, ?_⟩
          · rintro ⟨error, herror⟩
            cases herror
          · -- Neither the spec nor its code is to blame for anything.
            rintro (⟨error, herror⟩ | ⟨found, error, hfound, herror⟩)
            · cases herror
            · cases hfound
              rw [hcode] at herror
              cases herror
          · intro found text hfound htext
            cases hfound
            rw [hcode] at htext
            cases htext
            exact ⟨name, hname, rfl, hsets, hdirs⟩

/-- The output directory is there under another spelling, and the path of the file has a
    third one. -/
theorem emission_fails_only_early_odd_spellings :
    let spec : Spec := ⟨".//a/./../", ⟨none, some ⟨"Item"⟩⟩, []⟩
    let old : Memory := ⟨[⟨"work//a/.."⟩], []⟩
    let emission := emit Memory.store .ts .standard (.files none) ⟨"work/item.json"⟩
      (.ok spec.write) old
    load ⟨"work/item.json"⟩ (.ok spec.write) = .ok spec ∧
      Generate.className .ts spec = .ok "Item" ∧ old.isDir ⟨"work/.//a/./../"⟩ = true ∧
      ∃ code, Generate.text .ts spec .standard = .ok code ∧
        emission.result = .ok "work/.//a/./../Item.ts" ∧
        emission.state.read? ⟨"work/a/../Item.ts"⟩ = some code ∧
        old.Provides ⟨"work/.//a/./../"⟩ emission.state := by
  intro spec old emission
  have hload : load ⟨"work/item.json"⟩ (.ok spec.write) = .ok spec := load_write rfl _
  have hname : Generate.className .ts spec = .ok "Item" := rfl
  obtain ⟨code, hcode⟩ := Generate.exists_text hname Generate.lead_standard
  have hclass : ∀ found name, load ⟨"work/item.json"⟩ (.ok spec.write) = .ok found →
      Generate.className .ts found = .ok name → '/' ∉ name.toList := by
    intro found name hfound hcalled
    rw [hload] at hfound
    cases hfound
    cases hcalled
    decide
  obtain ⟨-, hdelivered⟩ :=
    emission_fails_only_early .ts .standard none ⟨"work/item.json"⟩ (.ok spec.write) old hclass
  obtain ⟨name, hcalled, hresult, hsets, hdirs⟩ := hdelivered spec code hload hcode
  cases hcalled
  have hfolder : outDirFor ⟨"work/item.json"⟩ spec.outDir none = ⟨"work/.//a/./../"⟩ := by
    decide +kernel
  have hfile : Path.join ⟨"work/.//a/./../"⟩ ⟨"Item" ++ Generate.extension .ts⟩
      = ⟨"work/.//a/./../Item.ts"⟩ := by decide +kernel
  rw [hfolder, hfile] at hresult hsets
  rw [hfolder] at hdirs
  have hthere : old.isDir ⟨"work/.//a/./../"⟩ = true := by decide +kernel
  have hsame : Path.same ⟨"work/a/../Item.ts"⟩ ⟨"work/.//a/./../Item.ts"⟩ = true := by
    decide +kernel
  have hread := hsets ⟨"work/a/../Item.ts"⟩
  rw [if_pos hsame] at hread
  exact ⟨hload, hname, hthere, code, hcode, hresult, hread, hdirs⟩

end Command

end ClassForge
