import ClassForge.Command.Emit
import ClassForge.Proofs.Files.Memory
import ClassForge.Proofs.Generate.Outcomes

/-!
# Emission, One Spec and Many

What the emission of a spec leaves behind, and that specs which come to nothing
leave no trace in a run of many.

Everything that can go wrong with a spec itself goes wrong before the store is
touched. What can still go wrong then is that the directory of the file is not
there, which happens if the name of the class leads out of the output directory
or further down; the output directory has been provided by that time, but no
file has changed. `Emits` lists the cases, and `emits_emit` says that there are
no others.

In a run of many specs the store is handed on from one to the next. One that is
not sound hands it on as it was, so it might as well not be there. An overflow is
the exception, since it ends the run. It does no harm, because whether it happens
is up to the configuration: in a run with an overflow there is no sound spec that
could have been cut off.

## Main definitions

* `Emits`: What the emission of a spec to a store in memory can come to.
* `Job`, `Job.isSound`: Specs to be emitted, and those with code.
* `emitAll`: Many emissions into one store.

## Theorems

* `emits_emit`: The emission of a spec, case by case.
* `not_sound_of_overflows`: Where one spec overflows none is sound.
* `emitAll_filter`: A run without the specs that are not sound.
* `emission_atomic_and_isolated`: One spec and many.
-/

namespace ClassForge

namespace Command

open Files

variable {σ : Type}

/-- What the emission of a spec to a store in memory can come to. -/
inductive Emits (language : Spec.Language) (config : Print.Config) (specFile : Path)
    (contents : Except FileError String) (old : Memory) : Target → Emission Memory → Prop where
  /-- The spec is not loaded, and nothing has changed. -/
  | unloaded {target : Target} {error : EmitError} (hload : load specFile contents = .error error) :
      Emits language config specFile contents old target ⟨.error error, old, ""⟩
  /-- Its code is not generated, and nothing has changed. -/
  | ungenerated {target : Target} {spec : Spec} {error : Generate.GenerationError}
      (hload : load specFile contents = .ok spec)
      (hcode : Generate.text language spec config = .error error) :
      Emits language config specFile contents old target ⟨.error (.generate error), old, ""⟩
  /-- Its code is printed, and nothing has changed. -/
  | printed {spec : Spec} {code : String} (hload : load specFile contents = .ok spec)
      (hcode : Generate.text language spec config = .ok code) :
      Emits language config specFile contents old .stdout ⟨.ok "stdout", old, code ++ "\n"⟩
  /-- The directory that the file needs is not there even though the output
      directory is, and no file has changed. -/
  | unwritten {directory : Option Path} {spec : Spec} {code name printed : String}
      {needed : Path} {new : Memory} (hload : load specFile contents = .ok spec)
      (hcode : Generate.text language spec config = .ok code)
      (hname : Generate.className language spec = .ok name)
      (hneeded : Memory.neededDir? ((outDirFor specFile spec.outDir directory).join
        ⟨name ++ Generate.extension language⟩) = some needed)
      (hmissing : new.isDir needed = false) (hfiles : new.files = old.files)
      (hdirs : old.Provides (outDirFor specFile spec.outDir directory) new) :
      Emits language config specFile contents old (.files directory)
        ⟨.error (.file (.missingDirectory needed.text)), new, printed⟩
  /-- The file of its class holds its code, and no other file has changed. -/
  | written {directory : Option Path} {spec : Spec} {code name printed : String}
      {file : Path} {new : Memory} (hload : load specFile contents = .ok spec)
      (hcode : Generate.text language spec config = .ok code)
      (hname : Generate.className language spec = .ok name)
      (hfile : file = (outDirFor specFile spec.outDir directory).join
        ⟨name ++ Generate.extension language⟩)
      (hsets : old.Sets file code new)
      (hdirs : old.Provides (outDirFor specFile spec.outDir directory) new) :
      Emits language config specFile contents old (.files directory) ⟨.ok file.text, new, printed⟩

/-- A spec that is to be emitted: where it is, and what asking for its contents
    gave. -/
structure Job where
  /-- Where the spec is. -/
  specFile : Path
  /-- Its contents. -/
  contents : Except FileError String

/-- Whether a spec can be loaded and its code generated. -/
def Job.isSound (language : Spec.Language) (config : Print.Config) (job : Job) : Bool :=
  match load job.specFile job.contents with
  | .error _ => false
  | .ok spec =>
    match Generate.text language spec config with
    | .error _ => false
    | .ok _ => true

/-- Whether an emission was cut short by an overflow. -/
def Emission.overflows (emission : Emission σ) : Bool :=
  match emission.result with
  | .error (.generate (.overflow _)) => true
  | _ => false

/-- Emit specs one after the other into one store, until one overflows: what the
    emission of each came to, and the store in the end. -/
def emitAll (store : Store σ) (language : Spec.Language) (config : Print.Config)
    (target : Target) : List Job → σ → List (Job × Emission σ) × σ
  | [], state => ([], state)
  | job :: jobs, state =>
    let emission := emit store language config target job.specFile job.contents state
    if emission.overflows then ([(job, emission)], emission.state)
    else
      let rest := emitAll store language config target jobs emission.state
      ((job, emission) :: rest.1, rest.2)

section Single

variable {store : Store σ} {language : Spec.Language} {config : Print.Config} {target : Target}
  {specFile : Path} {contents : Except FileError String} {state : σ}

theorem exists_load_error {error : EmitError} (hload : load specFile contents = .error error) :
    ∃ cause, error = .load specFile cause := by
  unfold load at hload
  cases contents with
  | error cause =>
      cases hload
      exact ⟨_, rfl⟩
  | ok text =>
      cases hspec : Spec.ofText text with
      | error cause =>
          simp only [hspec] at hload
          cases hload
          exact ⟨cause, rfl⟩
      | ok spec =>
          simp only [hspec] at hload
          cases hload

theorem emit_of_load {error : EmitError} (hload : load specFile contents = .error error) :
    emit store language config target specFile contents state = ⟨.error error, state, ""⟩ := by
  rw [emit, hload]
  rfl

theorem emit_of_generate {spec : Spec} {error : Generate.GenerationError}
    (hload : load specFile contents = .ok spec)
    (hcode : Generate.text language spec config = .error error) :
    emit store language config target specFile contents state
      = ⟨.error (.generate error), state, ""⟩ := by
  rw [emit, hload]
  simp only [bind, Except.bind, hcode, Except.mapError]

/-- Once there is code there is a file for it, so nothing but delivery is left. -/
theorem emit_of_code {spec : Spec} {code name : String}
    (hload : load specFile contents = .ok spec)
    (hcode : Generate.text language spec config = .ok code)
    (hname : Generate.className language spec = .ok name) :
    emit store language config target specFile contents state
      = match target with
        | .stdout => ⟨.ok "stdout", state, code ++ "\n"⟩
        | .files directory =>
          deliver store (outDirFor specFile spec.outDir directory)
            (name ++ Generate.extension language) code state := by
  have hfile : Generate.fileName language spec = .ok (name ++ Generate.extension language) := by
    rw [Generate.fileName, hname]
    rfl
  rw [emit, hload]
  simp only [bind, Except.bind, hcode, hfile, Except.mapError]
  rfl

/-- Making sure of a directory provides it and touches no file. -/
theorem ensureDir_memory (directory : Path) (old : Memory) :
    ∃ ready printed, ensureDir Memory.store directory old = ⟨.ok "", ready, printed⟩ ∧
      old.Provides directory ready ∧ ready.files = old.files := by
  unfold ensureDir
  by_cases hdirectory : Memory.store.isDir directory old = true
  · rw [if_pos hdirectory]
    exact ⟨old, "", rfl, Memory.provides_self hdirectory, rfl⟩
  · rw [if_neg hdirectory]
    have hmissing : old.isDir directory = false := Bool.eq_false_iff.mpr hdirectory
    exact ⟨old.addDirs directory, _, rfl, Memory.provides_addDirs hmissing,
      Memory.files_addDirs directory old⟩

/-- Delivery into a store in memory: the file is set, or what it needs is missing. -/
theorem deliver_memory (directory : Path) (fileName code : String) (old : Memory) :
    ∃ new printed, old.Provides directory new ∧
      ((deliver Memory.store directory fileName code old
          = ⟨.ok (directory.join ⟨fileName⟩).text, new, printed⟩ ∧
        old.Sets (directory.join ⟨fileName⟩) code new) ∨
      ∃ needed, Memory.neededDir? (directory.join ⟨fileName⟩) = some needed ∧
        new.isDir needed = false ∧ new.files = old.files ∧
        deliver Memory.store directory fileName code old
          = ⟨.error (.file (.missingDirectory needed.text)), new, printed⟩) := by
  -- The directory is provided first, and writing sees the store that has it.
  rcases ensureDir_memory directory old with ⟨ready, printed, hready, hdirs, hfiles⟩
  unfold deliver
  rw [hready]
  rcases Memory.write_cases (directory.join ⟨fileName⟩) code ready with
    ⟨new, hwrite, hsets, hsame⟩ | ⟨needed, hneeded, hmissing, hwrite⟩
  · refine ⟨new, printed, hdirs.of_directories hsame, .inl ⟨?_, hsets.of_files hfiles⟩⟩
    simp only [Memory.store, hwrite]
    rfl
  · refine ⟨ready, printed, hdirs, .inr ⟨needed, hneeded, hmissing, hfiles, ?_⟩⟩
    simp only [Memory.store, hwrite]
    rfl

/-- The emission of a spec to a store in memory, case by case. -/
theorem emits_emit (language : Spec.Language) (config : Print.Config) (target : Target)
    (specFile : Path) (contents : Except FileError String) (old : Memory) :
    Emits language config specFile contents old target
      (emit Memory.store language config target specFile contents old) := by
  cases hload : load specFile contents with
  | error error =>
      rw [emit_of_load hload]
      exact .unloaded hload
  | ok spec =>
      cases hcode : Generate.text language spec config with
      | error error =>
          rw [emit_of_generate hload hcode]
          exact .ungenerated hload hcode
      | ok code =>
          -- There is code, so there is a name for its file.
          rcases Generate.className_of_text hcode with ⟨name, hname⟩
          rw [emit_of_code hload hcode hname]
          cases target with
          | stdout => exact .printed hload hcode
          | files directory =>
              change Emits _ _ _ _ _ _ (deliver _ _ _ _ _)
              rcases deliver_memory (outDirFor specFile spec.outDir directory)
                  (name ++ Generate.extension language) code old with
                ⟨new, printed, hdirs, ⟨hdeliver, hsets⟩ | ⟨needed, hneeded, hmissing, hfiles,
                  hdeliver⟩⟩
              · rw [hdeliver]
                exact .written hload hcode hname rfl hsets hdirs
              · rw [hdeliver]
                exact .unwritten hload hcode hname hneeded hmissing hfiles hdirs

end Single

section Batch

variable {store : Store σ} {language : Spec.Language} {config : Print.Config} {target : Target}

/-- A spec that is not sound changes nothing, wherever it is emitted. -/
theorem emit_of_not_sound {job : Job} (hsound : job.isSound language config = false) (state : σ) :
    (emit store language config target job.specFile job.contents state).state = state := by
  unfold Job.isSound at hsound
  cases hload : load job.specFile job.contents with
  | error error => rw [emit_of_load hload]
  | ok spec =>
      cases hcode : Generate.text language spec config with
      | error error => rw [emit_of_generate hload hcode]
      | ok code =>
          rw [hload] at hsound
          simp only [hcode, Bool.true_eq_false] at hsound

/-- A sound spec has code. -/
theorem Job.exists_code {job : Job} (hsound : job.isSound language config = true) :
    ∃ spec code, load job.specFile job.contents = .ok spec ∧
      Generate.text language spec config = .ok code := by
  unfold isSound at hsound
  cases hload : load job.specFile job.contents with
  | error error =>
      rw [hload] at hsound
      cases hsound
  | ok spec =>
      cases hcode : Generate.text language spec config with
      | error error =>
          rw [hload] at hsound
          simp only [hcode, Bool.false_eq_true] at hsound
      | ok code => exact ⟨spec, code, rfl, hcode⟩

-- Delivery can only fail because of a file, whatever the store.
theorem exists_deliver_result (directory : Path) (fileName code : String) (state : σ) :
    ∃ outcome : Except FileError String,
      (deliver store directory fileName code state).result = outcome.mapError .file := by
  have hready : ∃ outcome : Except FileError String,
      (ensureDir store directory state).result = outcome.mapError .file := by
    unfold ensureDir
    split
    · exact ⟨.ok "", rfl⟩
    · exact ⟨_, rfl⟩
  rcases hready with ⟨outcome, houtcome⟩
  unfold deliver
  simp only [houtcome]
  cases outcome with
  | error cause => exact ⟨.error cause, rfl⟩
  | ok text => exact ⟨_, rfl⟩

theorem deliver_overflows (directory : Path) (fileName code : String) (state : σ) :
    (deliver store directory fileName code state).overflows = false := by
  rcases exists_deliver_result directory fileName code state with ⟨outcome, houtcome⟩
  rw [Emission.overflows, houtcome]
  cases outcome <;> rfl

/-- Only generation overflows. -/
theorem exists_overflow_of_emit {job : Job} {state : σ}
    (h : (emit store language config target job.specFile job.contents state).overflows = true) :
    ∃ spec cause, Generate.text language spec config = .error (.overflow cause) := by
  cases hload : load job.specFile job.contents with
  | error error =>
      rcases exists_load_error hload with ⟨cause, rfl⟩
      rw [emit_of_load hload] at h
      cases h
  | ok spec =>
      cases hcode : Generate.text language spec config with
      | error error =>
          rw [emit_of_generate hload hcode] at h
          cases error with
          | overflow cause => exact ⟨spec, cause, hcode⟩
          | _ => cases h
      | ok code =>
          rcases Generate.className_of_text hcode with ⟨name, hname⟩
          rw [emit_of_code hload hcode hname] at h
          cases target with
          | stdout => cases h
          | files directory =>
              rw [deliver_overflows] at h
              cases h

/-- Where one spec overflows none is sound, since that is up to the configuration. -/
theorem not_sound_of_overflows {job : Job} {state : σ}
    (h : (emit store language config target job.specFile job.contents state).overflows = true)
    (other : Job) : other.isSound language config = false := by
  rcases exists_overflow_of_emit h with ⟨spec, cause, hcode⟩
  rw [Bool.eq_false_iff]
  intro hsound
  rcases Job.exists_code hsound with ⟨found, code, -, hfound⟩
  exact Generate.text_ne_ok_of_overflow hcode found code hfound

/-- Leaving out what is not sound changes neither the store nor what becomes of
    the rest. -/
theorem emitAll_filter (store : Store σ) (language : Spec.Language) (config : Print.Config)
    (target : Target) (jobs : List Job) (state : σ) :
    emitAll store language config target (jobs.filter (Job.isSound language config)) state
      = ((emitAll store language config target jobs state).1.filter fun (job, _) =>
          job.isSound language config,
        (emitAll store language config target jobs state).2) := by
  -- The store differs from spec to spec, so it is not fixed in the induction.
  induction jobs generalizing state with
  | nil => rfl
  | cons job jobs ih =>
      rw [List.filter_cons, emitAll]
      cases hsound : job.isSound language config with
      | true =>
          have hflows : (emit store language config target job.specFile job.contents
              state).overflows = false := by
            rw [Bool.eq_false_iff]
            intro hoverflows
            rw [not_sound_of_overflows hoverflows job] at hsound
            cases hsound
          simp only [hflows, Bool.false_eq_true, if_false, if_true, emitAll, ih, List.filter_cons,
            hsound]
      | false =>
          have hstate : (emit store language config target job.specFile job.contents state).state
              = state := emit_of_not_sound hsound state
          simp only [Bool.false_eq_true, if_false, hstate]
          by_cases hoverflows : (emit store language config target job.specFile job.contents
              state).overflows = true
          · -- Nothing behind an overflow is sound either.
            have hnone : jobs.filter (Job.isSound language config) = [] :=
              List.filter_eq_nil_iff.mpr fun other _ =>
                Bool.eq_false_iff.mp (not_sound_of_overflows hoverflows other)
            simp only [hnone, if_pos hoverflows, emitAll, List.filter_cons, hsound,
              Bool.false_eq_true, if_false, List.filter_nil]
          · simp only [if_neg hoverflows, List.filter_cons, hsound, Bool.false_eq_true, if_false,
              ih]

end Batch

/-- Emission is atomic: a spec that is not loaded or whose code is not generated
    changes nothing, one whose file is not written changes no file, and any other
    sets exactly the file of its class. It is isolated: leaving out of a run all
    specs of the first kind changes neither the store in the end nor what the
    emission of any other comes to. -/
theorem emission_atomic_and_isolated (language : Spec.Language) (config : Print.Config)
    (target : Target) :
    (∀ specFile contents old, Emits language config specFile contents old target
        (emit Memory.store language config target specFile contents old)) ∧
      ∀ jobs old, emitAll Memory.store language config target
          (jobs.filter (Job.isSound language config)) old
        = ((emitAll Memory.store language config target jobs old).1.filter fun (job, _) =>
            job.isSound language config,
          (emitAll Memory.store language config target jobs old).2) :=
  ⟨emits_emit language config target, emitAll_filter Memory.store language config target⟩

end Command

end ClassForge
