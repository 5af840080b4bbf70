import ClassForge.Command.Generate
import ClassForge.Proofs.Command.Containment
import Mathlib.Data.List.Nodup

/-!
# What a Run Leaves Behind

What is on the disk after a run of the command in which every spec was emitted.

Specs are emitted one by one, and a file that is already there is replaced. So
what counts for a file is the last spec that leads to it, and whether a spec still
has its own text at the end depends on the specs behind it. Two paths need not
be equal for that: all that matters is where they lead, and that can be told from
the paths alone.

Specs themselves are safe from all this, because no generated file is called like
one. This is why it makes no difference when a spec was read.

## Main definitions

* `Delivery`: What became of a spec that was emitted.
* `lastAt`: The text that was delivered last to a location.
* `Delivers`: Deliveries that are made one after the other.

## Theorems

* `isSpecPath_output`: What is generated is no spec.
* `Delivers.grows`: What deliveries do to the files of a disk.
* `Delivers.read_spec`: Deliveries leave specs alone.
* `Delivers.own_text_iff`: When every spec has its own text.
* `delivers_of_calm`: A run without failures makes one delivery for each spec.
* `run_leaves_last_texts`: What is on the disk after a run.
-/

namespace ClassForge

namespace Generate

/-- Generated files do not have the extension of specs. -/
theorem extensionOf?_fileName (language : Spec.Language) (name : String) :
    Files.Path.extensionOf? (name ++ extension language) ≠ some "json" := by
  unfold Files.Path.extensionOf?
  rw [String.toList_append, List.reverse_append]
  -- A name that is nothing but the extension has none.
  cases language with
  | php =>
      cases name.toList.reverse with
      | nil => decide
      | cons c chars =>
          change some "php" ≠ some "json"
          decide
  | ts =>
      cases name.toList.reverse with
      | nil => decide
      | cons c chars =>
          change some "ts" ≠ some "json"
          decide

end Generate

namespace Command

open Files

/-- What became of a spec that was emitted. -/
structure Delivery where
  /-- The spec. -/
  file : SpecFile
  /-- The path that its report names. -/
  path : Path
  /-- The text that was generated. -/
  code : String
  /-- What was printed before the report. -/
  notice : String

namespace Delivery

/-- What is printed about a spec that was emitted. -/
def report (delivery : Delivery) : String :=
  delivery.notice ++ ("  ✓ " ++ delivery.file.relative ++ " → " ++ delivery.path.text ++ "\n")

/-- The text and the path are those of the spec as it is on a disk. -/
def From (cwd : Location) (language : Spec.Language) (config : Print.Config)
    (directory : Option Path) (disk : Disk) (delivery : Delivery) : Prop :=
  ∃ spec name, load delivery.file.path (disk.read cwd delivery.file.path) = .ok spec ∧
    Generate.text language spec config = .ok delivery.code ∧
    Generate.className language spec = .ok name ∧
    delivery.path = (outDirFor delivery.file.path spec.outDir directory).join
      ⟨name ++ Generate.extension language⟩

/-- Making a delivery sets the file to which its path leads, and no other. -/
structure Makes (cwd : Location) (language : Spec.Language) (config : Print.Config)
    (directory : Option Path) (delivery : Delivery) (old new : Disk) : Prop where
  source : delivery.From cwd language config directory old
  grows : Disk.Grows (Disk.single (Disk.landing cwd delivery.path) delivery.code) old new
  leads : new.resolve cwd delivery.path
    = .ok (Disk.landing cwd delivery.path, .file delivery.code)

end Delivery

/-- The text that was delivered last to a location. -/
def lastAt (cwd : Location) (deliveries : List Delivery) (location : Location) : Option String :=
  (deliveries.filter fun delivery => Disk.landing cwd delivery.path = location).getLast?.map
    Delivery.code

/-- Deliveries that are made one after the other. -/
inductive Delivers (cwd : Location) (language : Spec.Language) (config : Print.Config)
    (directory : Option Path) : Disk → List Delivery → Disk → Prop where
  | nil (disk : Disk) : Delivers cwd language config directory disk [] disk
  | cons {delivery : Delivery} {deliveries : List Delivery} {old middle new : Disk}
      (first : delivery.Makes cwd language config directory old middle)
      (rest : Delivers cwd language config directory middle deliveries new) :
      Delivers cwd language config directory old (delivery :: deliveries) new

section Specs

variable {cwd : Location} {directory path other : Path}

/-- What is generated has a name that ends with the extension of its language. -/
theorem exists_fileName_output (language : Spec.Language) (directory : Path) (name : String) :
    ∃ stem, (directory.join ⟨name ++ Generate.extension language⟩).fileName?
      = some (stem ++ Generate.extension language) := by
  obtain ⟨front, hfront⟩ :=
    Path.exists_join_text directory ⟨name ++ Generate.extension language⟩
  obtain ⟨parts, stem, hparts⟩ := Path.rawSegments_append
    (Generate.separator_notMem_extension language) (front ++ name)
  obtain ⟨htrivial, hdots⟩ := Generate.isName_fileName language stem
  rw [String.append_assoc, ← hfront] at hparts
  refine ⟨stem, ?_⟩
  rw [Path.fileName?_of_parts hparts htrivial, if_neg hdots]

/-- What is generated is no spec. -/
theorem isSpecPath_output (language : Spec.Language) (directory : Path) (name : String) :
    isSpecPath (directory.join ⟨name ++ Generate.extension language⟩) = false := by
  obtain ⟨stem, hstem⟩ := exists_fileName_output language directory name
  unfold isSpecPath Path.extension?
  rw [hstem, Option.bind_some, Bool.and_eq_false_iff, decide_eq_false_iff_not]
  exact .inl (Generate.extensionOf?_fileName language stem)

/-- Whether a path leads to a spec is a matter of where it leads. -/
theorem isSpecPath_of_landing {name : String} (hspec : isSpecPath path = true)
    (hname : other.fileName? = some name)
    (hlanding : Disk.landing cwd path = Disk.landing cwd other) : isSpecPath other = true := by
  unfold isSpecPath Path.extension? at hspec ⊢
  cases hfile : path.fileName? with
  | none =>
      rw [hfile] at hspec
      cases hspec
  | some found =>
      have hlast : (Disk.landing cwd path).getLast? = some found := Disk.getLast?_landing hfile
      rw [hlanding, Disk.getLast?_landing hname, Option.some.injEq] at hlast
      rw [hname, hlast, ← hfile]
      exact hspec

theorem isSpecPath_of_mem {entries : List (Location × Entry)} {file : SpecFile}
    (hfile : file ∈ specFiles directory entries) : isSpecPath file.path = true := by
  unfold specFiles at hfile
  rw [List.mem_mergeSort, List.mem_filterMap] at hfile
  obtain ⟨⟨names, entry⟩, -, hfile⟩ := hfile
  cases entry with
  | directory => cases hfile
  | file contents =>
      unfold specFile? at hfile
      by_cases hspec : isSpecPath (pathBelow directory names) = true
      · simp only [hspec, if_true, Option.some.injEq] at hfile
        rw [← hfile]
        exact hspec
      · simp only [hspec] at hfile
        cases hfile

end Specs

section Delivering

variable {cwd : Location} {language : Spec.Language} {config : Print.Config}
  {directory : Option Path} {deliveries : List Delivery} {old new : Disk}

/-- What is delivered later counts. -/
theorem lastAt_cons (cwd : Location) (delivery : Delivery) (deliveries : List Delivery)
    (location : Location) :
    lastAt cwd (delivery :: deliveries) location = (lastAt cwd deliveries location).or
      (Disk.single (Disk.landing cwd delivery.path) delivery.code location) := by
  unfold lastAt Disk.single
  rw [List.filter_cons]
  by_cases hlocation : Disk.landing cwd delivery.path = location
  · rw [if_pos (decide_eq_true hlocation), if_pos hlocation.symm, List.getLast?_cons]
    cases (deliveries.filter _).getLast? <;> rfl
  · rw [if_neg (by simpa using hlocation), if_neg (Ne.symm hlocation), Option.or_none]

theorem exists_of_lastAt {location : Location} {code : String}
    (h : lastAt cwd deliveries location = some code) :
    ∃ delivery ∈ deliveries, Disk.landing cwd delivery.path = location ∧ delivery.code = code := by
  unfold lastAt at h
  rw [Option.map_eq_some_iff] at h
  obtain ⟨delivery, hlast, hcode⟩ := h
  have hmem := List.mem_of_getLast? hlast
  rw [List.mem_filter, decide_eq_true_eq] at hmem
  exact ⟨delivery, hmem.1, hmem.2, hcode⟩

/-- What deliveries do to the files of a disk. -/
theorem Delivers.grows (h : Delivers cwd language config directory old deliveries new) :
    Disk.Grows (lastAt cwd deliveries) old new := by
  induction h with
  | nil disk => exact .refl disk
  | cons first _ ih =>
      have hgrows := first.grows.trans ih
      simp only [← lastAt_cons] at hgrows
      exact hgrows

/-- The path of every delivery goes on to lead to the same place, where there is
    the text that was delivered last. -/
theorem Delivers.leads (h : Delivers cwd language config directory old deliveries new) :
    ∀ delivery ∈ deliveries, ∃ code,
      lastAt cwd deliveries (Disk.landing cwd delivery.path) = some code ∧
      new.resolve cwd delivery.path = .ok (Disk.landing cwd delivery.path, .file code) := by
  induction h with
  | nil disk => exact fun delivery hmem => absurd hmem List.not_mem_nil
  | @cons _ deliveries _ _ _ first rest ih =>
      intro delivery hmem
      rw [lastAt_cons]
      rcases List.mem_cons.mp hmem with rfl | hmem
      · -- What was just written is replaced if something behind it leads there.
        refine ⟨_, ?_, rest.grows.resolve first.leads⟩
        unfold Disk.single
        rw [if_pos rfl]
        cases lastAt cwd deliveries (Disk.landing cwd delivery.path) <;> rfl
      · obtain ⟨code, hlast, hresolve⟩ := ih delivery hmem
        exact ⟨code, by rw [hlast, Option.some_or], hresolve⟩

/-- No delivery goes to where a spec is. -/
theorem Delivery.Makes.landing_ne {delivery : Delivery} {path : Path}
    (h : delivery.Makes cwd language config directory old new) (hspec : isSpecPath path = true) :
    Disk.landing cwd path ≠ Disk.landing cwd delivery.path := by
  intro hlanding
  obtain ⟨spec, name, -, -, -, hpath⟩ := h.source
  rw [hpath] at hlanding
  obtain ⟨stem, hstem⟩ := exists_fileName_output language
    (outDirFor delivery.file.path spec.outDir directory) name
  have houtput := isSpecPath_of_landing hspec hstem hlanding
  rw [isSpecPath_output] at houtput
  cases houtput

/-- Deliveries leave specs alone. -/
theorem Delivers.read_spec (h : Delivers cwd language config directory old deliveries new)
    {path : Path} (hspec : isSpecPath path = true) {text : String}
    (hread : old.read cwd path = .ok text) : new.read cwd path = .ok text := by
  induction h with
  | nil disk => exact hread
  | cons first _ ih =>
      -- The spec is not where the first delivery goes, so it can be read behind it.
      apply ih
      rw [Disk.read_eq_ok_iff] at hread ⊢
      rw [first.grows.resolve hread, Disk.single, if_neg (first.landing_ne hspec)]
      rfl

theorem Delivery.From.of_read {delivery : Delivery}
    (h : delivery.From cwd language config directory old)
    (hread : ∀ text, old.read cwd delivery.file.path = .ok text →
      new.read cwd delivery.file.path = .ok text) :
    delivery.From cwd language config directory new := by
  obtain ⟨spec, name, hload, hrest⟩ := h
  refine ⟨spec, name, ?_, hrest⟩
  cases hcontents : old.read cwd delivery.file.path with
  | error error =>
      rw [hcontents] at hload
      cases hload
  | ok text =>
      rw [hread text hcontents, ← hcontents]
      exact hload

/-- Every text is that of its spec as it is in the end. -/
theorem Delivers.source (h : Delivers cwd language config directory old deliveries new)
    (hspecs : ∀ delivery ∈ deliveries, isSpecPath delivery.file.path = true) :
    ∀ delivery ∈ deliveries, delivery.From cwd language config directory new := by
  induction h with
  | nil disk => exact fun delivery hmem => absurd hmem List.not_mem_nil
  | cons first rest ih =>
      rw [List.forall_mem_cons] at hspecs ⊢
      have hall := Delivers.cons first rest
      exact ⟨first.source.of_read fun text => hall.read_spec hspecs.1, ih hspecs.2⟩

/-- Every spec has its own text in the end exactly if specs that lead to the same
    place have the same text. -/
theorem Delivers.own_text_iff (h : Delivers cwd language config directory old deliveries new) :
    (∀ delivery ∈ deliveries, new.read cwd delivery.path = .ok delivery.code) ↔
      ∀ delivery ∈ deliveries, ∀ other ∈ deliveries,
        Disk.landing cwd delivery.path = Disk.landing cwd other.path →
        delivery.code = other.code := by
  constructor
  · -- One place holds one text.
    intro hown delivery hdelivery other hother hlanding
    have hcode := Disk.read_eq_ok_iff.mp (hown delivery hdelivery)
    have hothercode := Disk.read_eq_ok_iff.mp (hown other hother)
    obtain ⟨-, -, hentry⟩ := Disk.resolve_eq_ok_iff.mp hcode
    obtain ⟨-, -, hotherentry⟩ := Disk.resolve_eq_ok_iff.mp hothercode
    rw [hlanding, hotherentry, Option.some.injEq, Entry.file.injEq] at hentry
    exact hentry.symm
  · intro hagree delivery hdelivery
    obtain ⟨code, hlast, hresolve⟩ := h.leads delivery hdelivery
    obtain ⟨other, hother, hlanding, hcode⟩ := exists_of_lastAt hlast
    rw [Disk.read_eq_ok_iff, hresolve, hagree delivery hdelivery other hother hlanding.symm, hcode]

end Delivering

section Sessions

variable {cwd : Location} {language : Spec.Language} {config : Print.Config}
  {directory : Option Path} {session : Session} {file : SpecFile}

namespace Session

/-- Nothing has gone wrong in a run. -/
def Calm (session : Session) : Prop := session.overflow = none ∧ session.failed = 0

/-- A run after one more delivery, which has left a disk. -/
def delivered (delivery : Delivery) (disk : Disk) (session : Session) : Session :=
  { session with
    disk
    out := session.out ++ delivery.report
    emitted := session.emitted + 1 }

/-- A step of a run that emits a spec. -/
theorem emitFile_of_emit {disk after : Disk} {path : Path} {code notice : String}
    (hgoing : session.overflow = none) (hdisk : session.disk = disk)
    (h : emit (Disk.store cwd) language config (.files directory) file.path
      (disk.read cwd file.path) disk = ⟨.ok path.text, after, notice⟩) :
    session.emitFile cwd language config (.files directory) file
      = session.delivered ⟨file, path, code, notice⟩ after := by
  unfold emitFile
  rw [hgoing, hdisk, h]
  simp only [Option.isSome_none, Bool.false_eq_true, if_false, report, say, delivered,
    Delivery.report, hgoing, String.append_assoc]

/-- A step of a run after which nothing has gone wrong has made a delivery. -/
theorem emitFile_calm
    (hcalm : (session.emitFile cwd language config (.files directory) file).Calm) :
    session.Calm ∧ ∃ delivery after, delivery.file = file ∧
      delivery.Makes cwd language config directory session.disk after ∧
      session.emitFile cwd language config (.files directory) file
        = session.delivered delivery after := by
  by_cases hoverflow : session.overflow.isSome = true
  · -- The run had ended, and it had not ended well.
    rw [emitFile, if_pos hoverflow] at hcalm
    rw [hcalm.1] at hoverflow
    cases hoverflow
  have hgoing : session.overflow = none := Option.not_isSome_iff_eq_none.mp hoverflow
  cases hresult : (emit (Disk.store cwd) language config (.files directory) file.path
      (session.disk.read cwd file.path) session.disk).result with
  | error error =>
      -- Every failure is noted in one way or the other.
      rw [emitFile, if_neg hoverflow] at hcalm
      simp only [hresult] at hcalm
      unfold report at hcalm
      split at hcalm
      · rename_i heq
        cases heq
      · cases hcalm.1
      · exact absurd hcalm.2 (Nat.succ_ne_zero _)
  | ok output =>
      obtain ⟨spec, code, name, hload, hcode, hname, hemit⟩ := emit_eq_ok hresult
      rw [hemit] at hresult
      obtain ⟨after, -, location, last, hdeliver, -, -, -, hgrows, hresolve⟩ :=
        deliver_on_disk hresult
      rw [hdeliver] at hemit
      rw [Disk.landing_of_resolve hresolve] at hgrows hresolve
      have hstep : session.emitFile cwd language config (.files directory) file
          = session.delivered ⟨file, _, code, _⟩ after := emitFile_of_emit hgoing rfl hemit
      rw [hstep] at hcalm
      exact ⟨⟨hgoing, hcalm.2⟩, ⟨file, _, code, _⟩, after, rfl,
        ⟨⟨spec, name, hload, hcode, hname, rfl⟩, hgrows, hresolve⟩, hstep⟩

end Session

/-- A run without failures makes one delivery for each spec. -/
theorem delivers_of_calm {files : List SpecFile} {final : Session}
    (hrun : files.foldl (Session.emitFile cwd language config (.files directory)) session = final)
    (hcalm : final.Calm) :
    session.Calm ∧ ∃ deliveries : List Delivery, deliveries.map Delivery.file = files ∧
      Delivers cwd language config directory session.disk deliveries final.disk ∧
      final.out = session.out ++ String.join (deliveries.map Delivery.report) ∧
      final.emitted = session.emitted + deliveries.length := by
  induction files generalizing session with
  | nil =>
      rw [List.foldl_nil] at hrun
      rw [← hrun] at hcalm ⊢
      exact ⟨hcalm, [], rfl, .nil _, String.append_empty.symm, rfl⟩
  | cons file files ih =>
      rw [List.foldl_cons] at hrun
      -- What is calm in the end was calm after the first step.
      obtain ⟨hmiddle, deliveries, hfiles, hrest, hout, hemitted⟩ := ih hrun
      obtain ⟨hstart, delivery, after, hfile, hfirst, hstep⟩ := Session.emitFile_calm hmiddle
      rw [hstep] at hrest hout hemitted
      refine ⟨hstart, delivery :: deliveries, ?_, .cons hfirst hrest, ?_, ?_⟩
      · rw [List.map_cons, hfile, hfiles]
      · rw [hout, List.map_cons, String.join_cons, ← String.append_assoc]
        rfl
      · have hcount : (session.delivered delivery after).emitted = session.emitted + 1 := rfl
        rw [hemitted, hcount, List.length_cons]
        omega

end Sessions

section Runs

variable {cwd : Location} {directory : Path} {request : Request} {disk : Disk} {plan : Plan}
  {session : Session}

/-- What is printed before the first spec of a plan is emitted. -/
def Plan.opened (plan : Plan) (disk : Disk) : Session :=
  ((Session.start disk).say ("🔨 Generating " ++ plan.language.name ++ " code...")).say
    ("Found " ++ plan.files.length.repr ++ " specs")

/-- What is printed in a run in which every spec is emitted. -/
def transcript (language : Spec.Language) (deliveries : List Delivery) : String :=
  if deliveries.isEmpty then "⚠️  No spec files found" ++ "\n"
  else
    "🔨 Generating " ++ language.name ++ " code..." ++ "\n"
      ++ "Found " ++ deliveries.length.repr ++ " specs" ++ "\n"
      ++ String.join (deliveries.map Delivery.report) ++ "\n"
      ++ "✅ Generated " ++ deliveries.length.repr ++ " files successfully" ++ "\n"

/-- A plan that does not print code puts it into files, and it is about specs. -/
theorem plan_eq_ok (h : Command.plan cwd directory request disk = .ok plan)
    (hstdout : request.stdout = false) :
    (∃ override, plan.target = .files override) ∧
      ∀ file ∈ plan.files, isSpecPath file.path = true := by
  unfold Command.plan at h
  cases hlanguage : Generate.language? request.language with
  | none =>
      rw [hlanguage] at h
      cases h
  | some language =>
      simp only [hlanguage] at h
      obtain ⟨_, -, h⟩ := Disk.exists_of_bind h
      obtain ⟨config, -, h⟩ := Disk.exists_of_bind h
      split at h
      · cases h
        rw [hstdout]
        exact ⟨⟨_, rfl⟩, fun file hfile => isSpecPath_of_mem hfile⟩
      · cases h

theorem generate_of_plan (hplan : Command.plan cwd directory request disk = .ok plan) :
    generate cwd directory request disk = carryOut cwd plan disk := by
  rw [generate, hplan]

theorem conclude_of_calm (hcalm : session.Calm) :
    session.conclude = (.ok (), (session.say "").say
      ("✅ Generated " ++ session.emitted.repr ++ " files successfully")) := by
  unfold Session.conclude
  rw [hcalm.1]
  exact if_pos hcalm.2

/-- A run that ends well has gone well. -/
theorem calm_of_conclude {before : Session} (h : before.conclude = (.ok (), session)) :
    before.Calm := by
  unfold Session.conclude at h
  cases hoverflow : before.overflow with
  | some cause =>
      rw [hoverflow] at h
      cases h
  | none =>
      simp only [hoverflow] at h
      by_cases hfailed : (before.say "").failed = 0
      · exact ⟨hoverflow, hfailed⟩
      · rw [if_neg hfailed] at h
        cases h

theorem carryOut_of_files (hfiles : plan.files ≠ []) (cwd : Location) (disk : Disk) :
    carryOut cwd plan disk = (plan.files.foldl (Session.emitFile cwd plan.language plan.config
      plan.target) (plan.opened disk)).conclude := if_neg hfiles

/-- What carrying out a plan has done when it succeeds. -/
theorem carryOut_eq_ok {override : Option Path} (htarget : plan.target = .files override)
    (h : carryOut cwd plan disk = (.ok (), session)) :
    ∃ deliveries : List Delivery, deliveries.map Delivery.file = plan.files ∧
      Delivers cwd plan.language plan.config override disk deliveries session.disk ∧
      session.out = transcript plan.language deliveries ∧
      session.emitted = deliveries.length := by
  by_cases hfiles : plan.files = []
  · rw [carryOut, if_pos hfiles] at h
    cases h
    exact ⟨[], hfiles.symm, .nil disk, rfl, rfl⟩
  · rw [carryOut_of_files hfiles, htarget] at h
    -- The session only ends well if no file has failed.
    have hcalm := calm_of_conclude h
    rw [conclude_of_calm hcalm] at h
    cases h
    obtain ⟨-, deliveries, hmap, hdelivers, hout, hemitted⟩ := delivers_of_calm rfl hcalm
    have hlength : plan.files.length = deliveries.length := by
      rw [← hmap, List.length_map]
    have hcount : (plan.opened disk).emitted + deliveries.length = deliveries.length :=
      Nat.zero_add _
    have hsome : ¬ deliveries.isEmpty = true := by
      rw [List.isEmpty_iff_length_eq_zero, ← hlength, List.length_eq_zero_iff]
      exact hfiles
    refine ⟨deliveries, hmap, hdelivers, ?_, hemitted.trans hcount⟩
    rw [transcript, if_neg hsome]
    simp only [Session.say, hout, hemitted, hcount]
    simp only [Plan.opened, Session.say, Session.start, hlength, String.append_assoc,
      String.empty_append]

/-- What a run leaves behind, seen from what became of its specs. -/
structure Leaves (cwd : Location) (plan : Plan) (directory : Option Path) (disk : Disk)
    (session : Session) (deliveries : List Delivery) : Prop where
  /-- There is one delivery for each spec, in order. -/
  files : deliveries.map Delivery.file = plan.files
  /-- Every delivery has been reported. -/
  printed : session.out = transcript plan.language deliveries
  /-- Every delivery has been counted. -/
  emitted : session.emitted = deliveries.length
  /-- Every text is that of its spec. -/
  source : ∀ delivery ∈ deliveries,
    delivery.From cwd plan.language plan.config directory session.disk
  /-- The specs are what they were. -/
  specs : ∀ delivery ∈ deliveries, ∀ text, disk.read cwd delivery.file.path = .ok text →
    session.disk.read cwd delivery.file.path = .ok text
  /-- Every file on the disk is what was delivered last to its location, or what
      it was if nothing was. -/
  disk : ∀ location, session.disk.file? location
    = (lastAt cwd deliveries location).or (disk.file? location)
  /-- Every report names a file that holds what was delivered last to it. -/
  last : ∀ delivery ∈ deliveries, ∃ code,
    lastAt cwd deliveries (Disk.landing cwd delivery.path) = some code ∧
      session.disk.read cwd delivery.path = .ok code
  /-- Each of them holds the text of its own spec exactly if specs that lead to the
      same file have the same text. -/
  own : (∀ delivery ∈ deliveries, session.disk.read cwd delivery.path = .ok delivery.code) ↔
    ∀ delivery ∈ deliveries, ∀ other ∈ deliveries,
      Disk.landing cwd delivery.path = Disk.landing cwd other.path →
      delivery.code = other.code
  /-- In particular each of them does if there are as many files as specs. -/
  distinct : (deliveries.map fun delivery => Disk.landing cwd delivery.path).Nodup →
    ∀ delivery ∈ deliveries, session.disk.read cwd delivery.path = .ok delivery.code

theorem Delivers.leaves {override : Option Path} {deliveries : List Delivery}
    (hdelivers : Delivers cwd plan.language plan.config override disk deliveries session.disk)
    (hfiles : deliveries.map Delivery.file = plan.files)
    (hspecs : ∀ file ∈ plan.files, isSpecPath file.path = true)
    (hprinted : session.out = transcript plan.language deliveries)
    (hemitted : session.emitted = deliveries.length) :
    Leaves cwd plan override disk session deliveries := by
  have hpaths : ∀ delivery ∈ deliveries, isSpecPath delivery.file.path = true := by
    intro delivery hmem
    apply hspecs
    rw [← hfiles]
    exact List.mem_map_of_mem hmem
  refine {
    files := hfiles
    printed := hprinted
    emitted := hemitted
    source := hdelivers.source hpaths
    specs := fun delivery hmem text => hdelivers.read_spec (hpaths delivery hmem)
    disk := hdelivers.grows.file
    last := ?_
    own := hdelivers.own_text_iff
    distinct := ?_ }
  · intro delivery hmem
    obtain ⟨code, hlast, hresolve⟩ := hdelivers.leads delivery hmem
    exact ⟨code, hlast, Disk.read_eq_ok_iff.mpr hresolve⟩
  · intro hnodup
    rw [hdelivers.own_text_iff]
    intro delivery hdelivery other hother hlanding
    rw [List.inj_on_of_nodup_map hnodup hdelivery hother hlanding]

end Runs

/-- What is on the disk after a run that writes files and in which nothing fails:
    the file that the report on a spec names holds the text of the last spec that
    leads there, no other file has changed, and so every spec has its own text
    exactly if specs that lead to the same file have the same text. -/
theorem run_leaves_last_texts {cwd : Location} {directory : Path} {request : Request}
    {disk : Disk} {session : Session} (hstdout : request.stdout = false)
    (hrun : generate cwd directory request disk = (.ok (), session)) :
    ∃ plan override deliveries, Command.plan cwd directory request disk = .ok plan ∧
      plan.target = .files override ∧ Leaves cwd plan override disk session deliveries := by
  cases hplan : Command.plan cwd directory request disk with
  | error error =>
      rw [generate, hplan] at hrun
      cases hrun
  | ok plan =>
      rw [generate_of_plan hplan] at hrun
      obtain ⟨⟨override, htarget⟩, hspecs⟩ := plan_eq_ok hplan hstdout
      obtain ⟨deliveries, hfiles, hdelivers, hprinted, hemitted⟩ := carryOut_eq_ok htarget hrun
      exact ⟨plan, override, deliveries, rfl, htarget,
        hdelivers.leaves hfiles hspecs hprinted hemitted⟩

section Collision

/-- The spec of a class in a namespace. -/
def itemIn (space : String) : Spec := ⟨"out", ⟨some ⟨space, "Item"⟩, none⟩, []⟩

theorem text_itemIn (space : String) :
    Generate.text .php (itemIn space) .standard
      = .ok (Php.fileText "    " (Php.fileStatements ⟨space, "Item"⟩ []) ++ "\n") :=
  Generate.text_php rfl Generate.lead_standard

/-- A disk with the specs of that class in two namespaces. -/
def twoItems : Disk :=
  ⟨[(["work"], .directory), (["work", "a.json"], .file (itemIn "A").write),
    (["work", "b.json"], .file (itemIn "B").write)]⟩

/-- The same disk after a text has been generated. -/
def twoItemsWith (code : String) : Disk :=
  ⟨twoItems.entries ++ [(["work", "out"], .directory), (["work", "out", "Item.php"], .file code)]⟩

/-- A request to generate everything in the working directory. -/
def everything : Request := ⟨"php", ".", none, false, none⟩

/-- What becomes of the first spec. -/
def firstItem (code : String) : Delivery :=
  ⟨⟨["a.json"], ⟨"/work/./a.json"⟩⟩, ⟨"/work/out/Item.php"⟩, code,
    "  ⚠️ creating output directory /work/out\n"⟩

/-- What becomes of the second spec. -/
def secondItem (code : String) : Delivery :=
  ⟨⟨["b.json"], ⟨"/work/./b.json"⟩⟩, ⟨"/work/out/Item.php"⟩, code, ""⟩

theorem plan_twoItems :
    plan ["work"] ⟨"/work"⟩ everything twoItems = .ok ⟨.php, .standard, .files none,
      [⟨["a.json"], ⟨"/work/./a.json"⟩⟩, ⟨["b.json"], ⟨"/work/./b.json"⟩⟩]⟩ := by
  have hfound : (twoItems.entriesBelow ["work"]).filterMap (specFile? ⟨"/work/."⟩)
      = [⟨["a.json"], ⟨"/work/./a.json"⟩⟩, ⟨["b.json"], ⟨"/work/./b.json"⟩⟩] := rfl
  have hsorted : specFiles ⟨"/work/."⟩ (twoItems.entriesBelow ["work"])
      = [⟨["a.json"], ⟨"/work/./a.json"⟩⟩, ⟨["b.json"], ⟨"/work/./b.json"⟩⟩] := by
    unfold specFiles
    rw [hfound]
    exact List.mergeSort_of_pairwise (by decide)
  rw [← hsorted]
  rfl

variable {first second : String}

theorem emit_firstItem (hfirst : Generate.text .php (itemIn "A") .standard = .ok first) :
    emit (Disk.store ["work"]) .php .standard (.files none) ⟨"/work/./a.json"⟩
        (twoItems.read ["work"] ⟨"/work/./a.json"⟩) twoItems
      = ⟨.ok "/work/out/Item.php", twoItemsWith first,
        "  ⚠️ creating output directory /work/out\n"⟩ := by
  have hread : twoItems.read ["work"] ⟨"/work/./a.json"⟩ = .ok (itemIn "A").write := rfl
  have hname : Generate.className .php (itemIn "A") = .ok "Item" := rfl
  rw [hread, emit_of_code (load_write rfl _) hfirst hname]
  rfl

theorem emit_secondItem (hsecond : Generate.text .php (itemIn "B") .standard = .ok second) :
    emit (Disk.store ["work"]) .php .standard (.files none) ⟨"/work/./b.json"⟩
        ((twoItemsWith first).read ["work"] ⟨"/work/./b.json"⟩) (twoItemsWith first)
      = ⟨.ok "/work/out/Item.php", twoItemsWith second, ""⟩ := by
  have hread : (twoItemsWith first).read ["work"] ⟨"/work/./b.json"⟩ = .ok (itemIn "B").write := rfl
  have hname : Generate.className .php (itemIn "B") = .ok "Item" := rfl
  rw [hread, emit_of_code (load_write rfl _) hsecond hname]
  rfl

theorem foldl_twoItems {session : Session} (hgoing : session.overflow = none)
    (hdisk : session.disk = twoItems)
    (hfirst : Generate.text .php (itemIn "A") .standard = .ok first)
    (hsecond : Generate.text .php (itemIn "B") .standard = .ok second) :
    [⟨["a.json"], ⟨"/work/./a.json"⟩⟩, ⟨["b.json"], ⟨"/work/./b.json"⟩⟩].foldl
        (Session.emitFile ["work"] .php .standard (.files none)) session
      = (session.delivered (firstItem first) (twoItemsWith first)).delivered (secondItem second)
        (twoItemsWith second) := by
  have hone : session.emitFile ["work"] .php .standard (.files none)
      ⟨["a.json"], ⟨"/work/./a.json"⟩⟩ = session.delivered (firstItem first) (twoItemsWith first) :=
    Session.emitFile_of_emit hgoing hdisk (emit_firstItem hfirst)
  rw [List.foldl_cons, List.foldl_cons, List.foldl_nil, hone]
  exact Session.emitFile_of_emit hgoing rfl (emit_secondItem hsecond)

/-- The run reports both specs and leaves the text of the second. -/
theorem generate_twoItems (hfirst : Generate.text .php (itemIn "A") .standard = .ok first)
    (hsecond : Generate.text .php (itemIn "B") .standard = .ok second) :
    ∃ session, generate ["work"] ⟨"/work"⟩ everything twoItems = (.ok (), session) ∧
      session.disk = twoItemsWith second ∧ session.emitted = 2 ∧
      session.out = transcript .php [firstItem first, secondItem second] := by
  rw [generate_of_plan plan_twoItems, carryOut_of_files (List.cons_ne_nil _ _),
    foldl_twoItems rfl rfl hfirst hsecond, conclude_of_calm ⟨rfl, rfl⟩]
  refine ⟨_, rfl, rfl, rfl, ?_⟩
  simp only [Session.say, Session.delivered, Plan.opened, Session.start, transcript,
    List.isEmpty_cons, Bool.false_eq_true, if_false, List.map_cons, List.map_nil,
    String.join_cons, String.join_nil, List.length_cons, List.length_nil, String.append_assoc,
    String.empty_append, String.append_empty]

end Collision

/-- Two specs of one run that lead to the same file: there, in the end, is what was
    delivered last. -/
theorem run_leaves_last_of_twoItems :
    everything.stdout = false ∧ ∃ session, session.emitted = 2 ∧
      generate ["work"] ⟨"/work"⟩ everything twoItems = (.ok (), session) ∧
      ∃ plan override deliveries,
        Command.plan ["work"] ⟨"/work"⟩ everything twoItems = .ok plan ∧
        plan.target = .files override ∧
        Leaves ["work"] plan override twoItems session deliveries := by
  obtain ⟨session, hrun, -, hemitted, -⟩ := generate_twoItems (text_itemIn "A") (text_itemIn "B")
  exact ⟨rfl, session, hemitted, hrun, run_leaves_last_texts rfl hrun⟩

/-- Both specs of a run are reported to be in the same file, and the text of the
    first of them is not there. -/
theorem first_text_lost : ∃ first second session,
    Generate.text .php (itemIn "A") .standard = .ok first ∧
      Generate.text .php (itemIn "B") .standard = .ok second ∧
      generate ["work"] ⟨"/work"⟩ everything twoItems = (.ok (), session) ∧
      session.emitted = 2 ∧ session.out = transcript .php [firstItem first, secondItem second] ∧
      (firstItem first).path = (secondItem second).path ∧
      session.disk.read ["work"] (firstItem first).path ≠ .ok first := by
  obtain ⟨session, hrun, hdisk, hemitted, hout⟩ :=
    generate_twoItems (text_itemIn "A") (text_itemIn "B")
  refine ⟨_, _, session, text_itemIn "A", text_itemIn "B", hrun, hemitted, hout, rfl, ?_⟩
  have hkept : ∀ code,
      (twoItemsWith code).read ["work"] ⟨"/work/out/Item.php"⟩ = .ok code := fun _ => rfl
  rw [hdisk]
  intro hread
  have hsame := (hkept _).symm.trans hread
  rw [Except.ok.injEq, String.append_left_inj] at hsame
  exact absurd (Generate.namespace_of_fileText hsame) (by decide)

end Command

end ClassForge
