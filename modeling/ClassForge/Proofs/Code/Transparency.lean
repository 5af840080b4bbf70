import ClassForge.Print.Output
import ClassForge.Print.Template
import ClassForge.Proofs.Php.Written

/-!
# Quiet Middlewares among Others

None of the printers of the two grammars takes notice of the middlewares, and of
those that belong to no grammar only one could: a printer that is given by a layout
of its own can count them, as the description of a context does. So a middleware that
leaves frames and texts as they are may be put anywhere into the list of a root
frame, or be installed on any frame, and neither the outcome of printing nor what the
others are shown depends on it.

Of the middlewares of the library the trace is such a middleware, and so are the one
that does nothing and the recorder. One that installs quiet middlewares and does
nothing else is quiet as well.

## Main definitions

* `Printer.Stock`: The printers of the library and of the two grammars.
* `Middleware.Quiet`, `Journal.SameEvents`: The quiet middlewares of the library, and
  journals that agree on what the others recorded.

## Theorems

* `Middleware.undisturbed`: The middlewares of the library do not look at each other.
* `quiet_middlewares_do_not_interfere`: They make no difference to anyone else.
* `trace_shows_in_description`: Unless a printer counts them.
-/

namespace ClassForge

namespace Print

/-- The printers of the library and of the two grammars. One that is given by a
    layout of its own is among them if the layout takes no notice of the
    middlewares. -/
inductive Printer.Stock : Printer → Prop where
  | common {printer : Printer} (h : printer.Common) : Stock printer
  | highOrder {layout : Scope → View → Layout String} (h : (Printer.highOrder layout).Blind) :
      Stock (.highOrder layout)
  | php {printer : Printer} (h : Php.Own printer) : Stock printer
  | typeScript {printer : Printer} (h : TypeScript.Own printer) : Stock printer

-- All of them go by the children, and a literal by the configuration in addition.
theorem Printer.Stock.blind {printer : Printer} (h : printer.Stock) : printer.Blind := by
  cases h with
  | common h => cases h <;> exact fun _ _ => rfl
  | highOrder h => exact h
  | php h => cases h <;> exact fun _ _ => rfl
  | typeScript h => cases h <;> exact fun _ _ => rfl

section Sight

variable {μ : Type} {context other : Context μ} (hsight : context.sight = other.sight)

include hsight

theorem Context.printer_eq_of_sight : context.frame.printer = other.frame.printer :=
  congrArg (fun view : View => view.frame.printer) hsight

theorem Context.depth_eq_of_sight : context.depth = other.depth := by
  have hdepth := congrArg (fun view : View => view.enclosing.length) hsight
  rwa [sight, sight, List.length_map, List.length_map] at hdepth

theorem Context.stack_eq_of_sight : context.stack = other.stack := by
  have hstack : ∀ context : Context μ, context.stack = context.sight.stack := by
    intro context
    change _ = ((context.frame :: context.enclosing).map Frame.sight).filterMap Frame.printer
    rw [List.filterMap_map]
    rfl
  rw [hstack context, hstack other, hsight]

theorem Context.matchesKind_eq_of_sight (kind : Option String) :
    context.matchesKind kind = other.matchesKind kind := by
  cases kind with
  | none => rfl
  | some name => rw [matchesKind, matchesKind, printer_eq_of_sight hsight]

theorem Context.indentText_eq_of_sight (text : String) :
    context.indentText text = other.indentText text := by
  rw [indentText, indentText, stack_eq_of_sight hsight, lead, lead, config, config, state, state,
    settings_eq_of_sight hsight]

end Sight

/-- Journals that agree on what was recorded under other names than these. -/
def Journal.SameEvents (names : List String) (journal other : Journal) : Prop :=
  journal.events.filter (fun event => event.name ∉ names)
    = other.events.filter fun event => event.name ∉ names

/-- An effect that does not go by the record, and records the same from records that
    agree. -/
def Effect.Heedless {σ α : Type} (agree : σ → σ → Prop) (effect : Effect σ α) : Prop :=
  ∀ {record another}, agree record another →
    EndsAlike (· = ·) agree (effect.run record) (effect.run another)

namespace Middleware

/-- The middlewares of the library that leave frames and texts as they are. Recorders
    count if they have one of these names. -/
inductive Quiet (names : List String) : Middleware → Prop where
  | trace : Quiet names .trace
  | idle : Quiet names .idle
  | record {name : String} (hname : name ∈ names) : Quiet names (.record name)
  | install {middleware : Middleware} (h : Quiet names middleware) (kind : Option String) :
      Quiet names (.install middleware kind)
  | installChild {middleware : Middleware} (h : Quiet names middleware) (rule : Option Rule) :
      Quiet names (.installChild middleware rule)

variable {names : List String} {journal another : Journal} {context other : Context Middleware}

theorem sameEvents_quiet {event : Event} (hname : event.name ∈ names)
    (h : journal.SameEvents names another) : (journal.record event).SameEvents names another := by
  have hnone : [event].filter (fun event => event.name ∉ names) = [] :=
    List.filter_eq_nil_iff.mpr (List.forall_mem_singleton.mpr (by simpa using hname))
  rw [Journal.SameEvents, Journal.record, List.filter_append, hnone, List.append_nil]
  exact h

theorem sameEvents_record (event : Event) (h : journal.SameEvents names another) :
    (journal.record event).SameEvents names (another.record event) := by
  rw [Journal.SameEvents, Journal.record, Journal.record, List.filter_append, List.filter_append, h]

section Heedless

variable (names)

theorem heedless_configure (middleware : Middleware) (context : Context Middleware) :
    Effect.Heedless (Journal.SameEvents names) (configure middleware context) := by
  intro journal another h
  cases middleware with
  | record name => exact .ok rfl (sameEvents_record _ h)
  | _ => exact .ok rfl h

theorem heedless_configureChild (middleware : Middleware) (rule : Rule)
    (context : Context Middleware) :
    Effect.Heedless (Journal.SameEvents names) (configureChild middleware rule context) := by
  intro journal another h
  cases middleware with
  | record name => exact .ok rfl (sameEvents_record _ h)
  | _ => exact .ok rfl h

theorem heedless_transform (middleware : Middleware) (context : Context Middleware)
    (text : String) :
    Effect.Heedless (Journal.SameEvents names) (transform middleware context text) := by
  intro journal another h
  cases middleware with
  | record name => exact .ok rfl (sameEvents_record _ h)
  | indent =>
      change EndsAlike _ _ ((liftM (context.indentText text) : Effect Journal String).run journal)
        ((liftM (context.indentText text) : Effect Journal String).run another)
      cases context.indentText text with
      | error cause => exact .overflow cause
      | ok indented => exact .ok rfl h
  | _ => exact .ok rfl h

end Heedless

section Discreet

open Context

variable (hsight : context.sight = other.sight)

include hsight

theorem event_eq_of_sight (name : String) (moment : Moment) :
    event name moment context = event name moment other := by
  rw [event, event, printer_eq_of_sight hsight, depth_eq_of_sight hsight, state, state,
    settings_eq_of_sight hsight]

theorem configure_eq_of_sight (middleware : Middleware) :
    configure middleware context = configure middleware other := by
  cases middleware <;> simp only [configure, settings_eq_of_sight hsight,
    matchesKind_eq_of_sight hsight, event_eq_of_sight hsight, stack_eq_of_sight hsight]

theorem configureChild_eq_of_sight (middleware : Middleware) (rule : Rule) :
    configureChild middleware rule context = configureChild middleware rule other := by
  cases middleware <;>
    simp only [configureChild, settings_eq_of_sight hsight, event_eq_of_sight hsight]

theorem transform_eq_of_sight (middleware : Middleware) (text : String) :
    transform middleware context text = transform middleware other text := by
  cases middleware <;> simp only [transform, indentText_eq_of_sight hsight,
    event_eq_of_sight hsight, matchesKind_eq_of_sight hsight, printer_eq_of_sight hsight,
    depth_eq_of_sight hsight, state, settings_eq_of_sight hsight]

end Discreet

-- A hook that goes by the sight of a frame does the same in both renderings, and so it
-- remains to look at the quiet middlewares.
theorem undisturbedFrames
    {hook : Middleware → Context Middleware → Effect Journal (Change Middleware)}
    (hquiet : ∀ {middleware}, Quiet names middleware →
      LeavesFrames (Quiet names) (Journal.SameEvents names) (hook middleware))
    (hheedless : ∀ middleware context,
      Effect.Heedless (Journal.SameEvents names) (hook middleware context))
    (hsight : ∀ middleware {context other}, context.sight = other.sight →
      hook middleware context = hook middleware other) :
    UndisturbedFrames (Quiet names) (fun _ => True) (Journal.SameEvents names) hook hook where
  of_quiet := hquiet
  of_discreet := by
    intro middleware _ context other journal another hsame hjournal
    rw [hsight middleware hsame]
    refine (hheedless middleware other hjournal).imp ?_
    rintro made _ rfl
    exact ⟨rfl, Joined.refl fun _ _ => trivial⟩

/-- The middlewares of the library do not look at each other, and none of them looks
    at what was recorded. -/
theorem undisturbed (names : List String) :
    Undisturbed (Quiet names) (fun _ => True) (Journal.SameEvents names) hooks hooks where
  configure := by
    refine undisturbedFrames (fun h context journal => ?_) (heedless_configure names)
      fun middleware _ _ hsight => configure_eq_of_sight hsight middleware
    cases h with
    | record hname =>
        exact ⟨[], _, rfl, List.forall_mem_nil _, fun _ => sameEvents_quiet hname⟩
    | install h kind =>
        -- What is installed is quiet as well, since only quiet middlewares are handed on.
        refine ⟨_, _, rfl, fun installed hmem => ?_, fun _ hsame => hsame⟩
        split at hmem
        · rwa [List.mem_singleton.mp hmem]
        · exact absurd hmem List.not_mem_nil
    | _ => exact ⟨[], _, rfl, List.forall_mem_nil _, fun _ hsame => hsame⟩
  configureChild rule := by
    refine undisturbedFrames (fun h context journal => ?_)
      (fun middleware context => heedless_configureChild names middleware rule context)
      fun middleware _ _ hsight => configureChild_eq_of_sight hsight middleware rule
    cases h with
    | record hname =>
        exact ⟨[], _, rfl, List.forall_mem_nil _, fun _ => sameEvents_quiet hname⟩
    | installChild h only =>
        refine ⟨_, _, rfl, fun installed hmem => ?_, fun _ hsame => hsame⟩
        split at hmem
        · rwa [List.mem_singleton.mp hmem]
        · exact absurd hmem List.not_mem_nil
    | _ => exact ⟨[], _, rfl, List.forall_mem_nil _, fun _ hsame => hsame⟩
  quiet_transform := by
    intro middleware h context text journal
    cases h with
    | record hname => exact ⟨_, rfl, fun _ => sameEvents_quiet hname⟩
    | _ => exact ⟨_, rfl, fun _ hsame => hsame⟩
  discreet_transform := by
    intro middleware _ context other journal another text hsight hjournal
    -- Of the frame a transform only uses what is in sight, so the two frames may be exchanged.
    change EndsAlike _ _ ((transform middleware context text).run journal)
      ((transform middleware other text).run another)
    rw [transform_eq_of_sight hsight]
    exact heedless_transform names middleware other text hjournal

end Middleware

/-- Quiet middlewares make no difference to anyone else. Two renderings of a tree of
    stock printers, one with quiet middlewares in its root frame or on any frame
    below and one without, end with the same text, the same error or the same
    overflow, and with records that agree. Round by round the other middlewares are
    called alike in both: in the same order, with the same rules and texts, on frames
    with the same settings and the same printers. In particular that is so of the
    trace, of the middleware that does nothing and of recorders. -/
theorem quiet_middlewares_do_not_interfere {tree : Tree} (htree : tree.Every Printer.Stock) :
    (∀ {σ μ : Type} {quiet discreet : μ → Prop} {agree : σ → σ → Prop} {hooks plain : Hooks σ μ},
      Undisturbed quiet discreet agree hooks plain →
      ∀ {root other : Context μ} {record another : σ}, root.Beside quiet discreet other →
        agree record another →
        EndsAlike (· = ·) agree ((tree.render hooks root).run.run record)
          ((tree.render plain other).run.run another) ∧
        List.Forall₂ (Round.Beside quiet discreet) (tree.rounds hooks [] root record)
          (tree.rounds plain [] other another)) ∧
    ∀ (names : List String) {root other : Context Middleware},
      root.Beside (Middleware.Quiet names) (fun _ => True) other →
      EndsAlike (· = ·) (Journal.SameEvents names) (tree.print root) (tree.print other) := by
  have hblind : tree.Every Printer.Blind := htree.imp Printer.Stock.blind
  refine ⟨fun h root other record another hroot hrecord => ⟨?_, ?_⟩, ?_⟩
  · exact Tree.endsAlike_render h hblind hroot hrecord
  · exact Tree.beside_rounds h hblind hroot hrecord
  · intro names root other hroot
    exact Tree.endsAlike_render (Middleware.undisturbed names) hblind hroot rfl

/-- A trace, and a middleware that installs a recorder on classes, between the
    indentation of a file and a recorder of another name. -/
theorem trace_between_others_unnoticed :
    let tree := (Php.fileOutline [.classDecl "A" [.comment "b"]]).tree
    let root := Context.initial .standard
      [.indent, .trace, .install (.record "x") (some "Class"), .record "y"]
    let other := Context.initial .standard [.indent, .record "y"]
    tree.Every Printer.Stock ∧ root.Beside (Middleware.Quiet ["x"]) (fun _ => True) other ∧
      EndsAlike (· = ·) (Journal.SameEvents ["x"]) (tree.print root) (tree.print other) ∧
      List.Forall₂ (Round.Beside (Middleware.Quiet ["x"]) fun _ => True)
        (tree.rounds Middleware.hooks [] root .empty)
        (tree.rounds Middleware.hooks [] other .empty) := by
  intro tree root other
  have htree : tree.Every Printer.Stock :=
    (Php.every_construct (.file _)).tree.imp fun h => by
      cases h with
      | common h => exact .common h
      | file _ => exact .highOrder fun _ _ => rfl
      | own h => exact .php h
  have hquiet : ∀ middleware ∈ [Middleware.trace, .install (.record "x") (some "Class")],
      Middleware.Quiet ["x"] middleware :=
    List.forall_mem_cons.mpr ⟨.trace, List.forall_mem_singleton.mpr
      (.install (.record (List.mem_singleton_self _)) _)⟩
  have hroot : root.Beside (Middleware.Quiet ["x"]) (fun _ => True) other :=
    Context.beside_insert _ none [] [.indent] [.record "y"] (fun _ _ => trivial) hquiet
  rcases quiet_middlewares_do_not_interfere htree with ⟨hany, hlibrary⟩
  exact ⟨htree, hroot, hlibrary ["x"] hroot,
    (hany (Middleware.undisturbed ["x"]) hroot rfl).2⟩

/-- A printer that describes its context shows how many middlewares there are, and
    with them a trace that does nothing to frames and texts. -/
theorem trace_shows_in_description :
    let tree := Tree.node 0 none (.template [.info .context]) []
    Middleware.Quiet [] .trace ∧
      (tree.print (.initial .standard [.trace])).map Prod.fst
        ≠ (tree.print (.initial .standard [])).map Prod.fst := by
  refine ⟨.trace, fun h => ?_⟩
  have htexts := Except.ok.inj (Except.ok.inj h)
  revert htexts
  decide +kernel

end Print

end ClassForge
