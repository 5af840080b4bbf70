import ClassForge.Proofs.Print.Agreement
import ClassForge.Proofs.Print.Watched

/-!
# Levels of Frames

With indentation and the trace on every frame, nothing but the printers decides
about levels: a printer asks for some of its children one level deep and for all the
others at the level in force. Depth does not add up. A body inside a body is one
level deep again, because its text is indented once more when the outer body is done,
and so a level is either that of the root frame or one.

Which children are asked for one level deep is a question of the kind of a printer
and of the index of the child. Given an answer, `Tree.deep` tells the level of every
frame from its place alone.

## Main definitions

* `AsksFor`, `Layout.Deepens`, `Printer.Deepens`: Asking for children at the right
  level.
* `Tree.deep`: Whether a way down a tree passes a child that is one level deep.
* `Context.Levelled`: A frame at a level, whose state has as many ancestors as the
  frame.

## Theorems

* `Context.Levelled.child`: The levels of child frames.
* `Tree.levelled_rounds`: The levels of all frames of a rendering.
-/

namespace ClassForge

namespace Print

variable {α β : Type}

/-- How a child is asked for, one level deep or not. -/
inductive AsksFor : (deep : Bool) → Rule → (Settings → Settings) → Prop where
  | same : AsksFor false .keep fun same => same
  | forced : AsksFor true .keep (Settings.withSize 1)
  | deeper : AsksFor true (.indentTo 1) fun same => same

namespace Layout

/-- A plan that asks for the children at these indices one level deep, and for all
    others at the level in force. -/
inductive Deepens (opens : Nat → Bool) : Layout α → Prop where
  | done (value : α) : Deepens opens (.done value)
  | fail (error : PrintError) : Deepens opens (.fail error)
  | overflow (cause : Overflow) : Deepens opens (.overflow cause)
  | ask {index : Nat} {rule : Rule} {adjust : Settings → Settings}
      {next : Except PrintError String → Layout α} (hasks : AsksFor (opens index) rule adjust)
      (hnext : ∀ answer, Deepens opens (next answer)) : Deepens opens (.ask index rule adjust next)

variable {opens : Nat → Bool}

theorem Deepens.bind {layout : Layout α} (h : layout.Deepens opens) {next : α → Layout β}
    (hnext : ∀ value, (next value).Deepens opens) : (layout.bind next).Deepens opens := by
  induction h with
  | done value => exact hnext value
  | fail error => exact .fail error
  | overflow cause => exact .overflow cause
  | ask hasks _ ih => exact .ask hasks ih

theorem deepens_ofExcept (result : Except PrintError α) : (ofExcept result).Deepens opens := by
  cases result with
  | ok value => exact .done value
  | error error => exact .fail error

theorem deepens_ofSize (result : Except Overflow α) : (ofSize result).Deepens opens := by
  cases result with
  | ok value => exact .done value
  | error cause => exact .overflow cause

theorem deepens_expect (scope : Scope) (count : Nat) : (scope.expect count).Deepens opens := by
  unfold Scope.expect
  split
  · exact .done ()
  · exact .fail _

theorem deepens_child {index : Nat} {rule : Rule} {adjust : Settings → Settings}
    (hasks : AsksFor (opens index) rule adjust) : (child index rule adjust).Deepens opens :=
  .ask hasks deepens_ofExcept

theorem deepens_childrenFrom (start count : Nat) :
    (childrenFrom (fun same => same) start count).Deepens fun _ => false := by
  induction count generalizing start with
  | zero => exact .done []
  | succ count ih =>
      exact (deepens_child .same).bind fun text => (ih (start + 1)).bind fun texts =>
        .done (text :: texts)

theorem deepens_texts (scope : Scope) : scope.texts.Deepens fun _ => false :=
  deepens_childrenFrom 0 scope.children.length

end Layout

/-- A printer that asks for its children at the level that belongs to them. -/
def Printer.Deepens (opens : Kind → Nat → Bool) (printer : Printer) : Prop :=
  ∀ (scope : Scope) (view : View), (printer.layout scope view).Deepens (opens printer.kind)

/-- Whether a way down a tree passes a child that is one level deep. -/
def Tree.deep (opens : Kind → Nat → Bool) : Tree → List Nat → Bool
  | _, [] => false
  | .node _ _ printer children, index :: way =>
    opens printer.kind index ||
      match children[index]? with
      | some child => child.deep opens way
      | none => false

/-- A frame that is watched by indentation and the trace, at a level. Its state has
    as many ancestors as there are frames above it. -/
structure Context.Levelled (config : Config) (size : Size) (context : Context Middleware) :
    Prop extends context.Watched .usual config where
  size_eq : context.state.size = size
  level_eq : context.state.level = context.depth

section Frames

variable {config : Config} {size : Size} {context : Context Middleware} {rule : Rule}
  {adjust : Settings → Settings} {state : IndentState} {deep : Bool}

theorem Context.levelled_initial (config : Config) :
    (initial config [Middleware.indent, .trace]).Levelled config 0 :=
  ⟨watched_initial .usual config, rfl, rfl⟩

theorem Context.Levelled.enter (h : context.Levelled config size) (kind : Kind) :
    (context.enter kind).Levelled config size :=
  ⟨h.toWatched.enter kind, h.size_eq, h.level_eq⟩

theorem Context.Levelled.below (h : context.Levelled config size) {found : Size} :
    (context.below ⟨found, context.state.chain⟩).Levelled config found where
  config_eq := h.config_eq
  generator_eq := h.generator_eq
  middlewares_eq := h.middlewares_eq
  size_eq := rfl
  level_eq := congrArg Nat.succ h.level_eq

theorem Context.Levelled.withSize (h : context.Levelled config size) (found : Size) :
    (context.adjust (Settings.withSize found)).Levelled config found :=
  ⟨⟨h.config_eq, h.generator_eq, h.middlewares_eq⟩, rfl, h.level_eq⟩

/-- A child frame before and after the printer that asked for it has adjusted it. -/
theorem Context.Levelled.child (h : context.Levelled config size) (hasks : AsksFor deep rule adjust)
    (hstate : context.settings.generator context.state rule = .ok state) :
    (∃ found, (context.below state).Levelled config found ∧ (found = size ∨ found = 1)) ∧
      ((context.below state).adjust adjust).Levelled config (if deep then 1 else size) := by
  have hkept : (context.below context.state.derive).Levelled config size := by
    rw [← h.size_eq]
    exact h.below
  rw [h.generator_eq] at hstate
  cases hasks with
  | same =>
      cases hstate
      exact ⟨⟨size, hkept, .inl rfl⟩, hkept⟩
  | forced =>
      -- The rule keeps the level, and only the adjustment sets it.
      cases hstate
      exact ⟨⟨size, hkept, .inl rfl⟩, hkept.withSize 1⟩
  | deeper =>
      cases hstate
      exact ⟨⟨1, h.below, .inr rfl⟩, h.below⟩

/-- A round in which somebody is called and everybody is shown one frame. -/
def Round.Shows {μ : Type} (round : Round μ) (frame : Context μ) : Prop :=
  round.calls ≠ [] ∧ ∀ call ∈ round.calls, call.context = frame

section Shown

variable {hooks : Middleware → Context Middleware → Effect Journal (Change Middleware)}
  (hindent : ∀ frame, hooks .indent frame = pure ⟨frame.settings, []⟩)
  (htrace : ∀ frame, hooks .trace frame = pure ⟨frame.settings, []⟩)

include hindent htrace

-- Neither of the two middlewares changes a frame, so both are shown the same one.
theorem Context.Watched.shownTo (h : context.Watched .usual config) (frame : Context Middleware)
    (record : Journal) :
    (frame.shownTo hooks context.middlewares).run record = .ok (frame, record) := by
  rw [h.middlewares_eq, Watchers.middlewares_usual, run_shownTo_cons, hindent]
  change ((frame.apply ⟨frame.settings, []⟩).shownTo hooks [.trace]).run record = _
  rw [apply_same, run_shownTo_cons, htrace]
  change Except.ok (frame.apply ⟨frame.settings, []⟩, record) = _
  rw [apply_same]

theorem Context.Watched.frameCalls_eq (h : context.Watched .usual config) (hook : Hook)
    (frame : Context Middleware) (record : Journal) :
    frameCalls hook hooks context.middlewares frame record
      = [⟨hook, .indent, frame, []⟩, ⟨hook, .trace, frame, []⟩] := by
  have hrun : ∀ middleware, (∀ frame, hooks middleware frame = pure ⟨frame.settings, []⟩) →
      (hooks middleware frame).run record = .ok (⟨frame.settings, []⟩, record) := by
    intro middleware hsame
    rw [hsame]
    rfl
  rw [h.middlewares_eq, Watchers.middlewares_usual, frameCalls_cons (hrun _ hindent), apply_same,
    frameCalls_cons (hrun _ htrace)]
  rfl

end Shown

theorem Context.Watched.shows_configureRound (h : context.Watched .usual config) (id : Nat)
    (place : List Step) (record : Journal) :
    (configureRound Middleware.hooks id place context record).Shows context := by
  have hcalls : (configureRound Middleware.hooks id place context record).calls = _ :=
    h.frameCalls_eq (fun _ => rfl) (fun _ => rfl) .configure context record
  rw [Round.Shows, hcalls]
  exact ⟨List.cons_ne_nil _ _,
    List.forall_mem_cons.mpr ⟨rfl, List.forall_mem_singleton.mpr rfl⟩⟩

theorem Context.Watched.shows_childRound (h : context.Watched .usual config) (id : Nat)
    (place : List Step) (rule : Rule) (state : IndentState) (record : Journal) :
    (childRound Middleware.hooks id place context rule state record).Shows
      (context.below state) := by
  have hcalls : (childRound Middleware.hooks id place context rule state record).calls = _ :=
    h.frameCalls_eq (fun _ => rfl) (fun _ => rfl) (.child rule) (context.below state) record
  rw [Round.Shows, hcalls]
  exact ⟨List.cons_ne_nil _ _,
    List.forall_mem_cons.mpr ⟨rfl, List.forall_mem_singleton.mpr rfl⟩⟩

theorem Context.Watched.shows_transformRound (h : context.Watched .usual config) (id : Nat)
    (place : List Step) (text : String) (record : Journal) :
    (transformRound Middleware.hooks id place context text record).Shows context := by
  refine ⟨?_, fun call hcall => (of_mem_textCalls hcall).2⟩
  rw [transformRound, h.middlewares_eq]
  exact List.cons_ne_nil _ _

end Frames

section Rounds

variable {config : Config} {opens : Kind → Nat → Bool}

theorem Layout.Deepens.mem_rounds {layout : Layout α} {opened : Nat → Bool}
    (h : layout.Deepens opened) {hooks : Hooks Journal Middleware} {kind : Kind}
    {children : List (Renderer Journal Middleware)}
    {reporters : List (Nat × Reporter Journal Middleware)} {place : List Step}
    {context : Context Middleware} {asked : Nat} {record : Journal} {round : Round Middleware}
    (hmem : round ∈ layout.rounds hooks kind children reporters place context asked record) :
    ∃ number index rule adjust between, AsksFor (opened index) rule adjust ∧
      round ∈ askRounds hooks reporters (place ++ [⟨number, index⟩]) context index rule adjust
        between := by
  induction h generalizing asked record with
  | done | fail | overflow => exact absurd hmem List.not_mem_nil
  | ask hasks _ ih =>
      rw [Layout.rounds] at hmem
      rcases List.mem_append.mp hmem with hmem | hmem
      · exact ⟨_, _, _, _, _, hasks, hmem⟩
      · split at hmem
        · exact absurd hmem List.not_mem_nil
        · exact ih _ hmem

/-- What is known of the frame of a round, from a tree that is rendered against a
    frame of level `size` at a place. A frame that is still being made may have the
    level of the frame above it. -/
def Round.Levelled (opens : Kind → Nat → Bool) (config : Config) (tree : Tree) (place : List Step)
    (size : Size) (round : Round Middleware) : Prop :=
  ∃ way frame found, round.place = place ++ way ∧ round.Shows frame ∧
    frame.Levelled config found ∧ (found = size ∨ found = 1) ∧
    (round.stage ≠ .child → found = if tree.deep opens (way.map Step.index) then 1 else size)

/-- The rounds of a child are rounds of the tree it is in. -/
theorem Round.Levelled.of_child {round : Round Middleware} {id : Nat} {parentKind : Option Kind}
    {printer : Printer} {children : List Tree} {child : Tree} {place : List Step} {step : Step}
    {size : Size} (hchild : children[step.index]? = some child)
    (h : round.Levelled opens config child (place ++ [step])
      (if opens printer.kind step.index then 1 else size)) :
    round.Levelled opens config (.node id parentKind printer children) place size := by
  rcases h with ⟨way, frame, found, hplace, hshows, hlevelled, hbounds, hexact⟩
  refine ⟨step :: way, frame, found, ?_, hshows, hlevelled, ?_, fun hstage => ?_⟩
  · rw [hplace, List.append_assoc]
    rfl
  · rcases hbounds with rfl | rfl
    · cases opens printer.kind step.index
      · exact .inl rfl
      · exact .inr rfl
    · exact .inr rfl
  · -- A body inside a body is one level deep as well, not two.
    rw [hexact hstage, List.map_cons, Tree.deep, hchild]
    cases opens printer.kind step.index <;> simp

/-- The frames of a rendering are one level deep below the children that are asked for
    one level deep, and have the level of the first frame everywhere else. -/
theorem Tree.levelled_rounds {tree : Tree} (h : tree.Every (Printer.Deepens opens)) :
    ∀ {place size context record}, context.Levelled config size →
      ∀ round ∈ tree.rounds Middleware.hooks place context record,
        round.Levelled opens config tree place size := by
  induction h with
  | @node id parentKind printer children hprinter _ ih =>
      intro place size context record hcontext round hmem
      -- Configuring changes nothing, so the plan and the last round have the frame that
      -- was entered.
      have hentered := hcontext.enter printer.kind
      have hconfigured : ((context.enter printer.kind).configure Middleware.hooks).run record
          = .ok (context.enter printer.kind, record) :=
        hentered.shownTo (fun _ => rfl) (fun _ => rfl) _ record
      rw [Tree.rounds, Printer.rounds, hconfigured] at hmem
      rcases List.mem_cons.mp hmem with rfl | hmem
      · exact ⟨[], _, size, (List.append_nil place).symm, hentered.shows_configureRound _ _ _,
          hentered, .inl rfl, fun _ => rfl⟩
      rcases List.mem_append.mp hmem with hmem | hmem
      · rcases (hprinter _ _).mem_rounds hmem with
          ⟨number, index, rule, adjust, before, hasks, hmem⟩
        rcases mem_askRounds hmem with ⟨child, state, hchild, hstate, hround⟩
        rcases hentered.child hasks hstate with ⟨⟨made, hbelow, hmade⟩, hadjusted⟩
        rcases hround with rfl | ⟨shown, later, hshown, hmem⟩
        · -- The printer that asked has not had the last word on the level yet.
          exact ⟨[⟨number, index⟩], _, made, rfl, hentered.shows_childRound _ _ _ _ _, hbelow,
            hmade, fun hstage => absurd rfl hstage⟩
        · rw [hentered.shownTo (fun _ => rfl) fun _ => rfl] at hshown
          cases hshown
          exact .of_child hchild (ih child (List.mem_of_getElem? hchild) hadjusted round hmem)
      · split at hmem
        · rw [List.mem_singleton.mp hmem]
          exact ⟨[], _, size, (List.append_nil place).symm, hentered.shows_transformRound _ _ _ _,
            hentered, .inl rfl, fun _ => rfl⟩
        · exact absurd hmem List.not_mem_nil

end Rounds

end Print

end ClassForge
