import ClassForge.Proofs.Print.Rounds

/-!
# What a Rendering Asks its Hooks

The account of a rendering lists calls of hooks. That every call on the list is
made shows in the records, but a call that leaves no record could have been
forgotten. It has not: a rendering depends on its hooks through the listed calls
and through nothing else. Hooks that answer these calls alike bring about the
same rendering, from the same record to the same end, and it does not matter
what they would do if they were called in any other way. This holds of
renderings that overflow as well, of which no record is left.

## Main definitions

* `Call.Agrees`, `AgreeOn`: Hooks that answer calls alike.
* `Tree.Accounted`: A rendering that makes the listed calls and no others.

## Theorems

* `Context.configure_eq_of_agrees`, `Context.child_eq_of_agrees`,
  `Context.rewrittenBy_eq_of_agrees`: The three rounds of calls.
* `Tree.render_eq_of_agrees`: A rendering depends on nothing but its calls.
* `Tree.accounted`: The account of every rendering is right and complete.
-/

namespace ClassForge

namespace Print

variable {σ μ α β : Type}

/-- Two vocabularies of hooks answer a call alike. -/
def Call.Agrees (hooks other : Hooks σ μ) (call : Call μ) : Prop :=
  match call.hook with
  | .child rule => hooks.configureChild call.middleware rule call.context
      = other.configureChild call.middleware rule call.context
  | .configure => hooks.configure call.middleware call.context
      = other.configure call.middleware call.context
  | .transform text => hooks.transform call.middleware call.context text
      = other.transform call.middleware call.context text

/-- Two vocabularies of hooks answer all calls of some rounds alike. -/
def AgreeOn (hooks other : Hooks σ μ) (rounds : List (Round μ)) : Prop :=
  ∀ round ∈ rounds, ∀ call ∈ round.calls, call.Agrees hooks other

variable {hooks other : Hooks σ μ} {kind : Kind} {trees : List Tree} {context : Context μ}
  {place : List Step} {index : Nat} {rule : Rule} {adjust : Settings → Settings} {record : σ}

theorem Rendering.run_after (effect : Effect σ α) (next : α → Rendering σ β) (record : σ) :
    (liftM effect >>= next : Rendering σ β).run.run record
      = (effect.run record).bind fun pair => (next pair.1).run.run pair.2 := by
  rw [run_liftM_bind, StateT.run_bind]
  rfl

theorem Rendering.run_lift (effect : Effect σ α) (record : σ) :
    (liftM effect : Rendering σ α).run.run record
      = (effect.run record).map fun pair => (.ok pair.1, pair.2) := by
  rw [← bind_pure (liftM effect : Rendering σ α), run_after]
  cases effect.run record <;> rfl

theorem Rendering.run_bind (rendering : Rendering σ α) (next : α → Rendering σ β) (record : σ) :
    (rendering >>= next).run.run record = (rendering.run.run record).bind fun pair =>
      match pair.1 with
      | .ok value => (next value).run.run pair.2
      | .error error => .ok (.error error, pair.2) := by
  rw [ExceptT.run_bind, StateT.run_bind]
  cases rendering.run.run record with
  | error cause => rfl
  | ok pair => rcases pair with ⟨_ | _, _⟩ <;> rfl

theorem Context.run_shownTo_cons (change : μ → Context μ → Effect σ (Change μ)) (middleware : μ)
    (middlewares : List μ) (first : Context μ) (record : σ) :
    (first.shownTo change (middleware :: middlewares)).run record
      = ((change middleware first).run record).bind fun pair =>
        ((first.apply pair.1).shownTo change middlewares).run pair.2 := by
  rw [shownTo, List.foldlM_cons, StateT.run_bind, StateT.run_bind]
  cases (change middleware first).run record <;> rfl

theorem Context.shownTo_eq_of_agrees (hook : Hook)
    {change another : μ → Context μ → Effect σ (Change μ)} {middlewares : List μ}
    {first : Context μ} (h : ∀ call ∈ frameCalls hook change middlewares first record,
      change call.middleware call.context = another call.middleware call.context) :
    (first.shownTo change middlewares).run record
      = (first.shownTo another middlewares).run record := by
  induction middlewares generalizing first record with
  | nil => rfl
  | cons middleware middlewares ih =>
      -- Whatever comes of the first call, it is among the calls of the round.
      have hfirst : change middleware first = another middleware first := by
        rw [frameCalls] at h
        split at h
        · exact h _ List.mem_cons_self
        · exact h _ List.mem_cons_self
      rw [run_shownTo_cons, run_shownTo_cons, ← hfirst]
      cases hrun : (change middleware first).run record with
      | error cause => simp only [Except.bind]
      | ok pair =>
          rw [frameCalls_cons hrun] at h
          exact ih fun call hmem => h call (List.mem_cons_of_mem _ hmem)

theorem Context.rewrittenBy_eq_of_agrees {middlewares : List μ} {text : String}
    (h : ∀ call ∈ textCalls hooks context middlewares text record, call.Agrees hooks other) :
    (context.rewrittenBy hooks middlewares text).run record
      = (context.rewrittenBy other middlewares text).run record := by
  induction middlewares generalizing text record with
  | nil => rfl
  | cons middleware middlewares ih =>
      rw [textCalls] at h
      have hfirst : hooks.transform middleware context text
          = other.transform middleware context text := h _ List.mem_cons_self
      rw [rewrittenBy, rewrittenBy, List.foldlM_cons, List.foldlM_cons, ← hfirst, StateT.run_bind,
        StateT.run_bind]
      cases hrun : (hooks.transform middleware context text).run record with
      | error cause => rfl
      | ok pair =>
          rw [hrun] at h
          exact ih fun call hmem => h call (List.mem_cons_of_mem _ hmem)

theorem Context.configure_eq_of_agrees {id : Nat}
    (h : ∀ call ∈ (configureRound hooks id place context record).calls, call.Agrees hooks other) :
    (context.configure hooks).run record = (context.configure other).run record := by
  refine shownTo_eq_of_agrees .configure fun call hmem => ?_
  have hcall := h call hmem
  rwa [Call.Agrees, (of_mem_frameCalls hmem).1] at hcall

theorem Context.child_eq_of_agrees (id : Nat) (place : List Step)
    (h : ∀ state, context.settings.generator context.state rule = .ok state →
      ∀ call ∈ (childRound hooks id place context rule state record).calls,
        call.Agrees hooks other) :
    (context.child hooks rule adjust).run record
      = (context.child other rule adjust).run record := by
  rw [run_child, run_child]
  cases hstate : context.settings.generator context.state rule with
  | error cause => simp only [Except.bind]
  | ok state =>
      have hmade : ((context.below state).shownTo
          (fun middleware frame => hooks.configureChild middleware rule frame)
          context.middlewares).run record
          = ((context.below state).shownTo
            (fun middleware frame => other.configureChild middleware rule frame)
            context.middlewares).run record := by
        refine shownTo_eq_of_agrees (.child rule) fun call hmem => ?_
        have hcall := h state hstate call hmem
        rwa [Call.Agrees, (of_mem_frameCalls hmem).1] at hcall
      rw [Except.bind, Except.bind, hmade]

/-- Asking for a child goes alike if the calls of its rounds are answered
    alike. -/
theorem renderChild_eq_of_agrees (kind : Kind)
    (hchildren : ∀ child ∈ trees, ∀ {place context record},
      AgreeOn hooks other (child.rounds hooks place context record) →
      (child.render hooks context).run.run record = (child.render other context).run.run record)
    (h : AgreeOn hooks other
      (askRounds hooks (Tree.reporters hooks trees) place context index rule adjust record)) :
    (renderChild hooks kind (Tree.renderers hooks trees) context index rule adjust).run.run record
      = (renderChild other kind (Tree.renderers other trees) context index rule adjust).run.run
        record := by
  rw [renderChild, renderChild, Tree.renderers_eq_map, Tree.renderers_eq_map, List.length_map,
    List.length_map, List.getElem?_map, List.getElem?_map]
  rw [askRounds, Tree.reporters_eq_map, List.getElem?_map] at h
  cases htree : trees[index]? with
  | none => rfl
  | some tree =>
      rw [htree] at h
      have hframe : (context.child hooks rule adjust).run record
          = (context.child other rule adjust).run record := by
        refine Context.child_eq_of_agrees tree.id place fun state hstate => ?_
        rw [hstate] at h
        exact h _ List.mem_cons_self
      change (liftM (context.child hooks rule adjust) >>= tree.render hooks).run.run record
        = (liftM (context.child other rule adjust) >>= tree.render other).run.run record
      rw [Rendering.run_after, Rendering.run_after, ← hframe]
      cases hchild : (context.child hooks rule adjust).run record with
      | error cause => simp only [Except.bind]
      | ok pair =>
          -- A frame that was made has a state, so the account goes on with the child.
          rcases Context.child_cases hchild with ⟨state, made, hstate, -, -⟩
          rw [hstate, hchild] at h
          exact hchildren tree (List.mem_of_getElem? htree)
            fun round hmem => h round (List.mem_cons_of_mem _ hmem)

theorem Layout.run_ask (hooks : Hooks σ μ) (kind : Kind) (children : List (Renderer σ μ))
    (context : Context μ) (index : Nat) (rule : Rule) (adjust : Settings → Settings)
    (next : Except PrintError String → Layout α) (record : σ) :
    ((Layout.ask index rule adjust next).run hooks kind children context).run.run record
      = ((renderChild hooks kind children context index rule adjust).run.run record).bind
        fun pair => ((next pair.1).run hooks kind children context).run.run pair.2 :=
  Rendering.run_after (renderChild hooks kind children context index rule adjust).run _ record

theorem Layout.run_eq_of_agrees {layout : Layout α} {asked : Nat}
    (hchildren : ∀ child ∈ trees, ∀ {place context record},
      AgreeOn hooks other (child.rounds hooks place context record) →
      (child.render hooks context).run.run record = (child.render other context).run.run record)
    (h : AgreeOn hooks other (layout.rounds hooks kind (Tree.renderers hooks trees)
      (Tree.reporters hooks trees) place context asked record)) :
    (layout.run hooks kind (Tree.renderers hooks trees) context).run.run record
      = (layout.run other kind (Tree.renderers other trees) context).run.run record := by
  induction layout generalizing asked record with
  | done value => rw [Layout.run, Layout.run]
  | fail error => rw [Layout.run, Layout.run]
  | overflow cause => rw [Layout.run, Layout.run]
  | ask index rule adjust next ih =>
      rw [Layout.rounds] at h
      have hasked := renderChild_eq_of_agrees kind hchildren
        fun round hmem => h round (List.mem_append_left _ hmem)
      rw [Layout.run_ask, Layout.run_ask, ← hasked]
      cases hanswer : (renderChild hooks kind (Tree.renderers hooks trees) context index rule
          adjust).run.run record with
      | error cause => simp only [Except.bind]
      | ok pair =>
          rcases pair with ⟨answer, later⟩
          simp only [hanswer] at h
          simp only [Except.bind]
          exact ih answer fun round hmem => h round (List.mem_append_right _ hmem)

/-- Hooks that answer the calls of a rendering alike bring about the same
    rendering, so no hook is called in any other way. -/
theorem Tree.render_eq_of_agrees (hooks other : Hooks σ μ) (tree : Tree) :
    ∀ {place context record}, AgreeOn hooks other (tree.rounds hooks place context record) →
      (tree.render hooks context).run.run record = (tree.render other context).run.run record := by
  induction tree using Tree.ind with
  | node id parentKind printer children ih =>
      intro place context record h
      rw [Tree.rounds, Printer.rounds] at h
      -- The first round is the frame's own, so both hooks set it up alike.
      have hframe : ((context.enter printer.kind).configure hooks).run record
          = ((context.enter printer.kind).configure other).run record :=
        Context.configure_eq_of_agrees (h _ List.mem_cons_self)
      rw [Tree.render, Tree.render, Printer.render, Printer.render, Rendering.run_after,
        Rendering.run_after, ← hframe]
      cases hconfigured : ((context.enter printer.kind).configure hooks).run record with
      | error cause => simp only [Except.bind]
      | ok pair =>
          rcases pair with ⟨frame, between⟩
          rw [hconfigured] at h
          have hmade := Layout.run_eq_of_agrees ih fun round hmem =>
            h round (List.mem_cons_of_mem _ (List.mem_append_left _ hmem))
          simp only [Except.bind]
          rw [Rendering.run_bind, Rendering.run_bind, ← hmade]
          rcases hrun : ((printer.layout _ frame.view).run hooks printer.kind
              (Tree.renderers hooks children) frame).run.run between with cause | ⟨_ | text, later⟩
          · simp only [Except.bind]
          · simp only [Except.bind]
          · -- Only a text that was made goes through the last round.
            simp only [hrun] at h
            have hfinal : (frame.transform hooks text).run later
                = (frame.transform other text).run later :=
              Context.rewrittenBy_eq_of_agrees (h _ (List.mem_cons_of_mem _
                (List.mem_append_right _ (List.mem_singleton_self _))))
            simp only [Except.bind]
            rw [Rendering.run_lift, Rendering.run_lift, hfinal]

/-- The rounds of a rendering are the calls that it makes, and all of them. -/
structure Tree.Accounted (hooks : Hooks σ μ) (tree : Tree) (context : Context μ) (record : σ) :
    Prop where
  /-- The calls leave behind the record that the rendering ends with. -/
  concluded : ∀ outcome later, (tree.render hooks context).run.run record = .ok (outcome, later) →
    Concluded hooks (tree.rounds hooks [] context record) record later
  /-- Nothing else that the hooks may do has a part in the rendering. -/
  only : ∀ other, AgreeOn hooks other (tree.rounds hooks [] context record) →
    (tree.render hooks context).run.run record = (tree.render other context).run.run record

theorem Tree.accounted (hooks : Hooks σ μ) (tree : Tree) (context : Context μ) (record : σ) :
    tree.Accounted hooks context record :=
  ⟨fun _ _ h => tree.concluded_rounds hooks h,
    fun other h => tree.render_eq_of_agrees hooks other h⟩

end Print

end ClassForge
