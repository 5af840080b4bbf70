import ClassForge.Print.Context

/-!
# Hooks

A middleware hooks into the rendering of every printer at three places: when a
child frame is made, when a printer is about to render against a frame, and
when the printer's text is done. The first two may change the settings of the
frame and install further middlewares on it; the third rewrites the text.

The lists of middlewares are read at different moments. Child frames are shown
to the middlewares of the parent frame as they stand when the child is made, a
printer's frame to those that are there before the first of them is called,
and the text to all that are there in the end. So a middleware installed while
a printer is being configured misses that round but takes part in rewriting
the printer's text.

Middlewares may keep a record. What they record survives a printing error but
not an overflow, which gives up the whole rendering.

## Main definitions

* `Effect`, `Rendering`: Computations that record and may overflow, and those
  that may also fail to print.
* `Hooks`: What the middlewares of a vocabulary do at the three places.
* `Context.child`, `Context.configure`, `Context.transform`: The three rounds
  of calls.
-/

namespace ClassForge

namespace Print

/-- A computation that keeps a record and may overflow. -/
abbrev Effect (σ : Type) := StateT σ (Except Overflow)

/-- A computation that may also fail to print. The record survives a failure. -/
abbrev Rendering (σ : Type) := ExceptT PrintError (Effect σ)

/-- What a hook makes of a frame: its new settings, and the middlewares to put
    behind those it has. A hook can never remove a middleware. A hook that puts
    another frame in the place of the one it is given, with other middlewares or
    without the frames above it, is not covered. -/
structure Change (μ : Type) where
  /-- The settings after the hook. -/
  settings : Settings
  /-- The middlewares to install, in order. -/
  install : List μ := []

/-- What the middlewares of a vocabulary `μ` do, with records of type `σ`. -/
structure Hooks (σ μ : Type) where
  /-- Called before a printer renders against the frame. -/
  configure : μ → Context μ → Effect σ (Change μ)
  /-- Called for a child frame that was just made with this rule. -/
  configureChild : μ → Rule → Context μ → Effect σ (Change μ)
  /-- Called with the text that the printer made, to rewrite it. -/
  transform : μ → Context μ → String → Effect σ String

namespace Context

variable {σ μ : Type}

/-- The context after a hook changed its frame. -/
def apply (change : Change μ) (context : Context μ) : Context μ :=
  (context.adjust fun _ => change.settings).install change.install

/-- A child frame. Its state comes from this frame's generator, every
    middleware of this frame sees it in turn, and `adjust` has the last word on
    its settings. -/
def child (hooks : Hooks σ μ) (context : Context μ) (rule : Rule)
    (adjust : Settings → Settings) : Effect σ (Context μ) := do
  let state ← context.settings.generator context.state rule
  let made ← context.middlewares.foldlM
    (fun made middleware => do return made.apply (← hooks.configureChild middleware rule made))
    (context.below state)
  return made.adjust adjust

/-- The frame after every middleware that it had before the first call has
    configured it. -/
def configure (hooks : Hooks σ μ) (context : Context μ) : Effect σ (Context μ) :=
  context.middlewares.foldlM
    (fun configured middleware => do
      return configured.apply (← hooks.configure middleware configured))
    context

/-- The text after every middleware of the frame has rewritten it in turn. -/
def transform (hooks : Hooks σ μ) (context : Context μ) (text : String) : Effect σ String :=
  context.middlewares.foldlM
    (fun text middleware => hooks.transform middleware context text) text

end Context

end Print

end ClassForge
