import ClassForge.Print.Indent
import ClassForge.Print.State
import ClassForge.Print.Error

/-!
# Frames and Contexts

A printer renders against a frame: the settings in force, the middlewares that
watch it, and the kind of the printer itself once it is known. The frames of
the printers above it are kept alongside, nearest first, so that a context
mirrors the way from a printer up to the root of its tree.

A child frame starts as a copy of its parent's. Whatever is changed on it
afterwards is invisible to the parent and to every sibling.

## Main definitions

* `Kind`: The shapes of printers that a middleware can tell apart.
* `Settings`: Configuration, state generator and state of a frame.
* `Frame`, `Context`: A frame, and a frame with the frames above it.
* `View`: A context whose middlewares can only be counted.
* `RootPlan`: A root frame under construction.
-/

namespace ClassForge

namespace Print

/-- The shapes of printers that a middleware can tell apart. -/
inductive Kind where
  /-- The printer of a grammar node with this name. -/
  | node (name : String)
  /-- A printer that only forwards its single child. -/
  | passThrough
  /-- A printer that combines the texts of its children. -/
  | join
  /-- Sibling statements, one after the other. -/
  | statementSequence
  /-- A printer given by a layout of its own. -/
  | highOrder
  deriving DecidableEq

/-- The name a kind goes by in error texts and traces. -/
def Kind.name : Kind → String
  | .node name => name
  | .passThrough => "PassThrough"
  | .join => "Join"
  | .statementSequence => "StatementSequence"
  | .highOrder => "HighOrder"

/-- What governs the text of a frame. -/
structure Settings where
  /-- The printing configuration. -/
  config : Config
  /-- How the states of child frames are made. -/
  generator : StateGenerator
  /-- The indentation state. -/
  state : IndentState

/-- The same settings at another level count. -/
def Settings.withSize (size : Size) (settings : Settings) : Settings :=
  { settings with state := { settings.state with size } }

/-- One frame: its settings, the middlewares that watch it in calling order,
    and the kind of the printer that renders against it. -/
structure Frame (μ : Type) where
  /-- What governs the text. -/
  settings : Settings
  /-- The middlewares, in the order in which they are called. -/
  middlewares : List μ
  /-- The kind of the printer, once it has been entered. -/
  printer : Option Kind

/-- A frame together with the frames above it, nearest first. -/
structure Context (μ : Type) where
  /-- The frame in use. -/
  frame : Frame μ
  /-- The frames above it, nearest first. -/
  enclosing : List (Frame μ)

/-- A context whose middlewares can only be counted. This is all a printer is
    shown, so that printers do not depend on what a middleware is. -/
abbrev View := Context Unit

namespace Context

variable {μ : Type}

/-- A root frame with the standard state generator and the initial state. -/
def initial (config : Config) (middlewares : List μ) : Context μ :=
  ⟨⟨⟨config, .standard, .initial⟩, middlewares, none⟩, []⟩

/-- The settings in force. -/
def settings (context : Context μ) : Settings := context.frame.settings

/-- The configuration in force. -/
def config (context : Context μ) : Config := context.settings.config

/-- The state in force. -/
def state (context : Context μ) : IndentState := context.settings.state

/-- The middlewares that watch the frame. -/
def middlewares (context : Context μ) : List μ := context.frame.middlewares

/-- How many frames stand above this one. -/
def depth (context : Context μ) : Nat := context.enclosing.length

/-- The kinds of the printers from this frame up to the root. A frame that no
    printer has entered yet contributes nothing. -/
def stack (context : Context μ) : List Kind :=
  (context.frame :: context.enclosing).filterMap Frame.printer

/-- The leading text of the frame's level. -/
def lead (context : Context μ) : Except Overflow String :=
  context.config.indent.process context.state.size

/-- The context after its settings went through a function. -/
def adjust (change : Settings → Settings) (context : Context μ) : Context μ :=
  { context with frame := { context.frame with settings := change context.settings } }

/-- The context with more middlewares behind those it has. -/
def install (added : List μ) (context : Context μ) : Context μ :=
  { context with frame := { context.frame with middlewares := context.middlewares ++ added } }

/-- The context once a printer of this kind renders against it. -/
def enter (kind : Kind) (context : Context μ) : Context μ :=
  { context with frame := { context.frame with printer := some kind } }

/-- A fresh frame below this one: the same settings but for the state, the same
    middlewares, and no printer yet. -/
def below (state : IndentState) (context : Context μ) : Context μ :=
  ⟨⟨{ context.settings with state }, context.middlewares, none⟩,
    context.frame :: context.enclosing⟩

/-- The context one frame up; the root is its own parent. -/
def up (context : Context μ) : Context μ :=
  match context.enclosing with
  | [] => context
  | frame :: enclosing => ⟨frame, enclosing⟩

/-- What a printer gets to see of the context. -/
def view (context : Context μ) : View :=
  let hide (frame : Frame μ) : Frame Unit :=
    ⟨frame.settings, frame.middlewares.map fun _ => (), frame.printer⟩
  ⟨hide context.frame, context.enclosing.map hide⟩

end Context

/-- A root frame under construction. The configuration and the middlewares have
    to be given; the rest has defaults. -/
structure RootPlan (μ : Type) where
  /-- The printing configuration. -/
  config : Option Config := none
  /-- The middlewares. -/
  middlewares : Option (List μ) := none
  /-- The state generator, the standard one unless given. -/
  generator : Option StateGenerator := none
  /-- The state, the initial one unless given. -/
  state : Option IndentState := none

namespace RootPlan

variable {μ : Type}

/-- The plan with one more middleware; the first one starts the list. -/
def withMiddleware (middleware : μ) (plan : RootPlan μ) : RootPlan μ :=
  { plan with middlewares := some (plan.middlewares.getD [] ++ [middleware]) }

/-- The planned root frame. A missing configuration is noticed before missing
    middlewares. -/
def build (plan : RootPlan μ) : Except PrintError (Context μ) :=
  match plan.config, plan.middlewares with
  | none, _ => .error (.missingRoot .config)
  | some _, none => .error (.missingRoot .middlewares)
  | some config, some middlewares =>
    .ok ((Context.initial config middlewares).adjust fun settings =>
      { settings with
        generator := plan.generator.getD settings.generator
        state := plan.state.getD settings.state })

end RootPlan

end Print

end ClassForge
