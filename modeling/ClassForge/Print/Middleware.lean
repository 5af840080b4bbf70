import ClassForge.Text.Lines
import ClassForge.Text.Quoted
import ClassForge.Print.Hooks

/-!
# Middlewares

The middlewares that come with the library. Two of them are what a generator
uses: one indents sequences of statements, the other notes every rendered
printer. The others configure frames, install further middlewares, rewrite
texts or record every call, and are there to watch and to bend a rendering
without writing a printer.

A sequence of statements is indented as a whole, when its text is complete.
Since the text of an inner sequence has been indented before it becomes part
of an outer one, levels add up without any printer knowing its depth.

## Main definitions

* `Event`, `Rendered`: A recorded call, and a note of a rendered printer.
* `Journal`: Everything recorded so far.
* `Middleware`: The vocabulary.
* `Middleware.hooks`: What each of them does.
-/

namespace ClassForge

namespace Print

/-- The place at which a hook was called, with what only that place has. -/
inductive Moment where
  /-- Before a printer renders; the kinds from the printer up to the root. -/
  | configure (stack : List Kind)
  /-- For a child frame made with this rule. -/
  | child (rule : Rule)
  /-- With the text that the printer made. -/
  | transform (text : String)
  deriving DecidableEq

/-- A recorded call of a hook. -/
structure Event where
  /-- The name of the middleware that recorded it. -/
  name : String
  /-- The place of the call. -/
  moment : Moment
  /-- The kind of the frame's printer, once entered. -/
  kind : Option Kind
  /-- The number of frames above. -/
  depth : Nat
  /-- The level count. -/
  size : Size
  /-- The number of ancestors of the state. -/
  level : Nat
  deriving DecidableEq

/-- A note of a printer whose text is done. -/
structure Rendered where
  /-- The kind of the printer, if the frame has one. -/
  kind : Option Kind
  /-- The number of frames above. -/
  depth : Nat
  /-- The level count. -/
  size : Size
  /-- The number of ancestors of the state. -/
  level : Nat
  /-- The length of the text in bytes. -/
  length : Nat
  deriving DecidableEq

/-- The line that reports a rendered printer. -/
def Rendered.line (rendered : Rendered) : String :=
  "TRACE rendered node printer=" ++ Text.quoted ((rendered.kind.map Kind.name).getD "<none>")
    ++ " depth=" ++ rendered.depth.repr ++ " indent=" ++ rendered.size.toNat.repr
    ++ " level=" ++ rendered.level.repr ++ " len=" ++ rendered.length.repr

/-- Everything that middlewares have recorded, oldest first. -/
structure Journal where
  /-- The recorded calls. -/
  events : List Event
  /-- The notes of rendered printers. -/
  rendered : List Rendered
  deriving DecidableEq

namespace Journal

/-- Nothing recorded yet. -/
def empty : Journal := ⟨[], []⟩

/-- The journal with one more call. -/
def record (event : Event) (journal : Journal) : Journal :=
  { journal with events := journal.events ++ [event] }

/-- The journal with one more note. -/
def note (rendered : Rendered) (journal : Journal) : Journal :=
  { journal with rendered := journal.rendered ++ [rendered] }

end Journal

/-- The vocabulary of middlewares. A `kind` restricts an effect to frames whose
    printer has a kind of that name, a `rule` to child frames made with exactly
    that rule. -/
inductive Middleware where
  /-- Indents the text of every sequence of statements. -/
  | indent
  /-- Notes every rendered printer. -/
  | trace
  /-- Does nothing. -/
  | idle
  /-- Records every call under a name. -/
  | record (name : String)
  /-- Sets the level count of a frame. -/
  | setSize (size : Size) (kind : Option String)
  /-- Installs a middleware on a frame. -/
  | install (middleware : Middleware) (kind : Option String)
  /-- Sets the configuration of a frame. -/
  | setConfig (config : Config) (kind : Option String)
  /-- Sets the state generator of a frame. -/
  | setGenerator (generator : StateGenerator) (kind : Option String)
  /-- Sets the level count of a child frame. -/
  | setChildSize (size : Size) (rule : Option Rule)
  /-- Installs a middleware on a child frame. -/
  | installChild (middleware : Middleware) (rule : Option Rule)
  /-- Puts a text behind every text. -/
  | append (text : String) (kind : Option String)
  /-- Puts a text in front of every text. -/
  | prepend (text : String) (kind : Option String)

/-- Whether an effect restricted to a kind of printer applies to a frame. A
    frame that no printer has entered matches no kind. -/
def Context.matchesKind {μ : Type} (context : Context μ) : Option String → Bool
  | none => true
  | some name => context.frame.printer.map Kind.name == some name

/-- Whether an effect restricted to a rule applies to a child frame. -/
def Rule.allowedBy (rule : Rule) (only : Option Rule) : Bool :=
  only.all (· = rule)

/-- The text of a frame's printer, indented if the nearest printer is a sequence
    of statements. The leading text is computed before it is known whether
    there is anything to lead. -/
def Context.indentText {μ : Type} (context : Context μ) (text : String) :
    Except Overflow String :=
  if context.stack.head? = some .statementSequence then
    context.lead.map fun lead => Text.leadLines lead text
  else .ok text

namespace Middleware

/-- The record of a call. -/
def event (name : String) (moment : Moment) (context : Context Middleware) : Event :=
  ⟨name, moment, context.frame.printer, context.depth, context.state.size, context.state.level⟩

/-- What a middleware makes of a frame before its printer renders. -/
def configure (middleware : Middleware) (context : Context Middleware) :
    Effect Journal (Change Middleware) := do
  let settings := context.settings
  match middleware with
  | .record name =>
    modify (Journal.record (event name (.configure context.stack) context))
    return ⟨settings, []⟩
  | .setSize size kind =>
    return ⟨if context.matchesKind kind then settings.withSize size else settings, []⟩
  | .install middleware kind =>
    return ⟨settings, if context.matchesKind kind then [middleware] else []⟩
  | .setConfig config kind =>
    return ⟨if context.matchesKind kind then { settings with config } else settings, []⟩
  | .setGenerator generator kind =>
    return ⟨if context.matchesKind kind then { settings with generator } else settings, []⟩
  | _ => return ⟨settings, []⟩

/-- What a middleware makes of a child frame that was just made. -/
def configureChild (middleware : Middleware) (rule : Rule) (context : Context Middleware) :
    Effect Journal (Change Middleware) := do
  let settings := context.settings
  match middleware with
  | .record name =>
    modify (Journal.record (event name (.child rule) context))
    return ⟨settings, []⟩
  | .setChildSize size only =>
    return ⟨if rule.allowedBy only then settings.withSize size else settings, []⟩
  | .installChild middleware only =>
    return ⟨settings, if rule.allowedBy only then [middleware] else []⟩
  | _ => return ⟨settings, []⟩

/-- What a middleware makes of the text of a printer. -/
def transform (middleware : Middleware) (context : Context Middleware) (text : String) :
    Effect Journal String := do
  match middleware with
  | .indent => context.indentText text
  | .trace =>
    modify (Journal.note
      ⟨context.frame.printer, context.depth, context.state.size, context.state.level,
        text.utf8ByteSize⟩)
    return text
  | .record name =>
    modify (Journal.record (event name (.transform text) context))
    return text
  | .append added kind => return if context.matchesKind kind then text ++ added else text
  | .prepend added kind => return if context.matchesKind kind then added ++ text else text
  | _ => return text

/-- What the middlewares of the vocabulary do. -/
def hooks : Hooks Journal Middleware := ⟨configure, configureChild, transform⟩

end Middleware

end Print

end ClassForge
