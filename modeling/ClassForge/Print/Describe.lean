import ClassForge.Text.Quoted
import ClassForge.Print.Context

/-!
# Describing a Context

A one-line description of a context for diagnostics: its depth, configuration,
number of middlewares, chain of states and printer.

## Main definitions

* `Context.describe`: The description.
-/

namespace ClassForge

namespace Print

/-- A named record with fields, as a description shows it. -/
def describeRecord (name : String) (fields : List (String × String)) : String :=
  name ++ " \x7b " ++ ", ".intercalate (fields.map fun (label, value) => label ++ ": " ++ value)
    ++ " \x7d"

/-- The description of something that may be missing. -/
def describeOption : Option String → String
  | none => "None"
  | some value => "Some(" ++ value ++ ")"

namespace IndentStyle

/-- The description of a style. -/
def describe (style : IndentStyle) : String :=
  describeRecord "IndentStyle"
    [("filler", Text.quoted style.filler), ("span", style.span.toNat.repr)]

end IndentStyle

namespace Indent

/-- The description of an indent. -/
def describe (indent : Indent) : String :=
  describeRecord "Indent"
    [("size", indent.size.toNat.repr), ("style", indent.style.describe)]

end Indent

namespace Config

/-- The description of a configuration. -/
def describe (config : Config) : String :=
  describeRecord "PrinterConfig" [("indent", config.indent.describe)]

end Config

namespace IndentState

/-- The description of a state with these ancestors. -/
def describeChain (size : Size) : List Size → String
  | [] => describeLink none size
  | above :: ancestors => describeLink (some (describeChain above ancestors)) size
where
  /-- The description of one link of the chain. -/
  describeLink (parent : Option String) (size : Size) : String :=
    describeRecord "PrintState"
      [("parent", describeOption parent), ("indent_size", size.toNat.repr)]

/-- The description of a state. -/
def describe (state : IndentState) : String := describeChain state.size state.ancestors

end IndentState

/-- The description of a kind. -/
def Kind.describe : Kind → String
  | .node name => "Node(" ++ Text.quoted name ++ ")"
  | kind => kind.name

/-- The description of a context. -/
def Context.describe {μ : Type} (context : Context μ) : String :=
  describeRecord "PrintContext"
    [ ("depth", context.depth.repr),
      ("config", context.config.describe),
      ("middlewares", context.middlewares.length.repr),
      ("state", context.state.describe),
      ("printer", describeOption (context.frame.printer.map Kind.describe)) ]

end Print

end ClassForge
