import ClassForge.Json.Value
import ClassForge.Print.Indent

/-!
# Project Configuration

What a project may configure in a file: how generated code is indented and,
if it is not to be where each spec says, where it goes. Everything has a
default of its own, so any part may be left out.

The configuration is read straight from the document. Keys that nobody asks for
are skipped with their values unread, however strange those are; a key that is
known must not appear twice. Each part may also be given as an array of its
settings in order.

## Main definitions

* `StyleName`, `IndentOptions`, `Config`: The settings.
* `Config.ofText?`: The configuration that a text describes.
* `Config.write`: The compact text of a configuration.
* `Config.printing`: What a rendering is configured with.
-/

namespace ClassForge

namespace Project

open Json

/-- How columns are filled. -/
inductive StyleName where
  | space
  | tab
  | none
  deriving DecidableEq

/-- The word for a style. -/
def StyleName.word : StyleName → String
  | .space => "space"
  | .tab => "tab"
  | .none => "none"

/-- How generated code is indented. -/
structure IndentOptions where
  /-- Columns per level. -/
  size : Print.Size
  /-- How columns are filled. -/
  style : StyleName
  /-- How many columns one filler covers. -/
  span : Print.Size
  deriving DecidableEq

/-- Four spaces a level. -/
def IndentOptions.standard : IndentOptions := ⟨4, .space, 1⟩

/-- The configuration of a project. -/
structure Config where
  /-- How generated code is indented. -/
  indent : IndentOptions
  /-- Where generated code goes instead of where each spec says. -/
  outDir : Option String
  deriving DecidableEq

/-- The configuration of a project that configures nothing. -/
def Config.standard : Config := ⟨.standard, none⟩

/-- The members of an object with plain keys, if every key spells a text. -/
def plainMembers? (members : List (Member Spelling)) : Option (List (String × Document)) :=
  members.mapM fun member => do
    let key ← Spelling.text? member.key
    return (key, member.value)

/-- The value under a key that must not appear twice. -/
def once? (members : List (String × Document)) (key : String) : Option (Option Document) :=
  match members.filter fun member => member.1 = key with
  | [] => some Option.none
  | [member] => some (some member.2)
  | _ => Option.none

/-- What a document describes, or a default where there is none. -/
def orDefault {α : Type} (read : Document → Option α) (standard : α) :
    Option Document → Option α
  | Option.none => some standard
  | some document => read document

/-- The machine word that a document describes. -/
def size? : Document → Option Print.Size
  | .number literal => Text.word? literal
  | _ => Option.none

namespace StyleName

/-- The style with this word. -/
def named? (word : String) : Option StyleName :=
  [StyleName.space, .tab, .none].find? fun style => style.word = word

/-- The style that a document describes: its word, or an object with the word as
    its only key and null as the value. -/
def ofDocument? : Document → Option StyleName
  | .string spelling => (Spelling.text? spelling).bind named?
  | .object [.member key .null] => (Spelling.text? key).bind named?
  | _ => Option.none

end StyleName

namespace IndentOptions

/-- The options from what is given for each of them. -/
def ofParts? (size style span : Option Document) : Option IndentOptions := do
  let size ← orDefault size? standard.size size
  let style ← orDefault StyleName.ofDocument? standard.style style
  let span ← orDefault size? standard.span span
  return ⟨size, style, span⟩

/-- The options that a document describes. -/
def ofDocument? : Document → Option IndentOptions
  | .object members => do
    let members ← plainMembers? members
    ofParts? (← once? members "size") (← once? members "style") (← once? members "span")
  | .array items =>
    if items.length ≤ 3 then ofParts? items[0]? items[1]? items[2]? else none
  | _ => none

end IndentOptions

namespace Config

/-- The output directory that a document describes; null stands for none. -/
def outDir? : Document → Option (Option String)
  | .null => some none
  | .string spelling => (Spelling.text? spelling).map some
  | _ => none

/-- The configuration from what is given for each of its parts. -/
def ofParts? (indent outDir : Option Document) : Option Config := do
  let indent ← orDefault IndentOptions.ofDocument? standard.indent indent
  let outDir ← orDefault outDir? standard.outDir outDir
  return ⟨indent, outDir⟩

/-- The configuration that a document describes. -/
def ofDocument? : Document → Option Config
  | .object members => do
    let members ← plainMembers? members
    ofParts? (← once? members "indent") (← once? members "outDir")
  | .array items => if items.length ≤ 2 then ofParts? items[0]? items[1]? else none
  | _ => none

/-- The configuration that a text describes. -/
def ofText? (text : String) : Option Config := do
  let document ← document? text
  ofDocument? document

end Config

/-- A machine word as a JSON value. -/
def sizeValue (size : Print.Size) : Value := .number size.toNat.repr.toList

/-- The options as a JSON value. -/
def IndentOptions.toValue (options : IndentOptions) : Value :=
  .object
    [ .member "size" (sizeValue options.size),
      .member "style" (.string options.style.word),
      .member "span" (sizeValue options.span) ]

namespace Config

/-- The configuration as a JSON value. A missing output directory is left
    out. -/
def toValue (config : Config) : Value :=
  .object
    (.member "indent" config.indent.toValue
      :: config.outDir.toList.map fun dir => .member "outDir" (.string dir))

/-- The compact text of a configuration. -/
def write (config : Config) : String := config.toValue.write

end Config

/-- How levels are indented. A style that fills nothing has no use for a
    span. -/
def IndentOptions.toIndent (options : IndentOptions) : Print.Indent :=
  ⟨options.size,
    match options.style with
    | .space => .ofSpan " " options.span
    | .tab => .tab options.span
    | .none => .none⟩

/-- What a rendering is configured with. A size given for this one run counts
    more than the project's. -/
def Config.printing (config : Config) (size : Option Print.Size) : Print.Config :=
  ⟨{ config.indent with size := size.getD config.indent.size }.toIndent⟩

end Project

end ClassForge
