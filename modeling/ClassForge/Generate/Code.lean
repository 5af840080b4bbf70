import ClassForge.Generate.Error
import ClassForge.Php.Generator
import ClassForge.Print.Output
import ClassForge.TypeScript.Generator

/-!
# Generated Code

The text that is generated from a spec in a language, and the file it belongs
in.

## Main definitions

* `language?`: The language that a word stands for.
* `className`, `fileName`: The class and the file of a spec in a language.
* `outline`, `text`: How the file is printed, and its text.

## Theorems

* `outline_php`, `outline_ts`: The outline of a spec that has the section of the
  language.
-/

namespace ClassForge

namespace Generate

open Spec (Language)

/-- The language that a word stands for. -/
def language? (word : String) : Option Language :=
  match word with
  | "php" => some .php
  | "ts" | "typescript" => some .ts
  | _ => none

/-- The wording for a word that stands for no language. -/
def unknownLanguage (word : String) : String :=
  "Unknown language: " ++ word ++ " (expected php or ts)"

/-- What the names of files end with. -/
def extension : Language → String
  | .php => ".php"
  | .ts => ".ts"

/-- The name of the class of a spec. -/
def className (language : Language) (spec : Spec) : Except GenerationError String :=
  match language with
  | .php => (spec.php.map Spec.PhpSection.className).mapError .spec
  | .ts => (spec.ts.map Spec.TsSection.className).mapError .spec

/-- The name of the file of a spec. -/
def fileName (language : Language) (spec : Spec) : Except GenerationError String :=
  (className language spec).map (· ++ extension language)

/-- How the file of a spec is printed. -/
def outline (language : Language) (spec : Spec) : Except GenerationError Print.Outline :=
  match language with
  | .php => do
    let php ← spec.php.mapError .spec
    return Php.fileOutline (Php.fileStatements php spec.fields)
  | .ts => do
    let ts ← spec.ts.mapError .spec
    return TypeScript.fileOutline (TypeScript.fileStatements ts spec.fields)

theorem outline_php {spec : Spec} {php : Spec.PhpSection} (hphp : spec.php = .ok php) :
    outline .php spec = .ok (Php.fileOutline (Php.fileStatements php spec.fields)) := by
  rw [outline, hphp]
  rfl

theorem outline_ts {spec : Spec} {ts : Spec.TsSection} (hts : spec.ts = .ok ts) :
    outline .ts spec = .ok (TypeScript.fileOutline (TypeScript.fileStatements ts spec.fields)) := by
  rw [outline, hts]
  rfl

/-- The middlewares that watch the printing of generated code. -/
def middlewares : List Print.Middleware := [.indent, .trace]

/-- The text of an outline as a file: the printed text and a line feed. -/
def fileText (config : Print.Config) (outline : Print.Outline) : Except GenerationError String :=
  match outline.print (.initial config middlewares) with
  | .error cause => .error (.overflow cause)
  | .ok (.error error, _) => .error (.print error)
  | .ok (.ok text, _) => .ok (text ++ "\n")

/-- The text that is generated from a spec. -/
def text (language : Language) (spec : Spec) (config : Print.Config) :
    Except GenerationError String := do
  fileText config (← outline language spec)

end Generate

end ClassForge
