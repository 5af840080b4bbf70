/-!
# Paths

A path is a text; its components are what the text names. Repeated and trailing
separators and inner dots name nothing, a leading dot and every pair of dots
are components of their own. Nothing is ever resolved: a pair of dots stays
where it is.

Paths are compared by their components, so different texts may be the same
path. Operations keep the text as it was built as far as they can.

## Main definitions

* `Path`, `Component`: Paths and what they name.
* `Path.components`: The components of a path.
* `Path.parent?`, `Path.join`, `Path.ancestors`: Moving between paths.
* `Path.same`, `Path.before`: Comparison by components.
* `Path.fileName?`, `Path.extension?`: The last name, and its ending.
-/

namespace ClassForge

namespace Files

/-- A path as it is written. -/
structure Path where
  /-- The text of the path. -/
  text : String
  deriving DecidableEq

/-- What a path is made of. -/
inductive Component where
  /-- The root of an absolute path. -/
  | root
  /-- A dot at the start of a path. -/
  | current
  /-- A pair of dots. -/
  | parent
  /-- The name of an entry. -/
  | name (text : String)
  deriving DecidableEq

namespace Component

/-- The place of a kind of component in the order of components. -/
def rank : Component → Nat
  | .root => 0
  | .current => 1
  | .parent => 2
  | .name _ => 3

/-- Components are ordered by kind, and names by their characters. -/
def lt (a b : Component) : Bool :=
  match a, b with
  | .name s, .name t => s < t
  | _, _ => a.rank < b.rank

end Component

/-- What a path starts with. -/
inductive Head where
  /-- The root. -/
  | root
  /-- A leading dot. -/
  | current
  /-- Nothing in particular. -/
  | none
  deriving DecidableEq

/-- Whether a segment between separators names nothing. -/
def isTrivial (segment : String) : Bool := segment = "" || segment = "."

namespace Path

/-- The segments between the separators of a path. -/
def rawSegments (path : Path) : List String :=
  (path.text.toList.splitOn '/').map String.ofList

/-- Whether a path starts at the root. -/
def isAbsolute (path : Path) : Bool := path.text.toList.head? = some '/'

/-- What a path starts with. -/
def head (path : Path) : Head :=
  if path.isAbsolute then .root
  else if path.rawSegments.head? = some "." then .current
  else .none

/-- The segments behind the start of a path. -/
def segments (path : Path) : List String :=
  match path.head with
  | .none => path.rawSegments
  | _ => path.rawSegments.drop 1

/-- The component that a segment is, if it is one. -/
def component? (segment : String) : Option Component :=
  if isTrivial segment then Option.none
  else if segment = ".." then some .parent
  else some (.name segment)

/-- The component that the start of a path is, if it is one. -/
def headComponent : Head → List Component
  | .root => [.root]
  | .current => [.current]
  | .none => []

/-- The components of a path. -/
def components (path : Path) : List Component :=
  headComponent path.head ++ path.segments.filterMap component?

/-- Whether two paths have the same components. -/
def same (a b : Path) : Bool := a.components = b.components

/-- Whether a list of components comes before another: at the first difference,
    or by ending first. -/
def componentsBefore : List Component → List Component → Bool
  | [], [] => false
  | [], _ :: _ => true
  | _ :: _, [] => false
  | a :: as, b :: bs => if a = b then componentsBefore as bs else a.lt b

/-- Whether a path comes before another. -/
def before (a b : Path) : Bool := componentsBefore a.components b.components

/-- The text of some segments behind the start of a path. -/
def ofSegments (head : Head) (segments : List String) : Path :=
  match head with
  | .root => ⟨"/" ++ "/".intercalate segments⟩
  | .current => ⟨"/".intercalate ("." :: segments)⟩
  | .none => ⟨"/".intercalate segments⟩

/-- Segments without the trivial ones at their end. -/
def trimEnd (segments : List String) : List String :=
  (segments.reverse.dropWhile isTrivial).reverse

/-- The path without its last component, unless that is the root or there is
    none. What is trivial in front of the last component goes with it. -/
def parent? (path : Path) : Option Path :=
  match trimEnd path.segments with
  | [] => if path.head = .current then some ⟨""⟩ else Option.none
  | segments => some (ofSegments path.head (trimEnd segments.dropLast))

/-- A path below another. An absolute path is not below anything, and a
    separator is put between the two unless there is one. -/
def join (path below : Path) : Path :=
  if below.isAbsolute then below
  else if path.text = "" ∨ path.text.toList.getLast? = some '/' then ⟨path.text ++ below.text⟩
  else ⟨path.text ++ "/" ++ below.text⟩

/-- A path and up to `count` of its parents, nearest first. -/
def ancestorsWithin : (count : Nat) → Path → List Path
  | 0, path => [path]
  | count + 1, path =>
    match path.parent? with
    | Option.none => [path]
    | some parent => path :: ancestorsWithin count parent

/-- A path and all its parents, nearest first. There are no more parents than
    components. -/
def ancestors (path : Path) : List Path := ancestorsWithin path.components.length path

/-- The name of the entry that a path leads to, if it ends with a name. -/
def fileName? (path : Path) : Option String :=
  match path.components.getLast? with
  | some (.name text) => some text
  | _ => Option.none

/-- What stands behind the last dot of a name. A dot at the very start does not
    count. -/
def extensionOf? (name : String) : Option String :=
  let chars := name.toList.reverse
  let ending := chars.takeWhile (· ≠ '.')
  match chars.dropWhile (· ≠ '.') with
  | _ :: _ :: _ => some (String.ofList ending.reverse)
  | _ => Option.none

/-- What stands behind the last dot of the name that a path leads to. -/
def extension? (path : Path) : Option String := path.fileName?.bind extensionOf?

end Path

end Files

end ClassForge
