/-!
# Documentation Comments

A description followed by tags. Which lines that makes and how they are framed is
up to each grammar. The lines that are given here go with the data: whoever shows
a comment without printing it shows these.

## Main definitions

* `DocTag`: A name and a value.
* `DocComment`: A description and tags.
* `DocComment.lines`: The lines of a comment.
-/

namespace ClassForge

namespace Code

/-- A named tag of a documentation comment. -/
structure DocTag where
  /-- The name, without its marker. -/
  name : String
  /-- What stands behind the name. -/
  value : String
  deriving DecidableEq

/-- The line of a tag. -/
def DocTag.line (tag : DocTag) : String :=
  "@" ++ tag.name ++ " " ++ tag.value

/-- A description, if there is one, and tags. -/
structure DocComment where
  /-- The description. -/
  description : Option String
  /-- The tags in order. -/
  tags : List DocTag
  deriving DecidableEq

namespace DocComment

/-- The lines of a comment as data. An empty line divides the description from
    the tags, if there are both. -/
def lines (comment : DocComment) : List String :=
  let tagged := comment.tags.map DocTag.line
  match comment.description with
  | none => tagged
  | some description =>
    if comment.tags = [] then [description] else description :: "" :: tagged

/-- Whether there is nothing to say. -/
def isEmpty (comment : DocComment) : Bool :=
  comment.description.isNone && comment.tags.isEmpty

end DocComment

end Code

end ClassForge
