import ClassForge.Print.Middleware
import ClassForge.Print.Render

/-!
# Printed Output

The text of an outline, printed from a root frame with the middlewares of the
library. What the middlewares recorded comes with it.

## Main definitions

* `Outline.print`: The text of an outline against a root frame.
-/

namespace ClassForge

namespace Print

/-- What printing ends with: a text or an error, and what was recorded. -/
abbrev Output := Except PrintError String × Journal

/-- The text of a tree against a root frame. -/
def Tree.print (tree : Tree) (root : Context Middleware) : Except Overflow Output :=
  ((tree.render Middleware.hooks root).run).run Journal.empty

/-- The text of an outline against a root frame. -/
def Outline.print (outline : Outline) (root : Context Middleware) : Except Overflow Output :=
  outline.tree.print root

end Print

end ClassForge
