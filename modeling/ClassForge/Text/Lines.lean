/-!
# Lines of a Text

A text is a sequence of lines divided by line feeds. Everything that is
indented in this library is indented line by line, so the division into lines
and the operation that puts a lead in front of each of them live here, away
from the question of where a lead comes from.

The division keeps empty lines, also at both ends: a text with `k` line feeds
has exactly `k + 1` lines.

## Main definitions

* `lines`: The lines of a text.
* `leadLines`: A text with a lead in front of every line.
* `repeated`: A text repeated a number of times.

## Theorems

* `toList_repeated`: The characters of a repeated text.
* `intercalate_lines`: Joining the lines of a text gives it back.
-/

namespace ClassForge

namespace Text

/-- The lines of a text: what stands between its line feeds, empty lines
    included. -/
def lines (text : String) : List String :=
  (text.toList.splitOn '\n').map String.ofList

/-- A text with `lead` in front of every line. An empty text has nothing to
    lead into and stays empty. -/
def leadLines (lead text : String) : String :=
  if lead = "" ∨ text = "" then text
  else "\n".intercalate ((lines text).map (lead ++ ·))

/-- A text repeated `count` times. The empty text is answered at once, since a
    count may be as large as a machine word. -/
def repeated (unit : String) (count : Nat) : String :=
  if unit = "" then "" else count.repeat (· ++ unit) ""

/-- The characters of a repeated text are those of the text, repeated. -/
theorem toList_repeated (unit : String) (count : Nat) :
    (repeated unit count).toList = (List.replicate count unit.toList).flatten := by
  unfold repeated
  split
  · rename_i h
    simp [h]
  · induction count with
    | zero => rfl
    | succ count ih =>
      rw [Nat.repeat, String.toList_append, ih, List.replicate_succ', List.flatten_append,
        List.flatten_singleton]

/-- Joining the lines of a text gives it back. -/
theorem intercalate_lines (text : String) : "\n".intercalate (lines text) = text := by
  apply String.ext
  rw [String.toList_intercalate, lines, List.map_map]
  have hid : (String.toList ∘ String.ofList) = id := by
    funext cs
    exact String.toList_ofList
  rw [hid, List.map_id]
  exact List.intercalate_splitOn ..

end Text

end ClassForge
