import ClassForge.Text.Lines
import ClassForge.Print.Overflow

/-!
# Indentation

How a level of indentation becomes leading text. A style fills columns with a
filler, one filler for every `span` columns; an indent says how many columns a
level has. A level count is first turned into columns and only then into
fillers, so two levels are not always twice the fillers of one: the division
by the span is rounded down once, at the end.

The columns of a level may be any word. Text is only made when it is asked for,
and a text that could not be held is an overflow.

## Main definitions

* `IndentStyle`: A filler and the number of columns it covers.
* `Indent`: A style and the columns of one level.
* `Config`: What a rendering is configured with.

## Theorems

* `IndentStyle.fill_eq_ok_iff`: Columns have a text exactly when its bytes can be
  held.
* `Indent.process_one`: One level is as many columns as the indent has.
* `Indent.mem_filler_of_process`: Leading text is made of the filler alone.
-/

namespace ClassForge

namespace Print

/-- A filler text that stands for `span` columns. A span of nothing would fill
    no column at all, so it is at least one. -/
structure IndentStyle where
  /-- The text that fills `span` columns. -/
  filler : String
  /-- How many columns one filler covers. -/
  span : Size
  /-- A filler covers at least one column. -/
  span_pos : span ≠ 0
  deriving DecidableEq

namespace IndentStyle

/-- A style from any span; a span of zero counts as one. -/
def ofSpan (filler : String) (span : Size) : IndentStyle :=
  if h : span = 0 then ⟨filler, 1, by decide⟩ else ⟨filler, span, h⟩

/-- One tab for every `span` columns. -/
def tab (span : Size) : IndentStyle := ofSpan "\t" span

/-- One space for every column. -/
def space : IndentStyle := ofSpan " " 1

/-- No indentation at all. -/
def none : IndentStyle := ofSpan "" 1

/-- How many fillers stand in a number of columns. Columns that do not fill a
    whole span are dropped. -/
def count (style : IndentStyle) (columns : Size) : Nat := (columns / style.span).toNat

/-- The text that fills a number of columns, unless it is too long. -/
def fill (style : IndentStyle) (columns : Size) : Except Overflow String :=
  if style.filler.utf8ByteSize * style.count columns ≤ maxBytes then
    .ok (Text.repeated style.filler (style.count columns))
  else .error .capacity

/-- Columns have a text exactly when its bytes can be held. The text is then
    the filler, repeated. -/
theorem fill_eq_ok_iff {style : IndentStyle} {columns : Size} {text : String} :
    style.fill columns = .ok text ↔
      style.filler.utf8ByteSize * style.count columns ≤ maxBytes ∧
        text = Text.repeated style.filler (style.count columns) := by
  unfold fill
  split
  · rename_i h
    rw [Except.ok.injEq]
    exact ⟨fun he => ⟨h, he.symm⟩, fun he => he.2.symm⟩
  · rename_i h
    simp only [reduceCtorEq, false_iff, not_and]
    exact fun hle => absurd hle h

end IndentStyle

/-- The columns of one level, and the style that fills them. -/
structure Indent where
  /-- Columns per level. -/
  size : Size
  /-- How columns become text. -/
  style : IndentStyle
  deriving DecidableEq

namespace Indent

/-- The leading text of a number of levels. -/
def process (indent : Indent) (levels : Size) : Except Overflow String :=
  (Size.mul indent.size levels).bind indent.style.fill

/-- One level is as many columns as the indent has, so its count never
    overflows. -/
theorem process_one (indent : Indent) : indent.process 1 = indent.style.fill indent.size := by
  have h : Size.mul indent.size 1 = .ok indent.size := by
    rw [Size.mul_eq_ok_iff, UInt64.toNat_one, Nat.mul_one]
  rw [process, h]
  rfl

/-- Leading text is made of the characters of the filler. -/
theorem mem_filler_of_process {indent : Indent} {levels : Size} {lead : String}
    (h : indent.process levels = .ok lead) :
    ∀ c ∈ lead.toList, c ∈ indent.style.filler.toList := by
  intro c hc
  rw [process] at h
  cases hcolumns : Size.mul indent.size levels with
  | error cause =>
      rw [hcolumns] at h
      cases h
  | ok columns =>
      rw [hcolumns] at h
      have hlead := (IndentStyle.fill_eq_ok_iff.mp h).2
      rw [hlead, Text.toList_repeated, List.mem_flatten] at hc
      -- Each part of the lead is the filler.
      rcases hc with ⟨chars, hchars, hc⟩
      rwa [List.eq_of_mem_replicate hchars] at hc

end Indent

/-- What a rendering is configured with, shared by every frame unless a frame
    is given another. -/
structure Config where
  /-- How levels are indented. -/
  indent : Indent
  deriving DecidableEq

/-- Four spaces a level. -/
def Config.standard : Config := ⟨4, .space⟩

end Print

end ClassForge
