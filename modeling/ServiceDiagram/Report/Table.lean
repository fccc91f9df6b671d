import ServiceDiagram.Report.Style
import ServiceDiagram.Report.Wrap

namespace ServiceDiagram.Report

structure Cell where
  text : List Char
  style : Style

/-- A column: its heading and its style. -/
structure Column where
  heading : String
  style : Style

/-- Tables without lines between their cells. A column is as wide as its widest cell, with a blank
on either side. -/
structure Table where
  title : Option String
  columns : List Column
  showHeadings : Bool
  rows : List (List Cell)

/-- The width of a cell with a blank on either side. -/
def Cell.paddedWidth (c : Cell) : Nat := widest c.text + 2

/-- The quotient rounded to the nearest number, a half to the even one. -/
def roundedShare (total count : Nat) : Nat :=
  let q := total / count
  let r := total % count
  if 2 * r < count then q else if count < 2 * r then q + 1 else q + q % 2

/-- Takes a total away from those widths that are chosen, from each in turn an equal share of
what is left, and no more than a limit. -/
def reduce (chosen : Nat → Bool) (limit : Nat → Nat) : Nat → List Nat → List Nat
  | _, [] => []
  | total, w :: rest =>
    let count := ((w :: rest).filter chosen).length
    if chosen w then
      let share := min (limit w) (roundedShare total count)
      (w - share) :: reduce chosen limit (total - share) rest
    else w :: reduce chosen limit total rest

/-- Narrows the widest columns until they are as narrow as the next ones, and so on, to fit into a
width, as often as `fuel` allows. -/
def collapse (width : Nat) : Nat → List Nat → List Nat
  | 0, ws => ws
  | fuel + 1, ws =>
    let excess := sumOf ws - width
    let top := ws.foldl max 0
    let next := (ws.filter (· != top)).foldl max 0
    if excess = 0 ∨ top = next then ws
    else
      collapse width fuel
        (reduce (· == top) (fun _ => min excess (top - next)) excess ws)

/-- The widths of columns that fit into a width. -/
def fitWidths (width : Nat) (ws : List Nat) : List Nat :=
  let narrowed := collapse width (sumOf ws) ws
  if sumOf narrowed ≤ width then narrowed
  else reduce (· != 0) id (sumOf narrowed - width) narrowed

namespace Table

/-- The cells of the headings. -/
def headings (t : Table) : List Cell :=
  t.columns.map fun c => ⟨c.heading.toList, .bold⟩

/-- The cells that determine the widths of the columns. -/
def measured (t : Table) : List (List Cell) :=
  if t.showHeadings then t.headings :: t.rows else t.rows

/-- The widths of the columns in a width. -/
def widths (width : Nat) (t : Table) : List Nat :=
  let natural := t.measured.foldl
    (fun ws row => ws.zipWith (fun w c => max w (min width c.paddedWidth)) row)
    (List.replicate t.columns.length 1)
  fitWidths width natural

end Table

/-- The lines of a cell in a column: `outer` is the style of the column, also of its blanks. -/
def cellLines (width : Nat) (outer : Style) (c : Cell) : List Line :=
  let style := if c.style = .plain then outer else c.style
  (wrapLeft .dots (width - 2) c.text).map fun line =>
    [Span.blanks outer 1, ⟨style, line⟩, Span.blanks outer 1]

/-- Fills the lines of a cell up to a height, below or above. -/
def fillHeight (height width : Nat) (style : Style) (atTop : Bool) (lines : List Line) :
    List Line :=
  let missing : List Line := List.replicate (height - lines.length) [Span.blanks style width]
  if atTop then lines ++ missing else missing ++ lines

/-- Puts the lines of cells side by side. -/
def besides : Nat → List (List Line) → List Line
  | 0, _ => []
  | height + 1, cells =>
    (cells.flatMap fun lines => lines.head?.getD []) :: besides height (cells.map List.tail)

/-- The lines of a row. The texts of a row begin on its first line, headings end on its last. -/
def rowLines (widths : List Nat) (styles : List Style) (atTop : Bool) (row : List Cell) :
    List Line :=
  let placed := widths.zip (styles.zip row)
  let cells := placed.map fun (w, s, c) => (w, s, cellLines w s c)
  let height := (cells.map fun (_, _, lines) => lines.length).foldl max 1
  besides height (cells.map fun (w, s, lines) => fillHeight height w s atTop lines)

namespace Table

/-- The lines of a table in a width, with the title over its middle. -/
def lines (width : Nat) (t : Table) : List Line :=
  let ws := t.widths width
  let title := writable (t.title.getD "")
  let above := if title.isEmpty then [] else
    (wrapCentered .fold (sumOf ws) title).map fun line => [Span.mk .bold line]
  let headings :=
    if t.showHeadings then rowLines ws (t.columns.map fun _ => .bold) false t.headings else []
  let styles := t.columns.map Column.style
  above ++ headings ++ t.rows.flatMap (rowLines ws styles true)

end Table

end ServiceDiagram.Report
