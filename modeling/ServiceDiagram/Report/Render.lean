import ServiceDiagram.Report.Content
import ServiceDiagram.Report.Table

namespace ServiceDiagram.Report

def ruleMark : Char := '─'

/-- A rule across a width with a title in its middle. -/
def ruleLine (width : Nat) (title : List Char) : Line :=
  let oneLine := title.map fun c => if c = '\n' then ' ' else c
  let shown := truncate .dots (width - 4) (expandTabs oneLine)
  let size := Text.cellWidth shown
  let side := (width - size) / 2
  let left := List.replicate (side - 1) ruleMark
  let right := List.replicate (min (side + 1) (width - (side - 1) - size)) ruleMark
  let room := width - side - size
  [⟨.brightGreen, left ++ [' ']⟩, ⟨.bold, shown⟩, ⟨.brightGreen, takeCells room (' ' :: right)⟩]

/-- The counts of classes and services. -/
def countLine (classes services : Nat) : Line :=
  [⟨.bold, "Classes:".toList⟩, Span.plain [' '], ⟨.boldCyan, natDigits classes⟩,
   Span.plain [' ', ' '], ⟨.bold, "Services:".toList⟩, Span.plain [' '],
   ⟨.boldCyan, natDigits services⟩]

/-- The text for names of classes; a hyphen if there are none. -/
def namesText (names : List String) : String :=
  if names.isEmpty then "-" else commaSeparated names

def plainCell (s : String) : Cell := ⟨writable s, .plain⟩

def accessCell (isOpen : Bool) : Cell :=
  if isOpen then ⟨"yes".toList, .green⟩ else ⟨"no".toList, .red⟩

/-- The table of a service. -/
def serviceTable (s : ServiceSection) : Table where
  title := some s.title
  columns := [⟨"Property", .cyan⟩, ⟨"Value", .plain⟩]
  showHeadings := false
  rows :=
    [[plainCell "External access", accessCell s.isOpen],
     [plainCell "Dependent services", plainCell (namesText s.services)],
     [plainCell "Dependent DAOs", plainCell (namesText s.daos)]]

/-- The table of parameters. -/
def parameterTable (rows : List ParameterRow) : Table where
  title := none
  columns :=
    [⟨"Operation", .cyan⟩, ⟨"Parameter", .plain⟩, ⟨"Type", .yellow⟩, ⟨"Validation", .plain⟩,
     ⟨"Mock", .dim⟩]
  showHeadings := true
  rows := rows.map fun r =>
    [plainCell r.operation, plainCell r.parameter, plainCell r.type, plainCell r.rule,
     plainCell r.sample]

/-- The lines of a service. -/
def serviceLines (width : Nat) (s : ServiceSection) : List Line :=
  (serviceTable s).lines width ++ [[]] ++
    if s.rows.isEmpty then [] else (parameterTable s.rows).lines width ++ [[]]

/-- The lines of a report. -/
def lines (width : Nat) (c : Content) : List Line :=
  [[], ruleLine width (writable ("MODEL " ++ c.model)), [],
   countLine c.classes c.sections.length, []] ++ c.sections.flatMap (serviceLines width)

/-- A report in full: a rule with the name of the model, the counts of classes and services, and for
every service a table of its own and, if it has parameters, one of them. -/
def render : Renderer := fun config c =>
  String.ofList ((lines config.width c).flatMap (renderLine config.color))

end ServiceDiagram.Report
