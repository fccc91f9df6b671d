namespace ServiceDiagram.Report

inductive Style where
  | plain
  | bold
  | dim
  | red
  | green
  | yellow
  | cyan
  | brightGreen
  | boldCyan
  deriving DecidableEq, Repr

/-- The code that switches a style on; plain text needs none. -/
def Style.code? : Style → Option String
  | plain => none
  | bold => some "1"
  | dim => some "2"
  | red => some "31"
  | green => some "32"
  | yellow => some "33"
  | cyan => some "36"
  | brightGreen => some "92"
  | boldCyan => some "1;36"

/-- A piece of text in one style. -/
structure Span where
  style : Style
  text : List Char

/-- One line of a report. -/
abbrev Line := List Span

namespace Span

def plain (cs : List Char) : Span := ⟨.plain, cs⟩

/-- So many blanks. -/
def blanks (style : Style) (n : Nat) : Span := ⟨style, List.replicate n ' '⟩

/-- Text with styles. A style is switched on before a piece of text and off after it; a report
without colour leaves all styles out. -/
def render (color : Bool) (s : Span) : List Char :=
  match s.style.code? with
  | some code =>
    if color && !s.text.isEmpty then
      "\x1b[".toList ++ code.toList ++ 'm' :: s.text ++ "\x1b[0m".toList
    else s.text
  | none => s.text

end Span

/-- A line in full, with the break that ends it. -/
def renderLine (color : Bool) (line : Line) : List Char :=
  line.flatMap (Span.render color) ++ ['\n']

end ServiceDiagram.Report
