import ServiceDiagram.Text.Blank
import ServiceDiagram.Text.Cluster
import ServiceDiagram.Text.Replace

namespace ServiceDiagram.Report

/-- What is done with a word that is wider than a line. -/
inductive Overflow where
  | dots
  | fold
  deriving DecidableEq, Repr

/-- Whether a character is no part of any text on a terminal: the bell, the backspace and the
controls that move the place of writing, line feeds and tabs apart. -/
def isStripped (c : Char) : Bool := [7, 8, 11, 12, 13].contains c.toNat

/-- The characters of a text that are written. -/
def writable (s : String) : List Char := s.toList.filter fun c => !isStripped c

/-- The places between tabs. -/
def tabWidth : Nat := 8

/-- Puts blanks between the parts that tabs have separated, each time up to the next place;
`column` is where the first part begins. -/
def joinTabbed (column : Nat) : List (List Char) → List Char
  | [] => []
  | [part] => part
  | part :: next :: parts =>
    let stop := column + Text.cellWidth part
    let n := tabWidth - stop % tabWidth
    part ++ List.replicate n ' ' ++ joinTabbed (stop + n) (next :: parts)

/-- Replaces each tab by blanks up to the next place. -/
def expandTabs (cs : List Char) : List Char := joinTabbed 0 (Text.splitOn '\t' cs)

/-- Drops the blanks at the end. -/
def trimEnd (cs : List Char) : List Char := (cs.reverse.dropWhile Text.isBlank).reverse

/-- The text of the first clusters, as many as fit into a width. -/
def takeClusters (width : Nat) : List Text.Cluster → List Char
  | [] => []
  | k :: rest => if k.width ≤ width then k.text ++ takeClusters (width - k.width) rest else []

/-- The longest beginning of a text that fits into a width and tears no cluster apart. -/
def takeCells (width : Nat) (cs : List Char) : List Char :=
  if width = 0 then [] else takeClusters width (Text.clusters cs)

/-- Puts blanks after a text up to a width. -/
def padTo (width : Nat) (cs : List Char) : List Char :=
  cs ++ List.replicate (width - Text.cellWidth cs) ' '

/-- A text cut or filled up to take exactly a width. -/
def fill (width : Nat) (cs : List Char) : List Char := padTo width (takeCells width cs)

/-- Cuts a text that is wider than a line. -/
def truncate (overflow : Overflow) (width : Nat) (cs : List Char) : List Char :=
  if Text.cellWidth cs ≤ width then cs
  else
    match overflow with
    | .dots => fill (width - 1) cs ++ ['…']
    | .fold => fill width cs

/-- The words of a text, each with the blanks that follow it. Blanks at the front are a part of
their own. -/
def parts : List Char → List (List Char)
  | [] => []
  | c :: rest =>
    match parts rest with
    | [] => [[c]]
    | p :: ps =>
      if Text.isBlank c && !(p.head?.map Text.isBlank).getD true then [c] :: p :: ps
      else (c :: p) :: ps

/-- The words of a text, each with the blanks that follow it, the first one also with those
before it. A text of blanks has no words. -/
def words (cs : List Char) : List (List Char) :=
  match parts cs with
  | p :: q :: rest => if p.all Text.isBlank then (p ++ q) :: rest else p :: q :: rest
  | [p] => if p.all Text.isBlank then [] else [p]
  | [] => []

/-- Distributes clusters to pieces that fit into a width. `room` is what is left of it. -/
def distribute (width : Nat) : Nat → List Text.Cluster → List (List Char)
  | _, [] => [[]]
  | room, k :: rest =>
    if room < k.width then
      match distribute width (width - k.width) rest with
      | p :: ps => [] :: (k.text ++ p) :: ps
      | [] => [[], k.text]
    else
      match distribute width (room - k.width) rest with
      | p :: ps => (k.text ++ p) :: ps
      | [] => [k.text]

/-- Breaks a word into pieces that fit into a width. -/
def pieces (width : Nat) (word : List Char) : List (List Char) :=
  distribute width width (Text.clusters word)

/-- Lines that are finished, last first, and the one that is being filled, with its width. -/
structure Filling where
  finished : List (List Char)
  current : List Char
  column : Nat

namespace Filling

/-- Goes on with a line of its own. -/
def newLine (f : Filling) (cs : List Char) : Filling :=
  ⟨if f.current.isEmpty then f.finished else f.current :: f.finished, cs, Text.cellWidth cs⟩

/-- Puts a word to the lines. -/
def add (overflow : Overflow) (width : Nat) (f : Filling) (word : List Char) : Filling :=
  let size := Text.cellWidth (trimEnd word)
  if f.column + size ≤ width then
    ⟨f.finished, f.current ++ word, f.column + Text.cellWidth word⟩
  else if width < size ∧ overflow = .fold then (pieces width word).foldl newLine f
  else f.newLine word

def lines (f : Filling) : List (List Char) := (f.current :: f.finished).reverse

end Filling

/-- Drops the blanks at the end of a line that is too long. -/
def trimExcess (width : Nat) (cs : List Char) : List Char :=
  let blanks := cs.length - (trimEnd cs).length
  cs.take (cs.length - min blanks (cs.length - width))

/-- Breaks a text without line feeds between its words. -/
def breakWords (overflow : Overflow) (width : Nat) (cs : List Char) : List (List Char) :=
  match words cs with
  | [] => [cs]
  | ws => (ws.foldl (Filling.add overflow width) ⟨[], [], 0⟩).lines

/-- The lines of a text in a width, which is counted in cells. Lines are broken between words; a
word that is wider than a line is cut, with dots in place of what is lost, or is broken itself. -/
def wrap (overflow : Overflow) (width : Nat) (cs : List Char) : List (List Char) :=
  (Text.splitOn '\n' cs).flatMap fun line =>
    (breakWords overflow width (expandTabs line)).map (trimExcess width)

/-- The lines of a text, each filled up to the width at its end. -/
def wrapLeft (overflow : Overflow) (width : Nat) (cs : List Char) : List (List Char) :=
  (wrap overflow width cs).map fun line => padTo width (truncate overflow width line)

/-- A line in the middle of a width. -/
def center (width : Nat) (cs : List Char) : List Char :=
  padTo width (List.replicate ((width - Text.cellWidth cs) / 2) ' ' ++ cs)

/-- The lines of a text, each in the middle of the width. -/
def wrapCentered (overflow : Overflow) (width : Nat) (cs : List Char) : List (List Char) :=
  (wrap overflow width cs).map fun line => center width (truncate overflow width (trimEnd line))

/-- Whether a character ends a line where the width of a text is measured. -/
def isLineEnd (c : Char) : Bool :=
  [0x0A, 0x0B, 0x0C, 0x0D, 0x1C, 0x1D, 0x1E, 0x85, 0x2028, 0x2029].contains c.toNat

/-- The width of the widest line of a text. -/
def widest (cs : List Char) : Nat :=
  ((Text.splitWhere isLineEnd cs).map Text.cellWidth).foldl max 0

end ServiceDiagram.Report
