import ServiceDiagram.Text.Ranges

namespace ServiceDiagram.Text

/-- The code points of blank characters. -/
def blankRanges : List (Nat × Nat) :=
  [(9, 13), (28, 32), (133, 133), (160, 160), (5760, 5760), (8192, 8202), (8232, 8233),
   (8239, 8239), (8287, 8287), (12288, 12288)]

/-- Whether a character is blank: Unicode white space or one of the four ASCII separators. -/
def isBlank (c : Char) : Bool := inRanges c.toNat blankRanges

/-- Drops blanks at both ends. -/
def strip (cs : List Char) : List Char :=
  ((cs.dropWhile isBlank).reverse.dropWhile isBlank).reverse

end ServiceDiagram.Text
