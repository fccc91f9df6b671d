import ServiceDiagram.Text.CaseTable
import ServiceDiagram.Text.Ranges

namespace ServiceDiagram.Text

/-- The code point that a table of runs assigns to `n`. -/
def runTarget? (n : Nat) : List (Nat × Nat × Nat × Int) → Option Nat
  | [] => none
  | (lo, hi, step, distance) :: rest =>
    if n < lo then none
    else if n ≤ hi ∧ (n - lo) % step = 0 then some (Int.toNat (n + distance))
    else runTarget? n rest

/-- The lower-case letter of a character, itself if it has none. -/
def lowerChar (c : Char) : Char :=
  if c.toNat = 0x130 then 'i' else ((runTarget? c.toNat lowerRuns).map Char.ofNat).getD c

/-- The upper-case letter of a character, itself if it has none. -/
def upperChar (c : Char) : Char :=
  ((runTarget? c.toNat upperRuns).map Char.ofNat).getD c

/-- Whether a character is a letter with a case. -/
def isCased (c : Char) : Bool := inRanges c.toNat casedRanges

/-- Whether a character is passed over when the letters around it are judged. -/
def isCaseIgnorable (c : Char) : Bool := inRanges c.toNat caseIgnorableRanges

/-- Whether the next letter, after all characters to be passed over, is cased. -/
def startsCased (cs : List Char) : Bool :=
  match cs.dropWhile isCaseIgnorable with
  | [] => false
  | c :: _ => isCased c

/-- The lower case of a text that stands after `before`, which is written backwards. A capital
sigma becomes the final one when it ends a word. -/
def lowerAfter (before : List Char) : List Char → List Char
  | [] => []
  | c :: rest =>
    let lowered :=
      if c.toNat = 0x3A3 then
        [if startsCased before && !startsCased rest then 'ς' else 'σ']
      else if c.toNat = 0x130 then ['i', Char.ofNat 0x307]
      else [lowerChar c]
    lowered ++ lowerAfter (c :: before) rest

/-- The lower case of a text, with the letters that need more than one and with the sigma that ends
a word. -/
def lowercase (s : String) : String := String.ofList (lowerAfter [] s.toList)

end ServiceDiagram.Text
