import ServiceDiagram.Text.Blank
import ServiceDiagram.Text.Digit
import ServiceDiagram.Text.Replace

namespace ServiceDiagram.Email

/-- Whether a text is not empty and holds neither at signs nor blanks. -/
def isAtom (cs : List Char) : Bool :=
  !cs.isEmpty && cs.all fun c => c != '@' && !Text.isBlank c

/-- Whether a text is a domain: an atom, a dot, and at least two ASCII letters. -/
def isDomain (cs : List Char) : Bool :=
  let letters := (cs.reverse.takeWhile Text.isAsciiLetter).length
  match cs.reverse.drop letters with
  | '.' :: before => decide (2 ≤ letters) && isAtom before
  | _ => false

/-- Whether a text is an address. -/
def isAddress (cs : List Char) : Bool :=
  match Text.partition '@' cs with
  | (localPart, some domain) => isAtom localPart && isDomain domain
  | _ => false

/-- The text without the line break that may end it. -/
def dropFinalBreak (cs : List Char) : List Char :=
  if cs.getLast? = some '\n' then cs.dropLast else cs

/-- Whether a text is an address: a local part, an at sign, and a domain that ends in a dot and at
least two ASCII letters. One line break after it is let pass. -/
def accepts (s : String) : Bool := isAddress (dropFinalBreak s.toList)

end ServiceDiagram.Email
