import ServiceDiagram.Diagram.Error
import ServiceDiagram.Text.Blank
import ServiceDiagram.Text.Case

namespace ServiceDiagram

inductive TagValue where
  | bool (b : Bool)
  | int (n : Int)
  | text (s : String)
  deriving DecidableEq

/-- Tags of classes: a name with a value, which can be read as a flag. -/
structure Tag where
  name : String
  value : Option TagValue
  named : name ≠ ""
  deriving DecidableEq

namespace Tag

def make (name : String) (value : Option TagValue) : Except NodeError Tag :=
  if h : name ≠ "" then .ok ⟨name, value, h⟩ else .error .emptyTagName

/-- The texts that switch a flag off. -/
def falsyTexts : List String := ["false", "0", "no", "off", ""]

/-- Whether a tag counts as set: a tag without a value does, and a text does unless it is one of
those that switch off, in any case and with blanks around it. -/
def isTruthy (t : Tag) : Bool :=
  match t.value with
  | none => true
  | some (.bool b) => b
  | some (.int n) => n != 0
  | some (.text s) => !falsyTexts.contains (Text.lowercase (String.ofList (Text.strip s.toList)))

end Tag

end ServiceDiagram
