import ServiceDiagram.Diagram.Display
import ServiceDiagram.Value.Basic

namespace ServiceDiagram

inductive NodeKind where
  | ofClass
  | ofParameter
  deriving DecidableEq, Repr

def NodeKind.label : NodeKind → String
  | ofClass => "CLASS"
  | ofParameter => "PARAMETER"

/-- The nodes of a diagram that capabilities are attached to. -/
inductive Node where
  | ofClass (c : Class)
  | ofParameter (p : Parameter)

namespace Node

def kind : Node → NodeKind
  | ofClass _ => .ofClass
  | ofParameter _ => .ofParameter

/-- The text that stands for a node in messages. -/
def title : Node → String
  | ofClass c => c.title
  | ofParameter p => p.display

/-- Whether a node can be shown. -/
def isShowable : Node → Bool
  | ofClass _ => true
  | ofParameter p => p.isShowable

def optionalValue (s : Option String) : Value := (s.map Value.text).getD .null

def boundValue (n : Option Number) : Value := (n.map Value.number).getD .null

/-- The value of an attribute; none if there is no such attribute or it is no plain value. -/
def value? : Node → String → Option Value
  | ofClass c, "id" => some (.text c.id)
  | ofClass c, "name" => some (.text c.name)
  | ofClass c, "stereotype_name" => some (optionalValue c.stereotype)
  | ofParameter p, "name" => some (.text p.name)
  | ofParameter p, "is_required" => some (.bool p.isRequired)
  | ofParameter p, "has_min_value" => some (.bool p.hasMin)
  | ofParameter p, "min_value" => some (boundValue p.min?)
  | ofParameter p, "has_max_value" => some (.bool p.hasMax)
  | ofParameter p, "max_value" => some (boundValue p.max?)
  | _, _ => none

end Node

end ServiceDiagram
