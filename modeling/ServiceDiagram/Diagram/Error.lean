import ServiceDiagram.Number.Number
import ServiceDiagram.Text.Quoted

namespace ServiceDiagram

/-- Why something is not a node of a class diagram. -/
inductive NodeError where
  | classOfPrimitive (typeName : String)
  | emptyTypeName
  | noTarget
  | emptyTagName
  | emptyParameterName
  | noParameterType (parameter : String)
  | noLowerBound (parameter : String)
  | noUpperBound (parameter : String)
  | reversedBounds (parameter : String) (low high : Number)
  | emptyOperationName
  | duplicateParameter (operation parameter : String)
  | emptyClassId
  | emptyClassName
  | duplicateTags (className : String)
  | keyMismatch (classId key : String)
  | duplicateClass (classId : String)
  deriving DecidableEq

namespace NodeError

/-- Whether a part is missing; all other faults are faults of a value. -/
def isMissingPart : NodeError → Bool
  | noTarget => true
  | noParameterType _ => true
  | _ => false

def message : NodeError → String
  | classOfPrimitive typeName => s!"primitive type '{typeName}' must not reference a class"
  | emptyTypeName => "type name must not be empty"
  | noTarget => "target must not be None"
  | emptyTagName => "tag name must not be empty"
  | emptyParameterName => "parameter name must not be empty"
  | noParameterType parameter => s!"parameter '{parameter}' must have a type"
  | noLowerBound parameter => s!"parameter '{parameter}' declares a min bound without a value"
  | noUpperBound parameter => s!"parameter '{parameter}' declares a max bound without a value"
  | reversedBounds parameter low high =>
    s!"parameter '{parameter}' min ({low.text}) must be <= max ({high.text})"
  | emptyOperationName => "operation name must not be empty"
  | duplicateParameter operation parameter =>
    s!"operation '{operation}' has duplicate parameter '{parameter}'"
  | emptyClassId => "class id must not be empty"
  | emptyClassName => "class name must not be empty"
  | duplicateTags className => s!"class '{className}' has duplicate tags"
  | keyMismatch classId key =>
    "class id " ++ Text.quoted classId ++ " does not match key " ++ Text.quoted key
  | duplicateClass classId => s!"class '{classId}' already exists in model"

end NodeError

end ServiceDiagram
