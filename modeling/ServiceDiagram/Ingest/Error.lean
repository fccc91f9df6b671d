import ServiceDiagram.Diagram.Error
import ServiceDiagram.Json.Error

namespace ServiceDiagram

/-- Why data does not describe a model. -/
inductive LoadFault where
  | notObject (typeName : String)
  | notList (typeName : String)
  | notString (typeName : String)
  | notBoolean (typeName : String)
  | notNumber (typeName : String)
  | required
  | noType
  | badTagValue (typeName : String)
  | node (e : NodeError)
  | json (cause : Json.Cause) (line : Nat)
  deriving DecidableEq

def LoadFault.message : LoadFault → String
  | notObject typeName => "expected an object, got " ++ typeName
  | notList typeName => "expected a list, got " ++ typeName
  | notString typeName => "expected a string, got " ++ typeName
  | notBoolean typeName => "expected a boolean, got " ++ typeName
  | notNumber typeName => "expected a number, got " ++ typeName
  | required => "is required"
  | noType => "must be a type name or a type mapping"
  | badTagValue typeName => "unsupported tag value " ++ typeName
  | node e => e.message
  | json cause line => "invalid JSON: " ++ cause.message ++ " (line " ++ intText line ++ ")"

/-- A fault and its place in the data. -/
structure LoadError where
  path : String
  fault : LoadFault
  deriving DecidableEq

/-- The message for data that describe no model. -/
def invalidModelMessage (path reason : String) : String :=
  "Invalid model at " ++ (if path = "" then "<root>" else path) ++ ": " ++ reason

def LoadError.message (e : LoadError) : String := invalidModelMessage e.path e.fault.message

end ServiceDiagram
