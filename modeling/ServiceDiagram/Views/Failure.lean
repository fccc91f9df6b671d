import ServiceDiagram.Diagram.Descriptor
import ServiceDiagram.Registry.Error

namespace ServiceDiagram

/-- Why a view gives no answer. -/
inductive Failure where
  | noAttribute (typeName name : String)
  | privateName (name : String)
  | readOnly (typeName : String)
  | unknownClass (id : String)
  | unresolvedType (className operation parameter type : String)
  | notCallable (typeName : String)
  | missingArguments (function : String) (names : List String)
  | tooManyArguments (function : String) (expected given : Nat)
  | notSubscriptable (typeName : String)
  | noSuchItem (typeName : String)
  | notIterable (typeName : String)
  | notSerializable (typeName : String)
  | refused (r : Refusal)
  /-- A failure of the generator of a type. -/
  | generator (e : GeneratorError)
  | absent (part : String)
  | tooDeep
  /-- A failure of a definition that the host program brings along. -/
  | host (kind message : String)

/-- The message for a parameter whose type is not known. -/
def unresolvedTypeMessage (className operation parameter type : String) : String :=
  s!"No type descriptor for '{type}' (parameter {className}.{operation}.{parameter})"

/-- Names in quotes, the last one after an `and`. -/
def enumeration (names : List String) : String :=
  match names.map fun n => "'" ++ n ++ "'" with
  | [] => ""
  | [a] => a
  | [a, b] => a ++ " and " ++ b
  | many => commaSeparated many.dropLast ++ ", and " ++ many.getLast?.getD ""

/-- A word for one thing or for several. -/
def plural (n : Nat) (one many : String) : String := if n = 1 then one else many

namespace Failure

def message : Failure → String
  | noAttribute typeName name => s!"'{typeName}' object has no attribute '{name}'"
  | privateName name => name
  | readOnly typeName => typeName ++ " is read-only"
  | unknownClass id => Text.quoted s!"class '{id}' is not part of the model"
  | unresolvedType className operation parameter type =>
    unresolvedTypeMessage className operation parameter type
  | notCallable typeName => s!"'{typeName}' object is not callable"
  | missingArguments function names =>
    s!"{function}() missing {names.length} required positional " ++
      plural names.length "argument" "arguments" ++ ": " ++ enumeration names
  | tooManyArguments function expected given =>
    s!"{function}() takes {expected} positional " ++ plural expected "argument" "arguments" ++
      s!" but {given} " ++ plural given "was" "were" ++ " given"
  | notSubscriptable typeName => s!"'{typeName}' object is not subscriptable"
  | noSuchItem typeName => typeName ++ " index out of range"
  | notIterable typeName => s!"'{typeName}' object is not iterable"
  | notSerializable typeName => s!"mock value of type {typeName} is not serializable"
  | refused r => r.message
  | generator e => e.message
  | absent part => part ++ " must not be None"
  | tooDeep => "maximum recursion depth exceeded"
  | host _ message => message

end Failure

end ServiceDiagram
