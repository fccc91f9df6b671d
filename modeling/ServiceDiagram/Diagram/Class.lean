import ServiceDiagram.Diagram.Parameter
import ServiceDiagram.Diagram.Tag

namespace ServiceDiagram

/-- What every class keeps: it has an id and a name, and its tags have different names. -/
def Class.Valid (id name : String) (tags : List Tag) : Prop :=
  id ≠ "" ∧ name ≠ "" ∧ firstRepeated? [] (tags.map Tag.name) = none

instance Class.decidableValid (id name : String) (tags : List Tag) :
    Decidable (Class.Valid id name tags) := by
  unfold Class.Valid; infer_instance

/-- Classes of the diagram: a stable id, a name, perhaps a stereotype, and dependencies, operations
and tags in the order of their declaration. -/
structure Class where
  id : String
  name : String
  stereotype : Option String
  dependencies : List Dependency
  operations : List Operation
  tags : List Tag
  valid : Class.Valid id name tags
  deriving DecidableEq

namespace Class

def make (id name : String) (stereotype : Option String) (dependencies : List Dependency)
    (operations : List Operation) (tags : List Tag) : Except NodeError Class :=
  if h : Valid id name tags then
    .ok ⟨id, name, stereotype, dependencies, operations, tags, h⟩
  else if id = "" then .error .emptyClassId
  else if name = "" then .error .emptyClassName
  else .error (.duplicateTags name)

def tag? (c : Class) (name : String) : Option Tag := c.tags.find? fun t => t.name == name

def hasTag (c : Class) (name : String) : Bool := (c.tag? name).isSome

/-- Whether a tag is present and counts as set. -/
def isTaggedAs (c : Class) (name : String) : Bool := ((c.tag? name).map Tag.isTruthy).getD false

/-- The parameters of all operations, each with its operation. -/
def parameters (c : Class) : List (Operation × Parameter) :=
  c.operations.flatMap fun o => o.parameters.map fun p => (o, p)

/-- The name, with the stereotype if there is one. -/
def title (c : Class) : String :=
  match c.stereotype with
  | some s => if s = "" then c.name else c.name ++ " «" ++ s ++ "»"
  | none => c.name

end Class

end ServiceDiagram
