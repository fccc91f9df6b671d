import ServiceDiagram.Diagram.Config
import ServiceDiagram.Text.Identifier

namespace ServiceDiagram

inductive CapabilityKind where
  | accessor
  | function
  deriving DecidableEq, Repr

namespace CapabilityKind

def label : CapabilityKind → String
  | accessor => "ACCESSOR"
  | function => "FUNCTION"

/-- The word for a kind in messages. -/
def word : CapabilityKind → String
  | accessor => "accessor"
  | function => "function"

end CapabilityKind

/-- A definition is known here by its name only; what it computes is said where views are read. -/
inductive Definition where
  | allowExternalAccess
  | dependentClasses
  | dependentServices
  | dependentDaos
  | joiDefinition
  | mockValue
  /-- One that the host program brings along, under its name. -/
  | host (name : String)
  deriving DecidableEq, Repr

/-- The name of a definition. -/
def Definition.label : Definition → String
  | allowExternalAccess => "allow_external_access"
  | dependentClasses => "dependent_classes"
  | dependentServices => "dependent_services"
  | dependentDaos => "dependent_daos"
  | joiDefinition => "joi_definition"
  | mockValue => "mock_value"
  | host name => name

inductive CapabilityError where
  | notIdentifier (name : String)
  | notPublic (name : String)
  | notCallable (name : String)
  | unnamed (typeName : String)
  deriving DecidableEq, Repr

def CapabilityError.message : CapabilityError → String
  | notIdentifier name => "capability name must be an identifier, got " ++ Text.quoted name
  | notPublic name => "capability name must be public, got " ++ Text.quoted name
  | notCallable name => s!"capability '{name}' definition must be callable"
  | unnamed typeName => s!"'{typeName}' object has no attribute '__name__'"

/-- A capability's name is an identifier that does not begin with an underscore. -/
def Capability.IsName (name : String) : Prop :=
  Text.isIdentifier name = true ∧ name.toList.head? ≠ some '_'

instance Capability.decidableIsName (name : String) : Decidable (Capability.IsName name) := by
  unfold Capability.IsName; infer_instance

/-- Capabilities: named derivations that views offer. An accessor is read like an attribute and
evaluated once; a function is called, and evaluated at every call. -/
structure Capability where
  name : String
  definition : Definition
  kind : CapabilityKind
  isName : Capability.IsName name
  deriving DecidableEq

namespace Capability

/-- A capability; without a definition, what was given for one cannot be called. -/
def make (name : String) (definition : Option Definition) (kind : CapabilityKind) :
    Except CapabilityError Capability :=
  if h : IsName name then
    match definition with
    | some d => .ok ⟨name, d, kind, h⟩
    | none => .error (.notCallable name)
  else if Text.isIdentifier name then .error (.notPublic name)
  else .error (.notIdentifier name)

/-- What can be handed in for a capability: one, a definition alone, which lends its name, or
something without a name or with one that cannot be called. -/
inductive Item where
  | capability (c : Capability)
  | definition (d : Definition)
  | unnamed (typeName : String)
  | uncallable (name : String)

/-- The capability that an item stands for, of a given kind. -/
def ofItem (item : Item) (kind : CapabilityKind) : Except CapabilityError Capability :=
  match item with
  | .capability c => .ok { c with kind }
  | .definition d => make d.label (some d) kind
  | .unnamed typeName => .error (.unnamed typeName)
  | .uncallable name => make name none kind

/-- The kind and the definition of a capability, such as `accessor joi_definition`. -/
def description (c : Capability) : String := c.kind.word ++ " " ++ c.definition.label

end Capability

end ServiceDiagram
