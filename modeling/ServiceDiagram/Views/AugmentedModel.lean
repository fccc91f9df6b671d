import ServiceDiagram.Diagram.Model
import ServiceDiagram.Registry.Basic
import ServiceDiagram.Views.Datum

namespace ServiceDiagram

/-- The view of a parameter. -/
structure ParameterView where
  operation : Operation
  parameter : Parameter
  capabilities : List Capability

/-- The view of a class, with those of its parameters. -/
structure ClassView where
  node : Class
  capabilities : List Capability
  parameters : List ParameterView

/-- A view for every class and every parameter that a model has when the views are built, each with
the capabilities that the registry then grants. The model goes on to be changed without them. -/
structure AugmentedModel where
  model : Nat
  typeSystem : Nat
  config : Config
  classes : List ClassView

/-- The view of a parameter with the capabilities that a registry grants. -/
def ParameterView.build (r : Registry) (o : Operation) (p : Parameter) :
    Except Refusal ParameterView := do
  return ⟨o, p, ← r.capabilitiesFor .ofParameter (.ofParameter p)⟩

/-- The view of a class with the capabilities that a registry grants. -/
def ClassView.build (r : Registry) (c : Class) : Except Refusal ClassView := do
  let capabilities ← r.capabilitiesFor .ofClass (.ofClass c)
  let parameters ← c.parameters.mapM fun (o, p) => ParameterView.build r o p
  return ⟨c, capabilities, parameters⟩

namespace AugmentedModel

/-- The views of all classes of a model; none if registrations conflict. -/
def buildClasses (r : Registry) (m : Model) : Except Refusal (List ClassView) := do
  r.checkConflicts
  m.classes.mapM (ClassView.build r)

def class? (a : AugmentedModel) (id : String) : Option ClassView :=
  a.classes.find? fun v => v.node.id == id

/-- The first view of a class with a name. -/
def findClass? (a : AugmentedModel) (name : String) : Option ClassView :=
  a.classes.find? fun v => v.node.name == name

/-- The count of the views of parameters. -/
def parameterCount (a : AugmentedModel) : Nat :=
  sumOf (a.classes.map fun v => v.parameters.length)

/-- The reference to the view of a class, in the augmented model known by a number. -/
def refOf (number : Nat) (v : ClassView) : ViewRef := ⟨number, v.node.id, none⟩

/-- The references to the views of a class's parameters. -/
def parameterRefs (number : Nat) (v : ClassView) : List ViewRef :=
  (List.range v.parameters.length).map fun i => ⟨number, v.node.id, some i⟩

/-- The views of the classes with a capability. -/
def withCapability (a : AugmentedModel) (name : String) : List ClassView :=
  a.classes.filter fun v => v.capabilities.any fun c => c.name == name

end AugmentedModel

/-- A view with all that belongs to it. -/
inductive NodeView where
  | ofClass (v : ClassView)
  | ofParameter (owner : Class) (v : ParameterView)

namespace NodeView

def node : NodeView → Node
  | ofClass v => .ofClass v.node
  | ofParameter _ v => .ofParameter v.parameter

def capabilities : NodeView → List Capability
  | ofClass v => v.capabilities
  | ofParameter _ v => v.capabilities

def capability? (v : NodeView) (name : String) : Option Capability :=
  v.capabilities.find? fun c => c.name == name

/-- The names of the capabilities, in order. -/
def capabilityNames (v : NodeView) : List String :=
  (v.capabilities.map Capability.name).mergeSort NodeFilter.nameLe

/-- Whether two views of one augmented model are equal. -/
def eqv : NodeView → NodeView → Bool
  | ofClass v, ofClass w => v.node.id == w.node.id
  | ofParameter c v, ofParameter d w =>
    v.parameter.eqv w.parameter && c.id == d.id && v.operation.eqv w.operation
  | _, _ => false

/-- The text that stands for a view. -/
def display : NodeView → String
  | ofClass v => "ClassView(" ++ v.node.title ++ ")"
  | ofParameter c v =>
    s!"ParameterView({c.name}.{v.operation.name}.{v.parameter.name})"

end NodeView

/-- The view that a reference names. -/
def AugmentedModel.view? (a : AugmentedModel) (v : ViewRef) : Option NodeView :=
  match a.class? v.classId, v.parameter with
  | some c, none => some (.ofClass c)
  | some c, some i => c.parameters[i]?.map (.ofParameter c.node)
  | none, _ => none

end ServiceDiagram
