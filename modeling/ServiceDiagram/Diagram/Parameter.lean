import ServiceDiagram.Diagram.TypeRef

namespace ServiceDiagram

/-- Whether the lower of two bounds is above the upper one. -/
def boundsReversed (low high : Option Number) : Bool :=
  match low, high with
  | some a, some b => b.lt a
  | _, _ => false

/-- What every parameter keeps about its name and its bounds. -/
def Parameter.Valid (name : String) (hasMin : Bool) (min? : Option Number) (hasMax : Bool)
    (max? : Option Number) : Prop :=
  name ≠ "" ∧ (hasMin → min?.isSome) ∧ (hasMax → max?.isSome) ∧
    (hasMin → hasMax → boundsReversed min? max? = false)

instance Parameter.decidableValid (name : String) (hasMin : Bool) (min? : Option Number)
    (hasMax : Bool) (max? : Option Number) :
    Decidable (Parameter.Valid name hasMin min? hasMax max?) := by
  unfold Parameter.Valid; infer_instance

/-- A parameter of an operation. It may declare bounds; a declared bound has a value, and the lower
one is not above the upper one. -/
structure Parameter where
  name : String
  type : TypeRef
  isRequired : Bool
  hasMin : Bool
  min? : Option Number
  hasMax : Bool
  max? : Option Number
  valid : Parameter.Valid name hasMin min? hasMax max?
  deriving DecidableEq

namespace Parameter

/-- The first fault of a parameter that is not valid. -/
def fault (name : String) (hasMin : Bool) (min? : Option Number) (hasMax : Bool)
    (max? : Option Number) : NodeError :=
  if name = "" then .emptyParameterName
  else if hasMin && min?.isNone then .noLowerBound name
  else if hasMax && max?.isNone then .noUpperBound name
  else .reversedBounds name (min?.getD (.int 0)) (max?.getD (.int 0))

def make (name : String) (type : Option TypeRef) (isRequired : Bool) (hasMin : Bool)
    (min? : Option Number) (hasMax : Bool) (max? : Option Number) : Except NodeError Parameter :=
  if name = "" then .error .emptyParameterName
  else
    match type with
    | none => .error (.noParameterType name)
    | some t =>
      if h : Valid name hasMin min? hasMax max? then
        .ok ⟨name, t, isRequired, hasMin, min?, hasMax, max?, h⟩
      else .error (fault name hasMin min? hasMax max?)

/-- Equality of bounds by value. -/
def sameBound : Option Number → Option Number → Bool
  | none, none => true
  | some a, some b => a.eqv b
  | _, _ => false

/-- Equality of parameters, with bounds equal by value. -/
def eqv (p q : Parameter) : Bool :=
  p.name == q.name && p.type == q.type && p.isRequired == q.isRequired && p.hasMin == q.hasMin &&
    sameBound p.min? q.min? && p.hasMax == q.hasMax && sameBound p.max? q.max?

end Parameter

/-- The first name that occurs again later in a list, given those seen before. -/
def firstRepeated? (seen : List String) : List String → Option String
  | [] => none
  | n :: rest => if seen.contains n then some n else firstRepeated? (n :: seen) rest

/-- What every operation keeps: it has a name, and its parameters have different names. -/
def Operation.Valid (name : String) (parameters : List Parameter) : Prop :=
  name ≠ "" ∧ firstRepeated? [] (parameters.map Parameter.name) = none

instance Operation.decidableValid (name : String) (parameters : List Parameter) :
    Decidable (Operation.Valid name parameters) := by
  unfold Operation.Valid; infer_instance

structure Operation where
  name : String
  parameters : List Parameter
  valid : Operation.Valid name parameters
  deriving DecidableEq

namespace Operation

def make (name : String) (parameters : List Parameter) : Except NodeError Operation :=
  if h : Valid name parameters then .ok ⟨name, parameters, h⟩
  else if name = "" then .error .emptyOperationName
  else
    .error (.duplicateParameter name
      ((firstRepeated? [] (parameters.map Parameter.name)).getD ""))

/-- Whether two lists of parameters agree item by item. -/
def sameParameters : List Parameter → List Parameter → Bool
  | [], [] => true
  | p :: ps, q :: qs => p.eqv q && sameParameters ps qs
  | _, _ => false

/-- Equality of operations, with bounds equal by value. -/
def eqv (a b : Operation) : Bool :=
  a.name == b.name && sameParameters a.parameters b.parameters

end Operation

end ServiceDiagram
