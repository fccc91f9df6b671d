import ServiceDiagram.Diagram.Error

namespace ServiceDiagram

inductive TargetKind where
  | object
  | primitive
  | unknown
  deriving DecidableEq, Repr

namespace TargetKind

def label : TargetKind → String
  | object => "Object"
  | primitive => "Primitive"
  | unknown => "Unknown"

/-- The kind that a label names; a label that names neither an object nor a primitive type is
unknown. -/
def ofLabel (s : String) : TargetKind :=
  if s = "Object" then object else if s = "Primitive" then primitive else unknown

end TargetKind

/-- What every reference keeps: a primitive type has no class, and only an unknown type may be
without a name. -/
def TypeRef.Valid (name : String) (kind : TargetKind) (classId : Option String) : Prop :=
  (kind = .primitive → classId = none) ∧ (kind ≠ .unknown → name ≠ "")

instance TypeRef.decidableValid (name : String) (kind : TargetKind) (classId : Option String) :
    Decidable (TypeRef.Valid name kind classId) := by
  unfold TypeRef.Valid; infer_instance

/-- References to types. A type is an object, that is a class of the diagram named by its id, or a
primitive type named by its name, or unknown where the diagram was malformed. -/
structure TypeRef where
  name : String
  kind : TargetKind
  classId : Option String
  valid : TypeRef.Valid name kind classId
  deriving DecidableEq

namespace TypeRef

def make (name : String) (kind : TargetKind) (classId : Option String) :
    Except NodeError TypeRef :=
  if h : Valid name kind classId then .ok ⟨name, kind, classId, h⟩
  else if kind = .primitive ∧ classId ≠ none then .error (.classOfPrimitive name)
  else .error .emptyTypeName

def makePrimitive (name : String) : Except NodeError TypeRef := make name .primitive none

/-- A reference to a class, named by its id if no other name is given. -/
def makeObject (classId : String) (name : Option String) : Except NodeError TypeRef :=
  let shown := name.getD ""
  make (if shown = "" then classId else shown) .object (some classId)

/-- Whether a reference names a class. -/
def isObject (t : TypeRef) : Bool := t.kind == .object && t.classId.isSome

end TypeRef

structure Dependency where
  target : TypeRef
  deriving DecidableEq

namespace Dependency

def make (target : Option TypeRef) : Except NodeError Dependency :=
  match target with
  | some t => .ok ⟨t⟩
  | none => .error .noTarget

/-- The class at the far end, if the end is an object. -/
def targetClassId (d : Dependency) : Option String :=
  if d.target.isObject then d.target.classId else none

end Dependency

end ServiceDiagram
