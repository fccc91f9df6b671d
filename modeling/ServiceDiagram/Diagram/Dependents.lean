import ServiceDiagram.Diagram.Model
import ServiceDiagram.Event

namespace ServiceDiagram

/-- Where a dependency leads: to a class of the model, or nowhere, that is to a primitive type, to a
type that is unknown, or to a class that is not in the model. -/
inductive Lead where
  | primitive
  | malformed (kind : TargetKind)
  | unknown (classId : String)
  | toClass (c : Class)

namespace Model

/-- Where a dependency leads in a model. -/
def follow (m : Model) (d : Dependency) : Lead :=
  match d.target.kind, d.target.classId with
  | .primitive, _ => .primitive
  | .object, some id =>
    match m.class? id with
    | some c => .toClass c
    | none => .unknown id
  | kind, _ => .malformed kind

/-- The classes with a stereotype on which a class depends, one for each dependency. -/
def dependents (m : Model) (c : Class) (stereotype : Option String) : List Class :=
  c.dependencies.filterMap fun d =>
    match m.follow d with
    | .toClass t => if t.stereotype = stereotype then some t else none
    | _ => none

/-- The event of following a dependency, if it leads nowhere that it should. -/
def followEvent? (m : Model) (c : Class) (d : Dependency) (index : Nat) : Option Event :=
  match m.follow d with
  | .malformed kind => some (.malformedDependency c.name index kind)
  | .unknown id => some (.unknownDependency c.name index id)
  | _ => none

/-- The events of following all dependencies of a class. -/
def dependentEvents (m : Model) (c : Class) : List Event :=
  c.dependencies.zipIdx.filterMap fun (d, index) => m.followEvent? c d index

end Model

end ServiceDiagram
