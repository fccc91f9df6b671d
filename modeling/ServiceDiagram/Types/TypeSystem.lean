import ServiceDiagram.Types.Catalog

namespace ServiceDiagram

/-- What gives the types of parameters their meaning. The catalog is one; a table that takes every
reference by its exact name is another; and a host program may bring along any other. -/
inductive TypeSystem where
  | catalog (c : Catalog)
  | table (types : List (String × TypeDescriptor))
  /-- One that the host program brings along, which may look at all of a reference. -/
  | host (types : TypeRef → Option TypeDescriptor)

/-- What a type is kept under. -/
inductive TypeKey where
  | object
  | entry (name : String)
  | reference (name : String) (kind : TargetKind) (classId : Option String)
  deriving DecidableEq, Repr

namespace TypeSystem

/-- What the type that a reference names is kept under. -/
def keyOf : TypeSystem → TypeRef → TypeKey
  | catalog _, t => if t.kind = .object then .object else .entry (Text.lowercase t.name)
  | table _, t => .entry t.name
  | host _, t => .reference t.name t.kind t.classId

/-- The type that a reference names. -/
def resolve? : TypeSystem → TypeRef → Option TypeDescriptor
  | catalog c, t => c.resolve? t
  | table types, t => types.lookup t.name
  | host types, t => types t

/-- The seed of the samples; only a catalog has one. -/
def seed? : TypeSystem → Option Nat
  | catalog c => some c.seed
  | table _ => none
  | host _ => none

end TypeSystem

end ServiceDiagram
