import ServiceDiagram.Event
import ServiceDiagram.Registry.Error

namespace ServiceDiagram

/-- Two capabilities that contradict each other, the one registered first and a later one. -/
structure Conflict where
  scope : Scope
  first : Capability
  second : Capability

/-- The registry of capabilities: a table of scopes, each with its capabilities in the order of
their registration. To register a capability again changes nothing; a different one under the same
name in the same scope is kept as a conflict. The revision counts what was added and what
conflicted. -/
structure Registry where
  table : List (Scope × List Capability)
  conflicts : List Conflict
  revision : Nat

/-- What is to be registered. The kind and the filter may be something else, of which the name of
the type is given. -/
structure Registration where
  kind : Except String NodeKind
  filter : Except String NodeFilter
  accessors : List Capability.Item
  functions : List Capability.Item

namespace NodeKind

/-- The names that views of every kind use themselves. -/
def viewNames : List String := ["augmented", "capability_names", "has_capability", "node"]

/-- The names that no capability of a kind of nodes may have. -/
def reservedNames : NodeKind → List String
  | ofClass => viewNames ++ ["class_", "parameter_views"]
  | ofParameter => viewNames ++ ["descriptor", "operation", "owner", "parameter"]

end NodeKind

namespace Registration

/-- The capabilities that items stand for. -/
def capabilitiesOf (kind : CapabilityKind) (items : List Capability.Item) :
    Except RegistryError (List Capability) :=
  items.mapM fun item => (Capability.ofItem item kind).mapError .capability

/-- The scope and the capabilities of a registration that has no fault. -/
def read (a : Registration) : Except RegistryError (Scope × List Capability) := do
  let kind ← a.kind.mapError .notNodeKind
  let filter ← a.filter.mapError .notFilter
  let accessors ← capabilitiesOf .accessor a.accessors
  let functions ← capabilitiesOf .function a.functions
  let cs := accessors ++ functions
  match cs.find? fun c => kind.reservedNames.contains c.name with
  | some c => throw (.refused (.of (.reserved ⟨kind, filter⟩ c.name)))
  | none =>
    match filter.unhashable? with
    | some typeName => throw (.unhashable typeName)
    | none => return (⟨kind, filter⟩, cs)

end Registration

namespace Registry

def empty : Registry := ⟨[], [], 0⟩

/-- The count of capabilities in all scopes. -/
def size (r : Registry) : Nat := sumOf (r.table.map fun (_, cs) => cs.length)

/-- The kinds of nodes with a scope, in order. -/
def kinds (r : Registry) : List NodeKind :=
  [NodeKind.ofClass, NodeKind.ofParameter].filter fun k => r.table.any fun (s, _) => s.kind == k

/-- The place of a scope in the table, or the end if it is not there. -/
def placeOf (r : Registry) (scope : Scope) : Nat :=
  r.table.findIdx fun (s, _) => s.eqv scope

/-- Gives a scope a place in the table. -/
def openScope (r : Registry) (scope : Scope) : Registry :=
  if r.placeOf scope < r.table.length then r else { r with table := r.table ++ [(scope, [])] }

/-- The capability with a name at a place in the table. -/
def findAt? (r : Registry) (place : Nat) (name : String) : Option Capability :=
  r.table[place]?.bind fun (_, cs) => cs.find? fun c => c.name == name

/-- Adds a capability at a place in the table, which is that of a scope. -/
def addAt (scope : Scope) (place : Nat) (r : Registry) (c : Capability) : Registry :=
  match r.findAt? place c.name with
  | none =>
    { r with
      table := r.table.modify place fun (s, cs) => (s, cs ++ [c])
      revision := r.revision + 1 }
  | some first =>
    if first = c then r
    else { r with conflicts := r.conflicts ++ [⟨scope, first, c⟩], revision := r.revision + 1 }

/-- The events of adding capabilities at a place one after the other. -/
def eventsOf (scope : Scope) (place : Nat) (r : Registry) : List Capability → List Event
  | [] => []
  | c :: rest =>
    let later := eventsOf scope place (r.addAt scope place c) rest
    if (r.findAt? place c.name).isSome then later
    else .registered c.kind.word c.name scope.kind.label scope.filter.display :: later

/-- Adds capabilities to a scope; with the events of doing so. -/
def insert (r : Registry) (scope : Scope) (cs : List Capability) : Registry × List Event :=
  let place := r.placeOf scope
  let opened := r.openScope scope
  (cs.foldl (addAt scope place) opened, eventsOf scope place opened cs)

/-- Registers what is asked for; with the events of doing so. -/
def register (r : Registry) (a : Registration) : Except RegistryError (Registry × List Event) := do
  let (scope, cs) ← a.read
  return r.insert scope cs

/-- Reports the first conflict. -/
def checkConflicts (r : Registry) : Except Refusal Unit :=
  match r.conflicts with
  | [] => .ok ()
  | c :: _ => .error (.of (.conflict c.scope c.first c.second))

/-- Puts capabilities to those found for a node; none may differ from one found before. -/
def merge (kind : NodeKind) (n : Node) (found : List Capability) :
    List Capability → Except Refusal (List Capability)
  | [] => .ok found
  | c :: rest =>
    match found.find? fun f => f.name == c.name with
    | none => merge kind n (found ++ [c]) rest
    | some f => if f = c then merge kind n found rest else .error (.of (.overlap kind n c.name))

/-- The capabilities of a node, scope by scope. -/
def capabilitiesFor (r : Registry) (kind : NodeKind) (n : Node) :
    Except Refusal (List Capability) :=
  (r.table.filter fun (s, _) => s.kind == kind && s.filter.passes n).foldlM
    (fun found (_, cs) => merge kind n found cs) []

end Registry

end ServiceDiagram
