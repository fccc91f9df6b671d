import ServiceDiagram.Views.Attributes
import ServiceDiagram.Views.Definitions

namespace ServiceDiagram

namespace Program

/-- Runs a program; `answer` does what it asks for. -/
def run {α : Type} (answer : Request → Work Datum) : Program α → Work α
  | done a => pure a
  | fail e => throw e
  | ask request next => fun w =>
    let (reply, w) := answer request w
    (next reply).run answer w
  | fetch cell next => fun w => (next ((w.cells.lookup cell).getD 0)).run answer w
  | keep cell n next => fun w => next.run answer { w with cells := Table.put cell n w.cells }

end Program

namespace Work

/-- Gives the answer of a computation that does no work. -/
def ofExcept {α : Type} (x : Except Failure α) : Work α := fun w => (x, w)

/-- Checks the count of arguments. -/
def checkArity (function : String) (given : Nat) (expected : List String) : Except Failure Unit :=
  if given < expected.length then
    .error (.missingArguments function (expected.drop given))
  else if expected.length < given then
    .error (.tooManyArguments function (expected.length + 1) (given + 1))
  else .ok ()

/-- Evaluates a definition for a view. -/
def evaluate (answer : Request → Work Datum) (d : Definition) (v : ViewRef)
    (args : List Datum) : Work Datum := do
  let w ← get
  ofExcept (checkArity d.label args.length (d.parameters w))
  (d.body w v args).run answer

/-- The result of an accessor: the one that was kept, or else that of evaluating it now. It is kept
when the evaluation succeeds, and given to every later reader. -/
def accessor (answer : Request → Work Datum) (d : Definition) (v : ViewRef) (name : String) :
    Work Datum := do
  match (← get).memo.lookup (v, name) with
  | some result => return result
  | none =>
    let result ← evaluate answer d v []
    let w ← get
    match w.memo.lookup (v, name) with
    | some earlier => return earlier
    | none =>
      set { w with memo := ((v, name), result) :: w.memo }
      return result

/-- The type of a parameter, as its view gives it. -/
def descriptor (v : ViewRef) (owner : Class) (p : ParameterView) : Work Datum := do
  let w ← get
  let system := (w.augmentedModel v.augmented).typeSystem
  let types := w.typeSystem system
  match types.resolve? p.parameter.type with
  | some d => return .descriptor system (types.keyOf p.parameter.type) d
  | none =>
    throw (.unresolvedType owner.name p.operation.name p.parameter.name p.parameter.type.name)

/-- The attributes that views have of themselves; none for any other name. -/
def viewAttribute? (v : ViewRef) (n : NodeView) (name : String) : Option (Work Datum) :=
  match n, name with
  | n, "node" => some (return .ofNode n.node)
  | _, "augmented" => some (return .augmented v.augmented)
  | n, "capability_names" => some (return .names n.capabilityNames)
  | _, "has_capability" => some (return .method (.view v) .hasCapability)
  | .ofClass c, "class_" => some (return .ofClass c.node)
  | .ofClass c, "parameter_views" =>
    some (return .ofRefs (AugmentedModel.parameterRefs v.augmented c))
  | .ofParameter _ p, "parameter" => some (return .parameter p.parameter)
  | .ofParameter _ p, "operation" => some (return .operation p.operation)
  | .ofParameter _ _, "owner" => some (return .view { v with parameter := none })
  | .ofParameter owner p, "descriptor" => some (descriptor v owner p)
  | _, _ => none

/-- Reads an attribute of a node. -/
def nodeAttribute (n : Node) (name : String) : Work Datum := do
  match (Datum.ofNode n).attribute? (← get) name with
  | some d => return d
  | none => throw (.noAttribute (Datum.ofNode n).typeName name)

/-- Reads an attribute of a view. It is looked for among those that every view has, then among the
capabilities, then in the node. -/
def readView (answer : Request → Work Datum) (v : ViewRef) (name : String) : Work Datum := do
  match (← get).view? v with
  | none => throw (.unknownClass v.classId)
  | some n =>
    match viewAttribute? v n name with
    | some work => work
    | none =>
      if name.toList.head? = some '_' then throw (.privateName name)
      else
        match n.capability? name with
        | some c =>
          match c.kind with
          | .function => return .function v c.definition
          | .accessor => accessor answer c.definition v name
        | none => nodeAttribute n.node name

/-- Draws the next sample of a type. -/
def generate (system : Nat) (key : TypeKey) (d : TypeDescriptor) : Work Datum := do
  let w ← get
  let count := (w.calls.lookup (system, key)).getD 0
  set { w with calls := Table.put (system, key) (count + 1) w.calls }
  match d.generator count with
  | .ok v => return .value v
  | .error e => throw (.generator e)

/-- Calls what can be called. -/
def callDatum (answer : Request → Work Datum) (on : Datum) (args : List Datum) : Work Datum :=
  match on with
  | .function v d => evaluate answer d v args
  | .method (.descriptor system key d) .generate => generate system key d
  | .method on m => do
    ofExcept (checkArity (m.owner ++ "." ++ m.name) args.length m.parameters)
    ofExcept (Datum.answer (← get) on m (args.head?.getD .null))
  | other => throw (.notCallable other.typeName)

/-- The classes with a stereotype on which a class depends in a model. -/
def dependents (model : Nat) (c : Class) (stereotype : Datum) : Work Datum := do
  let m := (← get).model model
  report (m.dependentEvents c)
  match stereotype with
  | .value (.text s) => return .tuple ((m.dependents c (some s)).map .ofClass)
  | .value .null => return .tuple ((m.dependents c none).map .ofClass)
  | _ => return .tuple []

/-- Does what is asked for, with definitions inside definitions down to a depth. -/
def answer : Nat → Request → Work Datum
  | 0, _ => throw .tooDeep
  | depth + 1, .read (.view v) name => readView (answer depth) v name
  | _ + 1, .read d name => do
    match d.attribute? (← get) name with
    | some result => return result
    | none => throw (.noAttribute d.typeName name)
  | depth + 1, .call on args => callDatum (answer depth) on args
  | _ + 1, .dependents model c stereotype => dependents model c stereotype

/-- How deep definitions may be inside definitions. -/
def depthLimit : Nat := 400

/-- Reads an attribute. -/
def read (on : Datum) (name : String) : Work Datum := answer depthLimit (.read on name)

/-- Calls what can be called. -/
def call (on : Datum) (args : List Datum) : Work Datum := answer depthLimit (.call on args)

/-- Calls a method with one argument. -/
def callMethod (on : Datum) (name : String) (arg : Datum) : Work Datum := do
  call (← read on name) [arg]

/-- The item of a datum at a place. -/
def item (on : Datum) (place : Int) : Work Datum :=
  let sequence : Option (String × List Datum) :=
    match on with
    | .tuple items => some ("tuple", items)
    | .value (.list _) => some ("list", on.items?.getD [])
    | .value (.text _) => some ("string", on.items?.getD [])
    | _ => none
  match sequence with
  | none => throw (.notSubscriptable on.typeName)
  | some (word, items) =>
    match Datum.itemAt? items place with
    | some d => return d
    | none => throw (.noSuchItem word)

/-- Views are not changed. -/
def assign (v : ViewRef) : Work Unit := throw (.readOnly v.typeName)

end Work

/-- The names of all attributes of a view, in order. -/
def NodeView.attributeNames (n : NodeView) : List String :=
  (n.node.kind.reservedNames ++ n.capabilityNames ++ Node.attributeNames n.node.kind)
    |>.eraseDups.mergeSort NodeFilter.nameLe

/-- Whether two references name equal views: of one augmented model, and equal in it. -/
def Workspace.sameView (w : Workspace) (a b : ViewRef) : Bool :=
  a.augmented == b.augmented &&
    match w.view? a, w.view? b with
    | some m, some n => a == b || m.eqv n
    | _, _ => false

/-- The count of views that differ. -/
def Workspace.countDistinct (w : Workspace) (vs : List ViewRef) : Nat :=
  (vs.foldl (fun seen v => if seen.any (w.sameView · v) then seen else v :: seen) []).length

end ServiceDiagram
