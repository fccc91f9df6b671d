import ServiceDiagram.Views.Workspace

namespace ServiceDiagram

namespace Node

/-- The names of the attributes of the nodes of a kind. -/
def attributeNames : NodeKind → List String
  | .ofClass =>
    ["dependencies", "get_tag", "has_tag", "id", "is_tagged_as", "iter_parameters", "name",
     "operations", "stereotype_name", "tags"]
  | .ofParameter =>
    ["has_max_value", "has_min_value", "is_required", "max_value", "min_value", "name", "type"]

end Node

namespace Datum

def optionalText (s : Option String) : Datum := value (Node.optionalValue s)

def ofTagValue : Option TagValue → Datum
  | none => null
  | some (.bool b) => bool b
  | some (.int n) => value (.int n)
  | some (.text s) => text s

def ofNode : Node → Datum
  | .ofClass c => ofClass c
  | .ofParameter p => parameter p

/-- The attribute of a node that is no method. -/
def nodeField? : Node → String → Option Datum
  | .ofClass c, "dependencies" => some (tuple (c.dependencies.map dependency))
  | .ofClass c, "operations" => some (tuple (c.operations.map operation))
  | .ofClass c, "tags" => some (tuple (c.tags.map tag))
  | .ofParameter p, "type" => some (typeRef p.type)
  | n, name => (n.value? name).map value

/-- The attribute of a datum that is no method. -/
def field? (w : Workspace) : Datum → String → Option Datum
  | ofClass c, name => nodeField? (.ofClass c) name
  | parameter p, name => nodeField? (.ofParameter p) name
  | operation o, "name" => some (text o.name)
  | operation o, "parameters" => some (tuple (o.parameters.map parameter))
  | dependency d, "target" => some (typeRef d.target)
  | dependency d, "target_class_id" => some (optionalText d.targetClassId)
  | tag t, "name" => some (text t.name)
  | tag t, "value" => some (ofTagValue t.value)
  | tag t, "is_truthy" => some (bool t.isTruthy)
  | typeRef t, "name" => some (text t.name)
  | typeRef t, "kind" => some (targetKind t.kind)
  | typeRef t, "class_id" => some (optionalText t.classId)
  | typeRef t, "is_object" => some (bool t.isObject)
  | targetKind k, "name" => some (text k.memberName)
  | targetKind k, "value" => some (text k.label)
  | config c, "service_stereotype" => some (text c.serviceStereotype)
  | config c, "dao_stereotype" => some (text c.daoStereotype)
  | config c, "external_access_tag" => some (text c.accessTag)
  | config c, "validation_namespace" => some (text c.ruleNamespace)
  | config c, "mock_seed" => some (value (.int c.seed))
  | descriptor _ _ d, "structural_kind" => some (text d.kind)
  | descriptor _ _ d, "constraint_add_on" => some (optionalText d.addOn)
  | typeSystem t, "seed" => (w.typeSystem t).seed?.map fun n => value (.int n)
  | typeSystem t, "names" =>
    match w.typeSystem t with
    | .catalog c => some (names c.names)
    | .table _ => none
    | .host _ => none
  | model m, "name" => some (text (w.model m).name)
  | model m, "revision" => some (value (.int (w.model m).revision))
  | augmented a, "model" => some (model (w.augmentedModel a).model)
  | augmented a, "type_system" => some (typeSystem (w.augmentedModel a).typeSystem)
  | augmented a, "config" => some (config (w.augmentedModel a).config)
  | _, _ => none

/-- The attribute of a datum that is no view. -/
def attribute? (w : Workspace) (d : Datum) (name : String) : Option Datum :=
  d.field? w name <|> (Method.find? d.typeName name).map (method d)

/-- A view, or null. -/
def ofView? (number : Nat) (v : Option ClassView) : Datum :=
  (v.map fun v => view (AugmentedModel.refOf number v)).getD null

def ofViews (number : Nat) (vs : List ClassView) : Datum :=
  tuple (vs.map fun v => view (AugmentedModel.refOf number v))

def ofRefs (vs : List ViewRef) : Datum := tuple (vs.map view)

def ofClass? (c : Option Class) : Datum := (c.map ofClass).getD null

/-- A class view by id. -/
def classView (w : Workspace) (number : Nat) (id : Datum) : Except Failure Datum :=
  match id with
  | value (.text s) =>
    match (w.augmentedModel number).class? s with
    | some v => .ok (view (AugmentedModel.refOf number v))
    | none => .error (.unknownClass s)
  | other => .error (.unknownClass other.inline)

/-- What an augmented model answers to a method. -/
def answerAugmented (w : Workspace) (number : Nat) (m : Method) (arg : Datum) :
    Except Failure Datum :=
  let a := w.augmentedModel number
  match m, arg with
  | .classView, id => classView w number id
  | .findView, value (.text s) => .ok (ofView? number (a.findClass? s))
  | .viewOf, ofClass c => classView w number (text c.id)
  | .viewOf, other => .error (.noAttribute other.typeName "id")
  | .parametersOf, value (.text s) =>
    .ok (ofRefs (((a.class? s).map (AugmentedModel.parameterRefs number)).getD []))
  | .parametersOf, _ => .ok (tuple [])
  | .iterClassViews, _ => .ok (ofViews number a.classes)
  | .iterParameterViews, _ =>
    .ok (ofRefs (a.classes.flatMap (AugmentedModel.parameterRefs number)))
  | .withCapability, value (.text s) => .ok (ofViews number (a.withCapability s))
  | .withCapability, _ => .ok (tuple [])
  | _, _ => .ok null

/-- What a class answers to a method. -/
def answerClass (c : Class) (m : Method) (arg : Datum) : Datum :=
  match m, arg with
  | .hasTag, value (.text s) => bool (c.hasTag s)
  | .hasTag, _ => bool false
  | .getTag, value (.text s) => ((c.tag? s).map tag).getD null
  | .isTaggedAs, value (.text s) => bool (c.isTaggedAs s)
  | .isTaggedAs, _ => bool false
  | .iterParameters, _ =>
    tuple (c.parameters.map fun (o, p) => tuple [operation o, parameter p])
  | _, _ => null

/-- What a model answers to a method. -/
def answerModel (m : Model) (method : Method) (arg : Datum) : Datum :=
  match method, arg with
  | .getClass, value (.text s) => ofClass? (m.class? s)
  | .findClass, value (.text s) => ofClass? (m.findClass? s)
  | .iterClasses, _ => tuple (m.classes.map ofClass)
  | _, _ => null

/-- Whether a view has a capability. -/
def answerHasCapability (w : Workspace) (v : ViewRef) (arg : Datum) : Datum :=
  match w.view? v, arg with
  | some n, value (.text s) => bool (n.capability? s).isSome
  | _, _ => bool false

/-- What a method other than a generator answers. -/
def answer (w : Workspace) (on : Datum) (m : Method) (arg : Datum) : Except Failure Datum :=
  match on with
  | augmented number => answerAugmented w number m arg
  | ofClass c => .ok (answerClass c m arg)
  | model i => .ok (answerModel (w.model i) m arg)
  | view v => .ok (answerHasCapability w v arg)
  | _ => .ok null

end Datum

end ServiceDiagram
