import ServiceDiagram.Rule.Synthesis
import ServiceDiagram.Views.Workspace

namespace ServiceDiagram

/-- A service is open to the outside unless its tag says otherwise. -/
def allowExternalAccess (v : ViewRef) : Program Datum := do
  let tag ← .path (.view v) ["augmented", "config", "external_access_tag"]
  let hasTag ← .callMethod (← .read (.view v) "class_") "has_tag" tag
  if hasTag.isTruthy then .callMethod (← .read (.view v) "class_") "is_tagged_as" tag
  else return .bool true

/-- The views of the classes with a stereotype on which a class depends. -/
def dependentClasses (v : ViewRef) (stereotype : Datum) : Program Datum := do
  let augmented ← .read (.view v) "augmented"
  let node ← .read (.view v) "class_"
  let model ← .read augmented "model"
  match node, model with
  | .ofClass c, .model m =>
    let targets ← .items (← .demand (.dependents m c stereotype))
    return .tuple (← targets.mapM fun t => .callMethod augmented "view_of" t)
  | d, _ => .fail (.noAttribute d.typeName "dependencies")

/-- The views of the classes with a configured stereotype on which a class depends. -/
def dependentsByRole (v : ViewRef) (role : String) : Program Datum := do
  let function ← .read (.view v) "getDependentClasses"
  let stereotype ← .path (.view v) ["augmented", "config", role]
  .call function [stereotype]

/-- The rule of a parameter. -/
def joiDefinition (v : ViewRef) : Program Datum := do
  let parameter ← .read (.view v) "parameter"
  let descriptor ← .read (.view v) "descriptor"
  let root ← .path (.view v) ["augmented", "config", "validation_namespace"]
  match descriptor, parameter with
  | .descriptor _ _ d, .parameter p => return .text (ruleText p d.kind d.addOn root.inline)
  | .descriptor .., other => .fail (.noAttribute other.typeName "has_min_value")
  | other, _ => .fail (.noAttribute other.typeName "structural_kind")

/-- A sample value of a parameter's type. -/
def mockValue (v : ViewRef) : Program Datum := do
  let generator ← .path (.view v) ["descriptor", "mock_generator"]
  match ← .call generator [] with
  | .value sample =>
    match Json.printSorted? sample with
    | some s => return .text s
    | none => .fail (.notSerializable Value.foreign.typeName)
  | other => .fail (.notSerializable other.typeName)

namespace Definition

/-- The names of the arguments after the view. -/
def parameters (w : Workspace) : Definition → List String
  | dependentClasses => ["stereotype_name"]
  | host name => ((w.hosts.lookup name).map HostDefinition.parameters).getD []
  | _ => []

/-- What a definition computes. All definitions read the view as anyone else would, so one that is
attached to the wrong kind of nodes fails at the first attribute that the view lacks. -/
def body (w : Workspace) (d : Definition) (v : ViewRef) (args : List Datum) : Program Datum :=
  match d with
  | allowExternalAccess => ServiceDiagram.allowExternalAccess v
  | dependentClasses => ServiceDiagram.dependentClasses v (args.head?.getD .null)
  | dependentServices => dependentsByRole v "service_stereotype"
  | dependentDaos => dependentsByRole v "dao_stereotype"
  | joiDefinition => ServiceDiagram.joiDefinition v
  | mockValue => ServiceDiagram.mockValue v
  | host name =>
    match w.hosts.lookup name with
    | some h => h.body v args
    | none => .done .null

end Definition

end ServiceDiagram
