import ServiceDiagram.Diagram.Config
import ServiceDiagram.Views.Reading

namespace ServiceDiagram.Report

structure ParameterRow where
  operation : String
  parameter : String
  type : String
  rule : String
  sample : String

structure ServiceSection where
  title : String
  isOpen : Bool
  services : List String
  daos : List String
  rows : List ParameterRow

/-- What a report says: the services of an augmented model, each with its access, its dependencies
and the rules and samples of its parameters. -/
structure Content where
  model : String
  classes : Nat
  sections : List ServiceSection

/-- The names of the classes of views. -/
def classNames (d : Datum) : Work (List String) := do
  match d.items? with
  | none => throw (.notIterable d.typeName)
  | some items =>
    items.mapM fun item => do
      return (← Work.read (← Work.read item "class_") "name").inline

/-- The names of the classes of the views that an attribute gives, if it gives any. -/
def namesIn (v : ViewRef) (role : String) : Work (List String) := do
  let d ← Work.read (.view v) role
  if d.isTruthy then classNames d else return []

/-- The text of a cell; only a text has one. -/
def cellText (d : Datum) : Work String :=
  match d with
  | .value (.text s) => return s
  | other => throw (.noAttribute other.typeName "translate")

/-- The row of a parameter. -/
def readParameter (v : ViewRef) : Work ParameterRow := do
  let operation ← cellText (← Work.read (← Work.read (.view v) "operation") "name")
  let parameter ← Work.read (.view v) "parameter"
  let name ← cellText (← Work.read parameter "name")
  let type ← cellText (← Work.read (← Work.read parameter "type") "name")
  let rule ← cellText (← Work.read (.view v) "joiDefinition")
  let sample ← cellText (← Work.read (.view v) "mockValue")
  return ⟨operation, name, type, rule, sample⟩

/-- The section of a service, with or without its parameters. -/
def readService (withParameters : Bool) (number : Nat) (c : ClassView) :
    Work ServiceSection := do
  let v := AugmentedModel.refOf number c
  let isOpen := (← Work.read (.view v) "allowExternalAccess").isTruthy
  let services ← namesIn v "dependentServices"
  let daos ← namesIn v "dependentDaos"
  let rows ←
    if withParameters then (AugmentedModel.parameterRefs number c).mapM readParameter
    else pure []
  return ⟨c.node.title, isOpen, services, daos, rows⟩

/-- The content of the report on an augmented model. All of it is read from the views in the order
in which it is written, so the first view that gives no answer stops the report. -/
def read (withParameters : Bool) (number : Nat) : Work Content := do
  let w ← get
  let a := w.augmentedModel number
  let services := a.withCapability "allowExternalAccess"
  let sections ← services.mapM (readService withParameters number)
  return ⟨(w.model a.model).name, a.classes.length, sections⟩

/-- What lays reports out: it gives the text of a content in the manner that is asked for. -/
abbrev Renderer := ReportConfig → Content → String

end ServiceDiagram.Report

namespace ServiceDiagram

/-- The report on an augmented model, laid out by a renderer. -/
def Work.reportText (render : Report.Renderer) (config : ReportConfig) (number : Nat) :
    Work String := do
  return render config (← Report.read config.showParameters number)

end ServiceDiagram
