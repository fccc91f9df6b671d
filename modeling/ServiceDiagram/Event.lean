import ServiceDiagram.Diagram.TypeRef
import ServiceDiagram.Diagram.Display

namespace ServiceDiagram

/-- What happens while a model is read, capabilities are registered and views are built, as far as
it is reported to whoever looks for errors. -/
inductive Event where
  | objectWithoutClass (path : String)
  | modelLoaded (name : String) (classes : Nat)
  | malformedDependency (className : String) (index : Nat) (kind : TargetKind)
  | unknownDependency (className : String) (index : Nat) (classId : String)
  | registered (kind name nodeKind filter : String)
  | viewsReused (model : String)
  | viewsBuilt (model : String) (classes parameters : Nat)
  | stereotypeReady (stereotype : String) (capabilities : Nat)
  deriving DecidableEq

namespace Event

/-- The part of the program that reports an event. -/
def source : Event → String
  | objectWithoutClass _ => "archmeta.infrastructure.loader"
  | modelLoaded .. => "archmeta.infrastructure.loader"
  | malformedDependency .. => "archmeta.application.capabilities.dependencies"
  | unknownDependency .. => "archmeta.application.capabilities.dependencies"
  | registered .. => "archmeta.application.registry.capability"
  | viewsReused _ => "archmeta.application.augmentation.engine"
  | viewsBuilt .. => "archmeta.application.augmentation.engine"
  | stereotypeReady .. => "archmeta.presentation.pipeline.service_support"

def message : Event → String
  | objectWithoutClass path => path ++ ": object end without targetClass, loading as unknown"
  | modelLoaded name classes =>
    "loaded model " ++ Text.quoted name ++ " with " ++ intText classes ++ " classes"
  | malformedDependency className index kind =>
    className ++ ": skipping malformed dependency #" ++ intText index ++
      " (" ++ kind.memberName ++ ")"
  | unknownDependency className index classId =>
    className ++ ": skipping dependency #" ++ intText index ++ " to unknown class " ++
      Text.quoted classId
  | registered kind name nodeKind filter =>
    "registered " ++ kind ++ " " ++ name ++ " on " ++ nodeKind ++ " [" ++ filter ++ "]"
  | viewsReused model => "model " ++ Text.quoted model ++ " already augmented, reusing views"
  | viewsBuilt model classes parameters =>
    "augmented model " ++ Text.quoted model ++ ": " ++ intText classes ++ " classes, " ++
      intText parameters ++ " parameters"
  | stereotypeReady stereotype capabilities =>
    stereotype ++ " stereotype initialized (" ++ intText capabilities ++ " capabilities)"

/-- The line that reports an event. -/
def line (e : Event) : String := "DEBUG " ++ e.source ++ ": " ++ e.message

end Event

end ServiceDiagram
