import ServiceDiagram.Registry.Basic
import ServiceDiagram.Types.TypeSystem
import ServiceDiagram.Value.Display

namespace ServiceDiagram

/-- A view: the augmented model it belongs to, its class, and, if it is the view of a parameter,
the place of the parameter in the class. -/
structure ViewRef where
  augmented : Nat
  classId : String
  parameter : Option Nat
  deriving DecidableEq, Repr

/-- The name of a view's type. -/
def ViewRef.typeName (v : ViewRef) : String :=
  match v.parameter with
  | none => "ClassView"
  | some _ => "ParameterView"

/-- What can be called on views and on what they lead to. -/
inductive Method where
  | hasTag
  | getTag
  | isTaggedAs
  | iterParameters
  | hasCapability
  | classView
  | findView
  | viewOf
  | parametersOf
  | iterClassViews
  | iterParameterViews
  | withCapability
  | getClass
  | findClass
  | iterClasses
  | generate
  deriving DecidableEq, Repr

namespace Method

def all : List Method :=
  [hasTag, getTag, isTaggedAs, iterParameters, hasCapability, classView, findView, viewOf,
   parametersOf, iterClassViews, iterParameterViews, withCapability, getClass, findClass,
   iterClasses, generate]

/-- The type that a method belongs to. -/
def owner : Method → String
  | hasTag | getTag | isTaggedAs | iterParameters => "Class"
  | hasCapability => "NodeView"
  | classView | findView | viewOf | parametersOf | iterClassViews | iterParameterViews
  | withCapability => "AugmentedModel"
  | getClass | findClass | iterClasses => "Model"
  | generate => "TypeDescriptor"

def name : Method → String
  | hasTag => "has_tag"
  | getTag => "get_tag"
  | isTaggedAs => "is_tagged_as"
  | iterParameters | iterParameterViews => "iter_parameters"
  | hasCapability => "has_capability"
  | classView => "class_view"
  | findView => "find"
  | viewOf => "view_of"
  | parametersOf => "parameters_of"
  | iterClassViews | iterClasses => "iter_classes"
  | withCapability => "with_capability"
  | getClass => "get_class"
  | findClass => "find_class"
  | generate => "mock_generator"

/-- The names of the arguments. -/
def parameters : Method → List String
  | hasTag | getTag | isTaggedAs | hasCapability | findView | withCapability | findClass =>
    ["name"]
  | classView | parametersOf | getClass => ["class_id"]
  | viewOf => ["cls"]
  | iterParameters | iterClassViews | iterParameterViews | iterClasses | generate => []

/-- The method of a type with a name. -/
def find? (owner name : String) : Option Method :=
  all.find? fun m => m.owner == owner && m.name == name

end Method

/-- What reading a view can give: plain values, parts of the diagram, other views, and what can be
called. -/
inductive Datum where
  | value (v : Value)
  | names (ns : List String)
  | tuple (items : List Datum)
  | ofClass (c : Class)
  | operation (o : Operation)
  | parameter (p : Parameter)
  | dependency (d : Dependency)
  | tag (t : Tag)
  | typeRef (t : TypeRef)
  | targetKind (k : TargetKind)
  | config (c : Config)
  /-- A type, with the type system it comes from and what it is kept under there. -/
  | descriptor (system : Nat) (key : TypeKey) (d : TypeDescriptor)
  | typeSystem (system : Nat)
  | model (model : Nat)
  | augmented (augmented : Nat)
  | view (v : ViewRef)
  | method (on : Datum) (m : Method)
  /-- A function that a view offers. -/
  | function (v : ViewRef) (d : Definition)

namespace Datum

abbrev null : Datum := value .null

abbrev bool (b : Bool) : Datum := value (.bool b)

abbrev text (s : String) : Datum := value (.text s)

/-- The name of a datum's type. -/
def typeName : Datum → String
  | value v => v.typeName
  | names _ => "frozenset"
  | tuple _ => "tuple"
  | ofClass _ => "Class"
  | operation _ => "Operation"
  | parameter _ => "Parameter"
  | dependency _ => "Dependency"
  | tag _ => "Tag"
  | typeRef _ => "TypeRef"
  | targetKind _ => "TargetKind"
  | config _ => "AugmentationConfig"
  | descriptor .. => "TypeDescriptor"
  | typeSystem _ => "TypeCatalog"
  | model _ => "Model"
  | augmented _ => "AugmentedModel"
  | view v => v.typeName
  | method .. => "function"
  | function .. => "functools.partial"

/-- Whether a datum counts as true: nought and what is empty do not. -/
def isTruthy : Datum → Bool
  | value .null => false
  | value (.bool b) => b
  | value (.number n) => !n.eqv (.int 0)
  | value (.text s) => s != ""
  | value (.list items) => !items.isEmpty
  | value (.record entries) => !entries.isEmpty
  | names ns => !ns.isEmpty
  | tuple items => !items.isEmpty
  | _ => true

/-- The text of a datum inside a message: a text stands for itself. -/
def inline : Datum → String
  | value (.text s) => s
  | value v => v.display
  | ofClass c => c.title
  | typeRef t => t.name
  | d => "<" ++ d.typeName ++ ">"

/-- The item at a place, which counts from the end if it is negative. -/
def itemAt? {α : Type} (items : List α) (place : Int) : Option α :=
  let place := if place < 0 then place + items.length else place
  if place < 0 then none else items[place.toNat]?

/-- The parts of a datum in order. -/
def items? : Datum → Option (List Datum)
  | tuple items => some items
  | value (.list items) => some (items.map value)
  | value (.text s) => some (s.toList.map fun c => text (String.singleton c))
  | names ns => some (ns.map text)
  | _ => none

end Datum

end ServiceDiagram
