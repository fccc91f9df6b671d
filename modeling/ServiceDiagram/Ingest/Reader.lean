import ServiceDiagram.Diagram.Model
import ServiceDiagram.Event
import ServiceDiagram.Ingest.Error
import ServiceDiagram.Value.Basic

namespace ServiceDiagram.Ingest

/-- Reading reports events, also those before a fault. -/
abbrev Load := ExceptT LoadError (StateM (List Event))

def fail {α : Type} (path : String) (fault : LoadFault) : Load α := throw ⟨path, fault⟩

def report (e : Event) : Load Unit := modify fun es => es ++ [e]

/-- The place of a property of what stands at a path. -/
def propertyPath (path key : String) : String := path ++ "." ++ key

/-- The place of an item of what stands at a path. -/
def itemPath (path : String) (index : Nat) : String := path ++ "[" ++ intText index ++ "]"

/-- The properties of a record. -/
abbrev Fields := List (String × Value)

/-- Reports a fault of a node at the place where the node is described. -/
def atPath {α : Type} (path : String) : Except NodeError α → Load α
  | .ok a => return a
  | .error e => fail path (.node e)

def fieldsOf (v : Value) (path : String) : Load Fields :=
  match v with
  | .record entries => return entries
  | _ => fail path (.notObject v.typeName)

def itemsOf (v : Value) (path : String) : Load (List Value) :=
  match v with
  | .list items => return items
  | _ => fail path (.notList v.typeName)

/-- The items of a property; none if it is absent. -/
def listField (fields : Fields) (key path : String) : Load (List Value) :=
  itemsOf ((fields.lookup key).getD (.list [])) path

/-- A text that may be absent or null. -/
def optionalText (fields : Fields) (key path : String) : Load (Option String) :=
  match fields.lookup key with
  | none => return none
  | some .null => return none
  | some (.text s) => return some s
  | some v => fail (propertyPath path key) (.notString v.typeName)

/-- A text that must be there and not be empty. -/
def requiredText (fields : Fields) (key path : String) : Load String := do
  match ← optionalText fields key path with
  | some s => if s = "" then fail (propertyPath path key) .required else return s
  | none => fail (propertyPath path key) .required

/-- A truth value, false if it is absent. -/
def boolField (fields : Fields) (key path : String) : Load Bool :=
  match fields.lookup key with
  | none => return false
  | some (.bool b) => return b
  | some v => fail (propertyPath path key) (.notBoolean v.typeName)

/-- A number that may be absent or null. -/
def numberField (fields : Fields) (key path : String) : Load (Option Number) :=
  match fields.lookup key with
  | none => return none
  | some .null => return none
  | some (.number n) => return some n
  | some v => fail (propertyPath path key) (.notNumber v.typeName)

/-- Reads each item of a list under its own path. -/
def loadItems {α : Type} (load : Value → String → Load α) (path : String) :
    Nat → List Value → Load (List α)
  | _, [] => return []
  | index, v :: rest => do
    let a ← load v (itemPath path index)
    return a :: (← loadItems load path (index + 1) rest)

/-- A text, or another if it is absent or empty. -/
def textOr (s : Option String) (other : String) : String :=
  match s with
  | some t => if t = "" then other else t
  | none => other

/-- A type that claims to be an object without naming a class is read as an unknown type, so that
one bad edge does not lose the model. -/
def loadTypeRef (fields : Fields) (path : String) : Load TypeRef := do
  let kind := TargetKind.ofLabel ((← optionalText fields "targetKind" path).getD "")
  let classId ← optionalText fields "targetClass" path
  let name := textOr (← optionalText fields "typeName" path) (classId.getD "")
  if kind = .object ∧ classId = none then
    report (.objectWithoutClass path)
    atPath path (TypeRef.make name .unknown none)
  else
    atPath path (TypeRef.make name kind (if kind = .object then classId else none))

def loadDependency (v : Value) (path : String) : Load Dependency := do
  let target ← loadTypeRef (← fieldsOf v path) path
  return ⟨target⟩

def loadParameterType (fields : Fields) (path : String) : Load TypeRef :=
  match fields.lookup "type" with
  | some (.text name) => atPath path (TypeRef.makePrimitive name)
  | some (.record entries) => loadTypeRef entries path
  | _ => fail path .noType

def loadParameter (v : Value) (path : String) : Load Parameter := do
  let fields ← fieldsOf v path
  let type ← loadParameterType fields (propertyPath path "type")
  let name ← requiredText fields "name" path
  let isRequired ← boolField fields "isRequired" path
  let hasMin ← boolField fields "hasMinValue" path
  let min? ← numberField fields "minValue" path
  let hasMax ← boolField fields "hasMaxValue" path
  let max? ← numberField fields "maxValue" path
  atPath path (Parameter.make name (some type) isRequired hasMin min? hasMax max?)

def loadOperation (v : Value) (path : String) : Load Operation := do
  let fields ← fieldsOf v path
  let items ← listField fields "parameters" path
  let parameters ← loadItems loadParameter (propertyPath path "parameters") 0 items
  let name ← requiredText fields "name" path
  atPath path (Operation.make name parameters)

def loadTag (v : Value) (path : String) : Load Tag := do
  let fields ← fieldsOf v path
  let value ←
    match (fields.lookup "value").getD .null with
    | .null => pure none
    | .bool b => pure (some (.bool b))
    | .number (.int n) => pure (some (.int n))
    | .text s => pure (some (.text s))
    | v => fail (propertyPath path "value") (.badTagValue v.typeName)
  let name ← requiredText fields "name" path
  atPath path (Tag.make name value)

def loadClass (v : Value) (path : String) : Load Class := do
  let fields ← fieldsOf v path
  let name ← requiredText fields "name" path
  let dependencies ← loadItems loadDependency (propertyPath path "dependencies") 0
    (← listField fields "dependencies" path)
  let operations ← loadItems loadOperation (propertyPath path "operations") 0
    (← listField fields "operations" path)
  let tags ← loadItems loadTag (propertyPath path "tags") 0 (← listField fields "tags" path)
  let id := textOr (← optionalText fields "id" path) name
  let stereotype ← optionalText fields "stereotypeName" path
  atPath path (Class.make id name stereotype dependencies operations tags)

/-- Reads classes and adds each to the model before the next is read. -/
def loadClasses (m : Model) : Nat → List Value → Load Model
  | _, [] => return m
  | index, v :: rest => do
    let path := itemPath "classes" index
    let c ← loadClass v path
    loadClasses (← atPath path (m.addClass c)) (index + 1) rest

def loadModel (data : Value) (defaultName : String) : Load Model := do
  let fields ← fieldsOf data ""
  let name := textOr (← optionalText fields "name" "") defaultName
  let items ← listField fields "classes" "classes"
  let m ← loadClasses (.empty name) 0 items
  report (.modelLoaded m.name m.classes.length)
  return m

end ServiceDiagram.Ingest

namespace ServiceDiagram

/-- The model that data describe: a record with the model's name and its classes, each a record with
dependencies, operations and tags. What is wrong is reported with its place. -/
def Model.load (data : Value) (defaultName : String) : Except LoadError Model :=
  ((Ingest.loadModel data defaultName).run.run []).1

end ServiceDiagram
