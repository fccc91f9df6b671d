import ServiceDiagram.Diagram.Class
import ServiceDiagram.Value.Display

namespace ServiceDiagram

/-- A sequence of parts; one part alone has a comma after it. -/
def tupleText (parts : List String) : String :=
  match parts with
  | [one] => "(" ++ one ++ ",)"
  | _ => "(" ++ commaSeparated parts ++ ")"

def optionalText {α : Type} (show? : α → String) : Option α → String
  | some a => show? a
  | none => "None"

/-- A node with its fields by name. -/
def nodeText (name : String) (fields : List (String × String)) : String :=
  callText name (fields.map fun (field, value) => field ++ "=" ++ value)

def TargetKind.memberName : TargetKind → String
  | object => "OBJECT"
  | primitive => "PRIMITIVE"
  | unknown => "UNKNOWN"

def TargetKind.display (k : TargetKind) : String :=
  "<TargetKind." ++ k.memberName ++ ": " ++ Text.quoted k.label ++ ">"

def TypeRef.display (t : TypeRef) : String :=
  nodeText "TypeRef" [("name", Text.quoted t.name), ("kind", t.kind.display),
    ("class_id", optionalText Text.quoted t.classId)]

def Dependency.display (d : Dependency) : String :=
  nodeText "Dependency" [("target", d.target.display)]

def TagValue.display : TagValue → String
  | bool b => boolText b
  | int n => intText n
  | text s => Text.quoted s

def Tag.display (t : Tag) : String :=
  nodeText "Tag" [("name", Text.quoted t.name), ("value", optionalText TagValue.display t.value)]

def Parameter.display (p : Parameter) : String :=
  nodeText "Parameter" [("name", Text.quoted p.name), ("type", p.type.display),
    ("is_required", boolText p.isRequired), ("has_min_value", boolText p.hasMin),
    ("min_value", optionalText Number.text p.min?), ("has_max_value", boolText p.hasMax),
    ("max_value", optionalText Number.text p.max?)]

/-- Whether the bounds of a parameter can be shown. -/
def Parameter.isShowable (p : Parameter) : Bool :=
  p.min?.all Number.isShowable && p.max?.all Number.isShowable

def Operation.display (o : Operation) : String :=
  nodeText "Operation" [("name", Text.quoted o.name),
    ("parameters", tupleText (o.parameters.map Parameter.display))]

def Class.display (c : Class) : String :=
  nodeText "Class" [("id", Text.quoted c.id), ("name", Text.quoted c.name),
    ("stereotype_name", optionalText Text.quoted c.stereotype),
    ("dependencies", tupleText (c.dependencies.map Dependency.display)),
    ("operations", tupleText (c.operations.map Operation.display)),
    ("tags", tupleText (c.tags.map Tag.display))]

end ServiceDiagram
