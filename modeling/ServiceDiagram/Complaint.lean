import ServiceDiagram.Diagram.Display
import ServiceDiagram.Ingest.Error
import ServiceDiagram.Rule.Basic
import ServiceDiagram.Views.Failure

namespace ServiceDiagram

/-- The errors of this library as a host program can make them itself, with their fields and the
message that the fields give. -/
inductive ComplaintKind where
  | general
  | configuration
  | missingCollaborator
  | modelLoad
  | ruleSyntax
  deriving DecidableEq, Repr

namespace ComplaintKind

def all : List ComplaintKind :=
  [general, configuration, missingCollaborator, modelLoad, ruleSyntax]

def name : ComplaintKind → String
  | general => "ArchMetaError"
  | configuration => "ConfigurationError"
  | missingCollaborator => "MissingCollaboratorError"
  | modelLoad => "ModelLoadError"
  | ruleSyntax => "RuleSyntaxError"

def ofName? (s : String) : Option ComplaintKind := all.find? fun k => k.name == s

/-- The names of the fields. -/
def fields : ComplaintKind → List String
  | general => []
  | configuration => ["scope", "name", "reason"]
  | missingCollaborator => ["class_name", "operation_name", "parameter_name", "type_name"]
  | modelLoad => ["path", "reason"]
  | ruleSyntax => ["expression", "reason"]

/-- The fields that must not be empty. -/
def requiredFields : ComplaintKind → List String
  | general => []
  | configuration => ["scope", "name", "reason"]
  | missingCollaborator => ["parameter_name"]
  | modelLoad => ["reason"]
  | ruleSyntax => ["reason"]

/-- The message for a field that is empty. -/
def emptyFieldMessage (k : ComplaintKind) (field : String) : String :=
  if k = modelLoad then field ++ " must be non-empty string" else field ++ " must not be empty"

/-- The kinds of errors that a complaint belongs to. -/
def categories : ComplaintKind → List String
  | general => [general.name]
  | missingCollaborator => [general.name, "LookupError"]
  | _ => [general.name, "ValueError"]

end ComplaintKind

inductive ComplaintError where
  | emptyField (kind : ComplaintKind) (field : String)
  | arity (e : Failure)

def ComplaintError.message : ComplaintError → String
  | emptyField kind field => kind.emptyFieldMessage field
  | arity e => e.message

structure Complaint where
  kind : ComplaintKind
  values : List String

namespace Complaint

/-- The fields with their values. -/
def attributes (c : Complaint) : List (String × String) := c.kind.fields.zip c.values

/-- A complaint with values for its fields. -/
def make (kind : ComplaintKind) (values : List String) : Except ComplaintError Complaint :=
  let expected := kind.fields.length
  let function := kind.name ++ ".__init__"
  if kind = .general then .ok ⟨kind, values⟩
  else if values.length < expected then
    .error (.arity (.missingArguments function (kind.fields.drop values.length)))
  else if expected < values.length then
    .error (.arity (.tooManyArguments function (expected + 1) (values.length + 1)))
  else
    let isBlank := fun (f, v) => v == "" && kind.requiredFields.contains f
    match (kind.fields.zip values).find? isBlank with
    | some (f, _) => .error (.emptyField kind f)
    | none => .ok ⟨kind, values⟩

def message (c : Complaint) : String :=
  match c.kind, c.values with
  | .configuration, [scope, name, reason] => conflictMessage name scope reason
  | .missingCollaborator, [className, operation, parameter, type] =>
    unresolvedTypeMessage className operation parameter type
  | .modelLoad, [path, reason] => invalidModelMessage path reason
  | .ruleSyntax, [expression, reason] => malformedRuleMessage expression reason
  | _, [] => ""
  | _, [text] => text
  | _, texts => tupleText (texts.map Text.quoted)

end Complaint

end ServiceDiagram
