import ServiceDiagram.Diagram.TypeRef
import ServiceDiagram.Text.Identifier
import ServiceDiagram.Value.Basic

namespace ServiceDiagram

/-- Why a generator gives no value: the kind of the error and its message. -/
structure GeneratorError where
  kind : String
  message : String
  deriving DecidableEq, Repr

/-- A generator answers its calls one after the other, each with a value unless it fails; the calls
are counted from nought. -/
abbrev Generator := Nat → Except GeneratorError Value

inductive DescriptorError where
  | emptyKind
  | badKind (kind : String)
  | noGenerator
  deriving DecidableEq, Repr

def DescriptorError.message : DescriptorError → String
  | emptyKind => "structural_kind must not be empty"
  | badKind kind => "structural_kind must be an identifier, got " ++ Text.quoted kind
  | noGenerator => "mock_generator must be callable"

/-- What is known about a semantic type: the kind of value that rules begin with, further clauses,
and a generator of sample values. -/
structure TypeDescriptor where
  kind : String
  addOn : Option String
  generator : Generator
  identifier : Text.isIdentifier kind = true

namespace TypeDescriptor

def make (kind : String) (addOn : Option String) (generator : Option Generator) :
    Except DescriptorError TypeDescriptor :=
  if kind = "" then .error .emptyKind
  else if h : Text.isIdentifier kind = true then
    match generator with
    | some g => .ok ⟨kind, addOn, g, h⟩
    | none => .error .noGenerator
  else .error (.badKind kind)

end TypeDescriptor

end ServiceDiagram
