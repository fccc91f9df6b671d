import ServiceDiagram.Diagram.Parameter
import ServiceDiagram.Json.Printer
import ServiceDiagram.Text.Blank

namespace ServiceDiagram

/-- Makes further clauses begin with a dot; blanks around them are dropped. -/
def normalizeAddOn (addOn : String) : String :=
  let cs := Text.strip addOn.toList
  String.ofList (if cs.head? = some '.' then cs else '.' :: cs)

/-- A bound that is no number. -/
structure BoundError where
  typeName : String
  deriving DecidableEq, Repr

def BoundError.message (e : BoundError) : String := "bound must be a number, got " ++ e.typeName

/-- The text of a bound in a rule. -/
def boundLiteral : Value → Except BoundError String
  | .number n => .ok (Json.numberText n)
  | v => .error ⟨v.typeName⟩

/-- A clause with a bound, if it is declared. -/
def boundClause (name : String) (declared : Bool) (bound : Option Number) : String :=
  match declared, bound with
  | true, some n => "." ++ name ++ "(" ++ Json.numberText n ++ ")"
  | _, _ => ""

/-- The clauses of a type that follow its kind; none if they are absent or empty. -/
def addOnClauses (addOn : Option String) : String :=
  match addOn with
  | some s => if s = "" then "" else normalizeAddOn s
  | none => ""

/-- The rule of a parameter whose type has a kind and perhaps further clauses: the kind, these
clauses, the declared bounds, lower before upper, and last whether it is required. -/
def ruleText (p : Parameter) (kind : String) (addOn : Option String) (root : String) : String :=
  root ++ "." ++ kind ++ "()" ++ addOnClauses addOn ++ boundClause "min" p.hasMin p.min? ++
    boundClause "max" p.hasMax p.max? ++ if p.isRequired then ".required()" else ""

end ServiceDiagram
