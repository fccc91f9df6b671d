import ServiceDiagram.Calendar.Iso
import ServiceDiagram.Format.Email
import ServiceDiagram.Format.Uri
import ServiceDiagram.Format.Uuid
import ServiceDiagram.Pattern.Matcher
import ServiceDiagram.Rule.Reader
import ServiceDiagram.Value.Basic

namespace ServiceDiagram

/-- Why a rule gives no verdict on a value. -/
inductive CheckError where
  | rule (e : RuleError)
  | incomparable (operator left right : String)
  | authority (e : Uri.AuthorityError)
  deriving DecidableEq, Repr

def CheckError.message : CheckError → String
  | rule e => e.message
  | incomparable operator left right =>
    "'" ++ operator ++ "' not supported between instances of '" ++ left ++ "' and '" ++ right ++ "'"
  | authority e => e.message

namespace Rule

/-- Whether a value is a day, a point in time, or the text of one. -/
def isDateLike : Value → Bool
  | .date _ => true
  | .dateTime _ => true
  | .text s => Iso.isIso s
  | _ => false

/-- Whether a value is of the kind that a rule names. -/
def matchesKind (r : Rule) (v : Value) : Except CheckError Bool :=
  match r.kind with
  | "any" => .ok true
  | "string" => .ok (match v with | .text _ => true | _ => false)
  | "number" => .ok (match v with | .number _ => true | _ => false)
  | "boolean" => .ok (match v with | .bool _ => true | _ => false)
  | "date" => .ok (isDateLike v)
  | "object" => .ok (match v with | .record _ => true | _ => false)
  | "array" => .ok (match v with | .list _ => true | _ => false)
  | kind => .error (.rule ⟨r.base.format, .unknownKind kind⟩)

/-- The one argument of a clause that must be a number. -/
def singleNumber (c : RuleClause) : Except CheckError Number :=
  match c.args with
  | [.number n] => .ok n
  | [_] => .error (.rule ⟨c.format, .numberExpected c.name⟩)
  | _ => .error (.rule ⟨c.format, .oneArgumentExpected c.name⟩)

/-- What bounds measure: the length of a text or a list, a number itself. -/
def measure? : Value → Option Number
  | .text s => some (.int s.length)
  | .list items => some (.int items.length)
  | v => v.number?

/-- Judges a value by a bound; `least` tells whether it is a lower one. -/
def checkBound (least : Bool) (c : RuleClause) (v : Value) : Except CheckError Bool := do
  let limit ← singleNumber c
  match measure? v with
  | some size => .ok (if least then limit.le size else size.le limit)
  | none =>
    .error (.incomparable (if least then ">=" else "<=") v.qualifiedTypeName
      (Value.number limit).typeName)

/-- Whether a value is a number without a fraction. -/
def isWhole (v : Value) : Bool := (v.number?.map Number.isInteger).getD false

/-- Judges a value by a pattern clause. -/
def checkPattern (c : RuleClause) (v : Value) : Except CheckError Bool :=
  match c.args with
  | [.pattern p] => .ok (match v with | .text s => p.search s | _ => false)
  | _ => .error (.rule ⟨c.format, .patternExpected⟩)

/-- Judges a value by a clause after the first. -/
def checkClause (r : Rule) (c : RuleClause) (v : Value) : Except CheckError Bool :=
  match c.name with
  | "required" => .ok true
  | "min" => checkBound true c v
  | "max" => checkBound false c v
  | "integer" => .ok (isWhole v)
  | "email" => .ok (match v with | .text s => Email.accepts s | _ => false)
  | "uri" =>
    match v with
    | .text s => (Uri.accepts s).mapError .authority
    | _ => .ok false
  | "guid" | "uuid" => .ok (match v with | .text s => (Uuid.read? s).isSome | _ => false)
  | "iso" => .ok (isDateLike v)
  | "pattern" => checkPattern c v
  | name => .error (.rule ⟨c.format, .unknownClause name r.kind⟩)

/-- Judges a value by clauses in order, up to the first that fails. -/
def checkClauses (r : Rule) (v : Value) : List RuleClause → Except CheckError Bool
  | [] => .ok true
  | c :: rest => do
    if ← checkClause r c v then checkClauses r v rest else return false

/-- Whether a rule accepts a value. The kind is judged first, then the clauses in order until one
fails; a clause that is not reached is not looked at. -/
def check (r : Rule) (v : Value) : Except CheckError Bool := do
  if ← matchesKind r v then checkClauses r v r.clauses.tail else return false

/-- Whether a rule accepts input that is missing. -/
def checkMissing (r : Rule) : Bool := !r.isRequired

end Rule

end ServiceDiagram
