import ServiceDiagram.Json.Printer
import ServiceDiagram.Pattern.Basic
import ServiceDiagram.Text.Quoted

namespace ServiceDiagram

/-- An argument of a clause. A text is given by its code points, since escapes may put surrogates
into it that stand alone. -/
inductive RuleArg where
  | bool (b : Bool)
  | number (n : Number)
  | text (points : List Nat)
  | pattern (p : Pattern)

/-- The text of an argument; of a pattern its flags are left out. -/
def RuleArg.format : RuleArg → String
  | bool b => Json.boolText b
  | number n => Json.numberText n
  | text points => String.ofList (Json.pointsLiteral points)
  | pattern p => "/" ++ p.text ++ "/"

structure RuleClause where
  name : String
  args : List RuleArg

/-- The text of a clause, its arguments with a comma and a space between them. -/
def RuleClause.format (c : RuleClause) : String :=
  c.name ++ "(" ++ String.intercalate ", " (c.args.map RuleArg.format) ++ ")"

/-- Validation rules: a chain of clauses after a leading name, such as
`Joi.number().min(1).required()`. The first clause names the kind of value, the others limit it. -/
structure Rule where
  root : String
  clauses : List RuleClause
  nonempty : clauses ≠ []

namespace Rule

/-- A rule from its leading name and its clauses, of which there must be one. -/
def ofClauses? (root : String) (clauses : List RuleClause) : Option Rule :=
  if h : clauses ≠ [] then some ⟨root, clauses, h⟩ else none

/-- The message for a rule without clauses. -/
def emptyMessage : String := "rule must have at least a base clause"

/-- The clause that names the kind of value. -/
def base (r : Rule) : RuleClause := r.clauses.head r.nonempty

def kind (r : Rule) : String := r.base.name

/-- Whether the rule rejects missing input. -/
def isRequired (r : Rule) : Bool := r.clauses.any fun c => c.name == "required"

def clauseNames (r : Rule) : List String := r.clauses.map RuleClause.name

/-- The first clause with a name. -/
def find? (r : Rule) (name : String) : Option RuleClause :=
  r.clauses.find? fun c => c.name == name

end Rule

/-- What is wrong with the text of a rule or with a clause. -/
inductive RuleFault where
  | noRoot
  | noDot (offset : Nat)
  | noClauseName (offset : Nat)
  | noParenthesis (name : String)
  | noClauses
  | openArguments
  | noComma (offset : Nat)
  | badString (offset : Nat)
  | badPattern (offset : Nat) (reason : String)
  | unreadable (offset : Nat)
  | openLiteral (quote : Char)
  | unknownKind (kind : String)
  | unknownClause (name kind : String)
  | patternExpected
  | oneArgumentExpected (name : String)
  | numberExpected (name : String)
  deriving DecidableEq, Repr

def RuleFault.message : RuleFault → String
  | noRoot => "must start with a namespace identifier"
  | noDot offset => "expected '.' at offset " ++ intText offset
  | noClauseName offset => "expected clause name at offset " ++ intText offset
  | noParenthesis name => "expected '(' after '" ++ name ++ "'"
  | noClauses => "no clauses"
  | openArguments => "unterminated argument list"
  | noComma offset => "expected ',' or ')' at offset " ++ intText offset
  | badString offset => "bad string literal at offset " ++ intText offset
  | badPattern offset reason => "bad regex literal at offset " ++ intText offset ++ ": " ++ reason
  | unreadable offset => "unreadable argument at offset " ++ intText offset
  | openLiteral quote => "unterminated " ++ String.singleton quote ++ " literal"
  | unknownKind kind => "unsupported base kind '" ++ kind ++ "'"
  | unknownClause name kind => "unsupported clause '" ++ name ++ "' on " ++ kind
  | patternExpected => "pattern expects one regex literal"
  | oneArgumentExpected name => name ++ " expects one argument"
  | numberExpected name => name ++ " expects a number"

/-- A rule or clause that is malformed, with its text. -/
structure RuleError where
  expression : String
  fault : RuleFault
  deriving DecidableEq, Repr

/-- The message for a malformed text. -/
def malformedRuleMessage (expression reason : String) : String :=
  "Malformed rule " ++ Text.quoted expression ++ ": " ++ reason

def RuleError.message (e : RuleError) : String :=
  malformedRuleMessage e.expression e.fault.message

end ServiceDiagram
