import ServiceDiagram.Proofs.Number.Literal
import ServiceDiagram.Rule.Reader

namespace ServiceDiagram.Rule

/-- A name: an ASCII letter or an underscore, then word characters. -/
@[ext]
structure NameTree where
  first : Char
  rest : List Char
  isFirst : (Text.isAsciiLetter first || first == '_') = true
  areWords : ∀ c ∈ rest, Text.isWord c = true

namespace NameTree

def text (n : NameTree) : List Char := n.first :: n.rest

end NameTree

/-- Whether a text is a name as a whole. -/
def IsName (s : String) : Prop := ∃ n : NameTree, n.text = s.toList

/-- Blanks between the parts of a list of arguments. -/
@[ext]
structure Blanks where
  text : List Char
  blank : ∀ c ∈ text, Text.isBlank c = true

/-- The text between two quotes: each backslash takes the character after it along, and no quote
is left over. -/
inductive Enclosed (quote : Char) : List Char → Prop
  | nil : Enclosed quote []
  | escape {d body} : Enclosed quote body → Enclosed quote ('\\' :: d :: body)
  | plain {c body} : c ≠ '\\' → c ≠ quote → Enclosed quote body → Enclosed quote (c :: body)

/-- The body of a JSON string that a quoted text stands for. -/
def jsonBody (quote : Char) (body : List Char) : List Char :=
  if quote = '\'' then Reader.requote body else body

def isFlagLetter (c : Char) : Bool := c == 'i' || c == 'm' || c == 's'

/-- The flags that letters stand for. -/
def flagsOf : List Char → Pattern.Flags
  | [] => []
  | c :: rest => ((Pattern.Flag.ofLetter? c).map (flagsOf rest).add).getD (flagsOf rest)

/-- An argument with what it denotes. -/
inductive ArgTree where
  | number (text : List Char) (n : Number) (spelled : ∃ l : NumberLiteral, l.text = text)
      (denotes : numberOf? text = some n)
  | truth (b : Bool)
  | quoted (quote : Char) (body : List Char) (value : List Nat)
      (isQuote : quote = '\'' ∨ quote = '"') (enclosed : Enclosed quote body)
      (denotes : Json.unquote? (jsonBody quote body) = some value)
  | pattern (body flags : List Char) (p : Pattern) (enclosed : Enclosed '/' body)
      (areFlags : ∀ c ∈ flags, isFlagLetter c = true)
      (compiles : Pattern.compile body (flagsOf flags) = .ok p)

namespace ArgTree

def text : ArgTree → List Char
  | number text .. => text
  | truth b => if b then ['t', 'r', 'u', 'e'] else ['f', 'a', 'l', 's', 'e']
  | quoted quote body .. => quote :: (body ++ [quote])
  | pattern body flags .. => '/' :: (body ++ '/' :: flags)

def value : ArgTree → RuleArg
  | number _ n .. => .number n
  | truth b => .bool b
  | quoted _ _ value .. => .text value
  | pattern _ _ p .. => .pattern p

end ArgTree

/-- An argument with the blanks around it. -/
@[ext]
structure PaddedArg where
  before : Blanks
  arg : ArgTree
  after : Blanks

def PaddedArg.text (a : PaddedArg) : List Char := a.before.text ++ (a.arg.text ++ a.after.text)

/-- What stands between parentheses: blanks only, or arguments with commas between them. -/
inductive ArgsTree where
  | none (blanks : Blanks)
  | some (first : PaddedArg) (rest : List PaddedArg)

namespace ArgsTree

/-- The text of the arguments after the first. -/
def laterText (rest : List PaddedArg) : List Char := rest.flatMap fun a => ',' :: a.text

def text : ArgsTree → List Char
  | none blanks => blanks.text
  | some first rest => first.text ++ laterText rest

def values : ArgsTree → List RuleArg
  | none _ => []
  | some first rest => first.arg.value :: rest.map fun a => a.arg.value

end ArgsTree

@[ext]
structure ClauseTree where
  name : NameTree
  args : ArgsTree

namespace ClauseTree

def text (c : ClauseTree) : List Char := '.' :: (c.name.text ++ '(' :: (c.args.text ++ [')']))

def clause (c : ClauseTree) : RuleClause := ⟨String.ofList c.name.text, c.args.values⟩

end ClauseTree

/-- A derivation of a rule: a name and one clause or more. A clause is a dot, a name and arguments
in parentheses; blanks stand around arguments and nowhere else. The parts of a tree carry what the
grammar asks of them, its text is what it derives, and its rule is what it means. -/
@[ext]
structure RuleTree where
  root : NameTree
  first : ClauseTree
  rest : List ClauseTree

namespace RuleTree

def clauses (t : RuleTree) : List ClauseTree := t.first :: t.rest

def text (t : RuleTree) : List Char := t.root.text ++ t.clauses.flatMap ClauseTree.text

def rule (t : RuleTree) : Rule where
  root := String.ofList t.root.text
  clauses := t.clauses.map ClauseTree.clause
  nonempty := List.cons_ne_nil _ _

end RuleTree
end ServiceDiagram.Rule
