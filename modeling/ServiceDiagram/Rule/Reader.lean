import ServiceDiagram.Json.StringLiteral
import ServiceDiagram.Pattern.Reader
import ServiceDiagram.Rule.Basic
import ServiceDiagram.Text.Blank
import ServiceDiagram.Text.Replace
import ServiceDiagram.Text.Word

namespace ServiceDiagram

/-- Why a rule cannot be read. -/
inductive RuleReadError where
  | malformed (e : RuleError)
  | tooManyDigits (digits : Nat)
  | patternCountTooLarge
  | patternFlags
  deriving DecidableEq, Repr

def RuleReadError.message : RuleReadError → String
  | malformed e => e.message
  | tooManyDigits digits => digitLimitMessage digits
  | patternCountTooLarge => Pattern.Fault.message [] .countTooLarge
  | patternFlags => Pattern.Fault.message [] .contradictoryFlags

namespace Rule.Reader

/-- A fault found while reading, before the text of the rule is put to it. -/
inductive ArgFault where
  | rule (fault : RuleFault)
  | tooManyDigits (digits : Nat)
  | patternCountTooLarge
  | patternFlags

/-- Reads a name: an ASCII letter or an underscore, then word characters. -/
def takeName? : List Char → Option (List Char × List Char)
  | [] => none
  | c :: rest =>
    if Text.isAsciiLetter c || c == '_' then
      let (name, after) := rest.span Text.isWord
      some (c :: name, after)
    else none

/-- Splits a text at the first quote that no backslash precedes; a backslash takes the character
after it along. -/
def untilQuote? (quote : Char) : List Char → Option (List Char × List Char)
  | [] => none
  | c :: rest =>
    if c = '\\' then
      match rest with
      | [] => none
      | d :: more => (untilQuote? quote more).map fun (body, after) => (c :: d :: body, after)
    else if c = quote then some ([], rest)
    else (untilQuote? quote rest).map fun (body, after) => (c :: body, after)

/-- The body of a JSON string from the text between two apostrophes: quotation marks are
escaped, and apostrophes are not. -/
def requote (body : List Char) : List Char :=
  let plain := Text.replaceAll ['\\', '"'] ['"'] body
  let escaped := Text.replaceAll ['"'] ['\\', '"'] plain
  Text.replaceAll ['\\', '\''] ['\''] escaped

/-- The flags that letters after a pattern stand for, and what follows them. -/
def takeFlags : List Char → Pattern.Flags × List Char
  | [] => ([], [])
  | c :: rest =>
    match c with
    | 'i' => let (fs, after) := takeFlags rest; (Pattern.Flags.add fs .ignoreCase, after)
    | 'm' => let (fs, after) := takeFlags rest; (Pattern.Flags.add fs .multiLine, after)
    | 's' => let (fs, after) := takeFlags rest; (Pattern.Flags.add fs .dotAll, after)
    | _ => ([], c :: rest)

/-- The parts of the text of a number. -/
structure Numeral where
  negative : Bool
  whole : List Char
  fraction : List Char
  exponent : Option (Bool × List Char)

/-- Reads digits after a point; none are read if no digit follows it. -/
def takeFraction : List Char → List Char × List Char
  | '.' :: rest =>
    let (ds, after) := rest.span Text.isDigit
    if ds.isEmpty then ([], '.' :: rest) else (ds, after)
  | cs => ([], cs)

/-- Reads an exponent; none is read if no digit follows its mark. -/
def takeExponent : List Char → Option (Bool × List Char) × List Char
  | [] => (none, [])
  | c :: rest =>
    if c = 'e' ∨ c = 'E' then
      let (negative, digits) := takeSign rest
      let (ds, after) := digits.span Text.isDigit
      if ds.isEmpty then (none, c :: rest) else (some (negative, ds), after)
    else (none, c :: rest)

/-- Reads the text of a number. -/
def takeNumeral? (cs : List Char) : Option (Numeral × List Char) :=
  let (negative, body) :=
    match cs with
    | '-' :: rest => (true, rest)
    | _ => (false, cs)
  let (whole, rest) := body.span Text.isDigit
  if whole.isEmpty then none
  else
    let (fraction, rest) := takeFraction rest
    let (exponent, rest) := takeExponent rest
    some (⟨negative, whole, fraction, exponent⟩, rest)

/-- The number that digits of any script denote. -/
def digitsValue (ds : List Char) : Nat :=
  ofDigitValues 10 (ds.map fun c => (Text.digitValue? c).getD 0)

/-- The number that a text denotes: an integer unless it has a fraction or an exponent. -/
def Numeral.value (x : Numeral) : Except ArgFault Number :=
  match x.fraction, x.exponent with
  | [], none =>
    if digitLimit < x.whole.length then .error (.tooManyDigits x.whole.length)
    else
      let n : Int := digitsValue x.whole
      .ok (.int (if x.negative then -n else n))
  | places, exponent =>
    let power : Int :=
      match exponent with
      | none => 0
      | some (negative, ds) => if negative then -(digitsValue ds : Int) else digitsValue ds
    .ok (.float (Decimal.toBinary64 x.negative
      ⟨digitsValue (x.whole ++ places), power - (places.length : Int)⟩))

/-- Reads a string between quotes of one kind; `offset` is the place of the first. -/
def readText (quote : Char) (offset : Nat) (rest : List Char) :
    Except ArgFault (RuleArg × List Char) :=
  match untilQuote? quote rest with
  | none => .error (.rule (.openLiteral quote))
  | some (body, after) =>
    match Json.unquote? (if quote = '\'' then requote body else body) with
    | some points => .ok (.text points, after)
    | none => .error (.rule (.badString offset))

/-- Reads a pattern after its first slash, which stands at `offset`. -/
def readPattern (offset : Nat) (rest : List Char) : Except ArgFault (RuleArg × List Char) :=
  match untilQuote? '/' rest with
  | none => .error (.rule (.openLiteral '/'))
  | some (body, after) =>
    let (flags, after) := takeFlags after
    match Pattern.compile body flags with
    | .ok p => .ok (.pattern p, after)
    | .error .countTooLarge => .error .patternCountTooLarge
    | .error .contradictoryFlags => .error .patternFlags
    | .error fault => .error (.rule (.badPattern offset (fault.message body)))

/-- Reads the argument at the front of a text; `offset` is its place in the rule. -/
def readArg (offset : Nat) (cs : List Char) : Except ArgFault (RuleArg × List Char) :=
  match cs with
  | '\'' :: rest => readText '\'' offset rest
  | '"' :: rest => readText '"' offset rest
  | '/' :: rest => readPattern offset rest
  | _ =>
    if "true".toList.isPrefixOf cs then .ok (.bool true, cs.drop 4)
    else if "false".toList.isPrefixOf cs then .ok (.bool false, cs.drop 5)
    else
      match takeNumeral? cs with
      | some (x, rest) => x.value.map fun n => (.number n, rest)
      | none => .error (.rule (.unreadable offset))

/-- Reads arguments up to the closing parenthesis, with the blanks before the first; `total` is
the length of the whole rule. An empty list has no arguments at all. -/
def readArgs (total : Nat) : Nat → Bool → List Char → Except ArgFault (List RuleArg × List Char)
  | 0, _, _ => .error (.rule .openArguments)
  | fuel + 1, first, cs =>
    match cs.dropWhile Text.isBlank with
    | [] => .error (.rule .openArguments)
    | c :: rest =>
      if first && c == ')' then .ok ([], rest)
      else do
        let (arg, afterArg) ← readArg (total - (c :: rest).length) (c :: rest)
        match afterArg.dropWhile Text.isBlank with
        | [] => .error (.rule .openArguments)
        | ')' :: after => .ok ([arg], after)
        | ',' :: more =>
          let (args, after) ← readArgs total fuel false more
          .ok (arg :: args, after)
        | other => .error (.rule (.noComma (total - other.length)))

/-- Reads clauses to the end of a rule. -/
def readClauses (total : Nat) : Nat → List Char → Except ArgFault (List RuleClause)
  | _, [] => .ok []
  | 0, cs => .error (.rule (.noDot (total - cs.length)))
  | fuel + 1, '.' :: cs => do
    match takeName? cs with
    | none => .error (.rule (.noClauseName (total - cs.length)))
    | some (name, '(' :: inner) =>
      let (args, rest) ← readArgs total (inner.length + 1) true inner
      let clauses ← readClauses total fuel rest
      .ok (⟨String.ofList name, args⟩ :: clauses)
    | some (name, _) => .error (.rule (.noParenthesis (String.ofList name)))
  | _, cs => .error (.rule (.noDot (total - cs.length)))

/-- Reads the leading name and the clauses of a rule. -/
def readParts (cs : List Char) : Except ArgFault (String × List RuleClause) := do
  match takeName? cs with
  | none => .error (.rule .noRoot)
  | some (root, rest) =>
    let clauses ← readClauses cs.length (rest.length + 1) rest
    .ok (String.ofList root, clauses)

/-- The fault with the text in which it was found. -/
def ArgFault.toReadError (expression : String) : ArgFault → RuleReadError
  | .rule fault => .malformed ⟨expression, fault⟩
  | .tooManyDigits digits => .tooManyDigits digits
  | .patternCountTooLarge => .patternCountTooLarge
  | .patternFlags => .patternFlags

end Rule.Reader

open Rule.Reader in
/-- The rule that a text of Unicode characters denotes; surrogates come into a rule by escapes
alone. Blanks may stand around arguments and nowhere else. A string is written between quotation
marks as in JSON, or between apostrophes; a pattern between slashes, with letters for its flags
after it. -/
def Rule.read (expression : String) : Except RuleReadError Rule :=
  match readParts expression.toList with
  | .error e => .error (e.toReadError expression)
  | .ok (root, clauses) =>
    match Rule.ofClauses? root clauses with
    | some r => .ok r
    | none => .error (.malformed ⟨expression, .noClauses⟩)

end ServiceDiagram
