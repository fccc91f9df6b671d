import ServiceDiagram.Json.StringLiteral
import ServiceDiagram.Table
import ServiceDiagram.Value.Basic

namespace ServiceDiagram.Json

/-- Whether a character may stand between the parts of a value. -/
def isSpace (c : Char) : Bool := c == ' ' || c == '\t' || c == '\n' || c == '\r'

def skipSpace (cs : List Char) : List Char := cs.dropWhile isSpace

/-- The record of properties in the order they were written. -/
def recordOf (entries : List (String × Value)) : Value := .record (Table.ofEntries entries)

/-- Splits the ASCII digits off the front. -/
def spanDigits (cs : List Char) : List Char × List Char := cs.span Text.isAsciiDigit

/-- The parts of a number's text. -/
structure Numeral where
  negative : Bool
  whole : List Char
  fraction : Option (List Char)
  exponent : Option (Bool × List Char)

/-- Reads a fraction if there is one. -/
def takeFraction : List Char → Option (List Char) × List Char
  | '.' :: rest =>
    let (ds, after) := spanDigits rest
    if ds.isEmpty then (none, '.' :: rest) else (some ds, after)
  | cs => (none, cs)

/-- Reads an exponent if there is one. -/
def takeExponent : List Char → Option (Bool × List Char) × List Char
  | [] => (none, [])
  | c :: rest =>
    if c = 'e' ∨ c = 'E' then
      let (negative, digits) := takeSign rest
      let (ds, after) := spanDigits digits
      if ds.isEmpty then (none, c :: rest) else (some (negative, ds), after)
    else (none, c :: rest)

/-- Reads the text of a number. A nought in front stands alone. -/
def readNumeral? (cs : List Char) : Option (Numeral × List Char) :=
  let (negative, body) :=
    match cs with
    | '-' :: rest => (true, rest)
    | _ => (false, cs)
  let (whole, rest) :=
    match body with
    | '0' :: rest => (['0'], rest)
    | _ => spanDigits body
  if whole.isEmpty then none
  else
    let (fraction, rest) := takeFraction rest
    let (exponent, rest) := takeExponent rest
    some (⟨negative, whole, fraction, exponent⟩, rest)

/-- The number that ASCII digits denote. -/
def digitsValue (ds : List Char) : Nat := ds.foldl (fun n c => 10 * n + (c.toNat - '0'.toNat)) 0

/-- The number that a text denotes. -/
def Numeral.value (x : Numeral) : Except ReadError Number :=
  match x.fraction, x.exponent with
  | none, none =>
    if digitLimit < x.whole.length then .error (.tooManyDigits x.whole.length)
    else
      let n : Int := digitsValue x.whole
      .ok (.int (if x.negative then -n else n))
  | fraction, exponent =>
    let places := fraction.getD []
    let power : Int :=
      match exponent with
      | none => 0
      | some (negative, ds) => if negative then -(digitsValue ds : Int) else digitsValue ds
    .ok (.float (Decimal.toBinary64 x.negative
      ⟨digitsValue (x.whole ++ places), power - (places.length : Int)⟩))

/-- The values that are written as words. -/
def words : List (String × Value) :=
  [("null", .null), ("true", .bool true), ("false", .bool false), ("NaN", .float .nan),
   ("Infinity", .float (.infinite false)), ("-Infinity", .float (.infinite true))]

/-- Reads a value that is a word or a number. -/
def readPlain (cs : List Char) : Except ReadError (Value × List Char) :=
  match words.find? fun w => w.1.toList.isPrefixOf cs with
  | some (w, v) => .ok (v, cs.drop w.length)
  | none =>
    match readNumeral? cs with
    | some (x, rest) => x.value.map fun n => (.number n, rest)
    | none => .error (.malformed .noValue cs.length)

mutual

/-- Reads a value at the front of a text; the fuel bounds how deep it nests and how long its
parts are. -/
def readValue : Nat → List Char → Except ReadError (Value × List Char)
  | 0, cs => .error (.malformed .noValue cs.length)
  | fuel + 1, cs =>
    match cs with
    | '"' :: rest =>
      (readString rest).map fun (points, after) => (.text (textOfPoints points), after)
    | '\x7b' :: rest =>
      match skipSpace rest with
      | '\x7d' :: after => .ok (.record [], after)
      | body => (readEntries fuel body).map fun (es, after) => (recordOf es, after)
    | '[' :: rest =>
      match skipSpace rest with
      | ']' :: after => .ok (.list [], after)
      | body => (readItems fuel body).map fun (vs, after) => (.list vs, after)
    | _ => readPlain cs

/-- Reads the items of a list up to its closing bracket. -/
def readItems : Nat → List Char → Except ReadError (List Value × List Char)
  | 0, cs => .error (.malformed .noValue cs.length)
  | fuel + 1, cs => do
    let (v, rest) ← readValue fuel cs
    match skipSpace rest with
    | ']' :: after => .ok ([v], after)
    | ',' :: more =>
      let (vs, after) ← readItems fuel (skipSpace more)
      .ok (v :: vs, after)
    | other => .error (.malformed .noComma other.length)

/-- Reads the properties of a record up to its closing brace. -/
def readEntries : Nat → List Char → Except ReadError (List (String × Value) × List Char)
  | 0, cs => .error (.malformed .noValue cs.length)
  | fuel + 1, cs =>
    match cs with
    | '"' :: quoted => do
      let (points, rest) ← readString quoted
      match skipSpace rest with
      | ':' :: more =>
        let (v, rest) ← readValue fuel (skipSpace more)
        let entry := (textOfPoints points, v)
        match skipSpace rest with
        | '\x7d' :: after => .ok ([entry], after)
        | ',' :: more =>
          let (es, after) ← readEntries fuel (skipSpace more)
          .ok (entry :: es, after)
        | other => .error (.malformed .noComma other.length)
      | other => .error (.malformed .noColon other.length)
    | _ => .error (.malformed .noPropertyName cs.length)

end

/-- Reads a text that is one value with space around it. Besides the format's own values the words
`NaN`, `Infinity` and `-Infinity` are numbers. A number with a fraction or an exponent is a binary64
number, any other an integer of any size up to the limit on digits. Of several properties with one
name the last value stands at the place of the first. -/
def read (cs : List Char) : Except ReadError Value :=
  if cs.head? = some (Char.ofNat 0xFEFF) then .error (.malformed .byteOrderMark cs.length)
  else
    match readValue (2 * cs.length + 2) (skipSpace cs) with
    | .error e => .error e
    | .ok (v, rest) =>
      match skipSpace rest with
      | [] => .ok v
      | other => .error (.malformed .extraData other.length)

end ServiceDiagram.Json
