import ServiceDiagram.Json.StringLiteral
import ServiceDiagram.Value.Basic

namespace ServiceDiagram.Json

/-- The text of a binary64 number; the three that are no numbers of the format have names. -/
def floatText : Binary64 → String
  | .nan => "NaN"
  | .infinite negative => if negative then "-Infinity" else "Infinity"
  | x => x.text

def numberText : Number → String
  | .int n => intText n
  | .float x => floatText x

def boolText (b : Bool) : String := if b then "true" else "false"

def textLiteral (s : String) : String := String.ofList (stringLiteral s.toList)

/-- Order of properties by name, code point by code point. -/
def entryLe (a b : String × Value) : Bool := decide (a.1 ≤ b.1)

mutual

/-- A value with the properties of every record in it sorted by name. -/
def sorted : Value → Value
  | .list items => .list (sortedItems items)
  | .record entries => .record ((sortedEntries entries).mergeSort entryLe)
  | v => v

def sortedItems : List Value → List Value
  | [] => []
  | v :: rest => sorted v :: sortedItems rest

def sortedEntries : List (String × Value) → List (String × Value)
  | [] => []
  | (k, v) :: rest => (k, sorted v) :: sortedEntries rest

end

mutual

/-- The text of a value; none if a value of a foreign type is in it. One space stands after each
comma and colon, strings are printable ASCII, days and points in time are strings in ISO form. -/
def print? : Value → Option String
  | .null => some "null"
  | .bool b => some (boolText b)
  | .number n => some (numberText n)
  | .text s => some (textLiteral s)
  | .list items => (printItems? items).map fun parts => "[" ++ String.intercalate ", " parts ++ "]"
  | .record entries =>
    (printEntries? entries).map fun parts =>
      "\x7b" ++ String.intercalate ", " parts ++ "\x7d"
  | .date d => some (textLiteral (String.ofList d.isoText))
  | .dateTime t => some (textLiteral (String.ofList t.isoText))
  | .foreign => none

def printItems? : List Value → Option (List String)
  | [] => some []
  | v :: rest => do
    let part ← print? v
    let parts ← printItems? rest
    some (part :: parts)

def printEntries? : List (String × Value) → Option (List String)
  | [] => some []
  | (k, v) :: rest => do
    let part ← print? v
    let parts ← printEntries? rest
    some ((textLiteral k ++ ": " ++ part) :: parts)

end

/-- The text of a value with every record in it sorted. -/
def printSorted? (v : Value) : Option String := print? (sorted v)

end ServiceDiagram.Json
