import ServiceDiagram.Calendar.DateTime
import ServiceDiagram.Number.Number

namespace ServiceDiagram

/-- Values that rules judge, filters expect, samplers produce and ingestion data are made of. -/
inductive Value where
  | null
  | bool (b : Bool)
  | number (n : Number)
  | text (s : String)
  | list (items : List Value)
  | record (entries : List (String × Value))
  | date (d : Date)
  | dateTime (t : DateTime)
  /-- A value of a type that this library knows nothing about. -/
  | foreign

namespace Value

instance instInhabited : Inhabited Value := ⟨null⟩

abbrev int (n : Int) : Value := .number (.int n)

abbrev float (x : Binary64) : Value := .number (.float x)

/-- The name of a value's type. -/
def typeName : Value → String
  | null => "NoneType"
  | bool _ => "bool"
  | number (.int _) => "int"
  | number (.float _) => "float"
  | text _ => "str"
  | list _ => "list"
  | record _ => "dict"
  | date _ => "date"
  | dateTime _ => "datetime"
  | foreign => "object"

/-- The name of a value's type with the module that defines it, where there is one. -/
def qualifiedTypeName : Value → String
  | date _ => "datetime.date"
  | dateTime _ => "datetime.datetime"
  | v => v.typeName

/-- The number that a value counts as. -/
def number? : Value → Option Number
  | number n => some n
  | bool b => some (.int (if b then 1 else 0))
  | _ => none

mutual

/-- Equality by meaning: truth values count as 1 and 0, integers and binary64 numbers are equal when
they denote one point, NaN equals nothing, and records do not mind order. -/
def eqv : Value → Value → Bool
  | null, null => true
  | text a, text b => a == b
  | list xs, list ys => eqvItems xs ys
  | record xs, record ys => xs.length == ys.length && eqvEntries xs ys
  | date a, date b => a == b
  | dateTime a, dateTime b => a.sameTime b
  | bool a, w =>
    match w.number? with
    | some n => Number.eqv (.int (if a then 1 else 0)) n
    | none => false
  | number a, w =>
    match w.number? with
    | some n => a.eqv n
    | none => false
  | _, _ => false

def eqvItems : List Value → List Value → Bool
  | [], [] => true
  | v :: vs, w :: ws => eqv v w && eqvItems vs ws
  | _, _ => false

def eqvEntries : List (String × Value) → List (String × Value) → Bool
  | [], _ => true
  | (k, v) :: rest, ys =>
    (match ys.lookup k with
      | some w => eqv v w
      | none => false) && eqvEntries rest ys

end

/-- Whether a value may be part of a key: lists and records may not. -/
def isKey : Value → Bool
  | list _ => false
  | record _ => false
  | _ => true

end Value

end ServiceDiagram
