import ServiceDiagram.Text.Quoted
import ServiceDiagram.Value.Basic

namespace ServiceDiagram

/-- Truth values as messages write them. -/
def boolText (b : Bool) : String := if b then "True" else "False"

/-- Texts with a comma and a space between them. -/
def commaSeparated (parts : List String) : String := String.intercalate ", " parts

/-- A call of a constructor. -/
def callText (name : String) (args : List String) : String :=
  name ++ "(" ++ commaSeparated args ++ ")"

def Date.display (d : Date) : String :=
  callText "datetime.date" [intText d.year, intText d.month, intText d.day]

/-- A length of time given in microseconds: its days, seconds and microseconds that are not
nought. -/
def durationText (micros : Int) : String :=
  let days := Int.fdiv micros 86400000000
  let rest := Int.fmod micros 86400000000
  let fields := [("days", days), ("seconds", rest / 1000000), ("microseconds", rest % 1000000)]
  let shown := fields.filter fun (_, n) => n != 0
  callText "datetime.timedelta"
    (if shown.isEmpty then ["0"] else shown.map fun (name, n) => name ++ "=" ++ intText n)

def Offset.display (o : Offset) : String :=
  if o.micros = 0 then "datetime.timezone.utc"
  else callText "datetime.timezone" [durationText o.micros]

/-- Seconds are shown if they or the microseconds are not nought, microseconds if they are not. -/
def DateTime.display (t : DateTime) : String :=
  let d := t.date
  let k := t.time
  let fine :=
    if k.micro ≠ 0 then [k.second, k.micro] else if k.second ≠ 0 then [k.second] else []
  let fields := [d.year, d.month, d.day, k.hour, k.minute] ++ fine
  let zone := (t.offset?.map fun o => ["tzinfo=" ++ o.display]).getD []
  callText "datetime.datetime" (fields.map (fun (n : Nat) => intText n) ++ zone)

namespace Value

mutual

/-- The text that shows a value in messages: texts in quotes, lists in brackets, records in braces.
-/
def display : Value → String
  | null => "None"
  | bool b => boolText b
  | number n => n.text
  | text s => Text.quoted s
  | list items => "[" ++ commaSeparated (displayItems items) ++ "]"
  | record entries => "\x7b" ++ commaSeparated (displayEntries entries) ++ "\x7d"
  | date d => d.display
  | dateTime t => t.display
  | foreign => "<object>"

def displayItems : List Value → List String
  | [] => []
  | v :: rest => display v :: displayItems rest

def displayEntries : List (String × Value) → List String
  | [] => []
  | (k, v) :: rest => (Text.quoted k ++ ": " ++ display v) :: displayEntries rest

end

mutual

/-- Whether a value can be shown: no integer in it is too long. -/
def isShowable : Value → Bool
  | number n => n.isShowable
  | list items => areShowable items
  | record entries => entriesAreShowable entries
  | _ => true

def areShowable : List Value → Bool
  | [] => true
  | v :: rest => isShowable v && areShowable rest

def entriesAreShowable : List (String × Value) → Bool
  | [] => true
  | (_, v) :: rest => isShowable v && entriesAreShowable rest

end

end Value

end ServiceDiagram
