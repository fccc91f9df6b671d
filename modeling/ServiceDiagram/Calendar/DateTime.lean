import ServiceDiagram.Calendar.Date

namespace ServiceDiagram

structure TimeOfDay where
  hour : Nat
  minute : Nat
  second : Nat
  micro : Nat
  valid : hour < 24 ∧ minute < 60 ∧ second < 60 ∧ micro < 1000000
  deriving DecidableEq

namespace TimeOfDay

def ofFields? (hour minute second micro : Nat) : Option TimeOfDay :=
  if h : hour < 24 ∧ minute < 60 ∧ second < 60 ∧ micro < 1000000 then
    some ⟨hour, minute, second, micro, h⟩
  else none

def midnight : TimeOfDay := ⟨0, 0, 0, 0, by decide⟩

/-- The time of day so many seconds after midnight, whole days left out. -/
def ofSeconds (n : Nat) : TimeOfDay :=
  ⟨n % 86400 / 3600, n % 3600 / 60, n % 60, 0, by omega⟩

/-- Microseconds since midnight. -/
def toMicros (t : TimeOfDay) : Nat :=
  ((t.hour * 60 + t.minute) * 60 + t.second) * 1000000 + t.micro

def isoText (t : TimeOfDay) : List Char :=
  Date.padded 2 t.hour ++ ':' :: Date.padded 2 t.minute ++ ':' :: Date.padded 2 t.second ++
    if t.micro = 0 then [] else '.' :: Date.padded 6 t.micro

end TimeOfDay

/-- A distance from universal time in microseconds, less than a day either way. -/
structure Offset where
  micros : Int
  bounded : -86400000000 < micros ∧ micros < 86400000000
  deriving DecidableEq

namespace Offset

def utc : Offset := ⟨0, by decide⟩

def ofMicros? (n : Int) : Option Offset :=
  if h : -86400000000 < n ∧ n < 86400000000 then some ⟨n, h⟩ else none

def isoText (o : Offset) : List Char :=
  let n := o.micros.natAbs
  let seconds := n / 1000000
  (if o.micros < 0 then '-' else '+') ::
    Date.padded 2 (seconds / 3600) ++ ':' :: Date.padded 2 (seconds / 60 % 60) ++
    (if seconds % 60 = 0 ∧ n % 1000000 = 0 then [] else ':' :: Date.padded 2 (seconds % 60)) ++
    (if n % 1000000 = 0 then [] else '.' :: Date.padded 6 (n % 1000000))

end Offset

/-- A point in time: a day, a time of day and, where it is known, a distance from universal time.
Points with a distance are compared as instants. -/
structure DateTime where
  date : Date
  time : TimeOfDay
  offset? : Option Offset
  deriving DecidableEq

namespace DateTime

/-- The point so many seconds after the start of a day. -/
def after (start : Date) (seconds : Nat) : DateTime :=
  ⟨start.plusDays (seconds / 86400), .ofSeconds seconds, none⟩

/-- Microseconds since the start of the calendar, by the point's own clock. -/
def localMicros (t : DateTime) : Int :=
  (t.date.ordinal : Int) * 86400000000 + t.time.toMicros

/-- Equality of points: by the clock if neither has a distance, as instants if both have. -/
def sameTime (a b : DateTime) : Bool :=
  match a.offset?, b.offset? with
  | none, none => a.localMicros == b.localMicros
  | some p, some q => a.localMicros - p.micros == b.localMicros - q.micros
  | _, _ => false

def isoText (t : DateTime) : List Char :=
  t.date.isoText ++ 'T' :: t.time.isoText ++ (t.offset?.map Offset.isoText).getD []

end DateTime

end ServiceDiagram
