import ServiceDiagram.Number.IntText
import ServiceDiagram.Number.Sum

namespace ServiceDiagram

namespace Calendar

def isLeap (year : Nat) : Bool :=
  year % 4 == 0 && (year % 100 != 0 || year % 400 == 0)

def daysInMonth (year month : Nat) : Nat :=
  if month = 2 then (if isLeap year then 29 else 28)
  else if month = 4 ∨ month = 6 ∨ month = 9 ∨ month = 11 then 30
  else 31

/-- The days of a year before its month. -/
def daysBeforeMonth (year month : Nat) : Nat :=
  sumOf ((List.range (month - 1)).map fun i => daysInMonth year (i + 1))

/-- The days before a year. -/
def daysBeforeYear (year : Nat) : Nat :=
  let y := year - 1
  y * 365 + y / 4 - y / 100 + y / 400

/-- The month and day of the day with a number within a year, counted from nought. -/
def monthDay (year : Nat) : Nat → Nat → Nat × Nat
  | 0, n => (12, n + 1)
  | left + 1, n =>
    let month := 12 - left
    if n < daysInMonth year month then (month, n + 1)
    else monthDay year left (n - daysInMonth year month)

end Calendar

open Calendar in
/-- Whether year, month and day name a day of the calendar. -/
def Date.Valid (year month day : Nat) : Prop :=
  1 ≤ year ∧ year ≤ 9999 ∧ 1 ≤ month ∧ month ≤ 12 ∧ 1 ≤ day ∧ day ≤ daysInMonth year month

instance Date.decidableValid (year month day : Nat) : Decidable (Date.Valid year month day) := by
  unfold Date.Valid; infer_instance

/-- Days of the Gregorian calendar, years 1 to 9999. Days are numbered from 1 January of year 1,
which is day 1; a number outside the calendar names the last day. -/
structure Date where
  year : Nat
  month : Nat
  day : Nat
  valid : Date.Valid year month day
  deriving DecidableEq

namespace Date

open Calendar

def ofFields? (year month day : Nat) : Option Date :=
  if h : Valid year month day then some ⟨year, month, day, h⟩ else none

/-- The last day of the calendar. -/
def last : Date := ⟨9999, 12, 31, by decide⟩

/-- The number of a day. -/
def ordinal (d : Date) : Nat :=
  daysBeforeYear d.year + daysBeforeMonth d.year d.month + d.day

/-- The day of the week, Monday being nought, of the day with a number. -/
def weekdayOf (ordinal : Nat) : Nat := (ordinal + 6) % 7

/-- Year, month and day of the day with a number: whole periods of 400, 100, 4 and 1 years are
taken off first. -/
def fieldsOfOrdinal (n : Nat) : Nat × Nat × Nat :=
  let n := n - 1
  let n400 := n / 146097
  let n := n % 146097
  let n100 := min (n / 36524) 3
  let n := n - n100 * 36524
  let n4 := n / 1461
  let n := n % 1461
  let n1 := min (n / 365) 3
  let n := n - n1 * 365
  let year := n400 * 400 + n100 * 100 + n4 * 4 + n1 + 1
  let (month, day) := monthDay year 12 n
  (year, month, day)

def ofOrdinal (n : Nat) : Date :=
  let (year, month, day) := fieldsOfOrdinal n
  (ofFields? year month day).getD last

/-- The day that lies `days` days later. -/
def plusDays (d : Date) (days : Nat) : Date := ofOrdinal (d.ordinal + days)

/-- The decimal text of a number, filled up with noughts to a width. -/
def padded (width n : Nat) : List Char :=
  let ds := natDigits n
  List.replicate (width - ds.length) '0' ++ ds

/-- The text `YYYY-MM-DD` of a day. -/
def isoText (d : Date) : List Char :=
  padded 4 d.year ++ '-' :: padded 2 d.month ++ '-' :: padded 2 d.day

end Date

end ServiceDiagram
