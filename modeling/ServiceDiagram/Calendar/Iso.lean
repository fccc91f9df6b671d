import ServiceDiagram.Calendar.DateTime
import ServiceDiagram.Text.Digit

namespace ServiceDiagram.Iso

/-- The number written by exactly `n` ASCII digits at the front, and what follows it. -/
def takeNumber? (n : Nat) (cs : List Char) : Option (Nat × List Char) :=
  let ds := cs.take n
  if ds.length = n ∧ ds.all Text.isAsciiDigit then
    some (ds.foldl (fun v c => 10 * v + (c.toNat - '0'.toNat)) 0, cs.drop n)
  else none

/-- Whether the text at place `i` is the character `c`. -/
def isAt (cs : List Char) (i : Nat) (c : Char) : Bool := cs[i]? == some c

/-- The length of the date at the front of a text. A week may be written with or without its
day; with hyphens the day is taken unless a digit follows where the time would begin, without
hyphens it is taken if an even number of digits follows the first two of the week. -/
def dateLength (cs : List Char) : Nat :=
  if cs.length = 7 then 7
  else if isAt cs 4 '-' then
    if isAt cs 5 'W' then
      if isAt cs 8 '-' then
        if ((cs[10]?).map Text.isAsciiDigit).getD false then 8 else 10
      else 8
    else 10
  else if isAt cs 4 'W' then
    let digits := ((cs.drop 7).takeWhile Text.isAsciiDigit).length
    if digits < 2 then 7 + digits else if digits % 2 = 1 then 7 else 8
  else 8

/-- The number of the Monday that begins week 1 of a year. -/
def firstMonday (year : Nat) : Int :=
  let first := Calendar.daysBeforeYear year + 1
  let weekday := Date.weekdayOf first
  let monday : Int := (first : Int) - weekday
  if 3 < weekday then monday + 7 else monday

/-- Whether a year has a week with this number: week 53 needs a year that begins on a
Thursday, or a leap year that begins on a Wednesday. -/
def hasWeek (year week : Nat) : Bool :=
  let weekday := Date.weekdayOf (Calendar.daysBeforeYear year + 1)
  decide (1 ≤ week ∧ week ≤ 52) ||
    week == 53 && (weekday == 3 || weekday == 2 && Calendar.isLeap year)

/-- The day that a year, a week and a day of the week name. -/
def ofWeek? (year week day : Nat) : Option Date :=
  if 1 ≤ year ∧ year ≤ 9999 ∧ hasWeek year week ∧ 1 ≤ day ∧ day ≤ 7 then
    let n := firstMonday year + ((week - 1) * 7 + day - 1 : Nat)
    if n < 1 ∨ 3652059 < n then none else some (Date.ofOrdinal n.toNat)
  else none

/-- Drops the hyphen that a date with hyphens has at this place. -/
def dropHyphen? (hyphens : Bool) (cs : List Char) : Option (List Char) :=
  if hyphens then (if cs.head? = some '-' then some cs.tail else none) else some cs

/-- Reads a date that occupies the first `length` characters. -/
def readDate? (cs : List Char) (length : Nat) : Option Date := do
  let (year, afterYear) ← takeNumber? 4 cs
  let hyphens := afterYear.head? == some '-'
  let rest := if hyphens then afterYear.tail else afterYear
  if rest.head? = some 'W' then
    let (week, afterWeek) ← takeNumber? 2 rest.tail
    if cs.length - afterWeek.length < length then
      let (day, _) ← takeNumber? 1 (← dropHyphen? hyphens afterWeek)
      ofWeek? year week day
    else ofWeek? year week 1
  else
    let (month, afterMonth) ← takeNumber? 2 rest
    let (day, _) ← takeNumber? 2 (← dropHyphen? hyphens afterMonth)
    Date.ofFields? year month day

/-- Hours, minutes, seconds and microseconds as they were written. -/
structure Clock where
  hour : Nat
  minute : Nat
  second : Nat
  micro : Nat

def Clock.zero : Clock := ⟨0, 0, 0, 0⟩

/-- Puts a number into the next field of a clock. -/
def Clock.set (k : Clock) : Nat → Nat → Clock
  | 0, v => { k with hour := v }
  | 1, v => { k with minute := v }
  | _, v => { k with second := v }

/-- Whether anything but the end, or a null character, comes next. -/
def continues : List Char → Bool → Bool
  | [], zoneFollows => zoneFollows
  | c :: _, _ => c != Char.ofNat 0

/-- Reads the fraction of a second, of which six digits count; tells whether more follows. -/
def readFraction? (k : Clock) (cs : List Char) (zoneFollows : Bool) : Option (Clock × Bool) := do
  let n := min cs.length 6
  let (v, rest) ← takeNumber? n cs
  some ({ k with micro := v * Nat.pow 10 (6 - n) },
    continues (rest.dropWhile Text.isAsciiDigit) zoneFollows)

/-- Reads the fields of a clock from field `field` on, of which `left` are still to come; tells
whether more follows, as a last character does if it is one of ASCII. The fields are parted by
colons or not at all, as after the first. -/
def readFields? (k : Clock) (colons : Bool) (zoneFollows : Bool) :
    Nat → Nat → List Char → Option (Clock × Bool)
  | 0, _, cs => readFraction? k cs zoneFollows
  | left + 1, field, cs => do
    let (v, rest) ← takeNumber? 2 cs
    let k := k.set field v
    let colons := if field = 0 then rest.head? == some ':' else colons
    match rest with
    | [] => some (k, zoneFollows)
    | c :: more =>
      if more.isEmpty && decide (c.toNat < 0x80) then some (k, c != Char.ofNat 0)
      else if colons && c == ':' then readFields? k colons zoneFollows left (field + 1) more
      else if c = '.' ∨ c = ',' then readFraction? k more zoneFollows
      else if colons then none
      else readFields? k colons zoneFollows left (field + 1) (c :: more)

/-- Reads a clock; tells whether more follows it. -/
def readClock? (cs : List Char) (zoneFollows : Bool) : Option (Clock × Bool) :=
  readFields? .zero true zoneFollows 3 0 cs

/-- The mark that opens a distance from universal time. -/
def isZoneMark (c : Char) : Bool := c == '+' || c == '-' || c == 'Z'

/-- Reads the distance from universal time after its mark. -/
def readZone? (mark : Char) (cs : List Char) : Option Offset := do
  if mark = 'Z' then
    if continues cs false then none else some .utc
  else
    let (k, more) ← readClock? cs false
    if more then none
    else
      let seconds : Int := k.hour * 3600 + k.minute * 60 + k.second
      let magnitude := if seconds = 0 then 0 else seconds * 1000000 + k.micro
      Offset.ofMicros? (if mark = '-' then -magnitude else magnitude)

/-- Reads a time of day with its distance from universal time. -/
def readTime? (cs : List Char) : Option (TimeOfDay × Option Offset) := do
  let body := cs.takeWhile fun c => !isZoneMark c
  match cs.drop body.length with
  | [] =>
    let (k, more) ← readClock? body false
    if more then none
    else
      let t ← TimeOfDay.ofFields? k.hour k.minute k.second k.micro
      some (t, none)
  | mark :: zone =>
    let (k, _) ← readClock? body true
    let offset ← readZone? mark zone
    let t ← TimeOfDay.ofFields? k.hour k.minute k.second k.micro
    some (t, some offset)

/-- Reads a point in time. The date is `YYYY-MM-DD`, `YYYYMMDD`, `YYYY-Www-D`, `YYYYWwwD`, or a week
without its day. After any one character may follow the time, `HH` to `HH:MM:SS` with or without the
colons, a fraction, and `Z` or a signed distance from universal time. -/
def readDateTime? (s : String) : Option DateTime := do
  let cs := s.toList
  if cs.length < 7 then none
  else
    let length := dateLength cs
    let date ← readDate? cs length
    match cs.drop length with
    | [] => some ⟨date, .midnight, none⟩
    | _ :: rest =>
      let (time, offset?) ← readTime? rest
      some ⟨date, time, offset?⟩

/-- Whether a text names a day or a point in time. -/
def isIso (s : String) : Bool := (readDateTime? s).isSome

end ServiceDiagram.Iso
