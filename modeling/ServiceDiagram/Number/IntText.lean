import ServiceDiagram.Text.Blank
import ServiceDiagram.Text.Digit

namespace ServiceDiagram

/-- The decimal digits of a natural number. -/
def natDigits (n : Nat) : List Char := Nat.toDigits 10 n

/-- The decimal text of an integer. -/
def intText (n : Int) : String :=
  if n < 0 then "-" ++ String.ofList (natDigits n.natAbs) else String.ofList (natDigits n.natAbs)

/-- The most digits that decimal text of an integer may have. -/
def digitLimit : Nat := 4300

/-- The message for decimal text with too many digits. -/
def digitLimitMessage (digits : Nat) : String :=
  s!"Exceeds the limit ({digitLimit} digits) for integer string conversion: value has {digits} " ++
    "digits; use sys.set_int_max_str_digits() to increase the limit"

/-- Whether an integer can be written: it has no more digits than the limit. -/
@[irreducible]
def isShowableInt (n : Int) : Bool := decide (n.natAbs < Nat.pow 10 digitLimit)

/-- The message for an integer that has too many digits to be written. -/
def unshowableMessage : String :=
  s!"Exceeds the limit ({digitLimit} digits) for integer string conversion; " ++
    "use sys.set_int_max_str_digits() to increase the limit"

/-- A message that ends in an integer, or the one that this cannot be written. -/
def messageWithInt (before : String) (n : Int) : String :=
  if isShowableInt n then before ++ intText n else unshowableMessage

/-- Blanks that may surround a number: all but the four ASCII separators. -/
def isNumberBlank (c : Char) : Bool :=
  Text.isBlank c && !(decide (28 ≤ c.toNat) && decide (c.toNat ≤ 31))

/-- Drops the blanks around a number. -/
def stripNumber (cs : List Char) : List Char :=
  ((cs.dropWhile isNumberBlank).reverse.dropWhile isNumberBlank).reverse

/-- Reads a row of digits in which single underscores may stand between digits; gives their
values and what follows them. -/
def takeDigits (value? : Char → Option Nat) (digitBefore : Bool) :
    List Char → List Nat × List Char
  | [] => ([], [])
  | c :: rest =>
    match value? c with
    | some v =>
      let (vs, after) := takeDigits value? true rest
      (v :: vs, after)
    | none =>
      if c = '_' ∧ digitBefore ∧ (rest.head?.bind value?).isSome then
        takeDigits value? false rest
      else ([], c :: rest)

/-- The number that digits denote in a base. -/
def ofDigitValues (base : Nat) (vs : List Nat) : Nat := vs.foldl (fun n v => base * n + v) 0

/-- Reads a sign; true stands for minus. -/
def takeSign : List Char → Bool × List Char
  | '-' :: rest => (true, rest)
  | '+' :: rest => (false, rest)
  | cs => (false, cs)

/-- Reads decimal text of an integer. -/
def readInt? (s : String) : Option Int :=
  let (negative, cs) := takeSign (stripNumber s.toList)
  match takeDigits Text.digitValue? false cs with
  | (v :: vs, []) =>
    if digitLimit < vs.length + 1 then none
    else
      let n : Int := ofDigitValues 10 (v :: vs)
      some (if negative then -n else n)
  | _ => none

/-- The value of a hexadecimal digit; decimal digits may be of any script. -/
def hexDigitValue? (c : Char) : Option Nat := Text.digitValue? c <|> Text.hexValue? c

/-- Drops the mark `0x` that may open hexadecimal text, and one underscore after it. -/
def dropHexMark : List Char → List Char
  | '0' :: x :: rest =>
    if x = 'x' ∨ x = 'X' then (match rest with | '_' :: more => more | _ => rest)
    else '0' :: x :: rest
  | cs => cs

/-- Reads hexadecimal text of an integer. -/
def readHex? (cs : List Char) : Option Int :=
  let (negative, body) := takeSign (stripNumber cs)
  match takeDigits hexDigitValue? false (dropHexMark body) with
  | (v :: vs, []) =>
    let n : Int := ofDigitValues 16 (v :: vs)
    some (if negative then -n else n)
  | _ => none

end ServiceDiagram
