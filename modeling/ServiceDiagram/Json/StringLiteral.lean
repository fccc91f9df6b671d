import ServiceDiagram.Json.Error
import ServiceDiagram.Text.Digit

namespace ServiceDiagram.Json

/-- An escape by code unit. -/
def unitEscape (n : Nat) : List Char := '\\' :: 'u' :: Text.hexText 4 n

/-- A character inside a literal. -/
def escapeChar (c : Char) : List Char :=
  if c = '"' then ['\\', '"']
  else if c = '\\' then ['\\', '\\']
  else if c = '\n' then ['\\', 'n']
  else if c = '\r' then ['\\', 'r']
  else if c = '\t' then ['\\', 't']
  else if c = Char.ofNat 8 then ['\\', 'b']
  else if c = Char.ofNat 12 then ['\\', 'f']
  else
    let n := c.toNat
    if 0x20 ≤ n ∧ n ≤ 0x7E then [c]
    else if n < 0x10000 then unitEscape n
    else unitEscape (0xD800 + (n - 0x10000) / 0x400) ++ unitEscape (0xDC00 + (n - 0x10000) % 0x400)

/-- The literal of a text. It is printable ASCII: all other characters are escaped, those beyond the
basic plane as two surrogates. -/
def stringLiteral (cs : List Char) : List Char := '"' :: cs.flatMap escapeChar ++ ['"']

/-- Whether a code point is a surrogate, which is no character. -/
def isSurrogate (n : Nat) : Bool := decide (0xD800 ≤ n) && decide (n < 0xE000)

/-- A code point inside a literal. -/
def escapePoint (n : Nat) : List Char :=
  if isSurrogate n then unitEscape n else escapeChar (Char.ofNat n)

/-- The literal of a text that may hold surrogates. -/
def pointsLiteral (points : List Nat) : List Char := '"' :: points.flatMap escapePoint ++ ['"']

/-- The character that a short escape stands for. -/
def shortEscape? (c : Char) : Option Char :=
  if c = '"' ∨ c = '\\' ∨ c = '/' then some c
  else if c = 'b' then some (Char.ofNat 8)
  else if c = 'f' then some (Char.ofNat 12)
  else if c = 'n' then some '\n'
  else if c = 'r' then some '\r'
  else if c = 't' then some '\t'
  else none

/-- The code unit that four hexadecimal digits name. -/
def unitOfHex? (a b c d : Char) : Option Nat := do
  let a ← Text.hexValue? a
  let b ← Text.hexValue? b
  let c ← Text.hexValue? c
  let d ← Text.hexValue? d
  some (((a * 16 + b) * 16 + c) * 16 + d)

/-- Reads the code units of a literal up to its closing quote; gives them and what follows.
`opened` is the length of the text from the opening quote on. A unit escape must not end the
text. -/
def readUnits (opened : Nat) : List Char → Except ReadError (List Nat × List Char)
  | [] => .error (.malformed .openString opened)
  | c :: rest =>
    if c = '"' then .ok ([], rest)
    else if c = '\\' then
      match rest with
      | [] => .error (.malformed .openString opened)
      | e :: more =>
        if e = 'u' then
          match more with
          | h1 :: h2 :: h3 :: h4 :: after =>
            match after, unitOfHex? h1 h2 h3 h4 with
            | _ :: _, some n => (readUnits opened after).map fun (us, r) => (n :: us, r)
            | _, _ => .error (.malformed .badUnicodeEscape rest.length)
          | _ => .error (.malformed .badUnicodeEscape rest.length)
        else
          match shortEscape? e with
          | some t => (readUnits opened more).map fun (us, r) => (t.toNat :: us, r)
          | none => .error (.malformed .badEscape (c :: rest).length)
    else if c.toNat < 0x20 then .error (.malformed .controlCharacter (c :: rest).length)
    else (readUnits opened rest).map fun (us, r) => (c.toNat :: us, r)

def isHighSurrogate (n : Nat) : Bool := decide (0xD800 ≤ n) && decide (n < 0xDC00)

def isLowSurrogate (n : Nat) : Bool := decide (0xDC00 ≤ n) && decide (n < 0xE000)

/-- The code points of code units, surrogates that belong together joined. -/
def joinUnits : List Nat → List Nat
  | [] => []
  | [a] => [a]
  | a :: b :: rest =>
    if isHighSurrogate a && isLowSurrogate b then
      (0x10000 + (a - 0xD800) * 0x400 + (b - 0xDC00)) :: joinUnits rest
    else a :: joinUnits (b :: rest)

/-- Reads a literal after its opening quote; gives the code points of its text and what follows.
Surrogates that belong together are joined; others stay alone. The literal itself may hold any
character but controls. -/
def readString (cs : List Char) : Except ReadError (List Nat × List Char) :=
  (readUnits (cs.length + 1) cs).map fun (us, rest) => (joinUnits us, rest)

/-- The code points of the text of a literal given without its quotes. -/
def unquote? (body : List Char) : Option (List Nat) :=
  match readString (body ++ ['"']) with
  | .ok (points, []) => some points
  | _ => none

/-- The character of a code point; a surrogate gives the replacement character. -/
def charOfPoint (n : Nat) : Char :=
  if isSurrogate n then Char.ofNat 0xFFFD else Char.ofNat n

/-- The text of code points, as far as they are characters. -/
def textOfPoints (points : List Nat) : String := String.ofList (points.map charOfPoint)

end ServiceDiagram.Json
