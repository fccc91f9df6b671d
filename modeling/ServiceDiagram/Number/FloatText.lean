import ServiceDiagram.Number.IntText
import ServiceDiagram.Number.Shortest

namespace ServiceDiagram

namespace Decimal

/-- An exponent, with its sign and at least two digits. -/
def exponentText (e : Int) : List Char :=
  let ds := natDigits e.natAbs
  'e' :: (if e < 0 then '-' else '+') :: (if ds.length < 2 then '0' :: ds else ds)

/-- The text of a magnitude. -/
def text (d : Decimal) : List Char :=
  let ds := natDigits d.coefficient
  let place : Int := ds.length + d.exponent
  if -4 < place ∧ place ≤ 16 then
    if place ≤ 0 then '0' :: '.' :: (List.replicate (-place).toNat '0' ++ ds)
    else if 0 ≤ d.exponent then ds ++ List.replicate d.exponent.toNat '0' ++ ['.', '0']
    else ds.take place.toNat ++ '.' :: ds.drop place.toNat
  else
    match ds with
    | [] => []
    | c :: rest =>
      c :: (if rest.isEmpty then [] else '.' :: rest) ++ exponentText (place - 1)

end Decimal

namespace Binary64

/-- The magnitude of a finite number in text. -/
def magnitudeText (m : Nat) (e : Int) : String :=
  if m = 0 then "0.0" else String.ofList (Decimal.shortest m e).text

/-- The text of a number. -/
def text : Binary64 → String
  | nan => "nan"
  | infinite negative => if negative then "-inf" else "inf"
  | finite negative m e _ => (if negative then "-" else "") ++ magnitudeText m e

/-- Reads the exponent that may end a number. -/
def takeExponent? : List Char → Option (Int × List Char)
  | c :: rest =>
    if c = 'e' ∨ c = 'E' then
      let (negative, digits) := takeSign rest
      let (ds, after) := takeDigits Text.digitValue? false digits
      if ds.isEmpty then none
      else
        let n : Int := ofDigitValues 10 ds
        some (if negative then -n else n, after)
    else some (0, c :: rest)
  | [] => some (0, [])

/-- Reads an unsigned decimal number that is the whole text. -/
def ofDigits? (negative : Bool) (cs : List Char) : Option Binary64 :=
  let (whole, afterWhole) := takeDigits Text.digitValue? false cs
  let (fraction, afterFraction) :=
    match afterWhole with
    | '.' :: rest => takeDigits Text.digitValue? false rest
    | _ => ([], afterWhole)
  if whole.isEmpty && fraction.isEmpty then none
  else
    match takeExponent? afterFraction with
    | some (e, []) =>
      some (Decimal.toBinary64 negative
        ⟨ofDigitValues 10 (whole ++ fraction), e - (fraction.length : Int)⟩)
    | _ => none

/-- Reads a number. It may carry blanks around it, digits of any script, and single underscores
between digits. -/
def ofText? (s : String) : Option Binary64 :=
  let (negative, cs) := takeSign (stripNumber s.toList)
  let word := String.ofList (cs.map Char.toLower)
  if word = "nan" then some .nan
  else if word = "inf" ∨ word = "infinity" then some (.infinite negative)
  else ofDigits? negative cs

end Binary64

end ServiceDiagram
