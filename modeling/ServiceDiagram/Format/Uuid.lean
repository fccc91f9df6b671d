import ServiceDiagram.Number.IntText
import ServiceDiagram.Text.Replace

namespace ServiceDiagram.Uuid

def isBrace (c : Char) : Bool := c == '\x7b' || c == '\x7d'

/-- The text without marks, outer braces and hyphens. -/
def bare (cs : List Char) : List Char :=
  let unmarked := Text.replaceAll "uuid:".toList [] (Text.replaceAll "urn:".toList [] cs)
  let inner := ((unmarked.dropWhile isBrace).reverse.dropWhile isBrace).reverse
  inner.filter (· != '-')

/-- The bits that an identifier's text names. The text may carry the marks `urn:` and `uuid:`,
braces around it and hyphens anywhere. -/
def read? (s : String) : Option Nat :=
  let cs := bare s.toList
  if cs.length = 32 then
    match readHex? cs with
    | some n => if 0 ≤ n ∧ n < Nat.pow 2 128 then some n.toNat else none
    | none => none
  else none

/-- The bits of a random identifier made from 128 random bits: the version is four, and the
variant is the one of the standard. -/
def ofRandomBits (bits : Nat) : Nat :=
  let low := bits % Nat.pow 2 62 + Nat.pow 2 63
  let high := bits / Nat.pow 2 64 % Nat.pow 2 64
  let high := high / Nat.pow 2 16 * Nat.pow 2 16 + (Nat.pow 2 14 + high % Nat.pow 2 12)
  high * Nat.pow 2 64 + low

/-- The text of an identifier: 32 hexadecimal digits in groups of 8, 4, 4, 4 and 12. -/
def text (bits : Nat) : String :=
  let ds := Text.hexText 32 bits
  String.ofList (ds.take 8 ++ '-' :: (ds.drop 8).take 4 ++ '-' :: (ds.drop 12).take 4 ++
    '-' :: (ds.drop 16).take 4 ++ '-' :: ds.drop 20)

end ServiceDiagram.Uuid
