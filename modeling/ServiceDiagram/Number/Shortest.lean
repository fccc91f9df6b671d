import ServiceDiagram.Number.Binary64

namespace ServiceDiagram

/-- The magnitude `coefficient * 10 ^ exponent`. -/
structure Decimal where
  coefficient : Nat
  exponent : Int
  deriving DecidableEq, Repr

namespace Decimal

/-- The magnitude as a numerator and a denominator. -/
def ratio (d : Decimal) : Nat × Nat :=
  if 0 ≤ d.exponent then (d.coefficient * Nat.pow 10 d.exponent.toNat, 1)
  else (d.coefficient, Nat.pow 10 (-d.exponent).toNat)

/-- The count of decimal digits of a positive number. -/
def digitCount (n : Nat) : Nat := (Nat.toDigits 10 n).length

/-- The binary64 number nearest to a decimal. What lies far above the largest number is
infinite, and what lies far below the least one is zero, before any power of ten is taken. -/
def toBinary64 (negative : Bool) (d : Decimal) : Binary64 :=
  let places : Int := digitCount d.coefficient + d.exponent
  if d.coefficient = 0 ∨ places < -400 then .zero negative
  else if 400 < places then .infinite negative
  else Binary64.ofRatio negative d.ratio.1 d.ratio.2

/-- Drops noughts at the end of the coefficient, as many as `fuel` allows. -/
def trimNoughts : Nat → Decimal → Decimal
  | 0, d => d
  | fuel + 1, d =>
    if d.coefficient % 10 = 0 ∧ d.coefficient ≠ 0 then
      trimNoughts fuel ⟨d.coefficient / 10, d.exponent + 1⟩
    else d

/-- The place of the first digit of `num / den`: the least `k` with `num / den < 10 ^ k`,
for magnitudes that binary64 can hold. -/
def leadingPlace (num den : Nat) : Int := (digitCount (num * Nat.pow 10 400 / den) : Int) - 400

/-- The neighbour of `n / d` units that reads back as `x`, the nearer if both do. -/
def neighbour? (x : Binary64) (unit : Int) (n d : Nat) : Option Decimal :=
  let below : Decimal := ⟨n / d, unit⟩
  let above : Decimal := ⟨n / d + 1, unit⟩
  let reads (c : Decimal) : Bool := c.toBinary64 false == x
  match reads below, reads above with
  | true, true =>
    let r := n % d
    if 2 * r < d then some below
    else if d < 2 * r then some above
    else if below.coefficient % 2 = 0 then some below else some above
  | true, false => some below
  | false, true => some above
  | false, false => none

/-- The neighbour of `num / den` on the grid of decimals with `count` digits that reads back
as `x`. -/
def onGrid? (x : Binary64) (num den count : Nat) : Option Decimal :=
  let unit : Int := leadingPlace num den - count
  if 0 ≤ unit then neighbour? x unit num (den * Nat.pow 10 unit.toNat)
  else neighbour? x unit (num * Nat.pow 10 (-unit).toNat) den

/-- The shortest decimal that reads back as a positive finite number `m * 2 ^ e`. For each count of
digits only the two neighbours of the value on that decimal grid can read back as it if any number
there does; the nearer of those that do is taken, of two equally near the one with the even last
digit. -/
def shortest (m : Nat) (e : Int) : Decimal :=
  let (num, den) := Binary64.magnitude m e
  let x := Binary64.ofParts false m e
  let found := (List.range 17).findSome? fun i => onGrid? x num den (i + 1)
  trimNoughts 20 (found.getD ⟨num * Nat.pow 10 1100 / den, -1100⟩)

end Decimal

end ServiceDiagram
