namespace ServiceDiagram

/-- The canonical form of `m * 2 ^ e`: the significand fills 53 bits, unless the exponent is
the least one. -/
def Binary64.Canonical (m : Nat) (e : Int) : Prop :=
  m < Nat.pow 2 53 ∧ -1074 ≤ e ∧ e ≤ 971 ∧ (Nat.pow 2 52 ≤ m ∨ e = -1074)

instance Binary64.decidableCanonical (m : Nat) (e : Int) : Decidable (Binary64.Canonical m e) := by
  unfold Binary64.Canonical; infer_instance

/-- Binary floating-point numbers of 64 bits. A finite number carries its significand and exponent
in the one canonical form, so two numbers are the same datum exactly when their fields are.
Arithmetic is exact on rationals and rounds once, to nearest with ties to even. -/
inductive Binary64 where
  | nan
  | infinite (negative : Bool)
  | finite (negative : Bool) (m : Nat) (e : Int) (canonical : Binary64.Canonical m e)
  deriving DecidableEq

namespace Binary64

/-- The quotient rounded to the nearest integer, a half to the even one. -/
def roundDiv (num den : Nat) : Nat :=
  let q := num / den
  let r := num % den
  if 2 * r < den then q
  else if den < 2 * r then q + 1
  else if q % 2 = 0 then q else q + 1

/-- `num / den` in units of `2 ^ e`, as a numerator and a denominator. -/
def inUnits (num den : Nat) (e : Int) : Nat × Nat :=
  if 0 ≤ e then (num, den * Nat.pow 2 e.toNat) else (num * Nat.pow 2 (-e).toNat, den)

/-- The exponent of the binary64 grid around `num / den`. -/
def gridExponent (num den : Nat) : Int :=
  let e : Int := (num.log2 : Int) - (den.log2 : Int) - 53
  let (n, d) := inUnits num den e
  max (if Nat.pow 2 53 * d ≤ n then e + 1 else e) (-1074)

/-- A number from a significand and an exponent; what has no canonical form is infinite. -/
def ofParts (negative : Bool) (m : Nat) (e : Int) : Binary64 :=
  if h : Canonical m e then .finite negative m e h else .infinite negative

def zero (negative : Bool) : Binary64 := ofParts negative 0 (-1074)

/-- The binary64 number nearest to `num / den`. -/
def ofRatio (negative : Bool) (num den : Nat) : Binary64 :=
  if num = 0 then zero negative
  else
    let e := gridExponent num den
    let (n, d) := inUnits num den e
    let m := roundDiv n d
    if m = Nat.pow 2 53 then ofParts negative (Nat.pow 2 52) (e + 1) else ofParts negative m e

/-- The binary64 number nearest to a rational. -/
def ofRat (r : Rat) : Binary64 := ofRatio (decide (r < 0)) r.num.natAbs r.den

/-- The magnitude `m * 2 ^ e` as a numerator and a denominator. -/
def magnitude (m : Nat) (e : Int) : Nat × Nat :=
  if 0 ≤ e then (m * Nat.pow 2 e.toNat, 1) else (m, Nat.pow 2 (-e).toNat)

/-- The rational that a finite number denotes. -/
def toRat? : Binary64 → Option Rat
  | finite negative m e _ =>
    let (n, d) := magnitude m e
    some (mkRat (if negative then -(n : Int) else n) d)
  | _ => none

def isFinite : Binary64 → Bool
  | finite .. => true
  | _ => false

/-- Whether a number is finite and has no fraction. -/
def isInteger (x : Binary64) : Bool :=
  match x.toRat? with
  | some r => r.den == 1
  | none => false

end Binary64

end ServiceDiagram
