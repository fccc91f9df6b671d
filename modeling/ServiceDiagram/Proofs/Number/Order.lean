import Mathlib.Order.WithBot
import ServiceDiagram.Number.Number
import ServiceDiagram.Proofs.Number.Decimal

namespace ServiceDiagram

namespace Binary64

/-- The rational that a finite number is. -/
theorem toRat?_finite (negative : Bool) (m : Nat) (e : Int)
    (canonical : Canonical m e) :
    (finite negative m e canonical).toRat? =
      some ((if negative then -1 else 1) * (m * 2 ^ e) : ℚ) := by
  have value := Decimal.magnitude_value m e
  simp only [toRat?, Rat.mkRat_eq_div, ← value]
  cases negative with
  | false => simp
  | true => simp [neg_div]

end Binary64

namespace Number

/-- The line of the rationals with an end on each side. -/
abbrev Line := WithBot (WithTop ℚ)

def Line.rational (r : ℚ) : Line := WithBot.some (WithTop.some r)

theorem Line.rational_injective : Function.Injective Line.rational :=
  WithBot.coe_injective.comp WithTop.coe_injective

@[simp]
theorem Line.rational_ne_bot (r : ℚ) : Line.rational r ≠ ⊥ := WithBot.coe_ne_bot

@[simp]
theorem Line.rational_ne_top (r : ℚ) : Line.rational r ≠ ⊤ :=
  WithBot.coe_injective.ne (WithTop.coe_ne_top : (r : WithTop ℚ) ≠ ⊤)

/-- The place of a number on the line. -/
def place? : Number → Option Line
  | int n => some (Line.rational n)
  | float .nan => none
  | float (.infinite negative) => some (if negative then ⊥ else ⊤)
  | float (.finite negative m e _) =>
    some (Line.rational ((if negative then -1 else 1) * (m * 2 ^ e)))

/-- The exact order: both numbers have places, and the first is not beyond the second. -/
def AtMost (a b : Number) : Prop := ∃ x ∈ a.place?, ∃ y ∈ b.place?, x ≤ y

def Point.place : Point → Line
  | bottom => ⊥
  | rational r => Line.rational r
  | top => ⊤

/-- Points are compared by their places on the line. -/
theorem Point.le_iff (p q : Point) : p.le q = true ↔ p.place ≤ q.place := by
  cases p with
  | bottom => simp [Point.le, Point.place]
  | rational a =>
    cases q with
    | bottom => simp [Point.le, Point.place]
    | rational b => simp [Point.le, Point.place, Line.rational]
    | top => simp [Point.le, Point.place]
  | top =>
    cases q with
    | bottom => simp [Point.le, Point.place]
    | rational b => simp [Point.le, Point.place]
    | top => simp [Point.le, Point.place]

theorem place?_eq (n : Number) : n.place? = n.point?.map Point.place := by
  cases n with
  | int n => rfl
  | float x =>
    cases x with
    | nan => rfl
    | infinite negative => cases negative <;> rfl
    | finite negative m e canonical =>
      simp only [point?, Binary64.toRat?_finite]
      rfl

/-- Comparison is that of places. -/
theorem le_iff (a b : Number) : a.le b = true ↔ a.AtMost b := by
  unfold AtMost le
  rw [place?_eq, place?_eq]
  cases a.point? with
  | none => simp
  | some p =>
    cases b.point? with
    | none => simp
    | some q => simpa using Point.le_iff p q

/-- A number has no fraction if its place is that of an integer. -/
theorem isInteger_iff (n : Number) :
    n.isInteger = true ↔ ∃ k : Int, n.place? = some (Line.rational k) := by
  cases n with
  | int n => exact ⟨fun _ => ⟨n, rfl⟩, fun _ => rfl⟩
  | float x =>
    cases x with
    | nan => simp [isInteger, Binary64.isInteger, Binary64.toRat?, place?]
    | infinite negative =>
      cases negative <;>
        simp [isInteger, Binary64.isInteger, Binary64.toRat?, place?, (Line.rational_ne_bot _).symm,
          (Line.rational_ne_top _).symm]
    | finite negative m e canonical =>
      simp only [isInteger, Binary64.isInteger, Binary64.toRat?_finite, place?, beq_iff_eq,
        Rat.den_eq_one_iff]
      constructor
      · intro whole
        exact ⟨_, by rw [whole]⟩
      · rintro ⟨k, same⟩
        have value := Line.rational_injective (Option.some.inj same)
        rw [value, Rat.num_intCast]

end Number
end ServiceDiagram
