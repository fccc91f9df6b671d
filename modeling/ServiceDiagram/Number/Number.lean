import ServiceDiagram.Number.FloatText

namespace ServiceDiagram

/-- Numbers as bounds and values use them: integers of any size and binary64 numbers, compared by
the rationals they denote. -/
inductive Number where
  | int (n : Int)
  | float (x : Binary64)
  deriving DecidableEq

namespace Number

/-- A number as a point of the extended line: a rational or an end. NaN is no point. -/
inductive Point where
  | bottom
  | rational (r : Rat)
  | top

def point? : Number → Option Point
  | int n => some (.rational n)
  | float .nan => none
  | float (.infinite negative) => some (if negative then .bottom else .top)
  | float x => x.toRat?.map .rational

def Point.le : Point → Point → Bool
  | bottom, _ => true
  | _, top => true
  | rational a, rational b => decide (a ≤ b)
  | _, _ => false

/-- Order of numbers. NaN is not comparable with anything. -/
def le (a b : Number) : Bool :=
  match a.point?, b.point? with
  | some p, some q => p.le q
  | _, _ => false

/-- Strict order of numbers. -/
def lt (a b : Number) : Bool :=
  match a.point?, b.point? with
  | some p, some q => !q.le p
  | _, _ => false

/-- Equality by value. -/
def eqv (a b : Number) : Bool := a.le b && b.le a

def text : Number → String
  | int n => intText n
  | float x => x.text

/-- Whether a number can be written: an integer must not be too long. -/
def isShowable : Number → Bool
  | int n => isShowableInt n
  | float _ => true

/-- Whether a number has no fraction. -/
def isInteger : Number → Bool
  | int _ => true
  | float x => x.isInteger

end Number

end ServiceDiagram
