namespace ServiceDiagram.Text

/-- Whether a code point lies in one of the ranges, the form in which character properties are
published. The ranges increase, so the search stops at the first one that begins above the code
point. -/
def inRanges (n : Nat) : List (Nat × Nat) → Bool
  | [] => false
  | (lo, hi) :: rest => if n < lo then false else decide (n ≤ hi) || inRanges n rest

end ServiceDiagram.Text
