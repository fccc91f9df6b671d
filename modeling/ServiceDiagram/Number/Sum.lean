namespace ServiceDiagram

/-- The sum of numbers; nought if there are none. -/
def sumOf (ns : List Nat) : Nat := ns.foldr (· + ·) 0

theorem sumOf_cons (n : Nat) (ns : List Nat) : sumOf (n :: ns) = n + sumOf ns := rfl

theorem sumOf_append (ns ms : List Nat) : sumOf (ns ++ ms) = sumOf ns + sumOf ms := by
  induction ns with
  | nil => simp [sumOf]
  | cons n ns ih => simp [sumOf_cons, ih, Nat.add_assoc]

end ServiceDiagram
