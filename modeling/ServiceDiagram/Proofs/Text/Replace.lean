import ServiceDiagram.Text.Replace

namespace ServiceDiagram.Text

theorem replaceAll_nil (old new : List Char) : replaceAll old new [] = [] := by
  simp [replaceAll, replaceAfter]

/-- A character where nothing begins is left as it is. -/
theorem replaceAll_unmatched {old new rest : List Char} {c : Char}
    (unmatched : old.isPrefixOf (c :: rest) = false) :
    replaceAll old new (c :: rest) = c :: replaceAll old new rest := by
  simp [replaceAll, replaceAfter, unmatched]

theorem replaceAll_otherFirst {a c : Char} (other : a ≠ c) (old new rest : List Char) :
    replaceAll (a :: old) new (c :: rest) = c :: replaceAll (a :: old) new rest :=
  replaceAll_unmatched (by simp [List.isPrefixOf, other])

/-- Nothing is replaced where the first character of what is looked for does not occur. -/
theorem replaceAll_absent {c : Char} {old new cs : List Char} (absent : c ∉ cs) :
    replaceAll (c :: old) new cs = cs := by
  induction cs with
  | nil => exact replaceAll_nil _ _
  | cons d cs ih =>
    rw [replaceAll_otherFirst (List.ne_of_not_mem_cons absent),
      ih (List.not_mem_of_not_mem_cons absent)]

theorem replaceAll_otherSecond {c d : Char} {rest : List Char} (other : rest.head? ≠ some d)
    (new : List Char) : replaceAll [c, d] new (c :: rest) = c :: replaceAll [c, d] new rest := by
  refine replaceAll_unmatched ?_
  cases rest with
  | nil => simp [List.isPrefixOf]
  | cons e rest =>
    have noMatch : e ≠ d := by simpa using other
    simp [List.isPrefixOf, noMatch.symm]

theorem replaceAll_one (c : Char) (new rest : List Char) :
    replaceAll [c] new (c :: rest) = new ++ replaceAll [c] new rest := by
  simp [replaceAll, replaceAfter]

theorem replaceAll_two (c d : Char) (new rest : List Char) :
    replaceAll [c, d] new (c :: d :: rest) = new ++ replaceAll [c, d] new rest := by
  simp [replaceAll, replaceAfter]

/-- After a replacement a text begins with what is put in, or as it did. -/
theorem replaceAll_head? (old : List Char) (c : Char) (new cs : List Char) :
    (replaceAll old (c :: new) cs).head? = some c ∨
      (replaceAll old (c :: new) cs).head? = cs.head? := by
  cases cs with
  | nil => exact .inr (by rw [replaceAll_nil])
  | cons d rest =>
    cases found : old.isPrefixOf (d :: rest) with
    | false => exact .inr (by rw [replaceAll_unmatched found]; rfl)
    | true => exact .inl (by simp [replaceAll, replaceAfter, found])

end ServiceDiagram.Text
