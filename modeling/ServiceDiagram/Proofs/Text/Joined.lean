import Mathlib.Data.List.Basic

namespace ServiceDiagram.Text

/-- After the first, every text has a comma and a blank before it. -/
theorem intercalate_cons (text : List Char) (later : List (List Char)) :
    [',', ' '].intercalate (text :: later) = text ++ later.flatMap fun t => ',' :: ' ' :: t := by
  induction later generalizing text with
  | nil => simp
  | cons t later ih =>
    rw [List.intercalate_cons_cons, ih t]
    simp

/-- Every character belongs to a comma, a blank or one of the texts. -/
theorem mem_intercalate {c : Char} {texts : List (List Char)}
    (member : c ∈ [',', ' '].intercalate texts) : c = ',' ∨ c = ' ' ∨ ∃ t ∈ texts, c ∈ t := by
  cases texts with
  | nil => cases member
  | cons text later =>
    rw [intercalate_cons, List.mem_append, List.mem_flatMap] at member
    rcases member with first | ⟨t, inLater, inText⟩
    · exact .inr (.inr ⟨text, List.mem_cons_self, first⟩)
    · rcases List.mem_cons.mp inText with comma | inText
      · exact .inl comma
      · rcases List.mem_cons.mp inText with blank | inText
        · exact .inr (.inl blank)
        · exact .inr (.inr ⟨t, List.mem_cons_of_mem text inLater, inText⟩)

end ServiceDiagram.Text
