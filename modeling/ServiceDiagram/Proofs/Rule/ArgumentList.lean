import ServiceDiagram.Proofs.Rule.Arguments

namespace ServiceDiagram.Rule

open Reader

theorem PaddedArg.text_append (a : PaddedArg) (rest : List Char) :
    a.text ++ rest = a.before.text ++ (a.arg.text ++ (a.after.text ++ rest)) := by
  simp [PaddedArg.text]

/-- Blanks in front do no harm to what delimits. -/
theorem Blanks.delimited (b : Blanks) {rest : List Char} (delimited : Delimited rest) :
    Delimited (b.text ++ rest) := by
  refine Text.Stops.append ?_ fun _ => delimited
  intro c member
  have blank := b.blank c (List.mem_of_mem_head? member)
  simp [isDelimiter, blank]

theorem stops_blank_arg (a : ArgTree) (rest : List Char) :
    Text.Stops Text.isBlank (a.text ++ rest) := by
  obtain ⟨c, cs, shape, noDelimiter⟩ := a.exists_head
  simp only [isDelimiter, Bool.or_eq_false_iff] at noDelimiter
  rw [shape]
  exact Text.stops_cons.mpr noDelimiter.1.1

theorem stops_blank_closing {c : Char} (closing : c = ',' ∨ c = ')') (rest : List Char) :
    Text.Stops Text.isBlank (c :: rest) := by
  refine Text.stops_cons.mpr ?_
  rcases closing with rfl | rfl <;> rfl

/-- The blanks before an argument are passed over, and nothing of it. -/
theorem dropWhile_before (b : Blanks) (a : ArgTree) (rest : List Char) :
    (b.text ++ (a.text ++ rest)).dropWhile Text.isBlank = a.text ++ rest :=
  Text.dropWhile_run b.blank (stops_blank_arg a rest)

theorem dropWhile_after (b : Blanks) {c : Char} (closing : c = ',' ∨ c = ')') (rest : List Char) :
    (b.text ++ c :: rest).dropWhile Text.isBlank = c :: rest :=
  Text.dropWhile_run b.blank (stops_blank_closing closing rest)

theorem delimited_of_closing {c : Char} (closing : c = ',' ∨ c = ')') (rest : List Char) :
    Delimited (c :: rest) := by
  refine Text.stops_cons.mpr ?_
  rcases closing with rfl | rfl <;> rfl

/-- One step of the reader of arguments: an argument with its blanks, then what closes it. -/
theorem readArgs_padded (total fuel : Nat) (first : Bool) (a : PaddedArg) {c : Char}
    (closing : c = ',' ∨ c = ')') (rest : List Char) :
    readArgs total (fuel + 1) first (a.text ++ c :: rest) =
      if c = ')' then .ok ([a.arg.value], rest)
      else (readArgs total fuel false rest).map fun (args, after) =>
        (a.arg.value :: args, after) := by
  have delimited := a.after.delimited (delimited_of_closing closing rest)
  have before := dropWhile_before a.before a.arg (a.after.text ++ c :: rest)
  have after := dropWhile_after a.after closing rest
  obtain ⟨d, ds, shape, noDelimiter⟩ := a.arg.exists_head
  have read (offset : Nat) := readArg_text a.arg offset delimited
  have notParenthesis : d ≠ ')' := by
    rintro rfl
    cases noDelimiter
  rw [shape] at before read
  rw [a.text_append, shape, readArgs, before]
  simp only [List.cons_append, beq_false_of_ne notParenthesis, Bool.and_false, Bool.false_eq_true,
    if_false]
  rw [← List.cons_append, read]
  simp only [bind, Except.bind, after]
  rcases closing with rfl | rfl
  · cases later : readArgs total fuel false rest <;> simp [later, Except.map]
  · rfl

/-- The reader of arguments takes off a list of arguments with the parenthesis after it. -/
theorem readArgs_some (total : Nat) (a : PaddedArg) (later : List PaddedArg) (after : List Char)
    {fuel : Nat} (enough : later.length < fuel) (first : Bool) :
    readArgs total fuel first (a.text ++ (ArgsTree.laterText later ++ ')' :: after)) =
      .ok (a.arg.value :: later.map fun a => a.arg.value, after) := by
  induction later generalizing a fuel first with
  | nil =>
    obtain ⟨fuel, rfl⟩ := Nat.exists_eq_add_one_of_ne_zero (by omega : fuel ≠ 0)
    exact readArgs_padded total fuel first a (.inr rfl) after
  | cons b later ih =>
    rw [List.length_cons] at enough
    obtain ⟨fuel, rfl⟩ := Nat.exists_eq_add_one_of_ne_zero (by omega : fuel ≠ 0)
    have rest := ih b (by omega : later.length < fuel) false
    have step := readArgs_padded total fuel first a (.inl rfl)
      (b.text ++ (ArgsTree.laterText later ++ ')' :: after))
    rw [rest] at step
    simpa [ArgsTree.laterText, Except.map] using step

theorem length_le_laterText (later : List PaddedArg) :
    later.length ≤ (ArgsTree.laterText later).length := by
  induction later with
  | nil => exact Nat.zero_le _
  | cons a later ih =>
    simp only [ArgsTree.laterText, List.flatMap_cons, List.length_append, List.length_cons] at ih ⊢
    omega

/-- A list of arguments is read up to its parenthesis, whatever blanks are around them. -/
theorem readArgs_text (total : Nat) (t : ArgsTree) (after : List Char) {fuel : Nat}
    (enough : t.text.length < fuel) :
    readArgs total fuel true (t.text ++ ')' :: after) = .ok (t.values, after) := by
  cases t with
  | none blanks =>
    obtain ⟨fuel, rfl⟩ := Nat.exists_eq_add_one_of_ne_zero (by omega : fuel ≠ 0)
    rw [ArgsTree.text, readArgs, dropWhile_after blanks (.inr rfl)]
    rfl
  | some a later =>
    have bound := length_le_laterText later
    rw [ArgsTree.text, List.length_append] at enough
    rw [ArgsTree.text, List.append_assoc]
    exact readArgs_some total a later after (by omega) true

theorem exists_blanks (cs : List Char) : ∃ b : Blanks, b.text ++ cs.dropWhile Text.isBlank = cs :=
  ⟨⟨cs.takeWhile Text.isBlank, fun _ => List.mem_takeWhile_imp⟩, List.takeWhile_append_dropWhile⟩

/-- The text of a list of arguments with the parenthesis after it. -/
def ArgsTree.closedText (t : ArgsTree) : List Char := t.text ++ [')']

/-- After a comma an argument must follow. The induction is on the fuel: the reader calls itself
after each comma. -/
theorem readArgs_later_spec (total fuel : Nat) (cs : List Char) :
    Reads (fun p : PaddedArg × List PaddedArg => (ArgsTree.some p.1 p.2).closedText)
      (fun p => (ArgsTree.some p.1 p.2).values) cs (readArgs total fuel false cs) := by
  induction fuel generalizing cs with
  | zero => trivial
  | succ fuel ih =>
    obtain ⟨front, before⟩ := exists_blanks cs
    rw [readArgs]
    split
    · trivial
    · rename_i c rest shape
      rw [shape] at before
      have within : c :: rest <:+: cs := before ▸ (List.suffix_append _ _).isInfix
      have spec := readArg_spec (total - (c :: rest).length) (c :: rest)
      simp only [Bool.false_and, Bool.false_eq_true, if_false]
      cases read : readArg (total - (c :: rest).length) (c :: rest) with
      | error fault =>
        rw [read] at spec
        exact spec.mono within
      | ok result =>
        obtain ⟨value, afterArg⟩ := result
        rw [read] at spec
        obtain ⟨a, rfl, split⟩ := spec
        obtain ⟨back, after⟩ := exists_blanks afterArg
        simp only [bind, Except.bind]
        split
        · trivial
        · rename_i rest' shape'
          rw [shape'] at after
          refine ⟨(⟨front, a, back⟩, []), rfl, ?_⟩
          rw [← before, split, ← after]
          simp [ArgsTree.closedText, ArgsTree.text, ArgsTree.laterText, PaddedArg.text]
        · rename_i more shape'
          rw [shape'] at after
          have whole : cs = front.text ++
              (a.text ++ (back.text ++ ',' :: more)) := by
            rw [after, ← split, before]
          have later := ih more
          cases rest : readArgs total fuel false more with
          | error fault =>
            rw [rest] at later
            have part : more <:+: cs := by
              rw [whole, ← List.append_assoc, ← List.append_assoc]
              exact ((List.suffix_cons _ _).trans (List.suffix_append _ _)).isInfix
            exact later.mono part
          | ok result =>
            rw [rest] at later
            obtain ⟨⟨b, bs⟩, values, split'⟩ := later
            refine ⟨(⟨front, a, back⟩, b :: bs), ?_, ?_⟩
            · exact congrArg (a.value :: ·) values
            · rw [whole, split']
              simp [ArgsTree.closedText, ArgsTree.text, ArgsTree.laterText, PaddedArg.text]
        · trivial

/-- Before the first argument the reader differs in one case: the list may be closed at once. -/
theorem readArgs_first (total fuel : Nat) {cs : List Char}
    (unclosed : ∀ rest, cs.dropWhile Text.isBlank ≠ ')' :: rest) :
    readArgs total fuel true cs = readArgs total fuel false cs := by
  cases fuel with
  | zero => rfl
  | succ fuel =>
    rw [readArgs, readArgs]
    split
    · rfl
    · rename_i c rest shape
      have other : c ≠ ')' := by
        rintro rfl
        exact unclosed rest shape
      simp [other]

/-- What is read as a list of arguments is the text of one, and its values are those of the list. -/
theorem readArgs_spec (total fuel : Nat) (cs : List Char) :
    Reads ArgsTree.closedText ArgsTree.values cs (readArgs total fuel true cs) := by
  by_cases closed : ∃ rest, cs.dropWhile Text.isBlank = ')' :: rest
  · obtain ⟨rest, shape⟩ := closed
    obtain ⟨front, before⟩ := exists_blanks cs
    rw [shape] at before
    cases fuel with
    | zero => trivial
    | succ fuel =>
      rw [readArgs, shape]
      refine ⟨.none front, rfl, ?_⟩
      rw [ArgsTree.closedText, List.append_assoc]
      exact before.symm
  · rw [readArgs_first total fuel fun rest shape => closed ⟨rest, shape⟩]
    have spec := readArgs_later_spec total fuel cs
    cases read : readArgs total fuel false cs with
    | error fault =>
      rw [read] at spec
      exact spec
    | ok result =>
      rw [read] at spec
      obtain ⟨⟨a, later⟩, values, split⟩ := spec
      exact ⟨.some a later, values, split⟩

/-- An argument with its blanks ends where the delimiter stands, so it can be told from what
follows. -/
theorem PaddedArg.unique {a a' : PaddedArg} {c c' : Char} {rest rest' : List Char}
    (closing : c = ',' ∨ c = ')') (closing' : c' = ',' ∨ c' = ')')
    (same : a.text ++ c :: rest = a'.text ++ c' :: rest') :
    a = a' ∧ c :: rest = c' :: rest' := by
  rw [a.text_append, a'.text_append] at same
  obtain ⟨before, fromArg⟩ := Text.run_unique a.before.blank a'.before.blank
    (stops_blank_arg _ _) (stops_blank_arg _ _) same
  obtain ⟨-, fromAfter⟩ := ArgTree.value_of_text
    (a.after.delimited (delimited_of_closing closing rest))
    (a'.after.delimited (delimited_of_closing closing' rest')) fromArg
  rw [fromAfter] at fromArg
  have arg := ArgTree.text_injective (List.append_cancel_right fromArg)
  obtain ⟨after, fromClosing⟩ := Text.run_unique a.after.blank a'.after.blank
    (stops_blank_closing closing rest) (stops_blank_closing closing' rest') fromAfter
  exact ⟨PaddedArg.ext (Blanks.ext before) arg (Blanks.ext after), fromClosing⟩

theorem exists_closing (later : List PaddedArg) (rest : List Char) :
    ∃ c cs, ArgsTree.laterText later ++ ')' :: rest = c :: cs ∧ (c = ',' ∨ c = ')') := by
  cases later with
  | nil => exact ⟨')', rest, rfl, .inr rfl⟩
  | cons a later => exact ⟨',', _, rfl, .inl rfl⟩

theorem PaddedArg.unique_later {a a' : PaddedArg} {later later' : List PaddedArg}
    {rest rest' : List Char}
    (same : a.text ++ (ArgsTree.laterText later ++ ')' :: rest) =
      a'.text ++ (ArgsTree.laterText later' ++ ')' :: rest')) :
    a = a' ∧ ArgsTree.laterText later ++ ')' :: rest =
      ArgsTree.laterText later' ++ ')' :: rest' := by
  obtain ⟨c, cs, shape, closing⟩ := exists_closing later rest
  obtain ⟨c', cs', shape', closing'⟩ := exists_closing later' rest'
  rw [shape, shape'] at same ⊢
  exact PaddedArg.unique closing closing' same

theorem laterText_cons (a : PaddedArg) (later : List PaddedArg) (rest : List Char) :
    ArgsTree.laterText (a :: later) ++ rest =
      ',' :: (a.text ++ (ArgsTree.laterText later ++ rest)) := by
  simp [ArgsTree.laterText]

theorem laterText_unique {later later' : List PaddedArg} {rest rest' : List Char}
    (same : ArgsTree.laterText later ++ ')' :: rest = ArgsTree.laterText later' ++ ')' :: rest') :
    later = later' ∧ rest = rest' := by
  induction later generalizing later' with
  | nil =>
    cases later' with
    | nil => exact ⟨rfl, (List.cons.inj same).2⟩
    | cons a' later' => exact absurd (List.cons.inj same).1 nofun
  | cons a later ih =>
    cases later' with
    | nil => exact absurd (List.cons.inj same).1 nofun
    | cons a' later' =>
      rw [laterText_cons, laterText_cons] at same
      obtain ⟨arg, beyond⟩ := PaddedArg.unique_later (List.cons.inj same).2
      obtain ⟨sameLater, sameRest⟩ := ih beyond
      exact ⟨congrArg₂ List.cons arg sameLater, sameRest⟩

theorem ArgsTree.closedText_append (t : ArgsTree) (rest : List Char) :
    t.closedText ++ rest = t.text ++ ')' :: rest := by
  rw [closedText, List.append_assoc]
  rfl

/-- Blanks with a parenthesis after them are no argument. -/
theorem ArgsTree.none_ne_some (b : Blanks) (a : PaddedArg) {rest beyond : List Char}
    (same : b.text ++ ')' :: rest = a.text ++ beyond) : False := by
  rw [a.text_append] at same
  obtain ⟨-, fromArg⟩ := Text.run_unique b.blank a.before.blank
    (stops_blank_closing (.inr rfl) rest) (stops_blank_arg _ _) same
  obtain ⟨c, cs, shape, noDelimiter⟩ := a.arg.exists_head
  rw [shape] at fromArg
  obtain ⟨rfl, -⟩ := List.cons.inj fromArg
  cases noDelimiter

/-- A text begins with one list of arguments and its parenthesis at most. -/
theorem ArgsTree.unique {t t' : ArgsTree} {rest rest' : List Char}
    (same : t.closedText ++ rest = t'.closedText ++ rest') : t = t' ∧ rest = rest' := by
  rw [closedText_append, closedText_append] at same
  cases t with
  | none b =>
    cases t' with
    | none b' =>
      obtain ⟨blanks, fromClosing⟩ := Text.run_unique b.blank b'.blank
        (stops_blank_closing (.inr rfl) rest) (stops_blank_closing (.inr rfl) rest') same
      exact ⟨congrArg ArgsTree.none (Blanks.ext blanks), (List.cons.inj fromClosing).2⟩
    | some a' later' =>
      rw [text, text, List.append_assoc] at same
      exact (none_ne_some b a' same).elim
  | some a later =>
    cases t' with
    | none b' =>
      rw [text, text, List.append_assoc] at same
      exact (none_ne_some b' a same.symm).elim
    | some a' later' =>
      rw [text, text, List.append_assoc, List.append_assoc] at same
      obtain ⟨arg, beyond⟩ := PaddedArg.unique_later same
      obtain ⟨sameLater, sameRest⟩ := laterText_unique beyond
      exact ⟨congrArg₂ ArgsTree.some arg sameLater, sameRest⟩

end ServiceDiagram.Rule
