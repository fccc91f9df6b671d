import ServiceDiagram.Proofs.Rule.ArgumentList

namespace ServiceDiagram.Rule

open Reader

/-- A name ends where no word character follows, so it can be told from the rest. -/
theorem NameTree.unique {n n' : NameTree} {rest rest' : List Char}
    (stops : Text.Stops Text.isWord rest) (stops' : Text.Stops Text.isWord rest')
    (same : n.text ++ rest = n'.text ++ rest') : n = n' ∧ rest = rest' := by
  obtain ⟨first, later⟩ := List.cons.inj same
  obtain ⟨words, beyond⟩ := Text.run_unique n.areWords n'.areWords stops stops' later
  exact ⟨NameTree.ext first words, beyond⟩

theorem stops_word_parenthesis (rest : List Char) : Text.Stops Text.isWord ('(' :: rest) :=
  Text.stops_cons.mpr rfl

theorem stops_word_clauses (cs : List ClauseTree) :
    Text.Stops Text.isWord (cs.flatMap ClauseTree.text) := by
  cases cs with
  | nil => exact Text.stops_nil _
  | cons c cs => exact Text.stops_cons.mpr rfl

theorem ClauseTree.text_append (c : ClauseTree) (rest : List Char) :
    c.text ++ rest = '.' :: (c.name.text ++ '(' :: (c.args.closedText ++ rest)) := by
  simp [ClauseTree.text, ArgsTree.closedText]

/-- A clause ends with its parenthesis, so it can be told from the rest. -/
theorem ClauseTree.unique {c c' : ClauseTree} {rest rest' : List Char}
    (same : c.text ++ rest = c'.text ++ rest') : c = c' ∧ rest = rest' := by
  rw [c.text_append, c'.text_append] at same
  obtain ⟨name, beyond⟩ := NameTree.unique (stops_word_parenthesis _) (stops_word_parenthesis _)
    (List.cons.inj same).2
  obtain ⟨args, after⟩ := ArgsTree.unique (List.cons.inj beyond).2
  exact ⟨ClauseTree.ext name args, after⟩

theorem clauses_unique {cs cs' : List ClauseTree}
    (same : cs.flatMap ClauseTree.text = cs'.flatMap ClauseTree.text) : cs = cs' := by
  induction cs generalizing cs' with
  | nil =>
    cases cs' with
    | nil => rfl
    | cons c' cs' => cases same
  | cons c cs ih =>
    cases cs' with
    | nil => cases same
    | cons c' cs' =>
      rw [List.flatMap_cons, List.flatMap_cons] at same
      obtain ⟨clause, beyond⟩ := ClauseTree.unique same
      exact congrArg₂ List.cons clause (ih beyond)

/-- No text has two derivations. -/
theorem RuleTree.text_injective {t t' : RuleTree} (same : t.text = t'.text) : t = t' := by
  obtain ⟨root, beyond⟩ := NameTree.unique (stops_word_clauses _) (stops_word_clauses _) same
  obtain ⟨first, rest⟩ := List.cons.inj (clauses_unique beyond)
  exact RuleTree.ext root first rest

theorem readClauses_text (total : Nat) (cs : List ClauseTree) {fuel : Nat}
    (enough : cs.length ≤ fuel) :
    readClauses total fuel (cs.flatMap ClauseTree.text) = .ok (cs.map ClauseTree.clause) := by
  induction cs generalizing fuel with
  | nil => cases fuel <;> rfl
  | cons c cs ih =>
    rw [List.length_cons] at enough
    obtain ⟨fuel, rfl⟩ := Nat.exists_eq_add_one_of_ne_zero (by omega : fuel ≠ 0)
    have name := takeName?_text c.name
      (stops_word_parenthesis (c.args.closedText ++ cs.flatMap ClauseTree.text))
    have inner : c.args.text.length <
        (c.args.closedText ++ cs.flatMap ClauseTree.text).length + 1 := by
      simp only [ArgsTree.closedText, List.length_append]
      omega
    have args := readArgs_text total c.args (cs.flatMap ClauseTree.text) inner
    rw [← c.args.closedText_append] at args
    rw [List.flatMap_cons, c.text_append, readClauses]
    simp only [name, args, bind, Except.bind, ih (by omega : cs.length ≤ fuel)]
    rfl

/-- What a reader to the end of a text comes to. -/
def ReadsAll {α β : Type} (text : α → List Char) (value : α → β) (cs : List Char) :
    Except ArgFault β → Prop
  | .ok b => ∃ a, value a = b ∧ cs = text a
  | .error fault => fault.StandsIn cs

/-- The induction is on the fuel: the reader calls itself after each clause. -/
theorem readClauses_spec (total fuel : Nat) (cs : List Char) :
    ReadsAll (List.flatMap ClauseTree.text) (List.map ClauseTree.clause) cs
      (readClauses total fuel cs) := by
  induction fuel generalizing cs with
  | zero =>
    cases cs with
    | nil => exact ⟨[], rfl, rfl⟩
    | cons c cs => trivial
  | succ fuel ih =>
    unfold readClauses
    split
    · exact ⟨[], rfl, rfl⟩
    · trivial
    · rename_i more same
      cases same
      split
      · trivial
      · rename_i name inner taken
        obtain ⟨n, rfl, split⟩ := exists_of_takeName? taken
        have argsSpec := readArgs_spec total (inner.length + 1) inner
        cases args : readArgs total (inner.length + 1) true inner with
        | error fault =>
          rw [args] at argsSpec
          have part : inner <:+: '.' :: more := by
            rw [split]
            exact ⟨'.' :: (n.text ++ ['(']), [], by simp⟩
          exact argsSpec.mono part
        | ok result =>
          obtain ⟨values, rest⟩ := result
          rw [args] at argsSpec
          obtain ⟨t, rfl, split'⟩ := argsSpec
          have whole : '.' :: more = (⟨n, t⟩ : ClauseTree).text ++ rest := by
            rw [split, split', ClauseTree.text_append]
          have laterSpec := ih rest
          simp only [bind, Except.bind]
          cases later : readClauses total fuel rest with
          | error fault =>
            rw [later] at laterSpec
            exact laterSpec.mono (whole ▸ (List.suffix_append _ rest).isInfix)
          | ok clauses =>
            rw [later] at laterSpec
            obtain ⟨trees, rfl, split''⟩ := laterSpec
            exact ⟨⟨n, t⟩ :: trees, rfl, by rw [whole, split'', List.flatMap_cons]⟩
      · trivial
    · trivial

theorem length_le_clauses (cs : List ClauseTree) :
    cs.length ≤ (cs.flatMap ClauseTree.text).length := by
  induction cs with
  | nil => exact Nat.zero_le _
  | cons c cs ih =>
    rw [List.flatMap_cons, c.text_append, List.length_cons, List.length_cons]
    simp only [List.length_append, List.length_cons] at ih ⊢
    omega

theorem readParts_text (root : NameTree) (cs : List ClauseTree) :
    readParts (root.text ++ cs.flatMap ClauseTree.text) =
      .ok (String.ofList root.text, cs.map ClauseTree.clause) := by
  have bound := length_le_clauses cs
  have name := takeName?_text root (stops_word_clauses cs)
  have clauses (total : Nat) := readClauses_text total cs
    (by omega : cs.length ≤ (cs.flatMap ClauseTree.text).length + 1)
  simp only [readParts, name, clauses, bind, Except.bind]

/-- What is read as name and clauses is the text of these. -/
theorem readParts_spec (cs : List Char) :
    ReadsAll (fun p : NameTree × List ClauseTree => p.1.text ++ p.2.flatMap ClauseTree.text)
      (fun p => (String.ofList p.1.text, p.2.map ClauseTree.clause)) cs (readParts cs) := by
  unfold readParts
  split
  · trivial
  · rename_i name rest taken
    obtain ⟨n, rfl, split⟩ := exists_of_takeName? taken
    have spec := readClauses_spec cs.length (rest.length + 1) rest
    simp only [bind, Except.bind]
    cases read : readClauses cs.length (rest.length + 1) rest with
    | error fault =>
      rw [read] at spec
      exact spec.mono (split ▸ (List.suffix_append _ rest).isInfix)
    | ok clauses =>
      rw [read] at spec
      obtain ⟨trees, rfl, split'⟩ := spec
      exact ⟨(n, trees), rfl, by rw [split, split']⟩

/-- An error tells what is wrong with a text: the text is malformed, a row of digits of it is too
long, or a pattern in it breaks off its own reading. -/
def IsErrorOf (e : String) : RuleReadError → Prop
  | .malformed error => error.expression = e
  | .tooManyDigits digits => HoldsLongRow e.toList digits
  | .patternCountTooLarge => HoldsPatternFault e.toList .countTooLarge
  | .patternFlags => HoldsPatternFault e.toList .contradictoryFlags

theorem isErrorOf_of_standsIn {e : String} {fault : ArgFault} (stands : fault.StandsIn e.toList) :
    IsErrorOf e (fault.toReadError e) := by
  cases fault with
  | rule => rfl
  | tooManyDigits => exact stands
  | patternCountTooLarge => exact stands
  | patternFlags => exact stands

/-- What the grammar derives is read as the rule of the derivation. -/
theorem read_tree {e : String} {t : RuleTree} (derives : t.text = e.toList) :
    Rule.read e = .ok t.rule := by
  have parts := readParts_text t.root t.clauses
  have some : t.clauses.map ClauseTree.clause ≠ [] := List.cons_ne_nil _ _
  change readParts t.text = _ at parts
  rw [derives] at parts
  simp only [Rule.read, parts, Rule.ofClauses?, some, ne_eq, not_false_eq_true, dite_true]
  rfl

/-- Reading gives the rule of a derivation or an error that the text deserves. -/
theorem read_spec (e : String) :
    match Rule.read e with
    | .ok r => ∃ t : RuleTree, t.text = e.toList ∧ t.rule = r
    | .error error => IsErrorOf e error := by
  have spec := readParts_spec e.toList
  cases parts : readParts e.toList with
  | error fault =>
    rw [parts] at spec
    simp only [Rule.read, parts]
    exact isErrorOf_of_standsIn spec
  | ok result =>
    obtain ⟨root, clauses⟩ := result
    rw [parts] at spec
    obtain ⟨⟨n, trees⟩, same, derives⟩ := spec
    obtain ⟨rfl, rfl⟩ := Prod.mk.inj same
    cases trees with
    | nil =>
      simp only [Rule.read, parts, List.map_nil, Rule.ofClauses?, ne_eq, not_true_eq_false,
        dite_false]
      rfl
    | cons c cs =>
      rw [read_tree (t := ⟨n, c, cs⟩) derives.symm]
      exact ⟨⟨n, c, cs⟩, derives.symm, rfl⟩

/-- What is read has a derivation. -/
theorem exists_tree_of_read {e : String} {r : Rule} (read : Rule.read e = .ok r) :
    ∃ t : RuleTree, t.text = e.toList ∧ t.rule = r := by
  have spec := read_spec e
  rw [read] at spec
  exact spec

/-- The texts that are read are those that the grammar derives, each in one way, and what is read
is the rule of the derivation. -/
theorem read_exactly_grammar (e : String) :
    (∀ r, Rule.read e = .ok r ↔ ∃ t : RuleTree, t.text = e.toList ∧ t.rule = r) ∧
      (∀ t t' : RuleTree, t.text = e.toList → t'.text = e.toList → t = t') ∧
      ∀ error, Rule.read e = .error error → IsErrorOf e error := by
  refine ⟨fun r => ⟨exists_tree_of_read, ?_⟩, ?_, ?_⟩
  · rintro ⟨t, derives, rfl⟩
    exact read_tree derives
  · intro t t' derives derives'
    exact RuleTree.text_injective (derives.trans derives'.symm)
  · intro error failed
    have spec := read_spec e
    rw [failed] at spec
    exact spec

end ServiceDiagram.Rule
