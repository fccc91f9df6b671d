import ServiceDiagram.Proofs.Rule.Synthesis

namespace ServiceDiagram.Rule

open Reader

/-- A bound that is no literal is not read as an argument. -/
theorem readArg_unwritable {n : Number} (unwritable : ¬ n.IsWritable) (after : List Char) :
    ∃ fault, readArg 0 ((Json.numberText n).toList ++ ')' :: after) = .error fault := by
  cases n with
  | int n =>
    have long : (NumberLiteral.ofInt n).value? = none := by
      have positive : 0 < digitLimit := by
        unfold digitLimit
        omega
      have length : digitLimit < (natDigits n.natAbs).length :=
        Nat.lt_of_not_le fun short => unwritable ((length_natDigits_le positive).mp short)
      simp only [NumberLiteral.value?, NumberLiteral.isWhole, NumberLiteral.ofInt,
        List.isEmpty_nil, Option.isNone_none, Bool.and_self, if_true, length]
    have read := readPlain_numeral (.ofInt n) 0 (delimited_of_closing (.inr rfl) after)
    rw [value_numeralOf, long, ← readArg_literal, NumberLiteral.ofInt_text] at read
    exact ⟨_, read⟩
  | float x =>
    cases x with
    | nan => exact ⟨_, rfl⟩
    | infinite negative => cases negative <;> exact ⟨_, rfl⟩
    | finite negative m e canonical => exact absurd rfl unwritable

theorem numberText_head (n : Number) :
    ∃ c cs, (Json.numberText n).toList = c :: cs ∧ isDelimiter c = false := by
  have literal (l : NumberLiteral) : ∃ c cs, l.text = c :: cs ∧ isDelimiter c = false := by
    obtain ⟨c, cs, shape, rfl | digit⟩ := l.exists_head
    · exact ⟨_, cs, shape, rfl⟩
    · exact ⟨c, cs, shape, not_isDelimiter_of_isDigit digit⟩
  cases n with
  | int n => exact NumberLiteral.ofInt_text n ▸ literal (.ofInt n)
  | float x =>
    cases x with
    | nan => exact ⟨_, _, rfl, rfl⟩
    | infinite negative => cases negative <;> exact ⟨_, _, rfl, rfl⟩
    | finite negative m e canonical =>
      obtain ⟨l, spelled, -⟩ :=
        @Binary64.exists_literal (.finite negative m e canonical) rfl
      exact spelled ▸ literal l

/-- No list of arguments has a text on which the reader of arguments fails. -/
theorem ArgsTree.ne_of_readArg_error {cs after rest : List Char} {fault : ArgFault}
    (head : ∃ c ds, cs = c :: ds ∧ isDelimiter c = false)
    (fails : readArg 0 (cs ++ ')' :: after) = .error fault) (t : ArgsTree) :
    t.closedText ++ rest ≠ cs ++ ')' :: after := by
  intro same
  obtain ⟨c, ds, rfl, noDelimiter⟩ := head
  have stops : Text.Stops Text.isBlank (c :: ds ++ ')' :: after) := by
    simp only [isDelimiter, Bool.or_eq_false_iff] at noDelimiter
    exact Text.stops_cons.mpr noDelimiter.1.1
  have noBlanks : ∀ c ∈ ([] : List Char), Text.isBlank c = true := List.forall_mem_nil _
  rw [closedText_append] at same
  cases t with
  | none b =>
    obtain ⟨-, beyond⟩ :=
      Text.run_unique b.blank noBlanks (stops_blank_closing (.inr rfl) rest) stops same
    obtain ⟨rfl, -⟩ := List.cons.inj beyond
    cases noDelimiter
  | some a later =>
    rw [text, List.append_assoc, a.text_append] at same
    obtain ⟨-, beyond⟩ := Text.run_unique a.before.blank noBlanks (stops_blank_arg _ _) stops same
    obtain ⟨d, ds', closes, closing⟩ := exists_closing later rest
    have read := readArg_text a.arg 0 (a.after.delimited (delimited_of_closing closing ds'))
    rw [← closes, beyond] at read
    rw [fails] at read
    cases read

/-- So no derivation has a clause with such a bound. -/
theorem clauses_ne_unwritable (name : NameTree) {n : Number} (unwritable : ¬ n.IsWritable)
    (cs : List ClauseTree) (after : List Char) :
    cs.flatMap ClauseTree.text ≠
      '.' :: (name.text ++ '(' :: ((Json.numberText n).toList ++ ')' :: after)) := by
  intro same
  obtain ⟨fault, fails⟩ := readArg_unwritable unwritable after
  cases cs with
  | nil => cases same
  | cons c cs =>
    rw [List.flatMap_cons, c.text_append] at same
    obtain ⟨-, beyond⟩ := NameTree.unique (stops_word_parenthesis _) (stops_word_parenthesis _)
      (List.cons.inj same).2
    exact c.args.ne_of_readArg_error (numberText_head n) fails (List.cons.inj beyond).2

/-- Clauses that begin with the text of clauses go on after them. -/
theorem Spells.exists_rest {s : String} {clauses : List RuleClause} (spells : Spells s clauses)
    {cs : List ClauseTree} {rest : List Char}
    (same : cs.flatMap ClauseTree.text = s.toList ++ rest) :
    ∃ cs' : List ClauseTree, cs'.flatMap ClauseTree.text = rest := by
  obtain ⟨trees, derives, -⟩ := spells
  rw [← derives] at same
  clear derives
  induction trees generalizing cs with
  | nil => exact ⟨cs, same⟩
  | cons t trees ih =>
    rw [List.flatMap_cons, List.append_assoc] at same
    cases cs with
    | nil => cases same
    | cons c cs =>
      rw [List.flatMap_cons] at same
      exact ih (ClauseTree.unique same).2

/-- If clauses begin with the text of a bound, the bound can be written. -/
theorem writable_of_clauses {name : String} (isName : IsName name) {declared : Bool}
    {bound : Option Number} {cs : List ClauseTree} {rest : List Char}
    (same : cs.flatMap ClauseTree.text = (boundClause name declared bound).toList ++ rest) :
    declared = true → ∀ n ∈ bound, n.IsWritable := by
  rintro rfl n rfl
  refine Classical.byContradiction fun unwritable => ?_
  obtain ⟨tree, text⟩ := isName
  refine clauses_ne_unwritable tree unwritable cs rest ?_
  rw [same, text]
  simp [boundClause]

/-- The rule of a parameter is read back with its name in front exactly if that is a name and the
declared bounds are written as numbers. -/
theorem ruleText_read_iff {p : Parameter} {kind root : String} {addOn : Option String}
    {further : List RuleClause} (isKind : IsName kind) (reads : AddOnReads addOn further) :
    (∃ r, Rule.read (ruleText p kind addOn root) = .ok r ∧ r.root = root) ↔
      IsName root ∧ WritableBounds p := by
  constructor
  · rintro ⟨r, read, rfl⟩
    obtain ⟨t, derives, rfl⟩ := exists_tree_of_read read
    have clauses : t.clauses.flatMap ClauseTree.text =
        ("." ++ kind ++ "()").toList ++ ((addOnClauses addOn).toList ++
          ((boundClause "min" p.hasMin p.min?).toList ++
            ((boundClause "max" p.hasMax p.max?).toList ++
              (if p.isRequired then ".required()" else "").toList))) := by
      have whole : t.root.text ++ t.clauses.flatMap ClauseTree.text = _ := derives
      simp only [ruleText, String.toList_append, RuleTree.rule, String.toList_ofList,
        List.append_assoc, List.append_cancel_left_eq] at whole ⊢
      exact whole
    obtain ⟨afterKind, clauses⟩ := (spells_plain isKind).exists_rest clauses
    obtain ⟨afterAddOn, clauses⟩ := reads.spells.exists_rest clauses
    have lower := writable_of_clauses isName_min clauses
    obtain ⟨afterMin, clauses⟩ := (spells_bound isName_min lower).exists_rest clauses
    have upper := writable_of_clauses isName_max clauses
    exact ⟨⟨t.root, by rw [RuleTree.rule, String.toList_ofList]⟩, lower, upper⟩
  · rintro ⟨isRoot, writable⟩
    obtain ⟨s, text, spells⟩ := spells_ruleText isKind reads writable
    obtain ⟨r, read, same, -⟩ := spells.read isRoot (List.cons_ne_nil _ _)
    exact ⟨r, text root ▸ read, same⟩

end ServiceDiagram.Rule
