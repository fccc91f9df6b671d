import ServiceDiagram.Proofs.Number.Written
import ServiceDiagram.Proofs.Rule.Reading
import ServiceDiagram.Rule.Synthesis

namespace ServiceDiagram.Rule

/-- The text is that of clauses one after the other. -/
def Spells (s : String) (clauses : List RuleClause) : Prop :=
  ∃ trees : List ClauseTree,
    trees.flatMap ClauseTree.text = s.toList ∧ trees.map ClauseTree.clause = clauses

theorem spells_empty : Spells "" [] := ⟨[], rfl, rfl⟩

/-- Texts that derive clauses may be joined. -/
theorem Spells.append {s s' : String} {clauses clauses' : List RuleClause}
    (spells : Spells s clauses) (spells' : Spells s' clauses') :
    Spells (s ++ s') (clauses ++ clauses') := by
  obtain ⟨trees, derives, rfl⟩ := spells
  obtain ⟨trees', derives', rfl⟩ := spells'
  exact ⟨trees ++ trees', by simp [derives, derives'], by simp⟩

theorem exists_name {s : String} (isName : IsName s) :
    ∃ n : NameTree, n.text = s.toList ∧ String.ofList n.text = s := by
  obtain ⟨n, name⟩ := isName
  exact ⟨n, name, by rw [name, String.ofList_toList]⟩

/-- A name before clauses makes them a rule. -/
theorem Spells.read {root s : String} {clauses : List RuleClause} (isRoot : IsName root)
    (spells : Spells s clauses) (nonempty : clauses ≠ []) :
    ∃ r, Rule.read (root ++ s) = .ok r ∧ r.root = root ∧ r.clauses = clauses := by
  obtain ⟨n, text, same⟩ := exists_name isRoot
  obtain ⟨trees, derives, rfl⟩ := spells
  cases trees with
  | nil => exact absurd rfl nonempty
  | cons c cs =>
    have whole : (⟨n, c, cs⟩ : RuleTree).text = (root ++ s).toList := by
      rw [String.toList_append, ← text, ← derives]
      rfl
    exact ⟨_, read_tree whole, same, rfl⟩

theorem isName_of_all {s : String} {c : Char} {rest : List Char} (spelled : s.toList = c :: rest)
    (isFirst : (Text.isAsciiLetter c || c == '_') = true)
    (areWords : rest.all Text.isWord = true) : IsName s :=
  ⟨⟨c, rest, isFirst, List.all_eq_true.mp areWords⟩, spelled.symm⟩

theorem isName_min : IsName "min" := isName_of_all rfl rfl rfl

theorem isName_max : IsName "max" := isName_of_all rfl rfl rfl

theorem isName_required : IsName "required" := isName_of_all rfl rfl rfl

theorem isName_number : IsName "number" := isName_of_all rfl rfl rfl

theorem spells_plain {name : String} (isName : IsName name) :
    Spells ("." ++ name ++ "()") [⟨name, []⟩] := by
  obtain ⟨n, text, same⟩ := exists_name isName
  refine ⟨[⟨n, .none ⟨[], by simp⟩⟩], ?_, ?_⟩
  · simp [ClauseTree.text, ArgsTree.text, text]
  · simp [ClauseTree.clause, ArgsTree.values, same]

/-- A clause with one argument is derived from its text. -/
theorem spells_single {name : String} (isName : IsName name) (arg : ArgTree) :
    Spells ("." ++ name ++ "(" ++ String.ofList arg.text ++ ")") [⟨name, [arg.value]⟩] := by
  obtain ⟨n, text, same⟩ := exists_name isName
  refine ⟨[⟨n, .some ⟨⟨[], by simp⟩, arg, ⟨[], by simp⟩⟩ []⟩], ?_, ?_⟩
  · simp [ClauseTree.text, ArgsTree.text, PaddedArg.text, ArgsTree.laterText, text]
  · simp [ClauseTree.clause, ArgsTree.values, same]

/-- The clause of a bound, if it is declared. -/
def boundClauses (name : String) (declared : Bool) (bound : Option Number) : List RuleClause :=
  if declared then bound.toList.map fun n => ⟨name, [.number n]⟩ else []

/-- The clause of a bound that can be written is derived from its text. -/
theorem spells_bound {name : String} (isName : IsName name) {declared : Bool}
    {bound : Option Number} (writable : declared = true → ∀ n ∈ bound, n.IsWritable) :
    Spells (boundClause name declared bound) (boundClauses name declared bound) := by
  cases declared with
  | false => exact spells_empty
  | true =>
    cases bound with
    | none => exact spells_empty
    | some b =>
      obtain ⟨l, spelled, denotes, -⟩ := (writable rfl b rfl).exists_literal
      have spells := spells_single isName
        (.number _ b ⟨l, spelled⟩ (spelled ▸ l.numberOf?_text.trans denotes))
      rw [ArgTree.text, String.ofList_toList] at spells
      exact spells

/-- Further clauses begin with a dot once they are put in order. -/
theorem normalizeAddOn_dot (s : String) : ∃ cs, (normalizeAddOn s).toList = '.' :: cs := by
  unfold normalizeAddOn
  rw [String.toList_ofList]
  split
  · rename_i dotted
    obtain ⟨cs, shape⟩ := List.head?_eq_some_iff.mp dotted
    exact ⟨cs, shape⟩
  · exact ⟨_, rfl⟩

/-- The further clauses of a type read as clauses after a name, or there are none. -/
def AddOnReads (addOn : Option String) (further : List RuleClause) : Prop :=
  match addOn with
  | none => further = []
  | some s =>
    if s = "" then further = []
    else ∃ r, Rule.read ("x" ++ normalizeAddOn s) = .ok r ∧ r.clauses = further

/-- Further clauses that are read are derived from their text. -/
theorem AddOnReads.spells {addOn : Option String} {further : List RuleClause}
    (reads : AddOnReads addOn further) : Spells (addOnClauses addOn) further := by
  cases addOn with
  | none =>
    cases reads
    exact spells_empty
  | some s =>
    by_cases empty : s = ""
    · rw [AddOnReads, if_pos empty] at reads
      rw [addOnClauses, if_pos empty, reads]
      exact spells_empty
    · rw [AddOnReads, if_neg empty] at reads
      obtain ⟨r, read, rfl⟩ := reads
      obtain ⟨t, derives, rfl⟩ := exists_tree_of_read read
      obtain ⟨cs, dot⟩ := normalizeAddOn_dot s
      have stops : Text.Stops Text.isWord (normalizeAddOn s).toList := by
        rw [dot]
        exact Text.stops_cons.mpr rfl
      let x : NameTree := ⟨'x', [], rfl, by simp⟩
      have whole : t.root.text ++ t.clauses.flatMap ClauseTree.text =
          x.text ++ (normalizeAddOn s).toList := by
        rw [← RuleTree.text, derives, String.toList_append]
        rfl
      obtain ⟨-, beyond⟩ := NameTree.unique (stops_word_clauses t.clauses) stops whole
      rw [addOnClauses, if_neg empty]
      exact ⟨t.clauses, beyond, rfl⟩

/-- The clause that a rule ends with if its value is required. -/
def requiredClauses (isRequired : Bool) : List RuleClause :=
  if isRequired then [⟨"required", []⟩] else []

theorem spells_required (isRequired : Bool) :
    Spells (if isRequired then ".required()" else "") (requiredClauses isRequired) := by
  cases isRequired with
  | false => exact spells_empty
  | true => exact spells_plain isName_required

/-- The declared bounds of a parameter can be written as numbers. -/
def WritableBounds (p : Parameter) : Prop :=
  (p.hasMin = true → ∀ n ∈ p.min?, n.IsWritable) ∧ (p.hasMax = true → ∀ n ∈ p.max?, n.IsWritable)

/-- What the rule of a parameter is made of, in order: the kind, the further clauses of the type,
the lower bound, the upper bound, and whether a value is required. -/
def ruleClauses (p : Parameter) (kind : String) (further : List RuleClause) : List RuleClause :=
  ⟨kind, []⟩ :: (further ++ (boundClauses "min" p.hasMin p.min? ++
    (boundClauses "max" p.hasMax p.max? ++ requiredClauses p.isRequired)))

/-- So the whole rule after its leading name is. -/
theorem spells_ruleText {p : Parameter} {kind : String} {addOn : Option String}
    {further : List RuleClause} (isKind : IsName kind) (reads : AddOnReads addOn further)
    (writable : WritableBounds p) :
    ∃ s, (∀ root, ruleText p kind addOn root = root ++ s) ∧
      Spells s (ruleClauses p kind further) := by
  refine ⟨("." ++ kind ++ "()") ++ (addOnClauses addOn ++ (boundClause "min" p.hasMin p.min? ++
    (boundClause "max" p.hasMax p.max? ++ if p.isRequired then ".required()" else ""))), ?_, ?_⟩
  · intro root
    simp only [ruleText, String.append_assoc]
  · exact (spells_plain isKind).append (reads.spells.append
      ((spells_bound isName_min writable.1).append
        ((spells_bound isName_max writable.2).append (spells_required p.isRequired))))

/-- The rule of a parameter is read back as what it was made of, its bounds as the numbers they
are. -/
theorem read_ruleText {p : Parameter} {kind root : String} {addOn : Option String}
    {further : List RuleClause} (isRoot : IsName root) (isKind : IsName kind)
    (reads : AddOnReads addOn further) (writable : WritableBounds p) :
    ∃ r, Rule.read (ruleText p kind addOn root) = .ok r ∧ r.root = root ∧
      r.clauses = ruleClauses p kind further := by
  obtain ⟨s, text, spells⟩ := spells_ruleText isKind reads writable
  rw [text root]
  exact spells.read isRoot (List.cons_ne_nil _ _)

/-- A quantity between one and two and a half. -/
def sampleParameter : Parameter where
  name := "quantity"
  type := ⟨"Quantity", .primitive, none, by decide⟩
  isRequired := true
  hasMin := true
  min? := some (.int 1)
  hasMax := true
  max? := some (.float (.finite false (5 * 2 ^ 50) (-51) (by decide)))
  valid := by decide

theorem writableBounds_sample : WritableBounds sampleParameter := by
  refine ⟨fun _ n member => ?_, fun _ n member => ?_⟩
  · cases member
    exact Nat.one_lt_pow (Nat.succ_ne_zero _) (by omega)
  · cases member
    rfl

theorem isName_sample : IsName "Joi" := isName_of_all rfl rfl rfl

theorem read_ruleText_sample :
    IsName "Joi" ∧ IsName "number" ∧ AddOnReads (some " integer() ") [⟨"integer", []⟩] ∧
      WritableBounds sampleParameter ∧
      ∃ r, Rule.read (ruleText sampleParameter "number" (some " integer() ") "Joi") = .ok r ∧
        r.root = "Joi" ∧ r.clauses = [⟨"number", []⟩, ⟨"integer", []⟩, ⟨"min", [.number (.int 1)]⟩,
          ⟨"max", [.number (.float (.finite false (5 * 2 ^ 50) (-51) (by decide)))]⟩,
          ⟨"required", []⟩] := by
  have reads : AddOnReads (some " integer() ") [⟨"integer", []⟩] := ⟨_, rfl, rfl⟩
  exact ⟨isName_sample, isName_number, reads, writableBounds_sample,
    read_ruleText isName_sample isName_number reads writableBounds_sample⟩

end ServiceDiagram.Rule
