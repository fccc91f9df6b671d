import ServiceDiagram.Proofs.Number.Written
import ServiceDiagram.Proofs.Pattern.Flags
import ServiceDiagram.Proofs.Rule.Quoting
import ServiceDiagram.Proofs.Text.Joined

namespace ServiceDiagram

/-- An integer that was read can be written. -/
theorem NumberLiteral.isWritable_of_value? {l : NumberLiteral} {n : Int}
    (value : l.value? = some (.int n)) : (Number.int n).IsWritable := by
  unfold value? at value
  split at value
  · split at value
    · nomatch value
    · rename_i short
      cases value
      have size : (if l.negative then -(rowValue l.whole : Int) else rowValue l.whole).natAbs =
          rowValue l.whole := by
        split <;> omega
      rw [Number.IsWritable, size]
      exact rowValue_lt_of_length (Nat.le_of_not_lt short)
  · nomatch value

/-- A pattern keeps its text. -/
theorem Pattern.text_of_compile {text : List Char} {flags : Flags} {p : Pattern}
    (compiled : compile text flags = .ok p) : p.text = String.ofList text := by
  unfold compile at compiled
  split at compiled
  · nomatch compiled
  · obtain ⟨⟨nodes, s⟩, -, rest⟩ := exists_of_bind_ok compiled
    obtain ⟨-, -, made⟩ := exists_of_bind_ok rest
    cases made
    rfl

/-- Whether an argument is no infinite number and not the number that is none. -/
def RuleArg.isFinite : RuleArg → Bool
  | number (.float x) => x.isFinite
  | _ => true

namespace Rule

/-- The text of a rule: its leading name, then its clauses with a dot before each. -/
def format (r : Rule) : String := r.root ++ String.join (r.clauses.map fun c => "." ++ c.format)

/-- What an argument is once it was written and read again: the same value, but a pattern without
the flags that stood after it. -/
def ArgTree.ReadsBack : ArgTree → RuleArg → Prop
  | .pattern body flags p .., x =>
    ∃ q, x = .pattern q ∧ Pattern.compile body [] = .ok q ∧ q.text = p.text ∧
      q.groups = p.groups ∧ q.nodes = p.nodes ∧ ∀ f, f ∈ p.flags ↔ f ∈ q.flags ∨ f ∈ flagsOf flags
  | a, x => x = a.value

/-- The letters that may stand after a pattern only tell how characters are compared. -/
theorem isStyle_of_mem_flagsOf {letters : List Char}
    (areFlags : ∀ c ∈ letters, isFlagLetter c = true) :
    ∀ f ∈ flagsOf letters, f.isStyle = true := by
  induction letters with
  | nil => exact fun f member => nomatch member
  | cons c rest ih =>
    obtain ⟨first, later⟩ := List.forall_mem_cons.mp areFlags
    have added (g : Pattern.Flag) (style : g.isStyle = true) :
        ∀ f ∈ (flagsOf rest).add g, f.isStyle = true := by
      intro f member
      rcases Pattern.Flags.mem_add.mp member with old | rfl
      · exact ih later f old
      · exact style
    simp only [isFlagLetter, Bool.or_eq_true, beq_iff_eq] at first
    rcases first with (rfl | rfl) | rfl
    · exact added .ignoreCase rfl
    · exact added .multiLine rfl
    · exact added .dotAll rfl

/-- It is written as it stood between its slashes. -/
theorem format_pattern {body : List Char} {p : Pattern} (text : p.text = String.ofList body) :
    (RuleArg.pattern p).format.toList = '/' :: (body ++ ['/']) := by
  simp [RuleArg.format, text]

/-- What is written for an argument is derived as an argument again. -/
theorem ArgTree.exists_written (a : ArgTree) (finite : a.value.isFinite = true) :
    ∃ b : ArgTree, b.text = a.value.format.toList ∧ a.ReadsBack b.value := by
  cases a with
  | truth b => exact ⟨.truth b, by cases b <;> rfl, rfl⟩
  | quoted quote body value isQuote enclosed denotes =>
    have literal : Json.unquote? (jsonBody '"' (value.flatMap Json.escapePoint)) = some value := by
      rw [jsonBody, if_neg (by decide)]
      simp only [Json.unquote?, Json.readString_points (Json.isJoined_of_unquote? denotes)]
    refine ⟨.quoted '"' _ value (.inr rfl) (enclosed_points value) literal, ?_, rfl⟩
    simp [text, ArgTree.value, RuleArg.format, Json.pointsLiteral]
  | number text n spelled denotes =>
    have writable : n.IsWritable := by
      obtain ⟨l, rfl⟩ := spelled
      rw [l.numberOf?_text] at denotes
      cases n with
      | int n => exact l.isWritable_of_value? denotes
      | float x => exact finite
    obtain ⟨l, written, value, -⟩ := writable.exists_literal
    exact ⟨.number l.text n ⟨l, rfl⟩ (l.numberOf?_text.trans value), written, rfl⟩
  | pattern body flags p enclosed areFlags compiles =>
    obtain ⟨q, bare, text, groups, nodes, more⟩ :=
      Pattern.compile_style (isStyle_of_mem_flagsOf areFlags) compiles
    refine ⟨.pattern body [] q enclosed (fun _ member => absurd member List.not_mem_nil) bare, ?_,
      q, rfl, bare, text, groups, nodes, more⟩
    exact (format_pattern (Pattern.text_of_compile compiles)).symm

/-- An argument after a comma has one blank before it. -/
def ArgTree.spaced (a : ArgTree) : PaddedArg :=
  ⟨⟨[' '], List.forall_mem_singleton.mpr rfl⟩, a, ⟨[], by simp⟩⟩

theorem laterText_spaced (trees : List ArgTree) :
    ArgsTree.laterText (trees.map ArgTree.spaced) = trees.flatMap fun b => ',' :: ' ' :: b.text := by
  induction trees with
  | nil => rfl
  | cons b trees ih =>
    rw [ArgsTree.laterText] at ih ⊢
    rw [List.map_cons, List.flatMap_cons, ih, List.flatMap_cons]
    simp [PaddedArg.text, ArgTree.spaced]

/-- A name and derived arguments with a comma and a blank between them are a clause. -/
theorem spells_clause {name : String} (isName : IsName name) (trees : List ArgTree) :
    Spells ("." ++ (name ++ "(" ++
        String.intercalate ", " (trees.map fun b => String.ofList b.text) ++ ")"))
      [⟨name, trees.map ArgTree.value⟩] := by
  obtain ⟨n, text, same⟩ := exists_name isName
  cases trees with
  | nil =>
    refine ⟨[⟨n, .none ⟨[], by simp⟩⟩], ?_, ?_⟩
    · simp [ClauseTree.text, ArgsTree.text, text]
    · simp [ClauseTree.clause, ArgsTree.values, same]
  | cons b trees =>
    refine ⟨[⟨n, .some ⟨⟨[], by simp⟩, b, ⟨[], by simp⟩⟩ (trees.map ArgTree.spaced)⟩], ?_, ?_⟩
    · simp [ClauseTree.text, ArgsTree.text, PaddedArg.text, laterText_spaced, text,
        Text.intercalate_cons, List.flatMap_map]
    · simp [ClauseTree.clause, ArgsTree.values, ArgTree.spaced, same]

/-- The arguments in a list, in order. -/
def ArgsTree.args : ArgsTree → List ArgTree
  | none _ => []
  | some first rest => first.arg :: rest.map PaddedArg.arg

theorem ArgsTree.values_eq (a : ArgsTree) : a.values = a.args.map ArgTree.value := by
  cases a with
  | none blanks => rfl
  | some first rest => simp [values, args]

/-- What a clause is once it was written and read again: the same name, and each argument as it
comes back. -/
def ClauseTree.ReadsBack (t : ClauseTree) (c : RuleClause) : Prop :=
  c.name = t.clause.name ∧ List.Forall₂ ArgTree.ReadsBack t.args.args c.args

/-- Arguments are written as they may be read, one by one. -/
theorem exists_written_args (as : List ArgTree)
    (finite : ∀ a ∈ as, a.value.isFinite = true) :
    ∃ bs : List ArgTree,
      (bs.map fun b => String.ofList b.text) = (as.map ArgTree.value).map RuleArg.format ∧
        List.Forall₂ ArgTree.ReadsBack as (bs.map ArgTree.value) := by
  induction as with
  | nil => exact ⟨[], rfl, .nil⟩
  | cons a as ih =>
    obtain ⟨first, later⟩ := List.forall_mem_cons.mp finite
    obtain ⟨b, text, reads⟩ := a.exists_written first
    obtain ⟨bs, texts, rest⟩ := ih later
    refine ⟨b :: bs, ?_, .cons reads rest⟩
    rw [List.map_cons, List.map_cons, List.map_cons, texts, text, String.ofList_toList]

/-- The text of a clause that was read is that of a clause. -/
theorem ClauseTree.exists_written (t : ClauseTree)
    (finite : ∀ x ∈ t.clause.args, x.isFinite = true) :
    ∃ c, Spells ("." ++ t.clause.format) [c] ∧ t.ReadsBack c := by
  have each : ∀ a ∈ t.args.args, a.value.isFinite = true := by
    intro a member
    refine finite a.value ?_
    rw [ClauseTree.clause, ArgsTree.values_eq]
    exact List.mem_map_of_mem member
  obtain ⟨bs, texts, reads⟩ := exists_written_args t.args.args each
  have isName : IsName t.clause.name := ⟨t.name, by simp [clause]⟩
  have spells := spells_clause isName bs
  rw [texts, ← ArgsTree.values_eq] at spells
  exact ⟨_, spells, rfl, reads⟩

/-- A rule with arguments of every kind. -/
def sampleText : String :=
  "N.a( 'it\\'s',\"a\\\\\\u00e9\", true).b(-2.50).c(1e3, 007).d(/^a\\/b$/im)"

example : (Rule.read sampleText).toOption.map format =
    some "N.a(\"it's\", \"a\\\\\\u00e9\", true).b(-2.5).c(1000.0, 7).d(/^a\\/b$/)" := by
  decide +kernel

end Rule
end ServiceDiagram
