import ServiceDiagram.Proofs.Rule.Meaning

namespace ServiceDiagram

/-- The fault is that something is not known. -/
def RuleFault.IsUnsupported : RuleFault → Prop
  | unknownKind _ => True
  | unknownClause .. => True
  | _ => False

namespace Rule

/-- The kinds that values are judged by. -/
def knownKinds : List String := ["any", "string", "number", "boolean", "date", "object", "array"]

/-- The clauses after the first that values are judged by. -/
def knownClauses : List String :=
  ["required", "min", "max", "integer", "email", "uri", "guid", "uuid", "iso", "pattern"]

/-- The clauses after the first, up to the first of them that is not known. -/
def knownPart (r : Rule) : List RuleClause :=
  r.clauses.tail.takeWhile fun c => knownClauses.contains c.name

/-- What is reported of a rule: its kind if that is not known, else the first clause that is not. -/
def unsupported? (r : Rule) : Option RuleError :=
  if r.kind ∈ knownKinds then
    (r.clauses.tail.find? fun c => !knownClauses.contains c.name).map fun c =>
      ⟨c.format, .unknownClause c.name r.kind⟩
  else some ⟨r.base.format, .unknownKind r.kind⟩

/-- What a rule says to a value, or to input that is missing. -/
def judge (r : Rule) : Option Value → Except CheckError Bool
  | some v => r.check v
  | none => .ok r.checkMissing

/-- What a rule says is that something in it is not known. -/
def Reports (r : Rule) (input : Option Value) : Prop :=
  ∃ e, r.judge input = .error (.rule e) ∧ e.fault.IsUnsupported

/-- Judging a value comes to what is not known: the kind is not, or the value is of the kind, and all
clauses before an unknown one accept it. -/
def Reaches (r : Rule) (v : Value) : Prop :=
  r.kind ∉ knownKinds ∨ r.matchesKind v = .ok true ∧
    (∃ c ∈ r.clauses.tail, c.name ∉ knownClauses) ∧
    ∀ c ∈ r.knownPart, r.checkClause c v = .ok true

variable {r : Rule} {v : Value}

/-- A kind that is not known is reported as soon as a value is judged. -/
theorem matchesKind_of_unknown (unknown : r.kind ∉ knownKinds) (v : Value) :
    r.matchesKind v = .error (.rule ⟨r.base.format, .unknownKind r.kind⟩) := by
  unfold matchesKind
  split <;> rename_i same <;> first | rfl | exact absurd (by rw [same]; decide) unknown

theorem matchesKind_of_known (known : r.kind ∈ knownKinds) (v : Value) :
    ∃ ofKind, r.matchesKind v = .ok ofKind := by
  simp only [knownKinds, List.mem_cons, List.not_mem_nil, or_false] at known
  unfold matchesKind
  rcases known with kind | kind | kind | kind | kind | kind | kind <;> rw [kind] <;> exact ⟨_, rfl⟩

/-- A clause that is not known is reported when it is come to. -/
theorem checkClause_of_unknown {c : RuleClause} (unknown : c.name ∉ knownClauses) :
    r.checkClause c v = .error (.rule ⟨c.format, .unknownClause c.name r.kind⟩) := by
  unfold checkClause
  split <;> rename_i same <;> first | rfl | exact absurd (by rw [same]; decide) unknown

/-- An outcome that is no report of something that is not known. -/
def IsSupported (outcome : Except CheckError Bool) : Prop :=
  ∀ e, outcome = .error (.rule e) → ¬ e.fault.IsUnsupported

theorem isSupported_ok (verdict : Bool) : IsSupported (.ok verdict) := nofun

theorem isSupported_checkBound (least : Bool) (c : RuleClause) (v : Value) :
    IsSupported (checkBound least c v) := by
  rintro e failed unsupported
  unfold checkBound singleNumber at failed
  split at failed
  · simp only [bind, Except.bind] at failed
    split at failed <;> cases failed
  · cases failed
    exact unsupported
  · cases failed
    exact unsupported

theorem isSupported_checkPattern (c : RuleClause) (v : Value) :
    IsSupported (checkPattern c v) := by
  rintro e failed unsupported
  unfold checkPattern at failed
  split at failed
  · cases failed
  · cases failed
    exact unsupported

/-- A clause that is known is never reported as unknown. -/
theorem isSupported_checkClause {c : RuleClause} (known : c.name ∈ knownClauses) :
    IsSupported (r.checkClause c v) := by
  simp only [knownClauses, List.mem_cons, List.not_mem_nil, or_false] at known
  unfold checkClause
  rcases known with name | name | name | name | name | name | name | name | name | name <;>
    rw [name]
  case inr.inl => exact isSupported_checkBound true c v
  case inr.inr.inl => exact isSupported_checkBound false c v
  case inr.inr.inr.inr.inr.inl =>
    intro e failed
    cases v with
    | text s =>
      dsimp only at failed
      cases accepted : Uri.accepts s <;> rw [accepted] at failed <;> cases failed
    | _ => cases failed
  case inr.inr.inr.inr.inr.inr.inr.inr.inr => exact isSupported_checkPattern c v
  all_goals exact isSupported_ok _

theorem isSupported_checkClauses {clauses : List RuleClause}
    (known : ∀ c ∈ clauses, c.name ∈ knownClauses) : IsSupported (r.checkClauses v clauses) := by
  induction clauses with
  | nil => exact isSupported_ok true
  | cons c clauses ih =>
    obtain ⟨knownFirst, knownLater⟩ := List.forall_mem_cons.mp known
    intro e failed
    simp only [checkClauses, bind, Except.bind] at failed
    cases judged : r.checkClause c v with
    | error e' =>
      rw [judged] at failed
      cases failed
      exact isSupported_checkClause knownFirst e judged
    | ok accepted =>
      rw [judged] at failed
      cases accepted with
      | true => exact ih knownLater e failed
      | false => cases failed

/-- Clauses accept a value together if each of them does. -/
theorem checkClauses_accepts_iff (clauses : List RuleClause) :
    r.checkClauses v clauses = .ok true ↔ ∀ c ∈ clauses, r.checkClause c v = .ok true := by
  induction clauses with
  | nil => simp [checkClauses]
  | cons c clauses ih =>
    rw [List.forall_mem_cons, ← ih]
    simp only [checkClauses, bind, Except.bind]
    cases judged : r.checkClause c v with
    | error e => simp
    | ok accepted => cases accepted <;> simp [pure, Except.pure]

theorem known_of_knownPart : ∀ c ∈ r.knownPart, c.name ∈ knownClauses := by
  intro c member
  simpa using (List.mem_takeWhile_imp member)

/-- After the clauses that are known there is the first that is not, unless all are. -/
theorem knownPart_cases (r : Rule) :
    (r.clauses.tail = r.knownPart ∧ ∀ c ∈ r.clauses.tail, c.name ∈ knownClauses) ∨
      ∃ c later, r.clauses.tail = r.knownPart ++ c :: later ∧ c.name ∉ knownClauses ∧
        (r.clauses.tail.find? fun c => !knownClauses.contains c.name) = some c := by
  have split : r.knownPart ++ r.clauses.tail.dropWhile (fun c => knownClauses.contains c.name) =
      r.clauses.tail := List.takeWhile_append_dropWhile
  cases rest : r.clauses.tail.dropWhile fun c => knownClauses.contains c.name with
  | nil =>
    rw [rest, List.append_nil] at split
    exact .inl ⟨split.symm, split ▸ known_of_knownPart⟩
  | cons c later =>
    have unknown : (knownClauses.contains c.name) = false := by
      have head := List.head?_dropWhile_not (fun c => knownClauses.contains c.name) r.clauses.tail
      rw [rest] at head
      simpa using head
    rw [rest] at split
    refine .inr ⟨c, later, split.symm, by simpa using unknown, ?_⟩
    have noneBefore : (r.knownPart.find? fun c => !knownClauses.contains c.name) = none :=
      List.find?_eq_none.mpr fun d member => by simpa using known_of_knownPart d member
    rw [← split, List.find?_append, noneBefore, Option.none_or, List.find?_cons, unknown]
    rfl

/-- With a known kind the clauses are come to only by values of this kind. -/
theorem check_of_ofKind (known : r.kind ∈ knownKinds) :
    ∃ ofKind, r.matchesKind v = .ok ofKind ∧
      r.check v = if ofKind then r.checkClauses v r.clauses.tail else .ok false := by
  obtain ⟨ofKind, matched⟩ := matchesKind_of_known known v
  refine ⟨ofKind, matched, ?_⟩
  simp only [check, matched, bind, Except.bind]
  rfl

/-- What is not known is reported, and by its own text, exactly if judging comes to it. -/
theorem check_of_reaches (reaches : r.Reaches v) :
    ∃ e ∈ r.unsupported?, r.check v = .error (.rule e) ∧ e.fault.IsUnsupported := by
  by_cases known : r.kind ∈ knownKinds
  · obtain unknown | ⟨matched, ⟨c, member, unknown⟩, accepted⟩ := reaches
    · exact absurd known unknown
    rcases r.knownPart_cases with ⟨-, allKnown⟩ | ⟨first, later, split, unknownFirst, found⟩
    · exact absurd (allKnown c member) unknown
    refine ⟨⟨first.format, .unknownClause first.name r.kind⟩, ?_, ?_, trivial⟩
    · rw [unsupported?, if_pos known, found]
      rfl
    · simp only [check, matched, split, checkClauses_append,
        (checkClauses_accepts_iff r.knownPart).mpr accepted, checkClauses,
        checkClause_of_unknown unknownFirst, bind, Except.bind, if_true]
  · refine ⟨⟨r.base.format, .unknownKind r.kind⟩, if_neg known, ?_, trivial⟩
    simp only [check, matchesKind_of_unknown known, bind, Except.bind]

/-- If judging does not come to what is not known, the rule up to there is all that counts. -/
theorem check_of_not_reaches (stops : ¬ r.Reaches v) :
    r.check v = ((r.matchesKind v).bind fun ofKind =>
      if ofKind then r.checkClauses v r.knownPart else .ok false) ∧ IsSupported (r.check v) := by
  have known : r.kind ∈ knownKinds := Classical.byContradiction fun unknown => stops (.inl unknown)
  obtain ⟨ofKind, matched, judged⟩ := check_of_ofKind (v := v) known
  have early : r.check v = if ofKind then r.checkClauses v r.knownPart else .ok false := by
    rw [judged]
    cases ofKind with
    | false => rfl
    | true =>
      rcases r.knownPart_cases with ⟨all, -⟩ | ⟨c, later, split, unknown, -⟩
      · rw [all]
      have refused : r.checkClauses v r.knownPart ≠ .ok true := fun accepted =>
        stops (.inr ⟨matched, ⟨c, by simp [split], unknown⟩,
          (checkClauses_accepts_iff _).mp accepted⟩)
      rw [if_pos rfl, if_pos rfl, split, checkClauses_append]
      cases part : r.checkClauses v r.knownPart with
      | error e => rfl
      | ok accepted =>
        cases accepted with
        | true => exact absurd part refused
        | false => rfl
  rw [matched]
  refine ⟨early, early ▸ ?_⟩
  cases ofKind with
  | false => exact isSupported_ok false
  | true => exact isSupported_checkClauses known_of_knownPart

/-- A rule is reported as unsupported for a value exactly if judging the value comes to the kind or
clause that is not known, and then with the text of that. Otherwise the value is judged by what
stands before the unknown clause, and missing input is never judged by clauses at all. -/
theorem unsupported_reported_iff (r : Rule) :
    r.judge none = .ok (!r.isRequired) ∧
      ∀ v, (r.Reports (some v) ↔ r.Reaches v) ∧
        (r.Reaches v → ∃ e ∈ r.unsupported?, r.judge (some v) = .error (.rule e)) ∧
        (¬ r.Reaches v → r.judge (some v) = (r.matchesKind v).bind fun ofKind =>
          if ofKind then r.checkClauses v r.knownPart else .ok false) := by
  refine ⟨rfl, fun v => ⟨⟨?_, ?_⟩, ?_, fun stops => (check_of_not_reaches stops).1⟩⟩
  · rintro ⟨e, reported, unsupported⟩
    refine Classical.byContradiction fun stops => ?_
    exact (check_of_not_reaches stops).2 e reported unsupported
  · intro reaches
    obtain ⟨e, -, reported, unsupported⟩ := check_of_reaches reaches
    exact ⟨e, reported, unsupported⟩
  · intro reaches
    obtain ⟨e, same, reported, -⟩ := check_of_reaches reaches
    exact ⟨e, same, reported⟩

/-- A number is no text, and so is refused by a rule for texts before its unknown clause. -/
example : (Rule.mk "Joi" [⟨"string", []⟩, ⟨"frobnicate", []⟩] (by decide)).judge
    (some (.number (.int 1))) = .ok false := rfl

end Rule
end ServiceDiagram
