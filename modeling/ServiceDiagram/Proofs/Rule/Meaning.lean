import ServiceDiagram.Proofs.Number.Order
import ServiceDiagram.Proofs.Rule.Synthesis
import ServiceDiagram.Rule.Check

namespace ServiceDiagram.Rule

/-- Clauses come to a verdict on a value, and accept it exactly under a condition. -/
def Judges (r : Rule) (v : Value) (clauses : List RuleClause) (condition : Prop) : Prop :=
  ∃ verdict, checkClauses r v clauses = .ok verdict ∧ (verdict = true ↔ condition)

variable {r : Rule} {v : Value}

theorem judges_nil : Judges r v [] True := ⟨true, rfl, by simp⟩

/-- Clauses are judged up to the first that refuses. -/
theorem checkClauses_append (first later : List RuleClause) :
    checkClauses r v (first ++ later) =
      (checkClauses r v first).bind fun accepted =>
        if accepted then checkClauses r v later else .ok false := by
  induction first with
  | nil => rfl
  | cons c first ih =>
    simp only [List.cons_append, checkClauses, bind]
    cases judged : checkClause r c v with
    | error e => rfl
    | ok accepted =>
      cases accepted with
      | true => simpa [Except.bind] using ih
      | false => rfl

/-- Clauses that are judged one after the other make up one condition. -/
theorem Judges.append {first later : List RuleClause} {condition condition' : Prop}
    (judges : Judges r v first condition) (judges' : Judges r v later condition') :
    Judges r v (first ++ later) (condition ∧ condition') := by
  obtain ⟨verdict, judged, holds⟩ := judges
  obtain ⟨verdict', judged', holds'⟩ := judges'
  refine ⟨verdict && verdict', ?_, ?_⟩
  · rw [checkClauses_append, judged]
    cases verdict with
    | true => simpa [Except.bind] using judged'
    | false => rfl
  · rw [Bool.and_eq_true, holds, holds']

theorem judges_clause {c : RuleClause} {verdict : Bool} {condition : Prop}
    (judged : checkClause r c v = .ok verdict) (holds : verdict = true ↔ condition) :
    Judges r v [c] condition := by
  refine ⟨verdict, ?_, holds⟩
  simp only [checkClauses, judged, bind, Except.bind]
  cases verdict <;> rfl

theorem judges_required (isRequired : Bool) : Judges r v (requiredClauses isRequired) True := by
  cases isRequired with
  | false => exact judges_nil
  | true => exact judges_clause rfl (by simp)

theorem judges_bound {name : String} {declared : Bool} {bound : Option Number}
    {verdict : Number → Bool} {condition : Number → Prop}
    (judged : ∀ limit, checkClause r ⟨name, [.number limit]⟩ v = .ok (verdict limit))
    (holds : ∀ limit, verdict limit = true ↔ condition limit) :
    Judges r v (boundClauses name declared bound)
      (declared = true → ∀ limit ∈ bound, condition limit) := by
  cases declared with
  | false => exact ⟨true, rfl, by simp⟩
  | true =>
    cases bound with
    | none => exact ⟨true, rfl, by simp⟩
    | some limit => exact judges_clause (judged limit) (by simp [holds])

/-- The clause of the lower bound asks that the value is not below it. -/
theorem judges_lower {n : Number} (measured : measure? v = some n) (declared : Bool)
    (bound : Option Number) :
    Judges r v (boundClauses "min" declared bound)
      (declared = true → ∀ low ∈ bound, low.AtMost n) := by
  refine judges_bound (fun low => ?_) fun low => low.le_iff n
  simp only [checkClause, checkBound, singleNumber, measured, bind, Except.bind, if_true]

/-- The clause of the upper bound asks that the value is not above it. -/
theorem judges_upper {n : Number} (measured : measure? v = some n) (declared : Bool)
    (bound : Option Number) :
    Judges r v (boundClauses "max" declared bound)
      (declared = true → ∀ high ∈ bound, n.AtMost high) := by
  refine judges_bound (fun high => ?_) fun high => n.le_iff high
  simp only [checkClause, checkBound, singleNumber, measured, bind, Except.bind,
    Bool.false_eq_true, if_false]

/-- The types whose rules are made of a kind and bounds. -/
inductive Scalar where
  | string
  | number
  | integer

namespace Scalar

def kind : Scalar → String
  | string => "string"
  | number => "number"
  | integer => "number"

/-- The further clauses of a type as they are declared. -/
def Declares : Scalar → Option String → Prop
  | integer, addOn => addOn = some ".integer()"
  | _, addOn => addOn = none ∨ addOn = some ""

/-- The number that bounds are held against: the length of a text, a number itself. A value of
another kind has none. -/
def measure? : Scalar → Value → Option Number
  | string, .text s => some (.int s.length)
  | number, .number n => some n
  | integer, .number n => some n
  | _, _ => none

/-- The values that the rule of a parameter should accept: those of the kind, within the declared
bounds, and without a fraction if the type has integers only. -/
def Accepts (t : Scalar) (p : Parameter) (v : Value) : Prop :=
  ∃ n ∈ t.measure? v, (t = integer → ∃ k : Int, n.place? = some (Number.Line.rational k)) ∧
    (p.hasMin = true → ∀ low ∈ p.min?, low.AtMost n) ∧
    (p.hasMax = true → ∀ high ∈ p.max?, n.AtMost high)

/-- The further clauses of a type as they are read. -/
def clauses : Scalar → List RuleClause
  | integer => [⟨"integer", []⟩]
  | _ => []

theorem isName_kind (t : Scalar) : IsName t.kind := by
  cases t with
  | string => exact isName_of_all rfl rfl rfl
  | number => exact isName_number
  | integer => exact isName_number

theorem Declares.reads {t : Scalar} {addOn : Option String} (declares : t.Declares addOn) :
    AddOnReads addOn t.clauses := by
  cases t with
  | string => rcases declares with rfl | rfl <;> rfl
  | number => rcases declares with rfl | rfl <;> rfl
  | integer =>
    cases declares
    exact ⟨_, rfl, rfl⟩

/-- A value is of the kind exactly if there is something to measure in it. -/
theorem matchesKind_eq (t : Scalar) (sameKind : r.kind = t.kind) (v : Value) :
    r.matchesKind v = .ok (t.measure? v).isSome := by
  cases t with
  | string =>
    simp only [matchesKind, sameKind, kind]
    cases v <;> rfl
  | number =>
    simp only [matchesKind, sameKind, kind]
    cases v <;> rfl
  | integer =>
    simp only [matchesKind, sameKind, kind]
    cases v <;> rfl

theorem measure?_eq {t : Scalar} {n : Number} (measured : t.measure? v = some n) :
    Rule.measure? v = some n := by
  cases t <;> cases v <;> cases measured <;> rfl

theorem judges_clauses (t : Scalar) {n : Number} (measured : t.measure? v = some n) :
    Judges r v t.clauses
      (t = integer → ∃ k : Int, n.place? = some (Number.Line.rational k)) := by
  cases t with
  | string => exact ⟨true, rfl, by simp⟩
  | number => exact ⟨true, rfl, by simp⟩
  | integer =>
    cases v with
    | number n =>
      cases measured
      exact judges_clause rfl (by simp [isWhole, Value.number?, Number.isInteger_iff])
    | _ => cases measured

/-- All clauses after the kind together: the type, the bounds, and whether the value is asked for at
all. -/
theorem judges_later (t : Scalar) (p : Parameter) {n : Number} (measured : t.measure? v = some n) :
    Judges r v (t.clauses ++ (boundClauses "min" p.hasMin p.min? ++
      (boundClauses "max" p.hasMax p.max? ++ requiredClauses p.isRequired)))
      ((t = integer → ∃ k : Int, n.place? = some (Number.Line.rational k)) ∧
        (p.hasMin = true → ∀ low ∈ p.min?, low.AtMost n) ∧
        (p.hasMax = true → ∀ high ∈ p.max?, n.AtMost high) ∧ True) := by
  have low : Judges r v (boundClauses "min" p.hasMin p.min?)
      (p.hasMin = true → ∀ low ∈ p.min?, low.AtMost n) :=
    judges_lower (measure?_eq measured) p.hasMin p.min?
  have high : Judges r v (boundClauses "max" p.hasMax p.max?)
      (p.hasMax = true → ∀ high ∈ p.max?, n.AtMost high) :=
    judges_upper (measure?_eq measured) p.hasMax p.max?
  exact (t.judges_clauses measured).append
    (low.append (high.append (judges_required p.isRequired)))

end Scalar

theorem kind_of_clauses {c : RuleClause} {rest : List RuleClause} (clauses : r.clauses = c :: rest) :
    r.kind = c.name := by
  obtain ⟨root, cs, nonempty⟩ := r
  cases clauses
  rfl

/-- A rule with the clauses of a parameter comes to a verdict on every value, and it is that of the
parameter. -/
theorem check_of_clauses {t : Scalar} {p : Parameter}
    (clauses : r.clauses = ruleClauses p t.kind t.clauses) (v : Value) :
    ∃ verdict, r.check v = .ok verdict ∧ (verdict = true ↔ t.Accepts p v) := by
  have matched := t.matchesKind_eq (kind_of_clauses clauses) v
  cases measured : t.measure? v with
  | none =>
    rw [measured] at matched
    refine ⟨false, ?_, ?_⟩
    · simp only [check, matched, Option.isSome_none, bind, Except.bind, Bool.false_eq_true, if_false]
      rfl
    · simp [Scalar.Accepts, measured]
  | some n =>
    rw [measured] at matched
    obtain ⟨verdict, judged, holds⟩ := t.judges_later (r := r) p measured
    refine ⟨verdict, ?_, ?_⟩
    · simp only [check, matched, clauses, ruleClauses, List.tail_cons, Option.isSome_some, bind, Except.bind,
        if_true, judged]
    · simpa [Scalar.Accepts, measured] using holds

theorem boundClauses_not_required {name : String} (other : name ≠ "required") (declared : Bool)
    (bound : Option Number) :
    (boundClauses name declared bound).any (fun c => c.name == "required") = false := by
  cases declared with
  | false => rfl
  | true => cases bound <;> simp [boundClauses, other]

/-- Missing input is accepted exactly if it is not required. -/
theorem checkMissing_of_clauses {t : Scalar} {p : Parameter}
    (clauses : r.clauses = ruleClauses p t.kind t.clauses) :
    r.checkMissing = !p.isRequired := by
  have low := boundClauses_not_required (by decide : "min" ≠ "required") p.hasMin p.min?
  have high := boundClauses_not_required (by decide : "max" ≠ "required") p.hasMax p.max?
  have kind : (t.kind == "required") = false := by cases t <;> rfl
  have further : t.clauses.any (fun c => c.name == "required") = false := by cases t <;> rfl
  have last : (requiredClauses p.isRequired).any (fun c => c.name == "required") =
      p.isRequired := by
    cases p.isRequired <;> rfl
  simp only [checkMissing, isRequired, clauses, ruleClauses, List.any_cons, List.any_append, kind, further, low,
    high, last, Bool.false_or]

/-- The rule of a parameter that is a text, a number or an integer comes to a verdict on every
value, and accepts what it should; missing input it accepts unless the parameter is required. -/
theorem check_ruleText {p : Parameter} {t : Scalar} {addOn : Option String} {root : String}
    (isRoot : IsName root) (declares : t.Declares addOn) (writable : WritableBounds p) :
    ∃ r, Rule.read (ruleText p t.kind addOn root) = .ok r ∧
      (∀ v, ∃ verdict, r.check v = .ok verdict ∧ (verdict = true ↔ t.Accepts p v)) ∧
      r.checkMissing = !p.isRequired := by
  obtain ⟨s, text, spells⟩ := spells_ruleText t.isName_kind declares.reads writable
  obtain ⟨r, read, -, clauses⟩ := spells.read isRoot (List.cons_ne_nil _ _)
  exact ⟨r, text root ▸ read, check_of_clauses clauses, checkMissing_of_clauses clauses⟩

theorem check_ruleText_sample :
    IsName "Joi" ∧ Scalar.integer.Declares (some ".integer()") ∧ WritableBounds sampleParameter ∧
      ∃ r, Rule.read (ruleText sampleParameter Scalar.integer.kind (some ".integer()") "Joi") = .ok r ∧
        (∀ v, ∃ verdict, r.check v = .ok verdict ∧
          (verdict = true ↔ Scalar.integer.Accepts sampleParameter v)) ∧
        r.checkMissing = false := by
  have declares : Scalar.integer.Declares (some ".integer()") := rfl
  exact ⟨isName_sample, declares, writableBounds_sample,
    check_ruleText isName_sample declares writableBounds_sample⟩

end ServiceDiagram.Rule
