import ServiceDiagram.Registry.Node
import ServiceDiagram.Value.Display

namespace ServiceDiagram

inductive FilterError where
  | emptyAttribute
  | duplicateAttributes (names : List String)
  | unsorted
  | ownerAttribute
  deriving DecidableEq, Repr

namespace FilterError

def message : FilterError → String
  | emptyAttribute => "filter attribute names must not be empty"
  | duplicateAttributes names =>
    "filter has duplicate attributes: [" ++ commaSeparated (names.map Text.quoted) ++ "]"
  | unsorted => "filter criteria must be sorted by attribute, use NodeFilter.where()"
  | ownerAttribute => "NodeFilter.where() got multiple values for argument 'cls'"

end FilterError

/-- A demanded attribute and its value. -/
abbrev Criterion := String × Value

/-- The attributes are named, and their names are in strict order. -/
def NodeFilter.Canonical (criteria : List Criterion) : Prop :=
  (∀ c ∈ criteria, c.1 ≠ "") ∧ (criteria.map Prod.fst).Pairwise (· < ·)

/-- Filters: the values that certain attributes of a node must have. The attributes are in order and
differ, so two filters with the same demands are the same filter. -/
structure NodeFilter where
  criteria : List Criterion
  canonical : NodeFilter.Canonical criteria

namespace NodeFilter

/-- The filter that every node passes. -/
def all : NodeFilter := ⟨[], by simp [Canonical]⟩

def nameLe (a b : String) : Bool := decide (a ≤ b)

theorem pairwise_nameLe (names : List String) :
    (names.mergeSort nameLe).Pairwise (nameLe · ·) := by
  refine List.pairwise_mergeSort ?_ ?_ names
  · intro a b c ab bc
    simp only [nameLe, decide_eq_true_eq] at ab bc ⊢
    exact String.le_trans ab bc
  · intro a b
    simp only [nameLe, Bool.or_eq_true, decide_eq_true_eq]
    exact String.le_total a b

/-- Names that differ and are in order are in strict order. -/
theorem pairwise_lt {names : List String} (differ : names.Nodup)
    (inOrder : names = names.mergeSort nameLe) : names.Pairwise (· < ·) := by
  have sorted : names.Pairwise (nameLe · ·) := by
    rw [inOrder]
    exact pairwise_nameLe names
  refine (sorted.and differ).imp ?_
  intro a b ⟨le, ne⟩
  simp only [nameLe, decide_eq_true_eq] at le
  refine Decidable.byContradiction fun notLt => ne ?_
  exact String.le_antisymm le (String.not_lt.mp notLt)

/-- Checks that the attributes are named, differ and are in order. -/
def make (criteria : List Criterion) : Except FilterError NodeFilter :=
  let names := criteria.map Prod.fst
  if named : ∀ c ∈ criteria, c.1 ≠ "" then
    if differ : names.Nodup then
      if inOrder : names = names.mergeSort nameLe then
        .ok ⟨criteria, named, pairwise_lt differ inOrder⟩
      else .error .unsorted
    else .error (.duplicateAttributes names)
  else .error .emptyAttribute

/-- The filter with criteria in any order. -/
def where? (criteria : List Criterion) : Except FilterError NodeFilter :=
  if criteria.any fun c => c.1 == "cls" then .error .ownerAttribute
  else make (criteria.mergeSort fun a b => nameLe a.1 b.1)

/-- Whether a node has all demanded values. -/
def passes (f : NodeFilter) (n : Node) : Bool :=
  f.criteria.all fun (name, expected) => ((n.value? name).map (·.eqv expected)).getD false

/-- Whether two lists of criteria make the same demands, item by item. -/
def sameCriteria : List Criterion → List Criterion → Bool
  | [], [] => true
  | (n, v) :: xs, (m, w) :: ys => n == m && v.eqv w && sameCriteria xs ys
  | _, _ => false

def eqv (f g : NodeFilter) : Bool := sameCriteria f.criteria g.criteria

/-- The type of the first value that cannot be part of a key. -/
def unhashable? (f : NodeFilter) : Option String :=
  (f.criteria.find? fun c => !c.2.isKey).map fun c => c.2.typeName

/-- The demands in text; an asterisk if there are none. -/
def display (f : NodeFilter) : String :=
  if f.criteria.isEmpty then "*"
  else commaSeparated (f.criteria.map fun (name, v) => name ++ "=" ++ v.display)

/-- Whether the demands can be shown. -/
def isShowable (f : NodeFilter) : Bool := f.criteria.all fun (_, v) => v.isShowable

/-- The filter with all its fields. -/
def fullDisplay (f : NodeFilter) : String :=
  nodeText "NodeFilter" [("criteria",
    tupleText (f.criteria.map fun (name, v) => tupleText [Text.quoted name, v.display]))]

end NodeFilter

end ServiceDiagram
