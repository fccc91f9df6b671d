import Mathlib.Data.List.Nodup
import ServiceDiagram.Diagram.Model

namespace ServiceDiagram

/-- Nothing is repeated exactly if the names differ among themselves and from those seen before. -/
theorem firstRepeated?_eq_none_iff {seen names : List String} :
    firstRepeated? seen names = none ↔ names.Nodup ∧ ∀ n ∈ names, n ∉ seen := by
  induction names generalizing seen with
  | nil => simp [firstRepeated?]
  | cons n names ih =>
    by_cases here : n ∈ seen
    · simp [firstRepeated?, here]
    · simp only [firstRepeated?, List.contains_iff_mem, here, if_false, ih, List.nodup_cons,
        List.mem_cons]
      constructor
      · rintro ⟨differ, apart⟩
        have notLater : n ∉ names := fun member => apart n member (.inl rfl)
        refine ⟨⟨notLater, differ⟩, ?_⟩
        rintro a (rfl | member)
        · exact here
        · exact fun old => apart a member (.inr old)
      · rintro ⟨⟨notLater, differ⟩, apart⟩
        refine ⟨differ, fun a member => ?_⟩
        rintro (rfl | old)
        · exact notLater member
        · exact apart a (.inr member) old

/-- An item is found by its key, if no two items have one key. -/
theorem find?_of_nodup_map {α κ : Type} [BEq κ] [LawfulBEq κ] {key : α → κ} {as : List α} {a : α}
    (differ : (as.map key).Nodup) (member : a ∈ as) : as.find? (fun b => key b == key a) = some a := by
  have found : (as.find? fun b => key b == key a).isSome :=
    List.find?_isSome.mpr ⟨a, member, beq_self_eq_true _⟩
  obtain ⟨b, same⟩ := Option.isSome_iff_exists.mp found
  have sameKey : key b = key a := by
    simpa using List.find?_some (p := fun b => key b == key a) same
  rw [same, List.inj_on_of_nodup_map differ (List.mem_of_find?_eq_some same) member sameKey]

namespace Model

theorem class?_mem {m : Model} {id : String} {c : Class} (found : m.class? id = some c) :
    c ∈ m.classes ∧ c.id = id :=
  ⟨List.mem_of_find?_eq_some found, by simpa using List.find?_some found⟩

theorem class?_of_mem {m : Model} {c : Class} (member : c ∈ m.classes) :
    m.class? c.id = some c := find?_of_nodup_map m.unique member

end Model

/-- A reference names a class exactly if it is an object, and it has a name unless it is unknown. -/
structure TypeRef.WellFormed (t : TypeRef) : Prop where
  classId : t.classId.isSome ↔ t.kind = .object
  named : t.kind ≠ .unknown → t.name ≠ ""

/-- A declared bound is a number, and the lower one is not above the upper one. -/
structure Parameter.WellFormed (p : Parameter) : Prop where
  named : p.name ≠ ""
  type : p.type.WellFormed
  lower : p.hasMin → ∃ low, p.min? = some low
  upper : p.hasMax → ∃ high, p.max? = some high
  ordered : p.hasMin → p.hasMax → ∀ low ∈ p.min?, ∀ high ∈ p.max?, high.lt low = false

structure Operation.WellFormed (o : Operation) : Prop where
  named : o.name ≠ ""
  distinct : (o.parameters.map Parameter.name).Nodup
  parameters : ∀ p ∈ o.parameters, p.WellFormed

structure Class.WellFormed (c : Class) : Prop where
  identified : c.id ≠ ""
  named : c.name ≠ ""
  distinct : (c.tags.map Tag.name).Nodup
  tags : ∀ t ∈ c.tags, t.name ≠ ""
  dependencies : ∀ d ∈ c.dependencies, d.target.WellFormed
  operations : ∀ o ∈ c.operations, o.WellFormed

/-- Every class is found under its own id and no two have one id, and the revision counts them. -/
structure Model.WellFormed (m : Model) : Prop where
  keyed : ∀ c ∈ m.classes, m.class? c.id = some c
  distinct : (m.classes.map Class.id).Nodup
  classes : ∀ c ∈ m.classes, c.WellFormed
  revision : m.revision = m.classes.length

/-- A parameter keeps all that is asked of it from the moment when it is made, except what depends
on its type. -/
theorem Parameter.wellFormed {p : Parameter} (type : p.type.WellFormed) : p.WellFormed := by
  obtain ⟨named, lower, upper, inOrder⟩ := p.valid
  refine ⟨named, type, fun h => Option.isSome_iff_exists.mp (lower h),
    fun h => Option.isSome_iff_exists.mp (upper h), ?_⟩
  intro hasMin hasMax low isLow high isHigh
  have order := inOrder hasMin hasMax
  rwa [Option.mem_def.mp isLow, Option.mem_def.mp isHigh] at order

theorem Operation.wellFormed {o : Operation} (parameters : ∀ p ∈ o.parameters, p.WellFormed) :
    o.WellFormed :=
  ⟨o.valid.1, (firstRepeated?_eq_none_iff.mp o.valid.2).1, parameters⟩

theorem Class.wellFormed {c : Class} (dependencies : ∀ d ∈ c.dependencies, d.target.WellFormed)
    (operations : ∀ o ∈ c.operations, o.WellFormed) : c.WellFormed :=
  ⟨c.valid.1, c.valid.2.1, (firstRepeated?_eq_none_iff.mp c.valid.2.2).1, fun t _ => t.named,
    dependencies, operations⟩

/-- Of a model only its classes and its revision depend on where it comes from. -/
theorem Model.wellFormed {m : Model} (classes : ∀ c ∈ m.classes, c.WellFormed)
    (revision : m.revision = m.classes.length) : m.WellFormed :=
  ⟨fun _ => class?_of_mem, m.unique, classes, revision⟩

end ServiceDiagram
