import ServiceDiagram.Proofs.Registry.Log

namespace ServiceDiagram

theorem exists_first_iff {α : Type} {p : α → Bool} {as : List α} {P : α → Prop} :
    (∃ before a after, as = before ++ a :: after ∧ (∀ b ∈ before, p b = false) ∧ p a = true ∧ P a) ↔
      ∃ a, as.find? p = some a ∧ P a := by
  simp only [List.find?_eq_some_iff_append, Bool.not_eq_true']
  constructor
  · rintro ⟨before, a, after, split, none, here, holds⟩
    exact ⟨a, ⟨here, before, after, split, none⟩, holds⟩
  · rintro ⟨a, ⟨here, before, after, split, none⟩, holds⟩
    exact ⟨before, a, after, split, none, here, holds⟩

namespace Capability

/-- The name of an item, if it has one. -/
def Item.name? : Item → Option String
  | .capability c => some c.name
  | .definition d => some d.label
  | .unnamed _ => none
  | .uncallable name => some name

/-- What an item defines, if that can be called. -/
def Item.definition? : Item → Option Definition
  | .capability c => some c.definition
  | .definition d => some d
  | .unnamed _ => none
  | .uncallable _ => none

/-- What is wrong with an item that stands for no capability. -/
inductive Item.Fault : Item → CapabilityError → Prop
  | unnamed (typeName : String) : Fault (.unnamed typeName) (.unnamed typeName)
  | notIdentifier {item : Item} {name : String} (named : item.name? = some name)
    (noIdentifier : Text.isIdentifier name = false) : Fault item (.notIdentifier name)
  | notPublic {item : Item} {name : String} (named : item.name? = some name)
    (identifier : Text.isIdentifier name = true) (hidden : name.toList.head? = some '_') :
    Fault item (.notPublic name)
  | notCallable {item : Item} {name : String} (named : item.name? = some name) (isName : IsName name)
    (undefined : item.definition? = none) : Fault item (.notCallable name)

/-- A capability is refused for the first of three things: a name that is no identifier, one that is
not public, and a definition that cannot be called. -/
theorem make_error_iff {name : String} {definition : Option Definition} {kind : CapabilityKind}
    {e : CapabilityError} :
    make name definition kind = .error e ↔
      Text.isIdentifier name = false ∧ e = .notIdentifier name ∨
      Text.isIdentifier name = true ∧ name.toList.head? = some '_' ∧ e = .notPublic name ∨
      IsName name ∧ definition = none ∧ e = .notCallable name := by
  unfold make
  by_cases identifier : Text.isIdentifier name = true
  · by_cases hidden : name.toList.head? = some '_'
    · simp [IsName, identifier, hidden, eq_comm]
    · cases definition <;> simp [IsName, identifier, hidden, eq_comm]
  · simp [IsName, identifier, eq_comm]

theorem ofItem_of_named {item : Item} {name : String} (named : item.name? = some name)
    (kind : CapabilityKind) : ofItem item kind = make name item.definition? kind := by
  cases item with
  | capability c =>
    cases named
    rw [make, dif_pos c.isName]
    rfl
  | unnamed typeName => cases named
  | definition d => cases named; rfl
  | uncallable name => cases named; rfl

/-- An item is no capability exactly for its fault. -/
theorem ofItem_error_iff {item : Item} {kind : CapabilityKind} {e : CapabilityError} :
    ofItem item kind = .error e ↔ item.Fault e := by
  constructor
  · intro failed
    cases named : item.name? with
    | none =>
      cases item with
      | unnamed typeName => cases failed; exact .unnamed typeName
      | _ => cases named
    | some name =>
      rw [ofItem_of_named named] at failed
      rcases make_error_iff.mp failed with ⟨no, rfl⟩ | ⟨yes, hidden, rfl⟩ | ⟨isName, none, rfl⟩
      · exact .notIdentifier named no
      · exact .notPublic named yes hidden
      · exact .notCallable named isName none
  · intro fault
    cases fault with
    | unnamed typeName => rfl
    | notIdentifier named no =>
      exact (ofItem_of_named named kind).trans (make_error_iff.mpr (.inl ⟨no, rfl⟩))
    | notPublic named yes hidden =>
      exact (ofItem_of_named named kind).trans (make_error_iff.mpr (.inr (.inl ⟨yes, hidden, rfl⟩)))
    | notCallable named isName none =>
      exact (ofItem_of_named named kind).trans (make_error_iff.mpr (.inr (.inr ⟨isName, none, rfl⟩)))

end Capability

namespace Registration

/-- A registration up to its names: the scope and the capabilities that its items stand for. -/
structure Stands (a : Registration) (scope : Scope) (cs : List Capability) : Prop where
  kind : a.kind = .ok scope.kind
  filter : a.filter = .ok scope.filter
  items : ∃ accessors functions, capabilitiesOf .accessor a.accessors = .ok accessors ∧
    capabilitiesOf .function a.functions = .ok functions ∧ cs = accessors ++ functions

/-- What is wrong with a registration, at whatever position: what comes before it is sound. -/
inductive Fault (a : Registration) : RegistryError → Prop
  | kind {typeName : String} (other : a.kind = .error typeName) : Fault a (.notNodeKind typeName)
  | filter {kind : NodeKind} {typeName : String} (isKind : a.kind = .ok kind)
    (other : a.filter = .error typeName) : Fault a (.notFilter typeName)
  | accessor {kind : NodeKind} {filter : NodeFilter} {before after : List Capability.Item}
    {item : Capability.Item} {e : CapabilityError} (isKind : a.kind = .ok kind)
    (isFilter : a.filter = .ok filter) (items : a.accessors = before ++ item :: after)
    (sound : ∀ b ∈ before, ∃ c, Capability.ofItem b .accessor = .ok c) (fault : item.Fault e) :
    Fault a (.capability e)
  | function {kind : NodeKind} {filter : NodeFilter} {before after : List Capability.Item}
    {item : Capability.Item} {e : CapabilityError} (isKind : a.kind = .ok kind)
    (isFilter : a.filter = .ok filter)
    (accessors : ∀ b ∈ a.accessors, ∃ c, Capability.ofItem b .accessor = .ok c)
    (items : a.functions = before ++ item :: after)
    (sound : ∀ b ∈ before, ∃ c, Capability.ofItem b .function = .ok c) (fault : item.Fault e) :
    Fault a (.capability e)
  | reserved {scope : Scope} {before after : List Capability} {c : Capability}
    (stands : a.Stands scope (before ++ c :: after))
    (free : ∀ b ∈ before, b.name ∉ scope.kind.reservedNames)
    (taken : c.name ∈ scope.kind.reservedNames) :
    Fault a (.refused (.of (.reserved scope c.name)))
  | unhashable {scope : Scope} {cs : List Capability} {before after : List Criterion}
    {demand : Criterion} (stands : a.Stands scope cs)
    (free : ∀ c ∈ cs, c.name ∉ scope.kind.reservedNames)
    (criteria : scope.filter.criteria = before ++ demand :: after)
    (keys : ∀ b ∈ before, b.2.isKey = true) (noKey : demand.2.isKey = false) :
    Fault a (.unhashable demand.2.typeName)

theorem sound_iff {item : Capability.Item} {kind : CapabilityKind} :
    (∃ c, (Capability.ofItem item kind).mapError RegistryError.capability = .ok c) ↔
      ∃ c, Capability.ofItem item kind = .ok c := by
  cases Capability.ofItem item kind <;> simp [Except.mapError]

/-- Items are refused for the fault of the first that has one. -/
theorem capabilitiesOf_error_iff {kind : CapabilityKind} {items : List Capability.Item}
    {e : RegistryError} :
    capabilitiesOf kind items = .error e ↔
      ∃ before item after e', items = before ++ item :: after ∧
        (∀ b ∈ before, ∃ c, Capability.ofItem b kind = .ok c) ∧ item.Fault e' ∧
        e = .capability e' := by
  have failed (item : Capability.Item) :
      (Capability.ofItem item kind).mapError RegistryError.capability = .error e ↔
        ∃ e', item.Fault e' ∧ e = .capability e' := by
    constructor
    · intro failed
      cases given : Capability.ofItem item kind with
      | error e' =>
        rw [given] at failed
        cases failed
        exact ⟨e', Capability.ofItem_error_iff.mp given, rfl⟩
      | ok c =>
        rw [given] at failed
        cases failed
    · rintro ⟨e', fault, rfl⟩
      rw [Capability.ofItem_error_iff.mpr fault]
      rfl
  rw [capabilitiesOf, mapM_error_iff]
  simp only [sound_iff, failed]
  constructor
  · rintro ⟨before, item, after, split, sound, e', fault, same⟩
    exact ⟨before, item, after, e', split, sound, fault, same⟩
  · rintro ⟨before, item, after, e', split, sound, fault, same⟩
    exact ⟨before, item, after, split, sound, e', fault, same⟩

/-- Items are capabilities exactly if each of them is one. -/
theorem capabilitiesOf_ok_iff {kind : CapabilityKind} {items : List Capability.Item} :
    (∃ cs, capabilitiesOf kind items = .ok cs) ↔
      ∀ item ∈ items, ∃ c, Capability.ofItem item kind = .ok c := by
  rw [capabilitiesOf, mapM_ok_iff]
  simp only [sound_iff]

section Items

variable {a : Registration} {kind : NodeKind} {filter : NodeFilter} {accessors : List Capability}
  {e : RegistryError} (isKind : a.kind = .ok kind) (isFilter : a.filter = .ok filter)

include isKind isFilter

theorem read_of_accessors_error (failed : capabilitiesOf .accessor a.accessors = .error e) :
    a.read = .error e := by
  rw [Registration.read, isKind, isFilter]
  change (capabilitiesOf .accessor a.accessors >>= fun _ => _) = _
  rw [failed]
  rfl

theorem read_of_functions_error (readAccessors : capabilitiesOf .accessor a.accessors = .ok accessors)
    (failed : capabilitiesOf .function a.functions = .error e) : a.read = .error e := by
  rw [Registration.read, isKind, isFilter]
  change (capabilitiesOf .accessor a.accessors >>= fun _ =>
    capabilitiesOf .function a.functions >>= fun _ => _) = _
  rw [readAccessors, failed]
  rfl

end Items

/-- Once items, kind and filter stand, only a reserved name or a filter without a hash can be wrong.
-/
theorem Stands.read {a : Registration} {scope : Scope} {cs : List Capability}
    (stands : a.Stands scope cs) :
    a.read =
      match cs.find? fun c => scope.kind.reservedNames.contains c.name with
      | some c => .error (.refused (.of (.reserved scope c.name)))
      | none =>
        match scope.filter.unhashable? with
        | some typeName => .error (.unhashable typeName)
        | none => .ok (scope, cs) := by
  obtain ⟨accessors, functions, readAccessors, readFunctions, rfl⟩ := stands.items
  unfold Registration.read
  rw [stands.kind, stands.filter]
  change (capabilitiesOf .accessor a.accessors >>= fun accessors =>
    capabilitiesOf .function a.functions >>= fun functions => _) = _
  rw [readAccessors, readFunctions]
  rfl

/-- A registration without a fault has a scope that can be looked up. -/
theorem stands_of_read {a : Registration} {scope : Scope} {cs : List Capability}
    (read : a.read = .ok (scope, cs)) : a.Stands scope cs ∧ scope.filter.IsHashable := by
  obtain ⟨kind, isKind, given⟩ := exists_of_bind_ok read
  obtain ⟨filter, isFilter, given⟩ := exists_of_bind_ok given
  obtain ⟨accessors, readAccessors, given⟩ := exists_of_bind_ok given
  obtain ⟨functions, readFunctions, -⟩ := exists_of_bind_ok given
  have stands : a.Stands ⟨kind, filter⟩ (accessors ++ functions) :=
    ⟨exists_of_mapError_ok isKind, exists_of_mapError_ok isFilter, accessors, functions,
      readAccessors, readFunctions, rfl⟩
  have came := stands.read.symm.trans read
  split at came
  · cases came
  · split at came
    · cases came
    · rename_i hash
      cases came
      exact ⟨stands, (NodeFilter.isHashable_iff filter).mp hash⟩

/-- Once the items are read, the first reserved name counts, and then the first value of the filter
that has no hash. -/
theorem Stands.read_error_iff {a : Registration} {scope : Scope} {cs : List Capability}
    (stands : a.Stands scope cs) {e : RegistryError} :
    a.read = .error e ↔
      (∃ before c after, cs = before ++ c :: after ∧
        (∀ b ∈ before, scope.kind.reservedNames.contains b.name = false) ∧
        scope.kind.reservedNames.contains c.name = true ∧
        e = .refused (.of (.reserved scope c.name))) ∨
      (∀ c ∈ cs, scope.kind.reservedNames.contains c.name = false) ∧
        ∃ before demand after, scope.filter.criteria = before ++ demand :: after ∧
          (∀ b ∈ before, (!b.2.isKey) = false) ∧ (!demand.2.isKey) = true ∧
          e = .unhashable demand.2.typeName := by
  rw [stands.read, exists_first_iff, exists_first_iff]
  cases taken : cs.find? fun c => scope.kind.reservedNames.contains c.name with
  | some c =>
    have here := List.find?_some taken
    have member := List.mem_of_find?_eq_some taken
    have notFree : ¬ ∀ c ∈ cs, scope.kind.reservedNames.contains c.name = false :=
      fun free => Bool.false_ne_true ((free c member).symm.trans here)
    rw [or_iff_left fun both => notFree both.1]
    simp [eq_comm]
  | none =>
    have free : ∀ c ∈ cs, scope.kind.reservedNames.contains c.name = false :=
      fun c member => Bool.eq_false_iff.mpr (List.find?_eq_none.mp taken c member)
    rw [and_iff_right free, or_iff_right (by simp), NodeFilter.unhashable?]
    cases scope.filter.criteria.find? fun c => !c.2.isKey with
    | none => simp
    | some demand => simp [eq_comm]

/-- A registration fails exactly as its first fault says. -/
theorem read_error_iff {a : Registration} {e : RegistryError} : a.read = .error e ↔ a.Fault e := by
  constructor
  · intro failed
    cases isKind : a.kind with
    | error typeName =>
      rw [Registration.read, isKind] at failed
      cases failed
      exact .kind isKind
    | ok kind =>
    cases isFilter : a.filter with
    | error typeName =>
      rw [Registration.read, isKind, isFilter] at failed
      cases failed
      exact .filter isKind isFilter
    | ok filter =>
    cases readAccessors : capabilitiesOf .accessor a.accessors with
    | error e' =>
      cases (read_of_accessors_error isKind isFilter readAccessors).symm.trans failed
      obtain ⟨before, item, after, e', items, sound, fault, rfl⟩ :=
        capabilitiesOf_error_iff.mp readAccessors
      exact .accessor isKind isFilter items sound fault
    | ok accessors =>
    cases readFunctions : capabilitiesOf .function a.functions with
    | error e' =>
      cases (read_of_functions_error isKind isFilter readAccessors readFunctions).symm.trans failed
      obtain ⟨before, item, after, e', items, sound, fault, rfl⟩ :=
        capabilitiesOf_error_iff.mp readFunctions
      exact .function isKind isFilter
        (capabilitiesOf_ok_iff.mp ⟨accessors, readAccessors⟩) items sound fault
    | ok functions =>
    have stands : a.Stands ⟨kind, filter⟩ (accessors ++ functions) :=
      ⟨isKind, isFilter, accessors, functions, readAccessors, readFunctions, rfl⟩
    rcases stands.read_error_iff.mp failed with
      ⟨before, c, after, split, free, taken, rfl⟩ |
      ⟨free, before, demand, after, criteria, keys, noKey, rfl⟩
    · rw [split] at stands
      exact .reserved stands (by simpa using free) (by simpa using taken)
    · exact .unhashable stands (by simpa using free) criteria (by simpa using keys)
        (by simpa using noKey)
  · intro fault
    cases fault with
    | kind other => rw [Registration.read, other]; rfl
    | filter isKind other => rw [Registration.read, isKind, other]; rfl
    | accessor isKind isFilter items sound fault =>
      exact read_of_accessors_error isKind isFilter
        (capabilitiesOf_error_iff.mpr ⟨_, _, _, _, items, sound, fault, rfl⟩)
    | function isKind isFilter accessors items sound fault =>
      obtain ⟨cs, readAccessors⟩ := capabilitiesOf_ok_iff.mpr accessors
      exact read_of_functions_error isKind isFilter readAccessors
        (capabilitiesOf_error_iff.mpr ⟨_, _, _, _, items, sound, fault, rfl⟩)
    | reserved stands free taken =>
      refine stands.read_error_iff.mpr (.inl ⟨_, _, _, rfl, ?_, ?_, rfl⟩)
      · simpa using free
      · simpa using taken
    | unhashable stands free criteria keys noKey =>
      refine stands.read_error_iff.mpr (.inr ⟨?_, _, _, _, criteria, ?_, ?_, rfl⟩)
      · simpa using free
      · simpa using keys
      · simpa using noKey

end Registration
end ServiceDiagram
