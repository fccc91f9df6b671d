import Mathlib.Data.List.Find
import ServiceDiagram.Proofs.Except
import ServiceDiagram.Proofs.Registry.Scope
import ServiceDiagram.Registry.Basic

namespace ServiceDiagram

/-- Something that was registered. -/
structure Entry where
  scope : Scope
  capability : Capability

namespace Entry

/-- Whether two entries have equal scopes and one name. -/
def sameKey (d e : Entry) : Bool :=
  d.scope.eqv e.scope && d.capability.name == e.capability.name

/-- The first entry of a scope and a name. -/
def first? (log : List Entry) (scope : Scope) (name : String) : Option Entry :=
  log.find? fun e => e.scope.eqv scope && e.capability.name == name

/-- An entry counts if it is the first of its scope and name. -/
def Counts (log : List Entry) (e : Entry) : Prop := first? log e.scope e.capability.name = some e

/-- Two entries of one scope and name differ. -/
def Clash (d e : Entry) : Prop := d.sameKey e = true ∧ d.capability ≠ e.capability

def Clashes (log : List Entry) : Prop := ∃ d ∈ log, ∃ e ∈ log, d.Clash e

/-- The filters of all entries are keys. -/
def AreKeys (log : List Entry) : Prop := ∀ e ∈ log, e.scope.filter.IsKey

/-- The first capability that was registered in a scope under a name. -/
def held? (log : List Entry) (scope : Scope) (name : String) : Option Capability :=
  (first? log scope name).map Entry.capability

/-- Scopes with one key have the same first entries. -/
theorem first?_congr {log : List Entry} (areKeys : AreKeys log) {s t : Scope} (same : s.key = t.key)
    (name : String) : first? log s name = first? log t name := by
  refine List.find?_congr fun e member => ?_
  have isKey := areKeys e member
  rw [Bool.eq_iff_iff, Bool.and_eq_true, Bool.and_eq_true, Scope.eqv_iff isKey, Scope.eqv_iff isKey,
    same]

theorem held?_congr {log : List Entry} (areKeys : AreKeys log) {s t : Scope} (same : s.key = t.key)
    (name : String) : held? log s name = held? log t name :=
  congrArg (Option.map Entry.capability) (first?_congr areKeys same name)

/-- One entry more counts only if nothing was held under its scope and name. -/
theorem held?_append (log : List Entry) (e : Entry) (scope : Scope) (name : String) :
    held? (log ++ [e]) scope name =
      (held? log scope name).or
        (if e.scope.eqv scope && e.capability.name == name then some e.capability else none) := by
  rw [held?, first?, List.find?_append, Option.map_or, List.find?_singleton]
  split <;> rfl

/-- An entry that is not the first of its scope and name takes no place. -/
theorem held?_append_known {log : List Entry} (areKeys : AreKeys log) {e : Entry}
    (isKey : e.scope.filter.IsKey) {c : Capability}
    (known : held? log e.scope e.capability.name = some c) (scope : Scope) (name : String) :
    held? (log ++ [e]) scope name = held? log scope name := by
  rw [held?_append]
  split
  · rename_i matched
    rw [Bool.and_eq_true, beq_iff_eq, Scope.eqv_iff isKey] at matched
    rw [← held?_congr areKeys matched.1, ← matched.2, known, Option.some_or]
  · exact Option.or_none

theorem exists_of_first? {log : List Entry} {scope : Scope} {name : String} {e : Entry}
    (found : first? log scope name = some e) :
    e ∈ log ∧ e.scope.eqv scope = true ∧ e.capability.name = name := by
  have agrees := List.find?_some found
  rw [Bool.and_eq_true, beq_iff_eq] at agrees
  exact ⟨List.mem_of_find?_eq_some found, agrees⟩

theorem exists_of_held? {log : List Entry} {scope : Scope} {name : String} {c : Capability}
    (found : held? log scope name = some c) :
    ∃ e ∈ log, e.scope.eqv scope = true ∧ e.capability.name = name ∧ e.capability = c := by
  obtain ⟨e, atFirst, rfl⟩ := Option.map_eq_some_iff.mp found
  obtain ⟨member, scope, name⟩ := exists_of_first? atFirst
  exact ⟨e, member, scope, name, rfl⟩

theorem not_sameKey_of_held? {log : List Entry} {e : Entry}
    (absent : held? log e.scope e.capability.name = none) {d : Entry} (member : d ∈ log) :
    ¬ d.sameKey e = true :=
  List.find?_eq_none.mp (Option.map_eq_none_iff.mp absent) d member

/-- Among filters that equal themselves, two entries have one key exactly if their keys are equal.
-/
theorem sameKey_iff {d e : Entry} (isKey : d.scope.filter.IsKey) :
    d.sameKey e = true ↔ d.scope.key = e.scope.key ∧ d.capability.name = e.capability.name := by
  rw [sameKey, Bool.and_eq_true, beq_iff_eq, Scope.eqv_iff isKey]

theorem Clash.symm {d e : Entry} (clash : d.Clash e) (keyD : d.scope.filter.IsKey)
    (keyE : e.scope.filter.IsKey) : e.Clash d := by
  obtain ⟨scope, name⟩ := (sameKey_iff keyD).mp clash.1
  exact ⟨(sameKey_iff keyE).mpr ⟨scope.symm, name.symm⟩, clash.2.symm⟩

/-- A clash in a log remains whatever comes after. -/
theorem Clashes.append {log : List Entry} (clash : Clashes log) (later : List Entry) :
    Clashes (log ++ later) := by
  obtain ⟨d, inD, e, inE, clash⟩ := clash
  exact ⟨d, List.mem_append_left _ inD, e, List.mem_append_left _ inE, clash⟩

/-- A new entry clashes with the log exactly if it differs from the first of its scope and name,
unless the log clashes without it. -/
theorem clashes_append_iff {log : List Entry} (areKeys : AreKeys log) {e : Entry}
    (isKey : e.scope.filter.IsKey) :
    Clashes (log ++ [e]) ↔
      Clashes log ∨ ∃ c ∈ held? log e.scope e.capability.name, c ≠ e.capability := by
  have widen {d : Entry} (member : d ∈ log) : d ∈ log ++ [e] := List.mem_append_left _ member
  have added : e ∈ log ++ [e] := List.mem_append_right _ List.mem_cons_self
  have withNew {d : Entry} (member : d ∈ log) (clash : d.Clash e) :
      Clashes log ∨ ∃ c ∈ held? log e.scope e.capability.name, c ≠ e.capability := by
    cases found : held? log e.scope e.capability.name with
    | none => exact absurd clash.1 (not_sameKey_of_held? found member)
    | some c =>
      by_cases same : c = e.capability
      · obtain ⟨f, inLog, scope, name, rfl⟩ := exists_of_held? found
        obtain ⟨scopeD, nameD⟩ := (sameKey_iff (areKeys d member)).mp clash.1
        have scopeF := (Scope.eqv_iff (areKeys f inLog) _).mp scope
        have sameFD := (sameKey_iff (e := d) (areKeys f inLog)).mpr
          ⟨scopeF.trans scopeD.symm, name.trans nameD.symm⟩
        exact .inl ⟨f, inLog, d, member, sameFD, fun equal => clash.2 (equal.symm.trans same)⟩
      · exact .inr ⟨c, rfl, same⟩
  constructor
  · rintro ⟨d, inD, d', inD', clash⟩
    rcases List.mem_append.mp inD with oldD | newD
    · rcases List.mem_append.mp inD' with oldD' | newD'
      · exact .inl ⟨d, oldD, d', oldD', clash⟩
      · cases List.mem_singleton.mp newD'
        exact withNew oldD clash
    · cases List.mem_singleton.mp newD
      rcases List.mem_append.mp inD' with oldD' | newD'
      · exact withNew oldD' (clash.symm isKey (areKeys d' oldD'))
      · cases List.mem_singleton.mp newD'
        exact absurd rfl clash.2
  · rintro (before | ⟨c, found, differs⟩)
    · exact before.append [e]
    · obtain ⟨f, inLog, scope, name, rfl⟩ := exists_of_held? found
      have same : f.sameKey e = true := by
        rw [sameKey, scope, name, beq_self_eq_true, Bool.and_self]
      exact ⟨f, widen inLog, e, added, same, differs⟩

end Entry

namespace Registration

/-- The capabilities that items stand for, each of the kind that it is handed in as. -/
def standing (kind : CapabilityKind) (items : List Capability.Item) : List Capability :=
  items.filterMap fun item => (Capability.ofItem item kind).toOption

/-- What a call registers if it does not fail: the accessors, then the functions. -/
def entries (a : Registration) : List Entry :=
  match a.kind, a.filter with
  | .ok kind, .ok filter =>
    (standing .accessor a.accessors ++ standing .function a.functions).map (Entry.mk ⟨kind, filter⟩)
  | _, _ => []

/-- The values that the filter of a call expects can be part of a key and equal themselves. -/
def HasKey (a : Registration) : Prop := ∀ f, a.filter = .ok f → f.IsKey

theorem standing_of_capabilitiesOf {kind : CapabilityKind} {items : List Capability.Item}
    {cs : List Capability} (read : capabilitiesOf kind items = .ok cs) :
    standing kind items = cs := by
  induction items generalizing cs with
  | nil => cases read; rfl
  | cons item items ih =>
    rw [capabilitiesOf, List.mapM_cons] at read
    obtain ⟨c, made, read⟩ := exists_of_bind_ok read
    obtain ⟨cs', later, read⟩ := exists_of_bind_ok read
    cases read
    have made := exists_of_mapError_ok made
    rw [standing, List.filterMap_cons, made]
    exact congrArg (c :: ·) (ih later)

/-- The entries of a call that is read are its capabilities, each under the scope of the call. -/
theorem exists_of_read {a : Registration} {scope : Scope} {cs : List Capability}
    (read : a.read = .ok (scope, cs)) :
    a.filter = .ok scope.filter ∧ a.entries = cs.map (Entry.mk scope) := by
  obtain ⟨kind, isKind, read⟩ := exists_of_bind_ok read
  obtain ⟨filter, isFilter, read⟩ := exists_of_bind_ok read
  obtain ⟨accessors, readAccessors, read⟩ := exists_of_bind_ok read
  obtain ⟨functions, readFunctions, read⟩ := exists_of_bind_ok read
  dsimp only at read
  split at read
  · cases read
  · split at read
    · cases read
    · cases read
      have isKind := exists_of_mapError_ok isKind
      have isFilter := exists_of_mapError_ok isFilter
      refine ⟨isFilter, ?_⟩
      rw [entries, isKind, isFilter]
      simp only [standing_of_capabilitiesOf readAccessors, standing_of_capabilitiesOf readFunctions]

end Registration

end ServiceDiagram
