import ServiceDiagram.Proofs.Registry.Order

namespace ServiceDiagram

namespace Registry

variable {r r' : Registry}

/-- The entries of a registry: each capability with its scope, in the order of the table. -/
def entries (r : Registry) : List Entry := r.table.flatMap fun (s, cs) => cs.map (Entry.mk s)

/-- The count of capabilities in a table. -/
def held (table : List (Scope × List Capability)) : Nat :=
  sumOf (table.map fun (_, cs) => cs.length)

theorem size_eq (r : Registry) : r.size = held r.table := rfl

theorem held_cons (s : Scope) (cs : List Capability) (table : List (Scope × List Capability)) :
    held ((s, cs) :: table) = cs.length + held table := rfl

/-- What two tables hold adds up. -/
theorem held_append (table table' : List (Scope × List Capability)) :
    held (table ++ table') = held table + held table' := by
  rw [held, List.map_append, sumOf_append]
  rfl

/-- The entries of a registry are as many as its size says. -/
theorem length_entries (r : Registry) : r.entries.length = r.size := by
  rw [entries, size_eq]
  induction r.table with
  | nil => rfl
  | cons entry table ih =>
    obtain ⟨s, cs⟩ := entry
    have here : (cs.map (Entry.mk s)).length = cs.length := List.length_map _
    rw [List.flatMap_cons, List.length_append, here, ih, held_cons]

theorem eq_opened_of_held {table : List (Scope × List Capability)} (nothing : held table = 0) :
    table = (table.map Prod.fst).map fun s => (s, []) := by
  induction table with
  | nil => rfl
  | cons entry table ih =>
    obtain ⟨s, cs⟩ := entry
    rw [held_cons] at nothing
    have empty : cs = [] := List.eq_nil_of_length_eq_zero (by omega)
    have later := ih (by omega)
    rw [List.map_cons, List.map_cons, ← later, empty]

/-- The induction is on the earlier table: where no more is held than before, every scope holds what it
held, and those that came later hold nothing. -/
theorem eq_append_of_held_le {table table' : List (Scope × List Capability)}
    (grows : ∀ (place : Nat) (s : Scope) (cs : List Capability), table[place]? = some (s, cs) →
      ∃ more : List Capability, table'[place]? = some (s, cs ++ more))
    (le : held table' ≤ held table) :
    ∃ opened : List Scope, table' = table ++ opened.map fun s => (s, []) := by
  induction table generalizing table' with
  | nil => exact ⟨_, eq_opened_of_held (Nat.le_zero.mp le)⟩
  | cons entry table ih =>
    obtain ⟨s, cs⟩ := entry
    obtain ⟨more, here⟩ := grows 0 s cs rfl
    cases table' with
    | nil => cases here
    | cons entry' table' =>
      cases here
      rw [held_cons, held_cons, List.length_append] at le
      obtain ⟨opened, rfl⟩ := ih (fun place => grows (place + 1)) (by omega)
      rw [held_append] at le
      have nothing : more = [] := List.eq_nil_of_length_eq_zero (by omega)
      exact ⟨opened, by rw [nothing, List.append_nil, List.cons_append]⟩

/-- A registry that has grown, but not in size, has at most opened scopes that hold nothing. -/
theorem Grows.table_of_size (grows : r.Grows r') (same : r'.size = r.size) :
    ∃ opened : List Scope, r'.table = r.table ++ opened.map fun s => (s, []) :=
  eq_append_of_held_le grows.table (Nat.le_of_eq same)

/-- Scopes that were opened and hold nothing add no entries. -/
theorem entries_of_opened {opened : List Scope}
    (table : r'.table = r.table ++ opened.map fun s => (s, [])) : r'.entries = r.entries := by
  have nothing : ((opened.map fun s => (s, [])).flatMap fun ((s, cs) : Scope × List Capability) =>
      cs.map (Entry.mk s)) = [] := by
    simp
  rw [entries, table, List.flatMap_append, nothing, List.append_nil]
  rfl

/-- A registry that has grown and has its size still has its entries still. -/
theorem Grows.entries_of_size (grows : r.Grows r') (same : r'.size = r.size) :
    r'.entries = r.entries := by
  obtain ⟨opened, table⟩ := grows.table_of_size same
  exact entries_of_opened table

/-- Over any run of calls a registry is extended. -/
theorem after_extends (r : Registry) (calls : List Call) : r.Extends (r.after calls) := by
  induction calls generalizing r with
  | nil => exact .refl r
  | cons call calls ih => exact (r.insert_extends call.1 call.2).trans (ih _)

/-- What calls leave is counted by the revision. -/
theorem revision_after (calls : List Call) :
    (empty.after calls).revision =
      (empty.after calls).size + (empty.after calls).conflicts.length := by
  have counted := (after_extends empty calls).counted
  have revision : empty.revision = 0 := rfl
  have nothing : empty.size + empty.conflicts.length = 0 := rfl
  omega

/-- The revision is what it was exactly if the entries and the conflicts are. -/
theorem revision_eq_iff_entries (grows : r.Grows r') (extended : r.Extends r') :
    r'.revision = r.revision ↔ r'.entries = r.entries ∧ r'.conflicts = r.conflicts := by
  have size := extended.size_le
  have conflicts := extended.conflicts_le
  have counted := extended.counted
  constructor
  · intro same
    have sameSize : r'.size = r.size := by omega
    exact ⟨grows.entries_of_size sameSize, (extended.unchanged same).1⟩
  · rintro ⟨sameEntries, sameConflicts⟩
    have sameSize : r'.size = r.size := by rw [← length_entries, sameEntries, length_entries]
    have sameCount : r'.conflicts.length = r.conflicts.length := congrArg List.length sameConflicts
    omega

/-- Something is reported exactly if there is a conflict. -/
theorem checkConflicts_error_iff (r : Registry) :
    (∃ e, r.checkConflicts = .error e) ↔ 0 < r.conflicts.length := by
  unfold checkConflicts
  cases r.conflicts <;> simp

end Registry

namespace Logged

open Registry

/-- Over any run of registrations, failing ones among them: the revision is the count of the
capabilities and of the conflicts together; neither it nor the count of the capabilities ever goes
down; a conflict is reported exactly if the revision is above that count; and the revision is what it
was before some of the registrations exactly if the entries and the conflicts are. -/
theorem revision_accounts (before between : List Registration) :
    let r := (after before).registry
    let r' := (after (before ++ between)).registry
    r.revision = r.size + r.conflicts.length ∧
      r.revision ≤ r'.revision ∧ r.size ≤ r'.size ∧
      ((∃ e, r.checkConflicts = .error e) ↔ r.size < r.revision) ∧
      (r'.revision = r.revision ↔ r'.entries = r.entries ∧ r'.conflicts = r.conflicts) := by
  intro r r'
  have atFirst : r = Registry.empty.after (callsOf before) := registry_after before
  have later : r' = r.after (callsOf between) := by
    rw [atFirst, ← after_append, callsOf, callsOf, ← List.filterMap_append]
    exact registry_after (before ++ between)
  have counted : r.revision = r.size + r.conflicts.length := atFirst ▸ revision_after _
  have extended : r.Extends r' := later ▸ r.after_extends _
  have grows : r.Grows r' := later ▸ r.after_grows _
  refine ⟨counted, extended.revision_le, extended.size_le, ?_, revision_eq_iff_entries grows extended⟩
  rw [checkConflicts_error_iff]
  omega

/-- A registration without capabilities opens a scope; it leaves the revision and adds no entry. -/
example :
    let nothing : Registration := ⟨.ok .ofClass, .ok .all, [], []⟩
    (after [nothing]).registry.table.length = 1 ∧ (after [nothing]).registry.revision = 0 ∧
      (after [nothing]).registry.entries.length = 0 := by
  decide

end Logged
end ServiceDiagram
