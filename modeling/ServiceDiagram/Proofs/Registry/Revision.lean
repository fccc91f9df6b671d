import ServiceDiagram.Registry.Basic

namespace ServiceDiagram.Registry

/-- What has become of a registry in the course of registrations. -/
structure Extends (r r' : Registry) : Prop where
  size_le : r.size ≤ r'.size
  conflicts_le : r.conflicts.length ≤ r'.conflicts.length
  counted : r'.revision + (r.size + r.conflicts.length) =
    r.revision + (r'.size + r'.conflicts.length)
  unchanged : r'.revision = r.revision → r'.conflicts = r.conflicts ∧
    ∀ kind n, r'.capabilitiesFor kind n = r.capabilitiesFor kind n

theorem Extends.refl (r : Registry) : r.Extends r :=
  ⟨Nat.le_refl _, Nat.le_refl _, rfl, fun _ => ⟨rfl, fun _ _ => rfl⟩⟩

theorem Extends.revision_le {r r' : Registry} (extended : r.Extends r') :
    r.revision ≤ r'.revision := by
  have size := extended.size_le
  have conflicts := extended.conflicts_le
  have counted := extended.counted
  omega

/-- Extensions of extensions are extensions. -/
theorem Extends.trans {r r' r'' : Registry} (first : r.Extends r') (later : r'.Extends r'') :
    r.Extends r'' := by
  have firstSize := first.size_le
  have laterSize := later.size_le
  have firstConflicts := first.conflicts_le
  have laterConflicts := later.conflicts_le
  have firstCounted := first.counted
  have laterCounted := later.counted
  refine ⟨by omega, by omega, by omega, ?_⟩
  intro same
  obtain ⟨conflicts, capabilities⟩ := first.unchanged (by omega)
  obtain ⟨conflicts', capabilities'⟩ := later.unchanged (by omega)
  exact ⟨conflicts'.trans conflicts,
    fun kind n => (capabilities' kind n).trans (capabilities kind n)⟩

/-- The revision stands still exactly if no capability was added and no conflict recorded. -/
theorem Extends.revision_eq_iff {r r' : Registry} (extended : r.Extends r') :
    r'.revision = r.revision ↔
      ¬ (r.size < r'.size ∨ r.conflicts.length < r'.conflicts.length) := by
  have size := extended.size_le
  have conflicts := extended.conflicts_le
  have counted := extended.counted
  omega

theorem placeOf_openScope_lt (r : Registry) (scope : Scope) :
    r.placeOf scope < (r.openScope scope).table.length := by
  have bound : r.placeOf scope ≤ r.table.length := List.findIdx_le_length
  unfold openScope
  split
  · assumption
  · rw [List.length_append, List.length_singleton]
    omega

/-- A scope without capabilities gives nothing to a node. -/
theorem capabilitiesFor_append_empty (r : Registry) (scope : Scope) (kind : NodeKind) (n : Node) :
    ({ r with table := r.table ++ [(scope, [])] } : Registry).capabilitiesFor kind n =
      r.capabilitiesFor kind n := by
  unfold capabilitiesFor
  rw [List.filter_append, List.foldlM_append]
  by_cases passes : (scope.kind == kind && scope.filter.passes n) = true
  · simp only [List.filter_cons, passes, if_true, List.filter_nil, List.foldlM_cons,
      List.foldlM_nil, merge]
    exact bind_pure _
  · simp only [List.filter_cons, passes, Bool.false_eq_true, if_false, List.filter_nil,
      List.foldlM_nil]
    exact bind_pure _

/-- Opening a scope counts for nothing. -/
theorem openScope_extends (r : Registry) (scope : Scope) : r.Extends (r.openScope scope) := by
  unfold openScope
  split
  · exact .refl r
  · have size : ({ r with table := r.table ++ [(scope, [])] } : Registry).size = r.size := by
      simp [Registry.size, sumOf]
    refine ⟨Nat.le_of_eq size.symm, Nat.le_refl _, by rw [size], ?_⟩
    exact fun _ => ⟨rfl, capabilitiesFor_append_empty r scope⟩

/-- One capability more at one place is one more in all. -/
theorem sumOf_modify_append (table : List (Scope × List Capability)) {place : Nat}
    (inTable : place < table.length) (c : Capability) :
    sumOf ((table.modify place fun (s, cs) => (s, cs ++ [c])).map fun (_, cs) => cs.length) =
      sumOf (table.map fun (_, cs) => cs.length) + 1 := by
  induction table generalizing place with
  | nil => exact absurd inTable (Nat.not_lt_zero _)
  | cons entry table ih =>
    cases place with
    | zero =>
      simp only [List.modify_zero_cons, List.map_cons, sumOf_cons, List.length_append,
        List.length_singleton]
      omega
    | succ place =>
      have later := ih (Nat.lt_of_succ_lt_succ inTable)
      simp only [List.modify_succ_cons, List.map_cons, sumOf_cons, later]
      omega

/-- A capability that is added, or conflicts, is counted once. -/
theorem addAt_extends {r : Registry} {place : Nat} (inTable : place < r.table.length)
    (scope : Scope) (c : Capability) : r.Extends (r.addAt scope place c) := by
  unfold addAt
  split
  · have size := sumOf_modify_append r.table inTable c
    refine ⟨?_, Nat.le_refl _, ?_, ?_⟩
    · simp only [Registry.size, size]
      omega
    · simp only [Registry.size, size]
      omega
    · intro same
      exact absurd same (by simp)
  · rename_i first
    split
    · exact .refl r
    · refine ⟨Nat.le_refl _, ?_, ?_, ?_⟩
      · simp
      · simp only [List.length_append, List.length_singleton, Registry.size]
        omega
      · intro same
        exact absurd same (by simp)

theorem length_table_addAt (scope : Scope) (place : Nat) (r : Registry) (c : Capability) :
    (r.addAt scope place c).table.length = r.table.length := by
  unfold addAt
  split
  · simp
  · split <;> rfl

/-- The induction is on what is registered: each addition extends the registry. -/
theorem foldl_addAt_extends {place : Nat} (scope : Scope) (cs : List Capability) {r : Registry}
    (inTable : place < r.table.length) : r.Extends (cs.foldl (addAt scope place) r) := by
  induction cs generalizing r with
  | nil => exact .refl r
  | cons c cs ih =>
    have later := ih ((length_table_addAt scope place r c).symm ▸ inTable)
    exact (addAt_extends inTable scope c).trans later

theorem insert_extends (r : Registry) (scope : Scope) (cs : List Capability) :
    r.Extends (r.insert scope cs).1 :=
  (r.openScope_extends scope).trans (foldl_addAt_extends scope cs (r.placeOf_openScope_lt scope))

/-- So a call that succeeds extends the registry by what it adds and what conflicts. -/
theorem register_extends {r r' : Registry} {a : Registration} {events : List Event}
    (registered : r.register a = .ok (r', events)) : r.Extends r' := by
  unfold register at registered
  cases read : a.read with
  | error e =>
    rw [read] at registered
    cases registered
  | ok result =>
    rw [read] at registered
    cases registered
    exact r.insert_extends _ _

end ServiceDiagram.Registry
