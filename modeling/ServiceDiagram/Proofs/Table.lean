import Mathlib.Data.List.Basic
import ServiceDiagram.Table

namespace ServiceDiagram.Table

variable {κ α : Type} [DecidableEq κ]

/-- A value that is put under a key is found there, and nothing changes under any other key. -/
theorem lookup_put (key key' : κ) (value : α) (table : List (κ × α)) :
    (put key value table).lookup key' = if key' = key then some value else table.lookup key' := by
  induction table with
  | nil =>
    by_cases same : key' = key
    · simp [put, same]
    · simp [put, List.lookup_cons, beq_false_of_ne same, same]
  | cons entry table ih =>
    obtain ⟨k, v⟩ := entry
    by_cases first : key' = k
    · subst first
      by_cases same : key' = key <;> simp [put, same]
    · rw [put]
      split
      · rename_i here
        simp [List.lookup_cons, beq_false_of_ne first, here ▸ first]
      · simp only [List.lookup_cons, beq_false_of_ne first, ih]

/-- A new key comes last. -/
theorem put_of_absent {key : κ} {value : α} {table : List (κ × α)}
    (absent : key ∉ table.map Prod.fst) : put key value table = table ++ [(key, value)] := by
  induction table with
  | nil => rfl
  | cons e table ih =>
    have differs : e.1 ≠ key := fun same => absent (same ▸ .head _)
    simp [put, differs, ih fun later => absent (.tail _ later)]

/-- Entries with different keys are put at the end, one by one. -/
theorem foldl_put (table : List (κ × α)) {entries : List (κ × α)}
    (differ : ((table ++ entries).map Prod.fst).Nodup) :
    entries.foldl (fun t (k, v) => put k v t) table = table ++ entries := by
  induction entries generalizing table with
  | nil => rw [List.foldl_nil, List.append_nil]
  | cons e entries ih =>
    have absent : e.1 ∉ table.map Prod.fst := by
      rw [List.map_append, List.map_cons, List.nodup_append] at differ
      exact fun known => differ.2.2 e.1 known e.1 (.head _) rfl
    rw [List.append_cons] at differ ⊢
    rw [← ih _ differ, List.foldl_cons, ← put_of_absent absent]

/-- Entries with different keys are a table as they stand. -/
theorem ofEntries_of_nodup {entries : List (κ × α)} (differ : (entries.map Prod.fst).Nodup) :
    ofEntries entries = entries := foldl_put [] differ

theorem lookup_of_mem {entries : List (κ × α)} {key : κ} {a : α}
    (differ : (entries.map Prod.fst).Nodup) (member : (key, a) ∈ entries) :
    entries.lookup key = some a := by
  obtain ⟨before, after, rfl⟩ := List.append_of_mem member
  refine List.lookup_eq_some_iff.mpr ⟨before, after, rfl, fun e earlier => ?_⟩
  rw [List.map_append, List.map_cons] at differ
  have apart := (List.nodup_append.mp differ).2.2 e.1 (List.mem_map_of_mem earlier) key (.head _)
  simpa using apart.symm

theorem lookup_isSome_iff {table : List (κ × α)} {key : κ} :
    (table.lookup key).isSome ↔ key ∈ table.map Prod.fst := by
  induction table with
  | nil => simp
  | cons entry table ih =>
    obtain ⟨k, v⟩ := entry
    by_cases same : key = k
    · simp [same]
    · simp only [List.lookup_cons, beq_false_of_ne same, List.map_cons, List.mem_cons, same,
        false_or]
      exact ih

end ServiceDiagram.Table
