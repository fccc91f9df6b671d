import Mathlib.Data.List.Nodup
import ServiceDiagram.Value.Basic

namespace ServiceDiagram.Value

/-- A value that is made of parts of a kind by lists and records; the names in a record differ. -/
inductive MadeOf (P : Value → Prop) : Value → Prop
  | part {v : Value} (holds : P v) : MadeOf P v
  | list {items : List Value} (each : ∀ v ∈ items, MadeOf P v) : MadeOf P (.list items)
  | record {entries : List (String × Value)} (differ : (entries.map Prod.fst).Nodup)
    (each : ∀ e ∈ entries, MadeOf P e.2) : MadeOf P (.record entries)

/-- The second value is the first one with the properties of records in another order, at whatever
depth. -/
inductive Reordered : Value → Value → Prop
  | refl (v : Value) : Reordered v v
  | trans {u v w : Value} (first : Reordered u v) (later : Reordered v w) : Reordered u w
  | order {xs ys : List (String × Value)} (differ : (xs.map Prod.fst).Nodup) (perm : xs.Perm ys) :
    Reordered (.record xs) (.record ys)
  | item {v w : Value} (before after : List Value) (inside : Reordered v w) :
    Reordered (.list (before ++ v :: after)) (.list (before ++ w :: after))
  | entry {v w : Value} (before after : List (String × Value)) (name : String)
    (inside : Reordered v w) :
    Reordered (.record (before ++ (name, v) :: after)) (.record (before ++ (name, w) :: after))

/-- If every item is reordered, the list is. -/
theorem Reordered.list {f : Value → Value} {items : List Value}
    (each : ∀ v ∈ items, Reordered v (f v)) : Reordered (.list items) (.list (items.map f)) := by
  have from' (before : List Value) :
      Reordered (.list (before ++ items)) (.list (before ++ items.map f)) := by
    induction items generalizing before with
    | nil => exact .refl _
    | cons v items ih =>
      obtain ⟨here, later⟩ := List.forall_mem_cons.mp each
      have rest := ih later (before ++ [f v])
      rw [← List.append_cons, ← List.append_cons] at rest
      exact (Reordered.item before items here).trans rest
  exact from' []

/-- If the value of every property is reordered, the record is. -/
theorem Reordered.record {f : Value → Value} {entries : List (String × Value)}
    (each : ∀ e ∈ entries, Reordered e.2 (f e.2)) :
    Reordered (.record entries) (.record (entries.map fun e => (e.1, f e.2))) := by
  have from' (before : List (String × Value)) : Reordered (.record (before ++ entries))
      (.record (before ++ entries.map fun e => (e.1, f e.2))) := by
    induction entries generalizing before with
    | nil => exact .refl _
    | cons e entries ih =>
      obtain ⟨here, later⟩ := List.forall_mem_cons.mp each
      have rest := ih later (before ++ [(e.1, f e.2)])
      rw [← List.append_cons, ← List.append_cons] at rest
      exact (Reordered.entry before entries e.1 here).trans rest
  exact from' []

mutual

/-- A value with a text in ISO form in the place of every day and point in time in it. -/
def isoTexts : Value → Value
  | .list items => .list (isoItems items)
  | .record entries => .record (isoEntries entries)
  | .date d => .text (String.ofList d.isoText)
  | .dateTime t => .text (String.ofList t.isoText)
  | v => v

def isoItems : List Value → List Value
  | [] => []
  | v :: rest => isoTexts v :: isoItems rest

def isoEntries : List (String × Value) → List (String × Value)
  | [] => []
  | (k, v) :: rest => (k, isoTexts v) :: isoEntries rest

end

theorem isoItems_eq (items : List Value) : isoItems items = items.map isoTexts := by
  induction items with
  | nil => rfl
  | cons v items ih => rw [isoItems, ih, List.map_cons]

theorem isoEntries_eq (entries : List (String × Value)) :
    isoEntries entries = entries.map fun e => (e.1, isoTexts e.2) := by
  induction entries with
  | nil => rfl
  | cons e entries ih => rw [isoEntries, ih, List.map_cons]

theorem isoTexts_list (items : List Value) : isoTexts (.list items) = .list (items.map isoTexts) := by
  rw [isoTexts, isoItems_eq]

theorem isoTexts_record (entries : List (String × Value)) :
    isoTexts (.record entries) = .record (entries.map fun e => (e.1, isoTexts e.2)) := by
  rw [isoTexts, isoEntries_eq]

/-- What a value is made of after its days and points in time are replaced. -/
theorem MadeOf.isoTexts {P Q : Value → Prop} (replaced : ∀ v, P v → Q v.isoTexts) {v : Value}
    (made : v.MadeOf P) : v.isoTexts.MadeOf Q := by
  induction made with
  | part holds => exact .part (replaced _ holds)
  | list _ ih =>
    rw [isoTexts_list]
    exact .list (List.forall_mem_map.mpr ih)
  | record differ _ ih =>
    rw [isoTexts_record]
    refine .record ?_ (List.forall_mem_map.mpr ih)
    rwa [List.map_map]

/-- A value without days and points in time keeps itself. -/
theorem MadeOf.isoTexts_eq {P : Value → Prop} (kept : ∀ v, P v → v.isoTexts = v) {v : Value}
    (made : v.MadeOf P) : v.isoTexts = v := by
  induction made with
  | part holds => exact kept _ holds
  | list _ ih => rw [isoTexts_list, List.map_congr_left ih, List.map_id']
  | record _ _ ih =>
    rw [isoTexts_record, List.map_congr_left fun e member => by rw [ih e member], List.map_id']

end ServiceDiagram.Value
