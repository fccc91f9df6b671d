import Mathlib.Data.List.Induction
import Mathlib.Data.List.Nodup

namespace ServiceDiagram

variable {xs ys : List String} {x : String}

/-- One name more at the end: it stays if it is new. -/
theorem eraseDups_concat (xs : List String) (x : String) :
    (xs ++ [x]).eraseDups = xs.eraseDups ++ if x ∈ xs then [] else [x] := by
  rw [List.eraseDups_append, List.removeAll, List.filter_singleton]
  by_cases known : x ∈ xs <;> simp [known, List.eraseDups_cons]

theorem eraseDups_concat_of_mem (known : x ∈ xs) : (xs ++ [x]).eraseDups = xs.eraseDups := by
  rw [eraseDups_concat, if_pos known, List.append_nil]

theorem eraseDups_concat_of_not_mem (new : x ∉ xs) :
    (xs ++ [x]).eraseDups = xs.eraseDups ++ [x] := by
  rw [eraseDups_concat, if_neg new]

theorem nodup_eraseDups (xs : List String) : xs.eraseDups.Nodup := by
  induction xs using List.reverseRecOn with
  | nil => exact List.nodup_nil
  | append_singleton xs x ih =>
    by_cases known : x ∈ xs
    · rwa [eraseDups_concat_of_mem known]
    · rw [eraseDups_concat_of_not_mem known, List.nodup_append_comm]
      exact List.nodup_cons.mpr ⟨fun again => known (List.mem_eraseDups.mp again), ih⟩

/-- Names that differ all stay. -/
theorem eraseDups_of_nodup (differ : xs.Nodup) : xs.eraseDups = xs := by
  induction xs using List.reverseRecOn with
  | nil => rfl
  | append_singleton xs x ih =>
    rw [List.nodup_append_comm, List.singleton_append, List.nodup_cons] at differ
    rw [eraseDups_concat_of_not_mem differ.1, ih differ.2]

/-- What was left out of a list before is left out of it together with others. -/
theorem eraseDups_append_eraseDups (xs ys : List String) :
    (xs ++ ys.eraseDups).eraseDups = (xs ++ ys).eraseDups := by
  induction ys using List.reverseRecOn with
  | nil => rfl
  | append_singleton ys y ih =>
    by_cases known : y ∈ ys
    · rw [eraseDups_concat_of_mem known, ih, ← List.append_assoc,
        eraseDups_concat_of_mem (List.mem_append_right xs known)]
    · rw [eraseDups_concat_of_not_mem known, ← List.append_assoc, ← List.append_assoc,
        eraseDups_concat, eraseDups_concat, ih]
      simp only [List.mem_append, List.mem_eraseDups]

theorem eraseDups_eraseDups_append (xs ys : List String) :
    (xs.eraseDups ++ ys).eraseDups = (xs ++ ys).eraseDups := by
  induction ys using List.reverseRecOn with
  | nil => rw [List.append_nil, List.append_nil, eraseDups_of_nodup (nodup_eraseDups xs)]
  | append_singleton ys y ih =>
    rw [← List.append_assoc, ← List.append_assoc, eraseDups_concat, eraseDups_concat, ih]
    simp only [List.mem_append, List.mem_eraseDups]

/-- What is repeated within a part may go before the parts are joined. -/
theorem eraseDups_flatMap {α : Type} (f : α → List String) (as : List α) :
    (as.flatMap fun a => (f a).eraseDups).eraseDups = (as.flatMap f).eraseDups := by
  induction as with
  | nil => rfl
  | cons a as ih =>
    rw [List.flatMap_cons, List.flatMap_cons, eraseDups_eraseDups_append,
      ← eraseDups_append_eraseDups, ih, eraseDups_append_eraseDups]

end ServiceDiagram
