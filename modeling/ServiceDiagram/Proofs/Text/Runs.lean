import Mathlib.Data.List.TakeDrop
import Mathlib.Data.List.TakeWhile
import ServiceDiagram.Text.Ranges

namespace ServiceDiagram.Text

/-- Characters that a test tells apart are different. -/
theorem ne_of_test {p : Char → Bool} {c d : Char} (passes : p c = true) (fails : p d = false) : c ≠ d := by
  rintro rfl
  rw [passes] at fails
  cases fails

/-- The text does not go on with a character of the class. -/
def Stops (p : Char → Bool) (cs : List Char) : Prop := ∀ c ∈ cs.head?, p c = false

@[simp]
theorem stops_nil (p : Char → Bool) : Stops p [] := by
  intro c member
  cases member

@[simp]
theorem stops_cons {p : Char → Bool} {c : Char} {cs : List Char} :
    Stops p (c :: cs) ↔ p c = false := by
  constructor
  · intro stops
    exact stops c rfl
  · intro other d member
    cases member
    exact other

theorem Stops.mono {p q : Char → Bool} {cs : List Char} (wider : ∀ c, p c = true → q c = true)
    (stops : Stops q cs) : Stops p cs := by
  intro c member
  refine Bool.eq_false_iff.mpr fun within => ?_
  have other := stops c member
  rw [wider c within] at other
  cases other

/-- What stops a run stops it before anything else too, unless it is empty. -/
theorem Stops.append {p : Char → Bool} {cs ds : List Char} (stops : Stops p cs)
    (later : cs = [] → Stops p ds) : Stops p (cs ++ ds) := by
  cases cs with
  | nil => exact later rfl
  | cons c cs => exact stops_cons.mpr (stops_cons.mp stops)

theorem dropWhile_run {p : Char → Bool} {run rest : List Char} (all : ∀ c ∈ run, p c = true)
    (stops : Stops p rest) : (run ++ rest).dropWhile p = rest := by
  rw [List.dropWhile_append_of_pos all]
  cases rest with
  | nil => rfl
  | cons c rest => simp [stops_cons.mp stops]

theorem dropWhile_stops {p : Char → Bool} {cs : List Char} (stops : Stops p cs) : cs.dropWhile p = cs :=
  dropWhile_run (fun _ member => absurd member List.not_mem_nil) stops

theorem takeWhile_run {p : Char → Bool} {run rest : List Char} (all : ∀ c ∈ run, p c = true)
    (stops : Stops p rest) : (run ++ rest).takeWhile p = run := by
  rw [List.takeWhile_append_of_pos all]
  cases rest with
  | nil => simp
  | cons c rest => simp [stops_cons.mp stops]

/-- A run is split off from what stops it. -/
theorem span_run {p : Char → Bool} {run rest : List Char} (all : ∀ c ∈ run, p c = true)
    (stops : Stops p rest) : (run ++ rest).span p = (run, rest) := by
  rw [List.span_eq_takeWhile_dropWhile, takeWhile_run all stops, dropWhile_run all stops]

/-- A text falls into a run and what follows it in one way only. -/
theorem run_unique {p : Char → Bool} {run run' rest rest' : List Char}
    (all : ∀ c ∈ run, p c = true) (all' : ∀ c ∈ run', p c = true) (stops : Stops p rest)
    (stops' : Stops p rest') (same : run ++ rest = run' ++ rest') : run = run' ∧ rest = rest' := by
  have taken := takeWhile_run all stops
  have dropped := dropWhile_run all stops
  rw [same, takeWhile_run all' stops'] at taken
  rw [same, dropWhile_run all' stops'] at dropped
  exact ⟨taken.symm, dropped.symm⟩

/-- What is left without a run stops it. -/
theorem stops_dropWhile (p : Char → Bool) (cs : List Char) : Stops p (cs.dropWhile p) := by
  intro c member
  induction cs with
  | nil => cases member
  | cons d cs ih =>
    rw [List.dropWhile_cons] at member
    split at member
    · exact ih member
    · rename_i other
      cases member
      simpa using other

/-- What is split off is a run of the class, and the rest does not go on with it. -/
theorem span_spec {p : Char → Bool} {cs run rest : List Char} (split : cs.span p = (run, rest)) :
    cs = run ++ rest ∧ (∀ c ∈ run, p c = true) ∧ Stops p rest := by
  rw [List.span_eq_takeWhile_dropWhile] at split
  cases split
  exact ⟨(List.takeWhile_append_dropWhile ..).symm, fun c => List.mem_takeWhile_imp, stops_dropWhile p cs⟩

/-- Ranges of which no two from different sets meet. -/
def Apart (xs ys : List (Nat × Nat)) : Prop := ∀ x ∈ xs, ∀ y ∈ ys, x.2 < y.1 ∨ y.2 < x.1

instance decidableApart (xs ys : List (Nat × Nat)) : Decidable (Apart xs ys) := by
  unfold Apart; infer_instance

theorem exists_of_inRanges {n : Nat} {ranges : List (Nat × Nat)} (within : inRanges n ranges = true) :
    ∃ r ∈ ranges, r.1 ≤ n ∧ n ≤ r.2 := by
  induction ranges with
  | nil => cases within
  | cons r ranges ih =>
    obtain ⟨lo, hi⟩ := r
    unfold inRanges at within
    split at within
    · cases within
    · rename_i above
      rcases Bool.or_eq_true .. ▸ within with here | later
      · exact ⟨(lo, hi), List.mem_cons_self .., Nat.not_lt.mp above, of_decide_eq_true here⟩
      · obtain ⟨r, member, bounds⟩ := ih later
        exact ⟨r, List.mem_cons_of_mem _ member, bounds⟩

/-- A code point is in one of two sets of ranges that lie apart. -/
theorem Apart.not_inRanges {n : Nat} {xs ys : List (Nat × Nat)} (apart : Apart xs ys)
    (within : inRanges n xs = true) : inRanges n ys = false := by
  refine Bool.eq_false_iff.mpr fun other => ?_
  obtain ⟨x, inXs, lowX, highX⟩ := exists_of_inRanges within
  obtain ⟨y, inYs, lowY, highY⟩ := exists_of_inRanges other
  have := apart x inXs y inYs
  omega

end ServiceDiagram.Text
