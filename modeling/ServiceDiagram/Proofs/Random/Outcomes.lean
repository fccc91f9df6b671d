import Mathlib.Algebra.Group.Nat.Defs
import ServiceDiagram.Random.Twister

namespace ServiceDiagram

namespace Draw

variable {α β : Type}

/-- A plan that can be answered: whatever the answers before, it asks for no number below nought. -/
def Answerable : Draw α → Prop
  | done _ => True
  | index n next => 0 < n ∧ ∀ v < n, (next v).Answerable
  | fraction next => ∀ v < Nat.pow 2 53, (next v).Answerable
  | bits n next => ∀ v < Nat.pow 2 n, (next v).Answerable

/-- A plan that goes on with plans that can be answered can be answered. -/
theorem Answerable.bind {d : Draw α} {f : α → Draw β} (first : d.Answerable)
    (later : ∀ a, (f a).Answerable) : (d.bind f).Answerable := by
  induction d with
  | done a => exact later a
  | index n next ih => exact ⟨first.1, fun v inRange => ih v (first.2 v inRange)⟩
  | fraction next ih => exact fun v inRange => ih v (first v inRange)
  | bits n next ih => exact fun v inRange => ih v (first v inRange)

theorem answerable_between (low high : Nat) : (between low high).Answerable :=
  ⟨Nat.succ_pos _, fun _ _ => trivial⟩

theorem answerable_choose {default : α} {items : List α} (nonempty : items ≠ []) :
    (choose default items).Answerable :=
  ⟨List.length_pos_iff.mpr nonempty, fun _ _ => trivial⟩

theorem Answerable.times {d : Draw α} (once : d.Answerable) (n : Nat) : (d.times n).Answerable := by
  induction n with
  | zero => trivial
  | succ n ih => exact once.bind fun _ => ih.bind fun _ => trivial

/-- The answers of a source are in range. -/
structure Source.InRange {σ : Type} (source : Source σ) : Prop where
  index : ∀ {n : Nat} (s : σ), 0 < n → (source.index n s).1 < n
  fraction : ∀ s : σ, (source.fraction s).1 < Nat.pow 2 53
  bits : ∀ (n : Nat) (s : σ), (source.bits n s).1 < Nat.pow 2 n

/-- A source whose answers are in range gives a possible outcome of every plan that can be answered.
-/
theorem Answerable.possible_run {σ : Type} {source : Source σ} (inRange : source.InRange)
    {d : Draw α} (answerable : d.Answerable) (s : σ) : Possible d (d.run source s).1 := by
  induction d generalizing s with
  | done a => exact .done a
  | index n next ih =>
    have answer := inRange.index s answerable.1
    exact .index _ answer (ih _ (answerable.2 _ answer) _)
  | fraction next ih =>
    have answer := inRange.fraction s
    exact .fraction _ answer (ih _ (answerable _ answer) _)
  | bits n next ih =>
    have answer := inRange.bits n s
    exact .bits _ answer (ih _ (answerable _ answer) _)

theorem Possible.eq_of_done {a b : α} (possible : Possible (.done a) b) : b = a := by
  cases possible
  rfl

/-- A possible outcome of two steps comes of a possible outcome of the first. -/
theorem Possible.exists_of_bind {d : Draw α} {f : α → Draw β} {b : β}
    (possible : Possible (d.bind f) b) : ∃ a, Possible d a ∧ Possible (f a) b := by
  induction d with
  | done a => exact ⟨a, .done a, possible⟩
  | index n next ih =>
    cases possible with
    | index v inRange rest =>
      obtain ⟨a, first, later⟩ := ih v rest
      exact ⟨a, .index v inRange first, later⟩
  | fraction next ih =>
    cases possible with
    | fraction v inRange rest =>
      obtain ⟨a, first, later⟩ := ih v rest
      exact ⟨a, .fraction v inRange first, later⟩
  | bits n next ih =>
    cases possible with
    | bits v inRange rest =>
      obtain ⟨a, first, later⟩ := ih v rest
      exact ⟨a, .bits v inRange first, later⟩

/-- What is made of the outcome of a plan is made of a possible one. -/
theorem Possible.exists_of_map {d : Draw α} {f : α → β} {b : β}
    (possible : Possible (d.bind fun a => .done (f a)) b) : ∃ a, Possible d a ∧ b = f a := by
  obtain ⟨a, first, last⟩ := possible.exists_of_bind
  exact ⟨a, first, last.eq_of_done⟩

/-- A number between two others lies between them. -/
theorem Possible.between {low high n : Nat} (possible : Possible (between low high) n)
    (ordered : low ≤ high) : low ≤ n ∧ n ≤ high := by
  cases possible with
  | index v inRange last =>
    cases last
    omega

/-- What is chosen is one of the items. -/
theorem Possible.choose {default a : α} {items : List α}
    (possible : Possible (choose default items) a) : a ∈ items := by
  cases possible with
  | index v inRange last =>
    cases last
    rw [List.getElem?_eq_getElem inRange, Option.getD_some]
    exact List.getElem_mem inRange

end Draw

namespace Twister

/-- Rows of bits are as short as they were asked for. -/
theorem bits_lt (fuel count : Nat) (s : State) : (bits fuel count s).1 < 2 ^ count := by
  induction fuel generalizing count s with
  | zero => exact Nat.two_pow_pos count
  | succ fuel ih =>
    unfold bits
    split
    · exact Nat.two_pow_pos count
    · obtain ⟨w, s'⟩ := next s
      have word : w.toNat < 2 ^ 32 := w.toNat_lt
      dsimp only
      split
      · rename_i short
        have split : 2 ^ 32 = 2 ^ count * 2 ^ (32 - count) := by
          rw [← Nat.pow_add, Nat.add_sub_cancel' (Nat.le_of_lt short)]
        rw [split] at word
        exact Nat.div_lt_of_lt_mul (Nat.mul_comm .. ▸ word)
      · rename_i long
        have high := ih (count - 32) s'
        have split : 2 ^ count = 2 ^ 32 * 2 ^ (count - 32) := by
          rw [← Nat.pow_add, Nat.add_sub_cancel' (Nat.not_lt.mp long)]
        have whole : 2 ^ 32 * ((bits fuel (count - 32) s').1 + 1) ≤ 2 ^ count := by
          rw [split]
          exact Nat.mul_le_mul_left _ high
        show w.toNat + 2 ^ 32 * (bits fuel (count - 32) s').1 < 2 ^ count
        omega

/-- The twister gives numbers below the bound, whatever its state. -/
theorem below_lt {bound : Nat} (positive : 0 < bound) (fuel : Nat) (s : State) :
    (below bound fuel s).1 < bound := by
  induction fuel generalizing s with
  | zero => exact positive
  | succ fuel ih =>
    unfold below
    dsimp only
    split
    · assumption
    · exact ih _

theorem fraction_lt (s : State) : (fraction s).1 < 2 ^ 53 := by
  have high : (next s).1.toNat < 2 ^ 32 := (next s).1.toNat_lt
  have low : (next (next s).2).1.toNat < 2 ^ 32 := (next (next s).2).1.toNat_lt
  show (next s).1.toNat / 2 ^ 5 * 2 ^ 26 + (next (next s).2).1.toNat / 2 ^ 6 < 2 ^ 53
  omega

/-- So all answers of the twister are in range. -/
theorem source_inRange : source.InRange where
  index s positive := below_lt positive 1000 s
  fraction := fraction_lt
  bits n s := bits_lt _ n s

end Twister

end ServiceDiagram
