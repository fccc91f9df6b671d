import ServiceDiagram.Pattern.Matcher
import Mathlib.Data.List.Basic

namespace ServiceDiagram.Pattern

/-- A matcher of one character that passes a test. -/
def single (ok : Char → Bool) : Matcher := fun s k => (s.take? ok).bind k

theorem matchNodes_char (groups : List (Option Width)) (flags : Flags) (code : Nat) :
    matchNodes groups flags [.char code] = single ((Style.ofFlags flags).sameChar code) := by
  funext s k
  simp only [matchNodes, Node.matcher, single]

theorem matchNodes_oneOf (groups : List (Option Width)) (flags : Flags) (negated : Bool)
    (items : List SetItem) :
    matchNodes groups flags [.oneOf negated items] =
      single ((Style.ofFlags flags).inSet negated items) := by
  funext s k
  simp only [matchNodes, Node.matcher, single]

variable {ok : Char → Bool} {least most : Nat} {k : MatchState → Option MatchState}
  {captures : List (Nat × List Char)}

/-- From any count so far, the rest of the row is taken as far as the bounds allow. -/
theorem repeatGreedy_row {row : List Char} (chars : ∀ c ∈ row, ok c = true)
    (atEnd : ∀ before, (k ⟨before, [], captures⟩).isSome = true) (count fuel : Nat)
    (last : Option Nat) (before : List Char) (enough : least ≤ count + row.length)
    (notMore : count + row.length ≤ most) (ahead : ∀ n ∈ last, row.length < n)
    (fuelled : row.length < fuel) :
    (repeatGreedy (single ok) least (some most) fuel count last ⟨before, row, captures⟩ k).isSome =
      true := by
  induction row generalizing count fuel last before with
  | nil =>
    obtain ⟨fuel, rfl⟩ := Nat.exists_eq_add_one_of_ne_zero (Nat.ne_of_gt fuelled)
    have reached : ¬ count < least := by simpa using enough
    simp [repeatGreedy, reached, single, MatchState.take?, atEnd]
  | cons c row ih =>
    obtain ⟨fuel, rfl⟩ := Nat.exists_eq_add_one_of_ne_zero (Nat.ne_of_gt (Nat.zero_lt_of_lt fuelled))
    simp only [List.length_cons] at enough notMore ahead fuelled
    have taken : MatchState.take? ok ⟨before, c :: row, captures⟩ =
        some ⟨c :: before, row, captures⟩ := by
      simp [MatchState.take?, chars c (.head _)]
    have later (last : Option Nat) (ahead : ∀ n ∈ last, row.length < n) :=
      ih (fun d member => chars d (.tail _ member)) (count + 1) fuel last (c :: before) (by omega)
        (by omega) ahead (by omega)
    by_cases below : count < least
    · rw [repeatGreedy]
      simp only [below, if_true, single, taken, Option.bind_some]
      exact later last fun n member => Nat.lt_of_succ_lt (ahead n member)
    · have more : count < most := by omega
      have moved : last ≠ some (row.length + 1) := fun same => Nat.lt_irrefl _ (ahead _ same)
      obtain ⟨t, found⟩ := Option.isSome_iff_exists.mp
        (later (some (row.length + 1)) fun n same => Option.some.inj same ▸ Nat.lt_succ_self _)
      rw [repeatGreedy]
      simp [below, more, moved, single, taken, found]

/-- A loop over one character of a class matches a row of such characters up to the end. -/
theorem repeated_row {row : List Char} (chars : ∀ c ∈ row, ok c = true)
    (atEnd : ∀ before, (k ⟨before, [], captures⟩).isSome = true) (before : List Char)
    (enough : least ≤ row.length) (notMore : row.length ≤ most) :
    (repeated .greedy (single ok) least (some most) ⟨before, row, captures⟩ k).isSome = true :=
  repeatGreedy_row chars atEnd 0 _ none before (by omega) (by omega) nofun (by simp only; omega)

/-- What may stand in front once is passed over if it stands there and what follows succeeds. -/
theorem repeated_optional {c : Char} (passes : ok c = true) {before rest : List Char}
    (after : (k ⟨c :: before, rest, captures⟩).isSome = true) :
    (repeated .greedy (single ok) 0 (some 1) ⟨before, c :: rest, captures⟩ k).isSome = true := by
  obtain ⟨t, found⟩ := Option.isSome_iff_exists.mp after
  simp [repeated, repeatGreedy, single, MatchState.take?, passes, found]

end ServiceDiagram.Pattern
