import ServiceDiagram.CommandLine.Arguments
import ServiceDiagram.Proofs.Except
import ServiceDiagram.Proofs.Number.Digits

namespace ServiceDiagram.CommandLine

/-- The seed that was read so far can be written. -/
def Progress.Short (p : Progress) : Prop := p.seed.natAbs < 10 ^ digitLimit

theorem Progress.short_initial : initial.Short := Nat.pow_pos (Nat.succ_pos 9)

/-- A word may be a file or left over; the seed stays as it is. -/
theorem Progress.Short.addWord {p : Progress} (short : p.Short) (s : String) :
    (p.addWord s).Short := by
  unfold Progress.addWord
  split <;> exact short

theorem Progress.Short.foldl_setFlag {p : Progress} (short : p.Short) (flags : List Flag) :
    (flags.foldl setFlag p).Short := by
  induction flags generalizing p with
  | nil => exact short
  | cons f flags ih =>
    refine ih ?_
    cases f <;> exact short

/-- The only seeds that are set are integers that were read from text. -/
theorem Progress.Short.setValue {p p' : Progress} (short : p.Short) {f : Flag} {value : String}
    (set : p.setValue f value = .ok p') : p'.Short := by
  unfold Progress.setValue at set
  cases given : readInt? value with
  | none =>
    rw [given] at set
    cases set
  | some n =>
    rw [given] at set
    cases set
    split
    · exact readInt?_short given
    · exact short

/-- Reading an option keeps the seed short: it stays, or it is read from a text within the limit on
digits. -/
theorem Progress.Short.readOption {p p' : Progress} (short : p.Short) {o : GivenOption}
    {next : Option String} {withNext : Bool}
    (given : readOption p o next = .ok (.further p' withNext)) : p'.Short := by
  unfold CommandLine.readOption at given
  split at given
  · split at given
    · obtain ⟨q, set, same⟩ := exists_of_map_ok given
      cases same
      exact short.setValue set
    · obtain ⟨q, set, same⟩ := exists_of_map_ok given
      cases same
      exact short.setValue set
    · cases given
  · obtain ⟨flags, -, same⟩ := exists_of_map_ok given
    split at same
    · cases same
    · cases same
      exact short.foldl_setFlag flags

/-- The induction is on the tokens. -/
theorem Progress.Short.readTokens {p : Progress} (short : p.Short) {ts : List Token} {a : Arguments}
    (given : readTokens p ts = .ok (.report a)) : a.seed.natAbs < 10 ^ digitLimit := by
  fun_induction CommandLine.readTokens p ts with
  | case1 p =>
    unfold finish at given
    split at given
    · cases given
    · split at given
      · cases given
        exact short
      · cases given
  | case2 p s rest _ ih | case3 p s rest _ ih | case4 p s rest _ ih => exact ih (short.addWord s) given
  | case5 p rest _ ih | case6 p rest _ ih | case7 p s rest ih => exact ih short given
  | case8 => cases given
  | case9 => cases given
  | case10 p o v rest q further ih => exact ih (short.readOption further) given
  | case11 p o v rest q withNext further _ ih => exact ih (short.readOption further) given
  | case12 => cases given
  | case13 => cases given
  | case14 p o rest _ q withNext further ih => exact ih (short.readOption further) given

/-- The seed of a report that is asked for can be written. -/
theorem seed_short {argv : List String} {a : Arguments} (asked : read argv = .ok (.report a)) :
    a.seed.natAbs < 10 ^ digitLimit := by
  obtain ⟨ts, -, given⟩ := exists_of_bind_ok asked
  exact Progress.short_initial.readTokens given

end ServiceDiagram.CommandLine
