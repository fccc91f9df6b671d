import Mathlib.Data.List.Basic
import Mathlib.Data.List.Induction
import Mathlib.Tactic.Ring
import ServiceDiagram.Number.IntText
import ServiceDiagram.Proofs.Text.Runs

namespace ServiceDiagram

namespace Text

theorem rangeStart?_isSome (n : Nat) (ranges : List (Nat × Nat)) :
    (rangeStart? n ranges).isSome = inRanges n ranges := by
  induction ranges with
  | nil => rfl
  | cons r ranges ih =>
    obtain ⟨lo, hi⟩ := r
    unfold rangeStart? inRanges
    split
    · rfl
    · split
      · rename_i within
        simp [within]
      · rename_i beyond
        simp [beyond, ih]

/-- The characters with a value are the digits. -/
theorem digitValue?_isSome (c : Char) : (digitValue? c).isSome = isDigit c := by
  simp [digitValue?, isDigit, rangeStart?_isSome]

theorem digitValue?_lt {c : Char} {v : Nat} (value : digitValue? c = some v) : v < 10 := by
  obtain ⟨start, -, rfl⟩ := Option.map_eq_some_iff.mp value
  exact Nat.mod_lt _ (Nat.succ_pos 9)

/-- The value of a digit; nought for any other character. -/
def digitOf (c : Char) : Nat := (digitValue? c).getD 0

theorem digitOf_lt (c : Char) : digitOf c < 10 := by
  unfold digitOf
  cases value : digitValue? c with
  | none => exact Nat.succ_pos 9
  | some v => exact digitValue?_lt value

/-- No digit is a blank. -/
theorem digits_apart_blanks : Apart digitRanges blankRanges := by decide

theorem not_isBlank_of_isDigit {c : Char} (digit : isDigit c = true) : isBlank c = false :=
  digits_apart_blanks.not_inRanges digit

theorem ne_of_isDigit {c d : Char} (digit : isDigit c = true) (other : isDigit d = false) :
    c ≠ d :=
  ne_of_test digit other

theorem capitals_apart_digits : Apart digitRanges [(65, 90)] := by decide

theorem toLower_of_isDigit {c : Char} (digit : isDigit c = true) : c.toLower = c := by
  have noCapital := capitals_apart_digits.not_inRanges digit
  unfold Char.toLower
  split
  · rename_i capital
    have bounds : 65 ≤ c.toNat ∧ c.toNat ≤ 90 := by
      simpa [UInt32.le_iff_toNat_le] using capital
    have below : ¬ c.toNat < 65 := by omega
    simp [inRanges, below, bounds.2] at noCapital
  · rfl

/-- The ASCII digits come first among the digits. -/
theorem digitValue?_of_ascii {c : Char} (digit : c.isDigit = true) :
    digitValue? c = some (c.toNat - 48) := by
  have bounds : 48 ≤ c.toNat ∧ c.toNat ≤ 57 := by
    simpa [Char.isDigit, UInt32.le_iff_toNat_le] using digit
  have start : rangeStart? c.toNat digitRanges = some 48 := by
    simp [digitRanges, rangeStart?, bounds]
  rw [digitValue?, start, Option.map_some, Nat.mod_eq_of_lt (by omega)]

theorem isDigit_of_ascii {c : Char} (digit : c.isDigit = true) : isDigit c = true := by
  rw [← digitValue?_isSome, digitValue?_of_ascii digit]
  rfl

/-- The value of an ASCII digit is its distance from nought. -/
theorem digitOf_ascii {c : Char} (digit : c.isDigit = true) : digitOf c = c.toNat - 48 := by
  rw [digitOf, digitValue?_of_ascii digit, Option.getD_some]

end Text

/-- A text that neither begins nor ends with a blank stays as it is. -/
theorem stripNumber_eq {cs : List Char} (front : Text.Stops isNumberBlank cs)
    (back : Text.Stops isNumberBlank cs.reverse) : stripNumber cs = cs := by
  rw [stripNumber, Text.dropWhile_stops front, Text.dropWhile_stops back, List.reverse_reverse]

theorem not_isNumberBlank_of_isDigit {c : Char} (digit : Text.isDigit c = true) :
    isNumberBlank c = false := by
  simp [isNumberBlank, Text.not_isBlank_of_isDigit digit]

/-- A row of digits is read as a whole if neither a digit nor an underscore follows it. -/
theorem takeDigits_run {value? : Char → Option Nat} {ds rest : List Char} (digitBefore : Bool)
    (digits : ∀ d ∈ ds, (value? d).isSome = true) (stops : Text.Stops (fun c => (value? c).isSome) rest)
    (noUnderscore : Text.Stops (· == '_') rest) :
    takeDigits value? digitBefore (ds ++ rest) = (ds.map fun d => (value? d).getD 0, rest) := by
  induction ds generalizing digitBefore with
  | nil =>
    cases rest with
    | nil => rfl
    | cons c rest =>
      have other : c ≠ '_' := by simpa using noUnderscore
      have noValue : value? c = none := by simpa using stops
      simp [takeDigits, noValue, other]
  | cons d ds ih =>
    obtain ⟨v, value⟩ := Option.isSome_iff_exists.mp (digits d (List.mem_cons_self ..))
    have later := ih true fun c member => digits c (List.mem_cons_of_mem _ member)
    simp [takeDigits, value, later]

/-- A row of digits is taken up to its end. -/
theorem takeDigits_row {ds rest : List Char} (digitBefore : Bool)
    (digits : ∀ d ∈ ds, Text.isDigit d = true) (stops : Text.Stops Text.isDigit rest)
    (noUnderscore : Text.Stops (· == '_') rest) :
    takeDigits Text.digitValue? digitBefore (ds ++ rest) = (ds.map Text.digitOf, rest) := by
  refine takeDigits_run digitBefore (fun d member => ?_) (stops.mono fun c digit => ?_) noUnderscore
  · rw [Text.digitValue?_isSome, digits d member]
  · rw [← Text.digitValue?_isSome, digit]

/-- What digits denote has no more digits than they are. -/
theorem ofDigitValues_lt {vs : List Nat} (digits : ∀ v ∈ vs, v < 10) :
    ofDigitValues 10 vs < 10 ^ vs.length := by
  induction vs using List.reverseRecOn with
  | nil => exact Nat.one_pos
  | append_singleton vs v ih =>
    have last := digits v (by simp)
    have earlier := ih fun u member => digits u (List.mem_append_left _ member)
    unfold ofDigitValues at earlier ⊢
    rw [List.foldl_append, List.foldl_cons, List.foldl_nil, List.length_append,
      List.length_singleton, Nat.pow_succ]
    omega

/-- A row of so many digits stays below that power of ten. -/
theorem ofDigitValues_lt_of_length {vs : List Nat} {n : Nat} (digits : ∀ v ∈ vs, v < 10)
    (short : vs.length ≤ n) : ofDigitValues 10 vs < 10 ^ n :=
  (ofDigitValues_lt digits).trans_le (Nat.pow_le_pow_right (Nat.succ_pos 9) short)

theorem takeDigits_lt {digitBefore : Bool} {cs : List Char} :
    ∀ v ∈ (takeDigits Text.digitValue? digitBefore cs).1, v < 10 := by
  fun_induction takeDigits Text.digitValue? digitBefore cs with
  | case1 => exact nofun
  | case2 digitBefore c rest v value vs after taken ih =>
    rw [taken] at ih
    exact List.forall_mem_cons.mpr ⟨Text.digitValue?_lt value, ih⟩
  | case3 digitBefore c rest noValue underscore ih => exact ih
  | case4 => exact nofun

/-- An integer that was read from text can be written. -/
theorem readInt?_short {s : String} {n : Int} (given : readInt? s = some n) :
    n.natAbs < 10 ^ digitLimit := by
  unfold readInt? at given
  dsimp only at given
  have digits := @takeDigits_lt false (takeSign (stripNumber s.toList)).2
  revert given digits
  cases takeDigits Text.digitValue? false (takeSign (stripNumber s.toList)).2 with
  | mk vs rest =>
    intro given digits
    cases vs with
    | nil => cases given
    | cons v vs =>
      cases rest with
      | cons c rest => cases given
      | nil =>
        dsimp only at given
        split at given
        · cases given
        · rename_i short
          have small := ofDigitValues_lt_of_length digits (Nat.le_of_not_lt short)
          have size : n.natAbs = ofDigitValues 10 (v :: vs) := by
            rw [← Option.some.inj given]
            split <;> omega
          rwa [size]

/-- The number that a row of digits denotes. -/
def rowValue (ds : List Char) : Nat := ofDigitValues 10 (ds.map Text.digitOf)

theorem rowValue_eq_foldl (ds : List Char) :
    rowValue ds = ds.foldl (fun n d => 10 * n + Text.digitOf d) 0 := by
  rw [rowValue, ofDigitValues, List.foldl_map]

theorem rowValue_lt_of_length {ds : List Char} {n : Nat} (short : ds.length ≤ n) :
    rowValue ds < 10 ^ n := by
  refine ofDigitValues_lt_of_length (fun v member => ?_) ((List.length_map _).trans_le short)
  obtain ⟨c, -, rfl⟩ := List.mem_map.mp member
  exact Text.digitOf_lt c

/-- On ASCII digits the value of a row is the one that the digits of a number are made for. -/
theorem rowValue_ascii {ds : List Char} (ascii : ∀ d ∈ ds, d.isDigit = true) :
    rowValue ds = Nat.ofDigitChars 10 ds 0 := by
  rw [rowValue_eq_foldl, Nat.ofDigitChars_eq_foldl]
  generalize 0 = start
  induction ds generalizing start with
  | nil => rfl
  | cons d ds ih =>
    rw [List.foldl_cons, List.foldl_cons, Text.digitOf_ascii (ascii d (List.mem_cons_self ..))]
    exact ih (fun c member => ascii c (List.mem_cons_of_mem _ member)) _

/-- ASCII digits may be taken for their distance from nought. -/
theorem foldl_ascii {ds : List Char} (ascii : ∀ d ∈ ds, d.isDigit = true) :
    ds.foldl (fun n c => 10 * n + (c.toNat - '0'.toNat)) 0 = rowValue ds := by
  rw [rowValue_ascii ascii, Nat.ofDigitChars_eq_foldl]

/-- Rows one after the other: the first counts by the length of the second. -/
theorem rowValue_append (ds es : List Char) :
    rowValue (ds ++ es) = rowValue ds * 10 ^ es.length + rowValue es := by
  induction es using List.reverseRecOn with
  | nil => simp [rowValue, ofDigitValues]
  | append_singleton es e ih =>
    have last (row : List Char) : rowValue (row ++ [e]) = 10 * rowValue row + Text.digitOf e := by
      simp [rowValue_eq_foldl, List.foldl_append]
    rw [← List.append_assoc, last, last, ih, List.length_append, List.length_singleton, pow_succ]
    ring

@[simp]
theorem rowValue_noughts (n : Nat) : rowValue (List.replicate n '0') = 0 := by
  rw [rowValue_ascii fun d member => (List.eq_of_mem_replicate member) ▸ rfl,
    Nat.ofDigitChars_replicate_zero, Nat.mul_zero]

/-- An integer can be written exactly if it has no more digits than the limit. -/
theorem isShowableInt_iff {n : Int} : isShowableInt n = true ↔ n.natAbs < 10 ^ digitLimit := by
  unfold isShowableInt
  rw [decide_eq_true_iff, Nat.pow_eq]

/-- The least integer with too many digits. -/
theorem isShowableInt_limit : isShowableInt (10 ^ digitLimit) = false := by
  have ten : (10 : Int).natAbs = 10 := rfl
  have natural : ((10 : Int) ^ digitLimit).natAbs = 10 ^ digitLimit := by rw [Int.natAbs_pow, ten]
  rw [Bool.eq_false_iff, Ne, isShowableInt_iff, natural]
  exact Nat.lt_irrefl _

theorem natDigits_ascii {n : Nat} {d : Char} (member : d ∈ natDigits n) : d.isDigit = true :=
  Nat.isDigit_of_mem_toDigits (by omega) (by omega) member

theorem natDigits_isDigit {n : Nat} {d : Char} (member : d ∈ natDigits n) :
    Text.isDigit d = true :=
  Text.isDigit_of_ascii (natDigits_ascii member)

theorem natDigits_ne_nil (n : Nat) : natDigits n ≠ [] := Nat.toDigits_ne_nil

/-- No nought stands in front of the digits of a positive number. -/
theorem head_natDigits {n : Nat} (positive : n ≠ 0) : (natDigits n).head? ≠ some '0' := by
  induction n using Nat.strongRecOn with
  | ind n ih =>
    rw [natDigits, Nat.toDigits_eq_if (by omega)]
    split
    · rename_i single
      have all : ∀ v < 10, v ≠ 0 → Nat.digitChar v ≠ '0' := by decide
      simpa using all n single positive
    · have front := ih (n / 10) (by omega) (by omega)
      have nonempty := natDigits_ne_nil (n / 10)
      rw [natDigits] at front nonempty
      rwa [List.head?_append_of_ne_nil _ nonempty]

/-- The digits of a number have its value. -/
@[simp]
theorem rowValue_natDigits (n : Nat) : rowValue (natDigits n) = n := by
  rw [rowValue_ascii fun d => natDigits_ascii, natDigits, Nat.ofDigitChars_ten_toDigits]

/-- The digits of a number are as many as its size asks for. -/
theorem length_natDigits_le {n k : Nat} (positive : 0 < k) :
    (natDigits n).length ≤ k ↔ n < 10 ^ k :=
  Nat.length_toDigits_le_iff (by omega) positive

end ServiceDiagram
