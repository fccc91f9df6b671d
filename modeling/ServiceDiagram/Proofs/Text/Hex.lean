import ServiceDiagram.Proofs.Number.Digits

namespace ServiceDiagram.Text

/-- A digit that is written denotes the value. -/
theorem hexValue?_hexDigit {v : Nat} (small : v < 16) : hexValue? (hexDigit v) = some v := by
  have all : ∀ v < 16, hexValue? (hexDigit v) = some v := by decide
  exact all v small

theorem lt_of_hexValue? {c : Char} {v : Nat} (digit : hexValue? c = some v) : v < 16 := by
  simp only [hexValue?, isAsciiDigit, Bool.and_eq_true, decide_eq_true_eq, Char.le_def,
    UInt32.le_iff_toNat_le] at digit
  split at digit
  · rename_i bounds
    cases digit
    have upper : c.toNat ≤ 57 := bounds.2
    simp only [show '0'.toNat = 48 from rfl]
    omega
  · split at digit
    · rename_i bounds
      cases digit
      have upper : c.toNat ≤ 102 := bounds.2
      simp only [show 'a'.toNat = 97 from rfl]
      omega
    · split at digit
      · rename_i bounds
        cases digit
        have upper : c.toNat ≤ 70 := bounds.2
        simp only [show 'A'.toNat = 65 from rfl]
        omega
      · cases digit

/-- Digits of every script are read as hexadecimal ones, and those of ASCII are among them. -/
theorem hexDigitValue?_hexDigit {v : Nat} (small : v < 16) :
    hexDigitValue? (hexDigit v) = some v := by
  have all : ∀ v < 16, hexDigitValue? (hexDigit v) = some v := by decide +kernel
  exact all v small

theorem length_hexText (width n : Nat) : (hexText width n).length = width := by
  simp [hexText]

theorem exists_of_mem_hexText {width n : Nat} {c : Char} (member : c ∈ hexText width n) :
    ∃ v < 16, c = hexDigit v := by
  obtain ⟨i, -, rfl⟩ := List.mem_map.mp member
  exact ⟨_, Nat.mod_lt _ (by omega), rfl⟩

theorem hexText_succ (width n : Nat) :
    hexText (width + 1) n = hexText width (n / 16) ++ [hexDigit (n % 16)] := by
  have last : n / Nat.pow 16 (width + 1 - 1 - width) % 16 = n % 16 := by simp
  rw [hexText, List.range_succ, List.map_append, List.map_singleton, last, hexText]
  congr 1
  refine List.map_congr_left fun i member => ?_
  have inside : i < width := List.mem_range.mp member
  have shift : width + 1 - 1 - i = width - 1 - i + 1 := by omega
  rw [shift, show Nat.pow 16 (width - 1 - i + 1) = 16 * Nat.pow 16 (width - 1 - i) from
    Nat.pow_succ' .., ← Nat.div_div_eq_div_mul]

/-- The number that hexadecimal digits denote. -/
def hexRowValue (ds : List Char) : Nat :=
  ofDigitValues 16 (ds.map fun d => (hexDigitValue? d).getD 0)

/-- A row of digits that is written denotes the number, as far as its width reaches. -/
theorem hexRowValue_hexText (width n : Nat) : hexRowValue (hexText width n) = n % 16 ^ width := by
  induction width generalizing n with
  | zero => rw [Nat.pow_zero, Nat.mod_one]; rfl
  | succ width ih =>
    have last (ds : List Char) :
        hexRowValue (ds ++ [hexDigit (n % 16)]) = 16 * hexRowValue ds + n % 16 := by
      have digit := hexDigitValue?_hexDigit (Nat.mod_lt n (by omega : 0 < 16))
      simp [hexRowValue, ofDigitValues, List.foldl_append, digit]
    rw [hexText_succ, last, ih, Nat.pow_succ', Nat.mod_mul]
    omega

/-- A digit is none of the characters that hexadecimal text may have beside its digits. -/
theorem hexDigit_plain {v : Nat} (small : v < 16) :
    isNumberBlank (hexDigit v) = false ∧ hexDigit v ∉ ['+', '-', 'x', 'X'] := by
  have all : ∀ v < 16, isNumberBlank (hexDigit v) = false ∧ hexDigit v ∉ ['+', '-', 'x', 'X'] := by
    decide +kernel
  exact all v small

/-- Hexadecimal text denotes the number it was written for, as far as its digits reach. -/
theorem takeDigits_hexText (digitBefore : Bool) (width n : Nat) :
    ∃ vs, takeDigits hexDigitValue? digitBefore (hexText width n) = (vs, []) ∧ vs.length = width ∧
      ofDigitValues 16 vs = n % 16 ^ width := by
  have digits : ∀ d ∈ hexText width n, (hexDigitValue? d).isSome = true := by
    intro d member
    obtain ⟨v, small, rfl⟩ := exists_of_mem_hexText member
    rw [hexDigitValue?_hexDigit small]
    rfl
  have row : takeDigits hexDigitValue? digitBefore (hexText width n ++ []) = _ :=
    takeDigits_run digitBefore digits (stops_nil _) (stops_nil _)
  rw [List.append_nil] at row
  exact ⟨_, row, by rw [List.length_map, length_hexText], hexRowValue_hexText width n⟩

/-- So a number that fits is read back. -/
theorem readHex?_hexText {width n : Nat} (positive : 0 < width) (fits : n < 16 ^ width) :
    readHex? (hexText width n) = some (n : Int) := by
  have plain {c : Char} (member : c ∈ hexText width n) :
      isNumberBlank c = false ∧ c ∉ ['+', '-', 'x', 'X'] := by
    obtain ⟨v, small, rfl⟩ := exists_of_mem_hexText member
    exact hexDigit_plain small
  have stripped : stripNumber (hexText width n) = hexText width n :=
    stripNumber_eq (fun c member => (plain (List.mem_of_mem_head? member)).1)
      (fun c member => (plain (List.mem_reverse.mp (List.mem_of_mem_head? member))).1)
  have unsigned : takeSign (hexText width n) = (false, hexText width n) := by
    unfold takeSign
    split
    · rename_i shape
      exact absurd (.tail _ (.head _)) (plain (shape ▸ List.mem_cons_self)).2
    · rename_i shape
      exact absurd (.head _) (plain (shape ▸ List.mem_cons_self)).2
    · rfl
  have unmarked : dropHexMark (hexText width n) = hexText width n := by
    unfold dropHexMark
    split
    · rename_i x rest shape
      have noMark := (plain (shape ▸ List.mem_cons_of_mem _ List.mem_cons_self : x ∈ hexText width n)).2
      rw [if_neg, shape]
      rintro (rfl | rfl)
      · exact noMark (by decide)
      · exact noMark (by decide)
    · rfl
  obtain ⟨vs, taken, length, value⟩ := takeDigits_hexText false width n
  obtain ⟨v, vs, rfl⟩ := List.exists_cons_of_ne_nil (List.ne_nil_of_length_pos (length ▸ positive))
  simp only [readHex?, stripped, unsigned, unmarked, taken, value, Nat.mod_eq_of_lt fits,
    Bool.false_eq_true, if_false]

end ServiceDiagram.Text
