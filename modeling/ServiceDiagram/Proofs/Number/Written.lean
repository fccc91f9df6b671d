import ServiceDiagram.Proofs.Number.Literal

namespace ServiceDiagram

namespace NumberLiteral

theorem digits_of_noughts {n : Nat} {d : Char} (member : d ∈ List.replicate n '0') :
    Text.isDigit d = true := by
  rw [List.eq_of_mem_replicate member]
  decide

theorem ascii_of_noughts {n : Nat} {d : Char} (member : d ∈ List.replicate n '0') :
    d.isDigit = true :=
  List.eq_of_mem_replicate member ▸ rfl

/-- A literal of ASCII digits, before whose point a nought stands alone. -/
structure IsPlain (l : NumberLiteral) : Prop where
  whole : ∀ d ∈ l.whole, d.isDigit = true
  fraction : ∀ d ∈ l.fraction, d.isDigit = true
  exponent : ∀ x ∈ l.exponent, ∀ d ∈ x.digits, d.isDigit = true
  leading : l.whole = ['0'] ∨ l.whole.head? ≠ some '0'

/-- The literal of an integer. -/
def ofInt (n : Int) : NumberLiteral where
  negative := n < 0
  whole := natDigits n.natAbs
  fraction := []
  exponent := none
  nonempty := natDigits_ne_nil _
  wholeDigits _ member := natDigits_isDigit member
  fractionDigits _ member := absurd member List.not_mem_nil

/-- The text of an integer is a literal of it. -/
theorem ofInt_text (n : Int) : (ofInt n).text = (intText n).toList := by
  unfold intText
  split
  · rename_i negative
    simp [text, ofInt, negative, signText, fractionText, exponentText]
  · rename_i natural
    simp [text, ofInt, natural, signText, fractionText, exponentText]

theorem ofInt_isPlain (n : Int) : (ofInt n).IsPlain where
  whole _ member := natDigits_ascii member
  fraction _ member := absurd member List.not_mem_nil
  exponent _ member := nomatch member
  leading := by
    by_cases zero : n.natAbs = 0
    · exact .inl (congrArg natDigits zero)
    · exact .inr (head_natDigits zero)

/-- This literal has the integer as its value, up to the limit on digits. -/
theorem ofInt_value? {n : Int} (short : n.natAbs < 10 ^ digitLimit) :
    (ofInt n).value? = some (.int n) := by
  have positive : 0 < digitLimit := by
    unfold digitLimit
    omega
  have length : ¬ digitLimit < (natDigits n.natAbs).length :=
    Nat.not_lt.mpr ((length_natDigits_le positive).mpr short)
  have signed : (if n < 0 then -(n.natAbs : Int) else n.natAbs) = n := by
    split <;> omega
  simp only [value?, isWhole, ofInt, List.isEmpty_nil, Option.isNone_none, Bool.and_self, if_true,
    length, if_false, rowValue_natDigits, decide_eq_true_eq, signed]

/-- The literal of an exponent, with at least two digits. -/
def exponentOf (e : Int) : ExponentLiteral where
  mark := 'e'
  sign := some (decide (e < 0))
  digits := if (natDigits e.natAbs).length < 2 then '0' :: natDigits e.natAbs else natDigits e.natAbs
  isMark := Or.inl rfl
  nonempty := by
    split
    · exact List.cons_ne_nil _ _
    · exact natDigits_ne_nil _
  areDigits := by
    intro d member
    split at member
    · rcases List.mem_cons.mp member with rfl | later
      · decide
      · exact natDigits_isDigit later
    · exact natDigits_isDigit member

theorem exponentOf_text (e : Int) : (exponentOf e).text = Decimal.exponentText e := by
  simp only [ExponentLiteral.text, exponentOf, ExponentLiteral.signText, Decimal.exponentText]
  by_cases negative : e < 0 <;> simp [negative]

theorem exponentOf_ascii {e : Int} {d : Char} (member : d ∈ (exponentOf e).digits) :
    d.isDigit = true := by
  simp only [exponentOf] at member
  split at member
  · rcases List.mem_cons.mp member with rfl | later
    · rfl
    · exact natDigits_ascii later
  · exact natDigits_ascii member

/-- The exponent that is written is the exponent. -/
theorem exponentOf_value (e : Int) : (exponentOf e).value = e := by
  have digits : rowValue (exponentOf e).digits = e.natAbs := by
    simp only [exponentOf]
    split
    · have padded := rowValue_append ['0'] (natDigits e.natAbs)
      have nought := rowValue_noughts 1
      simp only [List.replicate_one] at nought
      rw [List.singleton_append, nought, rowValue_natDigits, Nat.zero_mul, Nat.zero_add] at padded
      exact padded
    · exact rowValue_natDigits _
  rw [ExponentLiteral.value, digits]
  simp only [ExponentLiteral.negative, exponentOf, Option.getD_some, decide_eq_true_eq]
  split <;> omega

/-- The literal of a magnitude whose point stands before its first digit. -/
def belowOne (negative : Bool) (noughts n : Nat) : NumberLiteral where
  negative := negative
  whole := ['0']
  fraction := List.replicate noughts '0' ++ natDigits n
  exponent := none
  nonempty := List.cons_ne_nil _ _
  wholeDigits _ member := digits_of_noughts (n := 1) member
  fractionDigits _ member := (List.mem_append.mp member).elim digits_of_noughts natDigits_isDigit

/-- The literal of a magnitude whose point stands after its last digit. -/
def wholeFloat (negative : Bool) (n noughts : Nat) : NumberLiteral where
  negative := negative
  whole := natDigits n ++ List.replicate noughts '0'
  fraction := ['0']
  exponent := none
  nonempty := List.append_ne_nil_of_left_ne_nil (natDigits_ne_nil n) _
  wholeDigits _ member := (List.mem_append.mp member).elim natDigits_isDigit digits_of_noughts
  fractionDigits _ member := digits_of_noughts (n := 1) member

/-- The literal of a magnitude whose point stands between two digits. -/
def pointed (negative : Bool) (n place : Nat) (positive : 0 < place) : NumberLiteral where
  negative := negative
  whole := (natDigits n).take place
  fraction := (natDigits n).drop place
  exponent := none
  nonempty := by
    intro empty
    rcases List.take_eq_nil_iff.mp empty with zero | none
    · omega
    · exact natDigits_ne_nil n none
  wholeDigits _ member := natDigits_isDigit (List.mem_of_mem_take member)
  fractionDigits _ member := natDigits_isDigit (List.mem_of_mem_drop member)

/-- The literal of a magnitude with one digit before its point and an exponent. -/
def scientific (negative : Bool) (n : Nat) (e : Int) : NumberLiteral where
  negative := negative
  whole := (natDigits n).take 1
  fraction := (natDigits n).drop 1
  exponent := some (exponentOf e)
  nonempty := (pointed negative n 1 Nat.one_pos).nonempty
  wholeDigits _ member := natDigits_isDigit (List.mem_of_mem_take member)
  fractionDigits _ member := natDigits_isDigit (List.mem_of_mem_drop member)

theorem belowOne_isPlain (negative : Bool) (noughts n : Nat) :
    (belowOne negative noughts n).IsPlain where
  whole _ member := ascii_of_noughts (n := 1) member
  fraction _ member := (List.mem_append.mp member).elim ascii_of_noughts natDigits_ascii
  exponent _ member := nomatch member
  leading := .inl rfl

theorem wholeFloat_isPlain (negative : Bool) {n : Nat} (positive : n ≠ 0) (noughts : Nat) :
    (wholeFloat negative n noughts).IsPlain where
  whole _ member := (List.mem_append.mp member).elim natDigits_ascii ascii_of_noughts
  fraction _ member := ascii_of_noughts (n := 1) member
  exponent _ member := nomatch member
  leading := by
    refine .inr ?_
    rw [wholeFloat, List.head?_append_of_ne_nil _ (natDigits_ne_nil n)]
    exact head_natDigits positive

theorem head_take_natDigits {n place : Nat} (positive : n ≠ 0) (inside : 0 < place) :
    ((natDigits n).take place).head? ≠ some '0' := by
  rw [List.head?_take, if_neg (Nat.ne_of_gt inside)]
  exact head_natDigits positive

theorem pointed_isPlain (negative : Bool) {n place : Nat} (positive : n ≠ 0) (inside : 0 < place) :
    (pointed negative n place inside).IsPlain where
  whole _ member := natDigits_ascii (List.mem_of_mem_take member)
  fraction _ member := natDigits_ascii (List.mem_of_mem_drop member)
  exponent _ member := nomatch member
  leading := .inr (head_take_natDigits positive inside)

theorem scientific_isPlain (negative : Bool) {n : Nat} (positive : n ≠ 0) (e : Int) :
    (scientific negative n e).IsPlain where
  whole _ member := natDigits_ascii (List.mem_of_mem_take member)
  fraction _ member := natDigits_ascii (List.mem_of_mem_drop member)
  exponent x member d digit := by
    cases member
    exact exponentOf_ascii digit
  leading := .inr (head_take_natDigits positive Nat.one_pos)

/-- Below one, the noughts after the point count down from it. -/
theorem belowOne_value (negative : Bool) (noughts n : Nat) :
    (belowOne negative noughts n).decimal.value =
      (Decimal.mk n (-((noughts : Int) + (natDigits n).length))).value := by
  have digits : rowValue (['0'] ++ (List.replicate noughts '0' ++ natDigits n)) = n := by
    have nought := rowValue_noughts 1
    rw [List.replicate_one] at nought
    rw [rowValue_append, nought, rowValue_append, rowValue_noughts, rowValue_natDigits]
    omega
  simp only [decimal, belowOne, digits, Option.map_none, Option.getD_none, List.length_append,
    List.length_replicate]
  congr 2
  push_cast
  ring

/-- Above the digits, noughts take the place of the exponent. -/
theorem wholeFloat_value (negative : Bool) (n noughts : Nat) :
    (wholeFloat negative n noughts).decimal.value = (Decimal.mk n noughts).value := by
  have digits : rowValue (natDigits n ++ List.replicate noughts '0' ++ ['0']) =
      n * 10 ^ noughts * 10 := by
    have nought := rowValue_noughts 1
    rw [List.replicate_one] at nought
    rw [rowValue_append, nought, rowValue_append, rowValue_noughts, rowValue_natDigits]
    simp
  simp only [decimal, wholeFloat, digits, Decimal.value, Option.map_none, Option.getD_none,
    List.length_singleton, Nat.cast_mul, Nat.cast_pow, Nat.cast_ofNat, zpow_natCast]
  norm_num
  ring

/-- Between digits, the point counts how many stand behind it. -/
theorem pointed_value (negative : Bool) (n place : Nat) (positive : 0 < place) :
    (pointed negative n place positive).decimal.value =
      (Decimal.mk n (-(((natDigits n).length - place : Nat) : Int))).value := by
  simp only [decimal, pointed, List.take_append_drop, rowValue_natDigits, Option.map_none,
    Option.getD_none, List.length_drop, zero_sub]

/-- With one digit before the point, the exponent takes up the others. -/
theorem scientific_value (negative : Bool) (n : Nat) (e : Int) :
    (scientific negative n e).decimal.value =
      (Decimal.mk n (e - ((natDigits n).length - 1 : Nat))).value := by
  simp only [decimal, scientific, List.take_append_drop, rowValue_natDigits, Option.map_some,
    Option.getD_some, exponentOf_value, List.length_drop]

theorem value_of_exponent {d : Decimal} {e : Int} (same : e = d.exponent) :
    (Decimal.mk d.coefficient e).value = d.value := by
  rw [same]

/-- The text of a magnitude is a literal of a binary64 number with the same value. -/
theorem exists_of_decimal (negative : Bool) (d : Decimal) :
    ∃ l : NumberLiteral, l.text = signText negative ++ d.text ∧ l.isWhole = false ∧
      l.negative = negative ∧ l.decimal.value = d.value ∧ (d.coefficient ≠ 0 → l.IsPlain) := by
  have nonempty := natDigits_ne_nil d.coefficient
  have length : 0 < (natDigits d.coefficient).length := List.length_pos_iff.mpr nonempty
  unfold Decimal.text
  extract_lets ds place
  have dsLength : ds.length = (natDigits d.coefficient).length := rfl
  have placeEq : place = ds.length + d.exponent := rfl
  split
  · rename_i positional
    split
    · rename_i before
      refine ⟨belowOne negative (-place).toNat d.coefficient, ?_, ?_, rfl, ?_,
        fun _ => belowOne_isPlain _ _ _⟩
      · simp [text, belowOne, fractionText, exponentText, nonempty, ds]
      · simp [isWhole, belowOne, nonempty]
      · rw [belowOne_value, value_of_exponent (by omega)]
    · split
      · rename_i natural
        refine ⟨wholeFloat negative d.coefficient d.exponent.toNat, ?_, rfl, rfl, ?_,
          fun positive => wholeFloat_isPlain _ positive _⟩
        · simp [text, wholeFloat, fractionText, exponentText, ds]
        · rw [wholeFloat_value, value_of_exponent (by omega)]
      · rename_i after notNatural
        have inside : place.toNat < ds.length := by omega
        refine ⟨pointed negative d.coefficient place.toNat (by omega), ?_, ?_, rfl, ?_,
          fun positive => pointed_isPlain _ positive _⟩
        · have rest : ds.drop place.toNat ≠ [] := by simpa using inside
          simp [text, pointed, fractionText, exponentText, rest, ds]
        · simpa [isWhole, pointed] using inside
        · rw [pointed_value, value_of_exponent (by omega)]
  · refine ⟨scientific negative d.coefficient (place - 1), ?_, by simp [isWhole, scientific], rfl, ?_,
      fun positive => scientific_isPlain _ positive _⟩
    · cases shape : natDigits d.coefficient with
      | nil => exact absurd shape nonempty
      | cons c rest =>
        simp [text, scientific, fractionText, NumberLiteral.exponentText, exponentOf_text, shape, ds]
    · rw [scientific_value, value_of_exponent (by omega)]

/-- The literal of nought as a binary64 number. -/
def noughtFloat (negative : Bool) : NumberLiteral where
  negative := negative
  whole := ['0']
  fraction := ['0']
  exponent := none
  nonempty := List.cons_ne_nil _ _
  wholeDigits _ member := digits_of_noughts (n := 1) member
  fractionDigits _ member := digits_of_noughts (n := 1) member

theorem noughtFloat_decimal (negative : Bool) : (noughtFloat negative).decimal = ⟨0, -1⟩ := rfl

/-- Nought is written with a point, and a plain literal so. -/
theorem noughtFloat_isPlain (negative : Bool) : (noughtFloat negative).IsPlain where
  whole _ member := ascii_of_noughts (n := 1) member
  fraction _ member := ascii_of_noughts (n := 1) member
  exponent _ member := nomatch member
  leading := .inl rfl

end NumberLiteral

/-- Nought has the least exponent as its canonical one. -/
theorem Binary64.Canonical.least {e : Int} (canonical : Canonical 0 e) : e = -1074 := by
  obtain ⟨_, _, _, full⟩ := canonical
  rcases full with full | least
  · exact absurd full nofun
  · exact least

theorem signed_toList (negative : Bool) (s : String) :
    ((if negative then "-" else "") ++ s).toList = NumberLiteral.signText negative ++ s.toList := by
  cases negative <;> simp [NumberLiteral.signText]

/-- The text of a finite number is a literal that denotes it. -/
theorem Binary64.exists_literal {x : Binary64} (isFinite : x.isFinite = true) :
    ∃ l : NumberLiteral, l.text = x.text.toList ∧ l.value? = some (.float x) ∧ l.IsPlain := by
  cases x with
  | nan => cases isFinite
  | infinite negative => cases isFinite
  | finite negative m e canonical =>
    rw [Binary64.text, signed_toList, Binary64.magnitudeText]
    by_cases zero : m = 0
    · subst zero
      obtain rfl := canonical.least
      refine ⟨NumberLiteral.noughtFloat negative, ?_, ?_, NumberLiteral.noughtFloat_isPlain negative⟩
      · rw [if_pos rfl]
        rfl
      · have nought : Decimal.toBinary64 negative ⟨0, -1⟩ = finite negative 0 (-1074) canonical := by
          simp only [Decimal.toBinary64, true_or, if_true, Binary64.zero, Binary64.ofParts, canonical,
            dite_true]
        rw [← nought, ← NumberLiteral.noughtFloat_decimal negative]
        rfl
    · have positive : 0 < m := Nat.pos_of_ne_zero zero
      obtain ⟨l, spelled, notWhole, sign, value, plain⟩ :=
        NumberLiteral.exists_of_decimal negative (Decimal.shortest m e)
      have exact := Decimal.shortest_reads canonical positive
      have coefficient : (Decimal.shortest m e).coefficient ≠ 0 := by
        intro nought
        have least : Canonical 0 (-1074) := by decide
        rw [Decimal.toBinary64, if_pos (Or.inl nought), Binary64.zero, ofParts, dif_pos least] at exact
        cases exact
        exact zero rfl
      refine ⟨l, ?_, ?_, plain coefficient⟩
      · rw [if_neg zero, String.toList_ofList, spelled]
      · have reads : l.decimal.toBinary64 negative = finite negative m e canonical := by
          rw [Decimal.toBinary64_congr negative value, Decimal.toBinary64_withSign,
            Decimal.shortest_reads canonical positive]
          rfl
        simp only [NumberLiteral.value?, notWhole, Bool.false_eq_true, if_false, sign, reads]

/-- A number whose text can be read back: a finite binary64 number, or an integer that does not
have too many digits. -/
def Number.IsWritable : Number → Prop
  | .int n => n.natAbs < 10 ^ digitLimit
  | .float x => x.isFinite = true

/-- What is written for a number is a literal that denotes it. -/
theorem Number.IsWritable.exists_literal {n : Number} (writable : n.IsWritable) :
    ∃ l : NumberLiteral, l.text = (Json.numberText n).toList ∧ l.value? = some n ∧ l.IsPlain := by
  cases n with
  | int n =>
    exact ⟨.ofInt n, NumberLiteral.ofInt_text n, NumberLiteral.ofInt_value? writable,
      NumberLiteral.ofInt_isPlain n⟩
  | float x =>
    cases x with
    | nan => cases writable
    | infinite negative => cases writable
    | finite negative m e canonical => exact Binary64.exists_literal rfl

end ServiceDiagram
