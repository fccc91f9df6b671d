import ServiceDiagram.Json.Reader
import ServiceDiagram.Proofs.Json.StringLiteral
import ServiceDiagram.Proofs.Number.Written

namespace ServiceDiagram.Json

/-- Whether a character can prolong a number. -/
def prolongs (c : Char) : Bool := c.isDigit || c == '.' || c == 'e' || c == 'E'

/-- All digits in front are taken. -/
theorem spanDigits_run {ds rest : List Char} (digits : ∀ d ∈ ds, d.isDigit = true)
    (stops : Text.Stops Char.isDigit rest) : spanDigits (ds ++ rest) = (ds, rest) :=
  Text.span_run digits stops

/-- The parts of a number literal. -/
def numeralOf (l : NumberLiteral) : Numeral where
  negative := l.negative
  whole := l.whole
  fraction := if l.fraction = [] then none else some l.fraction
  exponent := l.exponent.map fun x => (x.negative, x.digits)

theorem takeFraction_text {fraction after : List Char} (digits : ∀ d ∈ fraction, d.isDigit = true)
    (noPoint : Text.Stops (· == '.') after) (stops : Text.Stops Char.isDigit after) :
    takeFraction (NumberLiteral.fractionText fraction ++ after) =
      (if fraction = [] then none else some fraction, after) := by
  unfold NumberLiteral.fractionText
  split
  · rename_i empty
    rw [List.nil_append]
    unfold takeFraction
    split
    · exact absurd (Text.stops_cons.mp noPoint) (by simp)
    · rfl
  · rename_i nonempty
    simp only [List.cons_append, takeFraction, spanDigits_run digits stops, List.isEmpty_iff,
      nonempty, if_false]

theorem takeExponent_text {exponent : Option ExponentLiteral} {after : List Char}
    (digits : ∀ x ∈ exponent, ∀ d ∈ x.digits, d.isDigit = true)
    (noMark : Text.Stops (fun c => c == 'e' || c == 'E') after)
    (stops : Text.Stops Char.isDigit after) :
    takeExponent (NumberLiteral.exponentText exponent ++ after) =
      (exponent.map fun x => (x.negative, x.digits), after) := by
  cases exponent with
  | none =>
    cases after with
    | nil => rfl
    | cons c after =>
      have other : c ≠ 'e' ∧ c ≠ 'E' := by simpa using noMark
      simp [NumberLiteral.exponentText, takeExponent, other]
  | some x =>
    simp only [NumberLiteral.exponentText, Option.map_some, Option.getD_some, ExponentLiteral.text,
      List.cons_append, List.append_assoc, takeExponent, x.isMark, if_true, x.takeSign_text,
      spanDigits_run (digits x rfl) stops, List.isEmpty_iff, x.nonempty, if_false]

/-- Reads the text of a number after its sign. -/
def readUnsigned? (negative : Bool) (body : List Char) : Option (Numeral × List Char) :=
  let (whole, rest) :=
    match body with
    | '0' :: rest => (['0'], rest)
    | _ => spanDigits body
  if whole.isEmpty then none
  else
    let (fraction, rest) := takeFraction rest
    let (exponent, rest) := takeExponent rest
    some (⟨negative, whole, fraction, exponent⟩, rest)

theorem readNumeral?_plain {c : Char} (noMinus : c ≠ '-') (cs : List Char) :
    readNumeral? (c :: cs) = readUnsigned? false (c :: cs) := by
  unfold readNumeral?
  split
  rename_i sign body _ signed
  split at signed
  · rename_i same
    exact absurd (List.cons.inj same).1 noMinus
  · cases signed
    rfl

/-- A literal is read to its end, whatever follows that does not prolong it. -/
theorem readUnsigned?_body {l : NumberLiteral} (plain : l.IsPlain) {after : List Char}
    (stops : Text.Stops prolongs after) :
    readUnsigned? l.negative (l.body ++ after) = some (numeralOf l, after) := by
  have noDigit : Text.Stops Char.isDigit after := stops.mono (by simp +contextual [prolongs])
  have noPoint : Text.Stops (· == '.') after := stops.mono (by simp [prolongs])
  have noMark : Text.Stops (fun c => c == 'e' || c == 'E') after :=
    stops.mono (by simp +contextual [prolongs, or_imp])
  have beyondExponent : Text.Stops Char.isDigit (NumberLiteral.exponentText l.exponent ++ after) :=
    (NumberLiteral.stops_exponentText rfl rfl _).append fun _ => noDigit
  have exponentNoPoint : Text.Stops (· == '.') (NumberLiteral.exponentText l.exponent ++ after) :=
    (NumberLiteral.stops_exponentText rfl rfl _).append fun _ => noPoint
  have beyondWhole : Text.Stops Char.isDigit (NumberLiteral.fractionText l.fraction ++
      (NumberLiteral.exponentText l.exponent ++ after)) :=
    NumberLiteral.stops_fractionText rfl beyondExponent
  rw [NumberLiteral.body, List.append_assoc, List.append_assoc]
  generalize beyond : NumberLiteral.fractionText l.fraction ++
    (NumberLiteral.exponentText l.exponent ++ after) = rest at beyondWhole
  have whole : (match l.whole ++ rest with
      | '0' :: rest => (['0'], rest)
      | _ => spanDigits (l.whole ++ rest)) = (l.whole, rest) := by
    rcases plain.leading with nought | positive
    · rw [nought]
      rfl
    · rw [← spanDigits_run plain.whole beyondWhole]
      obtain ⟨d, ds, shape⟩ := List.exists_cons_of_ne_nil l.nonempty
      have noNought : d ≠ '0' := by simpa [shape] using positive
      simp [shape, noNought]
  subst beyond
  simp only [readUnsigned?, whole, List.isEmpty_iff, l.nonempty, if_false,
    takeFraction_text plain.fraction exponentNoPoint beyondExponent,
    takeExponent_text plain.exponent noMark noDigit]
  rfl

/-- With its sign a literal is read as the numeral that it is. -/
theorem readNumeral?_text {l : NumberLiteral} (plain : l.IsPlain) {after : List Char}
    (stops : Text.Stops prolongs after) :
    readNumeral? (l.text ++ after) = some (numeralOf l, after) := by
  have unsigned := readUnsigned?_body plain stops
  rw [l.text_eq]
  cases negative : l.negative with
  | true =>
    rw [negative] at unsigned
    exact unsigned
  | false =>
    obtain ⟨d, rest, shape, digit⟩ := l.body_head
    have noMinus : d ≠ '-' := Text.ne_of_isDigit digit rfl
    rw [negative, shape] at unsigned
    rw [shape]
    exact (readNumeral?_plain noMinus _).trans unsigned

theorem digitsValue_ascii {ds : List Char} (digits : ∀ d ∈ ds, d.isDigit = true) :
    digitsValue ds = rowValue ds :=
  foldl_ascii digits

/-- What a numeral denotes is what the literal does. -/
theorem value_numeralOf {l : NumberLiteral} (plain : l.IsPlain) {n : Number}
    (denotes : l.value? = some n) : (numeralOf l).value = .ok n := by
  cases whole : l.isWhole with
  | true =>
    obtain ⟨noFraction, noExponent⟩ : l.fraction = [] ∧ l.exponent = none := by
      simpa [NumberLiteral.isWhole] using whole
    rw [NumberLiteral.value?, whole, if_pos rfl] at denotes
    split at denotes
    · cases denotes
    · rename_i short
      cases denotes
      simp [Numeral.value, numeralOf, noFraction, noExponent, short, digitsValue_ascii plain.whole]
  | false =>
    have digits : digitsValue (l.whole ++ l.fraction) = rowValue (l.whole ++ l.fraction) :=
      digitsValue_ascii fun d member =>
        (List.mem_append.mp member).elim (plain.whole d) (plain.fraction d)
    have power : ∀ x ∈ l.exponent, digitsValue x.digits = rowValue x.digits :=
      fun x member => digitsValue_ascii (plain.exponent x member)
    rw [NumberLiteral.value?, whole, if_neg Bool.false_ne_true] at denotes
    cases denotes
    cases exponent : l.exponent with
    | none =>
      have nonempty : l.fraction ≠ [] := by
        intro empty
        simp [NumberLiteral.isWhole, empty, exponent] at whole
      simp [Numeral.value, numeralOf, NumberLiteral.decimal, nonempty, exponent, digits]
    | some x =>
      have places : (if l.fraction = [] then none else some l.fraction).getD [] = l.fraction := by
        split
        · rename_i empty
          exact empty.symm
        · rfl
      simp [Numeral.value, numeralOf, NumberLiteral.decimal, ExponentLiteral.value, exponent, places,
        digits, power x exponent]

/-- No word begins as a number does. -/
theorem find?_words (l : NumberLiteral) (after : List Char) :
    words.find? (fun w => w.1.toList.isPrefixOf (l.text ++ after)) = none := by
  obtain ⟨d, rest, shape, digit⟩ := l.body_head
  have other (c : Char) (letter : Text.isDigit c = false) : c ≠ d :=
    (Text.ne_of_isDigit digit letter).symm
  rw [l.text_eq, shape]
  cases l.negative with
  | true => simp [words, NumberLiteral.signText, other 'I' rfl]
  | false =>
    simp [words, NumberLiteral.signText, other 'n' rfl, other 't' rfl, other 'f' rfl, other 'N' rfl,
      other 'I' rfl, other '-' rfl]

/-- A literal is read as its value, or refused as the value is. -/
theorem readPlain_text {l : NumberLiteral} (plain : l.IsPlain) {after : List Char}
    (stops : Text.Stops prolongs after) :
    readPlain (l.text ++ after) = (numeralOf l).value.map fun n => (.number n, after) := by
  rw [readPlain, find?_words, readNumeral?_text plain stops]

/-- A word is read as what it stands for. -/
theorem readPlain_word {word : String} {v : Value} (isWord : (word, v) ∈ words) (after : List Char) :
    readPlain (word.toList ++ after) = .ok (v, after) := by
  simp only [words, List.mem_cons, Prod.mk.injEq, List.not_mem_nil, or_false] at isWord
  rcases isWord with ⟨rfl, rfl⟩ | ⟨rfl, rfl⟩ | ⟨rfl, rfl⟩ | ⟨rfl, rfl⟩ | ⟨rfl, rfl⟩ | ⟨rfl, rfl⟩ <;> rfl

/-- What begins neither as a text nor as a value with parts is a word or a number. -/
theorem readValue_plain {c : Char} (noQuote : c ≠ '"') (noBrace : c ≠ '\x7b') (noBracket : c ≠ '[')
    (fuel : Nat) (cs : List Char) : readValue (fuel + 1) (c :: cs) = readPlain (c :: cs) := by
  unfold readValue
  split
  · rename_i same
    exact absurd (List.cons.inj same).1 noQuote
  · rename_i same
    exact absurd (List.cons.inj same).1 noBrace
  · rename_i same
    exact absurd (List.cons.inj same).1 noBracket
  · rfl

/-- A text is read as a value, whatever follows that cannot prolong a number. -/
structure ReadsAs (s : String) (v : Value) : Prop where
  front : ∃ c cs, s.toList = c :: cs ∧ isSpace c = false ∧ c ≠ Char.ofNat 0xFEFF
  value : ∀ (fuel : Nat) {after : List Char}, Text.Stops prolongs after →
    readValue (fuel + 1) (s.toList ++ after) = .ok (v, after)

/-- A text that begins with its value is read without more ado. -/
theorem read_front {cs : List Char}
    (front : ∃ c ds, cs = c :: ds ∧ isSpace c = false ∧ c ≠ Char.ofNat 0xFEFF) :
    read cs = (readValue (2 * cs.length + 2) cs).bind fun (v, rest) =>
      match skipSpace rest with
      | [] => .ok v
      | other => .error (.malformed .extraData other.length) := by
  obtain ⟨c, ds, shape, noSpace, noMark⟩ := front
  have noMarkInFront : cs.head? ≠ some (Char.ofNat 0xFEFF) := by simpa [shape] using noMark
  have noSpaceInFront : skipSpace cs = cs := by simp [shape, skipSpace, noSpace]
  rw [Json.read, if_neg noMarkInFront, noSpaceInFront]
  cases readValue (2 * cs.length + 2) cs with
  | error e => rfl
  | ok r => rfl

/-- What is read as a value before anything that does not prolong it is read as it alone. -/
theorem ReadsAs.read {s : String} {v : Value} (reads : ReadsAs s v) : read s.toList = .ok v := by
  have value := reads.value (2 * s.toList.length + 1) (Text.stops_nil prolongs)
  rw [List.append_nil] at value
  rw [read_front reads.front, value]
  rfl

theorem readsAs_word {word : String} {v : Value} (isWord : (word, v) ∈ words) : ReadsAs word v := by
  have fronts : ∀ w ∈ words, ∃ c cs, w.1.toList = c :: cs ∧ isSpace c = false ∧
      c ≠ Char.ofNat 0xFEFF ∧ c ≠ '"' ∧ c ≠ '\x7b' ∧ c ≠ '[' := by
    simp [words, isSpace]
  obtain ⟨c, cs, shape, noSpace, noMark, noQuote, noBrace, noBracket⟩ := fronts _ isWord
  refine ⟨⟨c, cs, shape, noSpace, noMark⟩, fun fuel after _ => ?_⟩
  have plain := readPlain_word isWord after
  rw [shape, List.cons_append] at plain ⊢
  rw [readValue_plain noQuote noBrace noBracket, plain]

/-- The front of a literal is that of nothing else. -/
theorem literal_front (l : NumberLiteral) : ∃ c cs, l.text = c :: cs ∧ isSpace c = false ∧
    c ≠ Char.ofNat 0xFEFF ∧ c ≠ '"' ∧ c ≠ '\x7b' ∧ c ≠ '[' := by
  obtain ⟨c, cs, shape, isFront⟩ := l.exists_head
  have differs {d : Char} (noMinus : d ≠ '-') (noDigit : Text.isDigit d = false) : c ≠ d := by
    rcases isFront with rfl | digit
    · exact noMinus.symm
    · exact Text.ne_of_isDigit digit noDigit
  have noSpace : isSpace c = false := by
    simp [isSpace, differs (d := ' ') (by decide) rfl, differs (d := '\t') (by decide) rfl,
      differs (d := '\n') (by decide) rfl, differs (d := '\r') (by decide) rfl]
  exact ⟨c, cs, shape, noSpace, differs (by decide) rfl, differs (by decide) rfl,
    differs (by decide) rfl, differs (by decide) rfl⟩

theorem readValue_literal {l : NumberLiteral} (plain : l.IsPlain) (fuel : Nat) {after : List Char}
    (stops : Text.Stops prolongs after) : readValue (fuel + 1) (l.text ++ after) =
      (numeralOf l).value.map fun n => (.number n, after) := by
  obtain ⟨c, cs, shape, -, -, noQuote, noBrace, noBracket⟩ := literal_front l
  have value := readPlain_text plain stops
  rw [shape, List.cons_append] at value ⊢
  rw [readValue_plain noQuote noBrace noBracket, value]

/-- A literal of a number is read as this number. -/
theorem readsAs_literal {l : NumberLiteral} (plain : l.IsPlain) {n : Number} {s : String}
    (denotes : l.value? = some n) (spelled : l.text = s.toList) : ReadsAs s (.number n) := by
  obtain ⟨c, cs, shape, noSpace, noMark, -⟩ := literal_front l
  rw [spelled] at shape
  refine ⟨⟨c, cs, shape, noSpace, noMark⟩, fun fuel after stops => ?_⟩
  rw [← spelled, readValue_literal plain fuel stops, value_numeralOf plain denotes]
  rfl

/-- The text of a binary64 number is read as it, also if it is not finite or is minus nought. -/
theorem readsAs_float (x : Binary64) : ReadsAs (floatText x) (.float x) := by
  cases x with
  | nan => exact readsAs_word (by simp [words, floatText])
  | infinite negative => cases negative <;> exact readsAs_word (by simp [words, floatText])
  | finite negative m e canonical =>
    obtain ⟨l, spelled, denotes, plain⟩ := @Binary64.exists_literal (.finite negative m e canonical) rfl
    exact readsAs_literal plain denotes spelled

/-- The literal of a text is read as this text. -/
theorem readsAs_textLiteral (s : String) : ReadsAs (textLiteral s) (.text s) := by
  have shape : (textLiteral s).toList = '"' :: (s.toList.flatMap escapeChar ++ ['"']) :=
    String.toList_ofList
  refine ⟨⟨_, _, shape, rfl, by decide⟩, fun fuel after _ => ?_⟩
  rw [shape, List.cons_append, List.append_assoc]
  show (readString (s.toList.flatMap escapeChar ++ '"' :: after)).map _ = _
  rw [readString_literal]
  simp only [Except.map, textOfPoints_points]

/-- A value without parts that is read back; an integer may not have too many digits. -/
def IsAtom : Value → Prop
  | .null => True
  | .bool _ => True
  | .number (.int n) => n.natAbs < 10 ^ digitLimit
  | .number (.float _) => True
  | .text _ => True
  | _ => False

/-- A value without parts is written as a text that is read as that value. -/
theorem IsAtom.readsAs {v : Value} (atom : IsAtom v) :
    ∃ s, printSorted? v = some s ∧ ReadsAs s v := by
  cases v with
  | null => exact ⟨_, rfl, readsAs_word (by simp [words])⟩
  | bool b => exact ⟨_, rfl, by cases b <;> exact readsAs_word (by simp [words, boolText])⟩
  | number n =>
    refine ⟨_, rfl, ?_⟩
    cases n with
    | int n =>
      exact readsAs_literal (NumberLiteral.ofInt_isPlain n) (NumberLiteral.ofInt_value? atom)
        (NumberLiteral.ofInt_text n)
    | float x => exact readsAs_float x
  | text s => exact ⟨_, rfl, readsAs_textLiteral s⟩
  | list items => cases atom
  | record entries => cases atom
  | date d => cases atom
  | dateTime t => cases atom
  | foreign => cases atom

end ServiceDiagram.Json
