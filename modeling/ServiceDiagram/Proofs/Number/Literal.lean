import ServiceDiagram.Json.Printer
import ServiceDiagram.Proofs.Number.Decimal
import ServiceDiagram.Proofs.Number.Digits

namespace ServiceDiagram

/-- An exponent as it is written; the sign is none, plus for false, or minus for true. -/
structure ExponentLiteral where
  mark : Char
  sign : Option Bool
  digits : List Char
  isMark : mark = 'e' ∨ mark = 'E'
  nonempty : digits ≠ []
  areDigits : ∀ d ∈ digits, Text.isDigit d = true

namespace ExponentLiteral

def signText : Option Bool → List Char
  | none => []
  | some negative => [if negative then '-' else '+']

def text (x : ExponentLiteral) : List Char := x.mark :: (signText x.sign ++ x.digits)

def negative (x : ExponentLiteral) : Bool := x.sign.getD false

def value (x : ExponentLiteral) : Int :=
  if x.negative then -(rowValue x.digits : Int) else rowValue x.digits

end ExponentLiteral

/-- A number as it is written; without digits after the point there is no point. -/
structure NumberLiteral where
  negative : Bool
  whole : List Char
  fraction : List Char
  exponent : Option ExponentLiteral
  nonempty : whole ≠ []
  wholeDigits : ∀ d ∈ whole, Text.isDigit d = true
  fractionDigits : ∀ d ∈ fraction, Text.isDigit d = true

namespace NumberLiteral

def fractionText (fraction : List Char) : List Char :=
  if fraction = [] then [] else '.' :: fraction

def exponentText (exponent : Option ExponentLiteral) : List Char :=
  (exponent.map ExponentLiteral.text).getD []

def signText (negative : Bool) : List Char := if negative then ['-'] else []

def text (l : NumberLiteral) : List Char :=
  signText l.negative ++ (l.whole ++ (fractionText l.fraction ++ exponentText l.exponent))

/-- Whether a literal is that of an integer. -/
def isWhole (l : NumberLiteral) : Bool := l.fraction.isEmpty && l.exponent.isNone

/-- The magnitude that a literal denotes. -/
def decimal (l : NumberLiteral) : Decimal :=
  ⟨rowValue (l.whole ++ l.fraction),
    (l.exponent.map ExponentLiteral.value).getD 0 - (l.fraction.length : Int)⟩

end NumberLiteral

/-- The number that a text denotes: an integer unless a point or an exponent mark is in it. -/
def numberOf? (cs : List Char) : Option Number :=
  if cs.any fun c => c == '.' || c == 'e' || c == 'E' then
    (Binary64.ofText? (String.ofList cs)).map .float
  else (readInt? (String.ofList cs)).map .int

namespace ExponentLiteral

theorem takeSign_digits {ds : List Char} (nonempty : ds ≠ [])
    (digits : ∀ d ∈ ds, Text.isDigit d = true) (after : List Char) :
    takeSign (ds ++ after) = (false, ds ++ after) := by
  cases ds with
  | nil => exact absurd rfl nonempty
  | cons d ds =>
    have digit := digits d (List.mem_cons_self ..)
    have notMinus : d ≠ '-' := Text.ne_of_isDigit digit rfl
    have notPlus : d ≠ '+' := Text.ne_of_isDigit digit rfl
    rw [List.cons_append]
    unfold takeSign
    split
    · rename_i same
      exact absurd (List.cons.inj same).1 notMinus
    · rename_i same
      exact absurd (List.cons.inj same).1 notPlus
    · rfl

theorem takeSign_text (x : ExponentLiteral) (after : List Char) :
    takeSign (signText x.sign ++ (x.digits ++ after)) = (x.negative, x.digits ++ after) := by
  unfold signText negative
  cases x.sign with
  | none => exact takeSign_digits x.nonempty x.areDigits after
  | some negative => cases negative <;> rfl

end ExponentLiteral

namespace NumberLiteral

theorem stops_exponentText {p : Char → Bool} (lower : p 'e' = false) (upper : p 'E' = false)
    (exponent : Option ExponentLiteral) : Text.Stops p (exponentText exponent) := by
  cases exponent with
  | none => exact Text.stops_nil p
  | some x =>
    refine Text.stops_cons.mpr ?_
    rcases x.isMark with mark | mark
    · rw [mark, lower]
    · rw [mark, upper]

theorem stops_fractionText {p : Char → Bool} (point : p '.' = false) {fraction after : List Char}
    (stops : Text.Stops p after) : Text.Stops p (fractionText fraction ++ after) := by
  unfold fractionText
  split
  · exact stops
  · exact Text.stops_cons.mpr point

/-- The text of a literal after its sign. -/
def body (l : NumberLiteral) : List Char :=
  l.whole ++ (fractionText l.fraction ++ exponentText l.exponent)

theorem text_eq (l : NumberLiteral) : l.text = signText l.negative ++ l.body := rfl

theorem body_head (l : NumberLiteral) : ∃ d rest, l.body = d :: rest ∧ Text.isDigit d = true := by
  cases shape : l.whole with
  | nil => exact absurd shape l.nonempty
  | cons d rest =>
    have digit : Text.isDigit d = true := l.wholeDigits d (by simp [shape])
    exact ⟨d, rest ++ (fractionText l.fraction ++ exponentText l.exponent),
      by rw [body, shape, List.cons_append], digit⟩

theorem exists_head (l : NumberLiteral) :
    ∃ c cs, l.text = c :: cs ∧ (c = '-' ∨ Text.isDigit c = true) := by
  rw [l.text_eq]
  cases l.negative with
  | true => exact ⟨'-', l.body, rfl, .inl rfl⟩
  | false =>
    obtain ⟨d, rest, shape, digit⟩ := l.body_head
    exact ⟨d, rest, shape, .inr digit⟩

/-- A text that a row of digits ends has a digit last. -/
theorem last_of_row {ds : List Char} (before : List Char) (nonempty : ds ≠ [])
    (digits : ∀ d ∈ ds, Text.isDigit d = true) :
    ∃ init d, before ++ ds = init ++ [d] ∧ Text.isDigit d = true := by
  refine ⟨before ++ ds.dropLast, ds.getLast nonempty, ?_, digits _ (List.getLast_mem nonempty)⟩
  rw [List.append_assoc, List.dropLast_append_getLast nonempty]

theorem body_last (l : NumberLiteral) :
    ∃ init d, l.body = init ++ [d] ∧ Text.isDigit d = true := by
  cases exponent : l.exponent with
  | some x =>
    obtain ⟨init, d, same, digit⟩ := last_of_row
      (l.whole ++ (fractionText l.fraction ++ x.mark :: ExponentLiteral.signText x.sign))
      x.nonempty x.areDigits
    refine ⟨init, d, ?_, digit⟩
    rw [← same, body, exponent]
    simp [exponentText, ExponentLiteral.text]
  | none =>
    by_cases noFraction : l.fraction = []
    · obtain ⟨init, d, same, digit⟩ := last_of_row [] l.nonempty l.wholeDigits
      refine ⟨init, d, ?_, digit⟩
      rw [← same, body, exponent, noFraction]
      simp [fractionText, exponentText]
    · obtain ⟨init, d, same, digit⟩ := last_of_row (l.whole ++ ['.']) noFraction l.fractionDigits
      refine ⟨init, d, ?_, digit⟩
      rw [← same, body, exponent]
      simp [fractionText, noFraction, exponentText]

theorem takeSign_text (l : NumberLiteral) : takeSign l.text = (l.negative, l.body) := by
  rw [text_eq]
  cases l.negative with
  | true => rfl
  | false => exact ExponentLiteral.takeSign_digits l.nonempty l.wholeDigits _

theorem stripNumber_text (l : NumberLiteral) : stripNumber l.text = l.text := by
  obtain ⟨d, rest, front, firstDigit⟩ := l.body_head
  obtain ⟨init, c, back, lastDigit⟩ := l.body_last
  refine stripNumber_eq ?_ ?_
  · rw [text_eq, front]
    cases l.negative with
    | true => exact Text.stops_cons.mpr rfl
    | false => exact Text.stops_cons.mpr (not_isNumberBlank_of_isDigit firstDigit)
  · rw [text_eq, back, ← List.append_assoc, List.reverse_append]
    exact Text.stops_cons.mpr (not_isNumberBlank_of_isDigit lastDigit)

/-- A point or an exponent mark tells the literals of binary64 numbers from those of integers. -/
theorem any_mark (l : NumberLiteral) :
    (l.text.any fun c => c == '.' || c == 'e' || c == 'E') = !l.isWhole := by
  have row {ds : List Char} (digits : ∀ d ∈ ds, Text.isDigit d = true) :
      (ds.any fun c => c == '.' || c == 'e' || c == 'E') = false := by
    refine List.any_eq_false.mpr fun d member => ?_
    have digit := digits d member
    have notPoint : d ≠ '.' := Text.ne_of_isDigit digit rfl
    have notLower : d ≠ 'e' := Text.ne_of_isDigit digit rfl
    have notUpper : d ≠ 'E' := Text.ne_of_isDigit digit rfl
    simp [notPoint, notLower, notUpper]
  have sign : ((signText l.negative).any fun c => c == '.' || c == 'e' || c == 'E') = false := by
    cases l.negative <;> rfl
  have fraction : ((fractionText l.fraction).any fun c => c == '.' || c == 'e' || c == 'E') =
      !l.fraction.isEmpty := by
    cases l.fraction <;> rfl
  have exponent : ((exponentText l.exponent).any fun c => c == '.' || c == 'e' || c == 'E') =
      !l.exponent.isNone := by
    cases l.exponent with
    | none => rfl
    | some x => rcases x.isMark with mark | mark <;> simp [exponentText, ExponentLiteral.text, mark]
  simp only [text, List.any_append, sign, row l.wholeDigits, fraction, exponent, isWhole,
    Bool.false_or, Bool.not_and]

/-- The digits before the point are taken first. -/
theorem takeDigits_body (l : NumberLiteral) :
    takeDigits Text.digitValue? false l.body =
      (l.whole.map Text.digitOf, fractionText l.fraction ++ exponentText l.exponent) :=
  takeDigits_row false l.wholeDigits
    (stops_fractionText rfl (stops_exponentText rfl rfl _))
    (stops_fractionText rfl (stops_exponentText rfl rfl _))

theorem takeDigits_fraction (l : NumberLiteral) :
    takeDigits Text.digitValue? false (l.fraction ++ exponentText l.exponent) =
      (l.fraction.map Text.digitOf, exponentText l.exponent) :=
  takeDigits_row false l.fractionDigits (stops_exponentText rfl rfl _)
    (stops_exponentText rfl rfl _)

/-- An exponent is read with its sign; none is nought. -/
theorem takeExponent?_text (exponent : Option ExponentLiteral) :
    Binary64.takeExponent? (exponentText exponent) =
      some ((exponent.map ExponentLiteral.value).getD 0, []) := by
  cases exponent with
  | none => rfl
  | some x =>
    have digits : takeDigits Text.digitValue? false x.digits = (x.digits.map Text.digitOf, []) := by
      have read := takeDigits_row false x.areDigits (Text.stops_nil _) (Text.stops_nil _)
      rwa [List.append_nil] at read
    have sign := x.takeSign_text []
    rw [List.append_nil] at sign
    simp only [exponentText, Option.map_some, Option.getD_some, ExponentLiteral.text,
      Binary64.takeExponent?, x.isMark, if_true, sign, digits, List.isEmpty_map,
      List.isEmpty_iff, x.nonempty, if_false]
    rfl

/-- A literal after its sign is read as the binary64 number nearest to its decimal. -/
theorem ofDigits?_body (l : NumberLiteral) :
    Binary64.ofDigits? l.negative l.body = some (l.decimal.toBinary64 l.negative) := by
  have whole : (l.whole.map Text.digitOf).isEmpty = false := by
    rw [List.isEmpty_map]
    exact List.isEmpty_eq_false_iff.mpr l.nonempty
  have exponent := takeExponent?_text l.exponent
  have fraction := l.takeDigits_fraction
  simp only [Binary64.ofDigits?, l.takeDigits_body, whole, Bool.false_and, Bool.false_eq_true,
    if_false]
  cases shape : l.fraction with
  | cons d ds =>
    rw [shape] at fraction
    simp only [fractionText, reduceCtorEq, if_false, List.cons_append] at fraction ⊢
    simp only [fraction, exponent, decimal, shape, rowValue, List.map_append, List.length_map]
  | nil =>
    have noPoint : ∀ rest, exponentText l.exponent ≠ '.' :: rest := by
      intro rest point
      have stops : Text.Stops (· == '.') (exponentText l.exponent) :=
        stops_exponentText rfl rfl _
      rw [point] at stops
      exact Bool.noConfusion (Text.stops_cons.mp stops)
    simp only [fractionText, if_true, List.nil_append, exponent, decimal, shape, rowValue,
      List.append_nil, List.length_nil]

theorem lowered_head (l : NumberLiteral) {c : Char} {cs : List Char}
    (same : l.body.map Char.toLower = c :: cs) : Text.isDigit c = true := by
  obtain ⟨d, rest, shape, digit⟩ := l.body_head
  rw [shape, List.map_cons, Text.toLower_of_isDigit digit] at same
  rw [← (List.cons.inj same).1]
  exact digit

/-- No literal is one of the words for numbers. -/
theorem not_word (l : NumberLiteral) {c : Char} (cs : List Char)
    (noDigit : Text.isDigit c = false) :
    String.ofList (l.body.map Char.toLower) ≠ String.ofList (c :: cs) := by
  intro same
  have digit := l.lowered_head (String.ofList_injective same)
  rw [digit] at noDigit
  cases noDigit

/-- A literal is read as the binary64 number nearest to its decimal. -/
theorem ofText?_text (l : NumberLiteral) :
    Binary64.ofText? (String.ofList l.text) = some (l.decimal.toBinary64 l.negative) := by
  have notNan : String.ofList (l.body.map Char.toLower) ≠ "nan" :=
    l.not_word ['a', 'n'] rfl
  have notInf : String.ofList (l.body.map Char.toLower) ≠ "inf" :=
    l.not_word ['n', 'f'] rfl
  have notInfinity : String.ofList (l.body.map Char.toLower) ≠ "infinity" :=
    l.not_word ['n', 'f', 'i', 'n', 'i', 't', 'y'] rfl
  simp only [Binary64.ofText?, String.toList_ofList, l.stripNumber_text, l.takeSign_text, notNan,
    notInf, notInfinity, or_self, if_false, l.ofDigits?_body]

/-- A literal without point and exponent is read as its integer, up to the limit on digits. -/
theorem readInt?_text {l : NumberLiteral} (whole : l.isWhole = true) :
    readInt? (String.ofList l.text) =
      if digitLimit < l.whole.length then none
      else some (if l.negative then -(rowValue l.whole : Int) else rowValue l.whole) := by
  obtain ⟨noFraction, noExponent⟩ : l.fraction = [] ∧ l.exponent = none := by
    simpa [isWhole] using whole
  have digits := l.takeDigits_body
  rw [noFraction, noExponent] at digits
  simp only [readInt?, String.toList_ofList, l.stripNumber_text, l.takeSign_text, digits]
  have nonempty := l.nonempty
  cases shape : l.whole with
  | nil => exact absurd shape nonempty
  | cons d ds => simp [fractionText, exponentText, rowValue]

/-- What a literal denotes. An integer may not have too many digits. -/
def value? (l : NumberLiteral) : Option Number :=
  if l.isWhole then
    if digitLimit < l.whole.length then none
    else some (.int (if l.negative then -(rowValue l.whole : Int) else rowValue l.whole))
  else some (.float (l.decimal.toBinary64 l.negative))

/-- A literal without a value has too many digits before its point. -/
theorem limit_lt_of_value? {l : NumberLiteral} (unread : l.value? = none) :
    digitLimit < l.whole.length := by
  unfold value? at unread
  split at unread
  · split at unread
    · rename_i long
      exact long
    · cases unread
  · cases unread

theorem whole_infix (l : NumberLiteral) : l.whole <:+: l.text :=
  List.infix_append' (signText l.negative) l.whole _

/-- Any reader of numbers gives a literal its value. -/
theorem numberOf?_text (l : NumberLiteral) : numberOf? l.text = l.value? := by
  unfold numberOf? value?
  rw [any_mark, ofText?_text]
  cases whole : l.isWhole with
  | false => rfl
  | true =>
    rw [readInt?_text whole]
    simp only [Bool.not_true, Bool.false_eq_true, if_false, if_true]
    split <;> rfl

end NumberLiteral
end ServiceDiagram
