import ServiceDiagram.Proofs.Rule.Grammar

namespace ServiceDiagram.Rule.Reader

/-- A name is taken off up to its end. -/
theorem takeName?_text (n : NameTree) {after : List Char} (stops : Text.Stops Text.isWord after) :
    takeName? (n.text ++ after) = some (n.text, after) := by
  have split := Text.span_run n.areWords stops
  simp only [NameTree.text, List.cons_append, takeName?, n.isFirst, if_true, split]

/-- What is taken off as a name is one. -/
theorem exists_of_takeName? {cs name after : List Char}
    (taken : takeName? cs = some (name, after)) :
    ∃ n : NameTree, n.text = name ∧ cs = name ++ after := by
  cases cs with
  | nil => cases taken
  | cons c rest =>
    simp only [takeName?] at taken
    split at taken
    · rename_i isFirst
      cases taken
      obtain ⟨same, words, -⟩ := Text.span_spec (rfl : rest.span Text.isWord = _)
      exact ⟨⟨c, _, isFirst, words⟩, rfl, congrArg (c :: ·) same⟩
    · cases taken

/-- A body is taken off up to the quote that ends it. -/
theorem untilQuote?_enclosed {quote : Char} {body : List Char} (noEscape : quote ≠ '\\')
    (enclosed : Enclosed quote body) (after : List Char) :
    untilQuote? quote (body ++ quote :: after) = some (body, after) := by
  induction enclosed with
  | nil =>
    rw [List.nil_append, untilQuote?.eq_def]
    simp [noEscape]
  | escape _ ih => simp [untilQuote?, ih]
  | plain noSlash noQuote _ ih =>
    rw [List.cons_append, untilQuote?.eq_def]
    simp [noSlash, noQuote, ih]

/-- What is taken off before a quote has no quote that ends it earlier. -/
theorem enclosed_of_untilQuote? {quote : Char} {cs body after : List Char}
    (found : untilQuote? quote cs = some (body, after)) :
    Enclosed quote body ∧ cs = body ++ quote :: after := by
  fun_induction untilQuote? quote cs generalizing body with
  | case1 => cases found
  | case2 => cases found
  | case3 d more ih =>
    obtain ⟨⟨inner, rest⟩, later, same⟩ := Option.map_eq_some_iff.mp found
    cases same
    obtain ⟨enclosed, split⟩ := ih later
    exact ⟨enclosed.escape, by rw [split]; rfl⟩
  | case4 =>
    cases found
    exact ⟨.nil, rfl⟩
  | case5 c rest noSlash noQuote ih =>
    obtain ⟨⟨inner, rest⟩, later, same⟩ := Option.map_eq_some_iff.mp found
    cases same
    obtain ⟨enclosed, split⟩ := ih later
    exact ⟨enclosed.plain noSlash noQuote, by rw [split]; rfl⟩

theorem takeFlags_letter {c : Char} (letter : isFlagLetter c = true) (rest : List Char) :
    takeFlags (c :: rest) =
      (((Pattern.Flag.ofLetter? c).map (takeFlags rest).1.add).getD (takeFlags rest).1,
        (takeFlags rest).2) := by
  have cases : (c = 'i' ∨ c = 'm') ∨ c = 's' := by simpa [isFlagLetter] using letter
  rcases cases with (rfl | rfl) | rfl <;> rfl

theorem takeFlags_stops {cs : List Char} (stops : Text.Stops isFlagLetter cs) :
    takeFlags cs = ([], cs) := by
  cases cs with
  | nil => rfl
  | cons c rest =>
    have other : (c ≠ 'i' ∧ c ≠ 'm') ∧ c ≠ 's' := by
      simpa [isFlagLetter] using Text.stops_cons.mp stops
    unfold takeFlags
    split <;> simp_all

/-- Flags are taken off up to their end. -/
theorem takeFlags_text {flags after : List Char} (areFlags : ∀ c ∈ flags, isFlagLetter c = true)
    (stops : Text.Stops isFlagLetter after) :
    takeFlags (flags ++ after) = (flagsOf flags, after) := by
  induction flags with
  | nil => exact takeFlags_stops stops
  | cons c flags ih =>
    have later := ih fun d member => areFlags d (List.mem_cons_of_mem _ member)
    rw [List.cons_append, takeFlags_letter (areFlags c (List.mem_cons_self ..)), later]
    rfl

/-- What is taken off as flags are letters of flags. -/
theorem takeFlags_spec (cs : List Char) :
    ∃ flags, (∀ c ∈ flags, isFlagLetter c = true) ∧ (takeFlags cs).1 = flagsOf flags ∧
      cs = flags ++ (takeFlags cs).2 := by
  induction cs with
  | nil => exact ⟨[], by simp, rfl, rfl⟩
  | cons c rest ih =>
    cases letter : isFlagLetter c with
    | false =>
      rw [takeFlags_stops (Text.stops_cons.mpr letter)]
      exact ⟨[], by simp, rfl, rfl⟩
    | true =>
      obtain ⟨flags, areFlags, stand, split⟩ := ih
      rw [takeFlags_letter letter]
      refine ⟨c :: flags, ?_, ?_, ?_⟩
      · intro d member
        rcases List.mem_cons.mp member with rfl | later
        · exact letter
        · exact areFlags d later
      · rw [stand]
        rfl
      · rw [List.cons_append, ← split]

/-- The parts of a number literal. -/
def numeralOf (l : NumberLiteral) : Numeral :=
  ⟨l.negative, l.whole, l.fraction, l.exponent.map fun x => (x.negative, x.digits)⟩

/-- Whether a character can prolong a number literal. -/
def isNumeralPart (c : Char) : Bool := Text.isDigit c || c == '.' || c == 'e' || c == 'E'

theorem takeFraction_text {fraction after : List Char}
    (digits : ∀ d ∈ fraction, Text.isDigit d = true) (noPoint : Text.Stops (· == '.') after)
    (stops : Text.Stops Text.isDigit after) :
    takeFraction (NumberLiteral.fractionText fraction ++ after) = (fraction, after) := by
  unfold NumberLiteral.fractionText
  split
  · rename_i empty
    rw [empty, List.nil_append]
    unfold takeFraction
    split
    · exact absurd (Text.stops_cons.mp noPoint) (by simp)
    · rfl
  · rename_i nonempty
    simp only [List.cons_append, takeFraction, Text.span_run digits stops, List.isEmpty_iff,
      nonempty, if_false]

theorem exists_of_takeFraction (cs : List Char) :
    (∀ d ∈ (takeFraction cs).1, Text.isDigit d = true) ∧
      cs = NumberLiteral.fractionText (takeFraction cs).1 ++ (takeFraction cs).2 := by
  unfold takeFraction
  split
  · rename_i rest
    obtain ⟨same, digits, -⟩ := Text.span_spec (rfl : rest.span Text.isDigit = _)
    dsimp only
    split
    · exact ⟨by simp, by simp [NumberLiteral.fractionText]⟩
    · rename_i nonempty
      refine ⟨digits, ?_⟩
      rw [NumberLiteral.fractionText, if_neg (List.isEmpty_iff.not.mp nonempty), List.cons_append]
      exact congrArg ('.' :: ·) same
  · exact ⟨by simp, by simp [NumberLiteral.fractionText]⟩

theorem takeExponent_text {exponent : Option ExponentLiteral} {after : List Char}
    (noMark : Text.Stops (fun c => c == 'e' || c == 'E') after)
    (stops : Text.Stops Text.isDigit after) :
    takeExponent (NumberLiteral.exponentText exponent ++ after) =
      (exponent.map fun x => (x.negative, x.digits), after) := by
  cases exponent with
  | none =>
    cases after with
    | nil => rfl
    | cons c after =>
      have other : c ≠ 'e' ∧ c ≠ 'E' := by simpa using noMark
      simp [NumberLiteral.exponentText, takeExponent, other]
  | some x =>
    simp only [NumberLiteral.exponentText, Option.map_some, Option.getD_some, ExponentLiteral.text,
      List.cons_append, List.append_assoc, takeExponent, x.isMark, if_true, x.takeSign_text,
      Text.span_run x.areDigits stops, List.isEmpty_iff, x.nonempty, if_false]

theorem exists_of_takeSign (cs : List Char) :
    ∃ sign : Option Bool, sign.getD false = (takeSign cs).1 ∧
      cs = ExponentLiteral.signText sign ++ (takeSign cs).2 := by
  unfold takeSign
  split
  · exact ⟨some true, rfl, rfl⟩
  · exact ⟨some false, rfl, rfl⟩
  · exact ⟨none, rfl, rfl⟩

theorem exists_of_takeExponent (cs : List Char) :
    ∃ exponent : Option ExponentLiteral,
      (takeExponent cs).1 = exponent.map (fun x => (x.negative, x.digits)) ∧
      cs = NumberLiteral.exponentText exponent ++ (takeExponent cs).2 := by
  cases cs with
  | nil => exact ⟨none, rfl, rfl⟩
  | cons c rest =>
    by_cases isMark : c = 'e' ∨ c = 'E'
    · obtain ⟨sign, negative, split⟩ := exists_of_takeSign rest
      rcases taken : (takeSign rest).2.span Text.isDigit with ⟨ds, after⟩
      obtain ⟨same, digits, -⟩ := Text.span_spec taken
      by_cases empty : ds = []
      · exact ⟨none, by simp only [takeExponent, isMark, if_true, taken, empty]; rfl,
          by simp only [takeExponent, isMark, if_true, taken, empty]; rfl⟩
      · refine ⟨some ⟨c, sign, ds, isMark, empty, digits⟩, ?_, ?_⟩
        · simp only [takeExponent, isMark, if_true, taken, List.isEmpty_iff, empty, if_false,
            Option.map_some, ExponentLiteral.negative, negative]
        · simp only [takeExponent, isMark, if_true, taken, List.isEmpty_iff, empty, if_false,
            NumberLiteral.exponentText, Option.map_some, Option.getD_some, ExponentLiteral.text,
            List.cons_append, List.append_assoc]
          rw [← same, ← split]
    · exact ⟨none, by simp [takeExponent, isMark],
        by simp [takeExponent, isMark, NumberLiteral.exponentText]⟩

/-- Reads the text of a number after its sign. -/
def takeUnsigned? (negative : Bool) (body : List Char) : Option (Numeral × List Char) :=
  let (whole, rest) := body.span Text.isDigit
  if whole.isEmpty then none
  else
    let (fraction, rest) := takeFraction rest
    let (exponent, rest) := takeExponent rest
    some (⟨negative, whole, fraction, exponent⟩, rest)

theorem takeNumeral?_minus (body : List Char) :
    takeNumeral? ('-' :: body) = takeUnsigned? true body := rfl

theorem takeNumeral?_plain {cs : List Char} (noMinus : Text.Stops (· == '-') cs) :
    takeNumeral? cs = takeUnsigned? false cs := by
  cases cs with
  | nil => rfl
  | cons c rest =>
    have other : c ≠ '-' := by simpa using noMinus
    simp [takeNumeral?, takeUnsigned?, other]

theorem takeUnsigned?_body (l : NumberLiteral) {after : List Char}
    (stops : Text.Stops isNumeralPart after) :
    takeUnsigned? l.negative (l.body ++ after) = some (numeralOf l, after) := by
  have noDigit : Text.Stops Text.isDigit after :=
    stops.mono (by simp +contextual [isNumeralPart])
  have noPoint : Text.Stops (· == '.') after :=
    stops.mono (by simp [isNumeralPart])
  have noMark : Text.Stops (fun c => c == 'e' || c == 'E') after :=
    stops.mono (by simp +contextual [isNumeralPart, or_imp])
  have beyondExponent : Text.Stops Text.isDigit (NumberLiteral.exponentText l.exponent ++ after) :=
    (NumberLiteral.stops_exponentText rfl rfl _).append fun _ => noDigit
  have exponentNoPoint : Text.Stops (· == '.') (NumberLiteral.exponentText l.exponent ++ after) :=
    (NumberLiteral.stops_exponentText rfl rfl _).append fun _ => noPoint
  have beyondWhole : Text.Stops Text.isDigit (NumberLiteral.fractionText l.fraction ++
      (NumberLiteral.exponentText l.exponent ++ after)) :=
    NumberLiteral.stops_fractionText rfl beyondExponent
  rw [NumberLiteral.body, List.append_assoc, List.append_assoc]
  simp only [takeUnsigned?, Text.span_run l.wholeDigits beyondWhole, List.isEmpty_iff, l.nonempty,
    if_false, takeFraction_text l.fractionDigits exponentNoPoint beyondExponent,
    takeExponent_text noMark noDigit]
  rfl

/-- A numeral is taken off up to its end. -/
theorem takeNumeral?_text (l : NumberLiteral) {after : List Char}
    (stops : Text.Stops isNumeralPart after) :
    takeNumeral? (l.text ++ after) = some (numeralOf l, after) := by
  have unsigned := takeUnsigned?_body l stops
  rw [l.text_eq]
  cases negative : l.negative with
  | true =>
    rw [negative] at unsigned
    exact unsigned
  | false =>
    obtain ⟨d, rest, shape, digit⟩ := l.body_head
    have noMinus : Text.Stops (· == '-') (l.body ++ after) := by
      rw [shape]
      exact Text.stops_cons.mpr (beq_eq_false_iff_ne.mpr (Text.ne_of_isDigit digit rfl))
    rw [negative] at unsigned
    exact (takeNumeral?_plain noMinus).trans unsigned

theorem exists_of_takeUnsigned? {negative : Bool} {body after : List Char} {x : Numeral}
    (taken : takeUnsigned? negative body = some (x, after)) :
    ∃ l : NumberLiteral, numeralOf l = x ∧ l.negative = negative ∧ body = l.body ++ after := by
  rcases row : body.span Text.isDigit with ⟨whole, rest⟩
  obtain ⟨same, digits, -⟩ := Text.span_spec row
  obtain ⟨fractionDigits, beyondPoint⟩ := exists_of_takeFraction rest
  obtain ⟨exponent, parts, beyondMark⟩ := exists_of_takeExponent (takeFraction rest).2
  simp only [takeUnsigned?, row, List.isEmpty_iff] at taken
  split at taken
  · cases taken
  · rename_i nonempty
    cases taken
    refine ⟨⟨negative, whole, _, exponent, nonempty, digits, fractionDigits⟩, ?_, rfl, ?_⟩
    · rw [numeralOf, parts]
    · rw [NumberLiteral.body, List.append_assoc, List.append_assoc, ← beyondMark, ← beyondPoint]
      exact same

/-- What is taken off as a numeral is the text of a literal. -/
theorem exists_of_takeNumeral? {cs after : List Char} {x : Numeral}
    (taken : takeNumeral? cs = some (x, after)) :
    ∃ l : NumberLiteral, numeralOf l = x ∧ cs = l.text ++ after := by
  by_cases noMinus : Text.Stops (· == '-') cs
  · rw [takeNumeral?_plain noMinus] at taken
    obtain ⟨l, parts, negative, split⟩ := exists_of_takeUnsigned? taken
    exact ⟨l, parts, by rw [l.text_eq, negative, split]; rfl⟩
  · cases cs with
    | nil => exact absurd (Text.stops_nil _) noMinus
    | cons c body =>
      obtain rfl : c = '-' := by simpa using noMinus
      rw [takeNumeral?_minus] at taken
      obtain ⟨l, parts, negative, split⟩ := exists_of_takeUnsigned? taken
      exact ⟨l, parts, by rw [l.text_eq, negative, split]; rfl⟩

/-- What a numeral denotes is what the literal does. -/
theorem value_numeralOf (l : NumberLiteral) :
    (numeralOf l).value =
      match l.value? with
      | some n => .ok n
      | none => .error (.tooManyDigits l.whole.length) := by
  have same : digitsValue = rowValue := rfl
  unfold Numeral.value numeralOf NumberLiteral.value? NumberLiteral.isWhole NumberLiteral.decimal
  rw [same]
  cases l.fraction with
  | nil =>
    cases l.exponent with
    | none =>
      simp
      split <;> rfl
    | some x => simp [ExponentLiteral.value]
  | cons d ds =>
    cases l.exponent with
    | none => simp
    | some x => simp [ExponentLiteral.value]

end ServiceDiagram.Rule.Reader
