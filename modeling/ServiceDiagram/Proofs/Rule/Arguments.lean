import Mathlib.Data.List.Infix
import ServiceDiagram.Proofs.Rule.Tokens

namespace ServiceDiagram.Rule

open Reader

/-- A pattern with its flags that is no pattern for a given reason stands in a text. -/
def HoldsPatternFault (cs : List Char) (fault : Pattern.Fault) : Prop :=
  ∃ body flags, '/' :: (body ++ '/' :: flags) <:+: cs ∧ Enclosed '/' body ∧
    (∀ c ∈ flags, isFlagLetter c = true) ∧ Pattern.compile body (flagsOf flags) = .error fault

/-- A row of a number of digits that is more than a number may have stands in a text. -/
def HoldsLongRow (cs : List Char) (digits : Nat) : Prop :=
  ∃ row, row <:+: cs ∧ (∀ d ∈ row, Text.isDigit d = true) ∧ row.length = digits ∧
    digitLimit < digits

/-- The cause of a fault that is not one of the rule stands in its text. -/
def Reader.ArgFault.StandsIn (cs : List Char) : ArgFault → Prop
  | .rule _ => True
  | .tooManyDigits digits => HoldsLongRow cs digits
  | .patternCountTooLarge => HoldsPatternFault cs .countTooLarge
  | .patternFlags => HoldsPatternFault cs .contradictoryFlags

theorem Reader.ArgFault.StandsIn.mono {cs ds : List Char} {fault : ArgFault}
    (stands : fault.StandsIn cs) (within : cs <:+: ds) : fault.StandsIn ds := by
  cases fault with
  | rule => trivial
  | tooManyDigits =>
    obtain ⟨row, part, rest⟩ := stands
    exact ⟨row, part.trans within, rest⟩
  | patternCountTooLarge =>
    obtain ⟨body, flags, part, rest⟩ := stands
    exact ⟨body, flags, part.trans within, rest⟩
  | patternFlags =>
    obtain ⟨body, flags, part, rest⟩ := stands
    exact ⟨body, flags, part.trans within, rest⟩

/-- A reader's result is a tree's value and what follows its text, or a fault that the text
shows. -/
def Reads {α β : Type} (text : α → List Char) (value : α → β) (cs : List Char) :
    Except ArgFault (β × List Char) → Prop
  | .ok (b, after) => ∃ a, value a = b ∧ cs = text a ++ after
  | .error fault => fault.StandsIn cs

/-- Whether a character may follow an argument. -/
def isDelimiter (c : Char) : Bool := Text.isBlank c || c == ',' || c == ')'

theorem not_isDelimiter_of_isDigit {c : Char} (digit : Text.isDigit c = true) :
    isDelimiter c = false := by
  have notComma : c ≠ ',' := Text.ne_of_isDigit digit rfl
  have notParenthesis : c ≠ ')' := Text.ne_of_isDigit digit rfl
  simp [isDelimiter, Text.not_isBlank_of_isDigit digit, notComma, notParenthesis]

theorem not_isDelimiter_of_isNumeralPart {c : Char} (part : isNumeralPart c = true) :
    isDelimiter c = false := by
  have parts : ((Text.isDigit c = true ∨ c = '.') ∨ c = 'e') ∨ c = 'E' := by
    simpa [isNumeralPart] using part
  rcases parts with ((digit | rfl) | rfl) | rfl
  · exact not_isDelimiter_of_isDigit digit
  · rfl
  · rfl
  · rfl

theorem not_isDelimiter_of_isFlagLetter {c : Char} (letter : isFlagLetter c = true) :
    isDelimiter c = false := by
  have letters : (c = 'i' ∨ c = 'm') ∨ c = 's' := by simpa [isFlagLetter] using letter
  rcases letters with (rfl | rfl) | rfl <;> rfl

/-- The text goes on with a delimiter if it goes on. -/
def Delimited (cs : List Char) : Prop := Text.Stops (fun c => !isDelimiter c) cs

/-- Nothing prolongs a token before a delimiter. -/
theorem Delimited.stops {p : Char → Bool} {cs : List Char} (delimited : Delimited cs)
    (apart : ∀ c, p c = true → isDelimiter c = false) : Text.Stops p cs := by
  refine Text.Stops.mono ?_ delimited
  intro c within
  rw [apart c within]
  rfl

/-- The text of an argument begins with a character that is no delimiter. -/
theorem ArgTree.exists_head (a : ArgTree) : ∃ c cs, a.text = c :: cs ∧ isDelimiter c = false := by
  cases a with
  | number text n spelled denotes =>
    obtain ⟨l, rfl⟩ := spelled
    obtain ⟨c, cs, shape, minus | digit⟩ := l.exists_head
    · exact ⟨c, cs, shape, minus ▸ rfl⟩
    · exact ⟨c, cs, shape, not_isDelimiter_of_isDigit digit⟩
  | truth b => cases b <;> exact ⟨_, _, rfl, rfl⟩
  | quoted quote body value isQuote =>
    rcases isQuote with rfl | rfl <;> exact ⟨_, _, rfl, rfl⟩
  | pattern => exact ⟨_, _, rfl, rfl⟩

/-- A text between quotes is read as what its body denotes. -/
theorem readText_quoted {quote : Char} {body : List Char} {value : List Nat}
    (isQuote : quote = '\'' ∨ quote = '"') (enclosed : Enclosed quote body)
    (denotes : Json.unquote? (jsonBody quote body) = some value)
    (offset : Nat) (after : List Char) :
    readText quote offset (body ++ quote :: after) = .ok (.text value, after) := by
  have noEscape : quote ≠ '\\' := by
    rcases isQuote with rfl | rfl <;> decide
  unfold jsonBody at denotes
  simp only [readText, untilQuote?_enclosed noEscape enclosed, denotes]

/-- A pattern between slashes is read as what it compiles to with its flags. -/
theorem readPattern_pattern {body flags : List Char} {p : Pattern} (enclosed : Enclosed '/' body)
    (areFlags : ∀ c ∈ flags, isFlagLetter c = true)
    (compiles : Pattern.compile body (flagsOf flags) = .ok p) (offset : Nat) {after : List Char}
    (delimited : Delimited after) :
    readPattern offset (body ++ '/' :: (flags ++ after)) = .ok (.pattern p, after) := by
  have noEscape : '/' ≠ '\\' := by decide
  have stops : Text.Stops isFlagLetter after :=
    delimited.stops fun _ => not_isDelimiter_of_isFlagLetter
  simp only [readPattern, untilQuote?_enclosed noEscape enclosed, takeFlags_text areFlags stops,
    compiles]

/-- Reads an argument that no quote and no slash begins. -/
def readPlain (offset : Nat) (cs : List Char) : Except ArgFault (RuleArg × List Char) :=
  if "true".toList.isPrefixOf cs then .ok (.bool true, cs.drop 4)
  else if "false".toList.isPrefixOf cs then .ok (.bool false, cs.drop 5)
  else
    match takeNumeral? cs with
    | some (x, rest) => x.value.map fun n => (.number n, rest)
    | none => .error (.rule (.unreadable offset))

theorem readArg_plain {c : Char} (notApostrophe : c ≠ '\'') (notQuote : c ≠ '"') (notSlash : c ≠ '/')
    (offset : Nat) (cs : List Char) : readArg offset (c :: cs) = readPlain offset (c :: cs) := by
  unfold readArg
  split
  · rename_i same
    exact absurd (List.cons.inj same).1 notApostrophe
  · rename_i same
    exact absurd (List.cons.inj same).1 notQuote
  · rename_i same
    exact absurd (List.cons.inj same).1 notSlash
  · rfl

theorem readArg_literal (l : NumberLiteral) (offset : Nat) (after : List Char) :
    readArg offset (l.text ++ after) = readPlain offset (l.text ++ after) := by
  obtain ⟨c, cs, shape, head⟩ := l.exists_head
  have other {d : Char} (notMinus : d ≠ '-') (noDigit : Text.isDigit d = false) : c ≠ d := by
    rcases head with rfl | digit
    · exact notMinus.symm
    · exact Text.ne_of_isDigit digit noDigit
  rw [shape]
  exact readArg_plain (other nofun rfl) (other nofun rfl)
    (other nofun rfl) offset (cs ++ after)

theorem readPlain_numeral (l : NumberLiteral) (offset : Nat) {after : List Char}
    (delimited : Delimited after) :
    readPlain offset (l.text ++ after) = (numeralOf l).value.map fun n => (.number n, after) := by
  have stops : Text.Stops isNumeralPart after :=
    delimited.stops fun _ => not_isDelimiter_of_isNumeralPart
  have noWord (d : Char) (word : List Char) (notMinus : d ≠ '-') (noDigit : Text.isDigit d = false) :
      (d :: word).isPrefixOf (l.text ++ after) = false := by
    obtain ⟨c, cs, shape, head⟩ := l.exists_head
    have other : d ≠ c := by
      rcases head with rfl | digit
      · exact notMinus
      · exact (Text.ne_of_isDigit digit noDigit).symm
    rw [shape, List.cons_append, List.isPrefixOf_cons_cons, beq_false_of_ne other, Bool.false_and]
  have noTrue : "true".toList.isPrefixOf (l.text ++ after) = false :=
    noWord 't' ['r', 'u', 'e'] nofun rfl
  have noFalse : "false".toList.isPrefixOf (l.text ++ after) = false :=
    noWord 'f' ['a', 'l', 's', 'e'] nofun rfl
  simp only [readPlain, noTrue, noFalse, Bool.false_eq_true, if_false, takeNumeral?_text l stops]

/-- A literal that a delimiter follows is read as its number. -/
theorem readPlain_literal (l : NumberLiteral) {n : Number} (denotes : numberOf? l.text = some n)
    (offset : Nat) {after : List Char} (delimited : Delimited after) :
    readPlain offset (l.text ++ after) = .ok (.number n, after) := by
  rw [l.numberOf?_text] at denotes
  rw [readPlain_numeral l offset delimited, value_numeralOf, denotes]
  rfl

/-- Every argument of the grammar is read back from its text. -/
theorem readArg_text (a : ArgTree) (offset : Nat) {after : List Char}
    (delimited : Delimited after) : readArg offset (a.text ++ after) = .ok (a.value, after) := by
  cases a with
  | number text n spelled denotes =>
    obtain ⟨l, rfl⟩ := spelled
    exact (readArg_literal l offset after).trans (readPlain_literal l denotes offset delimited)
  | truth b => cases b <;> rfl
  | quoted quote body value isQuote enclosed denotes =>
    have read := readText_quoted isQuote enclosed denotes offset after
    rw [ArgTree.text, List.cons_append, List.append_assoc]
    rcases isQuote with rfl | rfl <;> exact read
  | pattern body flags p enclosed areFlags compiles =>
    have read := readPattern_pattern enclosed areFlags compiles offset delimited
    rw [ArgTree.text, List.cons_append, List.append_assoc]
    exact read

/-- What is read between quotes is an argument of the grammar, and so is a failure where none
stands. -/
theorem readText_spec {quote : Char} (isQuote : quote = '\'' ∨ quote = '"') (offset : Nat)
    (rest : List Char) :
    Reads ArgTree.text ArgTree.value (quote :: rest) (readText quote offset rest) := by
  unfold readText
  split
  · trivial
  · rename_i body after found
    obtain ⟨enclosed, split⟩ := enclosed_of_untilQuote? found
    split
    · rename_i value denotes
      exact ⟨.quoted quote body value isQuote enclosed denotes, rfl, by simp [ArgTree.text, split]⟩
    · trivial

theorem readPattern_spec (offset : Nat) (rest : List Char) :
    Reads ArgTree.text ArgTree.value ('/' :: rest) (readPattern offset rest) := by
  unfold readPattern
  split
  · trivial
  · rename_i body more found
    obtain ⟨enclosed, split⟩ := enclosed_of_untilQuote? found
    obtain ⟨flags, areFlags, stand, taken⟩ := takeFlags_spec more
    rcases letters : takeFlags more with ⟨fs, after⟩
    rw [letters] at stand taken
    subst stand taken split
    have whole : '/' :: (body ++ '/' :: (flags ++ after)) =
        '/' :: (body ++ '/' :: flags) ++ after := by simp
    have fails {fault : Pattern.Fault}
        (compiled : Pattern.compile body (flagsOf flags) = .error fault) :
        HoldsPatternFault ('/' :: (body ++ '/' :: (flags ++ after))) fault :=
      ⟨body, flags, whole ▸ List.infix_append [] _ after, enclosed, areFlags, compiled⟩
    dsimp only
    split
    · rename_i p compiled
      exact ⟨.pattern body flags p enclosed areFlags compiled, rfl, whole⟩
    · rename_i compiled
      exact fails compiled
    · rename_i compiled
      exact fails compiled
    · trivial

theorem readPlain_spec (offset : Nat) (cs : List Char) :
    Reads ArgTree.text ArgTree.value cs (readPlain offset cs) := by
  unfold readPlain
  split
  · rename_i isTrue
    obtain ⟨after, rfl⟩ := List.isPrefixOf_iff_prefix.mp isTrue
    exact ⟨.truth true, rfl, rfl⟩
  · split
    · rename_i isFalse
      obtain ⟨after, rfl⟩ := List.isPrefixOf_iff_prefix.mp isFalse
      exact ⟨.truth false, rfl, rfl⟩
    · split
      · rename_i x after taken
        obtain ⟨l, rfl, split⟩ := exists_of_takeNumeral? taken
        rw [value_numeralOf]
        cases denotes : l.value? with
        | some n =>
          exact ⟨.number l.text n ⟨l, rfl⟩ (l.numberOf?_text.trans denotes), rfl, split⟩
        | none =>
          have part : l.whole <:+: cs := by
            rw [split]
            exact l.whole_infix.trans (List.prefix_append l.text after).isInfix
          exact ⟨l.whole, part, l.wholeDigits, rfl, NumberLiteral.limit_lt_of_value? denotes⟩
      · trivial

/-- What is read as an argument is the text of one, and a failure has its fault in the text. -/
theorem readArg_spec (offset : Nat) (cs : List Char) :
    Reads ArgTree.text ArgTree.value cs (readArg offset cs) := by
  unfold readArg
  split
  · exact readText_spec (.inl rfl) offset _
  · exact readText_spec (.inr rfl) offset _
  · exact readPattern_spec offset _
  · exact readPlain_spec offset cs

/-- A quoted text ends at its first quote that no backslash takes. -/
theorem enclosed_unique {quote : Char} {body body' rest rest' : List Char} (noEscape : quote ≠ '\\')
    (enclosed : Enclosed quote body) (enclosed' : Enclosed quote body')
    (same : body ++ quote :: rest = body' ++ quote :: rest') : body = body' ∧ rest = rest' := by
  have found := untilQuote?_enclosed noEscape enclosed rest
  rw [same, untilQuote?_enclosed noEscape enclosed' rest'] at found
  cases found
  exact ⟨rfl, rfl⟩

/-- A text has one argument in front at most, and so one value. -/
theorem ArgTree.value_of_text {a a' : ArgTree} {rest rest' : List Char} (delimited : Delimited rest)
    (delimited' : Delimited rest') (same : a.text ++ rest = a'.text ++ rest') :
    a.value = a'.value ∧ rest = rest' := by
  have read := readArg_text a 0 delimited
  rw [same, readArg_text a' 0 delimited'] at read
  obtain ⟨value, after⟩ := Prod.mk.inj (Except.ok.inj read)
  exact ⟨value.symm, after.symm⟩

/-- The text of an argument has one tree: its kind and value are the ones that are read, and its
parts are where the first quote ends it. -/
theorem ArgTree.text_injective {a a' : ArgTree} (same : a.text = a'.text) : a = a' := by
  have values : a.value = a'.value :=
    (value_of_text (Text.stops_nil _) (Text.stops_nil _) (congrArg (· ++ []) same)).1
  cases a with
  | number text n =>
    cases a' with
    | number text' n' =>
      cases same
      cases values
      rfl
    | _ => cases values
  | truth b =>
    cases a' with
    | truth b' =>
      cases values
      rfl
    | _ => cases values
  | quoted quote body value isQuote enclosed =>
    cases a' with
    | quoted quote' body' value' =>
      obtain ⟨sameQuote, sameRest⟩ := List.cons.inj same
      subst sameQuote
      have sameBody : body = body' := List.append_cancel_right sameRest
      subst sameBody
      have sameValue : value = value' := RuleArg.text.inj values
      subst sameValue
      rfl
    | _ => cases values
  | pattern body flags p enclosed =>
    cases a' with
    | pattern body' flags' p' enclosed' =>
      obtain ⟨sameBody, sameFlags⟩ :=
        enclosed_unique (by decide) enclosed enclosed' (List.cons.inj same).2
      subst sameBody sameFlags
      have samePattern : p = p' := RuleArg.pattern.inj values
      subst samePattern
      rfl
    | _ => cases values

end ServiceDiagram.Rule
