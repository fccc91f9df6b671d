import ServiceDiagram.Proofs.Json.StringLiteral
import ServiceDiagram.Proofs.Rule.Synthesis
import ServiceDiagram.Proofs.Text.Replace

namespace ServiceDiagram

namespace Rule

open Text

theorem requote_plain {c : Char} (noBackslash : c ≠ '\\') (noQuote : c ≠ '"') (rest : List Char) :
    Reader.requote (c :: rest) = c :: Reader.requote rest := by
  unfold Reader.requote
  dsimp only
  rw [replaceAll_otherFirst noBackslash.symm, replaceAll_otherFirst noQuote.symm,
    replaceAll_otherFirst noBackslash.symm]

theorem requote_quote (rest : List Char) :
    Reader.requote ('"' :: rest) = '\\' :: '"' :: Reader.requote rest := by
  unfold Reader.requote
  dsimp only
  rw [replaceAll_otherFirst (by decide), replaceAll_one, List.cons_append, List.singleton_append,
    replaceAll_otherSecond (by simp), replaceAll_otherFirst (by decide)]

theorem requote_escapedQuote (rest : List Char) :
    Reader.requote ('\\' :: '"' :: rest) = '\\' :: '"' :: Reader.requote rest := by
  unfold Reader.requote
  dsimp only
  rw [replaceAll_two, List.singleton_append, replaceAll_one, List.cons_append,
    List.singleton_append, replaceAll_otherSecond (by simp), replaceAll_otherFirst (by decide)]

theorem requote_escapedApostrophe (rest : List Char) :
    Reader.requote ('\\' :: '\'' :: rest) = '\'' :: Reader.requote rest := by
  unfold Reader.requote
  dsimp only
  have first : replaceAll ['\\', '"'] ['"'] ('\\' :: '\'' :: rest) =
      '\\' :: '\'' :: replaceAll ['\\', '"'] ['"'] rest := by
    rw [replaceAll_otherSecond (by simp), replaceAll_otherFirst (by decide)]
  have second (plain : List Char) : replaceAll ['"'] ['\\', '"'] ('\\' :: '\'' :: plain) =
      '\\' :: '\'' :: replaceAll ['"'] ['\\', '"'] plain := by
    rw [replaceAll_otherFirst (by decide), replaceAll_otherFirst (by decide)]
  rw [first, second, replaceAll_two, List.singleton_append]

/-- A backslash stays unless what follows it is a quotation mark or an apostrophe. -/
theorem requote_backslash {rest : List Char} (noQuote : rest.head? ≠ some '"')
    (noApostrophe : rest.head? ≠ some '\'') :
    Reader.requote ('\\' :: rest) = '\\' :: Reader.requote rest := by
  -- Neither replacement before the last one puts an apostrophe in front.
  have still : (replaceAll ['"'] ['\\', '"'] (replaceAll ['\\', '"'] ['"'] rest)).head? ≠
      some '\'' := by
    rcases replaceAll_head? ['"'] '\\' ['"'] (replaceAll ['\\', '"'] ['"'] rest) with head | head
    · rw [head]
      decide
    · rw [head]
      rcases replaceAll_head? ['\\', '"'] '"' [] rest with head | head
      · rw [head]
        decide
      · rwa [head]
  unfold Reader.requote
  dsimp only
  rw [replaceAll_otherSecond noQuote, replaceAll_otherFirst (by decide),
    replaceAll_otherSecond still]

/-- A control character, of ASCII or of those after it. -/
def isControl (c : Char) : Bool :=
  decide (c.toNat < 0x20) || (decide (0x7F ≤ c.toNat) && decide (c.toNat < 0xA0))

/-- How a character is written between apostrophes: a backslash and an apostrophe after a backslash,
a control as any JSON escape of it, and every other character as itself. -/
inductive Writes : Char → List Char → Prop
  | backslash : Writes '\\' ['\\', '\\']
  | apostrophe : Writes '\'' ['\\', '\'']
  | short {c e : Char} (control : isControl c = true) (escape : Json.shortEscape? e = some c) :
      Writes c ['\\', e]
  | unit {c h1 h2 h3 h4 : Char} (control : isControl c = true)
      (escape : Json.unitOfHex? h1 h2 h3 h4 = some c.toNat) : Writes c ['\\', 'u', h1, h2, h3, h4]
  | plain {c : Char} (noBackslash : c ≠ '\\') (noApostrophe : c ≠ '\'')
      (printable : 0x20 ≤ c.toNat) : Writes c [c]

/-- A text is written between apostrophes character by character. -/
inductive Quotes : List Char → List Char → Prop
  | nil : Quotes [] []
  | cons {c : Char} {piece s body : List Char} (first : Writes c piece) (later : Quotes s body) :
      Quotes (c :: s) (piece ++ body)

/-- A backslash stands right before a quotation mark. -/
def HasSlashedQuote (s : List Char) : Prop := ['\\', '"'] <:+: s

variable {c : Char} {piece s body : List Char}

/-- A backslash before a quotation mark stands at the front or further on. -/
theorem hasSlashedQuote_cons :
    HasSlashedQuote (c :: s) ↔ (c = '\\' ∧ s.head? = some '"') ∨ HasSlashedQuote s := by
  rw [HasSlashedQuote, List.infix_cons_iff, List.cons_prefix_cons, HasSlashedQuote]
  cases s with
  | nil => simp
  | cons d s => simp [List.cons_prefix_cons, eq_comm]

theorem ne_of_hexValue? {h : Char} {v : Nat} (digit : Text.hexValue? h = some v) :
    h ≠ '\\' ∧ h ≠ '"' ∧ h ≠ '\'' := by
  refine ⟨?_, ?_, ?_⟩
  · rintro rfl
    cases digit
  · rintro rfl
    cases digit
  · rintro rfl
    cases digit

theorem hexDigits_of_unitOfHex? {h1 h2 h3 h4 : Char} {n : Nat}
    (escape : Json.unitOfHex? h1 h2 h3 h4 = some n) :
    ∀ h ∈ [h1, h2, h3, h4], h ≠ '\\' ∧ h ≠ '"' ∧ h ≠ '\'' := by
  simp only [Json.unitOfHex?, bind, Option.bind_eq_some_iff] at escape
  obtain ⟨v1, digit1, v2, digit2, v3, digit3, v4, digit4, -⟩ := escape
  simp only [List.forall_mem_cons, List.not_mem_nil, false_implies, implies_true, and_true]
  exact ⟨ne_of_hexValue? digit1, ne_of_hexValue? digit2, ne_of_hexValue? digit3,
    ne_of_hexValue? digit4⟩

/-- The letter of the escape of a control is none of the characters that are escaped themselves. -/
theorem letter_of_shortEscape? {e : Char} (control : isControl c = true)
    (escape : Json.shortEscape? e = some c) :
    e ≠ '\\' ∧ e ≠ '"' ∧ e ≠ '\'' ∧ e ≠ 'u' := by
  refine ⟨?_, ?_, ?_, ?_⟩
  · rintro rfl
    cases escape
    cases control
  · rintro rfl
    cases escape
    cases control
  · rintro rfl
    cases escape
  · rintro rfl
    cases escape

theorem Enclosed.row {quote : Char} {cs : List Char}
    (plain : ∀ c ∈ cs, c ≠ '\\' ∧ c ≠ quote) (enclosed : Enclosed quote body) :
    Enclosed quote (cs ++ body) := by
  induction cs with
  | nil => exact enclosed
  | cons c cs ih =>
    obtain ⟨first, later⟩ := List.forall_mem_cons.mp plain
    exact .plain first.1 first.2 (ih later)

/-- What is written for a character holds no apostrophe that ends the literal. -/
theorem Writes.enclosed (writes : Writes c piece) (enclosed : Enclosed '\'' body) :
    Enclosed '\'' (piece ++ body) := by
  cases writes with
  | backslash => exact enclosed.escape
  | apostrophe => exact enclosed.escape
  | short => exact enclosed.escape
  | unit control escape =>
    have digits := hexDigits_of_unitOfHex? escape
    exact .escape (enclosed.row fun h member => ⟨(digits h member).1, (digits h member).2.2⟩)
  | plain noBackslash noApostrophe => exact enclosed.plain noBackslash noApostrophe

theorem Quotes.enclosed (quotes : Quotes s body) : Enclosed '\'' body := by
  induction quotes with
  | nil => exact .nil
  | cons first _ ih => exact first.enclosed ih

theorem Quotes.head_ne_apostrophe (quotes : Quotes s body) : body.head? ≠ some '\'' := by
  cases quotes with
  | nil => simp
  | cons first later => cases first <;> simp_all

theorem ne_of_isControl (control : isControl c = true) : c ≠ '"' := by
  rintro rfl
  cases control

/-- A quotation mark is written as itself, and nothing else begins with one. -/
theorem Quotes.head_quote_iff (quotes : Quotes s body) :
    body.head? = some '"' ↔ s.head? = some '"' := by
  cases quotes with
  | nil => simp
  | cons first later =>
    cases first with
    | short control => simp [ne_of_isControl control]
    | unit control => simp [ne_of_isControl control]
    | _ => simp

/-- A character is read as what it was written for, whatever is written after it; only a backslash
must have no quotation mark after it. -/
theorem readUnits_requote_append (writes : Writes c piece)
    (noQuote : c = '\\' → body.head? ≠ some '"') (noApostrophe : body.head? ≠ some '\'')
    (opened : Nat) :
    Json.readUnits opened (Reader.requote (piece ++ body) ++ ['"']) =
      Json.prepend [c.toNat] (Json.readUnits opened (Reader.requote body ++ ['"'])) := by
  cases writes with
  | backslash =>
    have text : Reader.requote ('\\' :: '\\' :: body) = '\\' :: '\\' :: Reader.requote body := by
      rw [requote_backslash (by simp) (by simp), requote_backslash (noQuote rfl) noApostrophe]
    exact text ▸ Json.readUnits_short (by decide) rfl opened _
  | apostrophe =>
    have text : Reader.requote ('\\' :: '\'' :: body) = '\'' :: Reader.requote body :=
      requote_escapedApostrophe body
    exact text ▸ Json.readUnits_plain (by decide) (by decide) (by decide) opened _
  | short control escape =>
    rename_i e
    obtain ⟨noBackslash, noMark, noQuoteChar, noUnit⟩ := letter_of_shortEscape? control escape
    have text : Reader.requote ('\\' :: e :: body) = '\\' :: e :: Reader.requote body := by
      rw [requote_backslash (by simpa using noMark) (by simpa using noQuoteChar),
        requote_plain noBackslash noMark]
    exact text ▸ Json.readUnits_short noUnit escape opened _
  | unit control escape =>
    rename_i h1 h2 h3 h4
    have digits := hexDigits_of_unitOfHex? escape
    simp only [List.forall_mem_cons, List.not_mem_nil, false_implies, implies_true,
      and_true] at digits
    obtain ⟨digit1, digit2, digit3, digit4⟩ := digits
    have text : Reader.requote ('\\' :: 'u' :: h1 :: h2 :: h3 :: h4 :: body) =
        '\\' :: 'u' :: h1 :: h2 :: h3 :: h4 :: Reader.requote body := by
      rw [requote_backslash (by simp) (by simp), requote_plain (by decide) (by decide),
        requote_plain digit1.1 digit1.2.1, requote_plain digit2.1 digit2.2.1,
        requote_plain digit3.1 digit3.2.1, requote_plain digit4.1 digit4.2.1]
    exact text ▸ Json.readUnits_unit escape opened (by simp)
  | plain noBackslash _ printable =>
    by_cases mark : c = '"'
    · have text : Reader.requote ('"' :: body) = '\\' :: '"' :: Reader.requote body :=
        requote_quote body
      subst mark
      exact text ▸ Json.readUnits_short (by decide) rfl opened _
    · have text : Reader.requote (c :: body) = c :: Reader.requote body :=
        requote_plain noBackslash mark body
      exact text ▸ Json.readUnits_plain mark noBackslash printable opened _

/-- Without a backslash before a quotation mark, what is read is the text. -/
theorem readUnits_requote (quotes : Quotes s body) (noSlashed : ¬ HasSlashedQuote s)
    (opened : Nat) :
    Json.readUnits opened (Reader.requote body ++ ['"']) = .ok (s.map Char.toNat, []) := by
  induction quotes with
  | nil => simp [Reader.requote, replaceAll_nil, Json.readUnits.eq_def]
  | cons first later ih =>
    rw [hasSlashedQuote_cons, not_or, not_and] at noSlashed
    obtain ⟨noQuote, noLater⟩ := noSlashed
    rw [readUnits_requote_append first (fun same => later.head_quote_iff.not.mpr (noQuote same))
      later.head_ne_apostrophe, ih noLater]
    rfl

/-- A backslash before a quotation mark leaves that mark as the end of the JSON string, so that
something is left over. -/
theorem readUnits_requote_slashed (quotes : Quotes s body) (slashed : HasSlashedQuote s)
    (opened : Nat) :
    ∃ units rest, rest ≠ [] ∧
      Json.readUnits opened (Reader.requote body ++ ['"']) = .ok (units, rest) := by
  induction quotes with
  | nil => simp [HasSlashedQuote] at slashed
  | @cons c piece s body first later ih =>
    by_cases here : c = '\\' ∧ s.head? = some '"'
    · obtain ⟨rfl, head⟩ := here
      obtain ⟨body, rfl⟩ := List.head?_eq_some_iff.mp (later.head_quote_iff.mpr head)
      obtain rfl : piece = ['\\', '\\'] := by
        cases first with
        | backslash => rfl
        | short control => cases control
        | unit control => cases control
        | plain noBackslash => exact absurd rfl noBackslash
      have text : Reader.requote (['\\', '\\'] ++ '"' :: body) =
          '\\' :: '\\' :: '"' :: Reader.requote body := by
        change Reader.requote ('\\' :: '\\' :: '"' :: body) = _
        rw [requote_backslash (by simp) (by simp), requote_escapedQuote]
      refine ⟨['\\'.toNat], Reader.requote body ++ ['"'], by simp, ?_⟩
      have mark (rest : List Char) : Json.readUnits opened ('"' :: rest) = .ok ([], rest) := by
        simp [Json.readUnits.eq_def]
      have read := Json.readUnits_short (by decide : '\\' ≠ 'u') rfl opened
        ('"' :: (Reader.requote body ++ ['"']))
      rw [text, List.cons_append, List.cons_append, List.cons_append, read, mark]
      rfl
    · obtain ⟨units, rest, left, read⟩ := ih ((hasSlashedQuote_cons.mp slashed).resolve_left here)
      refine ⟨c.toNat :: units, rest, left, ?_⟩
      rw [readUnits_requote_append first
        (fun same mark => here ⟨same, later.head_quote_iff.mp mark⟩) later.head_ne_apostrophe, read]
      rfl

/-- What is between apostrophes is the body of a JSON string for the text, unless in the text a
backslash stands before a quotation mark; then it is no such body at all. -/
theorem unquote?_requote (quotes : Quotes s body) :
    (¬ HasSlashedQuote s → Json.unquote? (Reader.requote body) = some (s.map Char.toNat)) ∧
      (HasSlashedQuote s → Json.unquote? (Reader.requote body) = none) := by
  constructor
  · intro noSlashed
    simp only [Json.unquote?, Json.readString, readUnits_requote quotes noSlashed, Except.map,
      Json.joinUnits_points]
  · intro slashed
    obtain ⟨units, rest, left, read⟩ := readUnits_requote_slashed quotes slashed
      ((Reader.requote body ++ ['"']).length + 1)
    obtain ⟨c, rest, rfl⟩ := List.exists_cons_of_ne_nil left
    simp only [Json.unquote?, Json.readString, read, Except.map]

/-- A text as an argument of a clause. -/
def textArg (s : String) : RuleArg := .text (s.toList.map Char.toNat)

/-- A rule of one clause with a text between apostrophes as its only argument. -/
def quotedRule (root name : String) (body : List Char) : String :=
  root ++ ("." ++ name ++ "(" ++ String.ofList ('\'' :: (body ++ ['\''])) ++ ")")

/-- The rule with such a text as its argument is read with the text unless a backslash stands before
a quotation mark in it. -/
theorem read_quotedRule {root name s : String} (isRoot : IsName root) (isName : IsName name)
    (quotes : Quotes s.toList body) (noSlashed : ¬ HasSlashedQuote s.toList) :
    ∃ r, Rule.read (quotedRule root name body) = .ok r ∧ r.root = root ∧
      r.clauses = [⟨name, [textArg s]⟩] := by
  have spells := spells_single isName
    (.quoted '\'' body (s.toList.map Char.toNat) (.inl rfl) quotes.enclosed ((unquote?_requote quotes).1 noSlashed))
  exact spells.read isRoot (List.cons_ne_nil _ _)

/-- A text between apostrophes that is no body of a JSON string is reported where it begins. -/
theorem read_badString {root name : String} (isRoot : IsName root) (isName : IsName name)
    (enclosed : Enclosed '\'' body) (unreadable : Json.unquote? (Reader.requote body) = none) :
    Rule.read (quotedRule root name body) = .error (.malformed
      ⟨quotedRule root name body, .badString (root.length + name.length + 2)⟩) := by
  obtain ⟨n, rootText, -⟩ := exists_name isRoot
  obtain ⟨n', nameText, -⟩ := exists_name isName
  let inner : List Char := '\'' :: (body ++ '\'' :: [')'])
  have shape : (quotedRule root name body).toList =
      n.text ++ '.' :: (n'.text ++ '(' :: inner) := by
    simp [quotedRule, rootText, nameText, inner]
  have rootTaken := Reader.takeName?_text n
    (Text.stops_cons.mpr rfl : Text.Stops Text.isWord ('.' :: (n'.text ++ '(' :: inner)))
  have nameTaken := Reader.takeName?_text n' (stops_word_parenthesis inner)
  have closed := Reader.untilQuote?_enclosed (by decide : '\'' ≠ '\\') enclosed [')']
  have place : (n.text ++ '.' :: (n'.text ++ '(' :: inner)).length - inner.length =
      root.length + name.length + 2 := by
    rw [rootText, nameText]
    simp only [List.length_append, List.length_cons, String.length_toList]
    omega
  have args : Reader.readArgs (n.text ++ '.' :: (n'.text ++ '(' :: inner)).length
      (inner.length + 1) true inner =
      .error (.rule (.badString (root.length + name.length + 2))) := by
    have noBlank : inner.dropWhile Text.isBlank = inner := rfl
    rw [Reader.readArgs, noBlank]
    simp only [inner] at place ⊢
    simp only [Reader.readArg, Reader.readText, closed, if_true, unreadable, place, bind,
      Except.bind]
    rfl
  have parts : Reader.readParts (n.text ++ '.' :: (n'.text ++ '(' :: inner)) =
      .error (.rule (.badString (root.length + name.length + 2))) := by
    simp only [Reader.readParts, rootTaken, Reader.readClauses, nameTaken, args, bind, Except.bind]
  rw [Rule.read, shape, parts]
  rfl

theorem enclosed_units (units : List Nat) (enclosed : Enclosed '"' body) :
    Enclosed '"' (units.flatMap Json.unitEscape ++ body) := by
  induction units with
  | nil => exact enclosed
  | cons n units ih =>
    have digits : ∀ v < 16, Text.hexDigit v ≠ '\\' ∧ Text.hexDigit v ≠ '"' := by decide
    rw [List.flatMap_cons, List.append_assoc]
    refine .escape (ih.row fun c member => ?_)
    obtain ⟨v, small, rfl⟩ := Text.exists_of_mem_hexText member
    exact digits v small

/-- What is written for a character between quotation marks holds none that ends the literal. -/
theorem enclosed_escapeChar (c : Char) (enclosed : Enclosed '"' body) :
    Enclosed '"' (Json.escapeChar c ++ body) := by
  rcases Json.escapeChar_cases c with ⟨e, -, -, -, text⟩ | ⟨noQuote, noBackslash, -, -, text⟩ | text
  · rw [text]
    exact enclosed.escape
  · rw [text]
    exact enclosed.plain noBackslash noQuote
  · rw [text]
    exact enclosed_units _ enclosed

/-- No quotation mark is left over in the body of a literal. -/
theorem enclosed_points (points : List Nat) : Enclosed '"' (points.flatMap Json.escapePoint) := by
  induction points with
  | nil => exact .nil
  | cons n points ih =>
    rw [List.flatMap_cons, Json.escapePoint]
    split
    · have written := enclosed_units [n] ih
      rwa [List.flatMap_singleton] at written
    · exact enclosed_escapeChar _ ih

/-- The JSON literal of a text is read as that text. -/
theorem read_literalRule {root name : String} (isRoot : IsName root) (isName : IsName name)
    (s : String) :
    ∃ r, Rule.read (root ++ ("." ++ name ++ "(" ++ Json.textLiteral s ++ ")")) = .ok r ∧
      r.root = root ∧ r.clauses = [⟨name, [textArg s]⟩] := by
  have denotes : Json.unquote? (s.toList.flatMap Json.escapeChar) = some (s.toList.map Char.toNat) := by
    simp only [Json.unquote?, Json.readString_literal]
  have enclosed := enclosed_points (s.toList.map Char.toNat)
  rw [Json.flatMap_escapePoint] at enclosed
  have spells := spells_single isName
    (.quoted '"' _ (s.toList.map Char.toNat) (.inr rfl) enclosed denotes)
  exact spells.read isRoot (List.cons_ne_nil _ _)

/-- A text between apostrophes is read as that text, as its JSON literal is, exactly if no backslash
stands before a quotation mark in it. If one does, the literal is reported as no string. -/
theorem quoted_text_read {root name s : String} {body : List Char} (isRoot : IsName root)
    (isName : IsName name) (quotes : Quotes s.toList body) :
    (¬ HasSlashedQuote s.toList → ∃ r, Rule.read (quotedRule root name body) = .ok r ∧
        r.root = root ∧ r.clauses = [⟨name, [textArg s]⟩]) ∧
      (HasSlashedQuote s.toList → Rule.read (quotedRule root name body) = .error (.malformed
        ⟨quotedRule root name body, .badString (root.length + name.length + 2)⟩)) ∧
      ∃ r, Rule.read (root ++ ("." ++ name ++ "(" ++ Json.textLiteral s ++ ")")) = .ok r ∧
        r.root = root ∧ r.clauses = [⟨name, [textArg s]⟩] :=
  ⟨read_quotedRule isRoot isName quotes,
    fun slashed => read_badString isRoot isName quotes.enclosed ((unquote?_requote quotes).2 slashed),
    read_literalRule isRoot isName s⟩

/-- The shortest text that cannot be written between apostrophes. -/
theorem quoted_text_read_sample :
    IsName "N" ∧ IsName "c" ∧ Quotes "\\\"".toList ['\\', '\\', '"'] ∧
      HasSlashedQuote "\\\"".toList ∧
      Rule.read "N.c('\\\\\"')" = .error (.malformed ⟨"N.c('\\\\\"')", .badString 4⟩) := by
  have isRoot : IsName "N" := isName_of_all rfl rfl rfl
  have isClause : IsName "c" := isName_of_all rfl rfl rfl
  have quotes : Quotes "\\\"".toList ['\\', '\\', '"'] :=
    .cons .backslash (.cons (.plain (by decide) (by decide) (by decide)) .nil)
  have slashed : HasSlashedQuote "\\\"".toList := List.infix_refl _
  exact ⟨isRoot, isClause, quotes, slashed, (quoted_text_read isRoot isClause quotes).2.1 slashed⟩

end Rule
end ServiceDiagram
