import ServiceDiagram.Pattern.Reader
import ServiceDiagram.Proofs.Format.Addresses
import ServiceDiagram.Proofs.Pattern.Matching
import ServiceDiagram.Rule.Check

namespace ServiceDiagram

namespace Text

theorem partition_some {c : Char} {cs before after : List Char}
    (parts : partition c cs = (before, some after)) : cs = before ++ c :: after := by
  induction cs generalizing before with
  | nil => nomatch parts
  | cons d cs ih =>
    unfold partition at parts
    split at parts
    · rename_i same
      cases parts
      rw [same, List.nil_append]
    · cases rest : partition c cs with
      | mk first later =>
        rw [rest] at parts
        cases parts
        rw [List.cons_append, ← ih rest]

end Text

namespace Email

/-- A text that is not empty and holds neither at signs nor blanks. -/
def IsAtom (cs : List Char) : Prop := cs ≠ [] ∧ ∀ c ∈ cs, c ≠ '@' ∧ Text.isBlank c = false

/-- An address: a local part and a domain that ends in a dot and at least two ASCII letters. -/
structure Address where
  localPart : List Char
  domain : List Char
  letters : List Char
  isLocal : IsAtom localPart
  isDomain : IsAtom domain
  areLetters : 2 ≤ letters.length ∧ ∀ c ∈ letters, Text.isAsciiLetter c = true

def Address.text (a : Address) : List Char :=
  a.localPart ++ '@' :: (a.domain ++ '.' :: a.letters)

theorem isAtom_reverse {cs : List Char} : isAtom cs.reverse = true ↔ IsAtom cs := by
  rw [isAtom_iff, IsAtom, Ne, List.reverse_eq_nil_iff]
  simp only [List.mem_reverse]

/-- The letters of a domain are counted from its end. -/
theorem isDomain_reverse {cs letters rest : List Char} (shape : cs.reverse = letters ++ rest)
    (each : ∀ c ∈ letters, Text.isAsciiLetter c = true)
    (stops : Text.Stops Text.isAsciiLetter rest) :
    Email.isDomain cs = true ↔
      ∃ before, rest = '.' :: before ∧ 2 ≤ letters.length ∧ isAtom before = true := by
  unfold Email.isDomain
  dsimp only
  rw [shape, Text.takeWhile_run each stops, List.drop_left]
  split
  · simp
  · rename_i other
    exact ⟨nofun, fun ⟨before, dot, _⟩ => absurd dot (other before)⟩

/-- A domain is an atom, a dot and at least two letters. -/
theorem isDomain_iff {cs : List Char} :
    Email.isDomain cs = true ↔ ∃ domain letters, cs = domain ++ '.' :: letters ∧ IsAtom domain ∧
      2 ≤ letters.length ∧ ∀ c ∈ letters, Text.isAsciiLetter c = true := by
  constructor
  · intro domain
    cases split : cs.reverse.span Text.isAsciiLetter with
    | mk letters rest =>
      obtain ⟨shape, each, stops⟩ := Text.span_spec split
      obtain ⟨before, rfl, most, atom⟩ := (isDomain_reverse shape each stops).mp domain
      refine ⟨before.reverse, letters.reverse, ?_, ?_, ?_, ?_⟩
      · rw [← List.reverse_reverse cs, shape]
        simp
      · rwa [← isAtom_reverse, List.reverse_reverse]
      · rwa [List.length_reverse]
      · exact fun c member => each c (List.mem_reverse.mp member)
  · rintro ⟨domain, letters, rfl, atom, most, each⟩
    have shape : (domain ++ '.' :: letters).reverse =
        letters.reverse ++ '.' :: domain.reverse := by
      simp
    have reversed : ∀ c ∈ letters.reverse, Text.isAsciiLetter c = true :=
      fun c member => each c (List.mem_reverse.mp member)
    refine (isDomain_reverse shape reversed (Text.stops_cons.mpr rfl)).mpr ⟨_, rfl, ?_, ?_⟩
    · rwa [List.length_reverse]
    · exact isAtom_reverse.mpr atom

/-- The texts that are addresses are the texts of addresses as data. -/
theorem isAddress_iff {cs : List Char} :
    isAddress cs = true ↔ ∃ a : Address, cs = a.text := by
  unfold isAddress
  constructor
  · intro address
    split at address
    · rename_i localPart domain parts
      rw [Bool.and_eq_true] at address
      obtain ⟨atom, isDomain⟩ := address
      obtain ⟨domain, letters, rfl, isDomain, areLetters⟩ := isDomain_iff.mp isDomain
      exact ⟨⟨localPart, domain, letters, isAtom_iff.mp atom, isDomain, areLetters⟩,
        Text.partition_some parts⟩
    · nomatch address
  · rintro ⟨a, rfl⟩
    have noAt : '@' ∉ a.localPart := fun member => (a.isLocal.2 _ member).1 rfl
    have domain := isDomain_iff.mpr ⟨a.domain, a.letters, rfl, a.isDomain, a.areLetters⟩
    rw [Address.text, Text.partition_first noAt]
    simp [isAtom_iff.mpr a.isLocal, domain]

/-- The last character of an address is a letter. -/
theorem Address.last (a : Address) : ∃ c ∈ a.text.getLast?, Text.isAsciiLetter c = true := by
  have domain := isDomain_iff.mpr ⟨a.domain, a.letters, rfl, a.isDomain, a.areLetters⟩
  obtain ⟨c, last, letter⟩ := last_of_isDomain domain
  refine ⟨c, ?_, letter⟩
  rw [Address.text, List.getLast?_append, List.getLast?_cons, Option.mem_def.mp last]
  rfl

/-- Dropping a last line break leaves a text that does not end in one exactly if the text is that
text, or that text with a break. -/
theorem dropFinalBreak_iff {cs ds : List Char} (noBreak : ds.getLast? ≠ some '\n') :
    dropFinalBreak cs = ds ↔ cs = ds ∨ cs = ds ++ ['\n'] := by
  unfold dropFinalBreak
  split
  · rename_i last
    obtain ⟨front, rfl⟩ : ∃ front, cs = front ++ ['\n'] := by
      exact List.getLast?_eq_some_iff.mp last
    rw [List.dropLast_concat]
    constructor
    · rintro rfl
      exact .inr rfl
    · rintro (rfl | same)
      · exact absurd last noBreak
      · exact List.append_cancel_right same
  · rename_i other
    constructor
    · rintro rfl
      exact .inl rfl
    · rintro (rfl | rfl)
      · rfl
      · exact absurd List.getLast?_concat other

/-- What is accepted is an address, or an address with one line break after it. -/
theorem accepts_iff {s : String} :
    accepts s = true ↔ ∃ a : Address, s.toList = a.text ∨ s.toList = a.text ++ ['\n'] := by
  have noBreak (a : Address) : a.text.getLast? ≠ some '\n' := by
    obtain ⟨c, last, letter⟩ := a.last
    rw [Option.mem_def.mp last]
    exact fun same => Text.ne_of_test letter (d := '\n') rfl (Option.some.inj same)
  rw [accepts, isAddress_iff]
  exact exists_congr fun a => dropFinalBreak_iff (noBreak a)

def patternText : String := "^[^@\\s]+@[^@\\s]+\\.[A-Za-z]\x7b2,\x7d$"

open Pattern

/-- One character or more that are neither at signs nor blanks. -/
def atomNode : Node := .loop .greedy 1 none [.oneOf true [.single 64, .category .blank false]]

/-- Two ASCII letters or more. -/
def lettersNode : Node := .loop .greedy 2 none [.oneOf false [.range 65 90, .range 97 122]]

/-- What the pattern has between its anchors. -/
def addressNodes : List Node := [atomNode, .char 64, atomNode, .char 46, lettersNode]

/-- What the text of the pattern is read as. -/
def addressPattern : Pattern :=
  ⟨patternText, [], [none], .anchor .lineStart :: (addressNodes ++ [.anchor .lineEnd])⟩

/-- Whether a pattern is the one for addresses. Nodes have no decidable equality, so that what the
text is read as is evaluated by this test. -/
def isAddressPattern : Pattern → Bool
  | ⟨text, [], [none],
      [.anchor .lineStart, .loop .greedy 1 none [.oneOf true before], .char 64,
        .loop .greedy 1 none [.oneOf true after], .char 46, .loop .greedy 2 none [.oneOf false letters],
        .anchor .lineEnd]⟩ =>
    text == patternText && before == [.single 64, .category .blank false] &&
      after == [.single 64, .category .blank false] && letters == [.range 65 90, .range 97 122]
  | _ => false

theorem eq_of_isAddressPattern {p : Pattern} (isPattern : isAddressPattern p = true) :
    p = addressPattern := by
  unfold isAddressPattern at isPattern
  split at isPattern
  · simp only [Bool.and_eq_true, beq_iff_eq] at isPattern
    obtain ⟨⟨⟨rfl, rfl⟩, rfl⟩, rfl⟩ := isPattern
    rfl
  · cases isPattern

/-- The text of the pattern for addresses compiles to that pattern. -/
theorem compile_patternText : compile patternText.toList [] = .ok addressPattern := by
  have isPattern : (compile patternText.toList []).toOption.any isAddressPattern = true := by
    decide +kernel
  cases read : compile patternText.toList [] with
  | error e =>
    rw [read] at isPattern
    cases isPattern
  | ok p =>
    rw [read] at isPattern
    rw [eq_of_isAddressPattern isPattern]

theorem sameChar_toNat (d c : Char) : (Style.ofFlags []).sameChar d.toNat c = (c == d) := by
  have same : c.toNat = d.toNat ↔ c = d := Char.toNat_inj
  rw [Bool.eq_iff_iff, beq_iff_eq, ← same]
  exact beq_iff_eq

theorem inSet_atom (c : Char) :
    (Style.ofFlags []).inSet true [.single 64, .category .blank false] c =
      (c != '@' && !Text.isBlank c) := by
  have atSign : (c.toNat == 64) = (c == '@') := sameChar_toNat '@' c
  have inside : (Style.ofFlags []).inSet true [.single 64, .category .blank false] c =
      (((c.toNat == 64) || ((Text.isBlank c != false) || false)) != true) := rfl
  have other : (c != '@') = !(c == '@') := rfl
  rw [inside, atSign, other]
  cases c == '@' <;> cases Text.isBlank c <;> rfl

theorem inSet_letters (c : Char) :
    (Style.ofFlags []).inSet false [.range 65 90, .range 97 122] c = Text.isAsciiLetter c := by
  have inside : (Style.ofFlags []).inSet false [.range 65 90, .range 97 122] c =
      (((decide (65 ≤ c.toNat) && decide (c.toNat ≤ 90)) ||
        ((decide (97 ≤ c.toNat) && decide (c.toNat ≤ 122)) || false)) != false) := rfl
  have letter : Text.isAsciiLetter c = true ↔
      97 ≤ c.toNat ∧ c.toNat ≤ 122 ∨ 65 ≤ c.toNat ∧ c.toNat ≤ 90 := by
    simp [Text.isAsciiLetter, Char.le_def, UInt32.le_iff_toNat_le]
  rw [Bool.eq_iff_iff, letter, inside]
  simp only [Bool.or_false, bne_iff_ne, Bool.not_eq_false, Bool.or_eq_true, Bool.and_eq_true, ne_eq,
    decide_eq_true_eq]
  exact or_comm

def atoms : Language Char := {w | IsAtom w}

def letterRows : Language Char := {w | 2 ≤ w.length ∧ ∀ c ∈ w, Text.isAsciiLetter c = true}

def addresses : Language Char := {w | ∃ a : Address, w = a.text}

/-- The addresses are put together as the parts of the pattern are. -/
theorem addresses_eq : addresses = atoms * ({['@']} * (atoms * ({['.']} * letterRows))) := by
  ext w
  constructor
  · rintro ⟨a, rfl⟩
    have domain : '.' :: a.letters ∈ {['.']} * letterRows := ⟨_, rfl, _, a.areLetters, rfl⟩
    exact ⟨_, a.isLocal, _, ⟨_, rfl, _, ⟨_, a.isDomain, _, domain, rfl⟩, rfl⟩, rfl⟩
  · rintro ⟨localPart, isLocal, _, ⟨_, rfl, _, ⟨domain, isDomain, _, rest, rfl⟩, rfl⟩, rfl⟩
    obtain ⟨_, rfl, letters, areLetters, rfl⟩ := rest
    exact ⟨⟨localPart, domain, letters, isLocal, isDomain, areLetters⟩, rfl⟩

theorem passes_toNat (d : Char) : Passes ((Node.char d.toNat).matcher [none] []) {[d]} := by
  have passes : Passes ((Node.char d.toNat).matcher [none] [])
      (oneOf ((Style.ofFlags []).sameChar d.toNat)) := passes_char d.toNat
  have same : oneOf ((Style.ofFlags []).sameChar d.toNat) = {[d]} := by
    ext w
    constructor
    · rintro ⟨c, passed, rfl⟩
      rw [sameChar_toNat, beq_iff_eq] at passed
      exact congrArg List.singleton passed
    · rintro rfl
      exact ⟨d, by rw [sameChar_toNat, beq_self_eq_true], rfl⟩
  rwa [same] at passes

/-- The part of the pattern that repeats all characters but blanks and at signs matches the atoms.
-/
theorem passes_atomNode : Passes (atomNode.matcher [none] []) atoms := by
  have same : atoms = {w | 1 ≤ w.length ∧ ∀ c ∈ w, (Style.ofFlags []).inSet true
      [.single 64, .category .blank false] c = true} := by
    ext w
    refine and_congr ?_ ?_
    · exact List.length_pos_iff.symm
    · simp [inSet_atom]
  rw [same]
  exact passes_setLoop 1 true _

/-- The part of the pattern that asks for two letters or more matches the rows of letters. -/
theorem passes_lettersNode : Passes (lettersNode.matcher [none] []) letterRows := by
  have same : letterRows = {w | 2 ≤ w.length ∧ ∀ c ∈ w, (Style.ofFlags []).inSet false
      [.range 65 90, .range 97 122] c = true} := by
    simp only [inSet_letters]
    rfl
  rw [same]
  exact passes_setLoop 2 false _

/-- The words that the pattern has between its anchors are the addresses. -/
theorem passes_addressNodes : Passes (matchNodes [none] [] addressNodes) addresses := by
  rw [addresses_eq]
  exact passes_atomNode.cons ((passes_toNat '@').cons
    (passes_atomNode.cons ((passes_toNat '.').cons passes_lettersNode.single)))

/-- What is accepted is what the pattern for addresses matches. -/
theorem accepts_eq_search (s : String) : accepts s = addressPattern.search s := by
  rw [Bool.eq_iff_iff, accepts_iff, search_anchored rfl rfl passes_addressNodes]
  constructor
  · rintro ⟨a, ends⟩
    exact ⟨a.text, ⟨a, rfl⟩, ends⟩
  · rintro ⟨_, ⟨a, rfl⟩, ends⟩
    exact ⟨a, ends⟩

theorem letters_apart_blanks : Text.Apart [(65, 122)] Text.blankRanges := by decide

theorem not_isBlank_of_isAsciiLetter {c : Char} (letter : Text.isAsciiLetter c = true) :
    Text.isBlank c = false := by
  have bounds := Text.isAsciiLetter_bounds letter
  refine letters_apart_blanks.not_inRanges ?_
  simp [Text.inRanges, bounds]

/-- No character of an address is blank, so that no line break belongs to it. -/
theorem Address.not_isBlank (a : Address) : ∀ c ∈ a.text, Text.isBlank c = false := by
  intro c member
  rw [Address.text, List.mem_append, List.mem_cons, List.mem_append, List.mem_cons] at member
  rcases member with inLocal | rfl | inDomain | rfl | inLetters
  · exact (a.isLocal.2 c inLocal).2
  · rfl
  · exact (a.isDomain.2 c inDomain).2
  · rfl
  · exact not_isBlank_of_isAsciiLetter (a.areLetters.2 c inLetters)

/-- An address has exactly one at sign. -/
theorem Address.count_at (a : Address) : a.text.count '@' = 1 := by
  have inLocal : a.localPart.count '@' = 0 :=
    List.count_eq_zero_of_not_mem fun member => (a.isLocal.2 _ member).1 rfl
  have inDomain : a.domain.count '@' = 0 :=
    List.count_eq_zero_of_not_mem fun member => (a.isDomain.2 _ member).1 rfl
  have inLetters : a.letters.count '@' = 0 :=
    List.count_eq_zero_of_not_mem fun member =>
      Text.ne_of_test (a.areLetters.2 _ member) (d := '@') rfl rfl
  simp [Address.text, inLocal, inDomain, inLetters]

/-- A text that is accepted holds one at sign, and no blank but a line break at its end. -/
theorem shape_of_accepts {s : String} (accepted : accepts s = true) :
    s.toList.count '@' = 1 ∧ ∀ before c after, s.toList = before ++ c :: after →
      Text.isBlank c = true → c = '\n' ∧ after = [] := by
  obtain ⟨a, same | ended⟩ := accepts_iff.mp accepted
  · refine ⟨same ▸ a.count_at, fun before c after split blank => ?_⟩
    have member : c ∈ a.text := by
      rw [← same, split]
      simp
    rw [a.not_isBlank c member] at blank
    nomatch blank
  · refine ⟨by simp [ended, a.count_at], fun before c after split blank => ?_⟩
    rw [ended] at split
    rcases List.eq_nil_or_concat' after with rfl | ⟨later, d, rfl⟩
    · obtain ⟨-, last⟩ := List.append_inj' split rfl
      exact ⟨(List.singleton_inj.mp last).symm, rfl⟩
    · rw [← List.cons_append, ← List.append_assoc] at split
      obtain ⟨front, -⟩ := List.append_inj' split rfl
      have member : c ∈ a.text := by
        rw [front]
        simp
      rw [a.not_isBlank c member] at blank
      nomatch blank

/-- The rule for addresses of electronic mail. -/
def emailRule : Rule := ⟨"Joi", [⟨"string", []⟩, ⟨"email", []⟩], by simp⟩

/-- The clause for addresses is read as a rule that asks for them. -/
theorem read_emailRule : Rule.read "Joi.string().email()" = .ok emailRule := rfl

/-- The rule accepts exactly the texts that are accepted as addresses. -/
theorem check_emailRule (s : String) : emailRule.check (.text s) = .ok (accepts s) := by
  change (if accepts s then Except.ok true else Except.ok false) = _
  cases accepts s <;> rfl

/-- Every text has a verdict, and it is that of the pattern: an address is accepted, and so is an
address with one line break after it, and nothing else. -/
theorem email_clause_verdict (s : String) :
    ∃ r p b, Rule.read "Joi.string().email()" = .ok r ∧ compile patternText.toList [] = .ok p ∧
      r.check (.text s) = .ok b ∧ b = p.search s ∧
      (b = true ↔ ∃ a : Address, s.toList = a.text ∨ s.toList = a.text ++ ['\n']) ∧
      (b = true → s.toList.count '@' = 1 ∧ ∀ before c after, s.toList = before ++ c :: after →
        Text.isBlank c = true → c = '\n' ∧ after = []) :=
  ⟨emailRule, addressPattern, accepts s, read_emailRule, compile_patternText, check_emailRule s,
    accepts_eq_search s, accepts_iff, shape_of_accepts⟩

end Email
end ServiceDiagram
