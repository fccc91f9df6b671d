import ServiceDiagram.Proofs.Calendar.Iso
import ServiceDiagram.Proofs.Format.Addresses
import ServiceDiagram.Proofs.Format.Uuid
import ServiceDiagram.Proofs.Json.Atoms
import ServiceDiagram.Proofs.Pattern.Rows
import ServiceDiagram.Proofs.Random.Outcomes
import ServiceDiagram.Proofs.Types.Builtin
import ServiceDiagram.Rule.Check

namespace ServiceDiagram

open Draw (Possible)

/-- The characters of which the pattern for telephone numbers has a row. -/
def isPhoneChar (c : Char) : Bool :=
  (Pattern.Style.ofFlags []).inSet false
    [.range 48 57, .single 32, .single 40, .single 41, .single 45] c

open Pattern in
/-- A plus sign and a row of the right length match the pattern for telephone numbers. -/
theorem phonePattern_search {row : List Char} (chars : ∀ c ∈ row, isPhoneChar c = true)
    (enough : 7 ≤ row.length) (notMore : row.length ≤ 20) :
    phonePattern.search (String.ofList ('+' :: row)) = true := by
  have atEnd (before : List Char) :
      (matchNodes [none] [] [.anchor .lineEnd] ⟨before, [], []⟩ some).isSome = true := by
    simp [matchNodes, Node.matcher, Style.holdsAt]
  have afterSign (before : List Char) :
      (matchNodes [none] [] [.loop .greedy 7 (some 20) [.oneOf false
        [.range 48 57, .single 32, .single 40, .single 41, .single 45]], .anchor .lineEnd]
        ⟨before, row, []⟩ some).isSome = true := by
    rw [matchNodes, Node.matcher, matchNodes_oneOf]
    exact repeated_row (k := fun t => matchNodes [none] [] [.anchor .lineEnd] t some) chars atEnd before
      enough notMore
  have atSign : (matchNodes phonePattern.groups phonePattern.flags phonePattern.nodes
      ⟨[], '+' :: row, []⟩ some).isSome = true := by
    show (matchNodes [none] [] (.anchor .lineStart :: .loop .greedy 0 (some 1) [.char 43] :: _)
      ⟨[], '+' :: row, []⟩ some).isSome = true
    rw [matchNodes, Node.matcher, matchNodes, Node.matcher, matchNodes_char]
    exact repeated_optional rfl (afterSign _)
  rw [search, String.toList_ofList, searchFrom, atSign, Bool.true_or]

namespace Sampler

/-- The kind of the values that a sampler draws. -/
def kind : Sampler → String
  | integer | number => "number"
  | boolean => "boolean"
  | date | dateTime => "date"
  | word | sentence | password | email | url | uuid | phone => "string"

/-- What a sampler can give: an outcome of its plan, and for a number between 1 and 1000 what is
made of any binary64 number there. -/
inductive Gives : Sampler → Value → Prop
  | plan {s : Sampler} {v : Value} : Possible s.draw v → Gives s v
  | between {x : Binary64} {r : Rat} : x.toRat? = some r → 1 ≤ r → r ≤ 1000 →
      Gives number (.float (hundredths r))

theorem answerable_drawWord : drawWord.Answerable := Draw.answerable_choose (List.cons_ne_nil _ _)

theorem answerable_drawNatText (low high : Nat) : (drawNatText low high).Answerable :=
  (Draw.answerable_between low high).bind fun _ => trivial

theorem answerable_draw (s : Sampler) : s.draw.Answerable := by
  have passwordChar : (Draw.choose ' ' passwordChars).Answerable :=
    Draw.answerable_choose (List.cons_ne_nil _ _)
  cases s with
  | word => exact answerable_drawWord.bind fun _ => trivial
  | sentence =>
    exact (Draw.answerable_between 4 8).bind fun n =>
      (answerable_drawWord.times n).bind fun _ => trivial
  | password => exact (passwordChar.times 12).bind fun _ => trivial
  | integer => exact (Draw.answerable_between 1 1000).bind fun _ => trivial
  | number => exact fun _ _ => trivial
  | boolean => exact fun _ _ => trivial
  | date => exact (Draw.answerable_between 0 daySpan).bind fun _ => trivial
  | dateTime => exact (Draw.answerable_between 0 (daySpan * 86400)).bind fun _ => trivial
  | email =>
    exact answerable_drawWord.bind fun _ => (answerable_drawNatText 1 99).bind fun _ => trivial
  | url =>
    exact answerable_drawWord.bind fun _ => (answerable_drawNatText 1 999).bind fun _ => trivial
  | uuid => exact fun _ _ => trivial
  | phone =>
    exact (answerable_drawNatText 100 999).bind fun _ =>
      (answerable_drawNatText 1000 9999).bind fun _ => trivial

/-- Any source whose answers are in range draws a value that the sampler can give. -/
theorem gives_run {σ : Type} {source : Draw.Source σ} (inRange : source.InRange) (s : Sampler)
    (state : σ) : s.Gives (s.draw.run source state).1 :=
  .plan (s.answerable_draw.possible_run inRange state)

theorem mem_of_drawWord {w : String} (possible : Possible drawWord w) : w ∈ words :=
  possible.choose

/-- A number in digits lies between its bounds. -/
theorem exists_of_drawNatText {low high : Nat} {t : String}
    (possible : Possible (drawNatText low high) t) (ordered : low ≤ high) :
    ∃ n : Nat, low ≤ n ∧ n ≤ high ∧ t.toList = natDigits n := by
  obtain ⟨n, drawn, rfl⟩ := possible.exists_of_map
  obtain ⟨above, below⟩ := drawn.between ordered
  refine ⟨n, above, below, ?_⟩
  rw [intText, if_neg (by omega), String.toList_ofList, Int.natAbs_natCast]

/-- A value that can be written and read, is of the kind of its type, and passes every further
clause. -/
structure Fits (s : Sampler) (v : Value) : Prop where
  atom : Json.IsAtom v
  kind : ∀ r : Rule, r.kind = s.kind → r.matchesKind v = .ok true
  clauses : ∀ r : Rule, ∀ c ∈ s.clauses, r.checkClause c v = .ok true

theorem fits_text {s : Sampler} {t : String} (isText : s.kind = "string")
    (clauses : ∀ r : Rule, ∀ c ∈ s.clauses, r.checkClause c (.text t) = .ok true) :
    s.Fits (.text t) where
  atom := trivial
  kind r same := by
    simp only [Rule.matchesKind, same, isText]
  clauses := clauses

/-- Of a text the kind and one further clause are asked. -/
theorem fits_clause {s : Sampler} {t : String} {c : RuleClause} (isText : s.kind = "string")
    (further : s.clauses = [c]) (passes : ∀ r : Rule, r.checkClause c (.text t) = .ok true) :
    s.Fits (.text t) :=
  fits_text isText fun r d member => by
    rw [further, List.mem_singleton] at member
    exact member ▸ passes r

theorem fits_date {s : Sampler} {t : String} (isDay : s.kind = "date") (iso : Iso.isIso t = true)
    (clauses : ∀ r : Rule, ∀ c ∈ s.clauses, r.checkClause c (.text t) = .ok true) :
    s.Fits (.text t) where
  atom := trivial
  kind r same := by
    simp only [Rule.matchesKind, same, isDay, Rule.isDateLike, iso]
  clauses := clauses

theorem fits_integer {n : Nat} (below : n ≤ 1000) : integer.Fits (.int n) where
  atom := by
    have short : 1000 < 10 ^ 4 := by omega
    have room : 10 ^ 4 ≤ 10 ^ digitLimit := Nat.pow_le_pow_right (by omega) (by decide)
    show (n : Int).natAbs < 10 ^ digitLimit
    rw [Int.natAbs_natCast]
    omega
  kind r same := by
    simp only [Rule.matchesKind, same, Sampler.kind]
  clauses r c member := by
    rw [clauses, List.mem_singleton] at member
    subst member
    rfl

theorem fits_number (x : Binary64) : number.Fits (.float x) where
  atom := trivial
  kind r same := by
    simp only [Rule.matchesKind, same, Sampler.kind]
  clauses _ _ member := nomatch member

theorem fits_boolean (b : Bool) : boolean.Fits (.bool b) where
  atom := trivial
  kind r same := by
    simp only [Rule.matchesKind, same, Sampler.kind]
  clauses _ _ member := nomatch member

/-- A point in time in ISO form passes as one. -/
theorem fits_dateTime (seconds : Nat) : dateTime.Fits (.text (timeAt seconds)) := by
  have iso : Iso.isIso (timeAt seconds) = true := Iso.isIso_dateTime _ _
  refine fits_date rfl iso fun r c member => ?_
  rw [clauses, List.mem_singleton] at member
  subst member
  simp only [Rule.checkClause, Rule.isDateLike, iso]

/-- Random bits make the text of an identifier. -/
theorem fits_uuid (bits : Nat) : uuid.Fits (.text (Uuid.text (Uuid.ofRandomBits bits))) := by
  refine fits_clause rfl rfl fun r => ?_
  simp only [Rule.checkClause, Uuid.read?_text (Uuid.ofRandomBits_lt bits), Option.isSome_some]

theorem word_plain {w : String} (isWord : w ∈ words) {c : Char} (member : c ∈ w.toList) :
    c ≠ '@' ∧ Text.isBlank c = false := by
  have all : words.all (fun w => w.toList.all fun c => c != '@' && !Text.isBlank c) = true := by
    decide
  have plain := List.all_eq_true.mp (List.all_eq_true.mp all w isWord) c member
  simpa using plain

theorem digit_plain {n : Nat} {c : Char} (member : c ∈ natDigits n) :
    c ≠ '@' ∧ Text.isBlank c = false := by
  have digit := natDigits_isDigit member
  exact ⟨Text.ne_of_isDigit digit rfl, Text.not_isBlank_of_isDigit digit⟩

/-- Two words and a number make an address. -/
theorem fits_email {w t : String} (isWord : w ∈ words) {n : Nat} (digits : t.toList = natDigits n) :
    email.Fits (.text (w ++ "." ++ t ++ "@example.com")) := by
  have shape : w ++ "." ++ t ++ "@example.com" =
      String.ofList ((w.toList ++ '.' :: t.toList) ++ '@' :: "example.com".toList) := by
    rw [← String.toList_inj, String.toList_ofList]
    simp
  have atom : Email.isAtom (w.toList ++ '.' :: t.toList) = true := by
    refine Email.isAtom_iff.mpr ⟨by simp, fun c member => ?_⟩
    rcases List.mem_append.mp member with inWord | inTail
    · exact word_plain isWord inWord
    · rcases List.mem_cons.mp inTail with rfl | inDigits
      · decide
      · exact digit_plain (digits ▸ inDigits)
  have accepted : Email.accepts (w ++ "." ++ t ++ "@example.com") = true := by
    rw [shape]
    exact Email.accepts_parts atom (by decide)
  refine fits_clause rfl rfl fun r => ?_
  simp only [Rule.checkClause, accepted]

/-- An address on the web has its scheme and its host, whatever path follows. -/
theorem fits_url (w t : String) :
    url.Fits (.text ("https://www.example.com/" ++ w ++ "/" ++ t)) := by
  have shape : "https://www.example.com/" ++ w ++ "/" ++ t =
      String.ofList ("https".toList ++ ':' :: '/' :: '/' :: ("www.example.com".toList ++
        '/' :: (w.toList ++ '/' :: t.toList))) := by
    rw [← String.toList_inj, String.toList_ofList]
    simp
  have accepted : Uri.accepts ("https://www.example.com/" ++ w ++ "/" ++ t) = .ok true := by
    rw [shape]
    exact Uri.accepts_parts rfl rfl (List.all_eq_true.mp rfl) (by decide) (List.all_eq_true.mp rfl) _
  refine fits_clause rfl rfl fun r => ?_
  simp only [Rule.checkClause, accepted, Except.mapError]

theorem digit_isPhoneChar {n : Nat} {c : Char} (member : c ∈ natDigits n) : isPhoneChar c = true := by
  have bounds : 48 ≤ c.toNat ∧ c.toNat ≤ 57 := by
    simpa [Char.isDigit, UInt32.le_iff_toNat_le] using natDigits_ascii member
  simp [isPhoneChar, Pattern.Style.inSet, Pattern.Style.ofFlags, Pattern.SetItem.contains, bounds]

/-- Two numbers of bounded length make a telephone number that the pattern accepts. -/
theorem fits_phone {s t : String} {m n : Nat} (first : s.toList = natDigits m) (shortFirst : m ≤ 999)
    (second : t.toList = natDigits n) (shortSecond : n ≤ 9999) :
    phone.Fits (.text ("+1 555 " ++ s ++ " " ++ t)) := by
  have shape : "+1 555 " ++ s ++ " " ++ t =
      String.ofList ('+' :: ("1 555 ".toList ++ (natDigits m ++ ' ' :: natDigits n))) := by
    rw [← String.toList_inj, String.toList_ofList, ← first, ← second]
    simp
  have chars : ∀ c ∈ "1 555 ".toList ++ (natDigits m ++ ' ' :: natDigits n), isPhoneChar c = true := by
    intro c member
    rcases List.mem_append.mp member with area | later
    · have all : "1 555 ".toList.all isPhoneChar = true := by decide
      exact List.all_eq_true.mp all c area
    · rcases List.mem_append.mp later with inFirst | later
      · exact digit_isPhoneChar inFirst
      · rcases List.mem_cons.mp later with rfl | inSecond
        · decide
        · exact digit_isPhoneChar inSecond
  have most : (natDigits m).length ≤ 3 ∧ (natDigits n).length ≤ 4 :=
    ⟨(length_natDigits_le (by omega)).mpr (by omega), (length_natDigits_le (by omega)).mpr (by omega)⟩
  have least : 0 < (natDigits m).length := List.length_pos_iff.mpr (natDigits_ne_nil m)
  have length : ("1 555 ".toList ++ (natDigits m ++ ' ' :: natDigits n)).length =
      6 + ((natDigits m).length + ((natDigits n).length + 1)) := by
    simp only [List.length_append, List.length_cons]
    rfl
  have found := phonePattern_search chars (by omega) (by omega)
  rw [← shape] at found
  refine fits_clause rfl rfl fun r => ?_
  simp only [Rule.checkClause, Rule.checkPattern, found]

/-- Whatever a sampler gives fits. -/
theorem Gives.fits {s : Sampler} {v : Value} (gives : s.Gives v) : s.Fits v := by
  cases gives with
  | between _ _ _ => exact fits_number _
  | plan possible =>
    cases s with
    | word =>
      obtain ⟨w, -, rfl⟩ := possible.exists_of_map
      exact fits_text rfl fun _ _ member => nomatch member
    | sentence =>
      obtain ⟨n, -, later⟩ := possible.exists_of_bind
      obtain ⟨ws, -, rfl⟩ := later.exists_of_map
      exact fits_text rfl fun _ _ member => nomatch member
    | password =>
      obtain ⟨cs, -, rfl⟩ := possible.exists_of_map
      exact fits_text rfl fun _ _ member => nomatch member
    | integer =>
      obtain ⟨n, drawn, rfl⟩ := possible.exists_of_map
      exact fits_integer (drawn.between (by omega)).2
    | number =>
      cases possible with
      | fraction share inRange last =>
        cases last
        exact fits_number _
    | boolean =>
      cases possible with
      | fraction share inRange last =>
        cases last
        exact fits_boolean _
    | date =>
      obtain ⟨days, -, rfl⟩ := possible.exists_of_map
      exact fits_date rfl (Iso.isIso_date _) fun _ _ member => nomatch member
    | dateTime =>
      obtain ⟨seconds, -, rfl⟩ := possible.exists_of_map
      exact fits_dateTime seconds
    | email =>
      obtain ⟨w, word, later⟩ := possible.exists_of_bind
      obtain ⟨t, text, rfl⟩ := later.exists_of_map
      obtain ⟨n, -, -, digits⟩ := exists_of_drawNatText text (by omega)
      exact fits_email (mem_of_drawWord word) digits
    | url =>
      obtain ⟨w, -, later⟩ := possible.exists_of_bind
      obtain ⟨t, -, rfl⟩ := later.exists_of_map
      exact fits_url w t
    | uuid =>
      cases possible with
      | bits bits inRange last =>
        cases last
        exact fits_uuid bits
    | phone =>
      obtain ⟨s, first, later⟩ := possible.exists_of_bind
      obtain ⟨t, second, rfl⟩ := later.exists_of_map
      obtain ⟨m, -, shortFirst, digits⟩ := exists_of_drawNatText first (by omega)
      obtain ⟨n, -, shortSecond, digits'⟩ := exists_of_drawNatText second (by omega)
      exact fits_phone digits shortFirst digits' shortSecond

end Sampler

end ServiceDiagram
