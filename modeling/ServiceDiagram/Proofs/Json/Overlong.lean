import ServiceDiagram.Proofs.Json.Atoms

namespace ServiceDiagram.Json

variable {α β : Type} {cs cs' : List Char} {n : Nat}

/-- A row of more digits than an integer may have stands in a text. -/
def Overlong (n : Nat) (cs : List Char) : Prop :=
  digitLimit < n ∧ ∃ ds, ds <:+: cs ∧ ds.length = n ∧ ∀ d ∈ ds, d.isDigit = true

/-- A row of digits in what is left stands in the whole text too. -/
theorem Overlong.of_suffix (later : cs' <:+ cs) (overlong : Overlong n cs') : Overlong n cs := by
  obtain ⟨long, ds, inside, length, digits⟩ := overlong
  exact ⟨long, ds, inside.trans later.isInfix, length, digits⟩

/-- What a reader leaves is an end of the text, and an integer that it refuses stands in the text. -/
def Within (cs : List Char) : Except ReadError (α × List Char) → Prop
  | .ok (_, rest) => rest <:+ cs
  | .error (.malformed _ _) => True
  | .error (.tooManyDigits n) => Overlong n cs

namespace Within

variable {x : Except ReadError (α × List Char)}

theorem of_suffix (later : cs' <:+ cs) (within : Within cs' x) : Within cs x := by
  rcases x with (_ | n) | ⟨a, rest⟩
  · trivial
  · exact Overlong.of_suffix later within
  · exact List.IsSuffix.trans within later

theorem map {f : α × List Char → β × List Char} (keeps : ∀ r, (f r).2 = r.2) (within : Within cs x) :
    Within cs (x.map f) := by
  rcases x with (_ | n) | r
  · trivial
  · exact within
  · show (f r).2 <:+ cs
    rw [keeps]
    exact within

/-- Steps that leave an end of the text and refuse it only for a row in it do so one after the
other. -/
theorem bind {f : α × List Char → Except ReadError (β × List Char)} (within : Within cs x)
    (next : ∀ a rest, rest <:+ cs → Within cs (f (a, rest))) : Within cs (x >>= f) := by
  rcases x with (_ | n) | ⟨a, rest⟩
  · trivial
  · exact within
  · exact next a rest within

end Within

theorem skipSpace_suffix (cs : List Char) : skipSpace cs <:+ cs := List.dropWhile_suffix isSpace

theorem within_readUnits (opened : Nat) (cs : List Char) : Within cs (readUnits opened cs) := by
  fun_induction readUnits opened cs with
  | case1 => trivial
  | case2 more => exact List.suffix_cons ..
  | case3 => trivial
  | case4 h1 h2 h3 h4 head tail n value noQuote ih =>
    exact .of_suffix (List.suffix_append ['\\', 'u', h1, h2, h3, h4] _) (ih.map fun _ => rfl)
  | case5 => trivial
  | case6 => trivial
  | case7 e more noUnit t short noQuote ih =>
    exact .of_suffix (List.suffix_append ['\\', e] more) (ih.map fun _ => rfl)
  | case8 => trivial
  | case9 => trivial
  | case10 c rest noQuote noBackslash noControl ih =>
    exact .of_suffix (List.suffix_cons ..) (ih.map fun _ => rfl)

theorem within_readString (cs : List Char) : Within cs (readString cs) :=
  (within_readUnits _ cs).map fun _ => rfl

theorem spanDigits_spec (cs : List Char) : cs = (spanDigits cs).1 ++ (spanDigits cs).2 ∧
    ∀ d ∈ (spanDigits cs).1, d.isDigit = true := by
  obtain ⟨same, digits, -⟩ := Text.span_spec (rfl : spanDigits cs = (_, _))
  exact ⟨same, digits⟩

theorem spanDigits_suffix (cs : List Char) : (spanDigits cs).2 <:+ cs :=
  ⟨_, (spanDigits_spec cs).1.symm⟩

theorem takeFraction_suffix (cs : List Char) : (takeFraction cs).2 <:+ cs := by
  unfold takeFraction
  split
  · rename_i rest
    dsimp only
    split
    · exact List.suffix_rfl
    · exact (spanDigits_suffix rest).trans (List.suffix_cons ..)
  · exact List.suffix_rfl

theorem takeSign_suffix (cs : List Char) : (takeSign cs).2 <:+ cs := by
  unfold takeSign
  split
  · exact List.suffix_cons ..
  · exact List.suffix_cons ..
  · exact List.suffix_rfl

theorem takeExponent_suffix (cs : List Char) : (takeExponent cs).2 <:+ cs := by
  cases cs with
  | nil => exact List.suffix_rfl
  | cons c rest =>
    rw [takeExponent]
    split
    · dsimp only
      split
      · exact List.suffix_rfl
      · have after := spanDigits_suffix (takeSign rest).2
        exact (after.trans (takeSign_suffix rest)).trans (List.suffix_cons ..)
    · exact List.suffix_rfl

/-- The digits before the point are the front of an unsigned number. -/
theorem readUnsigned?_spec (negative : Bool) {x : Numeral} {rest : List Char}
    (read : readUnsigned? negative cs = some (x, rest)) :
    rest <:+ cs ∧ x.whole <:+: cs ∧ ∀ d ∈ x.whole, d.isDigit = true := by
  have beyond {whole after : List Char} (same : cs = whole ++ after)
      (digits : ∀ d ∈ whole, d.isDigit = true)
      (given : (if whole.isEmpty then none
        else some (⟨negative, whole, (takeFraction after).1, (takeExponent (takeFraction after).2).1⟩,
          (takeExponent (takeFraction after).2).2)) = some (x, rest)) :
      rest <:+ cs ∧ x.whole <:+: cs ∧ ∀ d ∈ x.whole, d.isDigit = true := by
    split at given
    · cases given
    · cases given
      have later := (takeExponent_suffix _).trans (takeFraction_suffix after)
      exact ⟨later.trans ⟨whole, same.symm⟩, ⟨[], after, same.symm⟩, digits⟩
  unfold readUnsigned? at read
  dsimp only at read
  split at read
  · exact beyond rfl (by simp) read
  · obtain ⟨same, digits⟩ := spanDigits_spec cs
    exact beyond same digits read

/-- The digits before the point of a numeral stand in the text. -/
theorem readNumeral?_spec {x : Numeral} {rest : List Char}
    (read : readNumeral? cs = some (x, rest)) :
    rest <:+ cs ∧ x.whole <:+: cs ∧ ∀ d ∈ x.whole, d.isDigit = true := by
  cases cs with
  | nil => cases read
  | cons c cs =>
    by_cases minus : c = '-'
    · subst minus
      obtain ⟨left, inside, digits⟩ := readUnsigned?_spec true read
      exact ⟨left.trans (List.suffix_cons ..), inside.trans (List.suffix_cons ..).isInfix, digits⟩
    · rw [readNumeral?_plain minus] at read
      exact readUnsigned?_spec false read

/-- A numeral is refused for the count of the digits before its point. -/
theorem Numeral.value_tooManyDigits {x : Numeral} (refused : x.value = .error (.tooManyDigits n)) :
    digitLimit < n ∧ x.whole.length = n := by
  unfold Numeral.value at refused
  split at refused
  · split at refused
    · rename_i long
      cases refused
      exact ⟨long, rfl⟩
    · cases refused
  · cases refused

/-- Words, numbers and texts are refused for nothing but such a row. -/
theorem within_readPlain (cs : List Char) : Within cs (readPlain cs) := by
  unfold readPlain
  split
  · exact List.drop_suffix ..
  split
  · rename_i x rest read
    obtain ⟨left, inside, digits⟩ := readNumeral?_spec read
    cases value : x.value with
    | ok n => exact left
    | error e =>
      cases e with
      | malformed => trivial
      | tooManyDigits n =>
        obtain ⟨long, length⟩ := Numeral.value_tooManyDigits value
        exact ⟨long, x.whole, inside, length, digits⟩
  · trivial

theorem suffix_of_skipSpace {mark : Char} {more : List Char} (front : skipSpace cs = mark :: more) :
    more <:+ cs :=
  (List.suffix_cons mark more).trans (front ▸ skipSpace_suffix cs)

/-- A part is read after a mark and the space behind it. -/
theorem Within.skip {x : Except ReadError (α × List Char)} {mark : Char} {more : List Char}
    (front : skipSpace cs = mark :: more) (within : Within (skipSpace more) x) : Within cs x :=
  within.of_suffix ((skipSpace_suffix more).trans (suffix_of_skipSpace front))

/-- Readers of values and of their parts, at one amount of fuel. -/
structure AllWithin (fuel : Nat) : Prop where
  value : ∀ cs, Within cs (readValue fuel cs)
  items : ∀ cs, Within cs (readItems fuel cs)
  entries : ∀ cs, Within cs (readEntries fuel cs)

namespace AllWithin

variable {fuel : Nat}

theorem readValue (all : AllWithin fuel) (cs : List Char) :
    Within cs (readValue (fuel + 1) cs) := by
  unfold Json.readValue
  split
  · exact .of_suffix (List.suffix_cons ..) ((within_readString _).map fun _ => rfl)
  · rename_i rest
    refine .of_suffix (List.suffix_cons ..) ?_
    split
    · exact suffix_of_skipSpace ‹_›
    · exact .of_suffix (skipSpace_suffix rest) ((all.entries _).map fun _ => rfl)
  · rename_i rest
    refine .of_suffix (List.suffix_cons ..) ?_
    split
    · exact suffix_of_skipSpace ‹_›
    · exact .of_suffix (skipSpace_suffix rest) ((all.items _).map fun _ => rfl)
  · exact within_readPlain cs

theorem readItems (all : AllWithin fuel) (cs : List Char) :
    Within cs (readItems (fuel + 1) cs) := by
  unfold Json.readItems
  refine (all.value cs).bind fun v rest left => .of_suffix left ?_
  dsimp only
  split
  · exact suffix_of_skipSpace ‹_›
  · rename_i more front
    refine .skip front ((all.items _).bind fun vs after left => left)
  · trivial

theorem readEntries (all : AllWithin fuel) (cs : List Char) :
    Within cs (readEntries (fuel + 1) cs) := by
  unfold Json.readEntries
  split
  · rename_i quoted
    refine .of_suffix (List.suffix_cons ..) ((within_readString quoted).bind fun key rest left => ?_)
    refine .of_suffix left ?_
    dsimp only
    split
    · rename_i more front
      refine .skip front ((all.value _).bind fun v rest left => .of_suffix left ?_)
      dsimp only
      split
      · exact suffix_of_skipSpace ‹_›
      · rename_i more front
        exact .skip front ((all.entries _).bind fun vs after left => left)
      · trivial
    · trivial
  · trivial

end AllWithin

/-- Every reader keeps to this, by induction on the fuel that the readers share. -/
theorem allWithin (fuel : Nat) : AllWithin fuel := by
  induction fuel with
  | zero => exact ⟨fun _ => trivial, fun _ => trivial, fun _ => trivial⟩
  | succ fuel ih => exact ⟨ih.readValue, ih.readItems, ih.readEntries⟩

/-- A text is refused for an integer with too many digits only if a row of that many stands in it. -/
theorem overlong_of_read (refused : read cs = .error (.tooManyDigits n)) : Overlong n cs := by
  unfold read at refused
  split at refused
  · cases refused
  · have within := (allWithin (2 * cs.length + 2)).value (skipSpace cs)
    split at refused
    · rename_i e failed
      cases refused
      rw [failed] at within
      exact within.of_suffix (skipSpace_suffix cs)
    · split at refused
      · cases refused
      · cases refused

/-- An integer beyond the limit is refused with the count of its digits. -/
theorem value_ofInt {m : Int} (long : ¬ m.natAbs < 10 ^ digitLimit) :
    (numeralOf (.ofInt m)).value = .error (.tooManyDigits (natDigits m.natAbs).length) := by
  have positive : 0 < digitLimit := by
    unfold digitLimit
    omega
  have length : digitLimit < (natDigits m.natAbs).length :=
    Nat.lt_of_not_le fun short => long ((length_natDigits_le positive).mp short)
  simp [Numeral.value, numeralOf, NumberLiteral.ofInt, length]

/-- A text that is an integer is refused exactly if it has too many digits. -/
theorem read_intText (m : Int) :
    read (intText m).toList = if m.natAbs < 10 ^ digitLimit then .ok (.number (.int m))
      else .error (.tooManyDigits (natDigits m.natAbs).length) := by
  have plain := NumberLiteral.ofInt_isPlain m
  have spelled := NumberLiteral.ofInt_text m
  split
  · rename_i short
    exact (readsAs_literal plain (NumberLiteral.ofInt_value? short) spelled).read
  · rename_i long
    obtain ⟨c, cs, shape, noSpace, noMark, -⟩ := literal_front (.ofInt m)
    have value := readValue_literal plain (2 * (intText m).toList.length + 1) (Text.stops_nil prolongs)
    rw [List.append_nil, value_ofInt long, spelled] at value
    rw [spelled] at shape
    rw [read_front ⟨c, cs, shape, noSpace, noMark⟩, value]
    rfl

end ServiceDiagram.Json
