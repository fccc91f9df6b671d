import ServiceDiagram.Calendar.Iso
import ServiceDiagram.Proofs.Number.Digits

namespace ServiceDiagram

namespace Date

variable {width n : Nat}

theorem padded_ascii {d : Char} (member : d ∈ padded width n) : d.isDigit = true := by
  rcases List.mem_append.mp member with nought | digit
  · exact List.eq_of_mem_replicate nought ▸ rfl
  · exact natDigits_ascii digit

theorem length_padded (positive : 0 < width) (fits : n < 10 ^ width) :
    (padded width n).length = width := by
  have length := (length_natDigits_le positive).mpr fits
  simp only [padded, List.length_append, List.length_replicate]
  omega

/-- A number that is filled up with noughts to a width is still that number. -/
theorem rowValue_padded : rowValue (padded width n) = n := by
  simp only [padded, rowValue_append, rowValue_noughts, rowValue_natDigits, Nat.zero_mul, Nat.zero_add]

theorem exists_head_padded (width n : Nat) : ∃ d ds, padded width n = d :: ds ∧ d.isDigit = true := by
  have nonempty : padded width n ≠ [] := List.append_ne_nil_of_right_ne_nil _ (natDigits_ne_nil n)
  obtain ⟨d, ds, shape⟩ := List.exists_cons_of_ne_nil nonempty
  exact ⟨d, ds, shape, padded_ascii (shape ▸ List.mem_cons_self)⟩

/-- The fields of a day name that day. -/
theorem ofFields?_self (d : Date) : ofFields? d.year d.month d.day = some d :=
  dif_pos d.valid

theorem day_lt (d : Date) : d.day < 10 ^ 2 := by
  obtain ⟨-, -, -, -, -, last⟩ := d.valid
  have most : Calendar.daysInMonth d.year d.month ≤ 31 := by
    unfold Calendar.daysInMonth
    split
    · split <;> omega
    · split <;> omega
  omega

theorem year_lt (d : Date) : d.year < 10 ^ 4 := by
  have := d.valid.2.1
  omega

theorem month_lt (d : Date) : d.month < 10 ^ 2 := by
  have := d.valid.2.2.2.1
  omega

theorem length_isoText (d : Date) : d.isoText.length = 10 := by
  simp only [isoText, List.length_append, List.length_cons, length_padded (by omega) d.year_lt,
    length_padded (by omega) d.month_lt, length_padded (by omega) d.day_lt]

theorem isoText_append (d : Date) (rest : List Char) :
    d.isoText ++ rest =
      padded 4 d.year ++ '-' :: (padded 2 d.month ++ '-' :: (padded 2 d.day ++ rest)) := by
  simp only [isoText, List.append_assoc, List.cons_append]

end Date

namespace Iso

open Date

/-- A number of a fixed width is taken from the front of a text, whatever follows it. -/
theorem takeNumber?_padded {width n : Nat} (positive : 0 < width) (fits : n < 10 ^ width)
    (rest : List Char) : takeNumber? width (padded width n ++ rest) = some (n, rest) := by
  have length := length_padded positive fits
  have digits : (padded width n).all Text.isAsciiDigit = true :=
    List.all_eq_true.mpr fun d member => padded_ascii member
  have value : (padded width n).foldl (fun v c => 10 * v + (c.toNat - '0'.toNat)) 0 = n := by
    rw [foldl_ascii fun d member => padded_ascii member, rowValue_padded]
  rw [takeNumber?, List.take_left' length, List.drop_left' length]
  simp only [length, digits, and_self, if_true, value]

/-- A day is read from its text, whatever stands behind it. -/
theorem readDate?_isoText (d : Date) (rest : List Char) (length : Nat) :
    readDate? (d.isoText ++ rest) length = some d := by
  obtain ⟨c, cs, shape, digit⟩ := exists_head_padded 2 d.month
  have noWeek : c ≠ 'W' := Text.ne_of_isDigit (Text.isDigit_of_ascii digit) rfl
  have month := takeNumber?_padded (by omega) d.month_lt ('-' :: (padded 2 d.day ++ rest))
  have day := takeNumber?_padded (by omega) d.day_lt rest
  rw [d.isoText_append, readDate?, takeNumber?_padded (by omega) d.year_lt]
  simp only [shape, List.cons_append] at month ⊢
  simp [month, noWeek, dropHyphen?, day, ofFields?_self]

theorem dateLength_isoText (d : Date) (rest : List Char) : dateLength (d.isoText ++ rest) = 10 := by
  obtain ⟨c, cs, shape, digit⟩ := exists_head_padded 2 d.month
  have noWeek : c ≠ 'W' := Text.ne_of_isDigit (Text.isDigit_of_ascii digit) rfl
  have length : ¬ (d.isoText ++ rest).length = 7 := by
    rw [List.length_append, d.length_isoText]
    omega
  have hyphen : isAt (d.isoText ++ rest) 4 '-' = true := by
    have year := length_padded (by omega) d.year_lt
    rw [d.isoText_append, isAt, List.getElem?_append_right (by omega), year]
    rfl
  have week : isAt (d.isoText ++ rest) 5 'W' = false := by
    have year := length_padded (by omega) d.year_lt
    rw [d.isoText_append, isAt, List.getElem?_append_right (by omega), year, shape]
    simpa using noWeek
  simp only [dateLength, length, hyphen, week, if_false, if_true, Bool.false_eq_true]

/-- A day by itself is read as the midnight it begins with. -/
theorem readDateTime?_date (d : Date) :
    readDateTime? (String.ofList d.isoText) = some ⟨d, .midnight, none⟩ := by
  have length := dateLength_isoText d []
  have date := readDate?_isoText d [] 10
  have nothing : d.isoText.drop 10 = [] := List.drop_eq_nil_of_le (Nat.le_of_eq d.length_isoText)
  rw [List.append_nil] at length date
  simp [readDateTime?, d.length_isoText, length, date, nothing]

/-- A field that a colon follows is put into the clock, and the next field is read. -/
theorem readFields?_colon (k : Clock) {v : Nat} (fits : v < 10 ^ 2) {rest : List Char}
    (more : rest ≠ []) (zoneFollows : Bool) (left field : Nat) :
    readFields? k true zoneFollows (left + 1) field (padded 2 v ++ ':' :: rest) =
      readFields? (k.set field v) true zoneFollows left (field + 1) rest := by
  obtain ⟨c, cs, rfl⟩ := List.exists_cons_of_ne_nil more
  rw [readFields?, takeNumber?_padded (by omega) fits]
  simp

/-- The last field of a time of day, with nothing behind it. -/
theorem readFields?_last (k : Clock) {v : Nat} (fits : v < 10 ^ 2) (zoneFollows : Bool)
    (left field : Nat) :
    readFields? k true zoneFollows (left + 1) field (padded 2 v) =
      some (k.set field v, zoneFollows) := by
  have taken := takeNumber?_padded (by omega) fits []
  rw [List.append_nil] at taken
  rw [readFields?, taken]
  rfl

theorem readFraction?_padded (k : Clock) {v : Nat} (fits : v < 10 ^ 6) (zoneFollows : Bool) :
    readFraction? k (padded 6 v) zoneFollows = some ({ k with micro := v }, zoneFollows) := by
  have taken := takeNumber?_padded (by omega) fits []
  rw [List.append_nil] at taken
  simp [readFraction?, length_padded (by omega) fits, taken, continues]

/-- A field that a fraction follows ends the clock. -/
theorem readFields?_fraction (k : Clock) {v : Nat} (fits : v < 10 ^ 2) {micro : Nat}
    (fitsMicro : micro < 10 ^ 6) (zoneFollows : Bool) (left : Nat) {field : Nat} (later : field ≠ 0) :
    readFields? k true zoneFollows (left + 1) field (padded 2 v ++ '.' :: padded 6 micro) =
      some ({ k.set field v with micro := micro }, zoneFollows) := by
  have fraction := readFraction?_padded (k.set field v) fitsMicro zoneFollows
  obtain ⟨c, cs, shape, -⟩ := exists_head_padded 6 micro
  rw [readFields?, takeNumber?_padded (by omega) fits]
  rw [shape] at fraction ⊢
  simp [later, fraction]

/-- A time of day is read from its text, with its fraction if it has one. -/
theorem readClock?_isoText (t : TimeOfDay) (zoneFollows : Bool) :
    readClock? t.isoText zoneFollows =
      some (⟨t.hour, t.minute, t.second, t.micro⟩, zoneFollows) := by
  obtain ⟨hour, minute, second, micro⟩ := t.valid
  have nonempty (v : Nat) (rest : List Char) : padded 2 v ++ rest ≠ [] := by
    obtain ⟨c, cs, shape, -⟩ := exists_head_padded 2 v
    simp [shape]
  simp only [readClock?, TimeOfDay.isoText, List.append_assoc, List.cons_append]
  rw [readFields?_colon _ (by omega) (nonempty _ _), readFields?_colon _ (by omega) (nonempty _ _)]
  split
  · rename_i whole
    rw [List.append_nil, readFields?_last _ (by omega), whole]
    rfl
  · rw [readFields?_fraction _ (by omega) (by omega) _ _ (by omega)]
    rfl

/-- No character of a time of day begins a distance from universal time. -/
theorem isoText_noZone {t : TimeOfDay} {c : Char} (member : c ∈ t.isoText) : isZoneMark c = false := by
  have digit {width n : Nat} (member : c ∈ padded width n) : isZoneMark c = false := by
    have isDigit := Text.isDigit_of_ascii (padded_ascii member)
    simp [isZoneMark, Text.ne_of_isDigit isDigit (d := '+') rfl,
      Text.ne_of_isDigit isDigit (d := '-') rfl, Text.ne_of_isDigit isDigit (d := 'Z') rfl]
  simp only [TimeOfDay.isoText, List.mem_append, List.mem_cons] at member
  rcases member with ((hour | rfl | minute) | rfl | second) | fraction
  · exact digit hour
  · rfl
  · exact digit minute
  · rfl
  · exact digit second
  · split at fraction
    · cases fraction
    · rcases List.mem_cons.mp fraction with rfl | micro
      · rfl
      · exact digit micro

theorem readTime?_isoText (t : TimeOfDay) : readTime? t.isoText = some (t, none) := by
  have whole : t.isoText.takeWhile (fun c => !isZoneMark c) = t.isoText :=
    List.takeWhile_eq_self_iff.mpr fun c member => by simp [isoText_noZone member]
  have valid : TimeOfDay.ofFields? t.hour t.minute t.second t.micro = some t := dif_pos t.valid
  simp [readTime?, whole, readClock?_isoText, valid]

/-- The text of a point in time whose distance from universal time is not known. -/
theorem readDateTime?_dateTime (d : Date) (t : TimeOfDay) :
    readDateTime? (String.ofList (DateTime.mk d t none).isoText) = some ⟨d, t, none⟩ := by
  have text : (DateTime.mk d t none).isoText = d.isoText ++ 'T' :: t.isoText := by
    simp [DateTime.isoText]
  have length : ¬ (d.isoText ++ 'T' :: t.isoText).length < 7 := by
    rw [List.length_append, d.length_isoText]
    omega
  have beyond : (d.isoText ++ 'T' :: t.isoText).drop 10 = 'T' :: t.isoText :=
    List.drop_left' d.length_isoText
  rw [text, readDateTime?, String.toList_ofList]
  simp only [length, if_false, dateLength_isoText, beyond, readDate?_isoText, readTime?_isoText, bind,
    Option.bind]

/-- The text of a day is in ISO form. -/
theorem isIso_date (d : Date) : isIso (String.ofList d.isoText) = true := by
  rw [isIso, readDateTime?_date]
  rfl

/-- The text of a point in time without a distance is in ISO form. -/
theorem isIso_dateTime (d : Date) (t : TimeOfDay) :
    isIso (String.ofList (DateTime.mk d t none).isoText) = true := by
  rw [isIso, readDateTime?_dateTime]
  rfl

end Iso

end ServiceDiagram
