import ServiceDiagram.Json.StringLiteral
import ServiceDiagram.Proofs.Text.Hex

namespace ServiceDiagram.Json

/-- The code units of a code point: itself, or beyond the basic plane two surrogates. -/
def unitsOf (n : Nat) : List Nat :=
  if n < 0x10000 then [n] else [0xD800 + (n - 0x10000) / 0x400, 0xDC00 + (n - 0x10000) % 0x400]

/-- The code points of a text in which surrogates that belong together are joined. -/
def IsJoined : List Nat → Prop
  | [] => True
  | n :: rest =>
    n < 0x110000 ∧ (isHighSurrogate n = true → ∀ m ∈ rest.head?, isLowSurrogate m = false) ∧
      IsJoined rest

/-- No character is a surrogate. -/
theorem toNat_ranges (c : Char) : c.toNat < 0xD800 ∨ 0xDFFF < c.toNat ∧ c.toNat < 0x110000 :=
  c.valid

theorem isSurrogate_toNat (c : Char) : isSurrogate c.toNat = false := by
  have ranges := toNat_ranges c
  simp only [isSurrogate, Bool.and_eq_false_iff, decide_eq_false_iff_not]
  omega

theorem isHighSurrogate_toNat (c : Char) : isHighSurrogate c.toNat = false := by
  have ranges := toNat_ranges c
  simp only [isHighSurrogate, Bool.and_eq_false_iff, decide_eq_false_iff_not]
  omega

/-- A code point that is no surrogate is that of a character. -/
theorem toNat_ofNat {n : Nat} (point : n < 0x110000) (plain : isSurrogate n = false) :
    (Char.ofNat n).toNat = n := by
  simp only [isSurrogate, Bool.and_eq_false_iff, decide_eq_false_iff_not] at plain
  have valid : n.isValidChar := by
    simp only [Nat.isValidChar]
    omega
  rw [Char.ofNat, dif_pos valid]
  rfl

/-- Characters are joined whatever they are. -/
theorem isJoined_points (cs : List Char) : IsJoined (cs.map Char.toNat) := by
  induction cs with
  | nil => trivial
  | cons c cs ih =>
    have ranges := toNat_ranges c
    refine ⟨by omega, fun high => ?_, ih⟩
    rw [isHighSurrogate_toNat] at high
    cases high

/-- The first of the units of a code point is a low surrogate only if the point is. -/
theorem isLowSurrogate_head? {n : Nat} (point : n < 0x110000)
    (noLow : isLowSurrogate n = false) (us : List Nat) :
    ∀ m ∈ (unitsOf n ++ us).head?, isLowSurrogate m = false := by
  intro m first
  unfold unitsOf at first
  split at first
  · cases first
    exact noLow
  · cases first
    simp only [isLowSurrogate, Bool.and_eq_false_iff, decide_eq_false_iff_not]
    omega

/-- A unit stays alone unless it is a high surrogate with a low one after it. -/
theorem joinUnits_alone {n : Nat} {us : List Nat}
    (alone : isHighSurrogate n = true → ∀ m ∈ us.head?, isLowSurrogate m = false) :
    joinUnits (n :: us) = n :: joinUnits us := by
  cases us with
  | nil => rfl
  | cons m us =>
    have apart : (isHighSurrogate n && isLowSurrogate m) = false := by
      rw [Bool.and_eq_false_imp]
      exact fun high => alone high m rfl
    rw [joinUnits, if_neg (by simp [apart])]

/-- The units of a code point are joined to it again, unless it is a first surrogate that a second
one follows. -/
theorem joinUnits_unitsOf {n : Nat} {us : List Nat} (point : n < 0x110000)
    (alone : isHighSurrogate n = true → ∀ m ∈ us.head?, isLowSurrogate m = false) :
    joinUnits (unitsOf n ++ us) = n :: joinUnits us := by
  unfold unitsOf
  split
  · exact joinUnits_alone alone
  · have high : isHighSurrogate (0xD800 + (n - 0x10000) / 0x400) = true := by
      simp only [isHighSurrogate, Bool.and_eq_true, decide_eq_true_eq]
      omega
    have low : isLowSurrogate (0xDC00 + (n - 0x10000) % 0x400) = true := by
      simp only [isLowSurrogate, Bool.and_eq_true, decide_eq_true_eq]
      omega
    have whole : 0x10000 + (0xD800 + (n - 0x10000) / 0x400 - 0xD800) * 0x400 +
        (0xDC00 + (n - 0x10000) % 0x400 - 0xDC00) = n := by
      omega
    simp only [List.cons_append, List.nil_append, joinUnits, high, low, Bool.and_self, if_true,
      whole]

/-- The units of code points are joined to these again. -/
theorem joinUnits_flatMap {points : List Nat} (joined : IsJoined points) :
    joinUnits (points.flatMap unitsOf) = points := by
  induction points with
  | nil => rfl
  | cons n points ih =>
    obtain ⟨point, alone, rest⟩ := joined
    rw [List.flatMap_cons, joinUnits_unitsOf point ?_, ih rest]
    intro high m first
    cases points with
    | nil => cases first
    | cons k points => exact isLowSurrogate_head? rest.1 (alone high k rfl) _ m first

/-- Characters that stand for themselves are units by their code points, in any plane. -/
theorem joinUnits_points (cs : List Char) : joinUnits (cs.map Char.toNat) = cs.map Char.toNat := by
  induction cs with
  | nil => rfl
  | cons c cs ih =>
    rw [List.map_cons, joinUnits_alone, ih]
    rw [isHighSurrogate_toNat]
    exact nofun

/-- What units are joined to has no surrogates left that belong together. -/
theorem isJoined_joinUnits {us : List Nat} (small : ∀ u ∈ us, u < 0x110000) :
    IsJoined (joinUnits us) := by
  fun_induction joinUnits us with
  | case1 => trivial
  | case2 a => exact ⟨small a List.mem_cons_self, nofun, trivial⟩
  | case3 a b rest pair ih =>
    simp only [isHighSurrogate, isLowSurrogate, Bool.and_eq_true, decide_eq_true_eq] at pair
    have later := ih fun u member => small u (List.mem_cons_of_mem a (List.mem_cons_of_mem b member))
    refine ⟨by omega, fun high => ?_, later⟩
    simp only [isHighSurrogate, Bool.and_eq_true, decide_eq_true_eq] at high
    omega
  | case4 a b rest apart ih =>
    obtain ⟨first, others⟩ := List.forall_mem_cons.mp small
    refine ⟨first, fun high m head => ?_, ih others⟩
    have noLow : isLowSurrogate b = false := by simpa [high] using apart
    cases rest with
    | nil =>
      cases head
      exact noLow
    | cons c rest =>
      rw [joinUnits] at head
      split at head
      · rw [← Option.some.inj head]
        simp only [isLowSurrogate, Bool.and_eq_false_iff, decide_eq_false_iff_not]
        omega
      · rwa [← Option.some.inj head]

theorem textOfPoints_points (s : String) : textOfPoints (s.toList.map Char.toNat) = s := by
  have each : ∀ c ∈ s.toList, (charOfPoint ∘ Char.toNat) c = id c := by
    intro c _
    rw [Function.comp, charOfPoint, isSurrogate_toNat, if_neg Bool.false_ne_true,
      Char.ofNat_toNat, id]
  rw [textOfPoints, List.map_map, List.map_congr_left each, List.map_id, String.ofList_toList]

/-- The characters that have a short escape, each with the letter of it. -/
def shortEscapes : List (Char × Char) :=
  [('"', '"'), ('\\', '\\'), ('\n', 'n'), ('\r', 'r'), ('\t', 't'), (Char.ofNat 8, 'b'),
   (Char.ofNat 12, 'f')]

/-- The characters with a short escape, which are read back from it. -/
theorem escapeChar_short : ∀ p ∈ shortEscapes, p.2 ≠ 'u' ∧ shortEscape? p.2 = some p.1 ∧
    unitsOf p.1.toNat = [p.1.toNat] ∧ escapeChar p.1 = ['\\', p.2] := by
  decide

theorem escapeChar_long {c : Char} (long : ∀ p ∈ shortEscapes, c ≠ p.1) :
    escapeChar c = if 0x20 ≤ c.toNat ∧ c.toNat ≤ 0x7E then [c]
      else (unitsOf c.toNat).flatMap unitEscape := by
  simp only [shortEscapes, List.forall_mem_cons, List.not_mem_nil, false_implies, implies_true,
    and_true] at long
  obtain ⟨quote, backslash, newline, carriage, tab, back, feed⟩ := long
  rw [escapeChar, if_neg quote, if_neg backslash, if_neg newline, if_neg carriage, if_neg tab,
    if_neg back, if_neg feed]
  dsimp only
  by_cases basic : c.toNat < 0x10000
  · rw [unitsOf, if_pos basic, if_pos basic, List.flatMap_singleton]
  · rw [unitsOf, if_neg basic, if_neg basic, List.flatMap_cons, List.flatMap_singleton]

/-- How a character may be written: as a short escape, as itself, or as escapes of its units. -/
theorem escapeChar_cases (c : Char) :
    (∃ e, e ≠ 'u' ∧ shortEscape? e = some c ∧ unitsOf c.toNat = [c.toNat] ∧ escapeChar c = ['\\', e]) ∨
      (c ≠ '"' ∧ c ≠ '\\' ∧ 0x20 ≤ c.toNat ∧ unitsOf c.toNat = [c.toNat] ∧ escapeChar c = [c]) ∨
      escapeChar c = (unitsOf c.toNat).flatMap unitEscape := by
  by_cases short : ∃ p ∈ shortEscapes, c = p.1
  · obtain ⟨p, listed, rfl⟩ := short
    exact .inl ⟨p.2, escapeChar_short p listed⟩
  · have long : ∀ p ∈ shortEscapes, c ≠ p.1 := fun p listed same => short ⟨p, listed, same⟩
    rw [escapeChar_long long]
    split
    · rename_i printable
      have basic : c.toNat < 0x10000 := by omega
      exact .inr (.inl ⟨long _ (.head _), long _ (.tail _ (.head _)), printable.1, if_pos basic, rfl⟩)
    · exact .inr (.inr rfl)

/-- Puts units in front of those that were read. -/
def prepend (units : List Nat) (read : Except ReadError (List Nat × List Char)) :
    Except ReadError (List Nat × List Char) :=
  read.map fun (us, rest) => (units ++ us, rest)

theorem prepend_prepend (units units' : List Nat) (read : Except ReadError (List Nat × List Char)) :
    prepend units (prepend units' read) = prepend (units ++ units') read := by
  cases read with
  | error e => rfl
  | ok result => simp [prepend, Except.map]

theorem unitOfHex?_hexText {n : Nat} (basic : n < 0x10000) :
    ∃ h1 h2 h3 h4, Text.hexText 4 n = [h1, h2, h3, h4] ∧ unitOfHex? h1 h2 h3 h4 = some n := by
  refine ⟨_, _, _, _, rfl, ?_⟩
  have digit (m : Nat) : Text.hexValue? (Text.hexDigit (m % 16)) = some (m % 16) :=
    Text.hexValue?_hexDigit (Nat.mod_lt m (by omega))
  simp only [unitOfHex?, digit, bind, Option.bind, Option.some.injEq]
  norm_num
  omega

theorem readUnits_unit {h1 h2 h3 h4 : Char} {n : Nat} (value : unitOfHex? h1 h2 h3 h4 = some n)
    (opened : Nat) {rest : List Char} (more : rest ≠ []) :
    readUnits opened ('\\' :: 'u' :: h1 :: h2 :: h3 :: h4 :: rest) =
      prepend [n] (readUnits opened rest) := by
  obtain ⟨c, cs, rfl⟩ := List.exists_cons_of_ne_nil more
  simp [readUnits, value, prepend]

theorem readUnits_unitEscape {n : Nat} (basic : n < 0x10000) (opened : Nat) {rest : List Char}
    (more : rest ≠ []) :
    readUnits opened (unitEscape n ++ rest) = prepend [n] (readUnits opened rest) := by
  obtain ⟨h1, h2, h3, h4, digits, value⟩ := unitOfHex?_hexText basic
  rw [unitEscape, digits]
  exact readUnits_unit value opened more

theorem readUnits_short {e c : Char} (noUnit : e ≠ 'u') (short : shortEscape? e = some c)
    (opened : Nat) (rest : List Char) :
    readUnits opened ('\\' :: e :: rest) = prepend [c.toNat] (readUnits opened rest) := by
  rw [readUnits.eq_def]
  simp [noUnit, short, prepend]

theorem readUnits_plain {c : Char} (noQuote : c ≠ '"') (noBackslash : c ≠ '\\')
    (noControl : 0x20 ≤ c.toNat) (opened : Nat) (rest : List Char) :
    readUnits opened (c :: rest) = prepend [c.toNat] (readUnits opened rest) := by
  rw [readUnits.eq_def]
  simp [noQuote, noBackslash, Nat.not_lt.mpr noControl, prepend]

/-- What is written for a character is read as its code units. -/
theorem readUnits_escapeChar (c : Char) (opened : Nat) {rest : List Char} (more : rest ≠ []) :
    readUnits opened (escapeChar c ++ rest) = prepend (unitsOf c.toNat) (readUnits opened rest) := by
  rcases escapeChar_cases c with ⟨e, noUnit, short, units, text⟩ |
    ⟨noQuote, noBackslash, printable, units, text⟩ | text
  · rw [text, units]
    exact readUnits_short noUnit short opened rest
  · rw [text, units]
    exact readUnits_plain noQuote noBackslash printable opened rest
  · rw [text]
    have ranges := toNat_ranges c
    unfold unitsOf
    split
    · rename_i basic
      rw [List.flatMap_singleton, readUnits_unitEscape basic opened more]
    · rw [List.flatMap_cons, List.flatMap_singleton, List.append_assoc,
        readUnits_unitEscape (by omega) opened (by simp [unitEscape]),
        readUnits_unitEscape (by omega) opened more, prepend_prepend]
      rfl

theorem readUnits_escapePoint {n : Nat} (point : n < 0x110000) (opened : Nat) {rest : List Char}
    (more : rest ≠ []) :
    readUnits opened (escapePoint n ++ rest) = prepend (unitsOf n) (readUnits opened rest) := by
  unfold escapePoint
  split
  · rename_i surrogate
    have basic : n < 0x10000 := by
      simp only [isSurrogate, Bool.and_eq_true, decide_eq_true_eq] at surrogate
      omega
    rw [readUnits_unitEscape basic opened more, unitsOf, if_pos basic]
  · rename_i plain
    rw [readUnits_escapeChar _ opened more, toNat_ofNat point (Bool.eq_false_iff.mpr plain)]

/-- What is written for code points is read as their units, up to the closing quote. -/
theorem readUnits_points (opened : Nat) {points : List Nat} (joined : IsJoined points)
    (rest : List Char) :
    readUnits opened (points.flatMap escapePoint ++ '"' :: rest) =
      .ok (points.flatMap unitsOf, rest) := by
  induction points with
  | nil => simp [readUnits.eq_def]
  | cons n points ih =>
    obtain ⟨point, -, later⟩ := joined
    rw [List.flatMap_cons, List.append_assoc, readUnits_escapePoint point opened (by simp), ih later]
    rfl

/-- The literal of a text is read back after its opening quote, whatever follows it. -/
theorem readString_points {points : List Nat} (joined : IsJoined points) (rest : List Char) :
    readString (points.flatMap escapePoint ++ '"' :: rest) = .ok (points, rest) := by
  rw [readString, readUnits_points _ joined]
  simp [Except.map, joinUnits_flatMap joined]

theorem escapePoint_toNat (c : Char) : escapePoint c.toNat = escapeChar c := by
  rw [escapePoint, if_neg (by simp [isSurrogate_toNat]), Char.ofNat_toNat]

theorem flatMap_escapePoint (cs : List Char) :
    (cs.map Char.toNat).flatMap escapePoint = cs.flatMap escapeChar := by
  rw [List.flatMap_map]
  exact congrArg (cs.flatMap ·) (funext escapePoint_toNat)

/-- A literal is read as its text, and what stands behind it is left. -/
theorem readString_literal (cs rest : List Char) :
    readString (cs.flatMap escapeChar ++ '"' :: rest) = .ok (cs.map Char.toNat, rest) := by
  rw [← flatMap_escapePoint]
  exact readString_points (isJoined_points cs) rest

theorem lt_of_unitOfHex? {a b c d : Char} {n : Nat} (escape : unitOfHex? a b c d = some n) :
    n < 0x10000 := by
  simp only [unitOfHex?, bind, Option.bind_eq_some_iff, Option.some.injEq] at escape
  obtain ⟨x, first, y, second, z, third, u, fourth, rfl⟩ := escape
  have := Text.lt_of_hexValue? first
  have := Text.lt_of_hexValue? second
  have := Text.lt_of_hexValue? third
  have := Text.lt_of_hexValue? fourth
  omega

/-- Every unit that is read is a code point. -/
theorem readUnits_lt {opened : Nat} {cs : List Char} {us : List Nat} {rest : List Char}
    (read : readUnits opened cs = .ok (us, rest)) : ∀ u ∈ us, u < 0x110000 := by
  have step {n : Nat} {read : Except ReadError (List Nat × List Char)} (point : n < 0x110000)
      (ih : ∀ {us rest}, read = .ok (us, rest) → ∀ u ∈ us, u < 0x110000) {us : List Nat}
      {rest : List Char} (there : (read.map fun (us, r) => (n :: us, r)) = .ok (us, rest)) :
      ∀ u ∈ us, u < 0x110000 := by
    cases read with
    | error e => cases there
    | ok result =>
      cases there
      exact List.forall_mem_cons.mpr ⟨point, ih rfl⟩
  have char (c : Char) : c.toNat < 0x110000 := by
    have ranges := toNat_ranges c
    omega
  fun_induction readUnits opened cs generalizing us rest with
  | case1 | case3 | case5 | case6 | case8 | case9 => cases read
  | case2 =>
    cases read
    exact nofun
  | case4 h1 h2 h3 h4 head tail n escape noQuote ih =>
    have basic := lt_of_unitOfHex? escape
    exact step (by omega) ih read
  | case7 e more noUnit t short noQuote ih => exact step (char t) ih read
  | case10 c rest noQuote noBackslash noControl ih => exact step (char c) ih read

/-- In what is read no two surrogates stand that belong together. -/
theorem isJoined_of_unquote? {body : List Char} {points : List Nat}
    (denotes : unquote? body = some points) : IsJoined points := by
  unfold unquote? readString at denotes
  cases read : readUnits ((body ++ ['"']).length + 1) (body ++ ['"']) with
  | error e =>
    rw [read] at denotes
    cases denotes
  | ok result =>
    obtain ⟨us, rest⟩ := result
    rw [read] at denotes
    cases rest with
    | nil =>
      cases denotes
      exact isJoined_joinUnits (readUnits_lt read)
    | cons c rest => cases denotes

end ServiceDiagram.Json
