import Mathlib.Data.List.Forall2
import ServiceDiagram.Json.Printer
import ServiceDiagram.Proofs.Json.Atoms
import ServiceDiagram.Proofs.Json.Printable
import ServiceDiagram.Proofs.Table
import ServiceDiagram.Proofs.Text.Joined

namespace ServiceDiagram.Json

variable {s : String} {v : Value}

/-- A printable text is read as a value, whatever follows that cannot prolong a number. -/
structure Spells (s : String) (v : Value) : Prop where
  printable : AllPrintable s.toList
  front : ∃ c cs, s.toList = c :: cs ∧ isSpace c = false ∧ c ≠ Char.ofNat 0xFEFF
  value : ∀ fuel, s.toList.length ≤ fuel → ∀ {after : List Char}, Text.Stops prolongs after →
    readValue (fuel + 1) (s.toList ++ after) = .ok (v, after)

theorem ReadsAs.spells (reads : ReadsAs s v) (printable : AllPrintable s.toList) : Spells s v where
  printable := printable
  front := reads.front
  value fuel _ _ stops := reads.value fuel stops

/-- A text that spells a value is read as it. -/
theorem Spells.read (spells : Spells s v) : Json.read s.toList = .ok v := by
  have value := spells.value (2 * s.toList.length + 1) (by omega) (Text.stops_nil prolongs)
  rw [List.append_nil] at value
  rw [read_front spells.front, value]
  rfl

theorem skipSpace_cons {c : Char} (noSpace : isSpace c = false) (cs : List Char) :
    skipSpace (c :: cs) = c :: cs := by
  simp [skipSpace, noSpace]

/-- Blanks before a value are skipped, and nothing of it. -/
theorem Spells.skipSpace_blank (spells : Spells s v) (after : List Char) :
    skipSpace (' ' :: (s.toList ++ after)) = s.toList ++ after := by
  obtain ⟨c, cs, shape, noSpace, -⟩ := spells.front
  rw [shape, List.cons_append]
  exact skipSpace_cons noSpace _

/-- No value begins with a closing bracket. -/
theorem Spells.head_ne_bracket (spells : Spells s v) {c : Char} {cs : List Char}
    (shape : s.toList = c :: cs) : c ≠ ']' := by
  rintro rfl
  have value := spells.value s.toList.length (Nat.le_refl _) (Text.stops_nil prolongs)
  rw [shape, List.append_nil, readValue_plain (by decide) (by decide) (by decide)] at value
  cases value

/-- What follows the first of several parts. -/
def laterText (parts : List String) : List Char := parts.flatMap fun t => ',' :: ' ' :: t.toList

theorem toList_intercalate (s : String) (parts : List String) :
    (String.intercalate ", " (s :: parts)).toList = s.toList ++ laterText parts := by
  rw [String.toList_intercalate, List.map_cons]
  refine (Text.intercalate_cons _ _).trans ?_
  rw [List.flatMap_map, laterText]

section Parts

variable {α : Type} {close : Char} {Part : String → α → Prop}
  {reader : Nat → List Char → Except ReadError (List α × List Char)} {part : String} {a : α}
  {parts : List String} {as : List α}

/-- A reader of parts with commas between them, up to a closing character. -/
structure ReadsParts (close : Char) (Part : String → α → Prop)
    (reader : Nat → List Char → Except ReadError (List α × List Char)) : Prop where
  printable : ∀ {part a}, Part part a → AllPrintable part.toList
  front : ∀ {part a}, Part part a → ∃ c cs, part.toList = c :: cs ∧ isSpace c = false
  last : ∀ {part a}, Part part a → ∀ fuel, part.toList.length ≤ fuel → ∀ rest,
    reader (fuel + 2) (part.toList ++ close :: rest) = .ok ([a], rest)
  next : ∀ {part a}, Part part a → ∀ fuel, part.toList.length ≤ fuel → ∀ more,
    reader (fuel + 2) (part.toList ++ ',' :: more) =
      (reader (fuel + 1) (skipSpace more)).map fun (as, rest) => (a :: as, rest)

/-- The induction is on the later parts; each takes less of the fuel than it is long. -/
theorem ReadsParts.joined (reads : ReadsParts close Part reader) (first : Part part a)
    (later : List.Forall₂ Part parts as) {fuel : Nat}
    (enough : part.toList.length + (laterText parts).length + 2 ≤ fuel) (rest : List Char) :
    reader fuel (part.toList ++ (laterText parts ++ close :: rest)) = .ok (a :: as, rest) := by
  induction later generalizing part a fuel with
  | nil =>
    obtain ⟨fuel, rfl⟩ := Nat.exists_eq_add_of_le' (Nat.le_of_add_left_le enough)
    exact reads.last first fuel (by simpa [laterText] using enough) rest
  | @cons part' a' parts as head later ih =>
    obtain ⟨fuel, rfl⟩ := Nat.exists_eq_add_of_le' (Nat.le_of_add_left_le enough)
    have text : laterText (part' :: parts) = ',' :: ' ' :: (part'.toList ++ laterText parts) :=
      List.flatMap_cons
    obtain ⟨c, cs, shape, noSpace⟩ := reads.front head
    have blank : skipSpace (' ' :: (part'.toList ++ (laterText parts ++ close :: rest))) =
        part'.toList ++ (laterText parts ++ close :: rest) := by
      rw [shape, List.cons_append]
      exact skipSpace_cons noSpace _
    rw [text] at enough ⊢
    simp only [List.length_cons, List.length_append] at enough
    have beyond : reader (fuel + 1) (part'.toList ++ (laterText parts ++ close :: rest)) =
        .ok (a' :: as, rest) := ih head (by omega)
    rw [List.cons_append, List.cons_append, reads.next first fuel (by omega), List.append_assoc,
      blank, beyond]
    rfl

theorem ReadsParts.allPrintable (reads : ReadsParts close Part reader)
    (each : List.Forall₂ Part parts as) :
    AllPrintable (String.intercalate ", " parts).toList := by
  have all : ∀ t ∈ parts, AllPrintable t.toList :=
    ((List.forall₂_and_left _ _).mp (each.imp fun _ _ given => ⟨reads.printable given, given⟩)).1
  intro c member
  rw [String.toList_intercalate] at member
  rcases Text.mem_intercalate member with rfl | rfl | ⟨t, inParts, inText⟩
  · decide
  · decide
  · obtain ⟨part, listed, rfl⟩ := List.mem_map.mp inParts
    exact all part listed c inText

end Parts

theorem stops_comma (cs : List Char) : Text.Stops prolongs (',' :: cs) := Text.stops_cons.mpr rfl

/-- The items of a list are read one by one. -/
theorem readsParts_items : ReadsParts ']' Spells readItems where
  printable spells := spells.printable
  front spells := by
    obtain ⟨c, cs, shape, noSpace, -⟩ := spells.front
    exact ⟨c, cs, shape, noSpace⟩
  last spells fuel enough rest := by
    rw [readItems, spells.value fuel enough (Text.stops_cons.mpr rfl)]
    rfl
  next spells fuel enough more := by
    rw [readItems, spells.value fuel enough (stops_comma more)]
    change (readItems (fuel + 1) (skipSpace more)).bind _ = _
    cases readItems (fuel + 1) (skipSpace more) <;> rfl

/-- A printable text is read as a property with a name and a value. -/
def SpellsEntry (part : String) (e : String × Value) : Prop :=
  ∃ s, part = textLiteral e.1 ++ ": " ++ s ∧ Spells s e.2

theorem SpellsEntry.toList {part : String} {e : String × Value} (spells : SpellsEntry part e) :
    ∃ s, Spells s e.2 ∧ s.toList.length ≤ part.toList.length ∧
      part.toList = '"' :: (e.1.toList.flatMap escapeChar ++ '"' :: ':' :: ' ' :: s.toList) := by
  obtain ⟨s, rfl, value⟩ := spells
  refine ⟨s, value, ?_, by simp [textLiteral, stringLiteral]⟩
  rw [String.toList_append, List.length_append]
  exact Nat.le_add_left _ _

theorem SpellsEntry.printable {part : String} {e : String × Value} (spells : SpellsEntry part e) :
    AllPrintable part.toList := by
  obtain ⟨s, rfl, value⟩ := spells
  rw [String.toList_append, String.toList_append, allPrintable_append, allPrintable_append]
  exact ⟨⟨allPrintable_textLiteral e.1, by decide⟩, value.printable⟩

/-- A property is read by its name, the colon, and its value. -/
theorem SpellsEntry.readEntries {part : String} {e : String × Value} (spells : SpellsEntry part e)
    {fuel : Nat} (enough : part.toList.length ≤ fuel) {after : List Char}
    (stops : Text.Stops prolongs after) :
    Json.readEntries (fuel + 2) (part.toList ++ after) =
      match skipSpace after with
      | '\x7d' :: rest => .ok ([e], rest)
      | ',' :: more => (Json.readEntries (fuel + 1) (skipSpace more)).bind fun (es, rest) =>
        .ok (e :: es, rest)
      | other => .error (.malformed .noComma other.length) := by
  obtain ⟨s, value, short, shape⟩ := spells.toList
  have text : part.toList ++ after =
      '"' :: (e.1.toList.flatMap escapeChar ++ '"' :: (':' :: ' ' :: (s.toList ++ after))) := by
    simp [shape]
  have colon (cs : List Char) : skipSpace (':' :: cs) = ':' :: cs := skipSpace_cons rfl cs
  have read := congrArg (Json.readEntries (fuel + 2)) text
  simp only [Json.readEntries, readString_literal, bind, Except.bind, colon, value.skipSpace_blank,
    value.value fuel (short.trans enough) stops, textOfPoints_points] at read
  exact read

theorem readsParts_entries : ReadsParts '\x7d' SpellsEntry readEntries where
  printable spells := spells.printable
  front spells := by
    obtain ⟨s, -, -, shape⟩ := spells.toList
    exact ⟨_, _, shape, rfl⟩
  last spells fuel enough rest := by
    rw [spells.readEntries enough (Text.stops_cons.mpr rfl)]
    rfl
  next spells fuel enough more := by
    rw [spells.readEntries enough (stops_comma more)]
    change (readEntries (fuel + 1) (skipSpace more)).bind _ = _
    cases readEntries (fuel + 1) (skipSpace more) <;> rfl

/-- A list that does not end at once is read by its items. -/
theorem readValue_bracket {c : Char} (noSpace : isSpace c = false) (noEnd : c ≠ ']') (fuel : Nat)
    (cs : List Char) : readValue (fuel + 1) ('[' :: c :: cs) =
      (readItems fuel (c :: cs)).map fun (vs, rest) => (.list vs, rest) := by
  simp only [readValue, skipSpace_cons noSpace]
  split
  · rename_i same
    exact absurd (List.cons.inj same).1 noEnd
  · rfl

/-- A record that does not end at once is read by its properties. -/
theorem readValue_brace (fuel : Nat) (cs : List Char) : readValue (fuel + 1) ('\x7b' :: '"' :: cs) =
    (readEntries fuel ('"' :: cs)).map fun (es, rest) => (recordOf es, rest) := rfl

/-- Texts of items are put together to that of the list. -/
theorem spells_list {parts : List String} {items : List Value}
    (each : List.Forall₂ Spells parts items) :
    Spells ("[" ++ String.intercalate ", " parts ++ "]") (.list items) := by
  have text : ("[" ++ String.intercalate ", " parts ++ "]").toList =
      '[' :: ((String.intercalate ", " parts).toList ++ [']']) := by simp
  refine ⟨?_, ⟨_, _, text, rfl, by decide⟩, fun fuel enough after stops => ?_⟩
  · rw [text, allPrintable_cons, allPrintable_append]
    exact ⟨by decide, readsParts_items.allPrintable each, by decide⟩
  · rw [text] at enough ⊢
    cases each with
    | nil => rfl
    | @cons s v parts items first later =>
      obtain ⟨c, cs, shape, noSpace, -⟩ := first.front
      rw [toList_intercalate] at enough ⊢
      simp only [List.length_cons, List.length_append, List.length_nil] at enough
      have read := readsParts_items.joined first later (by omega : _ ≤ fuel) after
      simp only [List.cons_append, List.append_assoc, List.nil_append]
      rw [shape, List.cons_append] at read ⊢
      rw [readValue_bracket noSpace (first.head_ne_bracket shape), read]
      rfl

/-- Texts of properties with different names are put together to that of the record. -/
theorem spells_record {parts : List String} {entries : List (String × Value)}
    (differ : (entries.map Prod.fst).Nodup) (each : List.Forall₂ SpellsEntry parts entries) :
    Spells ("\x7b" ++ String.intercalate ", " parts ++ "\x7d") (.record entries) := by
  have text : ("\x7b" ++ String.intercalate ", " parts ++ "\x7d").toList =
      '\x7b' :: ((String.intercalate ", " parts).toList ++ ['\x7d']) := by simp
  refine ⟨?_, ⟨_, _, text, rfl, by decide⟩, fun fuel enough after stops => ?_⟩
  · rw [text, allPrintable_cons, allPrintable_append]
    exact ⟨by decide, readsParts_entries.allPrintable each, by decide⟩
  · rw [text] at enough ⊢
    cases each with
    | nil => rfl
    | @cons part e parts entries first later =>
      obtain ⟨s, -, -, shape⟩ := first.toList
      rw [toList_intercalate] at enough ⊢
      simp only [List.length_cons, List.length_append, List.length_nil] at enough
      have read := readsParts_entries.joined first later (by omega : _ ≤ fuel) after
      simp only [List.cons_append, List.append_assoc, List.nil_append]
      rw [shape, List.cons_append] at read ⊢
      rw [readValue_brace, read]
      refine congrArg (fun es => Except.ok (Value.record es, after)) ?_
      exact Table.ofEntries_of_nodup differ

end ServiceDiagram.Json
