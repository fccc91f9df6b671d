import ServiceDiagram.Proofs.Json.Parts
import ServiceDiagram.Proofs.Value.Structure

namespace ServiceDiagram.Json

open Value

theorem sortedItems_eq (items : List Value) : sortedItems items = items.map sorted := by
  induction items with
  | nil => rfl
  | cons v items ih => rw [sortedItems, ih, List.map_cons]

theorem sortedEntries_eq (entries : List (String × Value)) :
    sortedEntries entries = entries.map fun e => (e.1, sorted e.2) := by
  induction entries with
  | nil => rfl
  | cons e entries ih => rw [sortedEntries, ih, List.map_cons]

/-- The properties of a record in the order of their names, each with a value computed from its
own. -/
theorem mergeSort_map (f : Value → Value) (entries : List (String × Value)) :
    (entries.map fun e => (e.1, f e.2)).mergeSort entryLe =
      (entries.mergeSort entryLe).map fun e => (e.1, f e.2) := by
  refine Eq.symm (List.map_mergeSort ?_)
  exact fun _ _ _ _ => rfl

theorem sorted_list (items : List Value) : sorted (.list items) = .list (items.map sorted) := by
  rw [sorted, sortedItems_eq]

theorem sorted_record (entries : List (String × Value)) :
    sorted (.record entries) =
      .record ((entries.mergeSort entryLe).map fun e => (e.1, sorted e.2)) := by
  rw [sorted, sortedEntries_eq, mergeSort_map]

theorem forall_mem_mergeSort {entries : List (String × Value)} {P : String × Value → Prop} :
    (∀ e ∈ entries.mergeSort entryLe, P e) ↔ ∀ e ∈ entries, P e := by
  simp only [(List.mergeSort_perm entries entryLe).mem_iff]

/-- Properties with different names have them after sorting too. -/
theorem nodup_mergeSort {entries : List (String × Value)}
    (differ : (entries.map Prod.fst).Nodup) :
    ((entries.mergeSort entryLe).map Prod.fst).Nodup :=
  (((List.mergeSort_perm entries entryLe).map _).nodup_iff).mpr differ

/-- Properties with different names have one order. -/
theorem mergeSort_of_perm {xs ys : List (String × Value)} (differ : (xs.map Prod.fst).Nodup)
    (perm : xs.Perm ys) : xs.mergeSort entryLe = ys.mergeSort entryLe := by
  have pairwise (es : List (String × Value)) :
      (es.mergeSort entryLe).Pairwise fun a b => entryLe a b = true := by
    refine List.pairwise_mergeSort (fun a b c ab bc => ?_) (fun a b => ?_) es
    · simp only [entryLe, decide_eq_true_eq] at ab bc ⊢
      exact String.le_trans ab bc
    · simp only [entryLe, Bool.or_eq_true, decide_eq_true_eq]
      exact String.le_total a.1 b.1
  have permX := List.mergeSort_perm xs entryLe
  have permY := List.mergeSort_perm ys entryLe
  refine List.Perm.eq_of_pairwise ?_ (pairwise xs) (pairwise ys) ((permX.trans perm).trans permY.symm)
  intro a b inX inY le ge
  simp only [entryLe, decide_eq_true_eq] at le ge
  have sameName := String.le_antisymm le ge
  exact List.inj_on_of_nodup_map differ (permX.mem_iff.mp inX)
    (perm.mem_iff.mpr (permY.mem_iff.mp inY)) sameName

/-- The order of properties does not matter. -/
theorem sorted_of_reordered {v w : Value} (reordered : Reordered v w) : sorted v = sorted w := by
  induction reordered with
  | refl v => rfl
  | trans _ _ first later => exact first.trans later
  | order differ perm => rw [sorted_record, sorted_record, mergeSort_of_perm differ perm]
  | item before after _ ih =>
    rw [sorted_list, sorted_list, List.map_append, List.map_append, List.map_cons, List.map_cons, ih]
  | @entry v w before after name _ ih =>
    rw [sorted, sorted, sortedEntries_eq, sortedEntries_eq, List.map_append, List.map_append,
      List.map_cons, List.map_cons, ih]

/-- A value that is sorted at every depth is the value up to the order of properties. -/
theorem reordered_sorted {P : Value → Prop} (kept : ∀ v, P v → sorted v = v) {v : Value}
    (made : v.MadeOf P) : Reordered v (sorted v) := by
  induction made with
  | part holds =>
    rw [kept _ holds]
    exact .refl _
  | list _ ih =>
    rw [sorted_list]
    exact .list ih
  | @record entries differ _ ih =>
    rw [sorted_record]
    have perm := (List.mergeSort_perm entries entryLe).symm
    exact (Reordered.order differ perm).trans (.record (forall_mem_mergeSort.mpr ih))

theorem printItems?_congr {f g : Value → Value} {items : List Value}
    (same : ∀ v ∈ items, print? (f v) = print? (g v)) :
    printItems? (items.map f) = printItems? (items.map g) := by
  induction items with
  | nil => rfl
  | cons v items ih =>
    obtain ⟨here, later⟩ := List.forall_mem_cons.mp same
    rw [List.map_cons, List.map_cons, printItems?, printItems?, here, ih later]

theorem printEntries?_congr {f g : Value → Value} {entries : List (String × Value)}
    (same : ∀ e ∈ entries, print? (f e.2) = print? (g e.2)) :
    printEntries? (entries.map fun e => (e.1, f e.2)) =
      printEntries? (entries.map fun e => (e.1, g e.2)) := by
  induction entries with
  | nil => rfl
  | cons e entries ih =>
    obtain ⟨here, later⟩ := List.forall_mem_cons.mp same
    rw [List.map_cons, List.map_cons, printEntries?, printEntries?, here, ih later]

/-- Days and points in time are written as their texts are. -/
theorem printSorted?_isoTexts {P : Value → Prop}
    (alike : ∀ v, P v → printSorted? v.isoTexts = printSorted? v) {v : Value} (made : v.MadeOf P) :
    printSorted? v.isoTexts = printSorted? v := by
  induction made with
  | part holds => exact alike _ holds
  | @list items _ ih =>
    have same : printItems? (items.map (sorted ∘ isoTexts)) = printItems? (items.map sorted) :=
      printItems?_congr ih
    rw [isoTexts_list, printSorted?, printSorted?, sorted_list, sorted_list, List.map_map, print?,
      print?, same]
  | @record entries _ _ ih =>
    have same :
        printEntries? ((entries.mergeSort entryLe).map fun e => (e.1, (sorted ∘ isoTexts) e.2)) =
          printEntries? ((entries.mergeSort entryLe).map fun e => (e.1, sorted e.2)) :=
      printEntries?_congr (forall_mem_mergeSort.mpr ih)
    rw [isoTexts_record, printSorted?, printSorted?, sorted_record, sorted_record, mergeSort_map,
      List.map_map, print?, print?, ← same]
    rfl

/-- Items that can each be written are written one by one. -/
theorem exists_printItems {items : List Value}
    (each : ∀ v ∈ items, ∃ s, print? v = some s ∧ Spells s v) :
    ∃ parts, printItems? items = some parts ∧ List.Forall₂ Spells parts items := by
  induction items with
  | nil => exact ⟨[], rfl, .nil⟩
  | cons v items ih =>
    obtain ⟨⟨s, printed, spells⟩, later⟩ := List.forall_mem_cons.mp each
    obtain ⟨parts, printedLater, spellsLater⟩ := ih later
    exact ⟨s :: parts, by rw [printItems?, printed, printedLater]; rfl, .cons spells spellsLater⟩

theorem exists_printEntries {entries : List (String × Value)}
    (each : ∀ e ∈ entries, ∃ s, print? e.2 = some s ∧ Spells s e.2) :
    ∃ parts, printEntries? entries = some parts ∧ List.Forall₂ SpellsEntry parts entries := by
  induction entries with
  | nil => exact ⟨[], rfl, .nil⟩
  | cons e entries ih =>
    obtain ⟨⟨s, printed, spells⟩, later⟩ := List.forall_mem_cons.mp each
    obtain ⟨parts, printedLater, spellsLater⟩ := ih later
    exact ⟨(textLiteral e.1 ++ ": " ++ s) :: parts,
      by rw [printEntries?, printed, printedLater]; rfl, .cons ⟨s, rfl, spells⟩ spellsLater⟩

/-- In a value without parts there is nothing to sort. -/
theorem IsAtom.sorted {v : Value} (atom : IsAtom v) : Json.sorted v = v := by
  cases v with
  | list items => cases atom
  | record entries => cases atom
  | _ => rfl

/-- A value without parts is no day, so nothing takes its place. -/
theorem IsAtom.isoTexts {v : Value} (atom : IsAtom v) : v.isoTexts = v := by
  cases v with
  | list items => cases atom
  | record entries => cases atom
  | date d => cases atom
  | dateTime t => cases atom
  | _ => rfl

theorem IsAtom.printable {v : Value} (atom : IsAtom v) {s : String}
    (printed : printSorted? v = some s) : AllPrintable s.toList := by
  cases v with
  | null => cases printed; decide
  | bool b => cases printed; cases b <;> decide
  | number n => cases printed; exact allPrintable_numberText n
  | text t => cases printed; exact allPrintable_textLiteral t
  | list items => cases atom
  | record entries => cases atom
  | date d => cases atom
  | dateTime t => cases atom
  | foreign => cases atom

/-- The induction is on what the value is made of: each part is written as a text that is read as
it. -/
theorem exists_spelling {v : Value} (made : v.MadeOf IsAtom) :
    ∃ s, printSorted? v = some s ∧ Spells s (sorted v) := by
  induction made with
  | part atom =>
    obtain ⟨s, printed, reads⟩ := atom.readsAs
    exact ⟨s, printed, atom.sorted.symm ▸ reads.spells (atom.printable printed)⟩
  | list _ ih =>
    obtain ⟨parts, printed, spells⟩ := exists_printItems (List.forall_mem_map.mpr ih)
    rw [printSorted?, sorted_list, print?, printed]
    exact ⟨_, rfl, spells_list spells⟩
  | @record entries differ _ ih =>
    have each : ∀ e ∈ (entries.mergeSort entryLe).map fun e => (e.1, sorted e.2),
        ∃ s, print? e.2 = some s ∧ Spells s e.2 :=
      List.forall_mem_map.mpr (forall_mem_mergeSort.mpr ih)
    obtain ⟨parts, printed, spells⟩ := exists_printEntries each
    rw [printSorted?, sorted_record, print?, printed]
    refine ⟨_, rfl, spells_record ?_ spells⟩
    rw [List.map_map]
    exact nodup_mergeSort differ

/-- A day or a point in time. -/
def IsMoment : Value → Prop
  | .date _ => True
  | .dateTime _ => True
  | _ => False

/-- The text of a sample value, whatever words, numbers, texts, days and points in time it is made
of by lists and records, texts being rows of Unicode characters and nothing bounding the depth: it
is printable ASCII, it is read as the value with the texts of days and points in time in their
place, up to the order of properties, and so as the value itself if there are none; and it is the
same in whatever order the properties of records are. -/
theorem printed_canonically {v : Value} (made : v.MadeOf fun v => IsAtom v ∨ IsMoment v) :
    ∃ text, printSorted? v = some text ∧
      (∀ c ∈ text.toList, 0x20 ≤ c.toNat ∧ c.toNat ≤ 0x7E) ∧
      (∃ w, read text.toList = .ok w ∧ Reordered v.isoTexts w ∧
        (v.MadeOf IsAtom → Reordered v w)) ∧
      ∀ v', Reordered v v' → printSorted? v' = some text := by
  have replaced : ∀ v, IsAtom v ∨ IsMoment v → IsAtom v.isoTexts := by
    rintro v (atom | moment)
    · rwa [atom.isoTexts]
    · cases v with
      | date d => exact trivial
      | dateTime t => exact trivial
      | _ => cases moment
  have alike : ∀ v, IsAtom v ∨ IsMoment v → printSorted? v.isoTexts = printSorted? v := by
    rintro v (atom | moment)
    · rw [atom.isoTexts]
    · cases v with
      | date d => rfl
      | dateTime t => rfl
      | _ => cases moment
  have madeOfAtoms := made.isoTexts replaced
  obtain ⟨text, printed, spells⟩ := exists_spelling madeOfAtoms
  have reordered := reordered_sorted (fun _ atom => IsAtom.sorted atom) madeOfAtoms
  rw [printSorted?_isoTexts alike made] at printed
  refine ⟨text, printed, spells.printable, ⟨_, spells.read, reordered, fun atoms => ?_⟩, ?_⟩
  · have same := atoms.isoTexts_eq fun _ atom => IsAtom.isoTexts atom
    rw [same] at reordered ⊢
    exact reordered
  · intro v' differs
    rw [← printed, printSorted?, printSorted?, sorted_of_reordered differs]

end ServiceDiagram.Json
