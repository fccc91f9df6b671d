import ServiceDiagram.Json.Printer
import ServiceDiagram.Proofs.Json.StringLiteral
import ServiceDiagram.Proofs.Number.Written

namespace ServiceDiagram.Json

/-- A character of printable ASCII. -/
def IsPrintable (c : Char) : Prop := 0x20 ≤ c.toNat ∧ c.toNat ≤ 0x7E

instance decidableIsPrintable (c : Char) : Decidable (IsPrintable c) :=
  inferInstanceAs (Decidable (0x20 ≤ c.toNat ∧ c.toNat ≤ 0x7E))

/-- A text of printable ASCII characters. -/
def AllPrintable (cs : List Char) : Prop := ∀ c ∈ cs, IsPrintable c

instance decidableAllPrintable (cs : List Char) : Decidable (AllPrintable cs) :=
  List.decidableBAll IsPrintable cs

theorem allPrintable_append {cs ds : List Char} :
    AllPrintable (cs ++ ds) ↔ AllPrintable cs ∧ AllPrintable ds := List.forall_mem_append

theorem allPrintable_cons {c : Char} {cs : List Char} :
    AllPrintable (c :: cs) ↔ IsPrintable c ∧ AllPrintable cs := List.forall_mem_cons

theorem allPrintable_digits {ds : List Char} (digits : ∀ d ∈ ds, d.isDigit = true) :
    AllPrintable ds := by
  intro d member
  have range := digits d member
  simp only [Char.isDigit, Bool.and_eq_true, decide_eq_true_eq] at range
  obtain ⟨low, high⟩ := range
  have low' : 48 ≤ d.toNat := low
  have high' : d.toNat ≤ 57 := high
  exact ⟨by omega, by omega⟩

theorem allPrintable_unitEscape (n : Nat) : AllPrintable (unitEscape n) := by
  have digits : ∀ v < 16, IsPrintable (Text.hexDigit v) := by decide
  refine allPrintable_cons.mpr ⟨by decide, allPrintable_cons.mpr ⟨by decide, fun c member => ?_⟩⟩
  obtain ⟨v, small, rfl⟩ := Text.exists_of_mem_hexText member
  exact digits v small

/-- Whatever a character is, what is written for it is printable. -/
theorem allPrintable_escapeChar (c : Char) : AllPrintable (escapeChar c) := by
  by_cases short : ∃ p ∈ shortEscapes, c = p.1
  · obtain ⟨p, listed, rfl⟩ := short
    have all : ∀ p ∈ shortEscapes, AllPrintable ['\\', p.2] := by decide
    rw [(escapeChar_short p listed).2.2.2]
    exact all p listed
  · have long : ∀ p ∈ shortEscapes, c ≠ p.1 := fun p listed same => short ⟨p, listed, same⟩
    rw [escapeChar_long long]
    split
    · rename_i printable
      exact List.forall_mem_singleton.mpr printable
    · intro d member
      obtain ⟨n, -, inEscape⟩ := List.mem_flatMap.mp member
      exact allPrintable_unitEscape n d inEscape

theorem allPrintable_textLiteral (s : String) : AllPrintable (textLiteral s).toList := by
  rw [textLiteral, String.toList_ofList, stringLiteral, List.cons_append, allPrintable_cons,
    allPrintable_append]
  refine ⟨by decide, fun d member => ?_, by decide⟩
  obtain ⟨c, -, inEscape⟩ := List.mem_flatMap.mp member
  exact allPrintable_escapeChar c d inEscape

theorem allPrintable_literal {l : NumberLiteral} (plain : l.IsPlain) : AllPrintable l.text := by
  have fraction : AllPrintable (NumberLiteral.fractionText l.fraction) := by
    unfold NumberLiteral.fractionText
    split
    · exact List.forall_mem_nil _
    · exact allPrintable_cons.mpr ⟨by decide, allPrintable_digits plain.fraction⟩
  have exponent : AllPrintable (NumberLiteral.exponentText l.exponent) := by
    cases given : l.exponent with
    | none => exact List.forall_mem_nil _
    | some x =>
      have mark : IsPrintable x.mark := by rcases x.isMark with same | same <;> rw [same] <;> decide
      have sign : AllPrintable (ExponentLiteral.signText x.sign) := by
        cases x.sign with
        | none => exact List.forall_mem_nil _
        | some negative => cases negative <;> decide
      exact allPrintable_cons.mpr ⟨mark, allPrintable_append.mpr
        ⟨sign, allPrintable_digits (plain.exponent x given)⟩⟩
  have sign : AllPrintable (NumberLiteral.signText l.negative) := by cases l.negative <;> decide
  exact allPrintable_append.mpr ⟨sign, allPrintable_append.mpr
    ⟨allPrintable_digits plain.whole, allPrintable_append.mpr ⟨fraction, exponent⟩⟩⟩

theorem allPrintable_numberText (n : Number) : AllPrintable (numberText n).toList := by
  cases n with
  | int n =>
    rw [numberText, ← NumberLiteral.ofInt_text]
    exact allPrintable_literal (NumberLiteral.ofInt_isPlain n)
  | float x =>
    cases x with
    | nan => decide
    | infinite negative => cases negative <;> decide
    | finite negative m e canonical =>
      obtain ⟨l, spelled, -, plain⟩ := @Binary64.exists_literal (.finite negative m e canonical) rfl
      exact spelled ▸ allPrintable_literal plain

end ServiceDiagram.Json
