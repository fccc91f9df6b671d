import ServiceDiagram.Format.Uuid
import ServiceDiagram.Proofs.Text.Hex
import ServiceDiagram.Proofs.Text.Replace

namespace ServiceDiagram

namespace Uuid

variable {n : Nat}

/-- Hexadecimal digits, the groups of an identifier with hyphens between them. -/
def grouped (ds : List Char) : List Char :=
  ds.take 8 ++ '-' :: (ds.drop 8).take 4 ++ '-' :: (ds.drop 12).take 4 ++
    '-' :: (ds.drop 16).take 4 ++ '-' :: ds.drop 20

theorem mem_grouped {ds : List Char} {c : Char} (member : c ∈ grouped ds) : c ∈ ds ∨ c = '-' := by
  simp only [grouped, List.mem_append, List.mem_cons] at member
  rcases member with (((first | rfl | second) | rfl | third) | rfl | fourth) | rfl | last
  · exact .inl (List.mem_of_mem_take first)
  · exact .inr rfl
  · exact .inl (List.mem_of_mem_drop (List.mem_of_mem_take second))
  · exact .inr rfl
  · exact .inl (List.mem_of_mem_drop (List.mem_of_mem_take third))
  · exact .inr rfl
  · exact .inl (List.mem_of_mem_drop (List.mem_of_mem_take fourth))
  · exact .inr rfl
  · exact .inl (List.mem_of_mem_drop last)

/-- Without its hyphens an identifier is its digits again. -/
theorem filter_grouped {ds : List Char} (noHyphen : '-' ∉ ds) :
    (grouped ds).filter (· != '-') = ds := by
  have kept {part : List Char} (sub : part.Sublist ds) : part.filter (· != '-') = part := by
    refine List.filter_eq_self.mpr fun c member => ?_
    have differs : c ≠ '-' := fun same => noHyphen (same ▸ sub.mem member)
    simpa using differs
  have groups : ds.take 8 ++ ((ds.drop 8).take 4 ++ ((ds.drop 12).take 4 ++
      ((ds.drop 16).take 4 ++ ds.drop 20))) = ds := by
    have join (i : Nat) : (ds.drop i).take 4 ++ ds.drop (i + 4) = ds.drop i := by
      rw [← List.drop_drop, List.take_append_drop]
    rw [join 16, join 12, join 8, List.take_append_drop]
  simp only [grouped, List.filter_append, List.filter_cons, List.append_assoc,
    kept (List.take_sublist _ ds), kept (List.drop_sublist _ ds),
    kept ((List.take_sublist _ _).trans (List.drop_sublist _ ds))]
  exact groups

/-- Of all that a text may carry beside its digits, the text of an identifier has only hyphens. -/
theorem bare_text (n : Nat) : bare (text n).toList = Text.hexText 32 n := by
  have shape : (text n).toList = grouped (Text.hexText 32 n) := String.toList_ofList
  have digit : ∀ v < 16, Text.hexDigit v ∉ ['u', '-', '\x7b', '\x7d'] := by decide
  have plain {c d : Char} (member : c ∈ Text.hexText 32 n) (mark : d ∈ ['u', '-', '\x7b', '\x7d']) :
      c ≠ d := by
    obtain ⟨v, small, rfl⟩ := Text.exists_of_mem_hexText member
    exact fun same => digit v small (same ▸ mark)
  have noHyphen : '-' ∉ Text.hexText 32 n := fun member => plain member (by decide) rfl
  have noMark : 'u' ∉ grouped (Text.hexText 32 n) := fun member => by
    rcases mem_grouped member with digit | same
    · exact plain digit (by decide) rfl
    · cases same
  have noBrace {c : Char} (member : c ∈ grouped (Text.hexText 32 n)) : isBrace c = false := by
    rcases mem_grouped member with digit | rfl
    · simp [isBrace, plain digit (d := '\x7b') (by decide), plain digit (d := '\x7d') (by decide)]
    · rfl
  have urn : Text.replaceAll "urn:".toList [] (grouped (Text.hexText 32 n)) =
      grouped (Text.hexText 32 n) :=
    Text.replaceAll_absent noMark
  have uuid : Text.replaceAll "uuid:".toList [] (grouped (Text.hexText 32 n)) =
      grouped (Text.hexText 32 n) :=
    Text.replaceAll_absent noMark
  have front : Text.Stops isBrace (grouped (Text.hexText 32 n)) :=
    fun c member => noBrace (List.mem_of_mem_head? member)
  have back : Text.Stops isBrace (grouped (Text.hexText 32 n)).reverse :=
    fun c member => noBrace (List.mem_reverse.mp (List.mem_of_mem_head? member))
  rw [bare, shape, urn, uuid, Text.dropWhile_stops front, Text.dropWhile_stops back, List.reverse_reverse,
    filter_grouped noHyphen]

/-- An identifier is the one that its text names. -/
theorem read?_text (fits : n < 2 ^ 128) : read? (text n) = some n := by
  have digits : n < 16 ^ 32 := by omega
  have inRange : (0 : Int) ≤ n ∧ (n : Int) < (Nat.pow 2 128 : Nat) := by
    refine ⟨Int.natCast_nonneg n, ?_⟩
    exact_mod_cast fits
  simp only [read?, bare_text, Text.length_hexText, if_true, Text.readHex?_hexText (by omega) digits]
  rw [if_pos inRange, Int.toNat_natCast]

theorem ofRandomBits_lt (bits : Nat) : ofRandomBits bits < 2 ^ 128 := by
  simp only [ofRandomBits, Nat.pow_eq]
  omega

end Uuid

end ServiceDiagram
