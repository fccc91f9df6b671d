import Mathlib.Tactic.Common
import ServiceDiagram.Text.Utf8

namespace ServiceDiagram.Text.Utf8

variable {pos : Nat} {b : UInt8} {rest : List UInt8} {cs : List Char}

/-- The bytes of a text. -/
def encode (cs : List Char) : List UInt8 := cs.flatMap String.utf8EncodeChar

theorem ofFirst?_two (low : 0xC2 ≤ b.toNat) (high : b.toNat ≤ 0xDF) :
    Pending.ofFirst? pos b = some ⟨pos, b, 1, 0x80, 0xBF, b.toNat - 0xC0⟩ := by
  unfold Pending.ofFirst?
  dsimp only
  rw [if_pos ⟨low, high⟩]

theorem ofFirst?_three (low : 0xE0 ≤ b.toNat) (high : b.toNat ≤ 0xEF) :
    Pending.ofFirst? pos b = some ⟨pos, b, 2, if b.toNat = 0xE0 then 0xA0 else 0x80,
      if b.toNat = 0xED then 0x9F else 0xBF, b.toNat - 0xE0⟩ := by
  unfold Pending.ofFirst?
  dsimp only
  rw [if_neg (by omega)]
  by_cases first : b.toNat = 0xE0
  · simp [first]
  · rw [if_neg first, if_neg first]
    by_cases surrogates : b.toNat = 0xED
    · simp [surrogates]
    · rw [if_neg surrogates, if_neg surrogates, if_pos (by omega)]

theorem ofFirst?_four (low : 0xF0 ≤ b.toNat) (high : b.toNat ≤ 0xF4) :
    Pending.ofFirst? pos b = some ⟨pos, b, 3, if b.toNat = 0xF0 then 0x90 else 0x80,
      if b.toNat = 0xF4 then 0x8F else 0xBF, b.toNat - 0xF0⟩ := by
  unfold Pending.ofFirst?
  dsimp only
  rw [if_neg (by omega), if_neg (by omega), if_neg (by omega), if_neg (by omega)]
  by_cases first : b.toNat = 0xF0
  · simp [first]
  · rw [if_neg first, if_neg first]
    by_cases last : b.toNat = 0xF4
    · simp [last]
    · rw [if_neg last, if_neg last, if_pos (by omega)]

theorem ofFirst?_none (noFirst : b.toNat < 0xC2 ∨ 0xF4 < b.toNat) :
    Pending.ofFirst? pos b = none := by
  unfold Pending.ofFirst?
  dsimp only
  rw [if_neg (by omega), if_neg (by omega), if_neg (by omega), if_neg (by omega),
    if_neg (by omega), if_neg (by omega), if_neg (by omega)]

theorem map_cons_ok {x : Except DecodeError (List Char)} {c : Char} :
    x.map (c :: ·) = .ok cs ↔ ∃ cs', cs = c :: cs' ∧ x = .ok cs' := by
  cases x with
  | error e => simp [Except.map]
  | ok cs' => simp [Except.map, eq_comm]

/-- A byte below 128 is a character of its own. -/
theorem decodeFrom_ascii (ascii : b.toNat < 0x80) :
    decodeFrom pos none (b :: rest) = .ok cs ↔
      ∃ cs', cs = Char.ofNat b.toNat :: cs' ∧ decodeFrom (pos + 1) none rest = .ok cs' := by
  rw [decodeFrom, if_pos ascii, map_cons_ok]

theorem decodeFrom_first {p : Pending} (first : Pending.ofFirst? pos b = some p) :
    decodeFrom pos none (b :: rest) = decodeFrom (pos + 1) (some p) rest := by
  have notAscii : ¬ b.toNat < 0x80 := by
    intro ascii
    rw [ofFirst?_none (by omega)] at first
    nomatch first
  rw [decodeFrom, if_neg notAscii, first]

/-- The last byte that is owed ends a character. -/
theorem decodeFrom_last {start : Nat} {first : UInt8} {low high value : Nat} :
    decodeFrom pos (some ⟨start, first, 1, low, high, value⟩) rest = .ok cs ↔
      ∃ b rest' cs', rest = b :: rest' ∧ (low ≤ b.toNat ∧ b.toNat ≤ high) ∧
        cs = Char.ofNat (value * 64 + (b.toNat - 0x80)) :: cs' ∧
        decodeFrom (pos + 1) none rest' = .ok cs' := by
  cases rest with
  | nil => simp [decodeFrom]
  | cons b rest =>
    rw [decodeFrom]
    dsimp only
    split
    · rename_i inside
      rw [if_pos (Nat.le_refl 1), map_cons_ok]
      simp [inside]
    · rename_i outside
      simp only [reduceCtorEq, false_iff]
      rintro ⟨_, _, _, same, inside, -⟩
      cases same
      exact outside inside

/-- A byte that is not the last owed is followed by such as may stand anywhere in a character. -/
theorem decodeFrom_owed {start : Nat} {first : UInt8} {owed low high value : Nat} (more : 1 ≤ owed) :
    decodeFrom pos (some ⟨start, first, owed + 1, low, high, value⟩) rest = .ok cs ↔
      ∃ b rest', rest = b :: rest' ∧ (low ≤ b.toNat ∧ b.toNat ≤ high) ∧
        decodeFrom (pos + 1) (some ⟨start, first, owed, 0x80, 0xBF, value * 64 + (b.toNat - 0x80)⟩)
          rest' = .ok cs := by
  cases rest with
  | nil => simp [decodeFrom]
  | cons b rest =>
    rw [decodeFrom]
    dsimp only
    split
    · rename_i inside
      rw [if_neg (by omega), Nat.add_sub_cancel]
      simp [inside]
    · rename_i outside
      simp only [reduceCtorEq, false_iff]
      rintro ⟨_, _, same, inside, -⟩
      cases same
      exact outside inside

theorem exists_byte (n : Nat) (small : n < 256) : ∃ b : UInt8, UInt8.ofNat n = b ∧ b.toNat = n :=
  ⟨_, rfl, UInt8.toNat_ofNat_of_lt' small⟩

theorem ofNat_eq {n : Nat} (same : n = b.toNat) : UInt8.ofNat n = b := by
  rw [same, UInt8.ofNat_toNat]

theorem toNat_ofNat {n : Nat} (scalar : n < 0xD800 ∨ 0xDFFF < n ∧ n < 0x110000) :
    (Char.ofNat n).toNat = n := by
  have valid : n.isValidChar := scalar
  rw [Char.ofNat, dif_pos valid]
  rfl

/-- How a code point is encoded, by its size. -/
theorem encode_ofNat {n : Nat} (scalar : n < 0xD800 ∨ 0xDFFF < n ∧ n < 0x110000) :
    String.utf8EncodeChar (Char.ofNat n) =
      if n ≤ 0x7F then [UInt8.ofNat n]
      else if n ≤ 0x7FF then [UInt8.ofNat (n / 64 % 32 + 192), UInt8.ofNat (n % 64 + 128)]
      else if n ≤ 0xFFFF then
        [UInt8.ofNat (n / 4096 % 16 + 224), UInt8.ofNat (n / 64 % 64 + 128), UInt8.ofNat (n % 64 + 128)]
      else
        [UInt8.ofNat (n / 262144 % 8 + 240), UInt8.ofNat (n / 4096 % 64 + 128),
          UInt8.ofNat (n / 64 % 64 + 128), UInt8.ofNat (n % 64 + 128)] := by
  have code : (Char.ofNat n).val.toNat = n := toNat_ofNat scalar
  unfold String.utf8EncodeChar
  dsimp only
  rw [code]

variable {b₀ b₁ b₂ b₃ : UInt8} {n : Nat}

theorem encode_one (low : b₀.toNat < 0x80) :
    String.utf8EncodeChar (Char.ofNat b₀.toNat) = [b₀] := by
  rw [encode_ofNat (by omega), if_pos (by omega), UInt8.ofNat_toNat]

/-- Two bytes that are let pass are those of the character that they are decoded as. -/
theorem encode_two (value : n = (b₀.toNat - 0xC0) * 64 + (b₁.toNat - 0x80))
    (first : 0xC2 ≤ b₀.toNat ∧ b₀.toNat ≤ 0xDF) (second : 0x80 ≤ b₁.toNat ∧ b₁.toNat ≤ 0xBF) :
    String.utf8EncodeChar (Char.ofNat n) = [b₀, b₁] := by
  have byte₀ : UInt8.ofNat (n / 64 % 32 + 192) = b₀ := ofNat_eq (by omega)
  have byte₁ : UInt8.ofNat (n % 64 + 128) = b₁ := ofNat_eq (by omega)
  rw [encode_ofNat (by omega), if_neg (by omega), if_pos (by omega), byte₀, byte₁]

/-- Three bytes that are let pass are those of their character: neither overlong groups nor those of
surrogates pass. -/
theorem encode_three
    (value : n = ((b₀.toNat - 0xE0) * 64 + (b₁.toNat - 0x80)) * 64 + (b₂.toNat - 0x80))
    (first : 0xE0 ≤ b₀.toNat ∧ b₀.toNat ≤ 0xEF)
    (second : (if b₀.toNat = 0xE0 then 0xA0 else 0x80) ≤ b₁.toNat ∧
      b₁.toNat ≤ if b₀.toNat = 0xED then 0x9F else 0xBF)
    (third : 0x80 ≤ b₂.toNat ∧ b₂.toNat ≤ 0xBF) :
    String.utf8EncodeChar (Char.ofNat n) = [b₀, b₁, b₂] := by
  have inside : 0x800 ≤ n ∧ (n < 0xD800 ∨ 0xDFFF < n) ∧ n < 0x10000 ∧ 0x80 ≤ b₁.toNat ∧
      b₁.toNat ≤ 0xBF := by
    split at second <;> split at second <;> omega
  have byte₀ : UInt8.ofNat (n / 4096 % 16 + 224) = b₀ := ofNat_eq (by omega)
  have byte₁ : UInt8.ofNat (n / 64 % 64 + 128) = b₁ := ofNat_eq (by omega)
  have byte₂ : UInt8.ofNat (n % 64 + 128) = b₂ := ofNat_eq (by omega)
  rw [encode_ofNat (by omega), if_neg (by omega), if_neg (by omega), if_pos (by omega), byte₀,
    byte₁, byte₂]

/-- Four bytes that are let pass are those of their character, up to the last code point. -/
theorem encode_four
    (value : n = (((b₀.toNat - 0xF0) * 64 + (b₁.toNat - 0x80)) * 64 + (b₂.toNat - 0x80)) * 64 +
      (b₃.toNat - 0x80))
    (first : 0xF0 ≤ b₀.toNat ∧ b₀.toNat ≤ 0xF4)
    (second : (if b₀.toNat = 0xF0 then 0x90 else 0x80) ≤ b₁.toNat ∧
      b₁.toNat ≤ if b₀.toNat = 0xF4 then 0x8F else 0xBF)
    (third : 0x80 ≤ b₂.toNat ∧ b₂.toNat ≤ 0xBF) (fourth : 0x80 ≤ b₃.toNat ∧ b₃.toNat ≤ 0xBF) :
    String.utf8EncodeChar (Char.ofNat n) = [b₀, b₁, b₂, b₃] := by
  have inside : 0x10000 ≤ n ∧ n < 0x110000 ∧ 0x80 ≤ b₁.toNat ∧ b₁.toNat ≤ 0xBF := by
    split at second <;> split at second <;> omega
  have byte₀ : UInt8.ofNat (n / 262144 % 8 + 240) = b₀ := ofNat_eq (by omega)
  have byte₁ : UInt8.ofNat (n / 4096 % 64 + 128) = b₁ := ofNat_eq (by omega)
  have byte₂ : UInt8.ofNat (n / 64 % 64 + 128) = b₂ := ofNat_eq (by omega)
  have byte₃ : UInt8.ofNat (n % 64 + 128) = b₃ := ofNat_eq (by omega)
  rw [encode_ofNat (by omega), if_neg (by omega), if_neg (by omega), if_neg (by omega), byte₀,
    byte₁, byte₂, byte₃]

/-- Bytes that are decoded begin with what the first character is encoded as. -/
theorem exists_encode_of_decodeFrom (ok : decodeFrom pos none (b :: rest) = .ok cs) :
    ∃ c cs' rest' pos', b :: rest = String.utf8EncodeChar c ++ rest' ∧ cs = c :: cs' ∧
      decodeFrom pos' none rest' = .ok cs' := by
  by_cases ascii : b.toNat < 0x80
  · obtain ⟨cs', rfl, later⟩ := (decodeFrom_ascii ascii).mp ok
    exact ⟨_, cs', rest, _, by rw [encode_one ascii]; rfl, rfl, later⟩
  by_cases two : 0xC2 ≤ b.toNat ∧ b.toNat ≤ 0xDF
  · rw [decodeFrom_first (ofFirst?_two two.1 two.2), decodeFrom_last] at ok
    obtain ⟨b₁, rest', cs', rfl, second, rfl, later⟩ := ok
    exact ⟨_, cs', rest', _, by rw [encode_two rfl two second]; rfl, rfl, later⟩
  by_cases three : 0xE0 ≤ b.toNat ∧ b.toNat ≤ 0xEF
  · rw [decodeFrom_first (ofFirst?_three three.1 three.2), decodeFrom_owed (Nat.le_refl 1)] at ok
    obtain ⟨b₁, rest₁, rfl, second, ok⟩ := ok
    obtain ⟨b₂, rest', cs', rfl, third, rfl, later⟩ := decodeFrom_last.mp ok
    exact ⟨_, cs', rest', _, by rw [encode_three rfl three second third]; rfl, rfl, later⟩
  by_cases four : 0xF0 ≤ b.toNat ∧ b.toNat ≤ 0xF4
  · rw [decodeFrom_first (ofFirst?_four four.1 four.2), decodeFrom_owed (by decide : 1 ≤ 2)] at ok
    obtain ⟨b₁, rest₁, rfl, second, ok⟩ := ok
    obtain ⟨b₂, rest₂, rfl, third, ok⟩ := (decodeFrom_owed (Nat.le_refl 1)).mp ok
    obtain ⟨b₃, rest', cs', rfl, fourth, rfl, later⟩ := decodeFrom_last.mp ok
    exact ⟨_, cs', rest', _, by rw [encode_four rfl four second third fourth]; rfl, rfl, later⟩
  · rw [decodeFrom, if_neg ascii, ofFirst?_none (by omega)] at ok
    nomatch ok

/-- What a character is encoded as is decoded as this character, whatever comes after it. -/
theorem decodeFrom_encode (c : Char) (later : ∀ pos, decodeFrom pos none rest = .ok cs) :
    decodeFrom pos none (String.utf8EncodeChar c ++ rest) = .ok (c :: cs) := by
  obtain ⟨n, scalar, rfl⟩ : ∃ n, (n < 0xD800 ∨ 0xDFFF < n ∧ n < 0x110000) ∧ Char.ofNat n = c :=
    ⟨c.toNat, c.valid, Char.ofNat_toNat c⟩
  have same : ∀ {m}, m = n → Char.ofNat n :: cs = Char.ofNat m :: cs := fun h => by rw [h]
  rw [encode_ofNat scalar]
  split
  · obtain ⟨b₀, enc₀, byte₀⟩ := exists_byte n (by omega)
    rw [enc₀]
    exact (decodeFrom_ascii (by omega)).mpr ⟨cs, same byte₀, later _⟩
  split
  · obtain ⟨b₀, enc₀, byte₀⟩ := exists_byte (n / 64 % 32 + 192) (by omega)
    obtain ⟨b₁, enc₁, byte₁⟩ := exists_byte (n % 64 + 128) (by omega)
    rw [enc₀, enc₁, List.cons_append, decodeFrom_first (ofFirst?_two (by omega) (by omega))]
    exact decodeFrom_last.mpr ⟨b₁, rest, cs, rfl, by omega, same (by omega), later _⟩
  split
  · obtain ⟨b₀, enc₀, byte₀⟩ := exists_byte (n / 4096 % 16 + 224) (by omega)
    obtain ⟨b₁, enc₁, byte₁⟩ := exists_byte (n / 64 % 64 + 128) (by omega)
    obtain ⟨b₂, enc₂, byte₂⟩ := exists_byte (n % 64 + 128) (by omega)
    rw [enc₀, enc₁, enc₂, List.cons_append,
      decodeFrom_first (ofFirst?_three (by omega) (by omega))]
    refine (decodeFrom_owed (Nat.le_refl 1)).mpr ⟨b₁, _, rfl, ?_, ?_⟩
    · split <;> split <;> omega
    · exact decodeFrom_last.mpr ⟨b₂, rest, cs, rfl, by omega, same (by omega), later _⟩
  · obtain ⟨b₀, enc₀, byte₀⟩ := exists_byte (n / 262144 % 8 + 240) (by omega)
    obtain ⟨b₁, enc₁, byte₁⟩ := exists_byte (n / 4096 % 64 + 128) (by omega)
    obtain ⟨b₂, enc₂, byte₂⟩ := exists_byte (n / 64 % 64 + 128) (by omega)
    obtain ⟨b₃, enc₃, byte₃⟩ := exists_byte (n % 64 + 128) (by omega)
    rw [enc₀, enc₁, enc₂, enc₃, List.cons_append,
      decodeFrom_first (ofFirst?_four (by omega) (by omega))]
    refine (decodeFrom_owed (by decide : 1 ≤ 2)).mpr ⟨b₁, _, rfl, ?_, ?_⟩
    · split <;> split <;> omega
    refine (decodeFrom_owed (Nat.le_refl 1)).mpr ⟨b₂, _, rfl, by omega, ?_⟩
    exact decodeFrom_last.mpr ⟨b₃, rest, cs, rfl, by omega, same (by omega), later _⟩

/-- Bytes that are decoded are what the text is encoded as. -/
theorem eq_encode_of_decodeFrom {bytes : List UInt8} (ok : decodeFrom pos none bytes = .ok cs) :
    bytes = encode cs := by
  induction size : bytes.length using Nat.strongRecOn generalizing bytes pos cs with
  | _ n ih =>
    cases bytes with
    | nil =>
      cases ok
      rfl
    | cons b rest =>
      obtain ⟨c, cs, rest', pos', same, rfl, later⟩ := exists_encode_of_decodeFrom ok
      have fewer : rest'.length < n := by
        have positive := c.utf8Size_pos
        rw [← size, same, List.length_append, String.length_utf8EncodeChar]
        omega
      rw [same, ih _ fewer later rfl, encode, encode, List.flatMap_cons]

/-- What a text is encoded as is decoded as the text. -/
theorem decode_encode (cs : List Char) : decode (encode cs) = .ok cs := by
  have decoded : ∀ pos, decodeFrom pos none (encode cs) = .ok cs := by
    induction cs with
    | nil => exact fun _ => rfl
    | cons c cs ih =>
      rw [encode, List.flatMap_cons]
      exact fun _ => decodeFrom_encode c ih
  exact decoded 0

/-- Bytes are decoded exactly if they are those of a text, and as that text. -/
theorem decode_ok_iff {bytes : List UInt8} : decode bytes = .ok cs ↔ bytes = encode cs := by
  refine ⟨eq_encode_of_decodeFrom, ?_⟩
  rintro rfl
  exact decode_encode cs

end ServiceDiagram.Text.Utf8
