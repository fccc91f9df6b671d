import Mathlib.Data.Nat.Cast.Field
import ServiceDiagram.Number.FloatText
import ServiceDiagram.Proofs.Number.Rounding

namespace ServiceDiagram

namespace Decimal

/-- The rational that a decimal denotes. -/
def value (d : Decimal) : ℚ := d.coefficient * 10 ^ d.exponent

theorem value_eq_zero_iff {d : Decimal} : d.value = 0 ↔ d.coefficient = 0 := by
  have power : (10 : ℚ) ^ d.exponent ≠ 0 := (zpow_pos (by norm_num) _).ne'
  simp [value, power]

theorem value_pos {d : Decimal} (positive : d.coefficient ≠ 0) : 0 < d.value := by
  have coefficient : (0 : ℚ) < d.coefficient := by exact_mod_cast Nat.pos_of_ne_zero positive
  exact mul_pos coefficient (zpow_pos (by norm_num) _)

theorem ratio_den_pos (d : Decimal) : 0 < d.ratio.2 := by
  unfold ratio
  split
  · exact Nat.one_pos
  · exact Nat.pow_pos (by omega)

/-- The two integers of a decimal have its value as their quotient. -/
theorem ratio_value (d : Decimal) : (d.ratio.1 : ℚ) / d.ratio.2 = d.value := by
  unfold ratio value
  split
  · rename_i natural
    rw [Nat.cast_mul, Binary64.natPow_eq_zpow natural]
    norm_num
  · rename_i negative
    have natural : 0 ≤ -d.exponent := by omega
    rw [Binary64.natPow_eq_zpow natural, zpow_neg]
    simp

theorem digitCount_pos (n : Nat) : 0 < digitCount n := Nat.length_toDigits_pos

/-- A number has fewer digits than any power of ten above it. -/
theorem lt_pow_digitCount (n : Nat) : n < 10 ^ digitCount n :=
  (Nat.length_toDigits_le_iff (by omega) (digitCount_pos n)).mp le_rfl

theorem pow_digitCount_le {n : Nat} (positive : n ≠ 0) : 10 ^ (digitCount n - 1) ≤ n := by
  by_cases single : digitCount n - 1 = 0
  · rw [single]
    omega
  · by_contra small
    have short : digitCount n ≤ digitCount n - 1 :=
      (Nat.length_toDigits_le_iff (by omega) (Nat.pos_of_ne_zero single)).mpr (by omega)
    have := digitCount_pos n
    omega

/-- The place of the first digit of a decimal depends on its value alone. -/
theorem places_eq {d : Decimal} (positive : d.coefficient ≠ 0) :
    (digitCount d.coefficient : Int) + d.exponent = Int.log 10 d.value + 1 := by
  have valuePos := value_pos positive
  have count := digitCount_pos d.coefficient
  have power : (0 : ℚ) < 10 ^ d.exponent := zpow_pos (by norm_num) _
  have low : (digitCount d.coefficient : Int) - 1 + d.exponent ≤ Int.log 10 d.value := by
    refine (Int.zpow_le_iff_le_log (by omega) valuePos).mp ?_
    have below : ((10 : ℚ) ^ (digitCount d.coefficient - 1)) ≤ d.coefficient := by
      exact_mod_cast pow_digitCount_le positive
    have cast : ((digitCount d.coefficient - 1 : Nat) : Int) = digitCount d.coefficient - 1 := by
      omega
    rw [← zpow_natCast, cast] at below
    rw [Nat.cast_ofNat, zpow_add₀ (by norm_num), value]
    exact mul_le_mul_of_nonneg_right below power.le
  have high : Int.log 10 d.value < (digitCount d.coefficient : Int) + d.exponent := by
    refine (Int.lt_zpow_iff_log_lt (by omega) valuePos).mp ?_
    have above : (d.coefficient : ℚ) < 10 ^ digitCount d.coefficient := by
      exact_mod_cast lt_pow_digitCount d.coefficient
    rw [Nat.cast_ofNat, zpow_add₀ (by norm_num), value, zpow_natCast]
    exact mul_lt_mul_of_pos_right above power
  omega

/-- Decimals of one value have one nearest binary64 number. -/
theorem toBinary64_congr (negative : Bool) {d d' : Decimal} (same : d.value = d'.value) :
    d.toBinary64 negative = d'.toBinary64 negative := by
  have zeros : d.coefficient = 0 ↔ d'.coefficient = 0 := by
    rw [← value_eq_zero_iff, same, value_eq_zero_iff]
  by_cases zero : d.coefficient = 0
  · simp [toBinary64, zero, zeros.mp zero]
  · have zero' : d'.coefficient ≠ 0 := fun h => zero (zeros.mpr h)
    have rounded : Binary64.ofRatio negative d.ratio.1 d.ratio.2 =
        Binary64.ofRatio negative d'.ratio.1 d'.ratio.2 := by
      refine Binary64.ofRatio_congr negative d.ratio_den_pos d'.ratio_den_pos ?_
      rw [ratio_value, ratio_value, same]
    simp only [toBinary64, zero, zero', places_eq zero, places_eq zero', same, rounded]

/-- The sign of a number is that of the decimal and of nothing else. -/
theorem toBinary64_withSign (negative : Bool) (d : Decimal) :
    d.toBinary64 negative = (d.toBinary64 false).withSign negative := by
  simp only [toBinary64]
  split
  · exact Binary64.ofParts_withSign negative 0 (-1074)
  · split
    · rfl
    · exact Binary64.ofRatio_withSign negative _ _

/-- Powers of eight stay below those of ten, so that a bound by bits is one by digits. -/
theorem lt_ten_pow {v : ℚ} {k : Nat} (below : v < 2 ^ (3 * (k : Int))) : v < 10 ^ (k : Int) := by
  have eight : (2 : ℚ) ^ (3 * (k : Int)) = 8 ^ k := by
    rw [zpow_mul, zpow_natCast]
    norm_num
  rw [eight] at below
  rw [zpow_natCast]
  exact below.trans_le (pow_le_pow_left₀ (by norm_num) (by norm_num) k)

theorem ten_pow_le {v : ℚ} {k : Nat} (above : 2 ^ (-(3 * (k : Int))) ≤ v) :
    10 ^ (-(k : Int)) ≤ v := by
  have eight : (2 : ℚ) ^ (-(3 * (k : Int))) = (8 ^ k)⁻¹ := by
    rw [zpow_neg, zpow_mul, zpow_natCast]
    norm_num
  rw [eight] at above
  rw [zpow_neg, zpow_natCast]
  exact (inv_anti₀ (by positivity) (pow_le_pow_left₀ (by norm_num) (by norm_num) k)).trans above

/-- The magnitudes of finite numbers lie far inside the range in which powers of ten are taken. -/
theorem log_magnitude {m : Nat} {e : Int} (canonical : Binary64.Canonical m e) (positive : 0 < m) :
    -401 ≤ Int.log 10 ((m : ℚ) * 2 ^ e) ∧ Int.log 10 ((m : ℚ) * 2 ^ e) < 400 := by
  obtain ⟨below, least, greatest, _⟩ := canonical
  have power : (0 : ℚ) < 2 ^ e := Binary64.two_zpow_pos e
  have whole : (1 : ℚ) ≤ m := by exact_mod_cast positive
  have valuePos : (0 : ℚ) < (m : ℚ) * 2 ^ e := by positivity
  constructor
  · have above : (2 : ℚ) ^ (-(3 * ((401 : Nat) : Int))) ≤ m * 2 ^ e :=
      (zpow_le_zpow_right₀ (by norm_num) (by omega)).trans (le_mul_of_one_le_left power.le whole)
    exact (Int.zpow_le_iff_le_log (by omega) valuePos).mp (ten_pow_le above)
  · have significand : (m : ℚ) < 2 ^ (53 : Int) := by
      rw [Nat.pow_eq] at below
      exact_mod_cast below
    have within : (m : ℚ) * 2 ^ e < 2 ^ (3 * ((400 : Nat) : Int)) :=
      calc (m : ℚ) * 2 ^ e < 2 ^ (53 : Int) * 2 ^ e := mul_lt_mul_of_pos_right significand power
        _ = 2 ^ (53 + e) := (zpow_add₀ (by norm_num) 53 e).symm
        _ ≤ 2 ^ (3 * ((400 : Nat) : Int)) := zpow_le_zpow_right₀ (by norm_num) (by omega)
    exact (Int.lt_zpow_iff_log_lt (by omega) valuePos).mp (lt_ten_pow within)

/-- The number nearest to a decimal that denotes a finite number is that number. -/
theorem toBinary64_exact (negative : Bool) {d : Decimal} {m : Nat} {e : Int}
    (canonical : Binary64.Canonical m e) (positive : 0 < m) (same : d.value = m * 2 ^ e) :
    d.toBinary64 negative = .finite negative m e canonical := by
  have nonzero : d.coefficient ≠ 0 := by
    intro zero
    have whole : (0 : ℚ) < m := by exact_mod_cast positive
    rw [value_eq_zero_iff.mpr zero] at same
    exact (mul_pos whole (Binary64.two_zpow_pos e)).ne same
  obtain ⟨low, high⟩ := log_magnitude canonical positive
  rw [← same] at low high
  have places := places_eq nonzero
  have notTiny : ¬ (d.coefficient = 0 ∨ (digitCount d.coefficient : Int) + d.exponent < -400) := by
    omega
  have notHuge : ¬ 400 < (digitCount d.coefficient : Int) + d.exponent := by omega
  simp only [toBinary64, notTiny, notHuge, if_false]
  exact Binary64.ofRatio_exact negative d.ratio_den_pos canonical positive (by rw [ratio_value, same])

/-- Noughts at the end do not count. -/
theorem trimNoughts_value (fuel : Nat) (d : Decimal) : (trimNoughts fuel d).value = d.value := by
  induction fuel generalizing d with
  | zero => rfl
  | succ fuel ih =>
    unfold trimNoughts
    split
    · rename_i divisible
      have tenfold : d.coefficient = d.coefficient / 10 * 10 := by omega
      have cast : (d.coefficient : ℚ) = (d.coefficient / 10 : Nat) * 10 := by
        exact_mod_cast tenfold
      rw [ih, value, value, zpow_add_one₀ (by norm_num), cast]
      ring
    · rfl

/-- A neighbour that is taken reads back as the number. -/
theorem neighbour?_reads {x : Binary64} {unit : Int} {n d : Nat} {c : Decimal}
    (found : neighbour? x unit n d = some c) : c.toBinary64 false = x := by
  simp only [neighbour?] at found
  split at found
  · rename_i readsBelow readsAbove
    split at found
    · rw [← Option.some.inj found]
      exact eq_of_beq readsBelow
    · split at found
      · rw [← Option.some.inj found]
        exact eq_of_beq readsAbove
      · split at found
        · rw [← Option.some.inj found]
          exact eq_of_beq readsBelow
        · rw [← Option.some.inj found]
          exact eq_of_beq readsAbove
  · rename_i readsBelow _
    rw [← Option.some.inj found]
    exact eq_of_beq readsBelow
  · rename_i _ readsAbove
    rw [← Option.some.inj found]
    exact eq_of_beq readsAbove
  · cases found

/-- What is found on a grid reads back: that is how it is chosen. -/
theorem onGrid?_reads {x : Binary64} {num den count : Nat} {c : Decimal}
    (found : onGrid? x num den count = some c) : c.toBinary64 false = x := by
  unfold onGrid? at found
  extract_lets unit at found
  split at found
  · exact neighbour?_reads found
  · exact neighbour?_reads found

theorem magnitude_value (m : Nat) (e : Int) :
    ((Binary64.magnitude m e).1 : ℚ) / (Binary64.magnitude m e).2 = m * 2 ^ e := by
  unfold Binary64.magnitude
  split
  · rename_i natural
    rw [Nat.cast_mul, Binary64.natPow_eq_zpow natural]
    norm_num
  · rename_i negative
    have natural : 0 ≤ -e := by omega
    rw [Binary64.natPow_eq_zpow natural, zpow_neg]
    simp

theorem magnitude_den_pos (m : Nat) (e : Int) : 0 < (Binary64.magnitude m e).2 := by
  unfold Binary64.magnitude
  split
  · exact Nat.one_pos
  · exact Nat.pow_pos (by omega)

/-- The denominator of a magnitude divides a power of ten that is large enough. -/
theorem magnitude_den_dvd {m k : Nat} {e : Int} (enough : -(k : Int) ≤ e) :
    (Binary64.magnitude m e).2 ∣ 10 ^ k := by
  unfold Binary64.magnitude
  split
  · exact one_dvd _
  · have factors : (10 : Nat) ^ k = 2 ^ k * 5 ^ k := Nat.mul_pow 2 5 k
    rw [factors, Nat.pow_eq]
    exact (pow_dvd_pow 2 (by omega)).trans (Nat.dvd_mul_right _ _)

/-- With places enough, the decimal that cuts a magnitude off has its exact value. -/
theorem cut_value {m k : Nat} {e : Int} (enough : -(k : Int) ≤ e) :
    (Decimal.mk ((Binary64.magnitude m e).1 * Nat.pow 10 k / (Binary64.magnitude m e).2)
      (-(k : Int))).value = m * 2 ^ e := by
  have divides : (Binary64.magnitude m e).2 ∣ (Binary64.magnitude m e).1 * Nat.pow 10 k :=
    (magnitude_den_dvd enough).mul_left _
  have denNe : ((Binary64.magnitude m e).2 : ℚ) ≠ 0 := by
    exact_mod_cast (magnitude_den_pos m e).ne'
  have power : ((Nat.pow 10 k : Nat) : ℚ) * 10 ^ (-(k : Int)) = 1 := by
    rw [Nat.pow_eq, Nat.cast_pow, Nat.cast_ofNat, zpow_neg, zpow_natCast]
    exact mul_inv_cancel₀ (pow_ne_zero k (by norm_num))
  rw [value, Nat.cast_div divides denNe, Nat.cast_mul, ← magnitude_value m e]
  calc ((Binary64.magnitude m e).1 : ℚ) * (Nat.pow 10 k : Nat) / (Binary64.magnitude m e).2 *
        10 ^ (-(k : Int))
      = (Binary64.magnitude m e).1 / (Binary64.magnitude m e).2 *
          ((Nat.pow 10 k : Nat) * 10 ^ (-(k : Int))) := by ring
    _ = (Binary64.magnitude m e).1 / (Binary64.magnitude m e).2 := by rw [power, mul_one]

/-- The shortest decimal of a positive finite number has that number nearest to it. -/
theorem shortest_reads {m : Nat} {e : Int} (canonical : Binary64.Canonical m e) (positive : 0 < m) :
    (shortest m e).toBinary64 false = .finite false m e canonical := by
  simp only [shortest]
  rw [toBinary64_congr false (trimNoughts_value 20 _)]
  cases found : (List.range 17).findSome? fun i =>
      onGrid? (Binary64.ofParts false m e) (Binary64.magnitude m e).1
        (Binary64.magnitude m e).2 (i + 1) with
  | some d =>
    obtain ⟨i, _, onGrid⟩ := List.exists_of_findSome?_eq_some found
    rw [Option.getD_some, onGrid?_reads onGrid]
    simp only [Binary64.ofParts, canonical, dite_true]
  | none =>
    rw [Option.getD_none]
    -- The count of places is made a variable, or its power of ten would be computed.
    obtain ⟨k, places⟩ : ∃ k : Nat, 1100 = k := ⟨_, rfl⟩
    have exponent : (-1100 : Int) = -(k : Int) := by omega
    have enough : -(k : Int) ≤ e := by
      have := canonical.2.1
      omega
    rw [exponent, places]
    exact toBinary64_exact false canonical positive (cut_value enough)

end Decimal
end ServiceDiagram
