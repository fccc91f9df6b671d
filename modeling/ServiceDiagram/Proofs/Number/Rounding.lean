import Mathlib.Data.Int.Log
import Mathlib.Data.Rat.Floor
import Mathlib.Tactic.FieldSimp
import Mathlib.Tactic.Linarith
import ServiceDiagram.Number.Binary64

namespace ServiceDiagram.Binary64

theorem two_zpow_pos (e : Int) : (0 : ℚ) < 2 ^ e := zpow_pos (by norm_num) e

theorem natPow_eq_zpow {e : Int} (natural : 0 ≤ e) (b : Nat) :
    ((Nat.pow b e.toNat : Nat) : ℚ) = (b : ℚ) ^ e := by
  have same : ((e.toNat : Nat) : Int) = e := Int.toNat_of_nonneg natural
  rw [Nat.pow_eq, Nat.cast_pow, ← zpow_natCast, same]

theorem inUnits_den_pos {num den : Nat} (positive : 0 < den) (e : Int) :
    0 < (inUnits num den e).2 := by
  unfold inUnits
  split
  · exact Nat.mul_pos positive (Nat.pow_pos (by omega))
  · exact positive

/-- Changing the unit divides the value by the unit. -/
theorem inUnits_value (num den : Nat) (e : Int) :
    ((inUnits num den e).1 : ℚ) / (inUnits num den e).2 = num / den / 2 ^ e := by
  unfold inUnits
  split
  · rename_i natural
    rw [Nat.cast_mul, natPow_eq_zpow natural, div_div]
    norm_num
  · rename_i negative
    have natural : 0 ≤ -e := by omega
    rw [Nat.cast_mul, natPow_eq_zpow natural, zpow_neg]
    simp only [Nat.cast_ofNat, div_eq_mul_inv]
    ring

/-- A number lies between the powers of two with its logarithm and with the next one. -/
theorem log2_bounds {n : Nat} (positive : 0 < n) :
    (2 : ℚ) ^ (n.log2 : Int) ≤ n ∧ (n : ℚ) < 2 ^ ((n.log2 : Int) + 1) := by
  have high : (n : ℚ) < 2 ^ (n.log2 + 1) := by exact_mod_cast Nat.lt_log2_self
  constructor
  · rw [zpow_natCast]
    exact_mod_cast Nat.log2_self_le positive.ne'
  · exact_mod_cast high

/-- The quotient of two numbers lies within a factor of two of the quotient of the powers of two
below them. -/
theorem log_ratio {num den : Nat} (numPos : 0 < num) (denPos : 0 < den) :
    (num.log2 : Int) - den.log2 - 1 ≤ Int.log 2 ((num : ℚ) / den) ∧
      Int.log 2 ((num : ℚ) / den) ≤ (num.log2 : Int) - den.log2 := by
  have denPos' : (0 : ℚ) < den := by exact_mod_cast denPos
  have valuePos : (0 : ℚ) < (num : ℚ) / den := by positivity
  obtain ⟨numLow, numHigh⟩ := log2_bounds numPos
  obtain ⟨denLow, denHigh⟩ := log2_bounds denPos
  constructor
  · have low : ((2 : Nat) : ℚ) ^ ((num.log2 : Int) - den.log2 - 1) ≤ num / den := by
      rw [le_div_iff₀ denPos']
      calc ((2 : Nat) : ℚ) ^ ((num.log2 : Int) - den.log2 - 1) * den
          ≤ 2 ^ ((num.log2 : Int) - den.log2 - 1) * 2 ^ ((den.log2 : Int) + 1) :=
            mul_le_mul_of_nonneg_left denHigh.le (two_zpow_pos _).le
        _ = 2 ^ (num.log2 : Int) := by
            rw [← zpow_add₀ (by norm_num)]
            congr 1
            ring
        _ ≤ num := numLow
    exact (Int.zpow_le_iff_le_log (by omega) valuePos).mp low
  · have high : (num : ℚ) / den < ((2 : Nat) : ℚ) ^ ((num.log2 : Int) - den.log2 + 1) := by
      rw [div_lt_iff₀ denPos']
      calc (num : ℚ) < 2 ^ ((num.log2 : Int) + 1) := numHigh
        _ = 2 ^ ((num.log2 : Int) - den.log2 + 1) * 2 ^ (den.log2 : Int) := by
            rw [← zpow_add₀ (by norm_num)]
            congr 1
            ring
        _ ≤ ((2 : Nat) : ℚ) ^ ((num.log2 : Int) - den.log2 + 1) * den :=
            mul_le_mul_of_nonneg_left denLow (two_zpow_pos _).le
    have below := (Int.lt_zpow_iff_log_lt (by omega) valuePos).mp high
    omega

/-- The grid around a positive value is that of its leading power of two. -/
theorem gridExponent_eq {num den : Nat} (numPos : 0 < num) (denPos : 0 < den) :
    gridExponent num den = max (Int.log 2 ((num : ℚ) / den) - 52) (-1074) := by
  have valuePos : (0 : ℚ) < (num : ℚ) / den := by positivity
  obtain ⟨low, high⟩ := log_ratio numPos denPos
  simp only [gridExponent]
  generalize guess : (num.log2 : Int) - (den.log2 : Int) - 53 = e
  have scaled := inUnits_value num den e
  have unitPos : (0 : ℚ) < (inUnits num den e).2 := by
    exact_mod_cast inUnits_den_pos denPos e
  have filled : Nat.pow 2 53 * (inUnits num den e).2 ≤ (inUnits num den e).1 ↔
      e + 53 ≤ Int.log 2 ((num : ℚ) / den) := by
    rw [← Int.zpow_le_iff_le_log (by omega) valuePos, Nat.pow_eq]
    calc 2 ^ 53 * (inUnits num den e).2 ≤ (inUnits num den e).1
        ↔ (2 : ℚ) ^ 53 * (inUnits num den e).2 ≤ (inUnits num den e).1 := by
          exact_mod_cast Iff.rfl
      _ ↔ (2 : ℚ) ^ 53 ≤ num / den / 2 ^ e := by rw [← scaled, le_div_iff₀ unitPos]
      _ ↔ ((2 : Nat) : ℚ) ^ (e + 53) ≤ num / den := by
          rw [le_div_iff₀ (two_zpow_pos e), zpow_add₀ (by norm_num), mul_comm]
          norm_num
  simp only [filled]
  congr 1
  split <;> omega

/-- Rounding a quotient does not depend on the fraction that is written for it. -/
theorem roundDiv_congr {n d n' d' : Nat} (dPos : 0 < d) (dPos' : 0 < d')
    (same : n * d' = n' * d) : roundDiv n d = roundDiv n' d' := by
  have quotient : n / d = n' / d' := by
    rw [← Nat.mul_div_mul_right n d dPos', same, Nat.mul_comm d d', Nat.mul_div_mul_right _ _ dPos]
  have rest : n % d * d' = n' % d' * d := by
    rw [← Nat.mul_mod_mul_right, ← Nat.mul_mod_mul_right, same, Nat.mul_comm d d']
  have below : 2 * (n % d) < d ↔ 2 * (n' % d') < d' := by
    rw [← Nat.mul_lt_mul_right dPos', ← Nat.mul_lt_mul_right (a := d) (b := 2 * (n' % d')) dPos,
      Nat.mul_assoc, rest, ← Nat.mul_assoc, Nat.mul_comm d d']
  have above : d < 2 * (n % d) ↔ d' < 2 * (n' % d') := by
    rw [← Nat.mul_lt_mul_right dPos', ← Nat.mul_lt_mul_right (a := d) (b := d') dPos,
      Nat.mul_assoc, rest, ← Nat.mul_assoc, Nat.mul_comm d d']
  simp only [roundDiv, quotient, below, above]

/-- A quotient that comes out even is not rounded. -/
theorem roundDiv_exact (m : Nat) {d : Nat} (positive : 0 < d) : roundDiv (m * d) d = m := by
  simp [roundDiv, Nat.mul_div_cancel m positive, positive]

/-- Two fractions of one value, multiplied crosswise. -/
theorem cross_of_div_eq {n d n' d' : Nat} (dPos : 0 < d) (dPos' : 0 < d')
    (same : (n : ℚ) / d = n' / d') : n * d' = n' * d := by
  have dNe : (d : ℚ) ≠ 0 := by exact_mod_cast dPos.ne'
  have dNe' : (d' : ℚ) ≠ 0 := by exact_mod_cast dPos'.ne'
  rw [div_eq_div_iff dNe dNe'] at same
  exact_mod_cast same

/-- Equal rationals are rounded to the same number. -/
theorem ofRatio_congr (negative : Bool) {num den num' den' : Nat} (denPos : 0 < den)
    (denPos' : 0 < den') (same : (num : ℚ) / den = num' / den') :
    ofRatio negative num den = ofRatio negative num' den' := by
  have cross := cross_of_div_eq denPos denPos' same
  by_cases zero : num = 0
  · have zero' : num' = 0 := by
      rw [zero, Nat.zero_mul] at cross
      exact (Nat.mul_eq_zero.mp cross.symm).resolve_right denPos.ne'
    simp [ofRatio, zero, zero']
  · have zero' : num' ≠ 0 := by
      rintro rfl
      rw [Nat.zero_mul] at cross
      exact zero ((Nat.mul_eq_zero.mp cross).resolve_right denPos'.ne')
    have grid : gridExponent num den = gridExponent num' den' := by
      rw [gridExponent_eq (Nat.pos_of_ne_zero zero) denPos,
        gridExponent_eq (Nat.pos_of_ne_zero zero') denPos', same]
    have rounded : ∀ e, roundDiv (inUnits num den e).1 (inUnits num den e).2 =
        roundDiv (inUnits num' den' e).1 (inUnits num' den' e).2 := by
      intro e
      refine roundDiv_congr (inUnits_den_pos denPos e) (inUnits_den_pos denPos' e) ?_
      refine cross_of_div_eq (inUnits_den_pos denPos e) (inUnits_den_pos denPos' e) ?_
      rw [inUnits_value, inUnits_value, same]
    simp only [ofRatio, zero, zero', if_false, grid, rounded]

/-- The leading power of two of a canonical form: 52 places above its exponent, unless that is
the least one. -/
theorem Canonical.grid {m : Nat} {e : Int} (canonical : Canonical m e) (positive : 0 < m) :
    max (Int.log 2 ((m : ℚ) * 2 ^ e) - 52) (-1074) = e := by
  obtain ⟨below, least, _, full⟩ := canonical
  have valuePos : (0 : ℚ) < (m : ℚ) * 2 ^ e :=
    mul_pos (by exact_mod_cast positive) (two_zpow_pos e)
  have high : Int.log 2 ((m : ℚ) * 2 ^ e) < e + 53 := by
    refine (Int.lt_zpow_iff_log_lt (by omega) valuePos).mp ?_
    rw [zpow_add₀ (by norm_num), mul_comm]
    refine mul_lt_mul_of_pos_left ?_ (two_zpow_pos e)
    rw [Nat.pow_eq] at below
    exact_mod_cast below
  rcases full with full | isLeast
  · have low : e + 52 ≤ Int.log 2 ((m : ℚ) * 2 ^ e) := by
      refine (Int.zpow_le_iff_le_log (by omega) valuePos).mp ?_
      rw [zpow_add₀ (by norm_num), mul_comm]
      refine mul_le_mul_of_nonneg_right ?_ (two_zpow_pos e).le
      rw [Nat.pow_eq] at full
      exact_mod_cast full
    omega
  · omega

/-- A rational with a canonical form is rounded to that form. -/
theorem ofRatio_exact (negative : Bool) {num den m : Nat} {e : Int} (denPos : 0 < den)
    (canonical : Canonical m e) (positive : 0 < m) (same : (num : ℚ) / den = m * 2 ^ e) :
    ofRatio negative num den = .finite negative m e canonical := by
  have numPos : 0 < num := by
    refine Nat.pos_of_ne_zero fun zero => ?_
    rw [zero, Nat.cast_zero, zero_div] at same
    have := mul_pos (show (0 : ℚ) < m by exact_mod_cast positive) (two_zpow_pos e)
    linarith
  have grid : gridExponent num den = e := by
    rw [gridExponent_eq numPos denPos, same, canonical.grid positive]
  have scaled : ((inUnits num den e).1 : ℚ) / (inUnits num den e).2 = (m : ℚ) / (1 : Nat) := by
    rw [inUnits_value, same, mul_div_assoc, div_self (two_zpow_pos e).ne', Nat.cast_one, mul_one,
      div_one]
  have unitPos := @inUnits_den_pos num den denPos e
  have rounded : roundDiv (inUnits num den e).1 (inUnits num den e).2 = m := by
    have cross := cross_of_div_eq unitPos Nat.one_pos scaled
    rw [Nat.mul_one] at cross
    rw [cross, roundDiv_exact m unitPos]
  have notFull : m ≠ Nat.pow 2 53 := canonical.1.ne
  simp only [ofRatio, numPos.ne', if_false, grid, rounded, notFull, ofParts, canonical, dite_true]

/-- A number with its sign set; NaN has none. -/
def withSign (negative : Bool) : Binary64 → Binary64
  | nan => nan
  | infinite _ => infinite negative
  | finite _ m e canonical => finite negative m e canonical

theorem ofParts_withSign (negative : Bool) (m : Nat) (e : Int) :
    ofParts negative m e = withSign negative (ofParts false m e) := by
  unfold ofParts
  split <;> rfl

/-- Rounding does not look at the sign. -/
theorem ofRatio_withSign (negative : Bool) (num den : Nat) :
    ofRatio negative num den = withSign negative (ofRatio false num den) := by
  simp only [ofRatio, zero]
  split
  · exact ofParts_withSign negative 0 (-1074)
  · split <;> exact ofParts_withSign negative _ _

end ServiceDiagram.Binary64
