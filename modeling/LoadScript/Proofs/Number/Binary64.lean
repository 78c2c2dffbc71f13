import LoadScript.Number.Binary64
import Mathlib.Algebra.Order.Field.Power
import Mathlib.Data.Rat.Cast.Order
import Mathlib.Tactic.FieldSimp
import Mathlib.Tactic.Linarith
import Mathlib.Tactic.Positivity
import Mathlib.Tactic.Ring

set_option autoImplicit false

namespace LoadScript

/-! ## Rounding -/

/-- A half below an even bound is rounded to the bound. -/
theorem roundHalfEven_lt_iff {num den bound : Nat} (positive : 0 < den) (room : 0 < bound)
    (even : bound % 2 = 0) : roundHalfEven num den < bound ↔ 2 * num + den < 2 * bound * den := by
  obtain ⟨k, rfl⟩ : ∃ k, bound = k + 1 := ⟨bound - 1, by omega⟩
  have split := Nat.div_add_mod num den
  have rest := Nat.mod_lt num positive
  have twice : 2 * (k + 1) * den = 2 * (den * k) + 2 * den := by ring
  rw [twice]
  simp only [roundHalfEven]
  generalize num / den = q at *
  generalize num % den = r at *
  obtain below | same | above := Nat.lt_trichotomy q k
  · have room : den * (q + 1) ≤ den * k := Nat.mul_le_mul_left den below
    rw [Nat.mul_succ] at room
    split_ifs <;> omega
  · subst same
    split_ifs <;> omega
  · have beyond : den * (k + 1) ≤ den * q := Nat.mul_le_mul_left den above
    rw [Nat.mul_succ] at beyond
    split_ifs <;> omega

theorem roundHalfEven_le {num den bound : Nat} (below : num < bound * den) :
    roundHalfEven num den ≤ bound := by
  have quotient : num / den < bound := Nat.div_lt_of_lt_mul (by rwa [Nat.mul_comm])
  simp only [roundHalfEven]
  split_ifs <;> omega

namespace Binary64

theorem zpow_mul_pow_toNat {b : ℚ} (nonzero : b ≠ 0) (e : Int) :
    b ^ e * b ^ (-e).toNat = b ^ e.toNat := by
  rw [← zpow_natCast, ← zpow_natCast, ← zpow_add₀ nonzero]
  congr 1
  omega

theorem scaled_div (num den : Nat) (e : Int) :
    (scaledNum num e : ℚ) / scaledDen den e = num / den / 2 ^ e := by
  have power := zpow_mul_pow_toNat (two_ne_zero (α := ℚ)) e
  simp only [scaledNum, scaledDen, Nat.cast_mul, Nat.cast_pow, Nat.pow_eq, Nat.cast_ofNat]
  rw [← power]
  field_simp

theorem scaledDen_pos {den : Nat} (positive : 0 < den) (e : Int) : 0 < scaledDen den e :=
  Nat.mul_pos positive (Nat.two_pow_pos _)

theorem scaledDen_le_iff (num : Nat) {den : Nat} (positive : 0 < den) (e : Int) :
    scaledDen den e ≤ scaledNum num e ↔ (2 : ℚ) ^ e ≤ num / den := by
  have below : (0 : ℚ) < scaledDen den e := Nat.cast_pos.2 (scaledDen_pos positive e)
  have power : (0 : ℚ) < 2 ^ e := zpow_pos two_pos e
  rw [← Nat.cast_le (α := ℚ), ← one_le_div below, scaled_div, one_le_div power]

theorem log2_bounds {n : Nat} (positive : 0 < n) :
    (2 : ℚ) ^ (n.log2 : Int) ≤ n ∧ (n : ℚ) < 2 ^ (n.log2 + 1 : Int) := by
  have low : 2 ^ n.log2 ≤ n := Nat.log2_self_le (Nat.ne_of_gt positive)
  have high : n < 2 ^ (n.log2 + 1) := Nat.lt_log2_self
  exact ⟨by exact_mod_cast low, by exact_mod_cast high⟩

theorem ratio_bounds {num den : Nat} (some_num : 0 < num) (some_den : 0 < den) :
    (2 : ℚ) ^ (num.log2 - den.log2 - 1 : Int) ≤ num / den ∧
      (num / den : ℚ) < 2 ^ (num.log2 - den.log2 + 1 : Int) := by
  have num_bounds := log2_bounds some_num
  have den_bounds := log2_bounds some_den
  have positive : (0 : ℚ) < den := Nat.cast_pos.2 some_den
  constructor
  · rw [le_div_iff₀ positive]
    calc (2 : ℚ) ^ (num.log2 - den.log2 - 1 : Int) * den
        ≤ 2 ^ (num.log2 - den.log2 - 1 : Int) * 2 ^ (den.log2 + 1 : Int) := by
          gcongr
          exact den_bounds.2.le
      _ = 2 ^ (num.log2 : Int) := by
          rw [← zpow_add₀ two_ne_zero]
          congr 1
          ring
      _ ≤ num := num_bounds.1
  · rw [div_lt_iff₀ positive]
    calc (num : ℚ) < 2 ^ (num.log2 + 1 : Int) := num_bounds.2
      _ = 2 ^ (num.log2 - den.log2 + 1 : Int) * 2 ^ (den.log2 : Int) := by
          rw [← zpow_add₀ two_ne_zero]
          congr 1
          ring
      _ ≤ 2 ^ (num.log2 - den.log2 + 1 : Int) * den := by
          gcongr
          exact den_bounds.1

theorem ratioExponent_spec {num den : Nat} (some_num : 0 < num) (some_den : 0 < den) :
    (num / den : ℚ) < 2 ^ (ratioExponent num den + 53) ∧
      (minExponent < ratioExponent num den →
        (2 : ℚ) ^ (ratioExponent num den + 52) ≤ num / den) := by
  have bounds := ratio_bounds some_num some_den
  have test := scaledDen_le_iff num some_den (num.log2 - den.log2)
  -- Before the least exponent is imposed, the bits are exactly 53.
  obtain ⟨e, imposed, least, most⟩ : ∃ e, ratioExponent num den =
      (if e < minExponent then minExponent else e) ∧
      (2 : ℚ) ^ (e + 52) ≤ num / den ∧ (num / den : ℚ) < 2 ^ (e + 53) := by
    refine ⟨_, rfl, ?_⟩
    simp only [Int.ofNat_eq_natCast, test]
    split
    · rename_i reached
      refine ⟨?_, ?_⟩
      · rwa [Int.sub_add_cancel]
      · rw [show (num.log2 - den.log2 - 52 + 53 : Int) = num.log2 - den.log2 + 1 by ring]
        exact bounds.2
    · rename_i missed
      refine ⟨?_, ?_⟩
      · rw [show (num.log2 - den.log2 - 53 + 52 : Int) = num.log2 - den.log2 - 1 by ring]
        exact bounds.1
      · rw [Int.sub_add_cancel]
        exact not_le.1 missed
  rw [imposed]
  split
  · rename_i small
    refine ⟨most.trans_le ?_, fun larger => absurd larger (Int.lt_irrefl _)⟩
    exact zpow_le_zpow_right₀ one_le_two (by omega)
  · exact ⟨most, fun _ => least⟩

/-! ## Finite doubles -/

def IsFinite : Binary64 → Prop
  | .finite _ _ _ => True
  | _ => False

/-- A finite double of the format has a mantissa of 53 bits and an exponent in range. -/
def Proper : Binary64 → Prop
  | .finite _ m e => m < twoTo 53 ∧ e ≤ maxExponent
  | _ => True

theorem proper_of_not_isFinite {x : Binary64} (h : ¬ x.IsFinite) : x.Proper := by
  cases x with
  | finite negative m e => exact absurd trivial h
  | infinite negative => trivial
  | nan => trivial

theorem normalize_isFinite_iff (negative : Bool) (m : Nat) (e : Int) :
    (normalize negative m e).IsFinite ↔ e < maxExponent ∨ e = maxExponent ∧ m ≠ twoTo 53 := by
  by_cases carry : m = twoTo 53
  · simp only [normalize, if_pos carry]
    split <;> simp only [IsFinite, true_iff, false_iff] <;> omega
  · simp only [normalize, if_neg carry]
    split <;> simp only [IsFinite, true_iff, false_iff] <;> omega

theorem normalize_proper (negative : Bool) {m : Nat} (e : Int) (bits : m ≤ twoTo 53) :
    (normalize negative m e).Proper := by
  by_cases carry : m = twoTo 53
  · simp only [normalize, if_pos carry]
    split
    · trivial
    · rename_i inside
      exact ⟨Nat.pow_lt_pow_right (by omega) (by omega), by omega⟩
  · simp only [normalize, if_neg carry]
    split
    · trivial
    · rename_i inside
      exact ⟨Nat.lt_of_le_of_ne bits carry, by omega⟩

def rounded (num den : Nat) : Nat :=
  roundHalfEven (scaledNum num (ratioExponent num den)) (scaledDen den (ratioExponent num den))

theorem ofRatio_of_pos (negative : Bool) {num : Nat} (den : Nat) (positive : 0 < num) :
    ofRatio negative num den = normalize negative (rounded num den) (ratioExponent num den) :=
  if_neg (Nat.ne_of_gt positive)

theorem rounded_le {num den : Nat} (some_num : 0 < num) (some_den : 0 < den) :
    rounded num den ≤ twoTo 53 := by
  have bits := (ratioExponent_spec some_num some_den).1
  have below : (0 : ℚ) < scaledDen den (ratioExponent num den) :=
    Nat.cast_pos.2 (scaledDen_pos some_den _)
  have power : (0 : ℚ) < 2 ^ ratioExponent num den := zpow_pos two_pos _
  have ratio : (scaledNum num (ratioExponent num den) : ℚ) <
      twoTo 53 * scaledDen den (ratioExponent num den) := by
    rw [← div_lt_iff₀ below, scaled_div, div_lt_iff₀ power]
    rw [Int.add_comm, zpow_add₀ two_ne_zero] at bits
    exact_mod_cast bits
  exact roundHalfEven_le (by exact_mod_cast ratio)

theorem rounded_lt_iff (num : Nat) {den : Nat} (some_den : 0 < den) : rounded num den < twoTo 53 ↔
    (num / den : ℚ) < (2 ^ 54 - 1) * 2 ^ (ratioExponent num den - 1) := by
  have below : (0 : ℚ) < scaledDen den (ratioExponent num den) :=
    Nat.cast_pos.2 (scaledDen_pos some_den _)
  have power : (0 : ℚ) < 2 ^ ratioExponent num den := zpow_pos two_pos _
  have even : twoTo 53 % 2 = 0 := by decide
  rw [rounded, roundHalfEven_lt_iff (scaledDen_pos some_den _) (Nat.two_pow_pos 53) even,
    zpow_sub_one₀ two_ne_zero, ← Nat.cast_lt (α := ℚ)]
  have scaled := scaled_div num den (ratioExponent num den)
  rw [div_eq_iff below.ne'] at scaled
  push_cast
  rw [scaled]
  generalize (scaledDen den (ratioExponent num den) : ℚ) = unit at *
  have factored : 2 * ((num / den : ℚ) / 2 ^ ratioExponent num den * unit) + unit =
      (2 * ((num / den : ℚ) / 2 ^ ratioExponent num den) + 1) * unit := by ring
  have halved : (2 ^ 54 - 1) * ((2 : ℚ) ^ ratioExponent num den * 2⁻¹) =
      (2 ^ 54 - 1) / 2 * 2 ^ ratioExponent num den := by ring
  rw [factored, mul_lt_mul_iff_left₀ below, halved, ← div_lt_iff₀ power]
  constructor <;> intro less <;> linarith

def overflow : ℚ := (2 ^ 54 - 1) * 2 ^ (970 : Int)

theorem ofRatio_proper (negative : Bool) (num : Nat) {den : Nat} (positive : 0 < den) :
    (ofRatio negative num den).Proper := by
  obtain rfl | some_num := Nat.eq_zero_or_pos num
  · exact ⟨Nat.two_pow_pos 53, by decide⟩
  · rw [ofRatio_of_pos negative den some_num]
    exact normalize_proper negative _ (rounded_le some_num positive)

theorem ofRatio_isFinite_iff (negative : Bool) (num : Nat) {den : Nat} (positive : 0 < den) :
    (ofRatio negative num den).IsFinite ↔ (num / den : ℚ) < overflow := by
  obtain rfl | some_num := Nat.eq_zero_or_pos num
  · have zero : (ofRatio negative 0 den).IsFinite := trivial
    have room : (0 : ℚ) < overflow := by unfold overflow; positivity
    simpa [zero] using room
  rw [ofRatio_of_pos negative den some_num, normalize_isFinite_iff]
  have bits := ratioExponent_spec some_num positive
  have carry := rounded_lt_iff num positive
  have most := rounded_le some_num positive
  have largest : maxExponent = 971 := rfl
  have unit : (0 : ℚ) < 2 ^ (970 : Int) := zpow_pos two_pos _
  obtain below | same | above := lt_trichotomy (ratioExponent num den) maxExponent
  · have small : (num / den : ℚ) < overflow := by
      calc (num / den : ℚ) < 2 ^ (ratioExponent num den + 53) := bits.1
        _ ≤ 2 ^ (970 + 53 : Int) := zpow_le_zpow_right₀ one_le_two (by omega)
        _ = 2 ^ 53 * 2 ^ (970 : Int) := by rw [zpow_add₀ two_ne_zero, mul_comm, zpow_ofNat _ 53]
        _ < overflow := mul_lt_mul_of_pos_right (by norm_num) unit
    exact iff_of_true (.inl below) small
  · rw [same, show maxExponent - 1 = (970 : Int) from rfl] at carry
    rw [overflow, ← carry]
    omega
  · have large : overflow ≤ (num / den : ℚ) := by
      calc overflow ≤ 2 ^ 54 * 2 ^ (970 : Int) := mul_le_mul_of_nonneg_right (by norm_num) unit.le
        _ = 2 ^ (970 + 54 : Int) := by rw [zpow_add₀ two_ne_zero, mul_comm, zpow_ofNat _ 54]
        _ ≤ 2 ^ (ratioExponent num den + 52) := zpow_le_zpow_right₀ one_le_two (by omega)
        _ ≤ num / den := bits.2 (lt_trans (by decide) above)
    have beyond : ¬ (ratioExponent num den < maxExponent ∨
        ratioExponent num den = maxExponent ∧ rounded num den ≠ twoTo 53) := by omega
    exact iff_of_false beyond (not_lt.2 large)

/-- Half a unit above a double no number overflows, except above the largest one, which is odd. -/
theorem half_above_le_overflow {m : Nat} {e : Int} (bits : m < twoTo 53) (range : e ≤ maxExponent) :
    (2 * m + 1) * (2 : ℚ) ^ (e - 1) ≤ overflow ∧
      (m % 2 = 0 → (2 * m + 1) * (2 : ℚ) ^ (e - 1) < overflow) := by
  have largest : maxExponent = 971 := rfl
  have scale : (2 * m + 1) * (2 : ℚ) ^ (e - 1) ≤ (2 * m + 1) * 2 ^ (970 : Int) := by
    have digits : (0 : ℚ) ≤ 2 * m + 1 := by positivity
    exact mul_le_mul_of_nonneg_left (zpow_le_zpow_right₀ one_le_two (by omega)) digits
  have unit : (0 : ℚ) < 2 ^ (970 : Int) := zpow_pos two_pos _
  constructor
  · have most : (m + 1 : ℚ) ≤ 2 ^ 53 := by exact_mod_cast bits
    exact scale.trans (mul_le_mul_of_nonneg_right (by linarith) unit.le)
  · intro even
    have two_less : m + 2 ≤ twoTo 53 := by
      have bound_even : twoTo 53 % 2 = 0 := by decide
      omega
    have most : (m + 2 : ℚ) ≤ 2 ^ 53 := by exact_mod_cast two_less
    exact scale.trans_lt (mul_lt_mul_of_pos_right (by linarith) unit)

theorem lt_half_above (m : Nat) (e : Int) : (m : ℚ) * 2 ^ e < (2 * m + 1) * 2 ^ (e - 1) := by
  have unit : (0 : ℚ) < 2 ^ (e - 1) := zpow_pos two_pos _
  have double : (2 : ℚ) ^ e = 2 * 2 ^ (e - 1) := by
    rw [zpow_sub_one₀ two_ne_zero]
    ring
  rw [double]
  linarith

theorem scaledDen_div (m n : Nat) (e : Int) :
    (scaledDen m e : ℚ) / scaledNum n e = m * 2 ^ e / n := by
  rw [← inv_div, scaled_div, inv_div, div_div_eq_mul_div, mul_comm]

theorem divNat_proper {x : Binary64} (proper : x.Proper) {n : Nat} (positive : 0 < n) :
    (x.divNat n).Proper := by
  cases x with
  | finite negative m e =>
    exact ofRatio_proper negative _ (Nat.mul_pos positive (Nat.two_pow_pos _))
  | infinite negative => exact proper
  | nan => exact proper

theorem divNat_isFinite_iff {x : Binary64} (proper : x.Proper) {n : Nat} (positive : 0 < n) :
    (x.divNat n).IsFinite ↔ x.IsFinite := by
  cases x with
  | finite negative m e =>
    have some_den : 0 < scaledNum n e := Nat.mul_pos positive (Nat.two_pow_pos _)
    have least : (1 : ℚ) ≤ n := by exact_mod_cast positive
    have value : (0 : ℚ) ≤ m * 2 ^ e := by positivity
    have small : (m * 2 ^ e / n : ℚ) < overflow := by
      calc (m * 2 ^ e / n : ℚ) ≤ m * 2 ^ e := div_le_self value least
        _ < (2 * m + 1) * 2 ^ (e - 1) := lt_half_above m e
        _ ≤ overflow := (half_above_le_overflow proper.1 proper.2).1
    rw [divNat, ofRatio_isFinite_iff negative _ some_den, scaledDen_div]
    exact iff_of_true small trivial
  | infinite negative => exact Iff.rfl
  | nan => exact Iff.rfl

end Binary64

end LoadScript
