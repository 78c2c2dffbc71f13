set_option autoImplicit false

namespace LoadScript.Chars

def SameLetter (a b : Char) : Prop :=
  a = b ∨ (a.isUpper ∧ b.toNat = a.toNat + 32) ∨ (b.isUpper ∧ a.toNat = b.toNat + 32)

theorem isUpper_iff (c : Char) : c.isUpper = true ↔ 65 ≤ c.toNat ∧ c.toNat ≤ 90 := by
  have bounds : c.isUpper = true ↔ 'A'.val ≤ c.val ∧ c.val ≤ 'Z'.val := decide_eq_true_iff
  rw [bounds, UInt32.le_iff_toNat_le, UInt32.le_iff_toNat_le]
  rfl

theorem toNat_toLower (c : Char) :
    c.toLower.toNat = if c.isUpper then c.toNat + 32 else c.toNat := by
  by_cases upper : c.isUpper = true
  · have bounds : c.val ≥ 'A'.val ∧ c.val ≤ 'Z'.val := of_decide_eq_true upper
    have small := (isUpper_iff c).1 upper
    have lowered : c.toLower.toNat = (c.toNat + 32) % 2 ^ 32 := congrArg Char.toNat (dif_pos bounds)
    rw [if_pos upper, lowered]
    omega
  · have bounds : ¬ (c.val ≥ 'A'.val ∧ c.val ≤ 'Z'.val) := fun h => upper (decide_eq_true h)
    have kept : c.toLower = c := dif_neg bounds
    rw [if_neg upper, kept]

theorem toLower_eq_iff (a b : Char) : a.toLower = b.toLower ↔ SameLetter a b := by
  have lower_a := toNat_toLower a
  have lower_b := toNat_toLower b
  simp only [SameLetter, ← Char.toNat_inj, isUpper_iff] at *
  split at lower_a <;> split at lower_b <;> omega

end LoadScript.Chars
