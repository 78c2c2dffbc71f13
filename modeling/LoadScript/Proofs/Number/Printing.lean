import LoadScript.Number.Numeral
import LoadScript.Proofs.Number.Decimal

set_option autoImplicit false

namespace LoadScript

/-! ## Digits -/

namespace Chars

theorem isAsciiDigit_of_isDigit {c : Char} (digit : c.isDigit = true) : isAsciiDigit c = true := by
  rw [isAsciiDigit_iff]
  simpa [Char.isDigit, UInt32.le_iff_toNat_le] using digit

theorem toDigits_all (n : Nat) : (Nat.toDigits 10 n).all isAsciiDigit = true := by
  rw [List.all_eq_true]
  intro c mem
  exact isAsciiDigit_of_isDigit (Nat.isDigit_of_mem_toDigits (by omega) (by omega) mem)

theorem ofDigitChars_zeros (k : Nat) (s : List Char) :
    Nat.ofDigitChars 10 (List.replicate k '0' ++ s) 0 = Nat.ofDigitChars 10 s 0 := by
  induction k with
  | zero => rfl
  | succ k ih =>
    rw [List.replicate_succ, List.cons_append, Nat.ofDigitChars_cons]
    exact ih

theorem isMantissa_split {ds : List Char} {places : Nat} (digits : ds.all isAsciiDigit = true)
    (long : places < ds.length) :
    IsMantissa (String.ofList (ds.take (ds.length - places)) ++ (if places = 0 then "" else
      "." ++ String.ofList (ds.drop (ds.length - places)))).toList (Nat.ofDigitChars 10 ds 0)
        places := by
  have some_digit : ds.take (ds.length - places) ≠ [] := by
    intro empty
    have taken := congrArg List.length empty
    rw [List.length_take, List.length_nil] at taken
    omega
  have rest : (ds.drop (ds.length - places)).length = places := by
    rw [List.length_drop]
    omega
  have whole := List.take_append_drop (ds.length - places) ds
  generalize ds.take (ds.length - places) = front at *
  generalize ds.drop (ds.length - places) = back at *
  subst whole
  rw [List.all_append, Bool.and_eq_true] at digits
  split
  · rename_i no_places
    have empty : back = [] := List.length_eq_zero_iff.1 (rest.trans no_places)
    simpa [empty, no_places] using IsMantissa.whole some_digit digits.1
  · have shape := IsMantissa.pointed (List.append_ne_nil_of_left_ne_nil some_digit back) digits.1
      digits.2
    rw [rest] at shape
    simpa using shape

theorem isMantissa_fixedPlaces (c places : Nat) :
    IsMantissa (fixedPlaces c places).toList c places := by
  let zeros := List.replicate (places + 1 - (Nat.toDigits 10 c).length) '0'
  have digits : (zeros ++ Nat.toDigits 10 c).all isAsciiDigit = true := by
    rw [List.all_append, toDigits_all, Bool.and_true, List.all_replicate]
    simp [isAsciiDigit]
  have value : Nat.ofDigitChars 10 (zeros ++ Nat.toDigits 10 c) 0 = c := by
    rw [ofDigitChars_zeros, Nat.ofDigitChars_toDigits (by omega) (by omega)]
  have long : places < (zeros ++ Nat.toDigits 10 c).length := by
    rw [List.length_append, List.length_replicate]
    omega
  have shape := isMantissa_split digits long
  rwa [value] at shape

end Chars

/-! ## The chosen decimal -/

namespace ReadBack

theorem holds_of_onGrid {r : ReadBack} {k : Int} {c : Nat} (h : r.onGrid k = some c) :
    r.holds c k = true := by
  unfold onGrid at h
  simp only at h
  split at h
  · rename_i down up
    cases h
    split
    · exact up
    · exact down
  · rename_i down up
    cases h
    exact down
  · rename_i down up
    cases h
    exact up
  · cases h

theorem decimal_le_iff (c : Nat) (k : Int) (num : Nat) {den : Nat} (positive : 0 < den) :
    (c * 10 ^ k : ℚ) ≤ num / den ↔ c * tenTo k.toNat * den ≤ num * tenTo (-k).toNat := by
  have den_pos : (0 : ℚ) < den := Nat.cast_pos.2 positive
  have scale_pos : (0 : ℚ) < tenTo (-k).toNat := Nat.cast_pos.2 (Binary64.tenTo_pos _)
  rw [← Binary64.tenTo_div, ← mul_div_assoc, div_le_div_iff₀ scale_pos den_pos]
  exact_mod_cast Iff.rfl

theorem decimal_lt_iff (c : Nat) (k : Int) (num : Nat) {den : Nat} (positive : 0 < den) :
    (c * 10 ^ k : ℚ) < num / den ↔ c * tenTo k.toNat * den < num * tenTo (-k).toNat := by
  have den_pos : (0 : ℚ) < den := Nat.cast_pos.2 positive
  have scale_pos : (0 : ℚ) < tenTo (-k).toNat := Nat.cast_pos.2 (Binary64.tenTo_pos _)
  rw [← Binary64.tenTo_div, ← mul_div_assoc, div_lt_div_iff₀ scale_pos den_pos]
  exact_mod_cast Iff.rfl

/-- A decimal that reads back is at most the upper bound, and less unless the bounds belong to the
interval. -/
theorem le_high_of_holds {r : ReadBack} (positive : 0 < r.den) {c : Nat} {k : Int}
    (h : r.holds c k = true) : (c * 10 ^ k : ℚ) ≤ r.high / r.den ∧
      (r.closed = false → (c * 10 ^ k : ℚ) < r.high / r.den) := by
  rw [decimal_le_iff c k _ positive, decimal_lt_iff c k _ positive]
  simp only [holds] at h
  split at h
  · rename_i closed
    simp only [Bool.and_eq_true, decide_eq_true_eq] at h
    refine ⟨h.2, fun opened => ?_⟩
    rw [closed] at opened
    cases opened
  · simp only [Bool.and_eq_true, decide_eq_true_eq] at h
    exact ⟨h.2.le, fun _ => h.2⟩

/-- What the search ends with reads back, or does not exceed the value. -/
theorem search_spec (r : ReadBack) (positive : 0 < r.den) (fuel : Nat) (k : Int) :
    r.holds (r.search fuel k).1 (r.search fuel k).2 = true ∨
      ((r.search fuel k).1 * 10 ^ (r.search fuel k).2 : ℚ) ≤ r.value / r.den := by
  induction fuel generalizing k with
  | zero =>
    right
    rw [search, decimal_le_iff _ k _ positive, Nat.mul_assoc, Nat.mul_comm (tenTo _)]
    exact Nat.div_mul_le_self _ _
  | succ fuel ih =>
    unfold search
    split
    · rename_i c found
      exact .inl (holds_of_onGrid found)
    · exact ih (k - 1)

theorem ofMagnitude_bounds (m : Nat) (e : Int) :
    ((ofMagnitude m e).value / (ofMagnitude m e).den : ℚ) = m * 2 ^ e ∧
      ((ofMagnitude m e).high / (ofMagnitude m e).den : ℚ) = (2 * m + 1) * 2 ^ (e - 1) := by
  have half : (2 : ℚ) ^ (e - 1) = 2 * 2 ^ (e - 2) := by
    rw [show e - 1 = 1 + (e - 2) by ring, zpow_add₀ two_ne_zero, zpow_one]
  have whole : (2 : ℚ) ^ e = 4 * 2 ^ (e - 2) := by
    rw [show e = 2 + (e - 2) by ring, zpow_add₀ two_ne_zero]
    norm_num
  simp only [ofMagnitude, Binary64.scaledDen_div]
  rw [half, whole]
  push_cast
  constructor <;> ring

end ReadBack

namespace Binary64

open ReadBack in
theorem shortestDecimal_lt_overflow {m : Nat} {e : Int} (bits : m < twoTo 53)
    (range : e ≤ maxExponent) :
    ((shortestDecimal m e).1 * 10 ^ (shortestDecimal m e).2 : ℚ) < overflow := by
  have positive : 0 < (ofMagnitude m e).den := Nat.mul_pos one_pos (Nat.two_pow_pos _)
  have above := half_above_le_overflow bits range
  have bounds := ofMagnitude_bounds m e
  obtain back | below := search_spec (ofMagnitude m e) positive 20 _
  · have high := le_high_of_holds positive back
    rw [bounds.2] at high
    by_cases even : m % 2 = 0
    · exact high.1.trans_lt (above.2 even)
    · have opened : (ofMagnitude m e).closed = false := beq_eq_false_iff_ne.2 even
      exact (high.2 opened).trans_le above.1
  · rw [bounds.1] at below
    exact below.trans_lt ((lt_half_above m e).trans_le above.1)

end Binary64

/-! ## Numerals -/

namespace Numeral

open Chars Binary64

theorem isSign_signText (negative : Bool) : IsSign (signText negative).toList negative := by
  cases negative with
  | false => exact .absent
  | true => exact .minus

theorem finiteNumeral_of_mantissa (negative : Bool) {text : String} {n places : Nat}
    (shape : IsMantissa text.toList n places) (small : (n * 10 ^ (-places : Int) : ℚ) < overflow) :
    FiniteNumeral (signText negative ++ text).toList := by
  have decimal := IsDecimal.mk shape .absent
  rw [List.append_nil, Int.zero_sub] at decimal
  rw [String.toList_append]
  exact ⟨_, negative, text.toList, n, _, rfl, isSign_signText negative, decimal, small⟩

theorem lt_overflow_of_lt_tenTo {n : Nat} (small : n < tenTo 15) : (n : ℚ) < overflow := by
  have unit : (1 : ℚ) ≤ 2 ^ (970 : Int) := one_le_zpow₀ one_le_two (by omega)
  calc (n : ℚ) < tenTo 15 := Nat.cast_lt.2 small
    _ ≤ (2 ^ 54 - 1) * 1 := by norm_num
    _ ≤ overflow := mul_le_mul_of_nonneg_left unit (by norm_num)

theorem finiteNumeral_repr (negative : Bool) {n : Nat} (small : n < tenTo 15) :
    FiniteNumeral (signText negative ++ Nat.repr n).toList := by
  have shape : IsMantissa (Nat.repr n).toList n 0 := by
    have whole := IsMantissa.whole Nat.toDigits_ne_nil (toDigits_all n)
    rw [Nat.ofDigitChars_toDigits (by omega) (by omega)] at whole
    simpa [Nat.repr] using whole
  refine finiteNumeral_of_mantissa negative shape ?_
  have value : (n * 10 ^ (-(0 : Nat) : Int) : ℚ) = n := by simp
  rw [value]
  exact lt_overflow_of_lt_tenTo small

theorem finiteNumeral_positional (negative : Bool) {c : Nat} {k : Int}
    (small : (c * 10 ^ k : ℚ) < overflow) :
    FiniteNumeral (signText negative ++ positional c k).toList := by
  refine finiteNumeral_of_mantissa negative (isMantissa_fixedPlaces _ _) ?_
  have value : ((c * tenTo k.toNat : Nat) * 10 ^ (-(-k).toNat : Int) : ℚ) = c * 10 ^ k := by
    rw [Nat.cast_mul, zpow_neg, zpow_natCast, ← tenTo_div k, div_eq_mul_inv, mul_assoc]
    simp only [Nat.pow_eq, Nat.cast_pow, Nat.cast_ofNat]
  rwa [value]

theorem finiteNumeral_toText {x : Binary64} (proper : x.Proper) (finite : x.IsFinite) :
    FiniteNumeral x.toText.toList := by
  match x, proper, finite with
  | .finite negative m e, ⟨bits, range⟩, _ =>
    rw [toText]
    split
    · exact finiteNumeral_repr negative (n := 0) (by decide)
    · exact finiteNumeral_positional negative (shortestDecimal_lt_overflow bits range)

theorem finiteNumeral_ofBinary64 {x : Binary64} (proper : x.Proper) (finite : x.IsFinite) :
    FiniteNumeral (ofBinary64 x).toList := by
  unfold ofBinary64
  split
  · split
    · rename_i small
      exact finiteNumeral_repr _ small
    · exact finiteNumeral_toText proper finite
  · exact finiteNumeral_toText proper finite

theorem boundless_ofBinary64 {x : Binary64} (unbounded : ¬ x.IsFinite) :
    Boundless (ofBinary64 x).toList := by
  cases x with
  | finite negative m e => exact absurd trivial unbounded
  | infinite negative =>
    refine ⟨(signText negative).toList, negative, "inf".toList, ?_, isSign_signText negative, .inl ?_⟩
    · exact String.toList_append
    · exact .head _
  | nan => exact ⟨[], false, "NaN".toList, rfl, .absent, .inl (.tail _ (.tail _ (.head _)))⟩

/-- The numeral is finite, or else boundless, as the text that it comes from is. -/
def AsBounded (numeral : String) (text : List Char) : Prop :=
  (¬ Boundless text → FiniteNumeral numeral.toList) ∧ (Boundless text → Boundless numeral.toList)

theorem asBounded_ofBinary64 {x : Binary64} {text : List Char} (proper : x.Proper)
    (h : x.IsFinite ↔ ¬ Boundless text) : AsBounded (ofBinary64 x) text := by
  constructor
  · intro bounded
    exact finiteNumeral_ofBinary64 proper (h.2 bounded)
  · intro boundless
    exact boundless_ofBinary64 fun finite => h.1 finite boundless

def pointed (s : String) : List Char := (trim s.toList).map fun c => if c = ',' then '.' else c

theorem read?_eq (s : String) : read? s = readBinary64 (pointed s) := rfl

theorem readBinary64_getD {default : Binary64} (proper : default.Proper)
    (finite : default.IsFinite) (s : List Char) : ((readBinary64 s).getD default).Proper ∧
      (((readBinary64 s).getD default).IsFinite ↔ ¬ Boundless s) := by
  cases read : readBinary64 s with
  | none =>
    refine ⟨proper, iff_of_true finite fun boundless => ?_⟩
    obtain ⟨x, read', -⟩ := boundless.exists_read
    rw [read] at read'
    cases read'
  | some x => exact ⟨(numeral_or_boundless_of_read read).1, (isFinite_of_read read).2⟩

theorem ofNat_proper (n : Nat) : (Binary64.ofNat n).Proper := ofRatio_proper false n one_pos

theorem ofNat_isFinite {n : Nat} (small : n < tenTo 15) : (Binary64.ofNat n).IsFinite := by
  rw [Binary64.ofNat, ofRatio_isFinite_iff false n one_pos, Nat.cast_one, div_one]
  exact lt_overflow_of_lt_tenTo small

theorem asBounded_ofTextOr (s : String) {n : Nat} (small : n < tenTo 15) :
    AsBounded (ofTextOr s (.ofNat n)) (pointed s) := by
  have read := readBinary64_getD (ofNat_proper n) (ofNat_isFinite small) (pointed s)
  exact asBounded_ofBinary64 read.1 read.2

theorem AsBounded.boundless_iff {numeral : String} {text : List Char}
    (h : AsBounded numeral text) : Boundless numeral.toList ↔ Boundless text := by
  refine ⟨fun boundless => ?_, h.2⟩
  by_contra bounded
  exact boundless.not_finiteNumeral (h.1 bounded)

end Numeral

end LoadScript
