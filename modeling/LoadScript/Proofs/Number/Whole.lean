import LoadScript.Proofs.Number.Printing

set_option autoImplicit false

namespace LoadScript

/-! ## Whole numbers as doubles -/

theorem roundHalfEven_mul (q : Nat) {den : Nat} (positive : 0 < den) :
    roundHalfEven (q * den) den = q := by
  simp only [roundHalfEven, Nat.mul_mod_left, Nat.mul_div_cancel q positive]
  exact if_pos positive

namespace Binary64

/-- The double `m · 2 ^ e` is the number `n`, and the doubles next to it are at most two away. -/
inductive IsWhole : Nat → Nat → Int → Prop
  | shifted {n shift : Nat} (bits : n * twoTo shift < twoTo 53) :
      IsWhole n (n * twoTo shift) (-shift)
  | doubled {m : Nat} (bits : m < twoTo 53) : IsWhole (2 * m) m 1

theorem normalize_of_lt (negative : Bool) {m : Nat} {e : Int} (bits : m < twoTo 53)
    (range : e ≤ maxExponent) : normalize negative m e = .finite negative m e := by
  simp only [normalize, if_neg (Nat.ne_of_lt bits)]
  exact if_neg (Int.not_lt.2 range)

theorem ratioExponent_one {n : Nat} (positive : 0 < n) :
    ratioExponent n 1 = (n.log2 : Int) - 52 := by
  have top : Int.ofNat n.log2 - Int.ofNat (Nat.log2 1) = (n.log2 : Int) := by
    rw [show Nat.log2 1 = 0 by decide]
    exact Int.sub_zero _
  have reached : scaledDen 1 (n.log2 : Int) ≤ scaledNum n (n.log2 : Int) := by
    rw [scaledDen_le_iff n one_pos, Nat.cast_one, div_one]
    exact (log2_bounds positive).1
  have least : ¬ (n.log2 : Int) - 52 < minExponent := by
    unfold minExponent
    omega
  simp only [ratioExponent, top, if_pos reached, if_neg least]

theorem ofNat_of_lt {n : Nat} (positive : 0 < n) (small : n < twoTo 53) :
    ∃ shift : Nat, ofNat n = .finite false (n * twoTo shift) (-shift) ∧
      n * twoTo shift < twoTo 53 := by
  have log : n.log2 < 53 := (Nat.log2_lt (Nat.ne_of_gt positive)).2 small
  obtain ⟨shift, width⟩ : ∃ shift, n.log2 + 1 + shift = 53 := ⟨52 - n.log2, by omega⟩
  have exponent : ratioExponent n 1 = -(shift : Int) := by
    rw [ratioExponent_one positive]
    omega
  have mantissa : rounded n 1 = n * twoTo shift := by
    have num : scaledNum n (-(shift : Int)) = n * twoTo shift * 1 := by simp [scaledNum]
    have den : scaledDen 1 (-(shift : Int)) = 1 := by simp [scaledDen]
    rw [rounded, exponent, num, den, roundHalfEven_mul _ one_pos]
  have bits : n * twoTo shift < twoTo 53 := by
    calc
      n * twoTo shift < twoTo (n.log2 + 1) * twoTo shift :=
        Nat.mul_lt_mul_of_pos_right Nat.lt_log2_self (Nat.two_pow_pos shift)
      _ = twoTo (n.log2 + 1 + shift) := (Nat.pow_add 2 _ _).symm
      _ = twoTo 53 := by rw [width]
  refine ⟨shift, ?_, bits⟩
  rw [ofNat, ofRatio_of_pos false 1 positive, mantissa, exponent]
  exact normalize_of_lt false bits (by unfold maxExponent; omega)

theorem ofNat_isWhole {n : Nat} (positive : 0 < n) (small : n ≤ twoTo 53) :
    ∃ m e, ofNat n = .finite false m e ∧ IsWhole n m e := by
  obtain below | rfl := Nat.lt_or_eq_of_le small
  · obtain ⟨shift, double, bits⟩ := ofNat_of_lt positive below
    exact ⟨_, _, double, .shifted bits⟩
  · -- The bound has one bit more than a mantissa, but this bit is zero.
    exact ⟨twoTo 52, 1, by decide +kernel, .doubled (m := twoTo 52) (by decide)⟩

namespace IsWhole

variable {n m : Nat} {e : Int}

theorem near (h : IsWhole n m e) : e ≤ 1 := by
  cases h <;> omega

theorem bits (h : IsWhole n m e) : m < twoTo 53 := by
  cases h <;> assumption

theorem value (h : IsWhole n m e) : scaledDen m e = n * scaledNum 1 e := by
  cases h with
  | shifted bits => simp [scaledDen, scaledNum]
  | doubled bits =>
    change m * 2 = 2 * m * 1
    omega

theorem quarters (h : IsWhole n m e) : n * twoTo (2 - e).toNat = 4 * m := by
  cases h with
  | @shifted _ shift bits =>
    rw [show (2 - -(shift : Int)).toNat = shift + 2 by omega]
    change n * 2 ^ (shift + 2) = 4 * (n * 2 ^ shift)
    ring
  | doubled bits =>
    change 2 * m * 2 = 4 * m
    omega

theorem mantissa_pos (h : IsWhole n m e) (positive : 0 < n) : 0 < m := by
  have quarters := h.quarters
  have some_quarter : 0 < n * twoTo (2 - e).toNat := Nat.mul_pos positive (Nat.two_pow_pos _)
  omega

theorem wholeMagnitude? (h : IsWhole n m e) (negative : Bool) :
    (Binary64.finite negative m e).wholeMagnitude? = some n := by
  have unit : 0 < scaledNum 1 e := Nat.mul_pos one_pos (Nat.two_pow_pos _)
  rw [Binary64.wholeMagnitude?, h.value, Nat.mul_mod_left, if_pos rfl, Nat.mul_div_cancel n unit]

end IsWhole

end Binary64

/-! ## Shortest digits of whole numbers -/

namespace ReadBack

/-- A number on the grid of step one is chosen there. -/
theorem onGrid_zero {r : ReadBack} {n : Nat} (positive : 0 < r.den) (value : r.value = n * r.den)
    (reads : r.holds n 0 = true) : r.onGrid 0 = some n := by
  have num : r.value * tenTo (-(0 : Int)).toNat = n * r.den := by simp [value]
  have den : r.den * tenTo (0 : Int).toNat = r.den := by simp
  have no_rest : ¬ r.den ≤ 2 * 0 := by omega
  simp only [onGrid, num, den, Nat.mul_div_cancel n positive, Nat.mul_mod_left, reads]
  cases r.holds (n + 1) 0 with
  | true => simp only [if_neg no_rest]
  | false => rfl

/-- A search that comes to the grid of step one ends with the number, if nothing else on the
coarser grids reads back. -/
theorem search_whole {r : ReadBack} {n : Nat} (positive : 0 < r.den)
    (value : r.value = n * r.den) (reads : r.holds n 0 = true)
    (only : ∀ c k : Nat, r.holds c (k + 1 : Nat) = true → c * tenTo (k + 1) = n)
    {fuel k : Nat} (enough : k < fuel) :
    ∃ c j : Nat, r.search fuel k = (c, (j : Int)) ∧ c * tenTo j = n := by
  -- By induction on the grid: each step of the search takes one grid and one unit of fuel.
  induction k generalizing fuel with
  | zero =>
    obtain ⟨more, rfl⟩ := Nat.exists_eq_succ_of_ne_zero (Nat.ne_of_gt enough)
    have found : r.search (more + 1) 0 = (n, 0) := by
      rw [search, onGrid_zero positive value reads]
    exact ⟨n, 0, found, Nat.mul_one n⟩
  | succ k ih =>
    obtain ⟨more, rfl⟩ := Nat.exists_eq_succ_of_ne_zero (Nat.ne_zero_of_lt enough)
    rw [search]
    cases grid : r.onGrid (k + 1 : Nat) with
    | some c => exact ⟨c, k + 1, rfl, only c k (holds_of_onGrid grid)⟩
    | none =>
      rw [Int.natCast_succ, Int.add_sub_cancel]
      exact ih (by omega)

theorem holds_natCast (r : ReadBack) (c k : Nat) : r.holds c k =
    if r.closed then r.low ≤ c * tenTo k * r.den && c * tenTo k * r.den ≤ r.high
    else r.low < c * tenTo k * r.den && c * tenTo k * r.den < r.high := by
  have scale : tenTo (-(k : Int)).toNat = 1 := by rw [Int.toNat_neg_natCast]
  simp only [holds, Int.toNat_natCast, scale, Nat.mul_one]

theorem bounds_of_holds {r : ReadBack} {c k : Nat} (h : r.holds c k = true) :
    r.low ≤ c * tenTo k * r.den ∧ c * tenTo k * r.den ≤ r.high := by
  rw [holds_natCast] at h
  split at h <;> simp only [Bool.and_eq_true, decide_eq_true_eq] at h <;> omega

theorem holds_of_inside {r : ReadBack} {c k : Nat} (above : r.low < c * tenTo k * r.den)
    (below : c * tenTo k * r.den < r.high) : r.holds c k = true := by
  rw [holds_natCast]
  split <;> simp only [Bool.and_eq_true, decide_eq_true_eq] <;> omega

/-- Where doubles are at most two apart, the bounds of a double are half a unit away from it, or
less at a power of two. -/
theorem ofMagnitude_of_near {m : Nat} {e : Int} (positive : 0 < m) (near : e ≤ 1) :
    (ofMagnitude m e).den = twoTo (2 - e).toNat ∧ (ofMagnitude m e).value = 4 * m ∧
      (ofMagnitude m e).high = 4 * m + 2 ∧ 4 * m ≤ (ofMagnitude m e).low + 2 ∧
      (ofMagnitude m e).low < 4 * m := by
  have whole (x : Nat) : Binary64.scaledDen x (e - 2) = x := by
    rw [Binary64.scaledDen, show (e - 2).toNat = 0 by omega]
    exact Nat.mul_one x
  have parts : Binary64.scaledNum 1 (e - 2) = twoTo (2 - e).toNat := by
    rw [Binary64.scaledNum, Nat.one_mul, Int.neg_sub]
  simp only [ofMagnitude, whole, parts, true_and]
  split <;> omega

end ReadBack

namespace Binary64.IsWhole

variable {n m : Nat} {e : Int}

/-- A multiple of ten that reads back as a number is the number: doubles two apart are even, as
multiples of ten are, and where they are closer no second whole number has room. -/
theorem eq_of_holds (h : IsWhole n m e) (positive : 0 < n) {c k : Nat}
    (reads : (ReadBack.ofMagnitude m e).holds c (k + 1 : Nat) = true) :
    c * tenTo (k + 1) = n := by
  obtain ⟨den, -, high, low, -⟩ := ReadBack.ofMagnitude_of_near (h.mantissa_pos positive) h.near
  have bounds := ReadBack.bounds_of_holds reads
  rw [den, high] at bounds
  have quarters := h.quarters
  have even : c * tenTo (k + 1) % 2 = 0 := by
    rw [show c * tenTo (k + 1) = c * 10 ^ k * 5 * 2 by simp only [Nat.pow_eq]; ring]
    exact Nat.mul_mod_left _ 2
  generalize c * tenTo (k + 1) = x at *
  cases h with
  | doubled bits =>
    rw [show twoTo (2 - 1 : Int).toNat = 2 by decide] at bounds
    omega
  | @shifted _ shift bits =>
    have unit : 4 ≤ twoTo (2 - -(shift : Int)).toNat :=
      Nat.pow_le_pow_right (show 0 < 2 by omega) (show 2 ≤ (2 - -(shift : Int)).toNat by omega)
    generalize twoTo (2 - -(shift : Int)).toNat = d at *
    obtain less | same | more := Nat.lt_trichotomy x n
    · have room : (x + 1) * d ≤ n * d := Nat.mul_le_mul_right d less
      rw [Nat.succ_mul] at room
      omega
    · exact same
    · have room : (n + 1) * d ≤ x * d := Nat.mul_le_mul_right d more
      rw [Nat.succ_mul] at room
      omega

/-- The search for digits begins between the grid of step one and one that it leaves in time. -/
theorem decimalExponentAbove (h : IsWhole n m e) (positive : 0 < n) :
    ∃ k : Nat, decimalExponentAbove (Int.ofNat m.log2 + 1 + e) = k ∧ k < 20 := by
  rw [Int.ofNat_eq_natCast]
  have some_bit := h.mantissa_pos positive
  have most : m.log2 < 53 := (Nat.log2_lt (Nat.ne_of_gt some_bit)).2 h.bits
  have least : 0 ≤ (m.log2 : Int) + 1 + e := by
    cases h with
    | @shifted _ shift bits =>
      have long : shift ≤ (n * twoTo shift).log2 :=
        (Nat.le_log2 (Nat.ne_of_gt some_bit)).2 (Nat.le_mul_of_pos_left _ positive)
      omega
    | doubled bits => omega
  have near := h.near
  refine ⟨(((m.log2 : Int) + 1 + e) * 30103 / 100000 + 1).toNat, ?_, by omega⟩
  rw [LoadScript.decimalExponentAbove, if_pos least]
  omega

theorem shortestDecimal (h : IsWhole n m e) (positive : 0 < n) :
    ∃ c j : Nat, shortestDecimal m e = (c, (j : Int)) ∧ c * tenTo j = n := by
  obtain ⟨den, value, high, -, low⟩ :=
    ReadBack.ofMagnitude_of_near (h.mantissa_pos positive) h.near
  have quarters := h.quarters
  have unit : 0 < (ReadBack.ofMagnitude m e).den := den ▸ Nat.two_pow_pos _
  rw [← den] at quarters
  have reads : (ReadBack.ofMagnitude m e).holds n (0 : Nat) = true := by
    have once : n * tenTo 0 = n := Nat.mul_one n
    apply ReadBack.holds_of_inside <;> rw [once] <;> omega
  obtain ⟨k, start, enough⟩ := h.decimalExponentAbove positive
  unfold LoadScript.shortestDecimal
  rw [start]
  exact ReadBack.search_whole unit (value.trans quarters.symm) reads
    (fun c k => h.eq_of_holds positive) enough

end Binary64.IsWhole

/-! ## Numerals of whole numbers -/

theorem fixedPlaces_zero (n : Nat) : fixedPlaces n 0 = Nat.repr n := by
  have some_digit : 0 < (Nat.toDigits 10 n).length := List.length_pos_iff.2 Nat.toDigits_ne_nil
  have no_zero : 0 + 1 - (Nat.toDigits 10 n).length = 0 := by omega
  simp [fixedPlaces, no_zero, Nat.repr]

theorem positional_natCast (c j : Nat) : positional c j = Nat.repr (c * tenTo j) := by
  rw [positional, Int.toNat_natCast, Int.toNat_neg_natCast, fixedPlaces_zero]

namespace Numeral

open Binary64 Chars

theorem ofBinary64_whole {n m : Nat} {e : Int} (h : IsWhole n m e) (positive : 0 < n) :
    ofBinary64 (.finite false m e) = Nat.repr n := by
  have text : (Binary64.finite false m e).toText = Nat.repr n := by
    obtain ⟨c, j, digits, value⟩ := h.shortestDecimal positive
    rw [toText, if_neg (Nat.ne_of_gt (h.mantissa_pos positive)), digits]
    change "" ++ positional c j = _
    rw [String.empty_append, positional_natCast, value]
  simp only [ofBinary64, h.wholeMagnitude?]
  split
  · exact String.empty_append
  · exact text

theorem ofBinary64_ofNat {n : Nat} (small : n ≤ twoTo 53) :
    ofBinary64 (Binary64.ofNat n) = Nat.repr n := by
  obtain rfl | positive := Nat.eq_zero_or_pos n
  · decide +kernel
  · obtain ⟨m, e, double, whole⟩ := ofNat_isWhole positive small
    rw [double, ofBinary64_whole whole positive]

end Numeral

/-! ## Reading digits -/

theorem Binary64.ofDecimal_natural {n : Nat} (small : n ≤ twoTo 53) :
    ofDecimal false n 0 = ofNat n := by
  have places : (Nat.toDigits 10 n).length ≤ 16 :=
    (Nat.length_toDigits_le_iff (by omega) (by omega)).2 (Nat.lt_of_le_of_lt small (by decide))
  simp only [ofDecimal, decimalOverflow, decimalUnderflow, Int.ofNat_eq_natCast, Int.add_zero]
  split_ifs with zero many few
  · rw [zero]
    rfl
  · omega
  · omega
  · exact congrArg (ofRatio false · 1) (Nat.mul_one n)

namespace Chars

theorem readBinary64_digits {ds : List Char} (some_digit : ds ≠ [])
    (digits : ds.all isAsciiDigit = true) :
    readBinary64 ds = some (.ofDecimal false (Nat.ofDigitChars 10 ds 0) 0) := by
  have decimal := IsDecimal.mk (.whole some_digit digits) .absent
  rw [List.append_nil] at decimal
  have bare : splitSign ([] ++ ds) = (false, ds) := splitSign_append .absent decimal.bare
  rw [List.nil_append] at bare
  rw [readBinary64, bare]
  simp only [readDecimal_of_isDecimal false decimal, Option.some_or]
  rfl

theorem trim_digits {lead ds trail : List Char} (before : lead.all isBlank = true)
    (digits : ds.all isAsciiDigit = true) (behind : trail.all isBlank = true) :
    trim (lead ++ ds ++ trail) = ds := by
  rw [List.all_eq_true] at digits
  refine dropEndWhile_dropWhile_between before behind ?_ ?_
  · exact fun c first => digit_visible (digits c (List.mem_of_mem_head? first))
  · exact fun c last => digit_visible (digits c (List.mem_of_getLast? last))

end Chars

namespace Numeral

section

variable {lead a trail : String} (before : Text.isBlank lead = true) (digits : Text.IsDigits a)
  (behind : Text.isBlank trail = true)
include before digits behind

theorem pointed_digits : pointed (lead ++ a ++ trail) = a.toList := by
  have no_comma : ∀ c ∈ a.toList, (if c = ',' then '.' else c) = c := by
    intro c mem
    refine if_neg ?_
    rintro rfl
    exact absurd (List.all_eq_true.1 digits.2 _ mem) (by decide)
  rw [pointed, String.toList_append, String.toList_append,
    Chars.trim_digits before digits.2 behind, List.map_congr_left no_comma, List.map_id']

theorem read?_digits :
    read? (lead ++ a ++ trail) = some (.ofDecimal false (Text.value a) 0) := by
  rw [read?_eq, pointed_digits before digits behind]
  exact Chars.readBinary64_digits digits.1 digits.2

theorem ofTextOr_digits (small : Text.value a ≤ twoTo 53) (default : Binary64) :
    ofTextOr (lead ++ a ++ trail) default = Nat.repr (Text.value a) := by
  rw [ofTextOr, read?_digits before digits behind, Option.getD_some,
    Binary64.ofDecimal_natural small, ofBinary64_ofNat small]

end

-- The next number lies between two doubles.
example : ofTextOr "9007199254740993" .nan = "9007199254740992" := by decide +kernel

end Numeral

end LoadScript
