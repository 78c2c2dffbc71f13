import LoadScript.Proofs.Number.Binary64
import LoadScript.Proofs.Number.Reading
import LoadScript.Proofs.Text.Ascii
import LoadScript.Proofs.Text.Blank

set_option autoImplicit false

namespace LoadScript.Chars

/-! ## Grammar -/

/-- A sign that may be left out, and whether it is a minus. -/
inductive IsSign : List Char → Bool → Prop
  | absent : IsSign [] false
  | plus : IsSign ['+'] false
  | minus : IsSign ['-'] true

/-- Digits that may have a point, with their number and the places behind the point. -/
inductive IsMantissa : List Char → Nat → Nat → Prop
  | whole {ds : List Char} : ds ≠ [] → ds.all isAsciiDigit = true →
      IsMantissa ds (Nat.ofDigitChars 10 ds 0) 0
  | pointed {ds es : List Char} : ds ++ es ≠ [] → ds.all isAsciiDigit = true →
      es.all isAsciiDigit = true →
      IsMantissa (ds ++ '.' :: es) (Nat.ofDigitChars 10 (ds ++ es) 0) es.length

inductive IsExponent : List Char → Int → Prop
  | absent : IsExponent [] 0
  | present {mark : Char} {sign ds : List Char} {negative : Bool} : mark = 'e' ∨ mark = 'E' →
      IsSign sign negative → ds ≠ [] → ds.all isAsciiDigit = true →
      IsExponent (mark :: (sign ++ ds))
        (if negative then -Nat.ofDigitChars 10 ds 0 else Nat.ofDigitChars 10 ds 0)

/-- The numeral of `n · 10 ^ e`. -/
inductive IsDecimal : List Char → Nat → Int → Prop
  | mk {mantissa tail : List Char} {n places : Nat} {e : Int} : IsMantissa mantissa n places →
      IsExponent tail e → IsDecimal (mantissa ++ tail) n (e - places)

/-- A word for an infinity or for no number, in any case. -/
def NonfiniteWord (s : List Char) : Prop :=
  String.ofList (s.map Char.toLower) ∈ ["inf", "infinity", "nan"]

/-- A signed decimal numeral of a magnitude that a double can have. -/
def FiniteNumeral (s : List Char) : Prop :=
  ∃ sign negative magnitude n e, s = sign ++ magnitude ∧ IsSign sign negative ∧
    IsDecimal magnitude n e ∧ (n * 10 ^ e : ℚ) < Binary64.overflow

/-- A signed word, or a signed decimal numeral of a magnitude that no double has. -/
def Boundless (s : List Char) : Prop :=
  ∃ sign negative magnitude, s = sign ++ magnitude ∧ IsSign sign negative ∧
    (NonfiniteWord magnitude ∨ ∃ n e, IsDecimal magnitude n e ∧ Binary64.overflow ≤ (n * 10 ^ e : ℚ))

/-! ## Reading -/

theorem exists_isSign (s : List Char) :
    ∃ sign, IsSign sign (splitSign s).1 ∧ s = sign ++ (splitSign s).2 := by
  unfold splitSign
  split
  · exact ⟨_, .minus, rfl⟩
  · exact ⟨_, .plus, rfl⟩
  · exact ⟨_, .absent, rfl⟩

theorem splitSign_append {sign rest : List Char} {negative : Bool} (h : IsSign sign negative)
    (bare : ∀ c, rest.head? = some c → c ≠ '+' ∧ c ≠ '-') :
    splitSign (sign ++ rest) = (negative, rest) := by
  cases h with
  | plus => rfl
  | minus => rfl
  | absent =>
    rw [List.nil_append, splitSign]
    · rintro after rfl
      exact (bare '-' rfl).2 rfl
    · rintro after rfl
      exact (bare '+' rfl).1 rfl

theorem ne_sign_of_digit {c : Char} (digit : isAsciiDigit c = true) : c ≠ '+' ∧ c ≠ '-' := by
  constructor
  · rintro rfl
    exact absurd digit (by decide)
  · rintro rfl
    exact absurd digit (by decide)

theorem digit_of_head? {ds : List Char} (digits : ds.all isAsciiDigit = true) {c : Char}
    (first : ds.head? = some c) : isAsciiDigit c = true :=
  List.all_eq_true.1 digits c (List.mem_of_mem_head? first)

theorem readExponent_eq_some_iff {s : List Char} {e : Int} :
    readExponent s = some e ↔ IsExponent s e := by
  constructor
  · intro read
    unfold readExponent at read
    split at read
    · cases read
      exact .absent
    · rename_i mark rest
      split at read
      · rename_i marked
        obtain ⟨sign, signed, split⟩ := exists_isSign rest
        generalize splitSign rest = parts at *
        obtain ⟨negative, ds⟩ := parts
        simp only at read signed split
        split at read
        · cases read
        · rename_i written
          simp only [Bool.or_eq_true, Bool.not_eq_true', not_or, List.isEmpty_iff,
            Bool.not_eq_false] at written
          cases read
          rw [split, digitsValue_eq]
          exact .present (by simpa using marked) signed written.1 written.2
      · cases read
  · intro shape
    cases shape with
    | absent => rfl
    | @present mark sign ds negative marked signed some_digit digits =>
      have split := splitSign_append signed
        fun c first => ne_sign_of_digit (digit_of_head? digits first)
      simpa [readExponent, marked, split, some_digit, digitsValue_eq] using digits

theorem IsExponent.head? {tail : List Char} {e : Int} (h : IsExponent tail e) {c : Char}
    (first : tail.head? = some c) : isAsciiDigit c = false ∧ c ≠ '.' := by
  cases h with
  | absent => cases first
  | present marked =>
    cases first
    obtain rfl | rfl := marked <;> decide

theorem exists_isDecimal_of_readDecimal {negative : Bool} {s : List Char} {x : Binary64}
    (read : readDecimal negative s = some x) :
    ∃ n e, IsDecimal s n e ∧ Binary64.ofDecimal negative n e = x := by
  have whole := List.takeWhile_append_dropWhile (p := isAsciiDigit) (l := s)
  have digits : (s.takeWhile isAsciiDigit).all isAsciiDigit = true := List.all_takeWhile
  unfold readDecimal at read
  generalize s.takeWhile isAsciiDigit = ds at *
  generalize s.dropWhile isAsciiDigit = after at *
  subst whole
  simp only [Option.ite_none_left_eq_some, Option.map_eq_some_iff, digitsValue_eq] at read
  obtain ⟨written, e, tail_read, value⟩ := read
  refine ⟨_, _, ?_, value⟩
  split at written
  · rename_i rest
    have fraction := List.takeWhile_append_dropWhile (p := isAsciiDigit) (l := rest)
    have digits' : (rest.takeWhile isAsciiDigit).all isAsciiDigit = true := List.all_takeWhile
    simp only at tail_read ⊢
    generalize rest.takeWhile isAsciiDigit = es at *
    generalize rest.dropWhile isAsciiDigit = tail at *
    subst fraction
    have some_digit : ds ++ es ≠ [] := by
      intro none
      simp [List.append_eq_nil_iff.1 none] at written
    rw [← List.cons_append, ← List.append_assoc]
    exact .mk (.pointed some_digit digits digits') (readExponent_eq_some_iff.1 tail_read)
  · simp only [List.append_nil] at tail_read ⊢
    have some_digit : ds ≠ [] := by
      rintro rfl
      exact written rfl
    exact .mk (.whole some_digit digits) (readExponent_eq_some_iff.1 tail_read)

theorem readDecimal_of_isDecimal (negative : Bool) {s : List Char} {n : Nat} {e : Int}
    (shape : IsDecimal s n e) : readDecimal negative s = some (Binary64.ofDecimal negative n e) := by
  obtain @⟨mantissa, tail, n, places, e, mantissa_shape, tail_shape⟩ := shape
  have read_tail := readExponent_eq_some_iff.2 tail_shape
  have behind (c : Char) (first : tail.head? = some c) : isAsciiDigit c = false :=
    (tail_shape.head? first).1
  cases mantissa_shape with
  | whole some_digit digits =>
    have take := takeWhile_of_head? digits behind
    have drop := dropWhile_before digits behind
    have no_point (rest : List Char) : tail ≠ '.' :: rest := by
      rintro rfl
      exact (tail_shape.head? rfl).2 rfl
    simp [readDecimal, take, drop, read_tail, digitsValue_eq, some_digit]
  | @pointed ds es some_digit digits places =>
    have point (c : Char) (first : ('.' :: (es ++ tail)).head? = some c) :
        isAsciiDigit c = false := by
      cases first
      decide
    have take := takeWhile_of_head? digits point
    have drop := dropWhile_before digits point
    have take' := takeWhile_of_head? places behind
    have drop' := dropWhile_before places behind
    rw [List.append_assoc, List.cons_append]
    simpa [readDecimal, take, drop, take', drop', read_tail, digitsValue_eq] using some_digit

theorem IsMantissa.exists_head {s : List Char} {n places : Nat} (h : IsMantissa s n places) :
    ∃ c rest, s = c :: rest ∧ (isAsciiDigit c = true ∨ c = '.') := by
  cases h with
  | whole some_digit digits =>
    cases s with
    | nil => exact absurd rfl some_digit
    | cons d ds => exact ⟨d, ds, rfl, .inl (List.all_eq_true.1 digits _ List.mem_cons_self)⟩
  | @pointed ds es some_digit digits =>
    cases ds with
    | nil => exact ⟨'.', es, rfl, .inr rfl⟩
    | cons d ds => exact ⟨d, _, rfl, .inl (List.all_eq_true.1 digits _ List.mem_cons_self)⟩

theorem IsDecimal.exists_head {s : List Char} {n : Nat} {e : Int} (h : IsDecimal s n e) :
    ∃ c rest, s = c :: rest ∧ (isAsciiDigit c = true ∨ c = '.') := by
  obtain ⟨mantissa_shape, -⟩ := h
  obtain ⟨c, rest, rfl, first⟩ := mantissa_shape.exists_head
  exact ⟨c, _, rfl, first⟩

theorem IsDecimal.bare {s : List Char} {n : Nat} {e : Int} (h : IsDecimal s n e) (c : Char)
    (first : s.head? = some c) : c ≠ '+' ∧ c ≠ '-' := by
  obtain ⟨d, rest, rfl, digit | rfl⟩ := h.exists_head
  · cases first
    exact ne_sign_of_digit digit
  · cases first
    decide

theorem NonfiniteWord.exists_head {s : List Char} (h : NonfiniteWord s) :
    ∃ c rest, s = c :: rest ∧ c ∈ ['i', 'I', 'n', 'N'] := by
  have heads := List.mem_map_of_mem (f := fun word : String => word.toList.head?) h
  cases s with
  | nil => exact absurd heads (by decide)
  | cons c rest =>
    refine ⟨c, rest, rfl, ?_⟩
    have letter : c.toLower = 'i'.toLower ∨ c.toLower = 'n'.toLower := by
      simpa using heads
    simp only [toLower_eq_iff, SameLetter, isUpper_iff] at letter
    simp only [List.mem_cons, List.not_mem_nil, or_false, ← Char.toNat_inj] at letter ⊢
    simp at letter ⊢
    omega

theorem NonfiniteWord.bare {s : List Char} (h : NonfiniteWord s) (c : Char)
    (first : s.head? = some c) : c ≠ '+' ∧ c ≠ '-' := by
  obtain ⟨d, rest, rfl, letter⟩ := h.exists_head
  cases first
  simp only [List.mem_cons, List.not_mem_nil, or_false] at letter
  obtain rfl | rfl | rfl | rfl := letter <;> decide

theorem not_nonfiniteWord_of_isDecimal {s : List Char} {n : Nat} {e : Int}
    (decimal : IsDecimal s n e) : ¬ NonfiniteWord s := by
  intro word
  obtain ⟨c, rest, rfl, letter⟩ := word.exists_head
  obtain ⟨d, rest', same, first⟩ := decimal.exists_head
  cases same
  simp only [List.mem_cons, List.not_mem_nil, or_false] at letter
  obtain rfl | rfl | rfl | rfl := letter <;> exact absurd first (by decide)

theorem readWord_of_nonfiniteWord (negative : Bool) {s : List Char} (h : NonfiniteWord s) :
    ∃ x, readWord negative s = some x ∧ ¬ x.IsFinite := by
  simp only [NonfiniteWord, List.mem_cons, List.not_mem_nil, or_false] at h
  unfold readWord
  obtain same | same | same := h
  · exact ⟨.infinite negative, by simp [same], id⟩
  · exact ⟨.infinite negative, by simp [same], id⟩
  · exact ⟨.nan, by simp [same], id⟩

theorem nonfiniteWord_of_readWord {negative : Bool} {s : List Char} {x : Binary64}
    (read : readWord negative s = some x) : NonfiniteWord s := by
  by_contra other
  simp only [NonfiniteWord, List.mem_cons, List.not_mem_nil, or_false, not_or] at other
  simp [readWord, other] at read

end LoadScript.Chars

namespace LoadScript.Binary64

/-! ## Rounding decimals -/

theorem tenTo_pos (k : Nat) : 0 < tenTo k := Nat.pow_pos (by omega)

theorem tenTo_div (e : Int) : (tenTo e.toNat / tenTo (-e).toNat : ℚ) = 10 ^ e := by
  have ten : (10 : ℚ) ≠ 0 := by norm_num
  have power := zpow_mul_pow_toNat ten e
  simp only [Nat.pow_eq, Nat.cast_pow, Nat.cast_ofNat]
  rw [← power, mul_div_cancel_right₀ _ (pow_ne_zero _ ten)]

theorem toDigits_bounds {n : Nat} (positive : 0 < n) :
    (10 : ℚ) ^ ((Nat.toDigits 10 n).length - 1 : Int) ≤ n ∧
      (n : ℚ) < 10 ^ ((Nat.toDigits 10 n).length : Int) := by
  have some_digit : 0 < (Nat.toDigits 10 n).length :=
    List.length_pos_iff.2 Nat.toDigits_ne_nil
  have most : n < 10 ^ (Nat.toDigits 10 n).length :=
    (Nat.length_toDigits_le_iff (by omega) some_digit).1 (Nat.le_refl _)
  obtain ⟨k, length⟩ : ∃ k, (Nat.toDigits 10 n).length = k + 1 :=
    ⟨_, (Nat.sub_add_cancel some_digit).symm⟩
  have least : 10 ^ k ≤ n := by
    obtain rfl | larger := Nat.eq_zero_or_pos k
    · exact positive
    · by_contra fewer
      have short := (Nat.length_toDigits_le_iff (by omega) larger).2 (Nat.not_le.1 fewer)
      omega
  rw [length] at most ⊢
  constructor
  · rw [show ((k + 1 : Nat) - 1 : Int) = (k : Int) by omega, zpow_natCast]
    exact_mod_cast least
  · rw [zpow_natCast]
    exact_mod_cast most

theorem overflow_le_tenTo : overflow ≤ 10 ^ (310 : Int) := by
  have powers : (2 : Nat) ^ (54 + 970) ≤ 10 ^ 310 := by decide +kernel
  have unit : (0 : ℚ) < 2 ^ (970 : Int) := zpow_pos two_pos _
  calc overflow ≤ 2 ^ 54 * 2 ^ (970 : Int) := mul_le_mul_of_nonneg_right (by norm_num) unit.le
    _ = ((2 ^ (54 + 970) : Nat) : ℚ) := by
      rw [Nat.cast_pow, Nat.cast_ofNat, pow_add, zpow_ofNat]
    _ ≤ ((10 ^ 310 : Nat) : ℚ) := Nat.cast_le.2 powers
    _ = 10 ^ (310 : Int) := by rw [Nat.cast_pow, Nat.cast_ofNat, zpow_ofNat]

theorem one_lt_overflow : 1 < overflow := by
  have power : (1 : ℚ) ≤ 2 ^ (970 : Int) := one_le_zpow₀ one_le_two (by omega)
  calc (1 : ℚ) ≤ 2 ^ (970 : Int) := power
    _ < overflow := lt_mul_of_one_lt_left (lt_of_lt_of_le one_pos power) (by norm_num)

/-- A decimal has a finite double exactly below the overflow. The cases that are decided by the
number of places alone lie far from it. -/
theorem ofDecimal_isFinite_iff (negative : Bool) (n : Nat) (e : Int) :
    (ofDecimal negative n e).IsFinite ↔ (n * 10 ^ e : ℚ) < overflow := by
  have ten : (10 : ℚ) ≠ 0 := by norm_num
  have one_le_ten : (1 : ℚ) ≤ 10 := by norm_num
  have scale : (0 : ℚ) < 10 ^ e := zpow_pos (by norm_num) e
  simp only [ofDecimal]
  split_ifs with none many few
  · subst none
    rw [Nat.cast_zero, zero_mul]
    exact iff_of_true trivial (one_pos.trans one_lt_overflow)
  · have bounds := toDigits_bounds (Nat.pos_of_ne_zero none)
    have large : overflow ≤ n * 10 ^ e := by
      calc overflow ≤ 10 ^ (310 : Int) := overflow_le_tenTo
        _ ≤ 10 ^ ((Nat.toDigits 10 n).length - 1 + e) := by
          refine zpow_le_zpow_right₀ one_le_ten ?_
          simp only [decimalOverflow, Int.ofNat_eq_natCast] at many
          omega
        _ = 10 ^ ((Nat.toDigits 10 n).length - 1 : Int) * 10 ^ e := zpow_add₀ ten _ _
        _ ≤ n * 10 ^ e := mul_le_mul_of_nonneg_right bounds.1 scale.le
    exact iff_of_false id (not_lt.2 large)
  · have bounds := toDigits_bounds (Nat.pos_of_ne_zero none)
    have small : (n * 10 ^ e : ℚ) < overflow := by
      calc (n * 10 ^ e : ℚ) < 10 ^ ((Nat.toDigits 10 n).length : Int) * 10 ^ e :=
            mul_lt_mul_of_pos_right bounds.2 scale
        _ = 10 ^ ((Nat.toDigits 10 n).length + e) := (zpow_add₀ ten _ _).symm
        _ ≤ 1 := by
          refine zpow_le_one_of_nonpos₀ one_le_ten ?_
          simp only [decimalUnderflow, Int.ofNat_eq_natCast] at few
          omega
        _ < overflow := one_lt_overflow
    exact iff_of_true trivial small
  · have ratio : ((n * tenTo e.toNat : Nat) / (tenTo (-e).toNat : Nat) : ℚ) = n * 10 ^ e := by
      rw [Nat.cast_mul, mul_div_assoc, tenTo_div]
    rw [ofRatio_isFinite_iff negative _ (tenTo_pos _), ratio]

theorem ofDecimal_proper (negative : Bool) (n : Nat) (e : Int) :
    (ofDecimal negative n e).Proper := by
  simp only [ofDecimal]
  split_ifs
  · exact ⟨Nat.two_pow_pos 53, by decide⟩
  · trivial
  · exact ⟨Nat.two_pow_pos 53, by decide⟩
  · exact ofRatio_proper negative _ (tenTo_pos _)

end LoadScript.Binary64

namespace LoadScript.Chars

/-! ## Finite numerals and boundless texts -/

theorem FiniteNumeral.exists_read {s : List Char} (h : FiniteNumeral s) :
    ∃ x, readBinary64 s = some x ∧ x.IsFinite := by
  obtain ⟨sign, negative, magnitude, n, e, rfl, signed, decimal, small⟩ := h
  refine ⟨Binary64.ofDecimal negative n e, ?_, ?_⟩
  · rw [readBinary64, splitSign_append signed decimal.bare]
    simp only [readDecimal_of_isDecimal negative decimal, Option.some_or]
  · exact (Binary64.ofDecimal_isFinite_iff negative n e).2 small

theorem Boundless.exists_read {s : List Char} (h : Boundless s) :
    ∃ x, readBinary64 s = some x ∧ ¬ x.IsFinite := by
  obtain ⟨sign, negative, magnitude, rfl, signed, word | ⟨n, e, decimal, large⟩⟩ := h
  · obtain ⟨x, read, unbounded⟩ := readWord_of_nonfiniteWord negative word
    refine ⟨x, ?_, unbounded⟩
    have undecimal : readDecimal negative magnitude = none := by
      rw [Option.eq_none_iff_forall_ne_some]
      intro y decimal_read
      obtain ⟨n, e, decimal, -⟩ := exists_isDecimal_of_readDecimal decimal_read
      exact not_nonfiniteWord_of_isDecimal decimal word
    rw [readBinary64, splitSign_append signed word.bare]
    simp only [undecimal, read, Option.none_or]
  · refine ⟨Binary64.ofDecimal negative n e, ?_, ?_⟩
    · rw [readBinary64, splitSign_append signed decimal.bare]
      simp only [readDecimal_of_isDecimal negative decimal, Option.some_or]
    · rw [Binary64.ofDecimal_isFinite_iff]
      exact not_lt.2 large

theorem Boundless.not_finiteNumeral {s : List Char} (h : Boundless s) : ¬ FiniteNumeral s := by
  intro numeral
  obtain ⟨x, read, unbounded⟩ := h.exists_read
  obtain ⟨y, read', finite⟩ := numeral.exists_read
  cases read.symm.trans read'
  exact unbounded finite

theorem numeral_or_boundless_of_read {s : List Char} {x : Binary64}
    (read : readBinary64 s = some x) : x.Proper ∧ (FiniteNumeral s ∨ Boundless s) := by
  obtain ⟨sign, signed, split⟩ := exists_isSign s
  unfold readBinary64 at read
  generalize splitSign s = parts at *
  obtain ⟨negative, magnitude⟩ := parts
  simp only [Option.or_eq_some_iff] at read signed split
  obtain decimal_read | ⟨-, word_read⟩ := read
  · obtain ⟨n, e, decimal, rfl⟩ := exists_isDecimal_of_readDecimal decimal_read
    refine ⟨Binary64.ofDecimal_proper negative n e, ?_⟩
    obtain small | large := lt_or_ge (n * 10 ^ e : ℚ) Binary64.overflow
    · exact .inl ⟨sign, negative, magnitude, n, e, split, signed, decimal, small⟩
    · exact .inr ⟨sign, negative, magnitude, split, signed, .inr ⟨n, e, decimal, large⟩⟩
  · have word := nonfiniteWord_of_readWord word_read
    refine ⟨?_, .inr ⟨sign, negative, magnitude, split, signed, .inl word⟩⟩
    obtain ⟨y, word_read', unbounded⟩ := readWord_of_nonfiniteWord negative word
    cases word_read.symm.trans word_read'
    exact Binary64.proper_of_not_isFinite unbounded

theorem isFinite_of_read {s : List Char} {x : Binary64} (read : readBinary64 s = some x) :
    (x.IsFinite ↔ FiniteNumeral s) ∧ (x.IsFinite ↔ ¬ Boundless s) := by
  obtain ⟨-, numeral | boundless⟩ := numeral_or_boundless_of_read read
  · obtain ⟨y, read', finite⟩ := numeral.exists_read
    cases read.symm.trans read'
    exact ⟨iff_of_true finite numeral,
      iff_of_true finite fun boundless => boundless.not_finiteNumeral numeral⟩
  · obtain ⟨y, read', unbounded⟩ := boundless.exists_read
    cases read.symm.trans read'
    exact ⟨iff_of_false unbounded boundless.not_finiteNumeral,
      iff_of_false unbounded (not_not_intro boundless)⟩

end LoadScript.Chars
