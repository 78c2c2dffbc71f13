import LoadScript.Number.Reading
import LoadScript.Text.Alphanumeric
import LoadScript.Text.Blank

set_option autoImplicit false

namespace LoadScript.Chars

theorem isAsciiDigit_iff {c : Char} : isAsciiDigit c = true ↔ 0x30 ≤ c.toNat ∧ c.toNat ≤ 0x39 := by
  simp [isAsciiDigit, Char.le_def, UInt32.le_iff_toNat_le]

theorem isDecimalDigit_of_isAsciiDigit {c : Char} (digit : isAsciiDigit c = true) :
    isDecimalDigit c = true := by
  have bounds := isAsciiDigit_iff.1 digit
  exact List.any_eq_true.2 ⟨(0x30, 0x39), .head _, by simpa using bounds⟩

theorem digit_visible {c : Char} (digit : isAsciiDigit c = true) : isBlank c = false := by
  have bounds := isAsciiDigit_iff.1 digit
  simp only [isBlank, Bool.or_eq_false_iff, Bool.and_eq_false_iff, decide_eq_false_iff_not,
    beq_eq_false_iff_ne]
  omega

/-- The text denotes a number below the bound. -/
def IsUnsigned (bound : Nat) (s : List Char) (n : Nat) : Prop :=
  ∃ ds, ds ≠ [] ∧ ds.all isAsciiDigit = true ∧ (s = ds ∨ s = '+' :: ds) ∧
    Nat.ofDigitChars 10 ds 0 = n ∧ n < bound

theorem digitsValue_eq (ds : List Char) : digitsValue ds = Nat.ofDigitChars 10 ds 0 := by
  simp only [digitsValue, digitValue, Nat.ofDigitChars]

theorem readUnsigned_plus (bound : Nat) (ds : List Char) :
    readUnsigned bound ('+' :: ds) = if ds.isEmpty || !ds.all isAsciiDigit then none
      else if digitsValue ds < bound then some (digitsValue ds) else none := rfl

theorem readUnsigned_bare (bound : Nat) {s : List Char} (bare : s.head? ≠ some '+') :
    readUnsigned bound s = if s.isEmpty || !s.all isAsciiDigit then none
      else if digitsValue s < bound then some (digitsValue s) else none := by
  unfold readUnsigned
  split
  · exact absurd rfl bare
  · rfl

theorem readDigits_eq_some_iff {bound n : Nat} {ds : List Char} :
    (if (ds.isEmpty || !ds.all isAsciiDigit) = true then none
      else if digitsValue ds < bound then some (digitsValue ds) else none) = some n ↔
      ds ≠ [] ∧ ds.all isAsciiDigit = true ∧ Nat.ofDigitChars 10 ds 0 = n ∧ n < bound := by
  rw [digitsValue_eq]
  by_cases written : ds ≠ [] ∧ ds.all isAsciiDigit = true
  · rw [if_neg (by simp [written])]
    by_cases small : Nat.ofDigitChars 10 ds 0 < bound
    · rw [if_pos small, Option.some.injEq]
      constructor
      · rintro rfl
        exact ⟨written.1, written.2, rfl, small⟩
      · exact fun h => h.2.2.1
    · rw [if_neg small]
      constructor
      · intro h
        cases h
      · rintro ⟨-, -, rfl, h⟩
        exact absurd h small
  · have refused : (ds.isEmpty || !ds.all isAsciiDigit) = true := by
      by_cases empty : ds = []
      · rw [empty]
        rfl
      · rw [Bool.eq_false_iff.2 fun digits => written ⟨empty, digits⟩, Bool.not_false, Bool.or_true]
    rw [if_pos refused]
    constructor
    · intro h
      cases h
    · exact fun h => absurd ⟨h.1, h.2.1⟩ written

theorem bare_of_digits {ds : List Char} (digits : ds.all isAsciiDigit = true) :
    ds.head? ≠ some '+' := by
  intro plus
  obtain ⟨rest, rfl⟩ := List.head?_eq_some_iff.1 plus
  have digit : isAsciiDigit '+' = true := List.all_eq_true.1 digits _ List.mem_cons_self
  exact absurd digit (by decide)

theorem readUnsigned_eq_some_iff {bound n : Nat} {s : List Char} :
    readUnsigned bound s = some n ↔ IsUnsigned bound s n := by
  by_cases plus : s.head? = some '+'
  · obtain ⟨ds, rfl⟩ := List.head?_eq_some_iff.1 plus
    rw [readUnsigned_plus, readDigits_eq_some_iff]
    constructor
    · rintro ⟨some_digit, digits, value, small⟩
      exact ⟨ds, some_digit, digits, .inr rfl, value, small⟩
    · rintro ⟨es, some_digit, digits, same | same, value, small⟩
      · rw [same] at plus
        exact absurd plus (bare_of_digits digits)
      · obtain rfl := (List.cons.inj same).2
        exact ⟨some_digit, digits, value, small⟩
  · rw [readUnsigned_bare bound plus, readDigits_eq_some_iff]
    constructor
    · rintro ⟨some_digit, digits, value, small⟩
      exact ⟨s, some_digit, digits, .inl rfl, value, small⟩
    · rintro ⟨es, some_digit, digits, rfl | rfl, value, small⟩
      · exact ⟨some_digit, digits, value, small⟩
      · exact absurd rfl plus

end LoadScript.Chars

namespace LoadScript.Text

def IsDigits (s : String) : Prop := s.toList ≠ [] ∧ s.toList.all Chars.isAsciiDigit = true

def value (s : String) : Nat := Nat.ofDigitChars 10 s.toList 0

end LoadScript.Text
