import LoadScript.Load.Duration
import LoadScript.Proofs.Number.Reading
import LoadScript.Proofs.Text.Blank
import LoadScript.Proofs.Text.Case

set_option autoImplicit false

namespace LoadScript.Duration

open Chars

/-! ## Parts -/

inductive TimeUnit where
  | hour
  | minute
  | second
  deriving DecidableEq, Repr

namespace TimeUnit

def length : TimeUnit → Nat
  | .hour => 3600
  | .minute => 60
  | .second => 1

def letters : TimeUnit → List Char
  | .hour => ['h', 'H']
  | .minute => ['m', 'M']
  | .second => ['s', 'S']

theorem length_pos (unit : TimeUnit) : 0 < unit.length := by cases unit <;> decide

theorem letter_not_digit {unit : TimeUnit} {c : Char} (h : c ∈ unit.letters) :
    isAsciiDigit c = false := by
  have all : unit.letters.all (fun c => !isAsciiDigit c) = true := by cases unit <;> decide
  simpa using List.all_eq_true.1 all c h

end TimeUnit

/-- A number with its unit, as it is written. -/
structure Part where
  digits : List Char
  letter : Char
  unit : TimeUnit
  some_digit : digits ≠ []
  ascii : ∀ c ∈ digits, isAsciiDigit c = true
  marks : letter ∈ unit.letters

namespace Part

def text (p : Part) : List Char := p.digits ++ [p.letter]

def number (p : Part) : Nat := Nat.ofDigitChars 10 p.digits 0

def seconds (p : Part) : Nat := p.number * p.unit.length

end Part

def total : List Part → Nat
  | [] => 0
  | p :: ps => p.seconds + total ps

/-- The text consists of the parts, of which there is at least one, and of blanks around them. -/
structure Written (t : String) (parts : List Part) : Prop where
  some_part : parts ≠ []
  between : ∃ lead trail, lead.all isBlank = true ∧ trail.all isBlank = true ∧
    t.toList = lead ++ parts.flatMap Part.text ++ trail

theorem total_append (ps qs : List Part) : total (ps ++ qs) = total ps + total qs := by
  induction ps with
  | nil => simp [total]
  | cons p ps ih => simp only [List.cons_append, total, ih, Nat.add_assoc]

theorem digits_unique {ds es rest more : List Char} {c d : Char}
    (hds : ∀ x ∈ ds, isAsciiDigit x = true) (hes : ∀ x ∈ es, isAsciiDigit x = true)
    (hc : isAsciiDigit c = false) (hd : isAsciiDigit d = false)
    (h : ds ++ c :: rest = es ++ d :: more) : ds = es ∧ c = d ∧ rest = more := by
  have same : ds = es := by
    rw [← takeWhile_before hds hc rest, h, takeWhile_before hes hd more]
  subst same
  exact ⟨rfl, List.cons.inj (List.append_cancel_left h)⟩

/-! ## One scan -/

def unitSeconds? : Char → Option Nat
  | 'h' => some 3600
  | 'm' => some 60
  | 's' => some 1
  | _ => none

/-- The seconds of the parts of a text, without a bound; `number` is what was read of the current
number, if anything was read of it. -/
def partsSeconds? : Option Nat → List Char → Option Nat
  | none, [] => some 0
  | some _, [] => none
  | number, c :: rest =>
    if isAsciiDigit c then
      partsSeconds? (some (10 * number.getD 0 + digitValue c)) rest
    else do
      let n ← number
      let unit ← unitSeconds? c
      let more ← partsSeconds? none rest
      return n * unit + more

/-! ## Lower case -/

def low (c : Char) : Char := mapByRows lowerRows c

/-- The only row that leads to the letter of a unit is the one of the ASCII letters. -/
theorem rows_to_letters : ∀ row ∈ lowerRows, ∀ n ∈ [0x68, 0x6D, 0x73],
    row.reaches n = true → row.shift = 32 := by
  decide +kernel

theorem low_of_isAsciiDigit {c : Char} (digit : isAsciiDigit c = true) : low c = c := by
  have bounds := isAsciiDigit_iff.1 digit
  refine mapByRows_of_outside fun row mem => .inl ?_
  have above := (rows_above_digits row mem).1
  omega

theorem isAsciiDigit_low (c : Char) : isAsciiDigit (low c) = isAsciiDigit c := by
  rw [Bool.eq_iff_iff]
  constructor
  · intro digit
    have bounds := isAsciiDigit_iff.1 digit
    have same : c = low c := eq_of_mapByRows rfl (by omega) fun row mem =>
      CaseRow.reaches_eq_false (by have above := (rows_above_digits row mem).2; omega)
    rwa [same]
  · intro digit
    rwa [low_of_isAsciiDigit digit]

theorem low_eq_letter {c : Char} {n : Nat} (mem : n ∈ [0x68, 0x6D, 0x73]) (h : (low c).toNat = n) :
    c.toNat = n ∨ c.toNat + 32 = n := by
  have nonzero : (low c).toNat ≠ 0 := by
    rintro zero
    rw [← h, zero] at mem
    simp at mem
  obtain same | ⟨row, hrow, reached, moved⟩ := mapByRows_eq_cases (c := c) (d := low c) rfl nonzero
  · rw [same]
    exact .inl h
  · rw [h] at reached moved
    have shift := rows_to_letters row hrow n mem reached
    omega

theorem units_of_letters (unit : TimeUnit) :
    unit.letters.all (fun c => unitSeconds? (low c) == some unit.length) = true := by
  cases unit <;> decide +kernel

theorem mem_letters {unit : TimeUnit} {n : Nat} {c : Char}
    (letters : unit.letters = [Char.ofNat n, Char.ofNat (n - 32)])
    (h : c.toNat = n ∨ c.toNat + 32 = n) : c ∈ unit.letters := by
  rw [letters]
  obtain rfl | rfl := h
  · simp
  · simp

theorem unitSeconds?_low (c : Char) (k : Nat) :
    unitSeconds? (low c) = some k ↔ ∃ unit : TimeUnit, c ∈ unit.letters ∧ unit.length = k := by
  constructor
  · intro h
    unfold unitSeconds? at h
    split at h
    · rename_i letter
      have code := low_eq_letter (c := c) (n := 0x68) (by decide) (by rw [letter]; rfl)
      exact ⟨.hour, mem_letters (by decide) code, Option.some.inj h⟩
    · rename_i letter
      have code := low_eq_letter (c := c) (n := 0x6D) (by decide) (by rw [letter]; rfl)
      exact ⟨.minute, mem_letters (by decide) code, Option.some.inj h⟩
    · rename_i letter
      have code := low_eq_letter (c := c) (n := 0x73) (by decide) (by rw [letter]; rfl)
      exact ⟨.second, mem_letters (by decide) code, Option.some.inj h⟩
    · cases h
  · rintro ⟨unit, mem, rfl⟩
    simpa using List.all_eq_true.1 (units_of_letters unit) c mem

/-! ## Reading of parts -/

theorem partsSeconds?_digit {c : Char} (digit : isAsciiDigit c = true) (number : Option Nat)
    (s : List Char) : partsSeconds? number (c :: s) =
      partsSeconds? (some (10 * number.getD 0 + digitValue c)) s := by
  cases number <;> rw [partsSeconds?, if_pos digit]

theorem partsSeconds?_other {c : Char} (other : isAsciiDigit c = false) (number : Option Nat)
    (s : List Char) : partsSeconds? number (c :: s) = (do
      let n ← number
      let unit ← unitSeconds? c
      let more ← partsSeconds? none s
      return n * unit + more) := by
  cases number <;> rw [partsSeconds?, if_neg (by simp [other])]

/-- No part has the character. -/
def Foreign (c : Char) : Prop := isAsciiDigit c = false ∧ unitSeconds? c = none

instance (c : Char) : Decidable (Foreign c) := inferInstanceAs (Decidable (_ ∧ _))

theorem partsSeconds?_foreign {c : Char} (foreign : Foreign c) (number : Option Nat)
    (s : List Char) : partsSeconds? number (c :: s) = none := by
  rw [partsSeconds?_other foreign.1, foreign.2]
  cases number <;> rfl

/-- Parts are read off the lower case of a text as if each character had its own. The characters for
which this is not so are no part of a duration in either form. -/
theorem partsSeconds?_lowerFrom (before s : List Char) (number : Option Nat) :
    partsSeconds? number (lowerFrom before s) = partsSeconds? number (s.map low) := by
  induction s generalizing before number with
  | nil => rfl
  | cons c s ih =>
    rw [lowerFrom, List.map_cons]
    by_cases sigma : c = 'Σ'
    · subst sigma
      rw [partsSeconds?_foreign (c := low 'Σ') (by decide +kernel), lowerBetween, if_pos rfl]
      split
      · exact partsSeconds?_foreign (by decide) number _
      · exact partsSeconds?_foreign (by decide) number _
    by_cases dotted : c = 'İ'
    · subst dotted
      rw [partsSeconds?_foreign (c := low 'İ') (by decide +kernel), lowerBetween, if_neg sigma,
        if_pos rfl]
      exact partsSeconds?_foreign (by decide) number _
    · rw [lowerBetween, if_neg sigma, if_neg dotted]
      change partsSeconds? number (low c :: lowerFrom (c :: before) s) = _
      cases digit : isAsciiDigit (low c) with
      | true => rw [partsSeconds?_digit digit, partsSeconds?_digit digit, ih]
      | false => rw [partsSeconds?_other digit, partsSeconds?_other digit, ih]

/-- What is known of a number after some of its digits. -/
def numberRead (ds : List Char) : Option Nat :=
  if ds = [] then none else some (Nat.ofDigitChars 10 ds 0)

theorem numberRead_concat (ds : List Char) (c : Char) :
    numberRead (ds ++ [c]) = some (10 * (numberRead ds).getD 0 + digitValue c) := by
  unfold numberRead
  by_cases none_yet : ds = []
  · simp [none_yet, digitValue, Nat.ofDigitChars]
  · simp [none_yet, digitValue, Nat.ofDigitChars]

/-! ## Checked sums -/

theorem unit_cases (c : Char) : isUnit c = true ∧ unitSeconds? c = some (unitSeconds c) ∨
    isUnit c = false ∧ unitSeconds? c = none := by
  unfold unitSeconds?
  split
  · exact .inl ⟨by decide, rfl⟩
  · exact .inl ⟨by decide, rfl⟩
  · exact .inl ⟨by decide, rfl⟩
  · rename_i hour minute second
    have letters : isUnit c = false := by simpa [isUnit] using ⟨⟨hour, minute⟩, second⟩
    exact .inr ⟨letters, rfl⟩

theorem unitSeconds_pos (c : Char) : 0 < unitSeconds c := by
  unfold unitSeconds
  split <;> decide

theorem isUnit_of_isDecimalDigit {c : Char} (digit : isDecimalDigit c = true) :
    isUnit c = false := by
  cases unit : isUnit c with
  | false => rfl
  | true =>
    have letters : c = 'h' ∨ c = 'm' ∨ c = 's' := by simpa [isUnit, or_assoc] using unit
    obtain rfl | rfl | rfl := letters
    all_goals exact absurd digit (by decide +kernel)

/-- Of the checks that go with a part, the last one decides. -/
theorem addPart_eq {digits : List Char} (some_digit : digits ≠ [])
    (hdigits : ∀ d ∈ digits, isDecimalDigit d = true) (total : Nat) (c : Char) :
    addPart total (digits, c) = if digits.all isAsciiDigit then
      checked (total + Nat.ofDigitChars 10 digits 0 * unitSeconds c) else none := by
  have bare : digits.head? ≠ some '+' := by
    intro plus
    exact absurd (hdigits '+' (List.mem_of_mem_head? plus)) (by decide +kernel)
  have value : Nat.ofDigitChars 10 digits 0 ≤ Nat.ofDigitChars 10 digits 0 * unitSeconds c :=
    Nat.le_mul_of_pos_right _ (unitSeconds_pos c)
  rw [addPart, readUnsigned_bare bound bare, digitsValue_eq]
  cases ascii : digits.all isAsciiDigit with
  | false => simp
  | true =>
    generalize Nat.ofDigitChars 10 digits 0 = n at value
    unfold checked
    by_cases small : n < bound
    · by_cases product : n * unitSeconds c < bound
      · simp [some_digit, small, product]
      · have large : ¬ total + n * unitSeconds c < bound := by omega
        simp [some_digit, small, product, large]
    · have large : ¬ total + n * unitSeconds c < bound := by omega
      simp [small, large]

/-- The sum of the parts that come after some digits, if the form is right. -/
def sumFrom (digits : List Char) (total : Nat) (s : List Char) : Option Nat :=
  if isParts (!digits.isEmpty) s then (parts digits s).foldlM addPart total else none

theorem sumFrom_nil (digits : List Char) (total : Nat) :
    sumFrom digits total [] = if digits = [] then some total else none := by
  cases digits <;> simp [sumFrom, isParts, parts]

theorem sumFrom_digit {c : Char} (digit : isDecimalDigit c = true) (digits : List Char)
    (total : Nat) (s : List Char) :
    sumFrom digits total (c :: s) = sumFrom (digits ++ [c]) total s := by
  have started : (!(digits ++ [c]).isEmpty) = true := by simp
  simp only [sumFrom, started, isParts, parts, digit, if_true]

theorem sumFrom_unit {c : Char} (other : isDecimalDigit c = false) (unit : isUnit c = true)
    {digits : List Char} (some_digit : digits ≠ []) (total : Nat) (s : List Char) :
    sumFrom digits total (c :: s) = (addPart total (digits, c)).bind (sumFrom [] · s) := by
  cases form : isParts false s <;> simp [sumFrom, isParts, parts, other, unit, some_digit, form]

theorem sumFrom_stuck {c : Char} (other : isDecimalDigit c = false) {digits : List Char}
    (stuck : digits = [] ∨ isUnit c = false) (total : Nat) (s : List Char) :
    sumFrom digits total (c :: s) = none := by
  obtain rfl | no_unit := stuck
  · simp [sumFrom, isParts, other]
  · simp [sumFrom, isParts, other, no_unit]

theorem checked_bind_add (total n : Nat) (more : Option Nat) :
    (checked (total + n)).bind (fun sum => more.bind fun m => checked (sum + m)) =
      (more.bind fun m => some (n + m)).bind fun m => checked (total + m) := by
  cases more with
  | none => cases checked (total + n) <;> rfl
  | some m =>
    unfold checked
    split
    · simp [Nat.add_assoc]
    · have large : ¬ total + (n + m) < bound := by omega
      simp [large]

/-- Checking the form first and every number on the way gives what one scan gives whose sum is
checked once. -/
theorem sumFrom_eq (digits : List Char) (hdigits : ∀ d ∈ digits, isDecimalDigit d = true)
    (s : List Char) {total : Nat} (small : total < bound) :
    sumFrom digits total s = if digits.all isAsciiDigit then
      (partsSeconds? (numberRead digits) s).bind fun n => checked (total + n) else none := by
  -- A digit goes over from the text to `digits`; a unit ends the part that `digits` began.
  induction s generalizing digits total with
  | nil =>
    rw [sumFrom_nil]
    cases digits with
    | nil => simp [partsSeconds?, numberRead, checked, small]
    | cons d ds => simp [numberRead, partsSeconds?]
  | cons c s ih =>
    cases digit : isDecimalDigit c with
    | true =>
      have longer : ∀ d ∈ digits ++ [c], isDecimalDigit d = true := by
        simpa [or_imp, forall_and, digit] using hdigits
      rw [sumFrom_digit digit, ih (digits ++ [c]) longer small, List.all_append]
      cases ascii : isAsciiDigit c with
      | true => simp [ascii, numberRead_concat, partsSeconds?_digit ascii]
      | false =>
        obtain ⟨unit, -⟩ | ⟨-, none_read⟩ := unit_cases c
        · rw [isUnit_of_isDecimalDigit digit] at unit
          cases unit
        · rw [partsSeconds?_other ascii, none_read]
          cases numberRead digits <;> simp [ascii]
    | false =>
      have other : isAsciiDigit c = false := by
        by_contra ascii
        rw [isDecimalDigit_of_isAsciiDigit (by simpa using ascii)] at digit
        cases digit
      rw [partsSeconds?_other other]
      by_cases none_yet : digits = []
      · rw [sumFrom_stuck digit (.inl none_yet)]
        simp [none_yet, numberRead]
      obtain ⟨unit, read⟩ | ⟨unit, read⟩ := unit_cases c
      · have rest : ∀ sum ∈ checked (total + Nat.ofDigitChars 10 digits 0 * unitSeconds c),
            sumFrom [] sum s = (partsSeconds? none s).bind fun n => checked (sum + n) := by
          intro sum fits
          have below : sum < bound := by
            unfold checked at fits
            split at fits
            · cases fits
              assumption
            · cases fits
          exact ih [] (by simp) below
        rw [sumFrom_unit digit unit none_yet, addPart_eq none_yet hdigits, numberRead,
          if_neg none_yet, read]
        cases digits.all isAsciiDigit with
        | false => rfl
        | true => exact (Option.bind_congr rest).trans (checked_bind_add _ _ _)
      · rw [sumFrom_stuck digit (.inr unit), read]
        cases numberRead digits <;> simp

theorem seconds?_eq (t : String) : seconds? t =
    if lower (trim t.toList) = [] then none
    else (partsSeconds? none (lower (trim t.toList))).filter (· < bound) := by
  have scanned := sumFrom_eq [] (by simp) (lower (trim t.toList)) (show 0 < bound by decide)
  unfold seconds?
  dsimp only
  by_cases empty : lower (trim t.toList) = []
  · rw [if_pos empty, empty]
    rfl
  · rw [if_neg empty]
    have visible : (!(lower (trim t.toList)).isEmpty) = true := by simp [empty]
    rw [visible, Bool.true_and]
    refine scanned.trans ?_
    change (partsSeconds? none _).bind _ = _
    cases partsSeconds? none (lower (trim t.toList)) <;>
      simp [checked, Option.filter]

theorem flatMap_text_eq {ds s : List Char} {c : Char} {parts : List Part}
    (hds : ∀ x ∈ ds, isAsciiDigit x = true) (other : isAsciiDigit c = false)
    (h : ds ++ c :: s = parts.flatMap Part.text) :
    ∃ p ps, parts = p :: ps ∧ ds = p.digits ∧ c = p.letter ∧ s = ps.flatMap Part.text := by
  cases parts with
  | nil => simp at h
  | cons p ps =>
    rw [List.flatMap_cons, Part.text, List.append_assoc, List.singleton_append] at h
    obtain ⟨digits, letter, rest⟩ :=
      digits_unique hds p.ascii other (TimeUnit.letter_not_digit p.marks) h
    exact ⟨p, ps, rfl, digits, letter, rest⟩

theorem eq_nil_of_flatMap_text {ds : List Char} {parts : List Part}
    (hds : ∀ x ∈ ds, isAsciiDigit x = true) (h : ds = parts.flatMap Part.text) : parts = [] := by
  cases parts with
  | nil => rfl
  | cons p ps =>
    have letter : p.letter ∈ ds := by simp [h, Part.text]
    have digit := hds _ letter
    rw [TimeUnit.letter_not_digit p.marks] at digit
    cases digit

theorem partsSeconds?_map_low (ds s : List Char) (n : Nat)
    (hds : ∀ x ∈ ds, isAsciiDigit x = true) :
    partsSeconds? (numberRead ds) (s.map low) = some n ↔
      ∃ parts, ds ++ s = parts.flatMap Part.text ∧ total parts = n := by
  -- A digit goes over from the text to `ds`; a letter ends the part that `ds` began.
  induction s generalizing ds n with
  | nil =>
    rw [List.append_nil, List.map_nil]
    by_cases none_yet : ds = []
    · subst none_yet
      constructor
      · intro h
        exact ⟨[], rfl, Option.some.inj h⟩
      · rintro ⟨parts, text, rfl⟩
        rw [eq_nil_of_flatMap_text hds text]
        rfl
    · rw [numberRead, if_neg none_yet, partsSeconds?]
      constructor
      · intro h
        cases h
      · rintro ⟨parts, text, -⟩
        rw [eq_nil_of_flatMap_text hds text] at text
        exact absurd text none_yet
  | cons c s ih =>
    rw [List.map_cons]
    cases digit : isAsciiDigit c with
    | true =>
      have longer : ∀ x ∈ ds ++ [c], isAsciiDigit x = true := by
        simpa [or_imp, forall_and, digit] using hds
      rw [low_of_isAsciiDigit digit, partsSeconds?_digit digit, ← numberRead_concat, ih _ n longer,
        List.append_assoc, List.singleton_append]
    | false =>
      rw [partsSeconds?_other ((isAsciiDigit_low c).trans digit)]
      constructor
      · intro h
        obtain ⟨number, read, h⟩ := Option.bind_eq_some_iff.1 h
        obtain ⟨k, letter, h⟩ := Option.bind_eq_some_iff.1 h
        obtain ⟨more, rest, h⟩ := Option.bind_eq_some_iff.1 h
        obtain ⟨unit, marks, rfl⟩ := (unitSeconds?_low c k).1 letter
        obtain ⟨parts, text, rfl⟩ := (ih [] more (by simp)).1 rest
        by_cases none_yet : ds = []
        · rw [numberRead, if_pos none_yet] at read
          cases read
        · rw [numberRead, if_neg none_yet] at read
          refine ⟨⟨ds, c, unit, none_yet, hds, marks⟩ :: parts, ?_, ?_⟩
          · rw [List.flatMap_cons, ← text, Part.text, List.append_assoc]
            rfl
          · rw [← Option.some.inj h, ← Option.some.inj read]
            rfl
      · rintro ⟨parts, text, rfl⟩
        obtain ⟨p, ps, rfl, rfl, rfl, rfl⟩ := flatMap_text_eq hds digit text
        have rest := (ih [] (total ps) (by simp)).2 ⟨ps, rfl, rfl⟩
        have unit := (unitSeconds?_low p.letter p.unit.length).2 ⟨p.unit, p.marks, rfl⟩
        have number : numberRead p.digits = some p.number := if_neg p.some_digit
        have empty : numberRead [] = none := rfl
        rw [empty] at rest
        rw [number, unit, rest]
        rfl

/-! ## Texts -/

theorem lowerFrom_eq_nil {before s : List Char} : lowerFrom before s = [] ↔ s = [] := by
  cases s with
  | nil => simp [lowerFrom]
  | cons c s =>
    have some_char : lowerBetween before c s ≠ [] := by
      unfold lowerBetween
      split
      · split <;> simp
      · split <;> simp
    simp [lowerFrom, some_char]

theorem letter_visible {unit : TimeUnit} {c : Char} (h : c ∈ unit.letters) : isBlank c = false := by
  have all : unit.letters.all (fun c => !isBlank c) = true := by cases unit <;> decide
  simpa using List.all_eq_true.1 all c h

theorem exists_ends {parts : List Part} (some_part : parts ≠ []) : ∃ c d,
    (parts.flatMap Part.text).head? = some c ∧ isBlank c = false ∧
    (parts.flatMap Part.text).getLast? = some d ∧ isBlank d = false := by
  obtain ⟨p, ps, first⟩ := List.exists_cons_of_ne_nil some_part
  obtain ⟨init, q, last⟩ := (List.eq_nil_or_concat parts).resolve_left some_part
  obtain ⟨c, ds, digits⟩ := List.exists_cons_of_ne_nil p.some_digit
  refine ⟨c, q.letter, ?_, digit_visible (p.ascii c (by simp [digits])), ?_, letter_visible q.marks⟩
  · simp [first, Part.text, digits]
  · simp [last, Part.text]

theorem written_iff {t : String} {parts : List Part} :
    Written t parts ↔ parts ≠ [] ∧ trim t.toList = parts.flatMap Part.text := by
  constructor
  · rintro ⟨some_part, lead, trail, blank, blankEnd, text⟩
    obtain ⟨c, d, first, visible, last, visibleEnd⟩ := exists_ends some_part
    exact ⟨some_part, by rw [text, trim_between blank blankEnd first visible last visibleEnd]⟩
  · rintro ⟨some_part, text⟩
    obtain ⟨lead, trail, blank, blankEnd, whole⟩ := exists_blanks_around t.toList
    rw [text] at whole
    exact ⟨some_part, lead, trail, blank, blankEnd, whole⟩

theorem flatMap_text_eq_nil {parts : List Part} : parts.flatMap Part.text = [] ↔ parts = [] := by
  cases parts with
  | nil => simp
  | cons p ps => simp [Part.text]

theorem total_unique {t : String} {ps qs : List Part} (hps : Written t ps) (hqs : Written t qs) :
    total ps = total qs := by
  have read (parts : List Part) (h : Written t parts) :=
    (partsSeconds?_map_low [] (trim t.toList) (total parts) (by simp)).2
      ⟨parts, (written_iff.1 h).2, rfl⟩
  exact Option.some.inj ((read ps hps).symm.trans (read qs hqs))

/-- What comes up when the parts are added one after the other is no more than their sum. -/
theorem partial_le_total (before : List Part) (p : Part) (after : List Part) :
    p.number ≤ p.number * p.unit.length ∧ p.number * p.unit.length ≤ total (before ++ [p]) ∧
      total (before ++ [p]) ≤ total (before ++ p :: after) := by
  have product : p.seconds = p.number * p.unit.length := rfl
  refine ⟨Nat.le_mul_of_pos_right _ p.unit.length_pos, ?_, ?_⟩
  · rw [total_append, total, product]
    omega
  · rw [total_append, total_append, total, total, total]
    omega

theorem seconds?_eq_some_iff (t : String) (n : Nat) :
    seconds? t = some n ↔ ∃ parts, Written t parts ∧ total parts = n ∧ n < twoTo 64 := by
  have read := partsSeconds?_map_low [] (trim t.toList) n (by simp)
  rw [seconds?_eq]
  split
  · rename_i empty
    have nothing : trim t.toList = [] := lowerFrom_eq_nil.1 empty
    constructor
    · intro h
      cases h
    · rintro ⟨parts, written, -⟩
      obtain ⟨some_part, text⟩ := written_iff.1 written
      rw [nothing, eq_comm, flatMap_text_eq_nil] at text
      exact absurd text some_part
  · rename_i some_text
    have something : trim t.toList ≠ [] := fun empty => some_text (lowerFrom_eq_nil.2 empty)
    rw [Option.filter_eq_some_iff, lower, partsSeconds?_lowerFrom, decide_eq_true_iff]
    constructor
    · rintro ⟨value, small⟩
      obtain ⟨parts, text, sum⟩ := read.1 value
      refine ⟨parts, written_iff.2 ⟨?_, text⟩, sum, small⟩
      rintro rfl
      exact something text
    · rintro ⟨parts, written, sum, small⟩
      exact ⟨read.2 ⟨parts, (written_iff.1 written).2, sum⟩, small⟩

/-- The seconds of a text are those of its parts, if it consists of parts and they fit into 64 bits.
No number, no product and no sum on the way can be larger then. -/
theorem seconds?_reads_exactly (t : String) :
    (∀ n, seconds? t = some n ↔
      ∃ parts, Written t parts ∧ total parts = n ∧ n < twoTo 64) ∧
    (seconds? t = none ↔ ∀ parts, Written t parts → twoTo 64 ≤ total parts) ∧
    ∀ before p after, Written t (before ++ p :: after) →
      (twoTo 64 ≤ p.number ∨ twoTo 64 ≤ p.number * p.unit.length ∨
        twoTo 64 ≤ total (before ++ [p])) →
      seconds? t = none := by
  have refused : seconds? t = none ↔ ∀ parts, Written t parts → twoTo 64 ≤ total parts := by
    rw [Option.eq_none_iff_forall_ne_some]
    constructor
    · intro never parts written
      by_contra small
      exact never _ ((seconds?_eq_some_iff t _).2 ⟨parts, written, rfl, Nat.lt_of_not_le small⟩)
    · intro large n h
      obtain ⟨parts, written, rfl, small⟩ := (seconds?_eq_some_iff t n).1 h
      exact absurd (large parts written) (Nat.not_le_of_lt small)
  refine ⟨seconds?_eq_some_iff t, refused, ?_⟩
  intro before p after written large
  rw [refused]
  intro parts other
  have bounds := partial_le_total before p after
  rw [total_unique other written]
  omega

def padded : String := " 1H030m\t"

theorem padded_written : Written padded
    [⟨['1'], 'H', .hour, by simp, by simp; decide, by decide⟩,
     ⟨['0', '3', '0'], 'm', .minute, by simp, by simp; decide, by decide⟩] :=
  ⟨by simp, [' '], ['\t'], by decide, by decide, by decide⟩

def overfull : String := "18446744073709551615s1S"

def largestPart : Part :=
  ⟨"18446744073709551615".toList, 's', .second, by decide,
    List.all_eq_true.1 (by decide), by decide⟩

def lastPart : Part := ⟨['1'], 'S', .second, by simp, by simp; decide, by decide⟩

theorem overfull_written : Written overfull [largestPart, lastPart] :=
  ⟨by simp, [], [], by decide, by decide, by decide⟩

theorem padded_read_overfull_refused : seconds? padded = some 5400 ∧ seconds? overfull = none := by
  have sum : twoTo 64 ≤ total [largestPart, lastPart] := by decide +kernel
  exact ⟨((seconds?_reads_exactly padded).1 5400).2 ⟨_, padded_written, by decide, by decide⟩,
    (seconds?_reads_exactly overfull).2.2 [largestPart] lastPart [] overfull_written
      (.inr (.inr sum))⟩

end LoadScript.Duration
