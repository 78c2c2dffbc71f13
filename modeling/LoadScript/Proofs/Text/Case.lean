import LoadScript.Text.Case

/-!
# Where a mapping of characters leads

A character is mapped to itself or moved by a row of the table. So whether anything else is mapped
to a given character can be read off the rows that reach it. No row of the lower case table leads to
a character that a row covers, so what is in lower case stays as it is.
-/

set_option autoImplicit false

namespace LoadScript.Chars

def CaseRow.reaches (row : CaseRow) (n : Nat) : Bool :=
  row.first + row.shift ≤ n && n ≤ row.last + row.shift

theorem CaseRow.reaches_eq_false {row : CaseRow} {n : Nat} (below : n < row.first + row.shift) :
    row.reaches n = false := by
  simp only [CaseRow.reaches, Bool.and_eq_false_iff, decide_eq_false_iff_not]
  omega

theorem CaseRow.covers_iff {row : CaseRow} {n : Nat} : row.covers n = true ↔
    row.first ≤ n ∧ n ≤ row.last ∧ (n - row.first) % row.stride = 0 := by
  simp only [CaseRow.covers, Bool.and_eq_true, decide_eq_true_eq, beq_iff_eq, and_assoc]

theorem mapByRows_of_outside {rows : List CaseRow} {c : Char}
    (outside : ∀ row ∈ rows, c.toNat < row.first ∨ row.last < c.toNat) : mapByRows rows c = c := by
  have uncovered : rows.find? (·.covers c.toNat) = none := by
    rw [List.find?_eq_none]
    intro row mem covered
    have inside := CaseRow.covers_iff.1 covered
    have := outside row mem
    omega
  rw [mapByRows, uncovered]

theorem toNat_ofNat_cases (n : Nat) : (Char.ofNat n).toNat = n ∨ (Char.ofNat n).toNat = 0 := by
  by_cases valid : n.isValidChar
  · rw [Char.ofNat, dif_pos valid]
    exact .inl rfl
  · rw [Char.ofNat, dif_neg valid]
    exact .inr rfl

theorem toNat_ofNat_eq {n m : Nat} (h : (Char.ofNat n).toNat = m) (nonzero : m ≠ 0) : n = m := by
  obtain same | zero := toNat_ofNat_cases n
  · exact same.symm.trans h
  · exact absurd (h.symm.trans zero) nonzero

theorem mapByRows_eq_cases {rows : List CaseRow} {c d : Char} (h : mapByRows rows c = d)
    (nonzero : d.toNat ≠ 0) :
    c = d ∨ ∃ row ∈ rows, row.reaches d.toNat = true ∧ (c.toNat : Int) + row.shift = d.toNat := by
  unfold mapByRows at h
  split at h
  · rename_i row found
    have inside := CaseRow.covers_iff.1 (by simpa using List.find?_some found)
    have image : row.apply c.toNat = d.toNat := toNat_ofNat_eq (by rw [h]) nonzero
    have moved : (c.toNat : Int) + row.shift = d.toNat := by
      rw [CaseRow.apply, Int.ofNat_eq_natCast] at image
      omega
    refine .inr ⟨row, List.mem_of_find?_eq_some found, ?_, moved⟩
    simp only [CaseRow.reaches, Bool.and_eq_true, decide_eq_true_eq]
    omega
  · exact .inl h

/-- Nothing but the character itself is mapped to a character that no row reaches. -/
theorem eq_of_mapByRows {rows : List CaseRow} {c d : Char} (h : mapByRows rows c = d)
    (nonzero : d.toNat ≠ 0) (unreached : ∀ row ∈ rows, row.reaches d.toNat = false) : c = d := by
  obtain same | ⟨row, mem, reached, -⟩ := mapByRows_eq_cases h nonzero
  · exact same
  · rw [unreached row mem] at reached
    cases reached

/-! ## Mapping twice -/

/-- Whether a row covers no image of another: the images stand below or above it, or they fall
between its steps of two. -/
def CaseRow.misses (row other : CaseRow) : Bool :=
  Nat.blt (row.apply row.last) other.first || Nat.blt other.last (row.apply row.first) ||
    (other.stride == 2 && (row.stride == 2 || row.first == row.last) &&
      (row.apply row.first - other.first) % 2 == 1)

theorem CaseRow.misses_iff {row other : CaseRow} : row.misses other = true ↔
    row.apply row.last < other.first ∨ other.last < row.apply row.first ∨
      other.stride = 2 ∧ (row.stride = 2 ∨ row.first = row.last) ∧
        (row.apply row.first - other.first) % 2 = 1 := by
  simp only [CaseRow.misses, Bool.or_eq_true, Bool.and_eq_true, Nat.blt_eq, beq_iff_eq, or_assoc,
    and_assoc]

theorem CaseRow.not_covers_apply {row other : CaseRow} {n : Nat}
    (missed : row.misses other = true) (covered : row.covers n = true) :
    ¬ other.covers (row.apply n) = true := by
  obtain ⟨above, below, step⟩ := CaseRow.covers_iff.1 covered
  rw [CaseRow.covers_iff]
  rintro ⟨above', below', step'⟩
  rw [CaseRow.apply, Int.ofNat_eq_natCast] at above' below' step'
  obtain low | high | ⟨stride, single, odd⟩ := CaseRow.misses_iff.1 missed
  · rw [CaseRow.apply, Int.ofNat_eq_natCast] at low
    omega
  · rw [CaseRow.apply, Int.ofNat_eq_natCast] at high
    omega
  · rw [CaseRow.apply, Int.ofNat_eq_natCast] at odd
    rw [stride] at step'
    obtain twos | same := single
    · rw [twos] at step
      omega
    · omega

theorem mapByRows_mapByRows {rows : List CaseRow} (positive : ∀ row ∈ rows, 0 < row.first)
    (missed : ∀ row ∈ rows, ∀ other ∈ rows, row.misses other = true) (c : Char) :
    mapByRows rows (mapByRows rows c) = mapByRows rows c := by
  cases found : rows.find? (·.covers c.toNat) with
  | none =>
    have fixed : mapByRows rows c = c := by rw [mapByRows, found]
    rw [fixed, fixed]
  | some row =>
    have moved : mapByRows rows c = Char.ofNat (row.apply c.toNat) := by rw [mapByRows, found]
    have uncovered : rows.find? (·.covers (Char.ofNat (row.apply c.toNat)).toNat) = none := by
      rw [List.find?_eq_none]
      intro other mem covered
      obtain image | zero := toNat_ofNat_cases (row.apply c.toNat)
      · rw [image] at covered
        have here : row.covers c.toNat = true := by simpa using List.find?_some found
        exact CaseRow.not_covers_apply (missed row (List.mem_of_find?_eq_some found) other mem)
          here covered
      · rw [zero] at covered
        have := (CaseRow.covers_iff.1 covered).1
        have := positive other mem
        omega
    rw [moved, mapByRows, uncovered]

/-! ## The lower case table -/

theorem rows_above_digits : ∀ row ∈ lowerRows,
    0x40 < row.first ∧ (0x40 : Int) < row.first + row.shift := by
  decide +kernel

theorem lowerRows_miss : lowerRows.all (fun row => lowerRows.all row.misses) = true := by
  decide +kernel

theorem mapByRows_lowerRows_fixed (c : Char) :
    mapByRows lowerRows (mapByRows lowerRows c) = mapByRows lowerRows c := by
  refine mapByRows_mapByRows (fun row mem => ?_) (fun row mem => ?_) c
  · have above := (rows_above_digits row mem).1
    omega
  · exact List.all_eq_true.1 (List.all_eq_true.1 lowerRows_miss row mem)

/-- The characters that are their own lower case form wherever they stand. -/
structure IsLow (c : Char) : Prop where
  ne_sigma : c ≠ 'Σ'
  ne_dotted : c ≠ 'İ'
  fixed : mapByRows lowerRows c = c

instance (c : Char) : Decidable (IsLow c) :=
  decidable_of_iff (c ≠ 'Σ' ∧ c ≠ 'İ' ∧ mapByRows lowerRows c = c)
    ⟨fun h => ⟨h.1, h.2.1, h.2.2⟩, fun h => ⟨h.ne_sigma, h.ne_dotted, h.fixed⟩⟩

theorem isLow_of_le {c : Char} (small : c.toNat ≤ 0x40) : IsLow c where
  ne_sigma := by
    rintro rfl
    exact absurd small (by decide)
  ne_dotted := by
    rintro rfl
    exact absurd small (by decide)
  fixed := mapByRows_of_outside fun row mem => .inl (by
    have above := (rows_above_digits row mem).1
    omega)

theorem IsLow.lowerBetween_eq {c : Char} (low : IsLow c) (before after : List Char) :
    lowerBetween before c after = [c] := by
  rw [lowerBetween, if_neg low.ne_sigma, if_neg low.ne_dotted, low.fixed]

theorem lowerFrom_of_isLow {s : List Char} (low : ∀ c ∈ s, IsLow c) (before : List Char) :
    lowerFrom before s = s := by
  induction s generalizing before with
  | nil => rfl
  | cons c s ih =>
    rw [List.forall_mem_cons] at low
    rw [lowerFrom, low.1.lowerBetween_eq, ih low.2, List.singleton_append]

theorem isLow_of_mem_lowerBetween {before after : List Char} {c d : Char}
    (h : d ∈ lowerBetween before c after) : IsLow d := by
  unfold lowerBetween at h
  by_cases sigma : c = 'Σ'
  · have both : IsLow 'ς' ∧ IsLow 'σ' := by decide +kernel
    rw [if_pos sigma] at h
    split at h
    · exact List.mem_singleton.1 h ▸ both.1
    · exact List.mem_singleton.1 h ▸ both.2
  by_cases dotted : c = 'İ'
  · have both : ['i', '̇'].all (fun d => decide (IsLow d)) = true := by decide +kernel
    rw [if_neg sigma, if_pos dotted] at h
    exact of_decide_eq_true (List.all_eq_true.1 both d h)
  · rw [if_neg sigma, if_neg dotted, List.mem_singleton] at h
    subst h
    have fixed := mapByRows_lowerRows_fixed c
    -- The sigma is moved by a row, so it is no image, and no row reaches the letter with the dot.
    refine ⟨fun capital => ?_, fun capital => ?_, fixed⟩
    · have moved : mapByRows lowerRows 'Σ' ≠ 'Σ' := by decide +kernel
      rw [capital] at fixed
      exact moved fixed
    · have unreached : ∀ row ∈ lowerRows, row.reaches 0x130 = false := by decide +kernel
      exact dotted (eq_of_mapByRows capital (by decide) unreached)

theorem isLow_of_mem_lowerFrom {before s : List Char} {d : Char} (h : d ∈ lowerFrom before s) :
    IsLow d := by
  induction s generalizing before with
  | nil => cases h
  | cons c s ih =>
    rw [lowerFrom, List.mem_append] at h
    obtain here | later := h
    · exact isLow_of_mem_lowerBetween here
    · exact ih later

/-- What a text begins with does not change what is made of the rest, apart from a final sigma. -/
theorem exists_lowerFrom_append (before s t : List Char) :
    ∃ start, lowerFrom before (s ++ t) = start ++ lowerFrom (s.reverse ++ before) t := by
  induction s generalizing before with
  | nil => exact ⟨[], rfl⟩
  | cons c s ih =>
    obtain ⟨start, lowered⟩ := ih (c :: before)
    refine ⟨lowerBetween before c (s ++ t) ++ start, ?_⟩
    rw [List.cons_append, lowerFrom, lowered, List.append_assoc, List.reverse_cons,
      List.append_assoc, List.singleton_append]

end LoadScript.Chars
