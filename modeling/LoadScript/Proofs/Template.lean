import LoadScript.Template

set_option autoImplicit false

namespace LoadScript.Template

theorem substituteChars_open {rest : List Char} (p : Parameters) (h : placeholder? rest = none) :
    substituteChars p ('<' :: rest) = '<' :: substituteChars p rest := by
  rw [substituteChars, if_pos rfl]
  split
  · rename_i found
    rw [h] at found
    cases found
  · rfl

theorem substituteChars_other {c : Char} (p : Parameters) (h : c ≠ '<') (rest : List Char) :
    substituteChars p (c :: rest) = c :: substituteChars p rest := by
  rw [substituteChars, if_neg h]

theorem substituteChars_append_of_not_mem {s : List Char} (p : Parameters) (h : '<' ∉ s)
    (rest : List Char) : substituteChars p (s ++ rest) = s ++ substituteChars p rest := by
  induction s with
  | nil => rfl
  | cons c s ih =>
    rw [List.mem_cons, not_or] at h
    rw [List.cons_append, substituteChars_other p (Ne.symm h.1), ih h.2, List.cons_append]

theorem substituteChars_of_not_mem {s : List Char} (p : Parameters) (h : '<' ∉ s) :
    substituteChars p s = s := by
  have copied := substituteChars_append_of_not_mem p h []
  rwa [substituteChars, List.append_nil] at copied

theorem placeholder?_spec {s name rest : List Char} (h : placeholder? s = some (name, rest)) :
    s = name ++ '>' :: rest ∧ name ≠ [] ∧ ∀ c ∈ name, isNameChar c = true := by
  unfold placeholder? at h
  split at h
  · rename_i after hafter
    split at h
    · cases h
    · rename_i taken
      cases h
      refine ⟨?_, by simpa using taken, List.all_eq_true.1 List.all_takeWhile⟩
      rw [← hafter, List.takeWhile_append_dropWhile]
  · cases h

theorem substituteChars_empty (s : List Char) : substituteChars Parameters.empty s = s := by
  fun_induction substituteChars Parameters.empty s with
  | case1 => rfl
  | case2 rest name after found shorter ih =>
    rw [ih, (placeholder?_spec found).1]
    simp [replacement, Parameters.get?, Parameters.empty]
  | case3 rest missing ih => rw [ih]
  | case4 c rest other ih => rw [ih]

theorem substitute_eq (p : Parameters) (s : String) :
    substitute p s = String.ofList (substituteChars p s.toList) := by
  unfold substitute
  split
  · rename_i none_given
    obtain ⟨entries, distinct⟩ := p
    obtain rfl : entries = [] := List.isEmpty_iff.1 none_given
    exact (congrArg String.ofList (substituteChars_empty s.toList)).trans String.ofList_toList |>.symm
  · rfl

theorem substitute_empty (s : String) : substitute Parameters.empty s = s := rfl

theorem isBlank_substitute {s : String} (p : Parameters) (h : Text.isBlank s = true) :
    Text.isBlank (substitute p s) = true := by
  have hopen : '<' ∉ s.toList := by
    intro hc
    have hb := List.all_eq_true.1 h _ hc
    revert hb
    decide
  rw [substitute_eq, Text.isBlank, String.toList_ofList, substituteChars_of_not_mem p hopen]
  exact h

theorem placeholder?_of_name {name : List Char} (nonempty : name ≠ [])
    (chars : ∀ c ∈ name, isNameChar c = true) (rest : List Char) :
    placeholder? (name ++ '>' :: rest) = some (name, rest) := by
  have taken : (name ++ '>' :: rest).takeWhile isNameChar = name := by
    rw [List.takeWhile_append_of_pos chars]
    simp [isNameChar]
  have dropped : (name ++ '>' :: rest).dropWhile isNameChar = '>' :: rest := by
    rw [List.dropWhile_append_of_pos chars]
    simp [isNameChar]
  simp [placeholder?, taken, dropped, nonempty]

theorem substituteChars_placeholder {name : List Char} (p : Parameters) (nonempty : name ≠ [])
    (chars : ∀ c ∈ name, isNameChar c = true) (rest : List Char) :
    substituteChars p ('<' :: (name ++ '>' :: rest)) =
      replacement p name ++ substituteChars p rest := by
  have found := placeholder?_of_name nonempty chars rest
  rw [substituteChars, if_pos rfl]
  split
  · rename_i same
    rw [found] at same
    cases same
    rfl
  · rename_i missing
    rw [found] at missing
    cases missing

theorem substitute_between {before name after value : List Char} {p : Parameters}
    (outside : '<' ∉ before ∧ '<' ∉ after) (nonempty : name ≠ [])
    (chars : ∀ c ∈ name, isNameChar c = true)
    (known : p.get? (String.ofList name) = some (String.ofList value)) :
    substitute p (String.ofList (before ++ '<' :: (name ++ '>' :: after))) =
      String.ofList (before ++ value ++ after) := by
  rw [substitute_eq, String.toList_ofList, substituteChars_append_of_not_mem p outside.1,
    substituteChars_placeholder p nonempty chars, substituteChars_of_not_mem p outside.2,
    replacement, known, List.append_assoc]
  simp only [String.toList_ofList]

end LoadScript.Template
