import LoadScript.Number.Numeral
import LoadScript.Proofs.Script.Lexer
import LoadScript.Timestamp

set_option autoImplicit false

namespace LoadScript.Script.Lexer

theorem read_stay {l : List Char} {s : State} (h : ∀ c ∈ l, step s c = some s) :
    read l s = some s := by
  induction l with
  | nil => rfl
  | cons c l ih =>
    change (step s c).bind (read l) = _
    rw [h c (by simp)]
    exact ih fun d hd => h d (by simp [hd])

/-! ## Plain text -/

/-- The characters that mean something in code, in strings or in template literals. -/
def marks : List Char :=
  ['\'', backtick, '/', '(', ')', '[', ']', leftBrace, rightBrace, '\\', '$']

/-- A text without marks and line ends. -/
def Plain (s : String) : Prop := ∀ c ∈ s.toList, c ∉ marks ∧ c ∉ lineEnds

instance (s : String) : Decidable (Plain s) := List.decidableBAll _ _

theorem codeAction_of_not_mark {c : Char} (h : c ∉ marks) : codeAction c = .enter .code := by
  simp only [marks, List.mem_cons, List.not_mem_nil, or_false, not_or] at h
  simp [codeAction, h]

theorem templateAction_of_not_mark {c : Char} (h : c ∉ marks) :
    templateAction c = .enter .template := by
  simp only [marks, List.mem_cons, List.not_mem_nil, or_false, not_or] at h
  simp [templateAction, h]

theorem action_string {c : Char} (hm : c ∉ marks) (hl : c ∉ lineEnds) :
    action .string c = .enter .string := by
  simp only [marks, List.mem_cons, List.not_mem_nil, or_false, not_or] at hm
  simp [action, hl, hm]

theorem action_comment {c : Char} (hl : c ∉ lineEnds) :
    action .comment c = .enter .comment := by
  simp [action, hl]

theorem Plain.reads {s : String} (h : Plain s) {mode : Mode}
    (hm : mode ∈ [Mode.code, .string, .comment, .template]) (opened : List Opened) :
    Reads s ⟨mode, opened⟩ ⟨mode, opened⟩ := by
  refine read_stay fun c hc => ?_
  obtain ⟨hmark, hline⟩ := h c hc
  have ha : action mode c = .enter mode := by
    simp only [List.mem_cons, List.not_mem_nil, or_false] at hm
    rcases hm with rfl | rfl | rfl | rfl
    · exact codeAction_of_not_mark hmark
    · exact action_string hmark hline
    · exact action_comment hline
    · exact templateAction_of_not_mark hmark
  unfold step
  rw [ha]
  rfl

theorem Plain.append {s t : String} (hs : Plain s) (ht : Plain t) : Plain (s ++ t) := by
  intro c hc
  rw [String.toList_append, List.mem_append] at hc
  exact hc.elim (hs c) (ht c)

theorem plain_ofList {l : List Char} (h : ∀ c ∈ l, c ∉ marks ∧ c ∉ lineEnds) :
    Plain (String.ofList l) := by
  intro c hc
  rw [String.toList_ofList] at hc
  exact h c hc

theorem plain_text {l : List Char}
    (h : l.all (fun c => !marks.contains c && !lineEnds.contains c) = true) :
    Plain (String.ofList l) := by
  refine plain_ofList fun c hc => ?_
  have checked := List.all_eq_true.1 h c hc
  simpa using checked

def OneLine (s : String) : Prop := ∀ c ∈ s.toList, c ∉ lineEnds

instance (s : String) : Decidable (OneLine s) := List.decidableBAll _ _

theorem OneLine.reads {s : String} (h : OneLine s) (opened : List Opened) :
    Reads s ⟨.comment, opened⟩ ⟨.comment, opened⟩ := by
  refine read_stay fun c hc => ?_
  unfold step
  rw [action_comment (h c hc)]
  rfl

theorem OneLine.append {s t : String} (hs : OneLine s) (ht : OneLine t) : OneLine (s ++ t) := by
  intro c hc
  rw [String.toList_append, List.mem_append] at hc
  exact hc.elim (hs c) (ht c)

theorem Plain.oneLine {s : String} (h : Plain s) : OneLine s := fun c hc => (h c hc).2

/-! ## Literals and comments -/

theorem mem_lineEnds_iff (c : Char) : c ∈ lineEnds ↔ Chars.isLineTerminator c = true := by
  simp [lineEnds, Chars.isLineTerminator, Chars.lineSeparator, Chars.paragraphSeparator,
    or_assoc]

theorem read_literalChar (c : Char) (opened : List Opened) :
    read (Chars.literalChar c) ⟨.string, opened⟩ = some ⟨.string, opened⟩ := by
  unfold Chars.literalChar
  split
  · rfl
  split
  · rfl
  split
  · rfl
  split
  · rfl
  split
  · rfl
  split
  · rfl
  split
  · rfl
  rename_i hback hquote hfeed hreturn htab hline hparagraph
  have hends : c ∉ lineEnds := by
    simp only [lineEnds, List.mem_cons, List.not_mem_nil, or_false, not_or]
    exact ⟨hfeed, hreturn, hline, hparagraph⟩
  simp [read, step, action, Action.apply, hends, hquote, hback]

theorem read_literalChars (s : List Char) (opened : List Opened) :
    read (s.flatMap Chars.literalChar) ⟨.string, opened⟩ = some ⟨.string, opened⟩ := by
  induction s with
  | nil => rfl
  | cons c s ih =>
    rw [List.flatMap_cons, read_append, read_literalChar]
    exact ih

theorem literal_reads (s : String) (opened : List Opened) :
    Reads (literal s) (inCode opened) (inCode opened) := by
  unfold Reads literal
  rw [String.toList_ofList]
  change (read (s.toList.flatMap Chars.literalChar ++ ['\'']) ⟨.string, opened⟩) = _
  rw [read_append, read_literalChars]
  rfl

theorem commentText_oneLine (s : String) : OneLine (commentText s) := by
  intro c hc
  unfold commentText at hc
  rw [String.toList_ofList] at hc
  obtain ⟨d, -, rfl⟩ := List.mem_map.1 hc
  by_cases hd : Chars.isLineTerminator d = true
  · simp only [hd, ↓reduceIte]
    decide
  · simp only [hd, Bool.false_eq_true, ↓reduceIte]
    rw [mem_lineEnds_iff]
    exact hd

/-! ## Numbers -/

def isNumeralChar (c : Char) : Bool := c.isDigit || ['.', '-', 'N', 'a', 'i', 'n', 'f'].contains c

def Numeric (s : String) : Prop := ∀ c ∈ s.toList, isNumeralChar c = true

instance (s : String) : Decidable (Numeric s) := List.decidableBAll _ _

theorem plain_of_isNumeralChar {c : Char} (h : isNumeralChar c = true) :
    c ∉ marks ∧ c ∉ lineEnds := by
  have hmarks : marks.all (!isNumeralChar ·) = true := by decide
  have hends : lineEnds.all (!isNumeralChar ·) = true := by decide
  constructor
  · intro hc
    simpa [h] using List.all_eq_true.1 hmarks c hc
  · intro hc
    simpa [h] using List.all_eq_true.1 hends c hc

theorem Numeric.plain {s : String} (h : Numeric s) : Plain s :=
  fun c hc => plain_of_isNumeralChar (h c hc)

theorem Numeric.append {s t : String} (hs : Numeric s) (ht : Numeric t) : Numeric (s ++ t) := by
  intro c hc
  rw [String.toList_append, List.mem_append] at hc
  exact hc.elim (hs c) (ht c)

theorem numeric_ofList {l : List Char} (h : ∀ c ∈ l, isNumeralChar c = true) :
    Numeric (String.ofList l) := by
  intro c hc
  rw [String.toList_ofList] at hc
  exact h c hc

theorem isNumeralChar_of_mem_toDigits {n : Nat} {c : Char} (h : c ∈ Nat.toDigits 10 n) :
    isNumeralChar c = true := by
  simp [isNumeralChar, Nat.isDigit_of_mem_toDigits (by decide) (by decide) h]

theorem numeric_repr (n : Nat) : Numeric (Nat.repr n) := by
  intro c hc
  rw [Nat.toList_repr] at hc
  exact isNumeralChar_of_mem_toDigits hc

theorem plain_repr (n : Nat) : Plain (Nat.repr n) := (numeric_repr n).plain

theorem isNumeralChar_of_mem_padded {k n : Nat} {c : Char}
    (h : c ∈ List.replicate k '0' ++ Nat.toDigits 10 n) : isNumeralChar c = true := by
  rcases List.mem_append.1 h with hz | hd
  · rw [List.eq_of_mem_replicate hz]
    decide
  · exact isNumeralChar_of_mem_toDigits hd

theorem numeric_fixedPlaces (c places : Nat) : Numeric (fixedPlaces c places) := by
  unfold fixedPlaces
  refine Numeric.append (numeric_ofList fun d hd => ?_) ?_
  · exact isNumeralChar_of_mem_padded (List.mem_of_mem_take hd)
  · split
    · decide
    · refine Numeric.append (by decide) (numeric_ofList fun d hd => ?_)
      exact isNumeralChar_of_mem_padded (List.mem_of_mem_drop hd)

theorem numeric_signText (negative : Bool) : Numeric (Binary64.signText negative) := by
  cases negative <;> decide

theorem numeric_toText (x : Binary64) : Numeric x.toText := by
  cases x with
  | finite negative m e =>
    unfold Binary64.toText
    refine Numeric.append (numeric_signText negative) ?_
    split
    · decide
    · exact numeric_fixedPlaces _ _
  | infinite negative => exact Numeric.append (numeric_signText negative) (by decide)
  | nan => exact (by decide : Numeric "NaN")

theorem numeric_numeral (x : Binary64) : Numeric (Numeral.ofBinary64 x) := by
  unfold Numeral.ofBinary64
  split
  · split
    · exact Numeric.append (numeric_signText _) (numeric_repr _)
    · exact numeric_toText _
  · exact numeric_toText _

theorem plain_numeral (x : Binary64) : Plain (Numeral.ofBinary64 x) := (numeric_numeral x).plain

theorem plain_paddedNat (width n : Nat) : Plain (paddedNat width n) :=
  (numeric_ofList fun _ h => isNumeralChar_of_mem_padded h).plain

theorem plain_yearText (year : Int) : Plain (Timestamp.yearText year) := by
  unfold Timestamp.yearText
  split
  · exact Plain.append (by decide) (plain_paddedNat _ _)
  split
  · exact Plain.append (by decide) (plain_paddedNat _ _)
  · exact plain_paddedNat _ _

theorem plain_timestamp (t : Timestamp) : Plain t.toText := by
  unfold Timestamp.toText
  have hdash : Plain "-" := by decide
  have hcolon : Plain ":" := by decide
  exact plain_yearText _ |>.append hdash |>.append (plain_paddedNat _ _) |>.append hdash
    |>.append (plain_paddedNat _ _) |>.append (by decide) |>.append (plain_paddedNat _ _)
    |>.append hcolon |>.append (plain_paddedNat _ _) |>.append hcolon
    |>.append (plain_paddedNat _ _) |>.append (by decide)

end LoadScript.Script.Lexer
