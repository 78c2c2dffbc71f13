import LoadScript.Proofs.Feature.Expansion
import LoadScript.Proofs.Feature.Names
import LoadScript.Proofs.Script.FileNames

set_option autoImplicit false

namespace LoadScript

open Gherkin

namespace Chars

theorem isDigit_bounds {c : Char} (digit : c.isDigit = true) : 0x30 ≤ c.toNat ∧ c.toNat ≤ 0x39 := by
  simp only [Char.isDigit, Bool.and_eq_true, decide_eq_true_eq] at digit
  exact digit

theorem isAlphanumeric_of_isDigit {c : Char} (digit : c.isDigit = true) :
    isAlphanumeric c = true := by
  obtain ⟨above, below⟩ := isDigit_bounds digit
  refine List.any_eq_true.2 ⟨(0x30, 0x39), List.mem_cons_self, ?_⟩
  simp [above, below]

theorem isWord_repr (k : Nat) : IsWord (Nat.repr k).toList where
  ne_nil := by
    rw [Nat.toList_repr]
    exact Nat.toDigits_ne_nil
  alphanumeric _ hc := isAlphanumeric_of_isDigit (Scenario.isDigit_of_mem_repr hc)

theorem words_lower_numbered (s : List Char) (k : Nat) : ∃ before,
    words (lower (s ++ ' ' :: ((Nat.repr k).toList ++ [']']))) =
      before ++ [(Nat.repr k).toList] := by
  have low : ∀ c ∈ ' ' :: ((Nat.repr k).toList ++ [']']), IsLow c := by
    intro c hc
    rw [List.mem_cons, List.mem_append, List.mem_singleton] at hc
    obtain rfl | digit | rfl := hc
    · exact isLow_of_le (by decide)
    · have := (isDigit_bounds (Scenario.isDigit_of_mem_repr digit)).2
      exact isLow_of_le (by omega)
    · decide +kernel
  have marks : isAlphanumeric ' ' = false ∧ isAlphanumeric ']' = false := by decide +kernel
  obtain ⟨start, lowered⟩ := exists_lowerFrom_append [] s (' ' :: ((Nat.repr k).toList ++ [']']))
  refine ⟨words start, ?_⟩
  rw [lower, lowered, lowerFrom_of_isLow low, words_append_gap marks.1, words_append_gap marks.2,
    (isWord_repr k).words_eq]
  rfl

end Chars

namespace Script

open Chars

theorem words_stem {scenario : String} (some_word : words (lower scenario.toList) ≠ []) :
    words (stem scenario).toList = words (lower scenario.toList) := by
  have nonempty : Text.slug scenario ≠ "" := by
    intro empty
    rw [Text.slug, String.ofList_eq_empty_iff, slug_eq_nil_iff, ← words_eq_nil_iff] at empty
    exact some_word empty
  rw [stem, if_neg nonempty, Text.slug, String.toList_ofList, words_slug]

end Script

namespace Scenario

open Chars

theorem words_name_ofRow (s : SourceScenario) (inherited : Inherited) (e : Examples)
    (header row : List String) (k : Nat) : ∃ before,
    words (lower (ofRow s inherited e header row k).name.toList) =
      before ++ [(Nat.repr k).toList] := by
  obtain ⟨before, found⟩ :=
    words_lower_numbered (Text.trim s.name ++ " [" ++ e.label ++ " — Row").toList k
  refine ⟨before, ?_⟩
  rw [← found]
  simp [ofRow]

/-- The number of a row can be read off the name of its script. -/
theorem eq_of_fileNameOf_ofRow {s : SourceScenario} {inherited : Inherited} {e : Examples}
    {header row header' row' : List String} {i j : Nat}
    (h : Script.fileNameOf (ofRow s inherited e header row i).name =
      Script.fileNameOf (ofRow s inherited e header' row' j).name) : i = j := by
  obtain ⟨before, first⟩ := words_name_ofRow s inherited e header row i
  obtain ⟨before', second⟩ := words_name_ofRow s inherited e header' row' j
  have stems : Script.stem (ofRow s inherited e header row i).name =
      Script.stem (ofRow s inherited e header' row' j).name := (String.append_left_inj ".js").1 h
  have words := congrArg (fun t => words t.toList) stems
  rw [Script.words_stem (by simp [first]), Script.words_stem (by simp [second]), first, second]
    at words
  have numbers := (List.cons.inj (List.append_inj_right' words rfl)).1
  exact repr_inj (String.toList_inj.1 numbers)

theorem exists_row_of_lt {e : Examples} {r : Nat} (inside : r < e.dataRows) :
    ∃ header rows row, e.table = some (header :: rows) ∧ rows[r]? = some row := by
  unfold Examples.dataRows at inside
  cases found : e.table with
  | none => simp [found] at inside
  | some table =>
    rw [found] at inside
    cases table with
    | nil => simp at inside
    | cons header rows =>
      exact ⟨header, rows, _, rfl, List.getElem?_eq_getElem (by simpa using inside)⟩

theorem exists_ofRow_of_lt {s : SourceScenario} (inherited : Inherited) {b r : Nat} {e : Examples}
    (block : s.examples[b]? = some e) (inside : r < e.dataRows) :
    ∃ header row, (expand s inherited)[rowPlace s b r]? =
      some (ofRow s inherited e header row (r + 1)) := by
  have template : s.examples.isEmpty = false := by
    rw [List.isEmpty_eq_false_iff]
    rintro plain
    simp [plain] at block
  obtain ⟨header, rows, row, table, data⟩ := exists_row_of_lt inside
  refine ⟨header, row, ?_⟩
  rw [expand, if_neg (by simp [template])]
  exact getElem?_flatMap_ofExamples block table data

/-- Names may share a slug, but the scenarios of two rows of one table get paths that have nothing in
common. -/
theorem expand_rows_paths_apart :
    (∃ a b : String, a ≠ b ∧ Text.slug a = Text.slug b) ∧
    ∀ (s : SourceScenario) (inherited : Inherited) (d : String) (b : Nat) (e : Examples),
      s.examples[b]? = some e → ∀ i < e.dataRows, ∀ j < e.dataRows, i ≠ j →
        ∃ first second, (expand s inherited)[rowPlace s b i]? = some first ∧
          (expand s inherited)[rowPlace s b j]? = some second ∧
          Script.Apart (Script.pathOf d first.name) (Script.pathOf d second.name) := by
  refine ⟨⟨"A!", "a", by decide, by decide +kernel⟩, ?_⟩
  intro s inherited d b e block i hi j hj differ
  obtain ⟨header, row, first⟩ := exists_ofRow_of_lt inherited block hi
  obtain ⟨header', row', second⟩ := exists_ofRow_of_lt inherited block hj
  refine ⟨_, _, first, second, ?_⟩
  refine (Script.pathOf_isChild d _).apart (Script.pathOf_isChild d _) fun same => ?_
  have numbers : i + 1 = j + 1 := eq_of_fileNameOf_ofRow same
  omega

def elevenRows : Examples := ⟨some "Row 1]", [], some (["n"] :: List.replicate 11 ["x"])⟩

def elevenfold : SourceScenario := { name := "Σ [", tags := [], steps := [], examples := [elevenRows] }

theorem elevenfold_first_last_apart :
    0 < elevenRows.dataRows ∧ 10 < elevenRows.dataRows ∧
      ∃ first last, (expand elevenfold Inherited.none)[0]? = some first ∧
        (expand elevenfold Inherited.none)[10]? = some last ∧
        Script.Apart (Script.pathOf "out" first.name) (Script.pathOf "out" last.name) := by
  have first : 0 < elevenRows.dataRows := by decide
  have last : 10 < elevenRows.dataRows := by decide
  exact ⟨first, last, expand_rows_paths_apart.2 elevenfold Inherited.none "out" 0 elevenRows rfl
    0 first 10 last (by decide)⟩

end Scenario

end LoadScript
