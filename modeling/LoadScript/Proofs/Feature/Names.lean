import LoadScript.Feature.Expansion
import Mathlib.Data.List.Nodup

/-!
# Names of scenarios

A repeated name gets the number of its occurrence and nothing else changes, so the names of a
feature could only coincide if somebody wrote such a numbered name. Nothing keeps them from it: the
names are distinct exactly when no scenario is called what a repeat of another one becomes.
-/

set_option autoImplicit false

namespace LoadScript

namespace Scenario

/-! ## Numbered names -/

theorem numberedName_one (name : String) : numberedName name 1 = name := if_pos (Nat.le_refl 1)

theorem numberedName_of_two_le (name : String) {k : Nat} (repeated : 2 ≤ k) :
    numberedName name k = name ++ " (" ++ Nat.repr k ++ ")" :=
  if_neg (by omega)

theorem repr_inj {i j : Nat} (h : Nat.repr i = Nat.repr j) : i = j := by
  have digits : Nat.toDigits 10 i = Nat.toDigits 10 j := by
    rw [← Nat.toList_repr, ← Nat.toList_repr, h]
  have value := congrArg (fun ds => Nat.ofDigitChars 10 ds 0) digits
  simpa using value

theorem isDigit_of_mem_repr {c : Char} {k : Nat} (h : c ∈ (Nat.repr k).toList) :
    c.isDigit = true := by
  rw [Nat.toList_repr] at h
  exact Nat.isDigit_of_mem_toDigits (by omega) (by omega) h

theorem not_mem_repr {c : Char} (other : c.isDigit = false) (k : Nat) :
    c ∉ (Nat.repr k).toList := by
  intro hc
  have digit := isDigit_of_mem_repr hc
  rw [other] at digit
  cases digit

theorem append_cons_inj_of_last {x y : List Char} {a : Char} {u v : List Char}
    (hu : a ∉ u) (hv : a ∉ v) (h : x ++ a :: u = y ++ a :: v) : x = y ∧ u = v := by
  -- Were one of the lists longer, its mark would stand among what follows the other's.
  obtain ⟨c, rfl, hc⟩ | ⟨c, rfl, hc⟩ := List.append_eq_append_iff.1 h
  · cases c with
    | nil => simpa using hc
    | cons b c =>
      obtain ⟨-, rfl⟩ := List.cons.inj hc
      simp at hu
  · cases c with
    | nil => simpa [eq_comm] using hc
    | cons b c =>
      obtain ⟨-, rfl⟩ := List.cons.inj hc
      simp at hv

/-- The number of a repeat and the name it was given to can be read off. -/
theorem suffixed_inj {n m : String} {i j : Nat}
    (h : n ++ " (" ++ Nat.repr i ++ ")" = m ++ " (" ++ Nat.repr j ++ ")") : n = m ∧ i = j := by
  have chars := congrArg String.toList h
  simp only [String.toList_append] at chars
  have unclosed := List.append_cancel_right chars
  obtain ⟨names, numbers⟩ :=
    append_cons_inj_of_last (x := n.toList ++ [' ']) (y := m.toList ++ [' '])
      (not_mem_repr (c := '(') rfl i) (not_mem_repr (c := '(') rfl j) (by simpa using unclosed)
  exact ⟨String.toList_inj.1 (List.append_cancel_right names),
    repr_inj (String.toList_inj.1 numbers)⟩

/-- Two occurrences with one numbered name are the same, or one of them is a repeat and the other
is the first of a name that looks like it. -/
theorem numberedName_eq_cases {n m : String} {i j : Nat} (hi : 1 ≤ i) (hj : 1 ≤ j)
    (same : numberedName n i = numberedName m j) :
    (n = m ∧ i = j) ∨ (2 ≤ i ∧ m = n ++ " (" ++ Nat.repr i ++ ")") ∨
      (2 ≤ j ∧ n = m ++ " (" ++ Nat.repr j ++ ")") := by
  obtain rfl | repeated_i : i = 1 ∨ 2 ≤ i := by omega
  · obtain rfl | repeated_j : j = 1 ∨ 2 ≤ j := by omega
    · rw [numberedName_one, numberedName_one] at same
      exact .inl ⟨same, rfl⟩
    · rw [numberedName_one, numberedName_of_two_le m repeated_j] at same
      exact .inr (.inr ⟨repeated_j, same⟩)
  · obtain rfl | repeated_j : j = 1 ∨ 2 ≤ j := by omega
    · rw [numberedName_one, numberedName_of_two_le n repeated_i] at same
      exact .inr (.inl ⟨repeated_i, same.symm⟩)
    · rw [numberedName_of_two_le n repeated_i, numberedName_of_two_le m repeated_j] at same
      exact .inl (suffixed_inj same)

/-! ## Occurrences -/

def occurrences (seen : List String) : List String → List (String × Nat)
  | [] => []
  | name :: rest => (name, seen.count name + 1) :: occurrences (name :: seen) rest

def Counts (counters : List (String × Nat)) (names : List String) : Prop :=
  ∀ name, tallied counters name = names.count name

theorem tallied_tally (counters : List (String × Nat)) (name other : String) :
    tallied (tally name counters) other =
      tallied counters other + if name = other then 1 else 0 := by
  induction counters with
  | nil => by_cases same : name = other <;> simp [tally, tallied, same]
  | cons counter rest ih =>
    obtain ⟨n, k⟩ := counter
    rw [tally]
    by_cases here : n = name
    · rw [if_pos here]
      by_cases same : name = other <;> simp [tallied, here, same]
    · rw [if_neg here]
      by_cases found : n = other
      · simp [tallied, found, show ¬ name = other from fun same => here (found.trans same.symm)]
      · simpa [tallied, found] using ih

theorem counts_nil : Counts [] [] := fun _ => rfl

theorem Counts.tally {counters : List (String × Nat)} {names : List String}
    (counts : Counts counters names) (name : String) :
    Counts (tally name counters) (name :: names) := by
  intro other
  rw [tallied_tally, counts other, List.count_cons]
  simp only [beq_iff_eq]

theorem numberRepeats_names {counters : List (String × Nat)} {seen : List String}
    (counts : Counts counters seen) (ss : List Scenario) :
    (numberRepeats counters ss).map (·.name) =
      (occurrences seen (ss.map (·.name))).map fun p => numberedName p.1 p.2 := by
  induction ss generalizing counters seen with
  | nil => rfl
  | cons s rest ih =>
    have next := counts.tally s.name
    simp only [numberRepeats, occurrences, List.map_cons, ih next, next s.name,
      List.count_cons_self]

theorem mem_occurrences_iff (seen names : List String) (n : String) (k : Nat) :
    (n, k) ∈ occurrences seen names ↔ seen.count n < k ∧ k ≤ seen.count n + names.count n := by
  induction names generalizing seen with
  | nil => simp [occurrences]
  | cons name rest ih =>
    rw [occurrences, List.mem_cons, ih, Prod.mk.injEq]
    by_cases same : n = name
    · subst same
      rw [List.count_cons_self, List.count_cons_self]
      constructor
      · rintro (⟨-, rfl⟩ | bounds) <;> omega
      · rintro ⟨above, below⟩
        by_cases first : k = seen.count n + 1
        · exact .inl ⟨rfl, first⟩
        · exact .inr (by omega)
    · rw [List.count_cons_of_ne (Ne.symm same), List.count_cons_of_ne (Ne.symm same)]
      simp [same]

theorem occurrences_nodup (seen names : List String) : (occurrences seen names).Nodup := by
  induction names generalizing seen with
  | nil => exact List.nodup_nil
  | cons name rest ih =>
    refine List.nodup_cons.2 ⟨?_, ih _⟩
    rw [mem_occurrences_iff, List.count_cons_self]
    omega

/-- The occurrences of names are told apart by their numbered names exactly when none of the names
is the numbered name of a repeat. -/
theorem occurrences_names_nodup_iff (names : List String) :
    ((occurrences [] names).map fun p => numberedName p.1 p.2).Nodup ↔
      ∀ n ∈ names, ∀ m ∈ names, ∀ k, 2 ≤ k → k ≤ names.count n →
        m ≠ n ++ " (" ++ Nat.repr k ++ ")" := by
  have mem (n : String) (k : Nat) : (n, k) ∈ occurrences [] names ↔ 1 ≤ k ∧ k ≤ names.count n := by
    rw [mem_occurrences_iff, List.count_nil, Nat.zero_add]
    exact Iff.rfl
  have mem_names {n : String} {k : Nat} (h : 1 ≤ k ∧ k ≤ names.count n) : n ∈ names :=
    List.count_pos_iff.1 (by omega)
  rw [List.nodup_map_iff_inj_on (occurrences_nodup [] names)]
  constructor
  · rintro inj n hn m hm k repeated bound rfl
    -- The repeat and the first occurrence of what it is renamed to have one name.
    have clash := inj _ ((mem n k).2 ⟨by omega, bound⟩) _
      ((mem _ 1).2 ⟨Nat.le_refl 1, List.count_pos_iff.2 hm⟩)
      (by rw [numberedName_of_two_le n repeated, numberedName_one])
    have : k = 1 := (Prod.mk.inj clash).2
    omega
  · rintro free ⟨n, i⟩ hi ⟨m, j⟩ hj same
    rw [mem] at hi hj
    obtain ⟨rfl, rfl⟩ | ⟨repeated, rfl⟩ | ⟨repeated, rfl⟩ := numberedName_eq_cases hi.1 hj.1 same
    · rfl
    · exact absurd rfl (free n (mem_names hi) _ (mem_names hj) i repeated hi.2)
    · exact absurd rfl (free m (mem_names hj) _ (mem_names hi) j repeated hj.2)

/-! ## Scenarios with numbered names -/

/-- Each scenario stays in its place with all but its name, which depends on how often the name came
before. -/
theorem getElem?_numberRepeats {counters : List (String × Nat)} {seen : List String}
    (counts : Counts counters seen) (ss : List Scenario) (i : Nat) :
    (numberRepeats counters ss)[i]? = ss[i]?.map fun s =>
      { s with
        name := numberedName s.name
          (seen.count s.name + ((ss.take i).map (·.name)).count s.name + 1) } := by
  induction ss generalizing counters seen i with
  | nil => simp [numberRepeats]
  | cons s rest ih =>
    have next := counts.tally s.name
    cases i with
    | zero => simp [numberRepeats, next s.name]
    | succ i =>
      rw [numberRepeats, List.getElem?_cons_succ, ih next, List.getElem?_cons_succ]
      refine Option.map_congr fun r _ => ?_
      rw [List.take_succ_cons, List.map_cons, List.count_cons, List.count_cons,
        Nat.add_right_comm (seen.count r.name), Nat.add_assoc (seen.count r.name)]

theorem length_numberRepeats (counters : List (String × Nat)) (ss : List Scenario) :
    (numberRepeats counters ss).length = ss.length := by
  induction ss generalizing counters with
  | nil => rfl
  | cons s rest ih => simp [numberRepeats, ih]

theorem count_take_succ {ss : List Scenario} {i : Nat} {s : Scenario} (h : ss[i]? = some s) :
    ((ss.take (i + 1)).map (·.name)).count s.name =
      ((ss.take i).map (·.name)).count s.name + 1 := by
  rw [List.take_add_one, h, Option.toList_some, List.map_append, List.count_append,
    List.map_singleton, List.count_singleton_self]

/-- The occurrence of a name with the number `j` keeps the name if it is the first and gets the
number otherwise, and nothing else changes. The names are then distinct exactly when none of them
was written as the repeat of another is named. -/
theorem numberRepeats_renames_repeats (ss : List Scenario) :
    (numberRepeats [] ss).length = ss.length ∧
    (∀ i s, ss[i]? = some s → ∀ j, ((ss.take (i + 1)).map (·.name)).count s.name = j →
      1 ≤ j ∧ (j = 1 → (numberRepeats [] ss)[i]? = some s) ∧
      (2 ≤ j → (numberRepeats [] ss)[i]? =
        some { s with name := s.name ++ " (" ++ Nat.repr j ++ ")" })) ∧
    (((numberRepeats [] ss).map (·.name)).Nodup ↔
      ¬ ∃ n ∈ ss.map (·.name), ∃ m ∈ ss.map (·.name), ∃ k,
        2 ≤ k ∧ k ≤ (ss.map (·.name)).count n ∧ m = n ++ " (" ++ Nat.repr k ++ ")") := by
  refine ⟨length_numberRepeats [] ss, ?_, ?_⟩
  · intro i s found j number
    have renamed := getElem?_numberRepeats counts_nil ss i
    rw [found, Option.map_some, List.count_nil, Nat.zero_add, ← count_take_succ found, number]
      at renamed
    rw [count_take_succ found] at number
    refine ⟨by omega, ?_, ?_⟩
    · rintro rfl
      rw [renamed, numberedName_one]
    · intro repeated
      rw [renamed, numberedName_of_two_le s.name repeated]
  · rw [numberRepeats_names counts_nil, occurrences_names_nodup_iff]
    simp only [not_exists, not_and, ne_eq]

def named (name : String) : Scenario :=
  { name, tags := [], kind := .plain, group := none, parameters := .empty, steps := [] }

def bracketedNames : List Scenario := [named "A", named "A (2)", named "A", named "A (2)"]

theorem bracketedNames_renamed :
    (numberRepeats [] bracketedNames)[3]? = some (named "A (2) (2)") ∧
      ¬ ((numberRepeats [] bracketedNames).map (·.name)).Nodup := by
  obtain ⟨-, renamed, distinct⟩ := numberRepeats_renames_repeats bracketedNames
  have last := renamed 3 (named "A (2)") rfl 2 (by decide)
  refine ⟨last.2.2 (Nat.le_refl 2), fun h => distinct.1 h ?_⟩
  exact ⟨"A", by decide, "A (2)", by decide, 2, by decide, by decide, rfl⟩

end Scenario

namespace Feature

open Gherkin

/-- The scenarios of a document get distinct names unless one of them is written as the repeat of
another will be named. -/
theorem ofDocument_names_nodup_iff (doc : Document) (sourcePath : String) :
    ((ofDocument doc sourcePath).scenarios.map (·.name)).Nodup ↔
      ∀ n ∈ (documentScenarios doc).map (·.name), ∀ m ∈ (documentScenarios doc).map (·.name),
        ∀ k, 2 ≤ k → k ≤ ((documentScenarios doc).map (·.name)).count n →
          m ≠ n ++ " (" ++ Nat.repr k ++ ")" := by
  change ((Scenario.numberRepeats [] (documentScenarios doc)).map (·.name)).Nodup ↔ _
  rw [Scenario.numberRepeats_names Scenario.counts_nil, Scenario.occurrences_names_nodup_iff]

def plainScenario (name : String) : SourceScenario :=
  { name, tags := [], steps := [⟨"Given", "x", none, none⟩], examples := [] }

def numberedByHand : Document :=
  { name := "F", description := none, tags := [], background := none, rules := []
    scenarios := [plainScenario "A", plainScenario "A", plainScenario "A (2)"] }

theorem numberedByHand_names_repeat :
    ¬ ((ofDocument numberedByHand "f.feature").scenarios.map (·.name)).Nodup := by
  decide

end Feature

end LoadScript
