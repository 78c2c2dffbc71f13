import LoadScript.Feature.Expansion
import LoadScript.Proofs.Tags
import Mathlib

set_option autoImplicit false

namespace LoadScript

open Gherkin

namespace Gherkin.Examples

def title (e : Examples) : Option String :=
  match e.name with
  | some name => if Text.isBlank name then none else some (Text.trim name)
  | none => none

def dataRows (e : Examples) : Nat :=
  match e.table with
  | some table => table.length - 1
  | none => 0

theorem groupName_eq_title (e : Examples) : e.groupName = e.title := by
  unfold groupName title
  cases e.name with
  | none => rfl
  | some name =>
    by_cases blank : Text.isBlank name = true
    · simp [(Text.trim_eq_empty_iff name).2 blank, blank]
    · have named : Text.trim name ≠ "" := fun h => blank ((Text.trim_eq_empty_iff name).1 h)
      simp [Option.filter, named, blank]

end Gherkin.Examples

namespace Scenario

theorem length_ofExamples (s : SourceScenario) (inherited : Inherited) (e : Examples) :
    (ofExamples s inherited e).length = e.dataRows := by
  unfold ofExamples Examples.dataRows
  obtain - | - | ⟨header, rows⟩ := e.table
  · rfl
  · rfl
  · simp

theorem getElem?_flatMap {α β : Type} (f : α → List β) {l : List α} {b r : Nat} {a : α}
    (part : l[b]? = some a) (inside : r < (f a).length) :
    (l.flatMap f)[((l.take b).map fun x => (f x).length).sum + r]? = (f a)[r]? := by
  obtain ⟨bound, rfl⟩ := List.getElem?_eq_some_iff.1 part
  have split : l = l.take b ++ l[b] :: l.drop (b + 1) := by
    rw [List.getElem_cons_drop, List.take_append_drop]
  have before : ((l.take b).flatMap f).length = ((l.take b).map fun x => (f x).length).sum :=
    List.length_flatMap
  have joined : l.flatMap f = (l.take b).flatMap f ++ (f l[b] ++ (l.drop (b + 1)).flatMap f) := by
    rw [← List.flatMap_cons, ← List.flatMap_append, ← split]
  rw [joined, ← before, List.getElem?_append_right (Nat.le_add_right _ _), Nat.add_sub_cancel_left,
    List.getElem?_append_left inside]

/-- The place that the scenario of a data row, counted from zero, has among all of the template. -/
def rowPlace (s : SourceScenario) (block row : Nat) : Nat :=
  ((s.examples.take block).map Examples.dataRows).sum + row

theorem length_flatMap_ofExamples (s : SourceScenario) (inherited : Inherited) :
    (s.examples.flatMap (ofExamples s inherited)).length =
      (s.examples.map Examples.dataRows).sum := by
  rw [List.length_flatMap]
  simp only [length_ofExamples]

theorem getElem?_flatMap_ofExamples {s : SourceScenario} {inherited : Inherited} {b r : Nat}
    {e : Examples} {header row : List String} {rows : List (List String)}
    (block : s.examples[b]? = some e) (table : e.table = some (header :: rows))
    (data : rows[r]? = some row) :
    (s.examples.flatMap (ofExamples s inherited))[rowPlace s b r]? =
      some (ofRow s inherited e header row (r + 1)) := by
  have scenarios : ofExamples s inherited e =
      rows.mapIdx fun i row => ofRow s inherited e header row (i + 1) := by
    simp only [ofExamples, table]
  have inside : r < (ofExamples s inherited e).length := by
    rw [scenarios, List.length_mapIdx]
    exact (List.getElem?_eq_some_iff.1 data).1
  have place := getElem?_flatMap (ofExamples s inherited) block inside
  simp only [length_ofExamples] at place
  rw [rowPlace, place, scenarios, List.getElem?_mapIdx, data]
  rfl

/-- A scenario without example blocks gives itself. Otherwise there is one scenario for each data
row, in the order of blocks and rows, which knows only the parameters of its own row. -/
theorem expand_plain_or_rows (s : SourceScenario) (inherited : Inherited) :
    (s.examples = [] →
      ∃ tags, Tags.Collected (inherited.tags ++ s.tags) tags ∧
        expand s inherited =
          [{ name := Text.trim s.name
             tags
             kind := .plain
             group := none
             parameters := Parameters.empty
             steps := inherited.steps ++ s.steps.map Step.ofSource }]) ∧
    (s.examples ≠ [] →
      (expand s inherited).length = (s.examples.map Examples.dataRows).sum ∧
      ∀ b e header rows r row, s.examples[b]? = some e → e.table = some (header :: rows) →
        rows[r]? = some row →
        ∃ tags, Tags.Collected (inherited.tags ++ s.tags ++ e.tags) tags ∧
          (expand s inherited)[rowPlace s b r]? =
            some
              { name := Text.trim s.name ++ " [" ++ e.title.getD "Default" ++ " — Row " ++
                  Nat.repr (r + 1) ++ "]"
                tags
                kind := .templated
                group := e.title
                parameters := rowParameters header row
                steps := (inherited.steps ++ s.steps.map Step.ofSource).map
                  (Template.substituteStep (rowParameters header row)) }) := by
  constructor
  · intro plain
    refine ⟨_, ?_, by simp only [expand, plain, List.isEmpty_nil, if_true]; rfl⟩
    have collected := Tags.collected_normalize inherited.tags s.tags []
    rw [List.append_nil] at collected
    change Tags.Collected _ (Tags.normalize (allTags s inherited ++ [])) at collected
    rwa [List.append_nil] at collected
  · intro template
    have expanded : expand s inherited = s.examples.flatMap (ofExamples s inherited) := by
      rw [expand, if_neg (by simpa using template)]
    rw [expanded]
    refine ⟨length_flatMap_ofExamples s inherited, ?_⟩
    intro b e header rows r row block table data
    refine ⟨_, Tags.collected_normalize inherited.tags s.tags e.tags, ?_⟩
    rw [getElem?_flatMap_ofExamples block table data, ← Examples.groupName_eq_title]
    rfl

def twoBlocks : SourceScenario :=
  { name := " T ", tags := ["@a"], steps := [⟨"When ", " <x> and <y> ", none, none⟩]
    examples :=
      [⟨some " first ", ["@b"], some [["x", "y"], ["1", "2"], ["3"]]⟩,
        ⟨some " ", ["@a", "@c"], some [["x"], ["4"]]⟩] }

theorem twoBlocks_second_block :
    twoBlocks.examples ≠ [] ∧ (expand twoBlocks ⟨["@r"], []⟩).length = 3 ∧
      ∃ scenario, (expand twoBlocks ⟨["@r"], []⟩)[2]? = some scenario ∧
        scenario.name = "T [Default — Row 1]" ∧ scenario.group = none ∧
        scenario.tags = ["r", "a", "c"] ∧
        scenario.steps.map (·.text) = ["4 and <y>"] := by
  have blocks : twoBlocks.examples ≠ [] := by decide
  obtain ⟨length, rows⟩ := (expand_plain_or_rows twoBlocks ⟨["@r"], []⟩).2 blocks
  obtain ⟨tags, collected, placed⟩ := rows 1 _ _ _ 0 _ rfl rfl rfl
  cases collected.first_occurrences (by decide)
  exact ⟨blocks, length, _, placed, by decide, by decide, by decide, by cbv⟩

def taggedByMark : SourceScenario :=
  { name := "S", tags := ["@"], steps := [], examples := [⟨none, [], some [["a"], ["1"]]⟩] }

theorem taggedByMark_tags_lost :
    (∀ tag ∈ taggedByMark.tags, Tags.NoBlank tag) ∧
      (expand taggedByMark Inherited.none).map (·.tags) ≠
        [(taggedByMark.tags.map Tags.bare).eraseDups] := by
  decide

end Scenario

end LoadScript
