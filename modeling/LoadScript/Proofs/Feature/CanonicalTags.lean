import LoadScript.Feature.Expansion
import LoadScript.Proofs.Feature.Selection

/-!
# Canonical tags

A canonical tag is not empty, has no mark in front and no blank at its ends, and normalising it
changes nothing. Blanks are trimmed before marks are taken away, so a blank behind a mark is left at
the start of a normalised tag. Normalised tags are canonical exactly when no tag is written like
that; then they are normalised once and for all, and a scenario is selected by each of its tags.
-/

set_option autoImplicit false

namespace LoadScript

open Gherkin

namespace Tags

structure Canonical (tag : String) : Prop where
  nonempty : tag ≠ ""
  unmarked : tag.toList.head? ≠ some '@'
  startsVisible : ∀ c, tag.toList.head? = some c → Chars.isBlank c = false
  endsVisible : ∀ c, tag.toList.getLast? = some c → Chars.isBlank c = false

/-- A blank stands behind the marks in front of a tag, and something visible behind the blank. -/
def BlankAfterMark (tag : String) : Prop :=
  ∃ (lead marks : List Char) (b : Char) (rest : List Char),
    tag.toList = lead ++ marks ++ b :: rest ∧ lead.all Chars.isBlank = true ∧ marks ≠ [] ∧
      marks.all (· == '@') = true ∧ Chars.isBlank b = true ∧ rest.all Chars.isBlank = false

/-! ## One tag -/

theorem toList_normalizeOne (tag : String) :
    (normalizeOne tag).toList = (Chars.trim tag.toList).dropWhile (· == '@') :=
  String.toList_ofList

theorem normalizeOne_unmarked (tag : String) : (normalizeOne tag).toList.head? ≠ some '@' := by
  intro first
  rw [toList_normalizeOne] at first
  have other := Chars.not_of_head?_dropWhile first
  cases other

theorem exists_marks (tag : String) : ∃ marks : List Char, marks.all (· == '@') = true ∧
    Chars.trim tag.toList = marks ++ (normalizeOne tag).toList :=
  ⟨_, List.all_takeWhile, by rw [toList_normalizeOne, List.takeWhile_append_dropWhile]⟩

theorem normalizeOne_endsVisible {tag : String} {c : Char}
    (last : (normalizeOne tag).toList.getLast? = some c) : Chars.isBlank c = false := by
  obtain ⟨marks, -, trimmed⟩ := exists_marks tag
  have last_trimmed : (Chars.trim tag.toList).getLast? = some c := by
    rw [trimmed, List.getLast?_append, last, Option.some_or]
  exact Chars.visible_of_getLast?_trim last_trimmed

theorem blankAfterMark_of_startsBlank {tag : String} {b : Char}
    (first : (normalizeOne tag).toList.head? = some b) (blank : Chars.isBlank b = true) :
    BlankAfterMark tag := by
  obtain ⟨marks, all_marks, trimmed⟩ := exists_marks tag
  obtain ⟨lead, trail, lead_blank, -, whole⟩ := Chars.exists_blanks_around tag.toList
  obtain ⟨rest, body⟩ := List.head?_eq_some_iff.1 first
  have some_mark : marks ≠ [] := by
    rintro rfl
    have first_trimmed : (Chars.trim tag.toList).head? = some b := by
      rw [trimmed, List.nil_append, first]
    rw [Chars.visible_of_head?_trim first_trimmed] at blank
    cases blank
  have some_visible : rest.all Chars.isBlank = false := by
    cases ending : rest.getLast? with
    | none =>
      have alone : (normalizeOne tag).toList.getLast? = some b := by
        rw [body, List.getLast?_eq_none_iff.1 ending, List.getLast?_singleton]
      rw [normalizeOne_endsVisible alone] at blank
      cases blank
    | some d =>
      have last : (normalizeOne tag).toList.getLast? = some d := by
        rw [body, List.getLast?_cons, ending, Option.getD_some]
      have visible := normalizeOne_endsVisible last
      exact List.all_eq_false.2 ⟨d, List.mem_of_getLast? ending, by simp [visible]⟩
  refine ⟨lead, marks, b, rest ++ trail, ?_, lead_blank, some_mark, all_marks, blank, ?_⟩
  · rw [whole, trimmed, body]
    simp
  · rw [List.all_append, some_visible, Bool.false_and]

theorem BlankAfterMark.startsBlank {tag : String} (h : BlankAfterMark tag) :
    ∃ b, (normalizeOne tag).toList.head? = some b ∧ Chars.isBlank b = true := by
  obtain ⟨lead, marks, b, rest, text, lead_blank, some_mark, all_marks, blank, visible⟩ := h
  have all_equal : ∀ c ∈ marks, c = '@' := fun c mem => by
    simpa using List.all_eq_true.1 all_marks c mem
  have start : Chars.trimStart tag.toList = marks ++ b :: rest := by
    rw [text, List.append_assoc]
    refine Chars.dropWhile_before lead_blank ?_
    intro c first
    rw [List.head?_append_of_ne_nil _ some_mark] at first
    rw [all_equal c (List.mem_of_head? first)]
    decide
  have trimmed : Chars.trim tag.toList = marks ++ b :: Chars.trimEnd rest := by
    have split : marks ++ b :: rest = (marks ++ [b]) ++ rest := by simp
    rw [Chars.trim, start, Chars.trimEnd, split, Chars.dropEndWhile_append visible]
    simp [Chars.trimEnd]
  have not_mark : (b == '@') = false := by
    rw [beq_eq_false_iff_ne]
    rintro rfl
    cases blank
  refine ⟨b, ?_, blank⟩
  rw [toList_normalizeOne, trimmed, Chars.dropWhile_before all_marks]
  · rfl
  · intro c first
    rwa [← Option.some.inj first]

theorem blankAfterMark_iff {tag : String} :
    BlankAfterMark tag ↔ (normalizeOne tag).toList.head?.any Chars.isBlank = true := by
  rw [Option.any_eq_true]
  constructor
  · exact BlankAfterMark.startsBlank
  · rintro ⟨b, first, blank⟩
    exact blankAfterMark_of_startsBlank first blank

instance (tag : String) : Decidable (BlankAfterMark tag) :=
  decidable_of_iff _ blankAfterMark_iff.symm

theorem BlankAfterMark.normalizeOne_ne_empty {tag : String} (h : BlankAfterMark tag) :
    normalizeOne tag ≠ "" := by
  obtain ⟨b, first, -⟩ := h.startsBlank
  intro empty
  rw [empty] at first
  cases first

theorem canonical_normalizeOne_iff {tag : String} (nonempty : normalizeOne tag ≠ "") :
    Canonical (normalizeOne tag) ↔ ¬ BlankAfterMark tag := by
  constructor
  · intro canonical behind
    obtain ⟨b, first, blank⟩ := behind.startsBlank
    rw [canonical.startsVisible b first] at blank
    cases blank
  · intro clean
    refine ⟨nonempty, normalizeOne_unmarked tag, ?_, fun c => normalizeOne_endsVisible⟩
    intro c first
    rw [← Bool.not_eq_true]
    exact fun blank => clean (blankAfterMark_of_startsBlank first blank)

theorem Canonical.normalizeOne_eq {tag : String} (h : Canonical tag) : normalizeOne tag = tag := by
  rw [← String.toList_inj, toList_normalizeOne, Chars.trim_eq_self h.startsVisible h.endsVisible]
  refine @Chars.dropWhile_before _ [] _ rfl ?_
  intro c first
  rw [beq_eq_false_iff_ne]
  rintro rfl
  exact h.unmarked first

/-- Taking away marks makes a text shorter, so a tag that stays as it is had none. -/
theorem trim_of_normalizeOne_eq {tag : String} (fixed : normalizeOne tag = tag) :
    Chars.trim tag.toList = tag.toList := by
  obtain ⟨marks, -, trimmed⟩ := exists_marks tag
  obtain ⟨lead, trail, -, -, whole⟩ := Chars.exists_blanks_around tag.toList
  rw [fixed] at trimmed
  have total := congrArg List.length whole
  rw [trimmed] at total
  simp only [List.length_append] at total
  have no_marks : marks = [] := List.eq_nil_of_length_eq_zero (by omega)
  rw [trimmed, no_marks, List.nil_append]

theorem normalizeOne_normalizeOne_iff {tag : String} :
    normalizeOne (normalizeOne tag) = normalizeOne tag ↔ ¬ BlankAfterMark tag := by
  constructor
  · intro fixed behind
    obtain ⟨b, first, blank⟩ := behind.startsBlank
    rw [← trim_of_normalizeOne_eq fixed] at first
    rw [Chars.visible_of_head?_trim first] at blank
    cases blank
  · intro clean
    by_cases empty : normalizeOne tag = ""
    · rw [empty]
      rfl
    · exact ((canonical_normalizeOne_iff empty).2 clean).normalizeOne_eq

/-! ## Lists of tags -/

theorem normalize_eq_self_iff {tags : List String} :
    normalize tags = tags ↔ tags.Nodup ∧ ∀ tag ∈ tags, normalizeOne tag = tag ∧ tag ≠ "" := by
  constructor
  · intro fixed
    have nodup : (normalize tags).Nodup := distinct_nodup _
    have nonempty : ∀ tag ∈ normalize tags, tag ≠ "" := fun tag mem => (mem_normalize.1 mem).2
    -- Nothing is dropped, so the tags are their normal forms one by one.
    have part : (normalize tags).Sublist (tags.map normalizeOne) :=
      (distinct_sublist _).trans List.filter_sublist
    rw [fixed] at nodup nonempty part
    have forms : tags.map id = tags.map normalizeOne := by
      rw [List.map_id]
      exact part.eq_of_length (by simp)
    exact ⟨nodup, fun tag mem => ⟨(List.map_inj_left.1 forms tag mem).symm, nonempty tag mem⟩⟩
  · rintro ⟨nodup, forms⟩
    have same : tags.map normalizeOne = tags := by
      rw [List.map_congr_left fun tag mem => (forms tag mem).1, List.map_id']
    have all : tags.filter (fun tag => tag ≠ "") = tags :=
      List.filter_eq_self.2 fun tag mem => decide_eq_true (forms tag mem).2
    rw [normalize, same, all, distinct_of_nodup nodup]

theorem forall_mem_normalize {tags : List String} {p : String → Prop} :
    (∀ tag ∈ normalize tags, p tag) ↔
      ∀ tag ∈ tags, normalizeOne tag ≠ "" → p (normalizeOne tag) := by
  constructor
  · intro h tag mem nonempty
    exact h _ (mem_normalize.2 ⟨⟨tag, mem, rfl⟩, nonempty⟩)
  · intro h _ mem
    obtain ⟨⟨tag, written, rfl⟩, nonempty⟩ := mem_normalize.1 mem
    exact h tag written nonempty

theorem canonical_normalize_iff {tags : List String} :
    (∀ tag ∈ normalize tags, Canonical tag) ↔ ∀ tag ∈ tags, ¬ BlankAfterMark tag := by
  rw [forall_mem_normalize]
  constructor
  · intro canonical tag mem behind
    have nonempty := behind.normalizeOne_ne_empty
    exact (canonical_normalizeOne_iff nonempty).1 (canonical tag mem nonempty) behind
  · intro clean tag mem nonempty
    exact (canonical_normalizeOne_iff nonempty).2 (clean tag mem)

theorem normalize_normalize_iff {tags : List String} :
    normalize (normalize tags) = normalize tags ↔ ∀ tag ∈ tags, ¬ BlankAfterMark tag := by
  rw [normalize_eq_self_iff, forall_mem_normalize]
  constructor
  · rintro ⟨-, fixed⟩ tag mem behind
    exact normalizeOne_normalizeOne_iff.1 (fixed tag mem behind.normalizeOne_ne_empty).1 behind
  · intro clean
    refine ⟨distinct_nodup _, fun tag mem nonempty => ⟨?_, nonempty⟩⟩
    exact normalizeOne_normalizeOne_iff.2 (clean tag mem)

/-! ## Tags of scenarios -/

theorem mem_tags_of_expand {s : SourceScenario} {inherited : Inherited} {x : Scenario}
    (mem : x ∈ Scenario.expand s inherited) {tag : String}
    (carried : tag ∈ normalize (Scenario.allTags s inherited)) : tag ∈ x.tags := by
  unfold Scenario.expand at mem
  split at mem
  · rw [List.mem_singleton.1 mem]
    exact carried
  · obtain ⟨e, -, row⟩ := List.mem_flatMap.1 mem
    unfold Scenario.ofExamples at row
    split at row
    · obtain ⟨i, -, rfl⟩ := List.mem_mapIdx.1 row
      exact mem_normalize_append.2 (.inl carried)
    · cases row

theorem keeps_of_mem_tags {s : SourceScenario} {tag : String} (written : tag ∈ s.tags)
    (clean : ¬ BlankAfterMark tag) {inherited : Inherited} {x : Scenario}
    (mem : x ∈ Scenario.expand s inherited) (f : Feature) : Feature.Keeps [tag] f x := by
  by_cases empty : normalizeOne tag = ""
  · left
    simp [normalize, empty, distinct]
  · right
    have once : normalizeOne tag ∈ normalize s.tags := mem_normalize.2 ⟨⟨tag, written, rfl⟩, empty⟩
    have twice : normalizeOne tag ∈ normalize (Scenario.allTags s inherited) :=
      mem_normalize.2
        ⟨⟨_, List.mem_append_right _ once, normalizeOne_normalizeOne_iff.2 clean⟩, empty⟩
    refine ⟨normalizeOne tag, ?_, .inr (mem_tags_of_expand mem twice)⟩
    exact mem_normalize.2 ⟨⟨tag, List.mem_singleton_self _, rfl⟩, empty⟩

/-- Normalised tags are distinct, not empty, unmarked and without blanks at their ends, and a blank
at their start is left exactly where one was written behind a mark. Exactly when there is none,
normalising again changes nothing; and a scenario is selected by each such tag of its own. -/
theorem normalize_canonical_iff_no_blank_after_mark (tags : List String) :
    ((normalize tags).Nodup ∧ ∀ tag ∈ normalize tags, tag ≠ "" ∧
      tag.toList.head? ≠ some '@' ∧ ∀ c, tag.toList.getLast? = some c → Chars.isBlank c = false) ∧
    ((∀ tag ∈ normalize tags, Canonical tag) ↔ ∀ tag ∈ tags, ¬ BlankAfterMark tag) ∧
    (normalize (normalize tags) = normalize tags ↔ ∀ tag ∈ tags, ¬ BlankAfterMark tag) ∧
    ∀ tag ∈ tags, ¬ BlankAfterMark tag → ∀ s : SourceScenario, tag ∈ s.tags →
      ∀ inherited, ∀ x ∈ Scenario.expand s inherited, ∀ f, Feature.Keeps [tag] f x := by
  refine ⟨⟨distinct_nodup _, ?_⟩, canonical_normalize_iff, normalize_normalize_iff, ?_⟩
  · refine forall_mem_normalize.2 fun tag _ nonempty => ⟨nonempty, ?_, ?_⟩
    · exact normalizeOne_unmarked tag
    · exact fun c => normalizeOne_endsVisible
  · intro tag _ clean s written inherited x mem f
    exact keeps_of_mem_tags written clean mem f

def taggedWith (tag : String) : SourceScenario :=
  { name := "S", tags := [tag], steps := [], examples := [] }

theorem blank_inside_canonical :
    (∀ tag ∈ [" @@a@ b\t", "@", "a@ b"], ¬ BlankAfterMark tag) ∧
      normalize [" @@a@ b\t", "@", "a@ b"] = ["a@ b"] ∧ Canonical "a@ b" ∧
      normalize (normalize [" @@a@ b\t", "@", "a@ b"]) = ["a@ b"] ∧
      ∀ x ∈ Scenario.expand (taggedWith " @@a@ b\t") Inherited.none,
        Feature.Keeps [" @@a@ b\t"] (Feature.ofTags [] []) x := by
  have clean : ∀ tag ∈ [" @@a@ b\t", "@", "a@ b"], ¬ BlankAfterMark tag := by decide
  have once : normalize [" @@a@ b\t", "@", "a@ b"] = ["a@ b"] := by decide
  obtain ⟨-, canonical, fixed, kept⟩ :=
    normalize_canonical_iff_no_blank_after_mark [" @@a@ b\t", "@", "a@ b"]
  refine ⟨clean, once, ?_, ?_, ?_⟩
  · exact canonical.2 clean "a@ b" (by rw [once]; exact List.mem_singleton_self _)
  · rw [fixed.2 clean, once]
  · intro x mem
    have first := List.mem_cons_self (a := " @@a@ b\t") (l := ["@", "a@ b"])
    exact kept _ first (clean _ first) (taggedWith " @@a@ b\t") List.mem_cons_self _ x mem _

/-- A blank behind the mark stays, goes when the tag is normalised again, and keeps the scenario
from being selected by its own tag. -/
theorem blank_after_mark_not_canonical :
    normalize ["@ a"] = [" a"] ∧ ¬ Canonical " a" ∧
      normalize (normalize ["@ a"]) ≠ normalize ["@ a"] ∧
      ∃ x ∈ Scenario.expand (taggedWith "@ a") Inherited.none,
        ¬ Feature.Keeps ["@ a"] (Feature.ofTags [] []) x := by
  refine ⟨by decide, fun canonical => ?_, by decide, _, List.mem_cons_self, by decide⟩
  have visible := canonical.startsVisible ' ' rfl
  cases visible

end Tags

end LoadScript
