import LoadScript.Proofs.Text.Blank
import LoadScript.Tags
import Mathlib.Data.List.DropRight
import Mathlib.Data.List.Nodup

set_option autoImplicit false

namespace LoadScript

/-! ## First occurrences -/

section Distinct

variable {α : Type} [DecidableEq α]

theorem mem_distinct {a : α} {l : List α} : a ∈ distinct l ↔ a ∈ l := by
  induction l with
  | nil => exact Iff.rfl
  | cons b rest ih =>
    rw [distinct, List.mem_cons, List.mem_cons, List.mem_filter, ih]
    by_cases same : a = b
    · simp [same]
    · simp [same]

theorem distinct_sublist (l : List α) : (distinct l).Sublist l := by
  induction l with
  | nil => exact List.Sublist.slnil
  | cons a rest ih => exact (List.filter_sublist.trans ih).cons_cons a

theorem distinct_nodup (l : List α) : (distinct l).Nodup := by
  induction l with
  | nil => exact List.nodup_nil
  | cons a rest ih =>
    refine List.nodup_cons.2 ⟨?_, ih.filter _⟩
    simp

theorem distinct_of_nodup {l : List α} (nodup : l.Nodup) : distinct l = l := by
  induction l with
  | nil => rfl
  | cons a rest ih =>
    obtain ⟨fresh, nodup⟩ := List.nodup_cons.1 nodup
    rw [distinct, ih nodup, List.filter_eq_self.2]
    intro b hb
    have other : b ≠ a := fun h => fresh (h ▸ hb)
    simpa using other

theorem distinct_append (a b : List α) :
    distinct (a ++ b) = distinct a ++ (distinct b).filter (fun x => x ∉ a) := by
  induction a with
  | nil => simp [distinct]
  | cons x rest ih =>
    rw [List.cons_append, distinct, ih, List.filter_append, List.filter_filter, distinct,
      List.cons_append]
    simp only [List.mem_cons, not_or, Bool.decide_and]

theorem distinct_append_distinct_append (a b c : List α) :
    distinct (a ++ distinct b ++ c) = distinct (a ++ b ++ c) := by
  have inner : distinct (distinct b ++ c) = distinct (b ++ c) := by
    rw [distinct_append, distinct_append, distinct_of_nodup (distinct_nodup b)]
    simp only [mem_distinct]
  rw [List.append_assoc, List.append_assoc, distinct_append, inner, ← distinct_append]

theorem distinct_filter (p : α → Bool) (l : List α) :
    distinct (l.filter p) = (distinct l).filter p := by
  induction l with
  | nil => rfl
  | cons a rest ih =>
    by_cases kept : p a = true
    · rw [List.filter_cons_of_pos kept, distinct, distinct, List.filter_cons_of_pos kept, ih,
        List.filter_filter, List.filter_filter]
      simp only [Bool.and_comm]
    · rw [List.filter_cons_of_neg kept, distinct, List.filter_cons_of_neg kept, ih,
        List.filter_filter]
      refine List.filter_congr fun b _ => ?_
      by_cases same : b = a
      · simp [same, kept]
      · simp [same]

theorem distinct_eq_eraseDups (l : List α) : distinct l = l.eraseDups := by
  cases l with
  | nil => simp [distinct]
  | cons a rest =>
    have shorter : (rest.filter fun b => !b == a).length < rest.length + 1 :=
      Nat.lt_succ_of_le (List.length_filter_le _ _)
    rw [List.eraseDups_cons, ← distinct_eq_eraseDups, distinct_filter, distinct]
    congr 1
    refine List.filter_congr fun b _ => ?_
    by_cases same : b = a <;> simp [same]
termination_by l.length

end Distinct

namespace Tags

theorem mem_normalize {tag : String} {tags : List String} :
    tag ∈ normalize tags ↔ (∃ t ∈ tags, normalizeOne t = tag) ∧ tag ≠ "" := by
  rw [normalize, mem_distinct]
  simp

theorem mem_normalize_append {tag : String} {a b : List String} :
    tag ∈ normalize (a ++ b) ↔ tag ∈ normalize a ∨ tag ∈ normalize b := by
  simp only [mem_normalize, List.mem_append, or_and_right, exists_or]

/-- A mark in front of a tag makes no difference unless blanks follow it. -/
theorem normalizeOne_mark {tag : String}
    (visible : ∀ c, tag.toList.head? = some c → Chars.isBlank c = false) :
    normalizeOne ("@" ++ tag) = normalizeOne tag := by
  have start : Chars.trimStart tag.toList = tag.toList :=
    @Chars.dropWhile_before Chars.isBlank [] tag.toList rfl visible
  have marked : Chars.trim ("@" ++ tag).toList = '@' :: Chars.trimEnd tag.toList := by
    rw [String.toList_append]
    exact Chars.dropEndWhile_cons (by decide) tag.toList
  rw [normalizeOne, marked, normalizeOne, Chars.trim, start, List.dropWhile_cons_of_pos rfl]

def bare (tag : String) : String := String.ofList (tag.toList.dropWhile (· == '@'))

def NoBlank (tag : String) : Prop := ∀ c ∈ tag.toList, Chars.isBlank c = false

instance (tag : String) : Decidable (NoBlank tag) := List.decidableBAll _ _

theorem normalizeOne_of_noBlank {tag : String} (free : NoBlank tag) :
    normalizeOne tag = bare tag := by
  rw [normalizeOne, Chars.trim_of_no_blank free, bare]

theorem NoBlank.bare {tag : String} (free : NoBlank tag) : NoBlank (bare tag) := by
  intro c hc
  rw [Tags.bare, String.toList_ofList] at hc
  exact free c ((List.dropWhile_sublist _).mem hc)

theorem bare_bare (tag : String) : bare (bare tag) = bare tag := by
  rw [bare, bare, String.toList_ofList, List.dropWhile_idempotent]

def bareNonempty (tags : List String) : List String := (tags.map bare).filter (fun tag => tag ≠ "")

theorem bareNonempty_append (a b : List String) :
    bareNonempty (a ++ b) = bareNonempty a ++ bareNonempty b := by
  rw [bareNonempty, List.map_append, List.filter_append]
  rfl

theorem normalize_of_noBlank {tags : List String} (free : ∀ tag ∈ tags, NoBlank tag) :
    normalize tags = distinct (bareNonempty tags) := by
  rw [normalize, bareNonempty, List.map_congr_left fun tag h => normalizeOne_of_noBlank (free tag h)]

theorem mem_bareNonempty {tag : String} {tags : List String} :
    tag ∈ bareNonempty tags ↔ (∃ t ∈ tags, bare t = tag) ∧ tag ≠ "" := by
  simp [bareNonempty]

theorem noBlank_normalize {tags : List String} (free : ∀ tag ∈ tags, NoBlank tag) :
    ∀ tag ∈ normalize tags, NoBlank tag := by
  intro tag h
  rw [normalize_of_noBlank free, mem_distinct, mem_bareNonempty] at h
  obtain ⟨⟨t, ht, rfl⟩, -⟩ := h
  exact (free t ht).bare

/-- Normal forms are bare already. -/
theorem bareNonempty_normalize {tags : List String} (free : ∀ tag ∈ tags, NoBlank tag) :
    bareNonempty (normalize tags) = distinct (bareNonempty tags) := by
  rw [normalize_of_noBlank free]
  have fixed : ∀ tag ∈ distinct (bareNonempty tags), bare tag = tag ∧ tag ≠ "" := by
    intro tag h
    rw [mem_distinct, mem_bareNonempty] at h
    obtain ⟨⟨t, -, rfl⟩, nonempty⟩ := h
    exact ⟨bare_bare t, nonempty⟩
  rw [bareNonempty, List.map_congr_left fun tag h => (fixed tag h).1, List.map_id',
    List.filter_eq_self.2]
  intro tag h
  simpa using (fixed tag h).2

theorem normalize_parts {a b c : List String} (free : ∀ tag ∈ a ++ b ++ c, NoBlank tag) :
    normalize (a ++ normalize b ++ normalize c) = distinct (bareNonempty (a ++ b ++ c)) := by
  have free_a : ∀ tag ∈ a, NoBlank tag := fun tag h => free tag (by simp [h])
  have free_b : ∀ tag ∈ b, NoBlank tag := fun tag h => free tag (by simp [h])
  have free_c : ∀ tag ∈ c, NoBlank tag := fun tag h => free tag (by simp [h])
  have free_parts : ∀ tag ∈ a ++ normalize b ++ normalize c, NoBlank tag := by
    intro tag h
    rw [List.mem_append, List.mem_append] at h
    obtain (h | h) | h := h
    · exact free_a tag h
    · exact noBlank_normalize free_b tag h
    · exact noBlank_normalize free_c tag h
  have last := distinct_append_distinct_append (bareNonempty a ++ bareNonempty b) (bareNonempty c) []
  rw [List.append_nil, List.append_nil] at last
  rw [normalize_of_noBlank free_parts]
  simp only [bareNonempty_append, bareNonempty_normalize free_b, bareNonempty_normalize free_c]
  rw [distinct_append_distinct_append, last]

/-- The tags that come from some written ones: distinct and, unless there are blanks to trim, the
nonempty bare ones in the order in which they come first. -/
structure Collected (written tags : List String) : Prop where
  nodup : tags.Nodup
  first_occurrences : (∀ tag ∈ written, NoBlank tag) → tags = (bareNonempty written).eraseDups

theorem collected_normalize (a b c : List String) :
    Collected (a ++ b ++ c) (normalize (a ++ normalize b ++ normalize c)) where
  nodup := distinct_nodup _
  first_occurrences free := by rw [normalize_parts free, distinct_eq_eraseDups]

end Tags

end LoadScript
