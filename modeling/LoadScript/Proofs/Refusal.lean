import Mathlib.Data.List.Forall2

set_option autoImplicit false

namespace LoadScript

variable {α β ε : Type} (f : α → Except ε β)

theorem mapM_cases (l : List α) :
    (∃ out, l.mapM f = .ok out ∧ l.map f = out.map Except.ok) ∨
      ∃ before a after e, l = before ++ a :: after ∧ (∀ x ∈ before, ∃ b, f x = .ok b) ∧
        f a = .error e ∧ l.mapM f = .error e := by
  induction l with
  | nil => exact .inl ⟨[], rfl, rfl⟩
  | cons a l ih =>
    rw [List.mapM_cons, List.map_cons]
    cases first : f a with
    | error e => exact .inr ⟨[], a, l, e, rfl, by simp, first, rfl⟩
    | ok b =>
      obtain ⟨out, accepted, values⟩ | ⟨before, x, after, e, split, accepted, refused, result⟩ := ih
      · refine .inl ⟨b :: out, ?_, by rw [values, List.map_cons]⟩
        rw [accepted]
        rfl
      · refine .inr ⟨a :: before, x, after, e, by rw [split, List.cons_append], ?_, refused, ?_⟩
        · exact List.forall_mem_cons.2 ⟨⟨b, first⟩, accepted⟩
        · rw [result]
          rfl

theorem forall₂_iff_map_eq {l : List α} {out : List β} :
    List.Forall₂ (fun a b => f a = .ok b) l out ↔ l.map f = out.map Except.ok := by
  rw [← List.forall₂_eq_eq_eq, List.forall₂_map_left_iff, List.forall₂_map_right_iff]

theorem mapM_of_map_eq {l : List α} {out : List β} (h : l.map f = out.map Except.ok) :
    l.mapM f = .ok out := by
  induction l generalizing out with
  | nil =>
    obtain rfl : out = [] := by simpa using h.symm
    rfl
  | cons a l ih =>
    cases out with
    | nil => simp at h
    | cons b out =>
      rw [List.map_cons, List.map_cons, List.cons.injEq] at h
      rw [List.mapM_cons, h.1, ih h.2]
      rfl

theorem mapM_eq_ok_iff {l : List α} {out : List β} :
    l.mapM f = .ok out ↔ List.Forall₂ (fun a b => f a = .ok b) l out := by
  rw [forall₂_iff_map_eq]
  refine ⟨fun h => ?_, mapM_of_map_eq f⟩
  obtain ⟨values, accepted, same⟩ | ⟨_, _, _, _, -, -, -, refused⟩ := mapM_cases f l
  · rw [accepted] at h
    cases h
    exact same
  · rw [refused] at h
    cases h

theorem mapM_of_refused {before after : List α} {a : α} {e : ε}
    (accepted : ∀ x ∈ before, ∃ b, f x = .ok b) (refused : f a = .error e) :
    (before ++ a :: after).mapM f = .error e := by
  induction before with
  | nil =>
    rw [List.nil_append, List.mapM_cons, refused]
    rfl
  | cons x before ih =>
    rw [List.forall_mem_cons] at accepted
    obtain ⟨b, first⟩ := accepted.1
    rw [List.cons_append, List.mapM_cons, first, ih accepted.2]
    rfl

theorem mapM_eq_error_iff {l : List α} {e : ε} :
    l.mapM f = .error e ↔ ∃ before a after, l = before ++ a :: after ∧
      (∀ x ∈ before, ∃ b, f x = .ok b) ∧ f a = .error e := by
  constructor
  · intro h
    obtain ⟨values, accepted, -⟩ | ⟨before, a, after, d, split, accepted, refused, result⟩ :=
      mapM_cases f l
    · rw [accepted] at h
      cases h
    · rw [result] at h
      cases h
      exact ⟨before, a, after, split, accepted, refused⟩
  · rintro ⟨before, a, after, rfl, accepted, refused⟩
    exact mapM_of_refused f accepted refused

end LoadScript
