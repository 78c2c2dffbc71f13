import LoadScript.Text.Blank
import Mathlib.Data.List.TakeWhile

set_option autoImplicit false

namespace LoadScript

namespace Chars

theorem trim_of_no_blank {s : List Char} (free : ∀ c ∈ s, isBlank c = false) : trim s = s := by
  have keep {l : List Char} (h : ∀ c ∈ l, isBlank c = false) : l.dropWhile isBlank = l := by
    rw [List.dropWhile_eq_self_iff]
    intro _
    rw [h _ (List.getElem_mem _)]
    decide
  unfold trim trimStart trimEnd dropEndWhile
  rw [keep free, keep (fun c hc => free c (List.mem_reverse.1 hc)), List.reverse_reverse]

theorem trim_eq_nil_iff (s : List Char) : trim s = [] ↔ ∀ c ∈ s, isBlank c = true := by
  rw [← List.dropWhile_eq_nil_iff]
  unfold trim trimStart trimEnd dropEndWhile
  rw [List.reverse_eq_nil_iff, List.dropWhile_eq_nil_iff]
  constructor
  · intro blank
    by_contra left
    have head := List.head_dropWhile_not isBlank left
    rw [blank _ (List.mem_reverse.2 (List.head_mem left))] at head
    cases head
  · intro empty
    simp [empty]

theorem exists_blanks_around (s : List Char) : ∃ lead trail,
    lead.all isBlank = true ∧ trail.all isBlank = true ∧ s = lead ++ trim s ++ trail := by
  have start : s = s.takeWhile isBlank ++ trimStart s := List.takeWhile_append_dropWhile.symm
  have ending : trimStart s = trim s ++ ((trimStart s).reverse.takeWhile isBlank).reverse := by
    have parts := congrArg List.reverse
      (List.takeWhile_append_dropWhile (p := isBlank) (l := (trimStart s).reverse))
    rw [List.reverse_append, List.reverse_reverse] at parts
    exact parts.symm
  refine ⟨s.takeWhile isBlank, ((trimStart s).reverse.takeWhile isBlank).reverse,
    List.all_takeWhile, ?_, ?_⟩
  · rw [List.all_reverse]
    exact List.all_takeWhile
  · rw [List.append_assoc, ← ending]
    exact start

theorem dropWhile_before {p : Char → Bool} {lead body : List Char} (drop : lead.all p = true)
    (first : ∀ c, body.head? = some c → p c = false) : (lead ++ body).dropWhile p = body := by
  rw [List.dropWhile_append_of_pos (List.all_eq_true.1 drop)]
  cases body with
  | nil => rfl
  | cons c rest => rw [List.dropWhile_cons_of_neg (by simp [first c rfl])]

theorem takeWhile_of_head? {p : Char → Bool} {lead body : List Char} (take : lead.all p = true)
    (first : ∀ c, body.head? = some c → p c = false) : (lead ++ body).takeWhile p = lead := by
  have parts := List.takeWhile_append_dropWhile (p := p) (l := lead ++ body)
  rw [dropWhile_before take first] at parts
  exact List.append_cancel_right parts

theorem takeWhile_before {p : Char → Bool} {lead : List Char} {c : Char}
    (take : ∀ x ∈ lead, p x = true) (stop : p c = false) (rest : List Char) :
    (lead ++ c :: rest).takeWhile p = lead := by
  rw [List.takeWhile_append_of_pos take, List.takeWhile_cons_of_neg (by simp [stop]),
    List.append_nil]

theorem not_of_head?_dropWhile {p : Char → Bool} {s : List Char} {c : Char}
    (first : (s.dropWhile p).head? = some c) : p c = false := by
  have stops := List.head?_dropWhile_not p s
  rw [first] at stops
  exact stops

theorem dropEndWhile_cons {p : Char → Bool} {c : Char} (kept : p c = false) (s : List Char) :
    dropEndWhile p (c :: s) = c :: dropEndWhile p s := by
  unfold dropEndWhile
  rw [List.reverse_cons, List.dropWhile_append]
  cases left : (s.reverse.dropWhile p).isEmpty with
  | true => simp [List.isEmpty_iff.1 left, kept]
  | false => simp

theorem dropEndWhile_append {p : Char → Bool} {s : List Char} (kept : s.all p = false)
    (front : List Char) : dropEndWhile p (front ++ s) = front ++ dropEndWhile p s := by
  have left : (s.reverse.dropWhile p).isEmpty = false := by
    rw [Bool.eq_false_iff, ne_eq, List.isEmpty_iff, List.dropWhile_eq_nil_iff]
    intro all
    have every : s.all p = true := List.all_eq_true.2 fun c h => all c (List.mem_reverse.2 h)
    rw [kept] at every
    cases every
  unfold dropEndWhile
  rw [List.reverse_append, List.dropWhile_append, left, if_neg Bool.false_ne_true,
    List.reverse_append, List.reverse_reverse]

theorem dropEndWhile_dropWhile_between {p : Char → Bool} {lead body trail : List Char}
    (drop : lead.all p = true) (dropEnd : trail.all p = true)
    (first : ∀ c, body.head? = some c → p c = false)
    (last : ∀ c, body.getLast? = some c → p c = false) :
    dropEndWhile p ((lead ++ body ++ trail).dropWhile p) = body := by
  cases body with
  | nil =>
    have all : ∀ c ∈ lead ++ [] ++ trail, p c = true := by
      rw [List.append_nil, ← List.all_eq_true, List.all_append, drop, dropEnd]
      rfl
    rw [List.dropWhile_eq_nil_iff.2 all]
    rfl
  | cons c rest =>
    have start : (lead ++ (c :: rest ++ trail)).dropWhile p = c :: rest ++ trail :=
      dropWhile_before drop first
    rw [List.append_assoc, start, dropEndWhile, List.reverse_append,
      dropWhile_before (by rwa [List.all_reverse]) (by rwa [List.head?_reverse]),
      List.reverse_reverse]

theorem trim_between {lead body trail : List Char} (blank : lead.all isBlank = true)
    (blankEnd : trail.all isBlank = true) {c d : Char} (first : body.head? = some c)
    (visible : isBlank c = false) (last : body.getLast? = some d)
    (visibleEnd : isBlank d = false) : trim (lead ++ body ++ trail) = body := by
  refine dropEndWhile_dropWhile_between blank blankEnd ?_ ?_
  · intro e head
    rw [first] at head
    exact Option.some.inj head ▸ visible
  · intro e ending
    rw [last] at ending
    exact Option.some.inj ending ▸ visibleEnd

theorem trim_eq_self {s : List Char} (first : ∀ c, s.head? = some c → isBlank c = false)
    (last : ∀ c, s.getLast? = some c → isBlank c = false) : trim s = s := by
  have between := @dropEndWhile_dropWhile_between isBlank [] s [] rfl rfl first last
  rwa [List.nil_append, List.append_nil] at between

theorem visible_of_head?_trim {s : List Char} {c : Char} (first : (trim s).head? = some c) :
    isBlank c = false := by
  have front : trim s <+: trimStart s := by
    rw [← List.reverse_suffix, trim, trimEnd, dropEndWhile, List.reverse_reverse]
    exact List.dropWhile_suffix isBlank
  obtain ⟨trail, start⟩ := front
  have first_start : (trimStart s).head? = some c := by
    rw [← start, List.head?_append, first, Option.some_or]
  exact not_of_head?_dropWhile first_start

theorem visible_of_getLast?_trim {s : List Char} {c : Char} (last : (trim s).getLast? = some c) :
    isBlank c = false := by
  rw [trim, trimEnd, dropEndWhile, List.getLast?_reverse] at last
  exact not_of_head?_dropWhile last

end Chars

namespace Text

theorem trim_eq_empty_iff (s : String) : trim s = "" ↔ isBlank s = true := by
  rw [trim, isBlank, Chars.allBlank, List.all_eq_true, ← Chars.trim_eq_nil_iff]
  exact String.ofList_eq_empty_iff

end Text

end LoadScript
