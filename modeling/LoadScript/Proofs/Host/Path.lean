import LoadScript.Host.Path

set_option autoImplicit false

namespace LoadScript.Path

/-! ## Pieces -/

theorem pieces_eq_splitOn (s : List Char) : pieces s = s.splitOn '/' := by
  induction s with
  | nil => rfl
  | cons c s ih =>
    rw [List.splitOn_cons_eq_if_modifyHead, ← ih]
    by_cases slash : c = '/'
    · subst slash
      rfl
    · rw [pieces.eq_def]
      split
      · rename_i h
        cases h
      · rename_i h
        cases h
        exact absurd rfl slash
      · rename_i h
        cases h
        rw [if_neg (by simpa using slash)]
        split <;> rename_i h <;> rw [h]
        · rw [ih] at h
          exact absurd h (List.splitOn_ne_nil _ _)
        · rfl

theorem split_ne_nil (s : String) : split s ≠ [] := by
  rw [split, pieces_eq_splitOn, Ne, List.map_eq_nil_iff]
  exact List.splitOn_ne_nil _ _

theorem split_slash (s t : String) : split (s ++ "/" ++ t) = split s ++ split t := by
  unfold split
  rw [String.toList_append, String.toList_append, List.append_assoc, ← List.map_append]
  simp only [pieces_eq_splitOn]
  exact congrArg _ (List.splitOn_append_cons_self _ _)

theorem split_of_no_slash {s : String} (h : '/' ∉ s.toList) : split s = [s] := by
  rw [split, pieces_eq_splitOn, List.splitOn_eq_singleton h, List.map_singleton,
    String.ofList_toList]

theorem no_slash_of_mem_pieces {s piece : List Char} (h : piece ∈ pieces s) : '/' ∉ piece := by
  rw [pieces_eq_splitOn] at h
  induction s generalizing piece with
  | nil => simp_all
  | cons c s ih =>
    rw [List.splitOn_cons_eq_if_modifyHead] at h
    by_cases slash : c = '/'
    · rw [if_pos (by simpa using slash)] at h
      obtain rfl | mem := List.mem_cons.1 h
      · exact List.not_mem_nil
      · exact ih mem
    · rw [if_neg (by simpa using slash)] at h
      cases hs : s.splitOn '/' with
      | nil => simp [hs] at h
      | cons first more =>
        rw [hs, List.modifyHead_cons] at h
        obtain rfl | mem := List.mem_cons.1 h
        · have inside : '/' ∉ first := ih (by rw [hs]; exact List.mem_cons_self)
          simp [inside, Ne.symm slash]
        · exact ih (by rw [hs]; exact List.mem_cons_of_mem _ mem)

theorem no_slash_of_mem_split {s piece : String} (h : piece ∈ split s) : '/' ∉ piece.toList := by
  obtain ⟨chars, mem, rfl⟩ := List.mem_map.1 h
  rw [String.toList_ofList]
  exact no_slash_of_mem_pieces mem

theorem split_intercalate {ps : List String} (nonempty : ps ≠ [])
    (h : ∀ piece ∈ ps, '/' ∉ piece.toList) : split ("/".intercalate ps) = ps := by
  have back : (['/'].intercalate (ps.map String.toList)).splitOn '/' = ps.map String.toList :=
    List.splitOn_intercalate '/' (by simpa using h) (by simpa using nonempty)
  rw [split, pieces_eq_splitOn, String.toList_intercalate]
  simp [back]

theorem intercalate_split (s : String) : "/".intercalate (split s) = s := by
  have back : ['/'].intercalate (pieces s.toList) = s.toList := by
    rw [pieces_eq_splitOn, List.intercalate_splitOn]
  rw [← String.toList_inj, String.toList_intercalate, split, List.map_map]
  simpa using back

theorem isAbsolute_iff {path : String} :
    isAbsolute path = true ↔ ∃ piece more, split path = "" :: piece :: more := by
  unfold isAbsolute split
  cases path.toList with
  | nil => simp [pieces]
  | cons c s =>
    rw [pieces_eq_splitOn, List.splitOn_cons_eq_if_modifyHead]
    obtain ⟨first, more, hs⟩ := List.exists_cons_of_ne_nil (List.splitOn_ne_nil '/' s)
    by_cases slash : c = '/'
    · simp [slash, hs]
    · simp [slash, hs]

/-! ## Names -/

theorem isName_of_length {n : String} (no_slash : '/' ∉ n.toList) (long : 2 < n.toList.length) :
    IsName n := by
  have longer (s : String) (short : s.toList.length ≤ 2) : n ≠ s := by
    rintro rfl
    omega
  exact ⟨no_slash, longer "" (by decide), longer "." (by decide), longer ".." (by decide)⟩

theorem isAbsolute_append {s : String} (nonempty : s ≠ "") (t : String) :
    isAbsolute (s ++ t) = isAbsolute s := by
  obtain ⟨c, rest, chars⟩ := List.exists_cons_of_ne_nil (show s.toList ≠ [] by simpa using nonempty)
  simp [isAbsolute, chars]

/-! ## Pieces that count -/

def counted (ps : List String) : List String :=
  (ps.zipIdx.reverse.dropWhile (!counts ·)).reverse.map (·.1)

theorem exists_idle (ps : List String) :
    ∃ skipped, ps = counted ps ++ skipped ∧ ∀ piece ∈ skipped, piece = "" ∨ piece = "." := by
  have parts := List.takeWhile_append_dropWhile (p := fun x => !counts x) (l := ps.zipIdx.reverse)
  refine ⟨(ps.zipIdx.reverse.takeWhile (!counts ·)).reverse.map (·.1), ?_, ?_⟩
  · rw [counted, ← List.map_append, ← List.reverse_append, parts, List.reverse_reverse]
    simp
  · intro piece mem
    obtain ⟨⟨piece, index⟩, hx, rfl⟩ := List.mem_map.1 mem
    have uncounted := List.all_eq_true.1 List.all_takeWhile _ (List.mem_reverse.1 hx)
    by_cases empty : piece = ""
    · exact .inl empty
    · by_cases dot : piece = "."
      · exact .inr dot
      · simp [counts, empty, dot] at uncounted

theorem counted_cases (ps : List String) :
    counted ps = [] ∨ ∃ init last, counted ps = init ++ [last] ∧ last ≠ "" := by
  unfold counted
  have first := List.head?_dropWhile_not (!counts ·) ps.zipIdx.reverse
  cases rest : ps.zipIdx.reverse.dropWhile (!counts ·) with
  | nil => exact .inl rfl
  | cons top others =>
    refine .inr ⟨others.reverse.map (·.1), top.1, by simp, fun empty => ?_⟩
    rw [rest] at first
    simp [counts, empty] at first

section Join

variable {n : String} (h : IsName n)

include h

theorem IsName.isAbsolute_eq_false : isAbsolute n = false := by
  rw [Bool.eq_false_iff]
  intro absolute
  obtain ⟨piece, more, parts⟩ := isAbsolute_iff.1 absolute
  rw [split_of_no_slash h.no_slash] at parts
  simp at parts

theorem join_cases (d : String) : d = "" ∧ join d n = n ∨
    (∃ e, d = e ++ "/" ∧ join d n = e ++ "/" ++ n) ∨ d ≠ "" ∧ join d n = d ++ "/" ++ n := by
  unfold join
  rw [h.isAbsolute_eq_false]
  by_cases empty : d = ""
  · exact .inl ⟨empty, by simp [empty]⟩
  · by_cases slash : d.toList.getLast? = some '/'
    · obtain ⟨chars, hchars⟩ := List.getLast?_eq_some_iff.1 slash
      have ends : d = String.ofList chars ++ "/" := by
        rw [← String.toList_inj, hchars, String.toList_append, String.toList_ofList]
        rfl
      refine .inr (.inl ⟨String.ofList chars, ends, ?_⟩)
      rw [← ends]
      simp [empty, slash]
    · exact .inr (.inr ⟨empty, by simp [empty, slash]⟩)

theorem isAbsolute_join (d : String) : isAbsolute (join d n) = isAbsolute d := by
  obtain ⟨rfl, joined⟩ | ⟨e, rfl, joined⟩ | ⟨nonempty, joined⟩ := join_cases h d
  · rw [joined, h.isAbsolute_eq_false]
    rfl
  · rw [joined]
    exact isAbsolute_append (by simp) n
  · rw [joined, String.append_assoc]
    exact isAbsolute_append nonempty _

theorem split_join (d : String) : ∃ kept skipped, split (join d n) = kept ++ [n] ∧
    split d = kept ++ skipped ∧ ∀ piece ∈ skipped, piece = "" := by
  have name := split_of_no_slash h.no_slash
  have empty : split "" = [""] := split_of_no_slash (by simp)
  obtain ⟨rfl, joined⟩ | ⟨e, rfl, joined⟩ | ⟨-, joined⟩ := join_cases h d
  · exact ⟨[], [""], by rw [joined, name, List.nil_append], empty, by simp⟩
  · refine ⟨split e, [""], by rw [joined, split_slash, name], ?_, by simp⟩
    rw [← empty, ← split_slash, String.append_empty]
  · exact ⟨split d, [], by rw [joined, split_slash, name], by simp, by simp⟩

theorem components_join (d : String) : components (join d n) = components d ++ [n] := by
  obtain ⟨kept, skipped, joined, dirs, empty⟩ := split_join h d
  have idle : ∀ piece ∈ skipped, ¬ piece = "" → piece = "." :=
    fun piece mem visible => absurd (empty piece mem) visible
  unfold components
  rw [joined, dirs]
  cases kept with
  | nil =>
    rw [List.nil_append] at dirs
    obtain ⟨first, rest, rfl⟩ := List.exists_cons_of_ne_nil (dirs ▸ split_ne_nil d)
    rw [List.forall_mem_cons] at empty idle
    simpa [empty.1, h.ne_empty] using idle.2
  | cons first rest => simpa [h.ne_empty, h.ne_dot] using idle

section Split

variable {path : String} {before : List String} (hs : split path = before ++ [n])

include hs

theorem parent?_eq : parent? path = some (
    if counted before = [] then (if isAbsolute path then "/" else "")
    else "/".intercalate (counted before)) := by
  have reversed : (split path).zipIdx.reverse.dropWhile (!counts ·) =
      (n, before.length) :: before.zipIdx.reverse := by
    have name : counts (n, before.length) = true := by simp [counts, h.ne_empty, h.ne_dot]
    simp [hs, List.zipIdx_append, name]
  unfold parent? counted
  rw [reversed]
  dsimp only
  cases before.zipIdx.reverse.dropWhile (!counts ·) with
  | nil => rfl
  | cons top others => simp

theorem parent?_of_split :
    ∃ e kept skipped more, parent? path = some e ∧ isAbsolute e = isAbsolute path ∧
      before = kept ++ skipped ∧ split e = kept ++ more ∧
      (∀ piece ∈ skipped, piece = "" ∨ piece = ".") ∧ ∀ piece ∈ more, piece = "" := by
  obtain ⟨skipped, whole, idle⟩ := exists_idle before
  rw [parent?_eq h hs]
  obtain none_counts | ⟨init, last, pieces, visible⟩ := counted_cases before
  · rw [none_counts] at whole
    rw [if_pos none_counts]
    cases absolute : isAbsolute path with
    | true => exact ⟨"/", [], skipped, ["", ""], rfl, rfl, whole, by decide, idle, by simp⟩
    | false => exact ⟨"", [], skipped, [""], rfl, rfl, whole, by decide, idle, by simp⟩
  · have some_counts : counted before ≠ [] := by simp [pieces]
    have all : split path = counted before ++ skipped ++ [n] := by rw [hs, ← whole]
    have kept : split ("/".intercalate (counted before)) = counted before := by
      refine split_intercalate some_counts fun piece mem => no_slash_of_mem_split (s := path) ?_
      rw [all]
      exact List.mem_append_left _ (List.mem_append_left _ mem)
    rw [if_neg some_counts]
    refine ⟨_, counted before, skipped, [], rfl, ?_, whole, by rw [kept, List.append_nil], idle,
      by simp⟩
    rw [Bool.eq_iff_iff, isAbsolute_iff, isAbsolute_iff, kept, all, pieces]
    -- The last of these pieces is not empty, so an empty first piece is followed by another.
    cases init with
    | nil => simp [visible]
    | cons first more => cases more <;> simp

theorem exists_join : ∃ d, path = join d n := by
  have whole := intercalate_split path
  rw [hs] at whole
  by_cases alone : before = []
  · refine ⟨"", ?_⟩
    rw [alone, List.nil_append, String.intercalate_singleton] at whole
    simp [join, whole]
  · refine ⟨"/".intercalate before ++ "/", ?_⟩
    rw [String.intercalate_append_of_ne_nil alone (List.cons_ne_nil _ _),
      String.intercalate_singleton] at whole
    rw [← whole]
    simp [join, h.isAbsolute_eq_false]

theorem fileName?_of_split : fileName? path = some n := by
  have last : (components path).getLast? = some n := by
    unfold components
    rw [hs]
    cases before with
    | nil => simp [h.ne_empty]
    | cons first rest => simp [h.ne_empty, h.ne_dot]
  rw [fileName?, last]
  simp [h.ne_dot, h.ne_dots]

end Split

theorem fileName?_join (d : String) : fileName? (join d n) = some n := by
  obtain ⟨_, _, joined, -⟩ := split_join h d
  exact fileName?_of_split h joined

end Join

end LoadScript.Path
