import LoadScript.Proofs.Text.Blank
import LoadScript.Proofs.Text.Case
import LoadScript.Text.Slug

set_option autoImplicit false

namespace LoadScript

namespace Chars

/-! ## Words -/

/-- The maximal runs of letters and numbers: what stands between other characters and is not
empty. -/
def words (s : List Char) : List (List Char) :=
  (s.splitOnP fun c => !isAlphanumeric c).filter fun piece => !piece.isEmpty

/-- A run of letters and numbers. -/
structure IsWord (w : List Char) : Prop where
  ne_nil : w ≠ []
  alphanumeric : ∀ c ∈ w, isAlphanumeric c = true

theorem hyphen_not_alphanumeric : isAlphanumeric '-' = false := by decide +kernel

theorem IsWord.no_hyphen {w : List Char} (word : IsWord w) : '-' ∉ w := by
  intro mem
  have alphanumeric := word.alphanumeric _ mem
  rw [hyphen_not_alphanumeric] at alphanumeric
  cases alphanumeric

theorem IsWord.concat {w : List Char} (word : IsWord w) {c : Char}
    (alphanumeric : isAlphanumeric c = true) : IsWord (w ++ [c]) where
  ne_nil := by simp
  alphanumeric := by
    intro d mem
    obtain old | new := List.mem_append.1 mem
    · exact word.alphanumeric d old
    · exact List.mem_singleton.1 new ▸ alphanumeric

theorem flatten_splitOnP (p : Char → Bool) (s : List Char) :
    (s.splitOnP p).flatten = s.filter fun c => !p c := by
  induction s with
  | nil => rfl
  | cons c s ih =>
    rw [List.splitOnP_cons_eq_if_modifyHead]
    cases stop : p c with
    | true => simp [stop, ih]
    | false =>
      obtain ⟨piece, more, pieces⟩ := List.exists_cons_of_ne_nil (List.splitOnP_ne_nil p s)
      rw [pieces, List.flatten_cons] at ih
      simp [stop, pieces, ih]

theorem flatten_words (s : List Char) : (words s).flatten = s.filter isAlphanumeric := by
  rw [words, List.flatten_filter_not_isEmpty, flatten_splitOnP]
  simp only [Bool.not_not]

theorem mem_of_mem_words {s w : List Char} (h : w ∈ words s) {c : Char} (hc : c ∈ w) :
    c ∈ s ∧ isAlphanumeric c = true := by
  rw [← List.mem_filter, ← flatten_words]
  exact List.mem_flatten_of_mem h hc

theorem isWord_of_mem_words {s w : List Char} (h : w ∈ words s) : IsWord w where
  ne_nil := by simpa using (List.mem_filter.1 h).2
  alphanumeric _ hc := (mem_of_mem_words h hc).2

theorem words_append_gap {c : Char} (other : isAlphanumeric c = false) (s t : List Char) :
    words (s ++ c :: t) = words s ++ words t := by
  rw [words, List.splitOnP_append_cons s t (by simp [other]), List.filter_append]
  rfl

theorem words_gap {c : Char} (other : isAlphanumeric c = false) (s : List Char) :
    words (c :: s) = words s := words_append_gap other [] s

theorem IsWord.words_eq {w : List Char} (word : IsWord w) : words w = [w] := by
  rw [words, List.splitOnP_eq_singleton (by simpa using word.alphanumeric)]
  simpa using word.ne_nil

theorem words_eq_nil_iff (s : List Char) :
    words s = [] ↔ ∀ c ∈ s, isAlphanumeric c = false := by
  have nothing : words s = [] ↔ (words s).flatten = [] := by
    rw [List.flatten_eq_nil_iff, List.eq_nil_iff_forall_not_mem]
    exact forall₂_congr fun w mem => by simp [(isWord_of_mem_words mem).ne_nil]
  rw [nothing, flatten_words, List.filter_eq_nil_iff]
  simp

/-! ## Words joined by hyphens -/

def hyphenated (ws : List (List Char)) : List Char := ['-'].intercalate ws

theorem hyphenated_cons {w : List Char} {ws : List (List Char)} (more : ws ≠ []) :
    hyphenated (w :: ws) = w ++ '-' :: hyphenated ws := by
  obtain ⟨v, vs, rfl⟩ := List.exists_cons_of_ne_nil more
  rw [hyphenated, List.intercalate_cons_cons, List.append_assoc]
  rfl

theorem mem_hyphenated {c : Char} {ws : List (List Char)} (h : c ∈ hyphenated ws) :
    c = '-' ∨ ∃ w ∈ ws, c ∈ w := by
  induction ws with
  | nil => cases h
  | cons w ws ih =>
    by_cases last : ws = []
    · rw [last, hyphenated, List.intercalate_singleton] at h
      exact .inr ⟨w, List.mem_cons_self, h⟩
    · rw [hyphenated_cons last, List.mem_append, List.mem_cons] at h
      obtain here | hyphen | later := h
      · exact .inr ⟨w, List.mem_cons_self, here⟩
      · exact .inl hyphen
      · obtain hyphen | ⟨v, mem, hc⟩ := ih later
        · exact .inl hyphen
        · exact .inr ⟨v, List.mem_cons_of_mem _ mem, hc⟩

section Hyphenated

variable {ws : List (List Char)} (all : ∀ w ∈ ws, IsWord w)

include all

theorem words_hyphenated : words (hyphenated ws) = ws := by
  induction ws with
  | nil => rfl
  | cons w ws ih =>
    rw [List.forall_mem_cons] at all
    by_cases last : ws = []
    · rw [last, hyphenated, List.intercalate_singleton, all.1.words_eq]
    · rw [hyphenated_cons last, words_append_gap hyphen_not_alphanumeric, all.1.words_eq, ih all.2,
        List.singleton_append]

/-- A hyphen stands between two words, so that cutting there leaves no empty piece. -/
theorem nil_not_mem_splitOn_hyphenated (some_word : ws ≠ []) :
    [] ∉ (hyphenated ws).splitOn '-' := by
  rw [hyphenated, List.splitOn_intercalate '-' (fun w mem => (all w mem).no_hyphen) some_word]
  exact fun mem => (all [] mem).ne_nil rfl

theorem hyphenated_hyphens : (hyphenated ws).head? ≠ some '-' ∧
    (hyphenated ws).getLast? ≠ some '-' ∧ ¬ ['-', '-'] <:+: hyphenated ws := by
  by_cases none : ws = []
  · simp [none, hyphenated]
  have inside := nil_not_mem_splitOn_hyphenated all none
  refine ⟨?_, ?_, ?_⟩
  · intro first
    obtain ⟨rest, text⟩ := List.head?_eq_some_iff.1 first
    rw [text] at inside
    exact inside (by simp [List.splitOn_cons_eq_if_modifyHead])
  · intro last
    obtain ⟨init, text⟩ := List.getLast?_eq_some_iff.1 last
    rw [text, List.splitOn_append_cons_self] at inside
    exact inside (by simp)
  · rintro ⟨init, rest, text⟩
    have parted : hyphenated ws = init ++ '-' :: ('-' :: rest) := by rw [← text]; simp
    rw [parted, List.splitOn_append_cons_self] at inside
    exact inside (by simp [List.splitOn_cons_eq_if_modifyHead])

end Hyphenated

/-! ## What hyphenating gives -/

def Joins (t : List Char) (ws : List (List Char)) : Prop :=
  ∃ trail, trail.all (· == '-') = true ∧ t = hyphenated ws ++ trail

theorem Joins.cons {t : List Char} {ws : List (List Char)} (h : Joins t ws) (w : List Char) :
    Joins (w ++ '-' :: t) (w :: ws) := by
  obtain ⟨trail, hyphens, rfl⟩ := h
  by_cases last : ws = []
  · refine ⟨'-' :: trail, by simpa using hyphens, ?_⟩
    rw [last, hyphenated, hyphenated, List.intercalate_singleton, List.intercalate_nil]
    rfl
  · refine ⟨trail, hyphens, ?_⟩
    rw [hyphenated_cons last, List.append_assoc, List.cons_append]

theorem hyphenate_joins (s : List Char) : Joins (hyphenate true s) (words s) ∧
    ∀ w, IsWord w → Joins (w ++ hyphenate false s) (words (w ++ s)) := by
  -- Both are needed at once: a letter after a gap begins a word, and a gap after a word ends it.
  induction s with
  | nil =>
    refine ⟨⟨[], rfl, rfl⟩, fun w word => ⟨[], rfl, ?_⟩⟩
    rw [hyphenate, List.append_nil, word.words_eq, hyphenated, List.intercalate_singleton,
      List.append_nil]
  | cons c s ih =>
    obtain ⟨after_gap, after_word⟩ := ih
    cases alphanumeric : isAlphanumeric c with
    | true =>
      have grown (inGap : Bool) : hyphenate inGap (c :: s) = c :: hyphenate false s := by
        rw [hyphenate, if_pos alphanumeric]
      refine ⟨?_, fun w word => ?_⟩
      · rw [grown]
        exact after_word [c] ⟨List.cons_ne_nil c [], by simpa using alphanumeric⟩
      · rw [grown, List.append_cons w c (hyphenate false s), List.append_cons w c s]
        exact after_word (w ++ [c]) (word.concat alphanumeric)
    | false =>
      refine ⟨?_, fun w word => ?_⟩
      · rw [hyphenate, if_neg (by simp [alphanumeric]), if_pos rfl, words_gap alphanumeric]
        exact after_gap
      · rw [hyphenate, if_neg (by simp [alphanumeric]), if_neg Bool.false_ne_true,
          words_append_gap alphanumeric, word.words_eq]
        exact after_gap.cons w

theorem hyphenate_false_cases (s : List Char) : hyphenate false s = hyphenate true s ∨
    hyphenate false s = '-' :: hyphenate true s := by
  cases s with
  | nil => exact .inl rfl
  | cons c s =>
    cases alphanumeric : isAlphanumeric c with
    | true => exact .inl (by rw [hyphenate, hyphenate, if_pos alphanumeric, if_pos alphanumeric])
    | false => exact .inr (by simp [hyphenate, alphanumeric])

/-! ## Slugs -/

theorem slug_eq (s : List Char) : slug s = hyphenated (words (lower s)) := by
  obtain ⟨trail, hyphens, joined⟩ := (hyphenate_joins (lower s)).1
  obtain ⟨first, last, -⟩ :=
    hyphenated_hyphens fun w (mem : w ∈ words (lower s)) => isWord_of_mem_words mem
  have trimmed (lead : List Char) (hyphensBefore : lead.all (· == '-') = true) :
      trimHyphens (lead ++ hyphenated (words (lower s)) ++ trail) =
        hyphenated (words (lower s)) := by
    refine dropEndWhile_dropWhile_between hyphensBefore hyphens ?_ ?_
    · intro c head
      exact beq_eq_false_iff_ne.2 fun hyphen => first (hyphen ▸ head)
    · intro c ending
      exact beq_eq_false_iff_ne.2 fun hyphen => last (hyphen ▸ ending)
  obtain same | more := hyphenate_false_cases (lower s)
  · rw [slug, same, joined]
    exact trimmed [] rfl
  · rw [slug, more, joined]
    exact trimmed ['-'] rfl

/-- The words of a text can be read off its slug. -/
theorem words_slug (s : List Char) : words (slug s) = words (lower s) := by
  rw [slug_eq, words_hyphenated fun w mem => isWord_of_mem_words mem]

theorem mem_slug {c : Char} {s : List Char} (h : c ∈ slug s) :
    c = '-' ∨ c ∈ lower s ∧ isAlphanumeric c = true := by
  rw [slug_eq] at h
  obtain hyphen | ⟨w, mem, hc⟩ := mem_hyphenated h
  · exact .inl hyphen
  · exact .inr (mem_of_mem_words mem hc)

theorem lower_slug (s : List Char) : lower (slug s) = slug s := by
  refine lowerFrom_of_isLow (fun c hc => ?_) []
  obtain rfl | ⟨mem, -⟩ := mem_slug hc
  · exact isLow_of_le (by decide)
  · exact isLow_of_mem_lowerFrom mem

theorem slug_slug (s : List Char) : slug (slug s) = slug s := by
  rw [slug_eq (slug s), lower_slug, words_slug, ← slug_eq]

theorem slug_eq_nil_iff (s : List Char) :
    slug s = [] ↔ ∀ c ∈ lower s, isAlphanumeric c = false := by
  rw [← words_eq_nil_iff, ← words_slug]
  constructor
  · intro empty
    rw [empty]
    rfl
  · intro none
    rw [words_slug] at none
    rw [slug_eq, none]
    rfl

end Chars

end LoadScript
