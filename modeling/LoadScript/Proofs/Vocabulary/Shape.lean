import LoadScript.Proofs.Text.Case
import LoadScript.Vocabulary.Pattern

/-!
# The texts of a pattern

A shape says which texts a pattern covers, and forgets what is captured and what is preferred. A
shape is read character by character: `heads` gives the sets that the first character can be from,
each with the shape of the rest. Two shapes are apart when reading both at the same time never gets
to an end of both; this can be decided by following the pairs of shapes that have a character in
common.
-/

set_option autoImplicit false

namespace LoadScript

/-- The characters that may stand at one place of a text. -/
inductive CharSet where
  | like (c : Char)
  | among (chars : List Char)
  | ofClass (cls : CharClass)
  deriving DecidableEq, Repr

namespace CharSet

def holds : CharSet → Char → Bool
  | .like c, d => Chars.fold c = Chars.fold d
  | .among chars, d => chars.contains d
  | .ofClass cls, d => cls.holds d

/-- Whether two sets may have a character in common. -/
def meets : CharSet → CharSet → Bool
  | .like c, .like d => c == d || Chars.fold c == Chars.fold d
  | .like c, .ofClass .digit => Chars.isDecimalDigit (Chars.fold c)
  | .ofClass .digit, .like c => Chars.isDecimalDigit (Chars.fold c)
  | _, _ => true

theorem digits_apart_from_rows : ∀ range ∈ Chars.digitRanges,
    ∀ row ∈ Chars.foldRows ++ Chars.lowerRows, range.2 < row.first ∨ row.last < range.1 := by
  decide +kernel

theorem fold_of_isDecimalDigit {c : Char} (digit : Chars.isDecimalDigit c = true) :
    Chars.fold c = c := by
  obtain ⟨range, mem, bounds⟩ := List.any_eq_true.1 digit
  simp only [Bool.and_eq_true, decide_eq_true_eq] at bounds
  refine Chars.mapByRows_of_outside fun row hrow => ?_
  have := digits_apart_from_rows range mem row hrow
  omega

theorem meets_of_holds {a b : CharSet} {c : Char} (ha : a.holds c = true) (hb : b.holds c = true) :
    a.meets b = true := by
  unfold meets
  split
  · rename_i x y
    have hx : Chars.fold x = Chars.fold c := by simpa [holds] using ha
    have hy : Chars.fold y = Chars.fold c := by simpa [holds] using hb
    simp [hx, hy]
  · rename_i x
    have hx : Chars.fold x = Chars.fold c := by simpa [holds] using ha
    have digit : Chars.isDecimalDigit c = true := hb
    rwa [hx, fold_of_isDecimalDigit digit]
  · rename_i x
    have hx : Chars.fold x = Chars.fold c := by simpa [holds] using hb
    have digit : Chars.isDecimalDigit c = true := ha
    rwa [hx, fold_of_isDecimalDigit digit]
  · rfl

end CharSet

inductive Shape where
  | never
  | done
  | one (set : CharSet)
  | many (cls : CharClass)
  | either (a b : Shape)
  | seq (a b : Shape)
  deriving DecidableEq, Repr

namespace Shape

def Covers : Shape → List Char → Prop
  | .never, _ => False
  | .done, s => s = []
  | .one set, s => ∃ c, s = [c] ∧ set.holds c = true
  | .many cls, s => ∀ c ∈ s, cls.holds c = true
  | .either a b, s => a.Covers s ∨ b.Covers s
  | .seq a b, s => ∃ x y, s = x ++ y ∧ a.Covers x ∧ b.Covers y

def nullable : Shape → Bool
  | .never => false
  | .done => true
  | .one _ => false
  | .many _ => true
  | .either a b => a.nullable || b.nullable
  | .seq a b => a.nullable && b.nullable

def heads : Shape → List (CharSet × Shape)
  | .never => []
  | .done => []
  | .one set => [(set, .done)]
  | .many cls => [(.ofClass cls, .many cls)]
  | .either a b => a.heads ++ b.heads
  | .seq a b =>
    a.heads.map (fun h => (h.1, .seq h.2 b)) ++ (if a.nullable then b.heads else [])

/-- Whether no text is covered by both shapes, looking at no more than `depth` characters. Runs of
characters lead back to the same two shapes. -/
def apart : Nat → Shape → Shape → Bool
  | 0, _, _ => false
  | depth + 1, a, b =>
    !(a.nullable && b.nullable) && a.heads.all fun g => b.heads.all fun h =>
      !g.1.meets h.1 || (g.2 == a && h.2 == b) || apart depth g.2 h.2

theorem nullable_of_covers {a : Shape} (h : a.Covers []) : a.nullable = true := by
  induction a with
  | never => exact h.elim
  | done => rfl
  | one set =>
    obtain ⟨c, hc, -⟩ := h
    cases hc
  | many cls => rfl
  | either a b iha ihb =>
    rw [nullable, Bool.or_eq_true]
    exact h.imp iha ihb
  | seq a b iha ihb =>
    obtain ⟨x, y, joined, hx, hy⟩ := h
    obtain ⟨rfl, rfl⟩ := List.append_eq_nil_iff.1 joined.symm
    rw [nullable, Bool.and_eq_true]
    exact ⟨iha hx, ihb hy⟩

/-- A text that a shape covers begins as one of its heads says and goes on as that says. -/
theorem exists_head_of_covers {a : Shape} {c : Char} {s : List Char} (h : a.Covers (c :: s)) :
    ∃ head ∈ a.heads, head.1.holds c = true ∧ head.2.Covers s := by
  induction a generalizing s with
  | never => exact h.elim
  | done => cases h
  | one set =>
    obtain ⟨d, hd, holds⟩ := h
    cases hd
    exact ⟨_, List.mem_singleton.2 rfl, holds, rfl⟩
  | many cls =>
    refine ⟨_, List.mem_singleton.2 rfl, h c (by simp), ?_⟩
    exact fun d hd => h d (List.mem_cons_of_mem c hd)
  | either a b iha ihb =>
    obtain h | h := h
    · obtain ⟨head, mem, first⟩ := iha h
      exact ⟨head, List.mem_append_left _ mem, first⟩
    · obtain ⟨head, mem, first⟩ := ihb h
      exact ⟨head, List.mem_append_right _ mem, first⟩
  | seq a b iha ihb =>
    obtain ⟨x, y, joined, hx, hy⟩ := h
    cases x with
    | nil =>
      -- The first part is empty, so the text begins with the second one.
      rw [List.nil_append] at joined
      subst joined
      obtain ⟨head, mem, first⟩ := ihb hy
      refine ⟨head, List.mem_append_right _ ?_, first⟩
      rwa [if_pos (nullable_of_covers hx)]
    | cons d x =>
      obtain ⟨rfl, rfl⟩ := List.cons.inj joined
      obtain ⟨head, mem, holds, rest⟩ := iha hx
      exact ⟨(head.1, .seq head.2 b), List.mem_append_left _ (List.mem_map_of_mem mem), holds, x, y,
        rfl, rest, hy⟩

theorem not_covers_both {depth : Nat} {a b : Shape} (h : apart depth a b = true) (s : List Char) :
    ¬ (a.Covers s ∧ b.Covers s) := by
  induction depth generalizing a b s with
  | zero => cases h
  | succ depth ih =>
    simp only [apart, Bool.and_eq_true, List.all_eq_true, Bool.or_eq_true, Bool.not_eq_true',
      Bool.and_eq_false_iff, beq_iff_eq] at h
    obtain ⟨ends, heads⟩ := h
    -- Where both shapes stay the same, the text still gets shorter.
    induction s with
    | nil =>
      rintro ⟨ha, hb⟩
      have := nullable_of_covers ha
      have := nullable_of_covers hb
      simp_all
    | cons c s shorter =>
      rintro ⟨ha, hb⟩
      obtain ⟨g, hg, holds_g, rest_g⟩ := exists_head_of_covers ha
      obtain ⟨k, hk, holds_k, rest_k⟩ := exists_head_of_covers hb
      obtain (never | ⟨same_a, same_b⟩) | later := heads g hg k hk
      · rw [CharSet.meets_of_holds holds_g holds_k] at never
        cases never
      · rw [same_a] at rest_g
        rw [same_b] at rest_k
        exact shorter ⟨rest_g, rest_k⟩
      · exact ih later s ⟨rest_g, rest_k⟩

/-! ## The shape of a pattern -/

def word : List Char → Shape
  | [] => .done
  | c :: rest => .seq (.one (.like c)) (word rest)

def after (n : Nat) (cls : CharClass) (tail : Shape) : Shape :=
  match n with
  | 0 => tail
  | n + 1 => .seq (.one (.ofClass cls)) (after n cls tail)

theorem covers_word {w s rest : List Char} (h : Pattern.afterWord? w s = some rest) :
    ∃ read, s = read ++ rest ∧ (word w).Covers read := by
  induction w generalizing s with
  | nil =>
    cases h
    exact ⟨[], rfl, rfl⟩
  | cons c w ih =>
    cases s with
    | nil => cases h
    | cons d s =>
      rw [Pattern.afterWord?] at h
      split at h
      · rename_i same
        obtain ⟨read, rfl, covers⟩ := ih h
        exact ⟨d :: read, rfl, [d], read, rfl, ⟨d, rfl, decide_eq_true same⟩, covers⟩
      · cases h

theorem covers_after {cls : CharClass} {tail : Shape} {read more : List Char}
    (class_chars : ∀ c ∈ read, cls.holds c = true) (h : tail.Covers more) :
    (after read.length cls tail).Covers (read ++ more) := by
  induction read with
  | nil => exact h
  | cons c read ih =>
    exact ⟨[c], read ++ more, rfl, ⟨c, rfl, class_chars c (by simp)⟩,
      ih fun d hd => class_chars d (by simp [hd])⟩

theorem covers_run {cls : CharClass} {n : Nat} {read : List Char}
    (class_chars : ∀ c ∈ read, cls.holds c = true) (least : n ≤ read.length) :
    (after n cls (.many cls)).Covers read := by
  have first : ∀ c ∈ read.take n, cls.holds c = true :=
    fun c hc => class_chars c (List.mem_of_mem_take hc)
  have more : (many cls).Covers (read.drop n) :=
    fun c hc => class_chars c (List.mem_of_mem_drop hc)
  have covers := covers_after first more
  rwa [List.length_take_of_le least, List.take_append_drop] at covers

end Shape

namespace Pattern

def shape : Pattern → Shape
  | .text w => .word w.toList
  | .anyOf chars => .one (.among chars.toList)
  | .oneOf words => words.foldr (fun w rest => .either (.word w.toList) rest) .never
  | .atLeast n cls => .after n cls (.many cls)
  | .exactly n cls => .after n cls .done
  | .maybe p => .either p.shape .done
  | .capture p => p.shape
  | .seq p q => .seq p.shape q.shape

theorem covers_oneOf {words : List String} {w : String} {read : List Char} (mem : w ∈ words)
    (h : (Shape.word w.toList).Covers read) : (oneOf words).shape.Covers read := by
  unfold shape
  induction words with
  | nil => cases mem
  | cons v words ih =>
    obtain rfl | mem := List.mem_cons.1 mem
    · exact .inl h
    · exact .inr (ih mem)

theorem mem_runRests {n len : Nat} {s rest : List Char} (h : rest ∈ runRests n s len) :
    ∃ k, n ≤ k ∧ k ≤ len ∧ rest = s.drop k := by
  induction len with
  | zero =>
    rw [runRests] at h
    split at h
    · exact ⟨0, by omega, Nat.le_refl 0, List.mem_singleton.1 h⟩
    · cases h
  | succ len ih =>
    rw [runRests] at h
    split at h
    · obtain rfl | later := List.mem_cons.1 h
      · exact ⟨len + 1, by omega, Nat.le_refl _, rfl⟩
      · obtain ⟨k, least, most, rfl⟩ := ih later
        exact ⟨k, least, by omega, rfl⟩
    · cases h

theorem holds_of_mem_take {cls : CharClass} {s : List Char} {k : Nat}
    (bound : k ≤ (s.takeWhile cls.holds).length) : ∀ c ∈ s.take k, cls.holds c = true := by
  have start : s.take k = (s.takeWhile cls.holds).take k := by
    conv => lhs; rw [← List.takeWhile_append_dropWhile (p := cls.holds) (l := s)]
    exact List.take_append_of_le_length bound
  intro c hc
  rw [start] at hc
  exact List.all_eq_true.1 List.all_takeWhile c (List.mem_of_mem_take hc)

/-- What a reading takes from a text is covered by the shape of the pattern. -/
theorem covers_of_mem_readings {p : Pattern} {s rest : List Char} {parts : List (List Char)}
    (h : (parts, rest) ∈ p.readings s) : ∃ read, s = read ++ rest ∧ p.shape.Covers read := by
  induction p generalizing s rest parts with
  | text w =>
    obtain ⟨rest, found, ⟨⟩⟩ := List.mem_map.1 h
    exact Shape.covers_word (Option.mem_toList.1 found)
  | anyOf chars =>
    cases s with
    | nil => cases h
    | cons c s =>
      rw [readings] at h
      split at h
      · rename_i among
        cases List.mem_singleton.1 h
        exact ⟨[c], rfl, c, rfl, among⟩
      · cases h
  | oneOf words =>
    obtain ⟨rest, found, ⟨⟩⟩ := List.mem_map.1 h
    obtain ⟨w, mem, after⟩ := List.mem_filterMap.1 found
    obtain ⟨read, joined, covers⟩ := Shape.covers_word after
    exact ⟨read, joined, covers_oneOf mem covers⟩
  | atLeast n cls =>
    obtain ⟨rest, found, ⟨⟩⟩ := List.mem_map.1 h
    obtain ⟨k, least, most, rfl⟩ := mem_runRests found
    have inside : k ≤ s.length := Nat.le_trans most (List.takeWhile_sublist _).length_le
    have covers := Shape.covers_run (n := n) (holds_of_mem_take most)
      (by rw [List.length_take]; omega)
    exact ⟨s.take k, (List.take_append_drop k s).symm, covers⟩
  | exactly n cls =>
    rw [readings] at h
    split at h
    · rename_i taken
      cases List.mem_singleton.1 h
      simp only [Bool.and_eq_true, decide_eq_true_eq, List.all_eq_true] at taken
      have covers := Shape.covers_after taken.2 (show Shape.done.Covers [] from rfl)
      rw [taken.1, List.append_nil] at covers
      exact ⟨s.take n, (List.take_append_drop n s).symm, covers⟩
    · cases h
  | maybe p ih =>
    rw [readings] at h
    obtain h | h := List.mem_append.1 h
    · obtain ⟨read, joined, covers⟩ := ih h
      exact ⟨read, joined, .inl covers⟩
    · cases List.mem_singleton.1 h
      exact ⟨[], rfl, .inr rfl⟩
  | capture p ih =>
    obtain ⟨⟨inner, rest⟩, found, ⟨⟩⟩ := List.mem_map.1 h
    exact ih found
  | seq p q ihp ihq =>
    obtain ⟨⟨first, middle⟩, found, h⟩ := List.mem_flatMap.1 h
    obtain ⟨⟨second, rest⟩, found', ⟨⟩⟩ := List.mem_map.1 h
    obtain ⟨x, rfl, hx⟩ := ihp found
    obtain ⟨y, rfl, hy⟩ := ihq found'
    exact ⟨x ++ y, (List.append_assoc x y _).symm, x, y, rfl, hx, hy⟩

end Pattern

end LoadScript
