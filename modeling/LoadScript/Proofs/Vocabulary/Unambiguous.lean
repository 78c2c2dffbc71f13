import LoadScript.Proofs.Vocabulary.Shape
import LoadScript.Vocabulary.Builtin
import Mathlib.Data.List.Perm.Basic

set_option autoImplicit false

namespace LoadScript

namespace CharClass

def sample : CharClass → Char
  | .digit => '7'
  | .unquoted => 'x'

theorem holds_sample (cls : CharClass) : cls.holds cls.sample = true := by
  cases cls <;> decide

end CharClass

namespace Pattern

theorem covers_of_match? {p : Pattern} {text : String} {captures : List String}
    (h : p.match? text = some captures) : p.shape.Covers (Chars.trim text.toList) := by
  obtain ⟨⟨parts, rest⟩, found, -⟩ := Option.map_eq_some_iff.1 h
  have ended : rest = [] := by simpa using List.find?_some found
  obtain ⟨read, joined, covers⟩ := covers_of_mem_readings (List.mem_of_find?_eq_some found)
  rw [ended, List.append_nil] at joined
  exact joined ▸ covers

def sample : Pattern → Option (List Char)
  | .text w => some w.toList
  | .anyOf chars => chars.toList.head?.map ([·])
  | .oneOf words => words.head?.map (·.toList)
  | .atLeast n cls => some (List.replicate n cls.sample)
  | .exactly n cls => some (List.replicate n cls.sample)
  | .maybe _ => some []
  | .capture p => p.sample
  | .seq p q => p.sample.bind fun first => q.sample.map (first ++ ·)

theorem afterWord?_append (w rest : List Char) : afterWord? w (w ++ rest) = some rest := by
  induction w with
  | nil => rfl
  | cons c w ih => rw [List.cons_append, afterWord?, if_pos rfl, ih]

theorem drop_mem_runRests {n len k : Nat} (s : List Char) (least : n ≤ k) (most : k ≤ len) :
    s.drop k ∈ runRests n s len := by
  induction len with
  | zero =>
    obtain rfl : k = 0 := by omega
    rw [runRests, if_pos (by omega)]
    exact List.mem_singleton.2 rfl
  | succ len ih =>
    rw [runRests, if_pos (by omega)]
    obtain rfl | earlier : k = len + 1 ∨ k ≤ len := by omega
    · exact List.mem_cons_self
    · exact List.mem_cons_of_mem _ (ih earlier)

theorem length_le_takeWhile {cls : CharClass} {read : List Char} (rest : List Char)
    (class_chars : ∀ c ∈ read, cls.holds c = true) :
    read.length ≤ ((read ++ rest).takeWhile cls.holds).length := by
  rw [List.takeWhile_append_of_pos class_chars, List.length_append]
  omega

theorem exists_reading_of_sample {p : Pattern} {t : List Char} (h : p.sample = some t)
    (rest : List Char) : ∃ parts, (parts, rest) ∈ p.readings (t ++ rest) := by
  induction p generalizing t rest with
  | text w =>
    cases h
    exact ⟨[], by simp [readings, afterWord?_append]⟩
  | anyOf chars =>
    obtain ⟨c, hc, rfl⟩ := Option.map_eq_some_iff.1 h
    exact ⟨[], by simp [readings, List.mem_of_head? hc]⟩
  | oneOf words =>
    obtain ⟨w, hw, rfl⟩ := Option.map_eq_some_iff.1 h
    refine ⟨[], List.mem_map_of_mem (List.mem_filterMap.2 ⟨w, List.mem_of_head? hw, ?_⟩)⟩
    exact afterWord?_append _ rest
  | atLeast n cls =>
    cases h
    have sampled : ∀ c ∈ List.replicate n cls.sample, cls.holds c = true :=
      fun c hc => List.eq_of_mem_replicate hc ▸ cls.holds_sample
    have long := length_le_takeWhile rest sampled
    rw [List.length_replicate] at long
    have mem := drop_mem_runRests (List.replicate n cls.sample ++ rest) (Nat.le_refl n) long
    rw [List.drop_left' List.length_replicate] at mem
    exact ⟨[], List.mem_map_of_mem mem⟩
  | exactly n cls =>
    cases h
    exact ⟨[], by simp [readings, List.take_left', List.drop_left', cls.holds_sample]⟩
  | maybe p =>
    cases h
    exact ⟨_, List.mem_append_right _ (List.mem_singleton.2 rfl)⟩
  | capture p ih =>
    obtain ⟨parts, mem⟩ := ih h rest
    exact ⟨_, List.mem_map_of_mem mem⟩
  | seq p q ihp ihq =>
    obtain ⟨first, hp, h⟩ := Option.bind_eq_some_iff.1 h
    obtain ⟨second, hq, rfl⟩ := Option.map_eq_some_iff.1 h
    obtain ⟨parts, mem⟩ := ihp hp (second ++ rest)
    obtain ⟨more, mem'⟩ := ihq hq rest
    rw [List.append_assoc]
    exact ⟨_, List.mem_flatMap.2 ⟨_, mem, List.mem_map_of_mem mem'⟩⟩

theorem exists_match?_of_sample {p : Pattern} {t : List Char} (h : p.sample = some t)
    (trimmed : Chars.trim t = t) : ∃ captures, p.match? (String.ofList t) = some captures := by
  obtain ⟨parts, mem⟩ := exists_reading_of_sample h []
  rw [List.append_nil] at mem
  unfold match?
  rw [String.toList_ofList, trimmed]
  obtain ⟨reading, found⟩ := Option.isSome_iff_exists.1
    (List.find?_isSome (p := fun reading => reading.2.isEmpty) |>.2 ⟨_, mem, rfl⟩)
  exact ⟨_, by rw [found]; rfl⟩

theorem match?_disjoint {p q : Pattern} {depth : Nat}
    (apart : Shape.apart depth p.shape q.shape = true) (text : String) :
    p.match? text = none ∨ q.match? text = none := by
  cases hp : p.match? text with
  | none => exact .inl rfl
  | some parts =>
    cases hq : q.match? text with
    | none => exact .inr rfl
    | some others =>
      exact absurd ⟨covers_of_match? hp, covers_of_match? hq⟩
        (Shape.not_covers_both apart _)

end Pattern

namespace Vocabulary

/-- No text is covered by two definitions. -/
def Unambiguous (v : Vocabulary) : Prop :=
  v.Pairwise fun d e => ∀ text, d.pattern.match? text = none ∨ e.pattern.match? text = none

namespace Unambiguous

variable {v w : Vocabulary}

theorem perm (h : v.Unambiguous) (same : w.Perm v) : w.Unambiguous :=
  (same.pairwise_iff fun disjoint text => (disjoint text).symm).2 h

theorem countP_le_one (h : v.Unambiguous) (text : String) :
    v.countP (fun d => (d.pattern.match? text).isSome) ≤ 1 := by
  induction v with
  | nil => exact Nat.zero_le 1
  | cons d rest ih =>
    obtain ⟨others, h⟩ := List.pairwise_cons.1 h
    rw [List.countP_cons]
    split
    · rename_i covered
      have none_else : rest.countP (fun e => (e.pattern.match? text).isSome) = 0 := by
        rw [List.countP_eq_zero]
        intro e he
        obtain uncovered | uncovered := others e he text
        · rw [uncovered] at covered
          cases covered
        · rw [uncovered]
          exact Bool.false_ne_true
      omega
    · exact ih h

/-- A text is explained by every definition that covers it. -/
theorem find?_of_match? (h : v.Unambiguous) {d : Definition} (mem : d ∈ v) {text : String}
    {captures : List String} (covered : d.pattern.match? text = some captures) :
    v.find? text = some ⟨d, captures⟩ := by
  induction v with
  | nil => cases mem
  | cons e rest ih =>
    obtain ⟨others, h⟩ := List.pairwise_cons.1 h
    unfold find?
    obtain rfl | mem := List.mem_cons.1 mem
    · rw [List.findSome?_cons, covered]
      rfl
    · have uncovered : e.pattern.match? text = none := by
        obtain uncovered | uncovered := others d mem text
        · exact uncovered
        · rw [uncovered] at covered
          cases covered
      rw [List.findSome?_cons, uncovered]
      exact ih h mem

theorem find?_perm (h : v.Unambiguous) (same : w.Perm v) (text : String) :
    w.find? text = v.find? text := by
  cases found : v.find? text with
  | some r =>
    obtain ⟨d, mem, recognized⟩ := List.exists_of_findSome?_eq_some found
    obtain ⟨captures, covered, rfl⟩ := Option.map_eq_some_iff.1 recognized
    exact (h.perm same).find?_of_match? (same.mem_iff.2 mem) covered
  | none =>
    unfold find? at found ⊢
    rw [List.findSome?_eq_none_iff] at found ⊢
    exact fun d mem => found d (same.mem_iff.1 mem)

end Unambiguous

theorem definition_pattern : ∀ s ∈ sentences, s.definition.pattern = s.pattern.matcher := by
  simp only [sentences, groups, List.flatMap_cons, List.flatMap_nil, List.forall_mem_append,
    Login.sentences, Products.sentences, Users.sentences, Orders.sentences, ThinkTime.sentences,
    Expectations.sentences, List.forall_mem_cons, List.not_mem_nil, false_implies, implies_true,
    and_true]
  repeat' apply And.intro
  all_goals rfl

theorem exists_sentence {d : Definition} (mem : d ∈ builtin) :
    ∃ s ∈ sentences, d.pattern = s.pattern.matcher := by
  obtain ⟨s, hs, rfl⟩ := List.mem_map.1 mem
  exact ⟨s, hs, definition_pattern s hs⟩

/-- Two sentences of the vocabulary differ within their first characters. -/
theorem sentences_shapes_apart :
    (sentences.map (·.pattern.shape)).Pairwise fun a b => Shape.apart 50 a b = true := by
  decide +kernel

theorem builtin_unambiguous : builtin.Unambiguous := by
  have apart := List.pairwise_map.1 sentences_shapes_apart
  refine List.pairwise_map.2 (apart.imp_of_mem fun {s t} hs ht apart text => ?_)
  rw [definition_pattern s hs, definition_pattern t ht]
  exact Pattern.match?_disjoint apart text

theorem find?_of_sentence {s : Sentence} (mem : s ∈ sentences) {text : String}
    {captures : List String} (covered : s.pattern.match? text = some captures) :
    builtin.find? text = some ⟨s.definition, captures⟩ := by
  refine builtin_unambiguous.find?_of_match? (List.mem_map_of_mem mem) ?_
  rw [definition_pattern s mem]
  exact covered

theorem sentences_samples : ∀ s ∈ sentences, ∃ t ∈ s.pattern.sample, Chars.trim t = t := by
  decide +kernel

/-- At most one of the sentences covers a text, so none hides another, and what a text means does
not depend on their order. -/
theorem builtin_find?_order_free :
    builtin.length = 33 ∧
      (∀ text, builtin.countP (fun d => (d.pattern.match? text).isSome) ≤ 1) ∧
      (∀ v : Vocabulary, v.Perm builtin → ∀ text, v.find? text = builtin.find? text) ∧
      (∀ d ∈ builtin, ∀ text captures, d.pattern.match? text = some captures →
        builtin.find? text = some ⟨d, captures⟩) ∧
      ∀ d ∈ builtin, ∃ text captures, builtin.find? text = some ⟨d, captures⟩ := by
  have unambiguous := builtin_unambiguous
  refine ⟨rfl, unambiguous.countP_le_one, fun v same => unambiguous.find?_perm same,
    fun d mem text captures => unambiguous.find?_of_match? mem, ?_⟩
  intro d mem
  obtain ⟨s, hs, rfl⟩ := List.mem_map.1 mem
  obtain ⟨t, sample, trimmed⟩ := sentences_samples s hs
  obtain ⟨captures, covered⟩ := Pattern.exists_match?_of_sample sample trimmed
  exact ⟨String.ofList t, captures, find?_of_sentence hs covered⟩

/-- Waiting for a fixed time, which begins like waiting for a random one. -/
def fixedWait : Definition := builtin[19]

/-- The order is reversed, and a long s and a capital letter stand for letters of the sentence. -/
theorem fixedWait_found_in_reverse :
    builtin.reverse.Perm builtin ∧ fixedWait.description = "Fixed think time" ∧
      find? builtin.reverse " uſer Waits 2.5 seconds" = some ⟨fixedWait, ["2.5"]⟩ := by
  obtain ⟨-, -, order_free, found, -⟩ := builtin_find?_order_free
  have covered : fixedWait.pattern.match? " uſer Waits 2.5 seconds" = some ["2.5"] := by
    decide +kernel
  have reversed : builtin.reverse.Perm builtin := List.reverse_perm builtin
  refine ⟨reversed, rfl, ?_⟩
  rw [order_free builtin.reverse reversed]
  exact found fixedWait (List.getElem_mem _) _ ["2.5"] covered

end Vocabulary

end LoadScript
