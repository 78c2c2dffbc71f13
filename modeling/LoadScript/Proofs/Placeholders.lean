import LoadScript.Proofs.Template
import Mathlib.Data.List.Infix

/-!
# All placeholders of a text

A placeholder cannot begin before an opening bracket and end behind it, so a text may be cut at
every opening bracket and its parts substituted on their own. Substitution is then fixed by two
laws: what happens at a placeholder, whatever stands around it, and what happens to a text without
any.

A new placeholder can only come about where brackets are nested or a value opens one. Elsewhere
nothing that could be replaced is left.
-/

set_option autoImplicit false

namespace LoadScript

namespace Parameters

theorem mem_of_get? {p : Parameters} {key value : String} (h : p.get? key = some value) :
    (key, value) ∈ p.toList := by
  obtain ⟨entry, found, rfl⟩ := Option.map_eq_some_iff.1 h
  have same : entry.1 = key := by simpa using List.find?_some found
  exact same ▸ List.mem_of_find?_eq_some found

theorem get?_ne_none {p : Parameters} {entry : String × String} (h : entry ∈ p.toList) :
    p.get? entry.1 ≠ none := by
  intro missing
  have unmatched := List.find?_eq_none.1 (Option.map_eq_none_iff.1 missing) entry h
  simp at unmatched

end Parameters

namespace Template

/-! ## Placeholders in texts -/

def IsName (name : String) : Prop :=
  name ≠ "" ∧ '<' ∉ name.toList ∧ '>' ∉ name.toList ∧ '\n' ∉ name.toList

instance : DecidablePred IsName := fun name =>
  inferInstanceAs (Decidable (name ≠ "" ∧ _ ∧ _ ∧ _))

def placeholder (name : String) : String := "<" ++ name ++ ">"

theorem placeholder_toList (name : String) :
    (placeholder name).toList = '<' :: (name.toList ++ ['>']) := by
  simp [placeholder]

theorem isName_iff {name : String} :
    IsName name ↔ name.toList ≠ [] ∧ ∀ c ∈ name.toList, isNameChar c = true := by
  have nonempty : name ≠ "" ↔ name.toList ≠ [] := by simp
  have chars : (∀ c ∈ name.toList, isNameChar c = true) ↔
      '<' ∉ name.toList ∧ '>' ∉ name.toList ∧ '\n' ∉ name.toList := by
    simp only [isNameChar, Bool.and_eq_true, bne_iff_ne]
    constructor
    · intro h
      exact ⟨fun mem => (h _ mem).1.1 rfl, fun mem => (h _ mem).1.2 rfl, fun mem => (h _ mem).2 rfl⟩
    · rintro ⟨opening, closing, feed⟩ c mem
      exact ⟨⟨ne_of_mem_of_not_mem mem opening, ne_of_mem_of_not_mem mem closing⟩,
        ne_of_mem_of_not_mem mem feed⟩
  rw [IsName, nonempty, chars]

theorem isName_of_placeholder? {s name rest : List Char}
    (h : placeholder? s = some (name, rest)) : IsName (String.ofList name) := by
  rw [isName_iff, String.toList_ofList]
  exact (placeholder?_spec h).2

/-! ## Cutting a text at an opening bracket -/

theorem placeholder?_append_open {s : List Char} (none_here : placeholder? s = none)
    (rest : List Char) : placeholder? (s ++ '<' :: rest) = none := by
  cases found : placeholder? (s ++ '<' :: rest) with
  | none => rfl
  | some split =>
    obtain ⟨name, after⟩ := split
    obtain ⟨parts, nonempty, chars⟩ := placeholder?_spec found
    -- A name that went past the opening bracket would contain it; one that ends before is in `s`.
    obtain ⟨more, longer, tail⟩ | ⟨more, shorter, tail⟩ := List.append_eq_append_iff.1 parts
    · cases more with
      | nil => simp at tail
      | cons c more =>
        rw [List.cons_append, List.cons.injEq] at tail
        have opening : isNameChar '<' = true := chars '<' (by simp [longer, ← tail.1])
        exact absurd opening (by decide)
    · cases more with
      | nil => simp at tail
      | cons c more =>
        rw [List.cons_append, List.cons.injEq] at tail
        rw [shorter, ← tail.1, placeholder?_of_name nonempty chars] at none_here
        cases none_here

/-- A text may be cut in front of an opening bracket. -/
theorem substituteChars_append_open (p : Parameters) (s rest : List Char) :
    substituteChars p (s ++ '<' :: rest) =
      substituteChars p s ++ substituteChars p ('<' :: rest) := by
  fun_induction substituteChars p s with
  | case1 => rfl
  | case2 inside name after found shorter ih =>
    obtain ⟨rfl, nonempty, chars⟩ := placeholder?_spec found
    rw [List.cons_append, List.append_assoc, List.cons_append,
      substituteChars_placeholder p nonempty chars, ih, List.append_assoc]
  | case3 inside none_here ih =>
    rw [List.cons_append, substituteChars_open p (placeholder?_append_open none_here rest), ih,
      List.cons_append]
  | case4 c inside other ih =>
    rw [List.cons_append, substituteChars_other p other, ih, List.cons_append]

/-! ## Texts in which nothing can be replaced -/

def Settled (p : Parameters) (s : List Char) : Prop :=
  ∀ name, IsName name → (placeholder name).toList <:+: s → p.get? name = none

theorem Settled.of_suffix {p : Parameters} {s t : List Char} (h : Settled p t) (part : s <:+ t) :
    Settled p s :=
  fun name name_ok inside => h name name_ok (inside.trans part.isInfix)

theorem Settled.substituteChars_eq {p : Parameters} {s : List Char} (h : Settled p s) :
    substituteChars p s = s := by
  fun_induction substituteChars p s with
  | case1 => rfl
  | case2 rest name after found shorter ih =>
    have whole : '<' :: rest = (placeholder (String.ofList name)).toList ++ after := by
      rw [(placeholder?_spec found).1, placeholder_toList, String.toList_ofList]
      simp
    have unknown := h (String.ofList name) (isName_of_placeholder? found)
      (whole ▸ (List.prefix_append _ _).isInfix)
    rw [whole] at h ⊢
    rw [ih (h.of_suffix (List.suffix_append _ _)), replacement, unknown, placeholder_toList,
      String.toList_ofList]
  | case3 rest none_here ih => rw [ih (h.of_suffix (List.suffix_cons _ _))]
  | case4 c rest other ih => rw [ih (h.of_suffix (List.suffix_cons _ _))]

/-! ## The laws of substitution -/

/-- All placeholders are replaced at once, and nothing else is. -/
structure Replaces (p : Parameters) (f : String → String) : Prop where
  at_placeholder : ∀ before name after, IsName name →
    f (before ++ placeholder name ++ after) =
      f before ++ (p.get? name).getD (placeholder name) ++ f after
  elsewhere : ∀ text, (∀ name, IsName name → ¬ (placeholder name).toList <:+: text.toList) →
    f text = text

theorem replacement_toList (p : Parameters) (name : String) :
    replacement p name.toList = ((p.get? name).getD (placeholder name)).toList := by
  rw [replacement, String.ofList_toList]
  cases p.get? name with
  | none => exact (placeholder_toList name).symm
  | some value => rfl

theorem substitute_replaces (p : Parameters) : Replaces p (substitute p) where
  at_placeholder before name after name_ok := by
    have chars := isName_iff.1 name_ok
    apply String.toList_injective
    simp only [substitute_eq, String.toList_append, String.toList_ofList, placeholder_toList,
      ← replacement_toList]
    rw [List.append_assoc, List.cons_append, List.append_assoc, List.singleton_append,
      substituteChars_append_open, substituteChars_placeholder p chars.1 chars.2, List.append_assoc]
  elsewhere text none_here := by
    have settled : Settled p text.toList :=
      fun name name_ok inside => absurd inside (none_here name name_ok)
    rw [substitute_eq, settled.substituteChars_eq, String.ofList_toList]

theorem Replaces.unique {p : Parameters} {f g : String → String} (hf : Replaces p f)
    (hg : Replaces p g) (text : String) : f text = g text := by
  by_cases some_name : ∃ name, IsName name ∧ (placeholder name).toList <:+: text.toList
  · obtain ⟨name, name_ok, before, after, split⟩ := some_name
    have parts : text = String.ofList before ++ placeholder name ++ String.ofList after := by
      apply String.toList_injective
      simp [← split]
    have shorter : before.length < text.toList.length ∧ after.length < text.toList.length := by
      rw [← split]
      simp only [placeholder_toList, List.length_append, List.length_cons]
      omega
    rw [parts, hf.at_placeholder _ _ _ name_ok, hg.at_placeholder _ _ _ name_ok,
      hf.unique hg (String.ofList before), hf.unique hg (String.ofList after)]
  · have none_here : ∀ name, IsName name → ¬ (placeholder name).toList <:+: text.toList :=
      fun name name_ok inside => some_name ⟨name, name_ok, inside⟩
    rw [hf.elsewhere text none_here, hg.elsewhere text none_here]
termination_by text.toList.length
decreasing_by all_goals simp only [String.toList_ofList]; omega

/-- Substitution replaces all placeholders at once, and this says all about it. -/
theorem substitute_replaces_all (p : Parameters) :
    Replaces p (substitute p) ∧ ∀ f, Replaces p f → f = substitute p :=
  ⟨substitute_replaces p, fun _ h => funext (h.unique (substitute_replaces p))⟩

def bracketedValue : Parameters := .ofList [("a", "<b>"), ("b", "c")]

theorem bracketedValue_kept : IsName "a" ∧ substitute bracketedValue "<<<a>>>" = "<<<b>>>" := by
  have name_ok : IsName "a" := by decide
  have left : substitute bracketedValue "<<" = "<<" := by decide +kernel
  have right : substitute bracketedValue ">>" = ">>" := by decide +kernel
  have middle := (substitute_replaces_all bracketedValue).1.at_placeholder "<<" "a" ">>" name_ok
  rw [left, right] at middle
  exact ⟨name_ok, middle⟩

/-! ## Texts without nested brackets -/

/-- No opening bracket is followed by another one before the next closing bracket. -/
def Unnested (s : List Char) : Prop :=
  ∀ rest, '<' :: rest <:+ s → '>' ∈ rest → '<' ∉ rest.takeWhile (· ≠ '>')

instance : DecidablePred Unnested := fun s =>
  decidable_of_iff
    (∀ rest ∈ s.tails, '<' :: rest <:+ s → '>' ∈ rest → '<' ∉ rest.takeWhile (· ≠ '>'))
    ⟨fun h rest part => h rest ((List.mem_tails _ _).2 ((List.suffix_cons _ _).trans part)) part,
      fun h rest _ => h rest⟩

theorem Unnested.of_suffix {s t : List Char} (h : Unnested t) (part : s <:+ t) : Unnested s :=
  fun rest inside => h rest (inside.trans part)

theorem takeWhile_append_closing {s : List Char} (fresh : '>' ∉ s) (rest : List Char) :
    (s ++ '>' :: rest).takeWhile (· ≠ '>') = s := by
  rw [List.takeWhile_append_of_pos fun c mem => by simpa using ne_of_mem_of_not_mem mem fresh]
  simp

theorem eq_of_append_closing {s t a b : List Char} (hs : '>' ∉ s) (ht : '>' ∉ t)
    (same : s ++ '>' :: a = t ++ '>' :: b) : s = t := by
  rw [← takeWhile_append_closing hs a, same, takeWhile_append_closing ht]

theorem mem_of_mem_substituteChars {p : Parameters} {s : List Char}
    (h : '>' ∈ substituteChars p s) : '>' ∈ s := by
  fun_induction substituteChars p s with
  | case1 => exact h
  | case2 rest name after found shorter ih => simp [(placeholder?_spec found).1]
  | case3 rest none_here ih =>
    rw [List.mem_cons] at h
    exact List.mem_cons_of_mem _ (ih (h.resolve_left (by decide)))
  | case4 c rest other ih =>
    rw [List.mem_cons] at h ⊢
    exact h.imp id ih

theorem infix_of_infix_append {c : Char} {s t l : List Char} (h : c ∉ s)
    (inside : c :: l <:+: s ++ t) : c :: l <:+: t := by
  induction s with
  | nil => exact inside
  | cons d s ih =>
    rw [List.mem_cons, not_or] at h
    rw [List.cons_append, List.infix_cons_iff, List.cons_prefix_cons] at inside
    exact ih h.2 (inside.resolve_left fun start => h.1 start.1)

/-- A bracket that opens no placeholder of the text opens none of the result. -/
theorem not_prefix_substituteChars {p : Parameters} {rest : List Char} {name : String}
    (none_here : placeholder? rest = none) (flat : Unnested ('<' :: rest)) (name_ok : IsName name) :
    ¬ name.toList ++ ['>'] <+: substituteChars p rest := by
  rintro ⟨more, result⟩
  rw [List.append_assoc, List.singleton_append] at result
  have closing : '>' ∈ rest := mem_of_mem_substituteChars (p := p) (by simp [← result])
  have closed := flat rest (List.suffix_refl _) closing
  obtain ⟨inner, after, rfl, fresh⟩ := List.eq_append_cons_of_mem closing
  rw [takeWhile_append_closing fresh] at closed
  -- The text up to the closing bracket is copied, so it is the name that the result shows.
  rw [substituteChars_append_of_not_mem p closed, substituteChars_other p (by decide)] at result
  have chars := isName_iff.1 name_ok
  rw [eq_of_append_closing name_ok.2.2.1 fresh result] at chars
  rw [placeholder?_of_name chars.1 chars.2] at none_here
  cases none_here

theorem settled_substituteChars {p : Parameters} {s : List Char}
    (values : ∀ name value, p.get? name = some value → '<' ∉ value.toList) (flat : Unnested s) :
    Settled p (substituteChars p s) := by
  intro k k_ok inside
  rw [placeholder_toList] at inside
  fun_induction substituteChars p s with
  | case1 => simp at inside
  | case2 rest name after found shorter ih =>
    have name_ok := isName_of_placeholder? found
    rw [IsName, String.toList_ofList] at name_ok
    have later : after <:+ '<' :: rest := by
      rw [(placeholder?_spec found).1]
      exact ⟨'<' :: (name ++ ['>']), by simp⟩
    unfold replacement at inside
    cases known : p.get? (String.ofList name) with
    | some value =>
      rw [known] at inside
      exact ih (flat.of_suffix later) (infix_of_infix_append (values _ _ known) inside)
    | none =>
      -- The placeholder is kept, and nothing but itself begins inside of it.
      rw [known] at inside
      simp only [List.cons_append, List.infix_cons_iff, List.cons_prefix_cons] at inside
      obtain ⟨-, more, same⟩ | inside := inside
      · have names : k.toList = name :=
          eq_of_append_closing k_ok.2.2.1 name_ok.2.2.1 (by simpa using same)
        rw [← names, String.ofList_toList] at known
        exact known
      · have outside : '<' ∉ name ++ ['>'] := by simp [name_ok.2.1]
        exact ih (flat.of_suffix later) (infix_of_infix_append outside inside)
  | case3 rest none_here ih =>
    rw [List.infix_cons_iff, List.cons_prefix_cons] at inside
    exact ih (flat.of_suffix (List.suffix_cons _ _))
      (inside.resolve_left fun start => not_prefix_substituteChars none_here flat k_ok start.2)
  | case4 c rest other ih =>
    rw [List.infix_cons_iff, List.cons_prefix_cons] at inside
    exact ih (flat.of_suffix (List.suffix_cons _ _))
      (inside.resolve_left fun start => other start.1.symm)

/-- Where brackets are not nested and no value opens one, no placeholder with a value is left, and
substituting again changes nothing. Values may even close brackets. -/
theorem substitute_leaves_no_known (p : Parameters) (text : String)
    (values : ∀ entry ∈ p.toList, '<' ∉ entry.2.toList) (flat : Unnested text.toList) :
    (∀ entry ∈ p.toList, IsName entry.1 →
      ¬ (placeholder entry.1).toList <:+: (substitute p text).toList) ∧
      substitute p (substitute p text) = substitute p text := by
  have settled : Settled p (substitute p text).toList := by
    rw [substitute_eq, String.toList_ofList]
    exact settled_substituteChars (fun _ _ known => values _ (Parameters.mem_of_get? known)) flat
  constructor
  · intro entry mem name_ok inside
    exact Parameters.get?_ne_none mem (settled entry.1 name_ok inside)
  · rw [substitute_eq, settled.substituteChars_eq, String.ofList_toList]

def looseBrackets : String := "<user>> <\n> <level><x> <"

def looseValues : Parameters := .ofList [("user", "ann"), ("level", "")]

theorem looseBrackets_settled :
    (∀ entry ∈ looseValues.toList, '<' ∉ entry.2.toList) ∧ Unnested looseBrackets.toList ∧
      substitute looseValues looseBrackets = "ann> <\n> <x> <" ∧
      ("level", "") ∈ looseValues.toList ∧ IsName "level" ∧
      ¬ (placeholder "level").toList <:+: (substitute looseValues looseBrackets).toList ∧
      substitute looseValues (substitute looseValues looseBrackets) =
        substitute looseValues looseBrackets := by
  have values : ∀ entry ∈ looseValues.toList, '<' ∉ entry.2.toList := by decide
  have flat : Unnested looseBrackets.toList := by decide +kernel
  have mem : ("level", "") ∈ looseValues.toList := by decide
  have name_ok : IsName "level" := by decide
  have result : substitute looseValues looseBrackets = "ann> <\n> <x> <" := by decide +kernel
  have law := substitute_leaves_no_known looseValues looseBrackets values flat
  exact ⟨values, flat, result, mem, name_ok, law.1 ("level", "") mem name_ok, law.2⟩

-- Nested brackets may close to a placeholder once the inner one is replaced.
example : substitute (.ofList [("a", ""), ("b", "x")]) "<<a>b>" = "<b>" := by decide +kernel

end Template

end LoadScript
