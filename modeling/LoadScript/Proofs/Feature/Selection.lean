import LoadScript.Feature.Selection
import LoadScript.Proofs.Tags

set_option autoImplicit false

namespace LoadScript

namespace Feature

/-- Whether a scenario of a feature carries one of the tags, by itself or by its feature. -/
def Carries (wanted : List String) (f : Feature) (s : Scenario) : Prop :=
  ∃ tag ∈ wanted, tag ∈ f.tags ∨ tag ∈ s.tags

/-- Whether a selection keeps a scenario of a feature. -/
def Keeps (tags : List String) (f : Feature) (s : Scenario) : Prop :=
  Tags.normalize tags = [] ∨ Carries (Tags.normalize tags) f s

instance (wanted : List String) (f : Feature) (s : Scenario) : Decidable (Carries wanted f s) :=
  List.decidableBEx _ _

instance (tags : List String) (f : Feature) (s : Scenario) : Decidable (Keeps tags f s) :=
  inferInstanceAs (Decidable (_ ∨ _))

def restrict (f : Feature) (kept : Scenario → Bool) : Feature :=
  { f with scenarios := f.scenarios.filter kept }

theorem restrict_restrict (f : Feature) (p q : Scenario → Bool) :
    (f.restrict p).restrict q = f.restrict fun s => q s && p s := by
  simp only [restrict, List.filter_filter]

theorem keepTagged_eq (wanted : List String) (f : Feature) :
    keepTagged wanted f = f.restrict fun s => Carries wanted f s := by
  have shared (tags : List String) : tags.any wanted.contains = true ↔ ∃ tag ∈ wanted, tag ∈ tags := by
    simp [and_comm]
  unfold keepTagged restrict
  by_cases whole : f.tags.any wanted.contains = true
  · have all : f.scenarios.filter (fun s => Carries wanted f s) = f.scenarios := by
      obtain ⟨tag, want, mem⟩ := (shared f.tags).1 whole
      rw [List.filter_eq_self]
      exact fun s _ => decide_eq_true ⟨tag, want, .inl mem⟩
    rw [if_pos whole, all]
  · have own : f.scenarios.filter (fun s => s.tags.any wanted.contains) =
        f.scenarios.filter fun s => Carries wanted f s := by
      refine List.filter_congr fun s _ => ?_
      rw [Bool.eq_iff_iff, shared, decide_eq_true_iff]
      constructor
      · rintro ⟨tag, want, mem⟩
        exact ⟨tag, want, .inr mem⟩
      · rintro ⟨tag, want, mem | mem⟩
        · exact absurd ((shared f.tags).2 ⟨tag, want, mem⟩) whole
        · exact ⟨tag, want, mem⟩
    rw [if_neg whole, own]

theorem selectByTags_eq (tags : List String) (fs : List Feature) :
    selectByTags tags fs = fs.map fun f => f.restrict fun s => Keeps tags f s := by
  unfold selectByTags
  dsimp only
  by_cases nothing : Tags.normalize tags = []
  · have same (f : Feature) : (f.restrict fun s => Keeps tags f s) = f := by
      have all : f.scenarios.filter (fun s => Keeps tags f s) = f.scenarios :=
        List.filter_eq_self.2 fun s _ => decide_eq_true (.inl nothing)
      rw [restrict, all]
    rw [if_pos (by simpa using nothing), List.map_congr_left fun f _ => same f, List.map_id']
  · rw [if_neg (by simpa using nothing)]
    refine List.map_congr_left fun f _ => ?_
    rw [keepTagged_eq]
    simp only [Keeps, nothing, false_or]

theorem selectByTags_selectByTags (a b : List String) (fs : List Feature) :
    selectByTags b (selectByTags a fs) =
      fs.map fun f => f.restrict fun s => Keeps b f s && Keeps a f s := by
  rw [selectByTags_eq, selectByTags_eq, List.map_map]
  refine List.map_congr_left fun f _ => ?_
  exact restrict_restrict f _ _

theorem selectByTags_of_normalize {a b : List String} (same : Tags.normalize a = Tags.normalize b)
    (fs : List Feature) : selectByTags a fs = selectByTags b fs := by
  unfold selectByTags
  rw [same]

theorem getElem?_selectByTags {fs : List Feature} {i : Nat} {f : Feature} (here : fs[i]? = some f)
    (tags : List String) :
    (selectByTags tags fs)[i]? = some (f.restrict fun s => Keeps tags f s) := by
  rw [selectByTags_eq, List.getElem?_map, here, Option.map_some]

theorem keeps_append_iff {a b : List String} (some_a : Tags.normalize a ≠ [])
    (some_b : Tags.normalize b ≠ []) (f : Feature) (s : Scenario) :
    Keeps (a ++ b) f s ↔ Keeps a f s ∨ Keeps b f s := by
  have some_tag : Tags.normalize (a ++ b) ≠ [] := by
    obtain ⟨tag, mem⟩ := List.exists_mem_of_ne_nil _ some_a
    exact List.ne_nil_of_mem (Tags.mem_normalize_append.2 (.inl mem))
  simp only [Keeps, some_a, some_b, some_tag, false_or, Carries, Tags.mem_normalize_append,
    or_and_right, exists_or]

/-- Selections keep exactly the scenarios with a wanted tag, where they are, or all if no tag is
wanted. They commute, are idempotent, do not depend on marks in front of tags, and two of them
together select what either selects. -/
theorem selectByTags_keeps_exactly :
    (∀ a fs, Tags.normalize a = [] → selectByTags a fs = fs) ∧
    (∀ a fs, Tags.normalize a ≠ [] → selectByTags a fs = fs.map fun f =>
      { f with
        scenarios := f.scenarios.filter fun s =>
          ∃ tag ∈ Tags.normalize a, tag ∈ f.tags ∨ tag ∈ s.tags }) ∧
    (∀ a b fs, selectByTags b (selectByTags a fs) = selectByTags a (selectByTags b fs)) ∧
    (∀ a fs, selectByTags a (selectByTags a fs) = selectByTags a fs) ∧
    (∀ (before : List String) (tag : String) (after : List String) (fs : List Feature),
      (∀ c, tag.toList.head? = some c → Chars.isBlank c = false) →
      selectByTags (before ++ ("@" ++ tag) :: after) fs =
        selectByTags (before ++ tag :: after) fs) ∧
    ∀ a b fs, Tags.normalize a ≠ [] → Tags.normalize b ≠ [] → ∀ (i : Nat) f, fs[i]? = some f →
      ∃ fa fb, (selectByTags a fs)[i]? = some fa ∧ (selectByTags b fs)[i]? = some fb ∧
        (selectByTags (a ++ b) fs)[i]? = some
          { f with
            scenarios := f.scenarios.filter fun s => s ∈ fa.scenarios ∨ s ∈ fb.scenarios } := by
  refine ⟨?_, ?_, ?_, ?_, ?_, ?_⟩
  · intro a fs nothing
    rw [selectByTags, nothing]
    rfl
  · intro a fs something
    rw [selectByTags_eq]
    refine List.map_congr_left fun f _ => ?_
    simp only [restrict, Keeps, something, false_or]
    rfl
  · intro a b fs
    rw [selectByTags_selectByTags, selectByTags_selectByTags]
    simp only [Bool.and_comm]
  · intro a fs
    rw [selectByTags_selectByTags, selectByTags_eq]
    simp only [Bool.and_self]
  · intro before tag after fs visible
    refine selectByTags_of_normalize ?_ fs
    unfold Tags.normalize
    rw [List.map_append, List.map_cons, Tags.normalizeOne_mark visible, ← List.map_cons,
      ← List.map_append]
  · intro a b fs some_a some_b i f here
    refine ⟨_, _, getElem?_selectByTags here a, getElem?_selectByTags here b, ?_⟩
    have kept : f.scenarios.filter (fun s => Keeps (a ++ b) f s) = f.scenarios.filter fun s =>
        s ∈ (f.restrict fun s => Keeps a f s).scenarios ∨
          s ∈ (f.restrict fun s => Keeps b f s).scenarios := by
      refine List.filter_congr fun s mem => ?_
      rw [decide_eq_decide, keeps_append_iff some_a some_b]
      simp [restrict, mem]
    rw [getElem?_selectByTags here, restrict, kept]

def ofTags (tags : List String) (scenarios : List (List String)) : Feature :=
  { name := "F", description := "", tags, sourcePath := "f.feature", background := none
    scenarios := scenarios.mapIdx fun i tags =>
      { name := Nat.repr i, tags, kind := .plain, group := none, parameters := .empty, steps := [] } }

def twoTagged : List Feature := [ofTags ["load"] [[], ["slow"]], ofTags [] [["slow"], [], ["load"]]]

theorem twoTagged_selected :
    selectByTags ["@"] twoTagged = twoTagged ∧
      (selectByTags [" @load "] twoTagged).map (·.scenarios.map (·.name)) = [["0", "1"], ["2"]] ∧
      selectByTags ["x", "@@slow\t"] twoTagged = selectByTags ["x", "@slow\t"] twoTagged ∧
      ∃ f, (selectByTags (["load"] ++ ["slow"]) twoTagged)[1]? = some f ∧
        f.scenarios.map (·.name) = ["0", "2"] := by
  obtain ⟨all, exact, -, -, marked, both⟩ := selectByTags_keeps_exactly
  have visible : ∀ c, "@slow\t".toList.head? = some c → Chars.isBlank c = false := by
    intro c first
    obtain rfl : '@' = c := Option.some.inj first
    decide
  obtain ⟨fa, fb, here_a, here_b, here⟩ :=
    both ["load"] ["slow"] twoTagged (by decide) (by decide) 1 _ rfl
  refine ⟨all ["@"] twoTagged (by decide), ?_, ?_, ?_⟩
  · rw [exact [" @load "] twoTagged (by decide)]
    decide
  · exact marked ["x"] "@slow\t" [] twoTagged visible
  · obtain rfl : _ = fa := Option.some.inj here_a
    obtain rfl : _ = fb := Option.some.inj here_b
    exact ⟨_, here, by decide⟩

end Feature

end LoadScript
