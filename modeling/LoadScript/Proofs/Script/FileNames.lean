import LoadScript.Proofs.Script.Saving
import LoadScript.Proofs.Text.Slug
import LoadScript.Script.Generation

set_option autoImplicit false

namespace LoadScript

namespace Script

open Volume Path Chars

/-- The name of the file for a scenario in the output directory. -/
def fileNameOf (scenario : String) : String := stem scenario ++ ".js"

theorem stem_ne_empty (scenario : String) : stem scenario ≠ "" := by
  unfold stem
  split
  · decide
  · assumption

theorem mem_stem {scenario : String} {c : Char} (h : c ∈ (stem scenario).toList) :
    c ≠ '/' ∧ c ≠ '.' := by
  unfold stem at h
  split at h
  · have plain : "scenario".toList.all (fun c => c ≠ '/' ∧ c ≠ '.') = true := by decide
    simpa using List.all_eq_true.1 plain c h
  · rw [Text.slug, String.toList_ofList] at h
    have marks : isAlphanumeric '/' = false ∧ isAlphanumeric '.' = false := by decide +kernel
    constructor
    · rintro rfl
      simpa [marks.1] using mem_slug h
    · rintro rfl
      simpa [marks.2] using mem_slug h

theorem fileNameOf_toList (scenario : String) : ∃ c rest,
    (stem scenario).toList = c :: rest ∧
      (fileNameOf scenario).toList = c :: (rest ++ ['.', 'j', 's']) := by
  obtain ⟨c, rest, chars⟩ := List.exists_cons_of_ne_nil
    (show (stem scenario).toList ≠ [] by simpa using stem_ne_empty scenario)
  refine ⟨c, rest, chars, ?_⟩
  rw [fileNameOf, String.toList_append, chars]
  rfl

theorem isName_fileNameOf (scenario : String) : IsName (fileNameOf scenario) := by
  obtain ⟨c, rest, -, whole⟩ := fileNameOf_toList scenario
  apply isName_of_length
  · rw [fileNameOf, String.toList_append, List.mem_append, not_or]
    exact ⟨fun mem => (mem_stem mem).1 rfl, by decide⟩
  · rw [whole]
    simp

theorem fileNameOf_visible (scenario : String) : (fileNameOf scenario).toList.head? ≠ some '.' := by
  obtain ⟨c, rest, chars, whole⟩ := fileNameOf_toList scenario
  have first : c ≠ '.' := (mem_stem (by rw [chars]; exact List.mem_cons_self)).2
  rw [whole]
  simpa using first

/-! ## Paths in a directory -/

/-- The path leads to the entry with the name in the directory, whatever the volume. -/
structure IsChild (d n path : String) : Prop where
  joined : path = join d n
  components : Path.components path = Path.components d ++ [n]
  absolute : isAbsolute path = isAbsolute d
  placed : ∀ (v : Volume) l, v.place path = .ok l → ∃ dir, v.opened d = .ok dir ∧ l = dir ++ [n]

/-- The paths are different ones, and no volume has the same place for both. -/
structure Apart (p q : String) : Prop where
  ne : p ≠ q
  components : Path.components p ≠ Path.components q
  places : ∀ (v : Volume) l, v.place p = .ok l → v.place q ≠ .ok l

theorem isChild_join {n : String} (name : IsName n) (d : String) : IsChild d n (join d n) where
  joined := rfl
  components := components_join name d
  absolute := isAbsolute_join name d
  placed _ _ placed := (fits_of_placeFrom name placed).2

theorem IsChild.apart {d e n m p q : String} (first : IsChild d n p) (second : IsChild e m q)
    (differ : n ≠ m) : Apart p q := by
  have components : Path.components p ≠ Path.components q := by
    rw [first.components, second.components]
    intro same
    exact differ (List.cons.inj (List.append_inj_right' same rfl)).1
  refine ⟨fun same => components (by rw [same]), components, fun v l here there => ?_⟩
  obtain ⟨dir, -, place⟩ := first.placed v l here
  obtain ⟨dir', -, place'⟩ := second.placed v l there
  exact differ (List.cons.inj (List.append_inj_right' (place.symm.trans place') rfl)).1

theorem pathOf_isChild (d scenario : String) :
    IsChild d (fileNameOf scenario) (pathOf d scenario) :=
  isChild_join (isName_fileNameOf scenario) d

theorem temporaryPath_isChild (d scenario : String) :
    IsChild (directoryOf (pathOf d scenario)) (temporaryName (fileNameOf scenario))
      (temporaryPath (pathOf d scenario)) := by
  have name := isName_fileNameOf scenario
  have path : temporaryPath (pathOf d scenario) =
      join (directoryOf (pathOf d scenario)) (temporaryName (fileNameOf scenario)) :=
    temporaryPath_join name d
  rw [path]
  exact isChild_join (temporaryName_isName name) _

/-- A slug is the words of the text in lower case with single hyphens between them, and it is its own
slug. A script goes into the output directory itself, under a name that is neither hidden nor the
name of a temporary file. -/
theorem slug_joins_words_path_child :
    (∀ text : String,
      Text.slug text = String.ofList (['-'].intercalate (words (lower text.toList))) ∧
      ((Text.slug text).toList.head? ≠ some '-' ∧ (Text.slug text).toList.getLast? ≠ some '-' ∧
        ¬ ['-', '-'] <:+: (Text.slug text).toList) ∧
      (Text.slug text = "" ↔ ∀ c ∈ lower text.toList, isAlphanumeric c = false) ∧
      Text.slug (Text.slug text) = Text.slug text) ∧
    ∀ d scenario : String, ∃ file : String, IsChild d file (pathOf d scenario) ∧
      file ≠ "" ∧ ".js".toList <:+ file.toList ∧ '/' ∉ file.toList ∧
      file.toList.head? ≠ some '.' ∧
      ∀ other : String, ∃ otherFile : String, IsChild d otherFile (pathOf d other) ∧
        fileName? (temporaryPath (pathOf d other)) = some ("." ++ otherFile ++ ".tmp") ∧
        Apart (pathOf d scenario) (temporaryPath (pathOf d other)) := by
  constructor
  · intro text
    refine ⟨congrArg String.ofList (slug_eq text.toList), ?_, ?_, ?_⟩
    · rw [Text.slug, String.toList_ofList, slug_eq]
      exact hyphenated_hyphens fun w mem => isWord_of_mem_words mem
    · rw [Text.slug, String.ofList_eq_empty_iff, slug_eq_nil_iff]
    · rw [Text.slug, Text.slug, String.toList_ofList, slug_slug]
  · intro d scenario
    have name := isName_fileNameOf scenario
    refine ⟨fileNameOf scenario, pathOf_isChild d scenario, name.ne_empty, ?_, name.no_slash,
      fileNameOf_visible scenario, fun other => ?_⟩
    · rw [fileNameOf, String.toList_append]
      exact List.suffix_append _ _
    · have temporary := temporaryPath_isChild d other
      refine ⟨fileNameOf other, pathOf_isChild d other, ?_,
        (pathOf_isChild d scenario).apart temporary (temporaryName_ne (fileNameOf_visible scenario))⟩
      rw [temporary.joined]
      exact fileName?_join (temporaryName_isName (isName_fileNameOf other)) _

-- The dot of the capital letter stands alone in lower case, and the last sigma is a final one.
example : Text.slug "../İz: ΟΣ." = "i-z-ος" := by decide +kernel

end Script

end LoadScript
