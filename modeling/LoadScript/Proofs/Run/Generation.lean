import LoadScript.Proofs.Run.Session

set_option autoImplicit false

namespace LoadScript

namespace Warning

def isOverwritten : Warning → Bool
  | .overwritten _ _ => true
  | _ => false

end Warning

namespace Run

variable {w : Workshop} {options : RunOptions} {fs : List Feature}

theorem scriptOf_path (number : Nat) (f : Feature) (s : Scenario) :
    (scriptOf w options number f s).path = Script.pathOf options.outputDir s.name := by
  simp only [scriptOf, Script.ofScenario, generationOptions]

theorem scriptOf_scenario (number : Nat) (f : Feature) (s : Scenario) :
    (scriptOf w options number f s).scenario = s.name := by
  simp only [scriptOf, Script.ofScenario]

theorem map_scripts {β : Type} {g : Script → β} {h : Feature × Scenario → β}
    (untimed : ∀ number pair, g (scriptOf w options number pair.1 pair.2) = h pair) :
    (scripts w options fs).map g = (scenarios fs).map h := by
  unfold scripts scriptsFrom
  refine List.ext_getElem? fun i => ?_
  simp only [List.getElem?_map, List.getElem?_mapIdx, Option.map_map]
  congr 1
  funext pair
  exact untimed _ pair

theorem getElem?_scripts (i : Nat) : (scripts w options fs)[i]? =
    ((scenarios fs)[i]?).map fun pair => scriptOf w options i pair.1 pair.2 := by
  simp [scripts, scriptsFrom]

/-- A generation that succeeds has saved the scripts of all scenarios, of which there are some. -/
theorem saveAll_of_generate {t last : Traces} {ss : List Script}
    (generated : generate w options fs t = (.ok ss, last)) :
    scenarios fs ≠ [] ∧ ss = scripts w options fs ∧
      Script.saveAll t.volume ss = .ok last.volume := by
  have nonempty : scenarios fs ≠ [] := by
    intro empty
    rw [generate_of_no_scenarios w options t empty] at generated
    cases generated
  cases saving : Script.saveAll t.volume (scripts w options fs) with
  | error e =>
    obtain ⟨_, -, failed⟩ := generate_of_saveAll_error w options t saving
    rw [failed] at generated
    cases generated
  | ok after =>
    obtain ⟨last', -, rfl, succeeded⟩ := generate_of_saveAll_ok w options t nonempty saving
    rw [succeeded] at generated
    cases generated
    exact ⟨nonempty, rfl, saving⟩

/-! ## Warnings -/

/-- The warnings of writing scripts when the given paths are taken: what a scenario leaves
unexplained, and that its script takes the place of another. -/
def warningsFrom (v : Vocabulary) (outputDir : String) (taken : List String) :
    List (Feature × Scenario) → List Warning
  | [] => []
  | (f, s) :: rest =>
    let path := Script.pathOf outputDir s.name
    Script.warnings v f s ++ (if path ∈ taken then [.overwritten path s.name] else []) ++
      warningsFrom v outputDir (taken ++ [path]) rest

theorem writeScripts_warnings (pairs : List (Feature × Scenario)) (before : List Script)
    (t : Traces) {all : List Script} {last : Traces}
    (written : writeScripts w options before t pairs = (.ok all, last)) :
    last.warnings = t.warnings ++
      warningsFrom w.vocabulary options.outputDir (before.map (·.path)) pairs := by
  induction pairs generalizing before t with
  | nil =>
    cases written
    simp [warningsFrom]
  | cons pair rest ih =>
    obtain ⟨f, s⟩ := pair
    simp only [writeScripts] at written
    split at written
    · cases written
    · have later := ih _ _ written
      have taken : (before.any fun x => x.path = Script.pathOf options.outputDir s.name) =
          decide (Script.pathOf options.outputDir s.name ∈ before.map (·.path)) := by
        rw [Bool.eq_iff_iff]
        simp
      rw [later, warningsFrom, List.map_append, List.map_cons, List.map_nil]
      simp only [scriptOf_path, scriptOf_scenario, taken]
      by_cases collides : Script.pathOf options.outputDir s.name ∈ before.map (·.path)
      · simp only [collides, decide_true, if_true, Traces.warn, List.append_assoc]
      · simp only [collides, decide_false, Bool.false_eq_true, if_false, Traces.warn,
          List.append_assoc, List.nil_append]

theorem generate_warnings {t last : Traces} {ss : List Script}
    (generated : generate w options fs t = (.ok ss, last)) :
    last.warnings =
      t.warnings ++ warningsFrom w.vocabulary options.outputDir [] (scenarios fs) := by
  unfold generate at generated
  split at generated
  · cases generated
  · rename_i written
    exact writeScripts_warnings _ _ _ generated

theorem warnings_not_overwritten (v : Vocabulary) (f : Feature) (s : Scenario) :
    (Script.warnings v f s).filter (·.isOverwritten) = [] := by
  simp [Script.warnings, Draft.warnings, List.filter_append, List.filter_map, Function.comp_def,
    Warning.isOverwritten]

def collisions (ss : List Script) : List Script :=
  (ss.zipIdx.filter fun x => (ss.take x.2).any (·.path = x.1.path)).map (·.1)

def collisionsFrom (taken : List String) : List Script → List Script
  | [] => []
  | s :: rest =>
    (if s.path ∈ taken then [s] else []) ++ collisionsFrom (taken ++ [s.path]) rest

theorem collisionsFrom_eq (before after : List Script) :
    collisionsFrom (before.map (·.path)) after =
      ((after.zipIdx before.length).filter fun x =>
        ((before ++ after).take x.2).any (·.path = x.1.path)).map (·.1) := by
  induction after generalizing before with
  | nil => rfl
  | cons s after ih =>
    have later := ih (before ++ [s])
    rw [List.map_append, List.map_cons, List.map_nil, List.length_append, List.length_singleton,
      List.append_assoc, List.singleton_append] at later
    rw [collisionsFrom, later, List.zipIdx_cons, List.filter_cons, List.take_left]
    by_cases taken : s.path ∈ before.map (·.path)
    · have earlier : (before.any fun x => x.path = s.path) = true := by simpa using taken
      rw [if_pos taken, if_pos earlier]
      rfl
    · have other : ¬ (before.any fun x => x.path = s.path) = true := by simpa using taken
      rw [if_neg taken, if_neg other, List.nil_append]

theorem collisions_eq (ss : List Script) : collisions ss = collisionsFrom [] ss :=
  (collisionsFrom_eq [] ss).symm

theorem overwritten_warningsFrom (v : Vocabulary) (taken : List String) (number : Nat)
    (pairs : List (Feature × Scenario)) :
    (warningsFrom v options.outputDir taken pairs).filter (·.isOverwritten) =
      (collisionsFrom taken (scriptsFrom w options number pairs)).map fun s =>
        .overwritten s.path s.scenario := by
  induction pairs generalizing taken number with
  | nil => rfl
  | cons pair rest ih =>
    obtain ⟨f, s⟩ := pair
    rw [warningsFrom, scriptsFrom_cons, collisionsFrom, List.filter_append, List.filter_append,
      warnings_not_overwritten, List.nil_append, ih _ (number + 1), List.map_append, scriptOf_path]
    congr 1
    split
    · simp [Warning.isOverwritten, scriptOf_path, scriptOf_scenario]
    · rfl

theorem generate_overwritten {t last : Traces} {ss : List Script}
    (generated : generate w options fs t = (.ok ss, last)) :
    last.warnings.filter (·.isOverwritten) = t.warnings.filter (·.isOverwritten) ++
      (collisions ss).map fun s => .overwritten s.path s.scenario := by
  obtain ⟨-, rfl, -⟩ := saveAll_of_generate generated
  rw [generate_warnings generated, List.filter_append, collisions_eq]
  congr 1
  exact overwritten_warningsFrom w.vocabulary [] 0 (scenarios fs)

end Run

end LoadScript
