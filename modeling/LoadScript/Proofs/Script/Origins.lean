import LoadScript.Feature.Expansion
import LoadScript.Proofs.Script.Accumulation
import LoadScript.Proofs.Template
import LoadScript.Script.Generation
import Mathlib.Data.List.Forall2

/-!
# Where the steps of a script come from

The steps of a script are those of the document's background, of the background of the rule, and of
the scenario. They come into the script on different ways: a document's background is kept in the
feature and is substituted when a script is made, the other steps when a template is expanded. On
each way a step is substituted exactly once, by the parameters of its row.
-/

set_option autoImplicit false

namespace LoadScript

open Gherkin Template

namespace Gherkin

namespace SourceStep

def resolve (p : Parameters) (s : SourceStep) : Step where
  keyword := Text.trim s.keyword
  text := substitute p (Text.trim s.text)
  table := s.table.map (·.map (·.map (substitute p)))
  docstring := s.docstring.map (substitute p)

theorem ofSource_eq_resolve_empty (s : SourceStep) :
    Step.ofSource s = s.resolve Parameters.empty := by
  have unchanged : substitute Parameters.empty = id := funext substitute_empty
  simp [Step.ofSource, Step.make, resolve, unchanged]

end SourceStep

def Examples.headedRows (e : Examples) : List (List String × List String) :=
  match e.table with
  | some (header :: rows) => rows.map (header, ·)
  | _ => []

/-- What a scenario of a feature comes from. -/
structure Origin where
  ruleSteps : List SourceStep
  scenario : SourceScenario
  row : Option (List String × List String)

namespace Origin

def parameters (origin : Origin) : Parameters :=
  origin.row.elim Parameters.empty fun (header, row) => rowParameters header row

def steps (doc : Document) (origin : Origin) : List SourceStep :=
  doc.background.getD [] ++ origin.ruleSteps ++ origin.scenario.steps

end Origin

/-- A scenario is the origin of one scenario of the feature, or of one for each of its rows. -/
def SourceScenario.origins (ruleSteps : List SourceStep) (s : SourceScenario) : List Origin :=
  if s.examples.isEmpty then [⟨ruleSteps, s, none⟩]
  else (s.examples.flatMap Examples.headedRows).map fun row => ⟨ruleSteps, s, some row⟩

def Document.origins (doc : Document) : List Origin :=
  doc.scenarios.flatMap (SourceScenario.origins []) ++
    doc.rules.flatMap fun r => r.scenarios.flatMap (SourceScenario.origins (r.background.getD []))

end Gherkin

namespace Scenario

/-! ## Expansion -/

/-- The scenario comes from the origin, up to its name and tags. -/
structure ComesFrom (origin : Origin) (s : Scenario) : Prop where
  kind : s.kind = if origin.row.isNone then .plain else .templated
  parameters : s.parameters = origin.parameters
  steps : s.steps =
    (origin.ruleSteps ++ origin.scenario.steps).map (SourceStep.resolve origin.parameters)

variable {ruleSteps : List SourceStep} {inherited : Inherited}

theorem allSteps_of_inherited (same : inherited.steps = ruleSteps.map Step.ofSource)
    (s : SourceScenario) : allSteps s inherited = (ruleSteps ++ s.steps).map Step.ofSource := by
  rw [allSteps, same, List.map_append]

theorem ofRow_comesFrom (same : inherited.steps = ruleSteps.map Step.ofSource)
    (s : SourceScenario) (e : Examples) (header row : List String) (number : Nat) :
    ComesFrom ⟨ruleSteps, s, some (header, row)⟩ (ofRow s inherited e header row number) where
  kind := rfl
  parameters := rfl
  steps := by
    change (allSteps s inherited).map (substituteStep (rowParameters header row)) = _
    rw [allSteps_of_inherited same, List.map_map]
    rfl

theorem ofExamples_comesFrom (same : inherited.steps = ruleSteps.map Step.ofSource)
    (s : SourceScenario) (e : Examples) :
    List.Forall₂ ComesFrom (e.headedRows.map fun row => ⟨ruleSteps, s, some row⟩)
      (ofExamples s inherited e) := by
  unfold Examples.headedRows ofExamples
  obtain - | - | ⟨header, rows⟩ := e.table
  · exact .nil
  · exact .nil
  · rw [List.map_map, List.forall₂_iff_get]
    refine ⟨by simp, fun i hi hj => ?_⟩
    simpa using ofRow_comesFrom same s e header _ (i + 1)

theorem expand_comesFrom (same : inherited.steps = ruleSteps.map Step.ofSource)
    (s : SourceScenario) :
    List.Forall₂ ComesFrom (s.origins ruleSteps) (expand s inherited) := by
  unfold SourceScenario.origins expand
  split
  · refine .cons ⟨rfl, rfl, ?_⟩ .nil
    rw [allSteps_of_inherited same]
    exact List.map_congr_left fun step _ => SourceStep.ofSource_eq_resolve_empty step
  · rw [List.map_flatMap]
    exact List.rel_flatMap (List.forall₂_same.2 fun _ _ => rfl)
      fun e _ h => h ▸ ofExamples_comesFrom same s e

theorem flatMap_expand_comesFrom (same : inherited.steps = ruleSteps.map Step.ofSource)
    (ss : List SourceScenario) :
    List.Forall₂ ComesFrom (ss.flatMap (SourceScenario.origins ruleSteps))
      (ss.flatMap (expand · inherited)) :=
  List.rel_flatMap (List.forall₂_same.2 fun _ _ => rfl) fun s _ h => h ▸ expand_comesFrom same s

theorem numberRepeats_comesFrom {origins : List Origin} {ss : List Scenario}
    (h : List.Forall₂ ComesFrom origins ss) (seen : List (String × Nat)) :
    List.Forall₂ ComesFrom origins (numberRepeats seen ss) := by
  induction h generalizing seen with
  | nil => exact .nil
  | cons comes _ ih => exact .cons ⟨comes.kind, comes.parameters, comes.steps⟩ (ih _)

end Scenario

namespace Feature

theorem ofDocument_comesFrom (doc : Document) (sourcePath : String) :
    List.Forall₂ Scenario.ComesFrom doc.origins (ofDocument doc sourcePath).scenarios := by
  refine Scenario.numberRepeats_comesFrom (List.rel_append ?_ ?_) []
  · exact Scenario.flatMap_expand_comesFrom rfl doc.scenarios
  · exact List.rel_flatMap (List.forall₂_same.2 fun _ _ => rfl)
      fun r _ h => h ▸ Scenario.flatMap_expand_comesFrom rfl r.scenarios

end Feature

namespace Script

/-! ## Scripts -/

theorem runSteps_of_comesFrom {doc : Document} {origin : Origin} {s : Scenario}
    (h : Scenario.ComesFrom origin s) (sourcePath : String) :
    runSteps (Feature.ofDocument doc sourcePath) s =
      (origin.steps doc).map (SourceStep.resolve origin.parameters) := by
  have background : (Feature.ofDocument doc sourcePath).backgroundSteps =
      (doc.background.getD []).map Step.ofSource := by
    cases hb : doc.background <;> simp [Feature.backgroundSteps, Feature.ofDocument, hb]
  rw [runSteps, background, h.parameters, h.steps, List.map_map, Origin.steps, List.append_assoc]
  simp only [List.map_append]
  rfl

/-- The steps of the origin, and no others, make up the module, each with its placeholders replaced
once. -/
structure RunsOnce (v : Vocabulary) (doc : Document) (origin : Origin) (m : ScriptModule) :
    Prop where
  labels : m.workload.map (·.label) = (origin.steps doc).map fun s =>
    Text.trim s.keyword ++ " " ++ substitute origin.parameters (Text.trim s.text)
  verbatim : origin.row = none → m.workload.map (·.label) = (origin.steps doc).map fun s =>
    Text.trim s.keyword ++ " " ++ Text.trim s.text
  meaning : m.toContributions.Meaning v origin.parameters
    ((origin.steps doc).map (SourceStep.resolve origin.parameters))

theorem itemOf_label (v : Vocabulary) (p : Parameters) (s : Step) :
    (Vocabulary.itemOf v p s).label = s.label := by
  unfold Vocabulary.itemOf
  split <;> rfl

theorem moduleOf_runsOnce {doc : Document} {origin : Origin} {s : Scenario}
    (h : Scenario.ComesFrom origin s) (v : Vocabulary) (options : GenerationOptions)
    (sourcePath : String) (time : Timestamp) :
    RunsOnce v doc origin (moduleOf v options (Feature.ofDocument doc sourcePath) s time) := by
  have meaning := Contributions.ofSteps_meaning v origin.parameters
    ((origin.steps doc).map (SourceStep.resolve origin.parameters))
  have draft : draftOf v (Feature.ofDocument doc sourcePath) s =
      Draft.ofSteps v origin.parameters
        ((origin.steps doc).map (SourceStep.resolve origin.parameters)) := by
    rw [draftOf, runSteps_of_comesFrom h, h.parameters]
  have labels : (draftOf v (Feature.ofDocument doc sourcePath) s).workload.map (·.label) =
      (origin.steps doc).map fun s =>
        Text.trim s.keyword ++ " " ++ substitute origin.parameters (Text.trim s.text) := by
    rw [draft, meaning.workload, List.map_map, List.map_map]
    exact List.map_congr_left fun s _ => itemOf_label _ _ _
  rw [← draft] at meaning
  refine ⟨labels, fun plain => ?_, meaning⟩
  have none_given : origin.parameters = Parameters.empty := by rw [Origin.parameters, plain]; rfl
  simp only [none_given, substitute_empty] at labels
  exact labels

/-- Each scenario of a feature has its origin in the document, and the script of the scenario runs
the steps of the origin with their placeholders replaced exactly once. -/
theorem moduleOf_substitutes_once (v : Vocabulary) (options : GenerationOptions) (doc : Document)
    (sourcePath : String) (time : Timestamp) :
    List.Forall₂
      (fun origin s => Scenario.ComesFrom origin s ∧
        RunsOnce v doc origin (moduleOf v options (Feature.ofDocument doc sourcePath) s time))
      doc.origins (Feature.ofDocument doc sourcePath).scenarios :=
  (Feature.ofDocument_comesFrom doc sourcePath).imp fun _ _ comes =>
    ⟨comes, moduleOf_runsOnce comes v options sourcePath time⟩

def nestedPlaceholders : Document where
  name := "F"
  description := none
  tags := []
  background := some [⟨"Given ", "top <a>", none, none⟩]
  scenarios := []
  rules := [{
    tags := []
    background := some [⟨"Given ", "rule <a>", none, none⟩]
    scenarios := [{
      name := "S"
      tags := []
      steps := [⟨"When ", "<a> and <b>", none, none⟩]
      examples := [⟨none, [], some [["a", "b"], ["<b>", "1"]]⟩] }] }]

example : (Feature.ofDocument nestedPlaceholders "f").scenarios.map (fun s =>
    (runSteps (Feature.ofDocument nestedPlaceholders "f") s).map (·.label)) =
      [["Given top <b>", "Given rule <b>", "When <b> and 1"]] := by
  cbv

end Script

end LoadScript
