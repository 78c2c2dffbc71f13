import LoadScript.Proofs.Run.Generation
import LoadScript.Proofs.Script.Accumulation
import LoadScript.Proofs.Script.Rendering

set_option autoImplicit false

namespace LoadScript

namespace Vocabulary

def recognized (v : Vocabulary) (steps : List Step) : List Step :=
  steps.filter fun s => (v.find? s.text).isSome

def unmatched (v : Vocabulary) (steps : List Step) : List Step :=
  steps.filter fun s => (v.find? s.text).isNone

variable (v : Vocabulary) (p : Parameters)

theorem explain_isSome (s : Step) : (explain v p s).isSome = (v.find? s.text).isSome := by
  simp [explain]

theorem itemOf_isGroup (s : Step) : (itemOf v p s).isGroup = (v.find? s.text).isSome := by
  rw [← explain_isSome v p s]
  unfold itemOf
  split <;> simp_all [WorkloadItem.isGroup]

theorem itemOf_of_unmatched {s : Step} (h : (v.find? s.text).isNone = true) :
    itemOf v p s = .unrecognized s.label := by
  have unexplained : explain v p s = none := by simpa [explain] using h
  rw [itemOf, unexplained]

theorem explained_recognized (steps : List Step) :
    explained v p (recognized v steps) = explained v p steps := by
  unfold explained recognized
  rw [List.filterMap_filter]
  refine List.filterMap_congr fun s _ => ?_
  have same := explain_isSome v p s
  cases h : explain v p s <;> simp_all

theorem filter_isGroup_itemOf (steps : List Step) :
    (steps.map (itemOf v p)).filter (·.isGroup) = (recognized v steps).map (itemOf v p) := by
  rw [List.filter_map, recognized]
  congr 2
  funext s
  exact itemOf_isGroup v p s

theorem not_isGroup_itemOf (steps : List Step) :
    (steps.map (itemOf v p)).filter (!·.isGroup) =
      (unmatched v steps).map (.unrecognized ·.label) := by
  have kept : (steps.map (itemOf v p)).filter (!·.isGroup) =
      (unmatched v steps).map (itemOf v p) := by
    rw [List.filter_map, unmatched]
    congr 2
    funext s
    simp [itemOf_isGroup]
  rw [kept]
  exact List.map_congr_left fun s mem => itemOf_of_unmatched v p (List.mem_filter.1 mem).2

end Vocabulary

namespace Draft

open Vocabulary

/-- The draft without its workload. -/
def tables (d : Draft) : Draft := { d with workload := [] }

theorem ofSteps_recognized (v : Vocabulary) (p : Parameters) (steps : List Step) :
    ofSteps v p (recognized v steps) =
      { ofSteps v p steps with workload := (ofSteps v p steps).workload.filter (·.isGroup) } := by
  have run (steps : List Step) := foldl_push_table tables
    (fun d e => (d.addRecognized e.1 e.2).tables) (fun _ _ _ => rfl) (fun _ _ => rfl) v p steps
    empty
  have same : (ofSteps v p (recognized v steps)).tables = (ofSteps v p steps).tables := by
    unfold ofSteps
    rw [run, run, explained_recognized]
  have workload : (ofSteps v p (recognized v steps)).workload =
      (ofSteps v p steps).workload.filter (·.isGroup) := by
    rw [ofSteps_workload, ofSteps_workload, filter_isGroup_itemOf]
  calc ofSteps v p (recognized v steps)
      = { (ofSteps v p (recognized v steps)).tables with
          workload := (ofSteps v p (recognized v steps)).workload } := rfl
    _ = _ := by rw [same, workload]; rfl

theorem finish_recognized (v : Vocabulary) (p : Parameters) (steps : List Step)
    (header : ScriptHeader) (profile : LoadProfile) (layout : ScriptLayout) :
    (ofSteps v p (recognized v steps)).finish header profile layout =
      { (ofSteps v p steps).finish header profile layout with
        workload := (ofSteps v p steps).workload.filter (·.isGroup) } := by
  have grouped : ∀ items : List WorkloadItem,
      (items.filter (·.isGroup)).any (·.isGroup) = items.any (·.isGroup) := by
    intro items
    simp [List.any_filter]
  rw [ofSteps_recognized]
  simp only [finish, requiredSymbols, grouped]

end Draft

namespace Run

open Vocabulary

/-- The unmatched steps of features with the names of their scenarios. A scenario runs the steps of
the background before its own. -/
def unmatchedSteps (v : Vocabulary) (fs : List Feature) : List UnrecognizedStep :=
  fs.flatMap fun f => f.scenarios.flatMap fun s =>
    (unmatched v (f.backgroundSteps.map (Template.substituteStep s.parameters) ++ s.steps)).map
      fun step => ⟨s.name, step.label⟩

theorem scriptOf_unrecognized (w : Workshop) (options : RunOptions) (number : Nat) (f : Feature)
    (s : Scenario) : (scriptOf w options number f s).unrecognized =
      (unmatched w.vocabulary (Script.runSteps f s)).map (·.label) := by
  have items := not_isGroup_itemOf w.vocabulary s.parameters (Script.runSteps f s)
  rw [← Draft.ofSteps_workload] at items
  exact (congrArg (List.map WorkloadItem.label) items).trans List.map_map

theorem ofScripts_scripts (w : Workshop) (options : RunOptions) (fs : List Feature) :
    UnrecognizedStep.ofScripts (scripts w options fs) = unmatchedSteps w.vocabulary fs := by
  have each : (scripts w options fs).map
      (fun script => UnrecognizedStep.ofScenario script.scenario script.unrecognized) =
      (scenarios fs).map fun pair => (unmatched w.vocabulary (Script.runSteps pair.1 pair.2)).map
        fun step => ⟨pair.2.name, step.label⟩ := by
    refine map_scripts fun number pair => ?_
    rw [scriptOf_unrecognized, scriptOf_scenario, UnrecognizedStep.ofScenario, List.map_map]
    rfl
  rw [UnrecognizedStep.ofScripts, List.flatMap_def, each, ← List.flatMap_def, scenarios,
    List.flatMap_assoc]
  simp only [List.flatMap_map]
  rfl

theorem executeFrom_unrecognized (w : Workshop) (env : Environment) (us : List UnrecognizedStep)
    (ss : List Script) (results : List ScenarioResult) (t : Traces) {summary : Summary}
    {last : Traces} (executed : executeFrom w env us results t ss = (.ok summary, last)) :
    summary.unrecognized = us := by
  induction ss generalizing results t with
  | nil =>
    cases executed
    rfl
  | cons script rest ih =>
    cases reply : (w.engine.answer t.calls (callOf env script) t.volume).result with
    | error e =>
      obtain ⟨_, -, stopped⟩ := executeFrom_cons_error w env us results rest reply
      rw [stopped] at executed
      cases executed
    | ok outcome =>
      obtain ⟨next, -, -, step⟩ := executeFrom_cons_ok w env us results rest reply
      rw [step] at executed
      exact ih _ next executed

end Run

open Vocabulary Script Text in
/-- A step that no definition explains is a comment line of its script and an entry of the report,
and is nothing else: without such steps a module has the same imports, metrics, thresholds and
setup. -/
theorem unmatched_steps_only_noted (v : Vocabulary) (p : Parameters) (steps : List Step)
    (header : ScriptHeader) (profile : LoadProfile) (layout : ScriptLayout) :
    let m := (Draft.ofSteps v p steps).finish header profile layout
    (Draft.ofSteps v p (recognized v steps)).finish header profile layout =
        { m with workload := m.workload.filter (·.isGroup) } ∧
      m.workload.filter (!·.isGroup) = (unmatched v steps).map (.unrecognized ·.label) ∧
      (∃ before after,
        feedLines (render m) = before ++ feedLines (workloadSection m.workload) ++ after) ∧
      (feedLines (workloadSection m.workload)).filter isMarked = (unmatched v steps).map (fun s =>
        (unrecognizedMark ++ commentText s.label).toList) ∧
      (∀ label, (commentText label).toList =
          label.toList.map (fun c => if Chars.isLineTerminator c then ' ' else c) ∧
        ∀ c ∈ (unrecognizedMark ++ commentText label).toList, Chars.isLineTerminator c = false) ∧
      ∀ (w : Workshop) (options : RunOptions) (fs : List Feature) (t written : Traces)
        (ss : List Script), Run.generate w options fs t = (.ok ss, written) →
        UnrecognizedStep.ofScripts ss = Run.unmatchedSteps w.vocabulary fs ∧
          ∀ summary last, Run.execute w options ss written = (.ok summary, last) →
            summary.unrecognized = Run.unmatchedSteps w.vocabulary fs := by
  have workload : ((Draft.ofSteps v p steps).finish header profile layout).workload =
      steps.map (itemOf v p) := Draft.ofSteps_workload v p steps
  have unexplained : (steps.map (itemOf v p)).filter (!·.isGroup) =
      (unmatched v steps).map (.unrecognized ·.label) := not_isGroup_itemOf v p steps
  refine ⟨Draft.finish_recognized v p steps header profile layout, ?_,
    feedLines_render_workload _, ?_, fun label => ⟨String.toList_ofList, marked_oneLine label⟩, ?_⟩
  · rw [workload, unexplained]
  · rw [workloadSection_marked, workload, unexplained, List.map_map]
    rfl
  · intro w options fs t written ss generated
    obtain ⟨-, rfl, -⟩ := Run.saveAll_of_generate generated
    refine ⟨Run.ofScripts_scripts w options fs, fun summary last executed => ?_⟩
    rw [Run.executeFrom_unrecognized _ _ _ _ _ _ executed, Run.ofScripts_scripts]

def waitOnly : Workshop :=
  { emptyShop with vocabulary := [Draft.declaring "wait" (.counter "waits" "waits")] }

def mostlyUnmatched : Feature where
  name := "F"
  description := ""
  tags := []
  sourcePath := "f"
  background := some [⟨"Given", "all of <n>", none, none⟩]
  scenarios := [{
    name := "S"
    tags := []
    kind := .templated
    group := none
    parameters := ⟨[("n", "2")], by decide⟩
    steps := [⟨"When", "wait", none, none⟩, ⟨"Then", "this\nand that", none, none⟩] }]

theorem mostlyUnmatched_noted :
    ∃ ss written, Run.generate waitOnly {} [mostlyUnmatched] (Traces.ofVolume Volume.empty) =
        (.ok ss, written) ∧
      UnrecognizedStep.ofScripts ss = [⟨"S", "Given all of 2"⟩, ⟨"S", "Then this\nand that"⟩] := by
  have found : Run.unmatchedSteps waitOnly.vocabulary [mostlyUnmatched] =
      [⟨"S", "Given all of 2"⟩, ⟨"S", "Then this\nand that"⟩] := by
    decide +kernel
  have saves : (Script.saveAll Volume.empty
      (Run.scripts waitOnly {} [mostlyUnmatched])).isOk = true := by decide +kernel
  obtain ⟨written, generated, -⟩ := Run.exists_generate waitOnly {} (by decide) saves
  obtain ⟨-, -, -, -, -, reported⟩ := unmatched_steps_only_noted waitOnly.vocabulary .empty []
    ⟨"F", "S", none, "f", .empty, "now"⟩ (.fixed 1 1) ⟨"lib", "reports", "s", "url"⟩
  refine ⟨_, written, generated, ?_⟩
  rw [(reported waitOnly {} [mostlyUnmatched] _ written _ generated).1, found]

end LoadScript
