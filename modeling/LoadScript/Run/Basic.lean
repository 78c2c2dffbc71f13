import LoadScript.Feature.Discovery
import LoadScript.Feature.Json
import LoadScript.Feature.Selection
import LoadScript.Run.Engine
import LoadScript.Run.Settings
import LoadScript.Run.Summary
import LoadScript.Script.Saving

/-!
# Runs

A run reads the features of a target, writes a script for each scenario, and lets the engine run
the scripts one after another. It may stop after reading or after writing. Scripts that fail do not
stop it, an engine that cannot be started does.
-/

set_option autoImplicit false

namespace LoadScript

structure RunOptions where
  parseOnly : Bool := false
  generateOnly : Bool := false
  overrides : Environment := Environment.empty
  outputDir : String := "generated"
  tags : List String := []
  deriving DecidableEq, Repr

structure Workshop where
  vocabulary : Vocabulary
  settings : Settings
  engine : Engine
  /-- The time at which the script with the given number is generated. -/
  clock : Nat → Timestamp

/-- What a stage of a run leaves behind besides its result. -/
structure Traces where
  output : String := ""
  warnings : List Warning := []
  calls : List EngineCall := []
  volume : Volume

namespace Traces

def ofVolume (v : Volume) : Traces := { volume := v }

def print (t : Traces) (lines : List String) : Traces :=
  { t with output := t.output ++ Report.printLines lines }

def warn (t : Traces) (ws : List Warning) : Traces := { t with warnings := t.warnings ++ ws }

end Traces

namespace Run

def features (v : Volume) (target : String) (options : RunOptions) : Except Error (List Feature) :=
  (Feature.ofTarget v target).map (Feature.selectByTags options.tags)

def generationOptions (w : Workshop) (options : RunOptions) : GenerationOptions :=
  { outputDir := options.outputDir, baseUrl := w.settings.baseUrl }

def scenarios (fs : List Feature) : List (Feature × Scenario) :=
  fs.flatMap fun f => f.scenarios.map fun s => (f, s)

def scriptOf (w : Workshop) (options : RunOptions) (number : Nat) (f : Feature) (s : Scenario) :
    Script :=
  Script.ofScenario w.vocabulary (generationOptions w options) f s (w.clock number)

/-- Writes the scripts of the scenarios; `before` holds those that are written already. -/
def writeScripts (w : Workshop) (options : RunOptions) (before : List Script) (t : Traces) :
    List (Feature × Scenario) → Except Error (List Script) × Traces
  | [] => (.ok before, t)
  | (f, s) :: rest =>
    let script := scriptOf w options before.length f s
    let t := t.warn (Script.warnings w.vocabulary f s)
    match Script.save t.volume script.path script.source with
    | (after, .error e) => (.error e, { t with volume := after })
    | (after, .ok ()) =>
      let collides := before.any (·.path = script.path)
      let t := { t with volume := after }
      let t := if collides then t.warn [.overwritten script.path script.scenario] else t
      writeScripts w options (before ++ [script]) t rest

def generate (w : Workshop) (options : RunOptions) (fs : List Feature) (t : Traces) :
    Except Error (List Script) × Traces :=
  match writeScripts w options [] t (scenarios fs) with
  | (.ok [], t) => (.error .noScenarios, t)
  | written => written

def environment (w : Workshop) (options : RunOptions) : Environment :=
  w.settings.defaultEnvironment.merge options.overrides

/-- Runs the scripts in order; `results` holds the results so far. -/
def executeFrom (w : Workshop) (env : Environment) (unrecognized : List UnrecognizedStep)
    (results : List ScenarioResult) (t : Traces) : List Script → Except Error Summary × Traces
  | [] => (.ok ⟨results, unrecognized⟩, t)
  | script :: rest =>
    let call : EngineCall := ⟨script.path, env⟩
    let reply := w.engine.answer t.calls call t.volume
    let t := { t.warn reply.warnings with calls := t.calls ++ [call], volume := reply.volume }
    match reply.result with
    | .error e =>
      let t := if results.isEmpty then t
        else t.print (Report.summaryLines ⟨results, unrecognized⟩)
      (.error e, t)
    | .ok outcome =>
      let result : ScenarioResult := ⟨script.scenario, script.path, outcome⟩
      let t := t.print (Report.resultLines result)
      executeFrom w env unrecognized (results ++ [result]) t rest

def execute (w : Workshop) (options : RunOptions) (scripts : List Script) (t : Traces) :
    Except Error Summary × Traces :=
  executeFrom w (environment w options) (UnrecognizedStep.ofScripts scripts) [] t scripts

end Run

def run (w : Workshop) (options : RunOptions) (target : String) (v : Volume) :
    Except Error Nat × Traces :=
  let t := Traces.ofVolume v
  match Run.features v target options with
  | .error e => (.error e, t)
  | .ok fs =>
    if options.parseOnly then
      (.ok 0, t.print [(Json.list (fs.map Feature.toJson)).pretty])
    else
      match Run.generate w options fs t with
      | (.error e, t) => (.error e, t)
      | (.ok scripts, t) =>
        if options.generateOnly then
          (.ok 0, t.print (Report.generatedLines scripts options.outputDir ++
            Report.unrecognizedLines (UnrecognizedStep.ofScripts scripts)))
        else
          match Run.execute w options scripts t with
          | (.error e, t) => (.error e, t)
          | (.ok summary, t) => (.ok summary.exitCode, t.print (Report.summaryLines summary))

end LoadScript
