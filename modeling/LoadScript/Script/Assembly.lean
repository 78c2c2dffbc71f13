import LoadScript.Script.Module
import LoadScript.Vocabulary.Definition
import LoadScript.Warning

/-!
# Assembly of scripts

The steps of a scenario are looked up one after another, and what each contributes is merged: a
metric that is declared again takes the new declaration at its old place, the rules of a metric are
collected, and a rule or a setup fragment that is there already is not repeated.
-/

set_option autoImplicit false

namespace LoadScript

structure Draft extends Contributions where
  symbols : List String

namespace Draft

def empty : Draft where
  metrics := []
  thresholds := []
  setup := []
  workload := []
  symbols := []

/-- The last declaration of a name counts; it stands where the name came first. -/
def declareMetric (m : Metric) : List Metric → List Metric
  | [] => [m]
  | n :: rest => if n.name = m.name then m :: rest else n :: declareMetric m rest

def appendNew (s : String) (ss : List String) : List String :=
  if ss.contains s then ss else ss ++ [s]

def addThreshold (t : Threshold) : List MetricRules → List MetricRules
  | [] => [⟨t.metric, [t.rule]⟩]
  | r :: rest =>
    if r.metric = t.metric then { r with rules := appendNew t.rule r.rules } :: rest
    else r :: addThreshold t rest

def addRecognized (d : Draft) (found : Definition) (o : Occurrence) : Draft :=
  { metrics := found.metrics.foldl (fun ms m => declareMetric m ms) d.metrics
    thresholds := (found.thresholdOf o).elim d.thresholds (addThreshold · d.thresholds)
    setup := (found.setupOf o).elim d.setup (appendNew · d.setup)
    workload := d.workload ++ [.group o.step.label (found.code o)]
    symbols := d.symbols ++ found.imports }

def addUnrecognized (d : Draft) (label : String) : Draft :=
  { d with workload := d.workload ++ [.unrecognized label] }

def push (v : Vocabulary) (p : Parameters) (d : Draft) (s : Step) : Draft :=
  match v.find? s.text with
  | some found => d.addRecognized found.definition ⟨found.captures, s, p⟩
  | none => d.addUnrecognized s.label

def ofSteps (v : Vocabulary) (p : Parameters) (steps : List Step) : Draft :=
  steps.foldl (push v p) empty

/-- The symbols that the script needs; steps that are recognised are grouped. -/
def requiredSymbols (d : Draft) : List String :=
  d.symbols ++ (if d.workload.any (·.isGroup) then ["group"] else [])

/-- The steps without a definition, then the symbols without a module. -/
def warnings (d : Draft) : List Warning :=
  d.unrecognized.map .unmatchedStep ++ (Import.unknown d.requiredSymbols).map .unknownSymbol

end Draft

structure ScriptLayout where
  libraryDir : String
  reportDir : String
  reportSlug : String
  baseUrl : String

namespace Draft

def finish (d : Draft) (header : ScriptHeader) (profile : LoadProfile) (layout : ScriptLayout) :
    ScriptModule :=
  { d.toContributions with
    header
    profile
    imports := Import.resolve d.requiredSymbols (d.metrics.map (·.kind)) layout.libraryDir
    baseUrl := layout.baseUrl
    reportDir := layout.reportDir
    reportSlug := layout.reportSlug }

end Draft

end LoadScript
