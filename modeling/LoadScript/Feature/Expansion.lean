import LoadScript.Feature.Basic
import LoadScript.Gherkin.Document
import LoadScript.Tags
import LoadScript.Template

/-!
# Expansion of documents

A scenario with example blocks gives one scenario for each data row, in the order of blocks and
rows. Scenarios of a rule take over its tags and its background. Repeated names are numbered.
-/

set_option autoImplicit false

namespace LoadScript

open Gherkin

namespace Step

def ofSource (s : SourceStep) : Step := make s.keyword (Text.trim s.text) s.table s.docstring

end Step

structure Inherited where
  tags : List String
  steps : List Step
  deriving DecidableEq, Repr

namespace Inherited

def none : Inherited := ⟨[], []⟩

def ofRule (r : Rule) : Inherited :=
  ⟨Tags.normalize r.tags, (r.background.getD []).map Step.ofSource⟩

end Inherited

/-- The parameters of a data row: each column of the header with the cell under it, or with the
empty text where the row is too short. -/
def rowParameters (header row : List String) : Parameters :=
  Parameters.ofList (header.mapIdx fun i column => (Text.trim column, Text.trim (row.getD i "")))

namespace Gherkin.Examples

def groupName (e : Examples) : Option String := (e.name.map Text.trim).filter (· ≠ "")

def label (e : Examples) : String := e.groupName.getD "Default"

end Gherkin.Examples

namespace Scenario

def allSteps (s : SourceScenario) (inherited : Inherited) : List Step :=
  inherited.steps ++ s.steps.map Step.ofSource

def allTags (s : SourceScenario) (inherited : Inherited) : List String :=
  inherited.tags ++ Tags.normalize s.tags

def ofRow (s : SourceScenario) (inherited : Inherited) (e : Examples)
    (header row : List String) (number : Nat) : Scenario :=
  let parameters := rowParameters header row
  { name := Text.trim s.name ++ " [" ++ e.label ++ " — Row " ++ Nat.repr number ++ "]"
    tags := Tags.normalize (allTags s inherited ++ Tags.normalize e.tags)
    kind := .templated
    group := e.groupName
    parameters
    steps := (allSteps s inherited).map (Template.substituteStep parameters) }

def ofExamples (s : SourceScenario) (inherited : Inherited) (e : Examples) :
    List Scenario :=
  match e.table with
  | some (header :: rows) => rows.mapIdx fun i row => ofRow s inherited e header row (i + 1)
  | _ => []

/-- A scenario without example blocks is taken as it stands. -/
def expand (s : SourceScenario) (inherited : Inherited) : List Scenario :=
  if s.examples.isEmpty then
    [{ name := Text.trim s.name
       tags := Tags.normalize (allTags s inherited)
       kind := .plain
       group := none
       parameters := Parameters.empty
       steps := allSteps s inherited }]
  else s.examples.flatMap (ofExamples s inherited)

def numberedName (name : String) (occurrence : Nat) : String :=
  if occurrence ≤ 1 then name else name ++ " (" ++ Nat.repr occurrence ++ ")"

def tally (name : String) : List (String × Nat) → List (String × Nat)
  | [] => [(name, 1)]
  | (n, k) :: rest => if n = name then (n, k + 1) :: rest else (n, k) :: tally name rest

def tallied (seen : List (String × Nat)) (name : String) : Nat :=
  ((seen.find? (·.1 = name)).map (·.2)).getD 0

/-- Numbers the repeats of a name; `seen` counts the names that came before. -/
def numberRepeats (seen : List (String × Nat)) : List Scenario → List Scenario
  | [] => []
  | s :: rest =>
    let seen := tally s.name seen
    { s with name := numberedName s.name (tallied seen s.name) } :: numberRepeats seen rest

end Scenario

namespace Feature

def documentScenarios (doc : Document) : List Scenario :=
  doc.scenarios.flatMap (Scenario.expand · Inherited.none) ++
    doc.rules.flatMap fun r => r.scenarios.flatMap (Scenario.expand · (Inherited.ofRule r))

def ofDocument (doc : Document) (sourcePath : String) : Feature :=
  { name := Text.trim doc.name
    description := Text.trim (doc.description.getD "")
    tags := Tags.normalize doc.tags
    sourcePath
    background := doc.background.map (·.map Step.ofSource)
    scenarios := Scenario.numberRepeats [] (documentScenarios doc) }

end Feature

end LoadScript
