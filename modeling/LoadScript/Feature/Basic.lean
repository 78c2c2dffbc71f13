import LoadScript.Parameters
import LoadScript.Step

set_option autoImplicit false

namespace LoadScript

inductive ScenarioKind where
  | plain
  | templated
  deriving DecidableEq, Repr

namespace ScenarioKind

def name : ScenarioKind → String
  | .plain => "plain"
  | .templated => "templated"

end ScenarioKind

structure Scenario where
  name : String
  tags : List String
  kind : ScenarioKind
  group : Option String
  parameters : Parameters
  steps : List Step
  deriving DecidableEq, Repr

structure Feature where
  name : String
  description : String
  tags : List String
  sourcePath : String
  background : Option (List Step)
  scenarios : List Scenario
  deriving DecidableEq, Repr

namespace Feature

def backgroundSteps (f : Feature) : List Step := f.background.getD []

end Feature

end LoadScript
