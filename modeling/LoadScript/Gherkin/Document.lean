import LoadScript.Step

set_option autoImplicit false

namespace LoadScript.Gherkin

structure SourceStep where
  keyword : String
  text : String
  table : Option Table
  docstring : Option String
  deriving DecidableEq, Repr

/-- A block of example rows. Without a table it gives no rows. -/
structure Examples where
  name : Option String
  tags : List String
  table : Option Table
  deriving DecidableEq, Repr

/-- A scenario; it is a template when it has example blocks. -/
structure SourceScenario where
  name : String
  tags : List String
  steps : List SourceStep
  examples : List Examples
  deriving DecidableEq, Repr

structure Rule where
  tags : List String
  background : Option (List SourceStep)
  scenarios : List SourceScenario
  deriving DecidableEq, Repr

structure Document where
  name : String
  description : Option String
  tags : List String
  background : Option (List SourceStep)
  scenarios : List SourceScenario
  rules : List Rule
  deriving DecidableEq, Repr

end LoadScript.Gherkin
