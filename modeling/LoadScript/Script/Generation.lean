import LoadScript.Feature.Basic
import LoadScript.Host.Path
import LoadScript.Script.Assembly
import LoadScript.Script.Render
import LoadScript.Template
import LoadScript.Text.Slug
import LoadScript.Timestamp

set_option autoImplicit false

namespace LoadScript

structure GenerationOptions where
  outputDir : String := "generated"
  /-- The request library as seen from a script. -/
  libraryDir : String := "../lib"
  reportDir : String := "reports"
  baseUrl : String := "http://localhost:3000"
  deriving DecidableEq, Repr

structure Script where
  scenario : String
  source : String
  path : String
  profile : LoadProfile
  parameters : Parameters
  unrecognized : List String
  deriving DecidableEq, Repr

namespace Script

/-- The stem of a script's file name: the slug of its scenario, if anything is left of it. -/
def stem (scenario : String) : String :=
  if Text.slug scenario = "" then "scenario" else Text.slug scenario

def pathOf (outputDir scenario : String) : String := Path.join outputDir (stem scenario ++ ".js")

def runSteps (f : Feature) (s : Scenario) : List Step :=
  f.backgroundSteps.map (Template.substituteStep s.parameters) ++ s.steps

def draftOf (v : Vocabulary) (f : Feature) (s : Scenario) : Draft :=
  Draft.ofSteps v s.parameters (runSteps f s)

def moduleOf (v : Vocabulary) (options : GenerationOptions) (f : Feature) (s : Scenario)
    (time : Timestamp) : ScriptModule :=
  (draftOf v f s).finish
    { feature := f.name
      scenario := s.name
      exampleGroup := s.group
      sourcePath := f.sourcePath
      parameters := s.parameters
      generatedAt := time.toText }
    (LoadProfile.ofParameters s.parameters)
    { libraryDir := options.libraryDir
      reportDir := options.reportDir
      reportSlug := stem s.name
      baseUrl := options.baseUrl }

def ofScenario (v : Vocabulary) (options : GenerationOptions) (f : Feature) (s : Scenario)
    (time : Timestamp) : Script :=
  let m := moduleOf v options f s time
  { scenario := s.name
    source := render m
    path := pathOf options.outputDir s.name
    profile := m.profile
    parameters := s.parameters
    unrecognized := m.unrecognized }

def warnings (v : Vocabulary) (f : Feature) (s : Scenario) : List Warning :=
  (draftOf v f s).warnings

end Script

end LoadScript
