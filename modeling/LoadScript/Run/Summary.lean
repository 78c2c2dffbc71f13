import LoadScript.Run.Outcome
import LoadScript.Script.Generation
import LoadScript.Text.Blank

set_option autoImplicit false

namespace LoadScript

structure UnrecognizedStep where
  scenario : String
  step : String
  deriving DecidableEq, Repr

namespace UnrecognizedStep

def ofScenario (scenario : String) (steps : List String) : List UnrecognizedStep :=
  steps.map fun step => ⟨scenario, step⟩

def ofScripts (scripts : List Script) : List UnrecognizedStep :=
  scripts.flatMap fun s => ofScenario s.scenario s.unrecognized

end UnrecognizedStep

structure Summary where
  results : List ScenarioResult
  unrecognized : List UnrecognizedStep

namespace Summary

def passed (s : Summary) : Nat := (s.results.filter (·.outcome.success)).length

def failed (s : Summary) : Nat := s.results.length - s.passed

/-- Zero only when every scenario passed. -/
def exitCode (s : Summary) : Nat := if 0 < s.failed then 1 else 0

end Summary

namespace Report

def printLines (lines : List String) : String := String.join (lines.map (· ++ "\n"))

def padLeft (width : Nat) (s : String) : String := Text.spaces (width - s.length) ++ s

def padRight (width : Nat) (s : String) : String := s ++ Text.spaces (width - s.length)

def row (r : ScenarioResult) : String :=
  padLeft 7 (r.outcome.seconds.toFixed 1) ++ "s  " ++ padRight 8 r.outcome.label ++ "  " ++
    r.scenario

def rowLine (r : ScenarioResult) : String :=
  (if r.outcome.success then "  PASS  " else "  FAIL  ") ++ row r

def unrecognizedLines (steps : List UnrecognizedStep) : List String :=
  if steps.isEmpty then []
  else
    ["", "Unrecognized steps: " ++ Nat.repr steps.length] ++
      steps.map fun u => "  " ++ u.scenario ++ "  " ++ u.step

def summaryLines (s : Summary) : List String :=
  ["", "Summary"] ++ s.results.map rowLine ++ unrecognizedLines s.unrecognized ++
    ["", Nat.repr s.passed ++ " passed, " ++ Nat.repr s.failed ++ " failed, " ++
      Nat.repr s.results.length ++ " total"]

def outputLines (title text : String) : List String :=
  if Text.isBlank text then [] else ["--- " ++ title ++ " ---", Text.trimEnd text]

def failureLines (r : ScenarioResult) : List String :=
  ["", "FAILED " ++ r.scenario ++ " (" ++ r.path ++ ")"] ++
    outputLines "stdout" r.outcome.stdout ++ outputLines "stderr" r.outcome.stderr

def resultLines (r : ScenarioResult) : List String :=
  if r.outcome.success then ["PASS " ++ r.scenario] else failureLines r

def generatedLines (scripts : List Script) (outputDir : String) : List String :=
  ("Generated " ++ Nat.repr scripts.length ++ " scripts in " ++ outputDir) ::
    scripts.map fun s => "  " ++ s.path

end Report

end LoadScript
