import LoadScript.Number.Shortest

set_option autoImplicit false

namespace LoadScript

structure Outcome where
  success : Bool
  /-- None when the process was ended by a signal. -/
  exitCode : Option Int
  stdout : String
  stderr : String
  timedOut : Bool
  milliseconds : Nat
  deriving DecidableEq, Repr

namespace Outcome

def finished (exitCode : Option Int) (stdout stderr : String) (milliseconds : Nat) : Outcome :=
  { success := exitCode == some 0, exitCode, stdout, stderr, timedOut := false, milliseconds }

def timeoutNote (stderr : String) (milliseconds : Nat) : String :=
  let lineEnd := if stderr = "" || stderr.toList.getLast? = some '\n' then "" else "\n"
  stderr ++ lineEnd ++ "execution timed out after " ++ Nat.repr (milliseconds / 1000) ++ "s"

/-- A process that took too long fails; what it wrote is kept. -/
def expired (stdout stderr : String) (milliseconds : Nat) : Outcome :=
  { success := false
    exitCode := none
    stdout
    stderr := timeoutNote stderr milliseconds
    timedOut := true
    milliseconds }

def label (o : Outcome) : String :=
  if o.timedOut then "timeout"
  else
    match o.exitCode with
    | some code => "exit " ++ Int.repr code
    | none => "killed"

/-- The time as a double: the whole seconds plus the rest of a second. -/
def seconds (o : Outcome) : Binary64 :=
  Binary64.addMagnitudes (Binary64.ofNat (o.milliseconds / 1000))
    (Binary64.ofRatio false (o.milliseconds % 1000 * 1000000) 1000000000)

end Outcome

structure ScenarioResult where
  scenario : String
  path : String
  outcome : Outcome
  deriving DecidableEq, Repr

end LoadScript
