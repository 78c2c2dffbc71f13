set_option autoImplicit false

namespace LoadScript

inductive Warning where
  | unmatchedStep (label : String)
  | unknownSymbol (symbol : String)
  /-- Two scenarios have the same script path. -/
  | overwritten (path scenario : String)
  | timedOut (script : String) (seconds : Nat)
  deriving DecidableEq, Repr

namespace Warning

def message : Warning → String
  | .unmatchedStep label => "no step definition matches, emitting comment step=" ++ label
  | .unknownSymbol symbol => "no module exports symbol, import skipped symbol=" ++ symbol
  | .overwritten path scenario =>
    "scenario name collides with an earlier one, script overwritten path=" ++ path ++
      " scenario=" ++ scenario
  | .timedOut script seconds =>
    "k6 timed out, process killed script=" ++ script ++ " timeout_secs=" ++ Nat.repr seconds

end Warning

end LoadScript
