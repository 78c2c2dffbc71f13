import LoadScript.Error
import LoadScript.Host.Volume
import LoadScript.Run.Environment
import LoadScript.Run.Outcome
import LoadScript.Warning

set_option autoImplicit false

namespace LoadScript

structure EngineCall where
  script : String
  environment : Environment
  deriving DecidableEq, Repr

/-- What a call leaves behind. An error means that the engine could not be started. -/
structure EngineReply where
  result : Except Error Outcome
  volume : Volume
  warnings : List Warning

/-- An engine answers a call, given the calls before it and the state of the files. -/
structure Engine where
  answer : (history : List EngineCall) → (call : EngineCall) → Volume → EngineReply

end LoadScript
