import LoadScript.Number.Reading
import LoadScript.Run.Environment

set_option autoImplicit false

namespace LoadScript

structure Settings where
  binary : String := "k6"
  timeoutSeconds : Nat := 1800
  baseUrl : String := "http://localhost:3000"
  username : String := "loadtest@example.com"
  password : String := "loadtest123"
  deriving DecidableEq, Repr

namespace Settings

def defaults : Settings := {}

/-- The settings under the given variables. A timeout that is no number of 64 bits is left out. -/
def ofVariables (lookUp : String → Option String) : Settings :=
  { binary := (lookUp "K6_BINARY").getD defaults.binary
    timeoutSeconds :=
      ((lookUp "K6_TIMEOUT_SECS").bind Text.readWord64).getD defaults.timeoutSeconds
    baseUrl := (lookUp "BASE_URL").getD defaults.baseUrl
    username := (lookUp "API_USERNAME").getD defaults.username
    password := (lookUp "API_PASSWORD").getD defaults.password }

def override (s : Settings) (binary : Option String) (timeoutSeconds : Option Nat) : Settings :=
  { s with
    binary := binary.getD s.binary
    timeoutSeconds := timeoutSeconds.getD s.timeoutSeconds }

def defaultEnvironment (s : Settings) : Environment :=
  Environment.ofList [("BASE_URL", s.baseUrl), ("USERNAME", s.username), ("PASSWORD", s.password)]

end Settings

end LoadScript
