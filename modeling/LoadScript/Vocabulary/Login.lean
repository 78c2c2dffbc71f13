import LoadScript.Script.Fragment
import LoadScript.Text.Lines
import LoadScript.Vocabulary.Definition

set_option autoImplicit false

namespace LoadScript.Vocabulary.Login

open Script Pattern

def loginSetup (o : Occurrence) : String :=
  let username := (o.nonemptyCapture? 0).elim "__ENV.USERNAME" literal
  Text.joinLines [
    "const session = login(BASE_URL, " ++ username ++ ", __ENV.PASSWORD);",
    r"if (!session || !session.token) {",
    "  fail(`Authentication failed for " ++ interpolated username ++ "`);",
    r"}",
    "ctx.token = session.token;"]

def login (pattern : Pattern) : Definition where
  pattern
  description := "Log in once during setup and share the token with every iteration"
  imports := ["login", "fail", "check"]
  code := fun _ => checkStatement "data" "session token present" "(d) => Boolean(d && d.token)"
  setup := some loginSetup

def health (pattern : Pattern) : Definition where
  pattern
  description := "Probe the health endpoint"
  imports := ["http", "check"]
  code := fun _ => Text.joinLines [
    "res = http.get(`" ++ interpolated "BASE_URL" ++ "/health`);",
    checkStatus "API is available" 200]

def sentences : List Sentence := [
  ⟨login, maybe "que " ++ "el usuario " ++
    oneOf ["está autenticado", "ha iniciado sesión", "inicia sesión"] ++
    maybe (" como \"" ++ quotable ++ "\"")⟩,
  ⟨login, maybe "the " ++ "user is " ++ oneOf ["authenticated", "logged in"] ++
    maybe (" as \"" ++ quotable ++ "\"")⟩,
  ⟨health, maybe "que " ++ "la API está disponible"⟩,
  ⟨health, maybe "the " ++ "API is " ++ oneOf ["available", "up"]⟩]

def definitions : List Definition := sentences.map Sentence.definition

end LoadScript.Vocabulary.Login
