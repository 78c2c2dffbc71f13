import LoadScript.Script.Fragment
import LoadScript.Text.Lines
import LoadScript.Vocabulary.Latency

set_option autoImplicit false

namespace LoadScript.Vocabulary.Users

open Script Pattern

def profile (pattern : Pattern) : Definition where
  pattern
  description := "Fetch the authenticated user's profile"
  imports := ["getProfile", "authHeaders", "check"]
  metrics := [.trend "userProfileDuration" "user_profile_duration"]
  code := fun _ => Text.joinLines [
    "res = getProfile(BASE_URL, authHeaders(data));",
    recordDuration "userProfileDuration",
    checkStatus "profile returned 200" 200]
  threshold := some fun o => o.latencyThreshold "user_profile_duration" none

def list (pattern : Pattern) : Definition where
  pattern
  description := "List registered users"
  imports := ["listUsers", "authHeaders", "check"]
  metrics := [.trend "userListDuration" "user_list_duration"]
  code := fun _ => Text.joinLines [
    "res = listUsers(BASE_URL, authHeaders(data));",
    recordDuration "userListDuration",
    checkStatus "users returned 200" 200]

def sentences : List Sentence := [
  ⟨profile, "el usuario consulta su perfil"⟩,
  ⟨profile, maybe "the " ++ "user " ++ oneOf ["views", "requests"] ++ " " ++
    oneOf ["their", "his", "her"] ++ " profile"⟩,
  ⟨list, "el " ++ oneOf ["usuario", "administrador"] ++ " consulta la lista de usuarios"⟩]

def definitions : List Definition := sentences.map Sentence.definition

end LoadScript.Vocabulary.Users
