import LoadScript.Number.Numeral
import LoadScript.Vocabulary.Definition

set_option autoImplicit false

namespace LoadScript.Vocabulary.ThinkTime

open Pattern

def seconds (o : Occurrence) (i default : Nat) : String :=
  Numeral.ofTextOr (o.capture i) (Binary64.ofNat default)

def fixed (pattern : Pattern) : Definition where
  pattern
  description := "Fixed think time"
  imports := ["sleep"]
  code := fun o => "sleep(" ++ seconds o 0 1 ++ ");"

def ranged (pattern : Pattern) : Definition where
  pattern
  description := "Random think time in a range"
  imports := ["sleep"]
  code := fun o =>
    let least := seconds o 0 1
    let most := seconds o 1 3
    "sleep(" ++ least ++ " + Math.random() * (" ++ most ++ " - " ++ least ++ "));"

def sentences : List Sentence := [
  ⟨ranged, "el usuario espera entre " ++ decimalOrComma ++ " y " ++ decimalOrComma ++ " segundos"⟩,
  ⟨fixed, "el usuario espera " ++ decimalOrComma ++ " segundo" ++ maybe "s"⟩,
  ⟨ranged, maybe "the " ++ "user waits between " ++ decimal ++ " and " ++ decimal ++ " seconds"⟩,
  ⟨fixed, maybe "the " ++ "user waits " ++ decimal ++ " second" ++ maybe "s"⟩]

def definitions : List Definition := sentences.map Sentence.definition

end LoadScript.Vocabulary.ThinkTime
