import LoadScript.Number.Numeral
import LoadScript.Vocabulary.Definition

set_option autoImplicit false

namespace LoadScript

namespace Chars

def dropReversedUnit : List Char → List Char
  | 's' :: 'm' :: rest => dropReversedUnit rest
  | s => s

def dropUnit (s : List Char) : List Char := (dropReversedUnit s.reverse).reverse

end Chars

namespace Occurrence

/-- The number in the parameter `threshold` as written, without its unit. -/
def thresholdText? (o : Occurrence) : Option String :=
  (o.parameters.get? "threshold").bind fun value =>
    let number := Chars.trim (Chars.dropUnit (Chars.trim value.toList))
    if (Chars.readBinary64 number).isSome then some (String.ofList number) else none

/-- The rule of the parameter on `metric`, or that of the default number of milliseconds. -/
def latencyThreshold (o : Occurrence) (metric : String) (default : Option String) :
    Option Threshold :=
  (o.thresholdText?.or default).map fun number => ⟨metric, "p(95)<" ++ number⟩

end Occurrence

end LoadScript
