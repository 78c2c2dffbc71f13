import LoadScript.Metric
import LoadScript.Parameters
import LoadScript.Step
import LoadScript.Vocabulary.Pattern

/-!
# Definitions of steps

A definition says what a sentence contributes to a script. How it recognizes its sentences is up to
it. A vocabulary is a list of definitions; the first one that covers a sentence explains it.
-/

set_option autoImplicit false

namespace LoadScript

/-- A step with what its sentence captured, among the parameters of its scenario. -/
structure Occurrence where
  captures : List String
  step : Step
  parameters : Parameters

namespace Occurrence

/-- The captured part with the given index; a part that is not there is empty. -/
def capture (o : Occurrence) (i : Nat) : String := o.captures.getD i ""

def nonemptyCapture? (o : Occurrence) (i : Nat) : Option String :=
  if o.capture i = "" then none else some (o.capture i)

end Occurrence

/-- A way to recognize sentences. -/
structure Matcher where
  source : String
  captures : Nat
  /-- The captured parts when the text is covered. -/
  match? : String → Option (List String)

def Pattern.matcher (p : Pattern) : Matcher := ⟨p.source, p.captures, p.match?⟩

instance : Coe Pattern Matcher := ⟨Pattern.matcher⟩

structure Definition where
  pattern : Matcher
  description : String
  imports : List String := []
  metrics : List Metric := []
  code : Occurrence → String
  /-- Statements to be run once before the load, which set fields of `ctx`. -/
  setup : Option (Occurrence → String) := none
  threshold : Option (Occurrence → Option Threshold) := none

namespace Definition

def setupOf (d : Definition) (o : Occurrence) : Option String := d.setup.map (· o)

def thresholdOf (d : Definition) (o : Occurrence) : Option Threshold := d.threshold.bind (· o)

end Definition

structure Sentence where
  meaning : Pattern → Definition
  pattern : Pattern

def Sentence.definition (s : Sentence) : Definition := s.meaning s.pattern

structure Recognition where
  definition : Definition
  captures : List String

abbrev Vocabulary := List Definition

namespace Vocabulary

def find? (v : Vocabulary) (text : String) : Option Recognition :=
  v.findSome? fun d => (d.pattern.match? text).map fun captures => ⟨d, captures⟩

end Vocabulary

end LoadScript
