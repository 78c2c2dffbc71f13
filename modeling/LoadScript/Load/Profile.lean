import LoadScript.Load.Duration
import LoadScript.Parameters

set_option autoImplicit false

namespace LoadScript

/-- A stretch of time at whose end `target` users run. -/
structure Stage where
  seconds : Nat
  target : Nat
  deriving DecidableEq, Repr

inductive LoadProfile where
  | fixed (virtualUsers iterations : Nat)
  | ramping (startUsers : Nat) (stages : List Stage)
  deriving DecidableEq, Repr

namespace LoadProfile

/-- The sum of the stages; a fixed profile has none. -/
def totalSeconds : LoadProfile → Nat
  | .fixed _ _ => 0
  | .ramping _ stages => stages.foldr (fun stage total => stage.seconds + total) 0

def defaultDuration : String := "30s"

/-- The seconds of a duration that cannot be read. -/
def fallbackSeconds : Nat := 60

def fixedLimit : Nat := 30

def leastRampUp : Nat := 10

def leastSteady : Nat := 10

def leastRampDown : Nat := 5

/-- The whole part of `percent` percent of `total`, by way of numbers that are not much larger. -/
def percentOf (total percent : Nat) : Nat := total / 100 * percent + total % 100 * percent / 100

/-- A parameter that counts something: at least one, and one if it is no number of 32 bits. -/
def count (p : Parameters) (key : String) : Nat :=
  Nat.max ((Text.readWord32 (Text.trim (p.getOr key ""))).getD 1) 1

def users (p : Parameters) : Nat := count p "vus"

def iterations (p : Parameters) : Nat := count p "iterations"

def seconds (p : Parameters) : Nat :=
  (Duration.seconds? (p.getOr "duration" defaultDuration)).getD fallbackSeconds

def stages (users total : Nat) : List Stage :=
  let share := percentOf total 15
  let rampUp := Nat.max (percentOf total 20) leastRampUp
  [⟨rampUp, users⟩,
   ⟨Nat.max (total - rampUp - share) leastSteady, users⟩,
   ⟨Nat.max share leastRampDown, 0⟩]

def ofParameters (p : Parameters) : LoadProfile :=
  if users p ≤ 1 ∧ seconds p ≤ fixedLimit then .fixed (users p) (iterations p)
  else .ramping (Nat.max (users p / 10) 1) (stages (users p) (seconds p))

end LoadProfile

end LoadScript
