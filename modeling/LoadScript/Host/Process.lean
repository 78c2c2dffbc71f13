import LoadScript.Host.Signal
import LoadScript.Host.Volume

set_option autoImplicit false

namespace LoadScript

inductive Ending where
  | exited (code : Nat)
  | signalled (signal : Signal)
  | expired
  deriving DecidableEq, Repr

structure ProcessReport where
  ending : Ending
  stdout : List UInt8
  stderr : List UInt8
  milliseconds : Nat
  /-- For how long after the end the standard output stays open. -/
  stdoutHeld : Nat
  stderrHeld : Nat
  volume : Volume

/-- A host starts a binary with arguments for a number of milliseconds, or says why it cannot. -/
structure Host where
  start : Volume → (binary : String) → (arguments : List String) → (limit : Nat) →
    Except String ProcessReport

end LoadScript
