import LoadScript.Number.Power
import LoadScript.Number.Reading
import LoadScript.Text.Alphanumeric
import LoadScript.Text.Blank
import LoadScript.Text.Case

set_option autoImplicit false

namespace LoadScript.Duration

def isUnit (c : Char) : Bool := c == 'h' || c == 'm' || c == 's'

def unitSeconds : Char → Nat
  | 'h' => 3600
  | 'm' => 60
  | _ => 1

/-- Whether a text consists of numbers with units, or goes on so after digits. -/
def isParts (digits : Bool) : List Char → Bool
  | [] => !digits
  | c :: rest =>
    if Chars.isDecimalDigit c then isParts true rest else digits && isUnit c && isParts false rest

/-- The numbers with units in a text that comes after some digits. -/
def parts (digits : List Char) : List Char → List (List Char × Char)
  | [] => []
  | c :: rest =>
    if Chars.isDecimalDigit c then parts (digits ++ [c]) rest
    else if isUnit c && !digits.isEmpty then (digits, c) :: parts [] rest
    else parts [] rest

def bound : Nat := twoTo 64

def checked (n : Nat) : Option Nat := if n < bound then some n else none

def addPart (total : Nat) (part : List Char × Char) : Option Nat := do
  let value ← Chars.readUnsigned bound part.1
  let product ← checked (value * unitSeconds part.2)
  checked (total + product)

/-- The seconds that a text denotes; units may be written in either case. -/
def seconds? (s : String) : Option Nat :=
  let text := Chars.lower (Chars.trim s.toList)
  if !text.isEmpty && isParts false text then (parts [] text).foldlM addPart 0 else none

end LoadScript.Duration
