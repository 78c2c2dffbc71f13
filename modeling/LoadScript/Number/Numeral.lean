import LoadScript.Number.Reading
import LoadScript.Number.Shortest
import LoadScript.Text.Blank

/-!
# Numerals in scripts

How numbers of a step are written into a script. A whole number below the bound is written as an
integer, so a negative zero is written `0`; every other number by its shortest digits.
-/

set_option autoImplicit false

namespace LoadScript

namespace Numeral

/-- Whole numbers from here on are written by their shortest digits. -/
def integerBound : Nat := tenTo 15

def ofBinary64 (x : Binary64) : String :=
  match x, x.wholeMagnitude? with
  | .finite negative _ _, some n =>
    if n < integerBound then Binary64.signText (negative && n != 0) ++ Nat.repr n else x.toText
  | _, _ => x.toText

/-- The number a text denotes, a comma standing for the decimal point. -/
def read? (s : String) : Option Binary64 :=
  Chars.readBinary64 ((Chars.trim s.toList).map fun c => if c = ',' then '.' else c)

def ofTextOr (s : String) (default : Binary64) : String := ofBinary64 ((read? s).getD default)

end Numeral

end LoadScript
