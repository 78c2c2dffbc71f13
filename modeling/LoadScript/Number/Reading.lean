import LoadScript.Number.Binary64
import LoadScript.Number.Power
import LoadScript.Text.Ascii

set_option autoImplicit false

namespace LoadScript

namespace Chars

/-- One or more digits with an optional plus sign, denoting a number below `bound`. -/
def readUnsigned (bound : Nat) (s : List Char) : Option Nat :=
  let digits := match s with
    | '+' :: rest => rest
    | _ => s
  if digits.isEmpty || !digits.all isAsciiDigit then none
  else if digitsValue digits < bound then some (digitsValue digits) else none

def splitSign : List Char → Bool × List Char
  | '-' :: rest => (true, rest)
  | '+' :: rest => (false, rest)
  | s => (false, s)

/-- The exponent of a decimal: nothing, or a mark with a signed run of digits. -/
def readExponent : List Char → Option Int
  | [] => some 0
  | c :: rest =>
    if c = 'e' || c = 'E' then
      let (negative, digits) := splitSign rest
      if digits.isEmpty || !digits.all isAsciiDigit then none
      else
        let n := Int.ofNat (digitsValue digits)
        some (if negative then -n else n)
    else none

/-- Digits with an optional point, at least one digit, and an optional exponent. -/
def readDecimal (negative : Bool) (s : List Char) : Option Binary64 :=
  let whole := s.takeWhile isAsciiDigit
  let afterWhole := s.dropWhile isAsciiDigit
  let (fraction, afterFraction) := match afterWhole with
    | '.' :: rest => (rest.takeWhile isAsciiDigit, rest.dropWhile isAsciiDigit)
    | _ => ([], afterWhole)
  if whole.isEmpty && fraction.isEmpty then none
  else
    (readExponent afterFraction).map fun exponent =>
      Binary64.ofDecimal negative (digitsValue (whole ++ fraction))
        (exponent - Int.ofNat fraction.length)

def readWord (negative : Bool) (s : List Char) : Option Binary64 :=
  let word := String.ofList (s.map Char.toLower)
  if word = "inf" || word = "infinity" then some (.infinite negative)
  else if word = "nan" then some .nan
  else none

/-- A signed decimal, an infinity or a `nan`. -/
def readBinary64 (s : List Char) : Option Binary64 :=
  let (negative, magnitude) := splitSign s
  (readDecimal negative magnitude).or (readWord negative magnitude)

end Chars

namespace Text

def readWord32 (s : String) : Option Nat := Chars.readUnsigned (twoTo 32) s.toList

def readWord64 (s : String) : Option Nat := Chars.readUnsigned (twoTo 64) s.toList

def readBinary64 (s : String) : Option Binary64 := Chars.readBinary64 s.toList

end Text

end LoadScript
