import LoadScript.Number.Shortest

set_option autoImplicit false

namespace LoadScript.Binary64

def ratio (m : Nat) (e : Int) : Nat × Nat := (scaledDen m e, scaledNum 1 e)

def overTenTo (num den : Nat) (k : Int) : Nat × Nat :=
  (num * tenTo (-k).toNat, den * tenTo k.toNat)

def leadingPower (num den : Nat) : Int :=
  let guess : Int := Int.ofNat (Nat.toDigits 10 num).length - Int.ofNat (Nat.toDigits 10 den).length
  let (n, d) := overTenTo num den guess
  if d ≤ n then guess else guess - 1

/-- The digits with the given number of places behind the first one, and the power of ten of the
first one. -/
def significant (places : Nat) (m : Nat) (e : Int) : Nat × Int :=
  if m = 0 then (0, 0)
  else
    let (num, den) := ratio m e
    let power := leadingPower num den
    let (n, d) := overTenTo num den (power - Int.ofNat places)
    let digits := roundHalfEven n d
    if digits = tenTo (places + 1) then (tenTo places, power + 1) else (digits, power)

def exponentText (power : Int) : String :=
  let digits := Nat.repr power.natAbs
  (if power < 0 then "-" else "+") ++ (if digits.length < 2 then "0" ++ digits else digits)

def pointed (places digits : Nat) : String :=
  let text := (Nat.repr digits).toList
  let text := List.replicate (places + 1 - text.length) '0' ++ text
  String.ofList (text.take 1 ++ (if places = 0 then [] else '.' :: text.drop 1))

def scientificMagnitude (places : Nat) (mark : Char) (m : Nat) (e : Int) : String :=
  let (digits, power) := significant places m e
  pointed places digits ++ String.singleton mark ++ exponentText power

def trimFraction (s : String) : String :=
  if s.toList.contains '.' then
    let kept := s.toList.reverse.dropWhile (· == '0')
    String.ofList (match kept with
      | '.' :: rest => rest.reverse
      | kept => kept.reverse)
  else s

/-- The shorter of positional and scientific notation to a number of significant digits; zeros at
the end of the fraction are dropped unless they are asked for. -/
def generalMagnitude (precision : Nat) (mark : Char) (keepZeros : Bool) (m : Nat) (e : Int) :
    String :=
  let precision := if precision = 0 then 1 else precision
  let (digits, power) := significant (precision - 1) m e
  let trim := fun (s : String) => if keepZeros then s else trimFraction s
  if power < -4 || Int.ofNat precision ≤ power then
    trim (pointed (precision - 1) digits) ++ String.singleton mark ++ exponentText power
  else trim (toFixed (Int.ofNat precision - 1 - power).toNat (.finite false m e))

end LoadScript.Binary64
