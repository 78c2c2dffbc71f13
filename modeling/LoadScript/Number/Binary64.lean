import LoadScript.Number.Power

/-!
# Double precision numbers

A double is a sign with a magnitude `mantissa · 2 ^ exponent`, an infinity or no number at all.
Operations are exact on the magnitudes and round once, to the nearest double and at equal distance
to the even mantissa. A magnitude beyond the largest double is infinite.
-/

set_option autoImplicit false

namespace LoadScript

/-- The quotient `num / den` rounded to the nearest natural number, a half to the even one. -/
def roundHalfEven (num den : Nat) : Nat :=
  let q := num / den
  let r := num % den
  if 2 * r < den then q
  else if den < 2 * r then q + 1
  else if q % 2 = 0 then q else q + 1

inductive Binary64 where
  | finite (negative : Bool) (mantissa : Nat) (exponent : Int)
  | infinite (negative : Bool)
  | nan
  deriving Repr, DecidableEq

namespace Binary64

/-- The least exponent; zero and the subnormal numbers have it. -/
def minExponent : Int := -1074

def maxExponent : Int := 971

def zero (negative : Bool) : Binary64 := .finite negative 0 minExponent

def scaledNum (num : Nat) (e : Int) : Nat := num * twoTo (-e).toNat

def scaledDen (den : Nat) (e : Int) : Nat := den * twoTo e.toNat

/-- The exponent at which the positive ratio `num / den` has a mantissa of 53 bits. -/
def ratioExponent (num den : Nat) : Int :=
  let top : Int := Int.ofNat num.log2 - Int.ofNat den.log2
  let e := if scaledDen den top ≤ scaledNum num top then top - 52 else top - 53
  if e < minExponent then minExponent else e

/-- The double of a rounded mantissa: 53 one bits may have been rounded up to 54 bits. -/
def normalize (negative : Bool) (m : Nat) (e : Int) : Binary64 :=
  let (m, e) := if m = twoTo 53 then (twoTo 52, e + 1) else (m, e)
  if maxExponent < e then .infinite negative else .finite negative m e

def ofRatio (negative : Bool) (num den : Nat) : Binary64 :=
  if num = 0 then zero negative
  else
    let e := ratioExponent num den
    normalize negative (roundHalfEven (scaledNum num e) (scaledDen den e)) e

def ofNat (n : Nat) : Binary64 := ofRatio false n 1

/-- Decimal magnitudes of more than this many places before the point are infinite. -/
def decimalOverflow : Int := 310

/-- Decimal magnitudes that start further than this behind the point are zero. -/
def decimalUnderflow : Int := -330

def ofDecimal (negative : Bool) (digits : Nat) (exponent : Int) : Binary64 :=
  let places : Int := Int.ofNat (Nat.toDigits 10 digits).length + exponent
  if digits = 0 then zero negative
  else if decimalOverflow < places then .infinite negative
  else if places < decimalUnderflow then zero negative
  else ofRatio negative (digits * tenTo exponent.toNat) (tenTo (-exponent).toNat)

/-- The double with the given 64 bits: sign, eleven bits of exponent, 52 bits of mantissa. -/
def ofBits (bits : Nat) : Binary64 :=
  let negative := bits / twoTo 63 % 2 == 1
  let biased := bits / twoTo 52 % twoTo 11
  let fraction := bits % twoTo 52
  if biased = twoTo 11 - 1 then
    if fraction = 0 then .infinite negative else .nan
  else if biased = 0 then .finite negative fraction minExponent
  else .finite negative (twoTo 52 + fraction) (Int.ofNat biased - 1075)

def divNat (x : Binary64) (n : Nat) : Binary64 :=
  match x with
  | .finite negative m e => ofRatio negative (scaledDen m e) (scaledNum n e)
  | _ => x

def addMagnitudes : Binary64 → Binary64 → Binary64
  | .finite _ m e, .finite _ n f =>
    let num := scaledDen m e * scaledNum 1 f + scaledDen n f * scaledNum 1 e
    ofRatio false num (scaledNum 1 e * scaledNum 1 f)
  | .nan, _ => .nan
  | _, .nan => .nan
  | _, _ => .infinite false

def wholeMagnitude? : Binary64 → Option Nat
  | .finite _ m e =>
    if scaledDen m e % scaledNum 1 e = 0 then some (scaledDen m e / scaledNum 1 e) else none
  | _ => none

end Binary64

end LoadScript
