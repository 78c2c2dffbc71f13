import LoadScript.Number.Binary64

/-!
# Shortest decimal digits

The text of a double is the decimal with the fewest digits that reads back as the same double; of
several, the nearest one, and of two equally near the larger. It is written positionally, without
an exponent, however large or small it is.
-/

set_option autoImplicit false

namespace LoadScript

/-- A magnitude between the bounds `low` and `high` of the numbers that read back as it. All three
are multiples of `1 / den`, and the bounds belong to the interval when `closed` holds. -/
structure ReadBack where
  low : Nat
  value : Nat
  high : Nat
  den : Nat
  closed : Bool

namespace ReadBack

/-- The interval of `m · 2 ^ e`. Below a power of two the doubles lie twice as dense. -/
def ofMagnitude (m : Nat) (e : Int) : ReadBack :=
  let quarter := e - 2
  let below := if m = twoTo 52 && Binary64.minExponent < e then 1 else 2
  { low := Binary64.scaledDen (4 * m - below) quarter
    value := Binary64.scaledDen (4 * m) quarter
    high := Binary64.scaledDen (4 * m + 2) quarter
    den := Binary64.scaledNum 1 quarter
    closed := m % 2 == 0 }

def holds (r : ReadBack) (c : Nat) (k : Int) : Bool :=
  let x := c * tenTo k.toNat * r.den
  let scale := tenTo (-k).toNat
  if r.closed then r.low * scale ≤ x && x ≤ r.high * scale
  else r.low * scale < x && x < r.high * scale

/-- The decimal of the grid of step `10 ^ k` to be written, if the grid meets the interval. -/
def onGrid (r : ReadBack) (k : Int) : Option Nat :=
  let num := r.value * tenTo (-k).toNat
  let den := r.den * tenTo k.toNat
  let down := num / den
  let up := down + 1
  match r.holds down k, r.holds up k with
  | true, true => some (if den ≤ 2 * (num % den) then up else down)
  | true, false => some down
  | false, true => some up
  | false, false => none

/-- The first decimal found on the grids of step `10 ^ k`, `10 ^ (k - 1)`, … -/
def search (r : ReadBack) : Nat → Int → Nat × Int
  | 0, k => (r.value * tenTo (-k).toNat / (r.den * tenTo k.toNat), k)
  | more + 1, k =>
    match r.onGrid k with
    | some c => (c, k)
    | none => r.search more (k - 1)

end ReadBack

/-- An exponent with `2 ^ p ≤ 10 ^ k`, at most two too large. -/
def decimalExponentAbove (p : Int) : Int :=
  if 0 ≤ p then p * 30103 / 100000 + 1 else -(-p * 30103 / 100000) + 1

/-- The digits `c` and the exponent `k` of the shortest decimal `c · 10 ^ k` of `m · 2 ^ e`. From a
grid coarser than the magnitude, twenty steps of ten reach one finer than the interval. -/
def shortestDecimal (m : Nat) (e : Int) : Nat × Int :=
  (ReadBack.ofMagnitude m e).search 20 (decimalExponentAbove (Int.ofNat m.log2 + 1 + e))

def fixedPlaces (c places : Nat) : String :=
  let digits := Nat.toDigits 10 c
  let padded := List.replicate (places + 1 - digits.length) '0' ++ digits
  let cut := padded.length - places
  String.ofList (padded.take cut) ++
    (if places = 0 then "" else "." ++ String.ofList (padded.drop cut))

def positional (c : Nat) (k : Int) : String := fixedPlaces (c * tenTo k.toNat) (-k).toNat

namespace Binary64

def signText (negative : Bool) : String := if negative then "-" else ""

def toText : Binary64 → String
  | .finite negative m e =>
    signText negative ++
      (if m = 0 then "0" else let (c, k) := shortestDecimal m e; positional c k)
  | .infinite negative => signText negative ++ "inf"
  | .nan => "NaN"

/-- The magnitude with the given number of decimal places, a half rounded to the even digit. -/
def toFixed (places : Nat) : Binary64 → String
  | .finite negative m e =>
    signText negative ++
      fixedPlaces (roundHalfEven (scaledDen m e * tenTo places) (scaledNum 1 e)) places
  | x => x.toText

end Binary64

end LoadScript
