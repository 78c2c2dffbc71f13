set_option autoImplicit false

namespace LoadScript

structure Date where
  year : Int
  month : Nat
  day : Nat
  deriving DecidableEq, Repr

namespace Date

/-- The date of a day, counted from the start of 1970. The calendar repeats after 146097 days, and
its years are taken to begin in March, so that the leap day comes last. -/
def ofDays (days : Int) : Date :=
  let shifted := days + 719468
  let era := shifted.fdiv 146097
  let dayOfEra := (shifted.fmod 146097).toNat
  let yearOfEra := (dayOfEra - dayOfEra / 1460 + dayOfEra / 36524 - dayOfEra / 146096) / 365
  let dayOfYear := dayOfEra - (365 * yearOfEra + yearOfEra / 4 - yearOfEra / 100)
  let monthFromMarch := (5 * dayOfYear + 2) / 153
  let day := dayOfYear - (153 * monthFromMarch + 2) / 5 + 1
  let month := if monthFromMarch < 10 then monthFromMarch + 3 else monthFromMarch - 9
  { year := Int.ofNat yearOfEra + era * 400 + (if month ≤ 2 then 1 else 0), month, day }

end Date

def paddedNat (width n : Nat) : String :=
  let digits := Nat.toDigits 10 n
  String.ofList (List.replicate (width - digits.length) '0' ++ digits)

structure Timestamp where
  seconds : Int
  deriving DecidableEq, Repr

namespace Timestamp

/-- A year outside of 0 to 9999 has a sign. -/
def yearText (year : Int) : String :=
  if year < 0 then "-" ++ paddedNat 4 year.natAbs
  else if 9999 < year then "+" ++ paddedNat 4 year.natAbs
  else paddedNat 4 year.natAbs

def toText (t : Timestamp) : String :=
  let date := Date.ofDays (t.seconds.fdiv 86400)
  let time := (t.seconds.fmod 86400).toNat
  yearText date.year ++ "-" ++ paddedNat 2 date.month ++ "-" ++ paddedNat 2 date.day ++ "T" ++
    paddedNat 2 (time / 3600) ++ ":" ++ paddedNat 2 (time / 60 % 60) ++ ":" ++
    paddedNat 2 (time % 60) ++ "Z"

end Timestamp

end LoadScript
