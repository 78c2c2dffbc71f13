import LoadScript.Host.Utility.Basic
import LoadScript.Timestamp

set_option autoImplicit false

namespace LoadScript.Utility

def startOfTime : Nat := 1700000000

def dayNames : List String :=
  ["Sunday", "Monday", "Tuesday", "Wednesday", "Thursday", "Friday", "Saturday"]

def monthNames : List String :=
  ["January", "February", "March", "April", "May", "June", "July", "August", "September",
    "October", "November", "December"]

def dateField (seconds micros : Nat) (letter : Char) : Option String :=
  let days := seconds / 86400
  let date := Date.ofDays days
  let second := seconds % 86400
  let two := paddedNat 2
  let hour := second / 3600
  let minute := second / 60 % 60
  let year := toString date.year
  let weekday := (days + 4) % 7
  let newYear := (List.range 366).find? fun n =>
    let d := Date.ofDays (Int.ofNat days - Int.ofNat n)
    d.month = 1 && d.day = 1
  let day := dayNames.getD weekday ""
  let month := monthNames.getD (date.month - 1) ""
  let short := fun (s : String) => String.ofList (s.toList.take 3)
  match letter with
  | 's' => some (Nat.repr seconds)
  | 'N' => some (paddedNat 9 (1000 * micros))
  | 'Y' => some year
  | 'y' => some (two (date.year.toNat % 100))
  | 'm' => some (two date.month)
  | 'd' => some (two date.day)
  | 'e' => some (String.ofList (padLeft 2 (Octets.ofNat date.day)))
  | 'H' => some (two hour)
  | 'I' => some (two ((hour + 11) % 12 + 1))
  | 'M' => some (two minute)
  | 'S' => some (two (second % 60))
  | 'p' => some (if hour < 12 then "AM" else "PM")
  | 'j' => some (paddedNat 3 (newYear.getD 0 + 1))
  | 'a' => some (short day)
  | 'A' => some day
  | 'b' | 'h' => some (short month)
  | 'B' => some month
  | 'u' => some (Nat.repr (if weekday = 0 then 7 else weekday))
  | 'w' => some (Nat.repr weekday)
  | 'F' => some (year ++ "-" ++ two date.month ++ "-" ++ two date.day)
  | 'T' => some (two hour ++ ":" ++ two minute ++ ":" ++ two (second % 60))
  | 'R' => some (two hour ++ ":" ++ two minute)
  | 'D' => some (two date.month ++ "/" ++ two date.day ++ "/" ++ two (date.year.toNat % 100))
  | 'Z' => some "UTC"
  | 'z' => some "+0000"
  | 'n' => some "\n"
  | 't' => some "\t"
  | '%' => some "%"
  | _ => none

def formatDate (seconds micros : Nat) : Octets → Octets
  | '%' :: letter :: rest =>
    match dateField seconds micros letter with
    | some text => text.toList ++ formatDate seconds micros rest
    | none => '%' :: letter :: formatDate seconds micros rest
  | c :: rest => c :: formatDate seconds micros rest
  | [] => []

def dateNow (format : String) : Act Octets := do
  let now ← Act.call .time
  return formatDate (startOfTime + now / 1000000) (now % 1000000) format.toList

end LoadScript.Utility
