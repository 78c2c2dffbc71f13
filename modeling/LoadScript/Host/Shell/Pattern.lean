import LoadScript.Host.Shell.Command

set_option autoImplicit false

namespace LoadScript.Shell

/-- A character of an expanded word: whether it was quoted, and whether it comes from an expansion
that is cut into fields. -/
structure Mark where
  char : Char
  quoted : Bool
  splits : Bool
  deriving DecidableEq, Repr

namespace Mark

def isBare (m : Mark) (c : Char) : Bool := !m.quoted && m.char == c

def literal (s : Octets) : List Mark := s.map fun c => ⟨c, true, false⟩

def text (ms : List Mark) : Octets := ms.map Mark.char

end Mark

namespace Pattern

def classes : List (String × (Char → Bool)) :=
  let isPunctuation := fun (c : Char) => '!' ≤ c && c ≤ '~' && !c.isAlphanum
  let isSpace := fun (c : Char) => c == ' ' || ('\t' ≤ c && c ≤ '\r')
  [("alpha", Char.isAlpha), ("digit", Char.isDigit), ("alnum", Char.isAlphanum),
    ("upper", Char.isUpper), ("lower", Char.isLower), ("space", isSpace),
    ("blank", fun c => c == ' ' || c == '\t'), ("punct", isPunctuation),
    ("print", fun c => ' ' ≤ c && c ≤ '~'), ("graph", fun c => '!' ≤ c && c ≤ '~'),
    ("cntrl", fun c => c < ' ' || c.toNat = 127),
    ("xdigit", fun c => c.isDigit || ('a' ≤ c && c ≤ 'f') || ('A' ≤ c && c ≤ 'F'))]

inductive Member where
  | range (low high : Char)
  | named (name : String)

def Member.accepts (c : Char) : Member → Bool
  | .range low high => low ≤ c && c ≤ high
  | .named name => (classes.find? (·.1 = name)).any fun e => e.2 c

inductive Atom where
  | anyText
  | anyChar
  | exactly (c : Char)
  | oneOf (negated : Bool) (members : List Member)

def Atom.accepts : Atom → Char → Bool
  | .anyText, _ => false
  | .anyChar, _ => true
  | .exactly d, c => c == d
  | .oneOf negated members, c => (members.any (Member.accepts c)) != negated

def className? (ms : List Mark) : Option (String × List Mark) :=
  let name := (ms.takeWhile fun m => m.char.isAlpha).map Mark.char
  match ms.drop name.length with
  | colon :: closing :: rest =>
    if colon.isBare ':' && closing.isBare ']' && classes.any (·.1 = String.ofList name) then
      some (String.ofList name, rest)
    else none
  | _ => none

/-- The members up to a closing bracket, which may itself be the first member. -/
def readMembers? : Nat → (first : Bool) → List Mark → Option (List Member × List Mark)
  | 0, _, _ => none
  | _, _, [] => none
  | fuel + 1, first, m :: rest =>
    let add := fun (member : Member) (after : List Mark) =>
      (readMembers? fuel false after).map fun (members, after) => (member :: members, after)
    let single := fun (c : Char) (after : List Mark) =>
      match after with
      | hyphen :: high :: more =>
        if hyphen.isBare '-' && !high.isBare ']' then
          match high.isBare '\\', more with
          | true, escaped :: more => add (.range c escaped.char) more
          | _, _ => add (.range c high.char) more
        else add (.range c c) after
      | _ => add (.range c c) after
    if m.isBare ']' && !first then some ([], rest)
    else if m.isBare '[' && rest.head?.any (·.isBare ':') then
      match className? (rest.drop 1) with
      | some (name, after) => add (.named name) after
      | none => single '[' rest
    else if m.isBare '\\' then
      match rest with
      | escaped :: after => single escaped.char after
      | [] => none
    else single m.char rest

def readSet? (ms : List Mark) : Option (Atom × List Mark) :=
  let (negated, inside) := match ms with
    | m :: rest => if m.isBare '!' then (true, rest) else (false, ms)
    | [] => (false, ms)
  (readMembers? (inside.length + 1) true inside).map fun (members, after) =>
    (.oneOf negated members, after)

/-- Reads a pattern; an opening bracket without a set stands for itself. -/
def readFrom : Nat → List Mark → List Atom
  | 0, _ => []
  | _, [] => []
  | fuel + 1, m :: rest =>
    if m.isBare '*' then .anyText :: readFrom fuel rest
    else if m.isBare '?' then .anyChar :: readFrom fuel rest
    else if m.isBare '[' then
      match readSet? rest with
      | some (set, after) => set :: readFrom fuel after
      | none => .exactly '[' :: readFrom fuel rest
    else if m.isBare '\\' then
      match rest with
      | escaped :: after => .exactly escaped.char :: readFrom fuel after
      | [] => [.exactly '\\']
    else .exactly m.char :: readFrom fuel rest

def read (ms : List Mark) : List Atom := readFrom ms.length ms

def tails : Octets → List Octets
  | [] => [[]]
  | c :: rest => (c :: rest) :: tails rest

def covers : List Atom → Octets → Bool
  | [], s => s.isEmpty
  | [.anyText], _ => true
  | .anyText :: p, s => (tails s).any (covers p)
  | _ :: _, [] => false
  | a :: p, c :: s => a.accepts c && covers p s

def isPattern (ms : List Mark) : Bool :=
  ms.any fun m => m.isBare '*' || m.isBare '?' || m.isBare '['

def dropFront (longest : Bool) (p : List Atom) (s : Octets) : Octets :=
  let fronts := List.range (s.length + 1)
  let fronts := if longest then fronts.reverse else fronts
  match fronts.find? fun n => covers p (s.take n) with
  | some n => s.drop n
  | none => s

def larger : Option Nat → Option Nat → Option Nat
  | some m, some n => some (Nat.max m n)
  | m, n => m <|> n

def longestFront? : List Atom → Octets → Option Nat
  | [], _ => some 0
  | [.anyText], s => some s.length
  | .anyText :: p, s =>
    (tails s).foldl (fun best tail =>
      larger best ((longestFront? p tail).map (· + (s.length - tail.length)))) none
  | _ :: _, [] => none
  | a :: p, c :: s => if a.accepts c then (longestFront? p s).map (· + 1) else none

def replaceFrom (all : Bool) (p : List Atom) (new : Octets → Octets) : Nat → Octets → Octets
  | 0, s => s
  | _, [] => []
  | fuel + 1, c :: rest =>
    match (longestFront? p (c :: rest)).filter (0 < ·) with
    | some n =>
      let after := (c :: rest).drop n
      new ((c :: rest).take n) ++ (if all then replaceFrom all p new fuel after else after)
    | none => c :: replaceFrom all p new fuel rest

def replace (extent : Extent) (p : List Atom) (new : Octets → Octets) (s : Octets) : Octets :=
  match extent with
  | .first => replaceFrom false p new s.length s
  | .all => replaceFrom true p new s.length s
  | .front =>
    match longestFront? p s with
    | some n => new (s.take n) ++ s.drop n
    | none => s
  | .back =>
    match (List.range (s.length + 1)).find? fun n => covers p (s.drop n) with
    | some n => s.take n ++ new (s.drop n)
    | none => s

def dropBack (longest : Bool) (p : List Atom) (s : Octets) : Octets :=
  let ends := List.range (s.length + 1)
  let ends := if longest then ends else ends.reverse
  match ends.find? fun n => covers p (s.drop n) with
  | some n => s.take n
  | none => s

end Pattern

end LoadScript.Shell
