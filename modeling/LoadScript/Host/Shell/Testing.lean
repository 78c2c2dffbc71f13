import LoadScript.Host.Shell.Arithmetic
import LoadScript.Host.Volume

set_option autoImplicit false

namespace LoadScript.Shell.Testing

inductive Kind where
  | unary
  | binary
  | andWord
  | orWord
  | notWord
  | opening
  | closing
  deriving DecidableEq

def unaryOperators : List String :=
  ["-r", "-w", "-x", "-e", "-f", "-d", "-c", "-b", "-p", "-u", "-g", "-k", "-s", "-t", "-z", "-n",
    "-h", "-O", "-G", "-L", "-S"]

def binaryOperators : List String :=
  ["=", "!=", "<", ">", "-eq", "-ne", "-ge", "-gt", "-le", "-lt", "-nt", "-ot", "-ef"]

def kind? (s : Octets) : Option Kind :=
  let name := String.ofList s
  if unaryOperators.contains name then some .unary
  else if binaryOperators.contains name then some .binary
  else
    match name with
    | "-a" => some .andWord
    | "-o" => some .orWord
    | "!" => some .notWord
    | "(" => some .opening
    | ")" => some .closing
    | _ => none

/-- What the first word is, given those behind it. A unary operator that stands in front of a binary
one, or of nothing, is a text. -/
def token? : List Octets → Option Kind
  | [] => none
  | s :: rest =>
    match kind? s with
    | some .unary =>
      match rest with
      | [] => none
      | [_] => some .unary
      | next :: _ => if kind? next = some .binary then none else some .unary
    | some .opening => if rest.isEmpty then none else some .opening
    | k => k

inductive Fault where
  | notNumber (s : Octets)
  | closingExpected
  | argumentExpected (operator : Octets)
  | leftOver (s : Octets)
  | notUnary (s : Octets)
  | notBinary (s : Octets)

def Fault.message (dialect : Dialect) (f : Fault) : Octets :=
  match dialect, f with
  | .dash, .notNumber s => "Illegal number: ".toList ++ s
  | .dash, .closingExpected => "closing paren expected".toList
  | .dash, .argumentExpected operator => operator ++ ": argument expected".toList
  | .dash, .leftOver s | .dash, .notUnary s | .dash, .notBinary s =>
    s ++ ": unexpected operator".toList
  | .bash, .notNumber s => s ++ ": integer expression expected".toList
  | .bash, .closingExpected => quotedName [')'] ++ " expected".toList
  | .bash, .argumentExpected _ => "argument expected".toList
  | .bash, .leftOver _ => "too many arguments".toList
  | .bash, .notUnary s => s ++ ": unary operator expected".toList
  | .bash, .notBinary s => s ++ ": binary operator expected".toList

/-- What conditions are about: files, and which variables have values. -/
structure Facts where
  volume : Volume
  isSet : Octets → Bool

def number? (s : Octets) : Except Fault Int :=
  let trimmed := (s.dropWhile Arithmetic.isSpace).reverse.dropWhile Arithmetic.isSpace |>.reverse
  let (negative, digits) := match trimmed with
    | '-' :: rest => (true, rest)
    | '+' :: rest => (false, rest)
    | _ => (false, trimmed)
  let n := Int.ofNat (Arithmetic.readDigits 10 0 digits).1
  let n := if negative then -n else n
  if digits.isEmpty || !digits.all Char.isDigit || Arithmetic.clamp n != n then
    .error (.notNumber s)
  else .ok n

def unary (facts : Facts) (op : Octets) (s : Octets) : Bool :=
  let entry := facts.volume.entry? (Octets.toText s)
  match String.ofList op with
  | "-z" => s.isEmpty
  | "-n" => !s.isEmpty
  | "-e" | "-a" | "-r" | "-w" | "-O" | "-G" => entry.isSome
  | "-v" => facts.isSet s
  | "-f" => entry.any Entry.isFile
  | "-d" => entry.any Entry.isDirectory
  | "-x" => entry.any Entry.isExecutable
  | "-c" => entry.any Entry.isDevice
  | "-s" => entry.any fun e => match e with
    | .file content _ => content.size != 0
    | .directory => true
    | .device _ | .link _ => false
  | "-h" | "-L" => ((facts.volume.locateName (Octets.toText s)).toOption.bind
      facts.volume.lookup).any Entry.isLink
  | _ => false

def precedes : Octets → Octets → Bool
  | _, [] => false
  | [], _ :: _ => true
  | a :: s, b :: t => if a == b then precedes s t else a < b

def binary (facts : Facts) (op a b : Octets) : Except Fault Bool := do
  let compare := fun (f : Int → Int → Bool) => do
    let m ← number? a
    let n ← number? b
    return f m n
  match String.ofList op with
  | "=" | "==" => return a == b
  | "!=" => return a != b
  | "<" => return precedes a b
  | ">" => return precedes b a
  | "-eq" => compare fun m n => m == n
  | "-ne" => compare fun m n => m != n
  | "-ge" => compare fun m n => decide (n ≤ m)
  | "-gt" => compare fun m n => decide (n < m)
  | "-le" => compare fun m n => decide (m ≤ n)
  | "-lt" => compare fun m n => decide (m < n)
  | "-ef" =>
    match facts.volume.locate (Octets.toText a), facts.volume.locate (Octets.toText b) with
    | .ok l, .ok k => return l == k
    | _, _ => return false
  | _ => return false

mutual

/-- Conditions joined by `-o`. The result comes with the words from the last one used on. -/
def readOr (facts : Facts) : Nat → List Octets → Except Fault (Bool × List Octets)
  | 0, ws => .ok (false, ws)
  | fuel + 1, ws => do
    let (a, ws) ← readAnd facts fuel ws
    if token? (ws.drop 1) = some .orWord then
      let (b, ws) ← readOr facts fuel (ws.drop 2)
      return (a || b, ws)
    else return (a, ws)

def readAnd (facts : Facts) : Nat → List Octets → Except Fault (Bool × List Octets)
  | 0, ws => .ok (false, ws)
  | fuel + 1, ws => do
    let (a, ws) ← readNot facts fuel ws
    if token? (ws.drop 1) = some .andWord then
      let (b, ws) ← readAnd facts fuel (ws.drop 2)
      return (a && b, ws)
    else return (a, ws)

def readNot (facts : Facts) : Nat → List Octets → Except Fault (Bool × List Octets)
  | 0, ws => .ok (false, ws)
  | fuel + 1, ws =>
    if token? ws = some .notWord then do
      let (a, rest) ← readNot facts fuel (if ws.length ≤ 1 then [] else ws.drop 1)
      return (!a, if ws.length ≤ 1 then ws else rest)
    else readPrimary facts fuel ws

def readPrimary (facts : Facts) : Nat → List Octets → Except Fault (Bool × List Octets)
  | 0, ws => .ok (false, ws)
  | fuel + 1, ws => do
    match ws with
    | [] => return (false, [])
    | first :: rest =>
      match token? ws with
      | some .opening =>
        if token? rest = some .closing then return (false, rest)
        else
          let (a, after) ← readOr facts fuel rest
          if token? (after.drop 1) = some .closing then return (a, after.drop 1)
          else .error .closingExpected
      | some .unary =>
        match rest with
        | s :: _ => return (unary facts first s, rest)
        | [] => .error (.argumentExpected first)
      | _ =>
        match rest with
        | op :: more =>
          if token? rest = some .binary then
            match more with
            | b :: _ => return (← binary facts op first b, more)
            | [] => .error (.argumentExpected op)
          else return (!first.isEmpty, ws)
        | [] => return (!first.isEmpty, ws)

end

def whole (facts : Facts) (ws : List Octets) : Except Fault Bool := do
  let (a, rest) ← readOr facts (4 * ws.length + 8) ws
  match rest with
  | last :: _ :: _ => .error (.leftOver last)
  | _ => return a

/-- Whether a condition holds, as dash sees it. Short ones are told by the number of their words. -/
def holdsInDash (facts : Facts) : List Octets → Except Fault Bool
  | [] => .ok false
  | [a, op, b] =>
    if kind? op = some .binary then binary facts op a b
    else if a = ['('] && b = [')'] then whole facts [op]
    else if a = ['!'] then (whole facts [op, b]).map (!·)
    else whole facts [a, op, b]
  | [a, b, c, d] =>
    if a = ['('] && d = [')'] then whole facts [b, c]
    else if a = ['!'] then
      if kind? c = some .binary then (binary facts c b d).map (!·)
      else if b = ['('] && d = [')'] then (whole facts [c]).map (!·)
      else if b = ['!'] then whole facts [c, d]
      else (whole facts [b, c, d]).map (!·)
    else whole facts [a, b, c, d]
  | ws => whole facts ws

def isUnaryInBash (s : Octets) : Bool :=
  (["-a", "-v", "-o", "-N", "-R"] ++ unaryOperators).contains (String.ofList s)

def isBinaryInBash (s : Octets) : Bool := ("==" :: binaryOperators).contains (String.ofList s)

def shortInBash (facts : Facts) : List Octets → Except Fault Bool
  | [] => .ok false
  | [a] => .ok (!a.isEmpty)
  | [a, b] =>
    if a = ['!'] then .ok b.isEmpty
    else if isUnaryInBash a then .ok (unary facts a b)
    else .error (.notUnary a)
  | a :: op :: b :: _ =>
    if isBinaryInBash op then binary facts op a b
    else if op = "-a".toList then .ok (!a.isEmpty && !b.isEmpty)
    else if op = "-o".toList then .ok (!a.isEmpty || !b.isEmpty)
    else if a = ['!'] then (shortInBash facts [op, b]).map (!·)
    else if a = ['('] && b = [')'] then .ok (!op.isEmpty)
    else .error (.notBinary op)

mutual

def readOrInBash (facts : Facts) : Nat → List Octets → Except Fault (Bool × List Octets)
  | 0, ws => .ok (false, ws)
  | fuel + 1, ws => do
    let (a, ws) ← readAndInBash facts fuel ws
    match ws with
    | ['-', 'o'] :: ws =>
      let (b, ws) ← readOrInBash facts fuel ws
      return (a || b, ws)
    | ws => return (a, ws)

def readAndInBash (facts : Facts) : Nat → List Octets → Except Fault (Bool × List Octets)
  | 0, ws => .ok (false, ws)
  | fuel + 1, ws => do
    let (a, ws) ← readTermInBash facts fuel ws
    match ws with
    | ['-', 'a'] :: ws =>
      let (b, ws) ← readAndInBash facts fuel ws
      return (a && b, ws)
    | ws => return (a, ws)

def readTermInBash (facts : Facts) : Nat → List Octets → Except Fault (Bool × List Octets)
  | 0, ws => .ok (false, ws)
  | fuel + 1, ws => do
    match ws with
    | [] => .error (.argumentExpected [])
    | ['!'] :: rest =>
      let (a, rest) ← readTermInBash facts fuel rest
      return (!a, rest)
    | ['('] :: rest =>
      match ← readOrInBash facts fuel rest with
      | (a, [')'] :: rest) => return (a, rest)
      | _ => .error .closingExpected
    | a :: op :: b :: rest =>
      if isBinaryInBash op then return (← binary facts op a b, rest)
      else if isUnaryInBash a then return (unary facts a op, b :: rest)
      else return (!a.isEmpty, op :: b :: rest)
    | [a, b] =>
      if isUnaryInBash a then return (unary facts a b, []) else return (!a.isEmpty, [b])
    | [a] => return (!a.isEmpty, [])

end

def longInBash (facts : Facts) (ws : List Octets) : Except Fault Bool := do
  let (a, rest) ← readOrInBash facts (4 * ws.length + 8) ws
  if rest.isEmpty then return a else .error (.leftOver (rest.headD []))

def holdsInBash (facts : Facts) (ws : List Octets) : Except Fault Bool := do
  match ws with
  | [a, b, c, d] =>
    if a = ['!'] then return !(← shortInBash facts [b, c, d])
    else if a = ['('] && d = [')'] then shortInBash facts [b, c]
    else longInBash facts ws
  | _ => if ws.length ≤ 3 then shortInBash facts ws else longInBash facts ws

def holds (dialect : Dialect) (facts : Facts) (ws : List Octets) : Except Fault Bool :=
  match dialect with
  | .dash => holdsInDash facts ws
  | .bash => holdsInBash facts ws

end LoadScript.Shell.Testing
