import LoadScript.Host.Shell.Command

set_option autoImplicit false

namespace LoadScript.Shell.Arithmetic

/-! ## Words of 64 bits -/

def wordCount : Int := 18446744073709551616

/-- The number of 64 bits that agrees with a number in its last bits. -/
def wrap (n : Int) : Int :=
  let bits := n % wordCount
  if 2 * bits < wordCount then bits else bits - wordCount

def bits (n : Int) : Nat := (n % wordCount).toNat

def ofBits (n : Nat) : Int := wrap (Int.ofNat n)

def clamp (n : Int) : Int :=
  if wordCount ≤ 2 * n then 9223372036854775807
  else if 2 * n < -wordCount then -9223372036854775808
  else n

/-! ## Numbers -/

def digit? (c : Char) : Option Nat :=
  if c.isDigit then some (c.toNat - '0'.toNat)
  else if 'a' ≤ c && c ≤ 'z' then some (c.toNat - 'a'.toNat + 10)
  else if 'A' ≤ c && c ≤ 'Z' then some (c.toNat - 'A'.toNat + 10)
  else none

def readDigits (base : Nat) : Nat → Octets → Nat × Octets
  | n, [] => (n, [])
  | n, c :: rest =>
    match (digit? c).filter (· < base) with
    | some d => readDigits base (base * n + d) rest
    | none => (n, c :: rest)

def readNatural (s : Octets) : Nat × Octets :=
  match s with
  | '0' :: x :: d :: rest =>
    if (x == 'x' || x == 'X') && (digit? d).any (· < 16) then readDigits 16 0 (d :: rest)
    else readDigits 8 0 s
  | '0' :: _ => readDigits 8 0 s
  | _ => readDigits 10 0 s

def isSpace (c : Char) : Bool := c == ' ' || ('\t' ≤ c && c ≤ '\r')

def readNumber? (s : Octets) : Option Int :=
  let s := s.dropWhile isSpace
  let (negative, digits) := match s with
    | '-' :: rest => (true, rest)
    | '+' :: rest => (false, rest)
    | _ => (false, s)
  if s.isEmpty then some 0
  else if !digits.head?.any Char.isDigit then none
  else
    let (n, rest) := readNatural digits
    let signed := if negative then -(Int.ofNat n) else Int.ofNat n
    if rest.all isSpace && clamp signed == signed then some signed else none

/-- A number of the other dialect: any base up to 64 in front of a number sign. None means that a
digit is too large. -/
def readBased? (s : Octets) : Option Int :=
  let value? := fun (base : Nat) (digits : Octets) =>
    let digit? := fun (c : Char) =>
      if c == '@' then some 62 else if c == '_' then some 63
      else if 36 < base && c.isUpper then some (c.toNat - 'A'.toNat + 36)
      else digit? c
    digits.foldl (fun n c => do
      let n ← n
      let d ← (digit? c).filter (· < base)
      return base * n + d) (some 0)
  let found := match s with
    | '0' :: 'x' :: digits | '0' :: 'X' :: digits => value? 16 digits
    | '0' :: digits => value? 8 digits
    | _ =>
      match s.dropWhile (· != '#') with
      | _ :: digits => value? (readDigits 10 0 s).1 digits
      | [] => value? 10 s
  found.map fun n => wrap (Int.ofNat n)

/-! ## Expressions -/

/-- What a number is held in: a variable, or an element of an array. -/
structure Place where
  name : String
  key : Option Octets
  deriving DecidableEq

inductive Token where
  | number (n : Int)
  | name (s : String)
  | element (name : String) (subscript : Octets)
  | operator (s : String)
  | badNumber (s : Octets)
  | other (c : Char)
  deriving DecidableEq

structure Placed where
  token : Token
  rest : Octets

def operators : List String :=
  ["<<=", ">>=", "<=", ">=", "==", "!=", "<<", ">>", "&&", "||", "+=", "-=", "*=", "/=", "%=", "&=",
    "^=", "|=", "(", ")", "*", "/", "%", "+", "-", "<", ">", "&", "^", "|", "!", "~", "?", ":", "="]

def moreOperators : List String := ["**", "++", "--", ","]

def splitSubscript? : (depth : Nat) → Octets → Octets → Option (Octets × Octets)
  | _, _, [] => none
  | 0, acc, ']' :: rest => some (acc.reverse, rest)
  | depth + 1, acc, ']' :: rest => splitSubscript? depth (']' :: acc) rest
  | depth, acc, '[' :: rest => splitSubscript? (depth + 1) ('[' :: acc) rest
  | depth, acc, c :: rest => splitSubscript? depth (c :: acc) rest

def tokens (extended : Bool) : Nat → Octets → List Placed
  | 0, _ => []
  | _, [] => []
  | fuel + 1, c :: rest =>
    let s := c :: rest
    if isSpace c then tokens extended fuel rest
    else if c.isDigit then
      if extended then
        let digits := s.takeWhile fun d => isNameChar d || d == '#' || d == '@'
        let token := match readBased? digits with
          | some n => Token.number n
          | none => .badNumber digits
        ⟨token, s⟩ :: tokens extended fuel (s.drop digits.length)
      else
        let (n, after) := readNatural s
        ⟨.number (clamp (Int.ofNat n)), s⟩ :: tokens extended fuel after
    else if isNameStart c then
      let name := s.takeWhile isNameChar
      let after := s.drop name.length
      let isElement := extended && after.head? == some '['
      match if isElement then splitSubscript? 0 [] (after.drop 1) else none with
      | some (subscript, after) =>
        ⟨.element (String.ofList name) subscript, s⟩ :: tokens extended fuel after
      | none => ⟨.name (String.ofList name), s⟩ :: tokens extended fuel after
    else
      let known := if extended then moreOperators ++ operators else operators
      match known.find? fun op => op.toList.isPrefixOf s with
      | some op => ⟨.operator op, s⟩ :: tokens extended fuel (s.drop op.length)
      | none => ⟨.other c, s⟩ :: tokens extended fuel rest

inductive Reason where
  | operandExpected
  | closingExpected
  | colonExpected
  | endExpected
  | noOperator
  | divisionByZero
  | negativePower
  | digitTooLarge
  | notAssignable

def Reason.dashMessage : Reason → String
  | .closingExpected => "expecting ')'"
  | .colonExpected => "expecting ':'"
  | .endExpected | .noOperator => "expecting EOF"
  | .divisionByZero => "division by zero"
  | _ => "expecting primary"

def Reason.bashMessage : Reason → Octets
  | .operandExpected => "syntax error: operand expected".toList
  | .closingExpected => "missing ".toList ++ quotedName [')']
  | .colonExpected => quotedName [':'] ++ " expected for conditional expression".toList
  | .endExpected => "syntax error in expression".toList
  | .noOperator => "syntax error: invalid arithmetic operator".toList
  | .divisionByZero => "division by 0".toList
  | .negativePower => "exponent less than 0".toList
  | .digitTooLarge => "value too great for base".toList
  | .notAssignable => "attempted assignment to non-variable".toList

inductive Fault where
  /-- The text of the expression, and what is left of it where the fault is found. -/
  | expression (text : Octets) (reason : Reason) (rest : Octets)
  | number (text : Octets)

def Fault.message (dialect : Dialect) : Fault → Octets
  | .number text => "Illegal number: ".toList ++ text
  | .expression text reason rest =>
    match dialect with
    | .dash =>
      "arithmetic expression: ".toList ++ reason.dashMessage.toList ++ ": \"".toList ++ text ++
        ['"']
    | .bash =>
      text.dropWhile isSpace ++ ": ".toList ++ reason.bashMessage ++ " (error token is \"".toList ++
        rest ++ "\")".toList

structure Scope where
  value : Place → Option Octets
  /-- Whether a name is that of an array with texts as keys. -/
  isNamed : String → Bool

structure Sum where
  extended : Bool
  scope : Scope
  text : Octets
  tokens : List Placed
  last : Octets
  assigned : List (Place × Int)

abbrev Evaluation := StateT Sum (Except Fault)

namespace Evaluation

def faultAt {α : Type} (reason : Reason) (rest : Octets) : Evaluation α := fun s =>
  .error (.expression s.text reason rest)

def here : Evaluation Octets := do
  let s ← get
  return s.tokens.head?.elim s.last (·.rest)

def fault {α : Type} (reason : Reason) : Evaluation α := do faultAt reason (← here)

def peek : Evaluation (Option Token) := return (← get).tokens.head?.map (·.token)

def skip : Evaluation Unit := modify fun s =>
  { s with tokens := s.tokens.tail, last := s.tokens.head?.elim s.last (·.rest) }

def accept (op : String) : Evaluation Bool := do
  if (← peek) = some (.operator op) then
    skip
    return true
  else return false

/-- The text that a place holds, unless a number was assigned to it. -/
def lookUp (place : Place) : Evaluation (Int ⊕ Octets) := fun s =>
  match s.assigned.find? (·.1 = place) with
  | some (_, n) => .ok (.inl n, s)
  | none => .ok (.inr ((s.scope.value place).getD []), s)

def assign (place : Place) (n : Int) : Evaluation Int := fun s =>
  .ok (n, { s with assigned := (place, n) :: s.assigned })

end Evaluation

open Evaluation

def ofBool (b : Bool) : Int := if b then 1 else 0

def power (base : Int) : Nat → Int
  | 0 => 1
  | n + 1 => wrap (base * power base n)

def combine (op : String) (a b : Int) (rest : Octets) : Evaluation Int :=
  let shift := (b % 64).toNat
  match op with
  | "*" => return wrap (a * b)
  | "/" => if b = 0 then faultAt .divisionByZero rest else return wrap (Int.tdiv a b)
  | "%" => if b = 0 then faultAt .divisionByZero rest else return Int.tmod a b
  | "+" => return wrap (a + b)
  | "-" => return wrap (a - b)
  | "<<" => return ofBits (Nat.shiftLeft (bits a) shift)
  | ">>" => return Int.shiftRight a shift
  | "<" => return ofBool (decide (a < b))
  | "<=" => return ofBool (decide (a ≤ b))
  | ">" => return ofBool (decide (b < a))
  | ">=" => return ofBool (decide (b ≤ a))
  | "==" => return ofBool (a == b)
  | "!=" => return ofBool (a != b)
  | "&" => return ofBits (Nat.land (bits a) (bits b))
  | "^" => return ofBits (Nat.xor (bits a) (bits b))
  | "**" => if b < 0 then faultAt .negativePower rest else return power a b.toNat
  | _ => return ofBits (Nat.lor (bits a) (bits b))

/-- How tightly an operator binds, the tightest with the lowest number. -/
def binding? (op : String) : Option Nat :=
  match op with
  | "**" => some 0
  | "*" | "/" | "%" => some 1
  | "+" | "-" => some 2
  | "<<" | ">>" => some 3
  | "<" | "<=" | ">" | ">=" => some 4
  | "==" | "!=" => some 5
  | "&" => some 6
  | "^" => some 7
  | "|" => some 8
  | _ => none

def loosest : Int := 8

def checkEnd : Evaluation Unit := do
  match ← peek with
  | none => pure ()
  | some (.other _) => fault .noOperator
  | some (.badNumber s) => faultAt .digitTooLarge s
  | some _ => fault .endExpected

/-- The operator under an assignment, which is empty for a plain one. -/
def assignment? : Option Token → Option String
  | some (.operator op) =>
    if op = "=" then some ""
    else if ["+=", "-=", "*=", "/=", "%=", "<<=", ">>=", "&=", "^=", "|="].contains op then
      some (String.ofList op.toList.dropLast)
    else none
  | _ => none

mutual

/-- An expression, which may be an assignment. Without `live`, nothing is looked up or assigned. -/
def evaluateAssignment : Nat → (live : Bool) → Evaluation Int
  | 0, _ => fault .operandExpected
  | fuel + 1, live => do
    match (← get).tokens with
    | first :: rest =>
      match assignment? (rest.head?.map (·.token)), first.token with
      | some op, .name _ | some op, .element _ _ => do
        let place ← evaluatePlace fuel live first.token
        skip
        skip
        let start ← here
        let n ← evaluateAssignment fuel live
        if !live then return n
        else if op = "" then assign place n
        else
          let old ← evaluateValue fuel place
          let new ← combine op old n start
          assign place new
      | _, _ => do
        let n ← evaluateCondition fuel live
        let s ← get
        if s.extended && (assignment? (← peek)).isSome then fault .notAssignable
        return n
    | [] => evaluateCondition fuel live

def evaluatePlace : Nat → Bool → Token → Evaluation Place
  | 0, _, _ => fault .operandExpected
  | _ + 1, _, .name name => return ⟨name, none⟩
  | fuel + 1, live, .element name subscript => do
    if (← get).scope.isNamed name || !live then return ⟨name, some subscript⟩
    else
      let n ← evaluateText fuel subscript
      return ⟨name, some (Int.repr n).toList⟩
  | _ + 1, _, _ => fault .operandExpected

/-- The number that a place holds. One dialect takes its text for an expression. -/
def evaluateValue : Nat → Place → Evaluation Int
  | 0, _ => fault .operandExpected
  | fuel + 1, place => do
    match ← lookUp place with
    | .inl n => return n
    | .inr text =>
      if (← get).extended then
        if text.all isSpace then return 0 else evaluateText fuel text
      else
        match readNumber? text with
        | some n => return n
        | none => throw (.number text)

def evaluateText : Nat → Octets → Evaluation Int
  | 0, _ => fault .operandExpected
  | fuel + 1, text => do
    let outer ← get
    set { outer with text, last := text, tokens := tokens outer.extended (text.length + 1) text }
    let n ← evaluateSequence fuel true
    checkEnd
    modify fun s => { s with text := outer.text, last := outer.last, tokens := outer.tokens }
    return n

def evaluateCondition : Nat → Bool → Evaluation Int
  | 0, _ => fault .operandExpected
  | fuel + 1, live => do
    let test ← evaluateOr fuel live
    if ← accept "?" then
      let yes ← evaluateAssignment fuel (live && test != 0)
      if !(← accept ":") then fault .colonExpected
      let no ← evaluateCondition fuel (live && test == 0)
      return if test != 0 then yes else no
    else return test

def evaluateOr : Nat → Bool → Evaluation Int
  | 0, _ => fault .operandExpected
  | fuel + 1, live => do
    let a ← evaluateAnd fuel live
    if ← accept "||" then
      let b ← evaluateOr fuel (live && a == 0)
      return ofBool (a != 0 || b != 0)
    else return a

def evaluateAnd : Nat → Bool → Evaluation Int
  | 0, _ => fault .operandExpected
  | fuel + 1, live => do
    let first ← evaluatePrimary fuel live
    let a ← evaluateBinary fuel live loosest first
    if ← accept "&&" then
      let b ← evaluateAnd fuel (live && a != 0)
      return ofBool (a != 0 && b != 0)
    else return a

/-- Operators that bind at least as tightly as the limit, behind their first operand. -/
def evaluateBinary : Nat → Bool → (limit : Int) → Int → Evaluation Int
  | 0, _, _, _ => fault .operandExpected
  | fuel + 1, live, limit, a => do
    match ← peek with
    | some (.operator op) =>
      match (binding? op).filter fun n => Int.ofNat n ≤ limit with
      | some n => do
        skip
        let start ← here
        let first ← evaluatePrimary fuel live
        let b ← evaluateBinary fuel live (if n = 0 then 0 else Int.ofNat n - 1) first
        let c ← if live then combine op a b start else pure 0
        evaluateBinary fuel live limit c
      | none => return a
    | _ => return a

def evaluatePrimary : Nat → Bool → Evaluation Int
  | 0, _ => fault .operandExpected
  | fuel + 1, live => do
    match ← peek with
    | some (.number n) => do
      skip
      return n
    | some (.name name) => evaluateNamed fuel live (.name name)
    | some (.element name subscript) => evaluateNamed fuel live (.element name subscript)
    | some (.badNumber s) => faultAt .digitTooLarge s
    | some (.operator "(") => do
      skip
      let n ← evaluateSequence fuel live
      if !(← accept ")") then fault .closingExpected
      return n
    | some (.operator "+") => do
      skip
      evaluatePrimary fuel live
    | some (.operator "-") => do
      skip
      return wrap (-(← evaluatePrimary fuel live))
    | some (.operator "!") => do
      skip
      return ofBool ((← evaluatePrimary fuel live) == 0)
    | some (.operator "~") => do
      skip
      return -(← evaluatePrimary fuel live) - 1
    | some (.operator "++") => evaluateStep fuel live 1
    | some (.operator "--") => evaluateStep fuel live (-1)
    | _ => fault .operandExpected

def evaluateNamed : Nat → Bool → Token → Evaluation Int
  | 0, _, _ => fault .operandExpected
  | fuel + 1, live, t => do
    let place ← evaluatePlace fuel live t
    skip
    let n ← if live then evaluateValue fuel place else pure 0
    if ← accept "++" then
      if live then let _ ← assign place (wrap (n + 1))
      return n
    else if ← accept "--" then
      if live then let _ ← assign place (wrap (n - 1))
      return n
    else return n

def evaluateStep : Nat → Bool → Int → Evaluation Int
  | 0, _, _ => fault .operandExpected
  | fuel + 1, live, step => do
    skip
    match ← peek with
    | some (.name name) => do
      skip
      if live then assign ⟨name, none⟩ (wrap ((← evaluateValue fuel ⟨name, none⟩) + step))
      else return 0
    | some (.element name subscript) => do
      let place ← evaluatePlace fuel live (.element name subscript)
      skip
      if live then assign place (wrap ((← evaluateValue fuel place) + step)) else return 0
    | _ => fault .operandExpected

def evaluateSequence : Nat → Bool → Evaluation Int
  | 0, _ => fault .operandExpected
  | fuel + 1, live => do
    let n ← evaluateAssignment fuel live
    if ← accept "," then evaluateSequence fuel live else return n

end

/-- How deeply the values of variables can be expressions. -/
def valueDepth : Nat := 1024

/-- The value of an expression, and what it assigns, in order. -/
def evaluate (dialect : Dialect) (scope : Scope) (s : Octets) :
    Except Fault (Int × List (Place × Int)) := do
  let extended := dialect == .bash
  let ts := tokens extended (s.length + 1) s
  if extended && ts.isEmpty then return (0, [])
  let (n, after) ← (do
      let n ← evaluateSequence (8 * ts.length + 8 + valueDepth) true
      checkEnd
      return n : Evaluation Int) ⟨extended, scope, s, ts, s, []⟩
  return (n, after.assigned.reverse)

end LoadScript.Shell.Arithmetic
