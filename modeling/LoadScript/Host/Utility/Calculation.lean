import LoadScript.Host.Utility.Lines
import LoadScript.Host.Utility.Processes
import LoadScript.Host.Utility.Regular

set_option autoImplicit false

namespace LoadScript.Utility

/-! ## Sequences -/

/-- A decimal number as it is given: its digits without the point, how many of them stand behind the
point, and how many characters it has. -/
structure Given where
  digits : Int
  places : Nat
  width : Nat

/-- A bound of a sequence; none stands for one that is never reached. -/
abbrev SequenceEnd := Option Given

namespace Given

def scaled (g : Given) (places : Nat) : Int := g.digits * Int.ofNat (Nat.pow 10 (places - g.places))

def hexadecimal? (s : Octets) : Option Nat :=
  match s with
  | '0' :: x :: digits =>
    let (n, rest) := Shell.Arithmetic.readDigits 16 0 digits
    if (x == 'x' || x == 'X') && !digits.isEmpty && rest.isEmpty then some n else none
  | _ => none

def read? (text : Octets) : Option Given :=
  let text := text.dropWhile isSpace
  let (negative, magnitude) := match text with
    | '-' :: rest => (true, rest)
    | '+' :: rest => (false, rest)
    | rest => (false, rest)
  let width := magnitude.length + if negative then 1 else 0
  let signed := fun (n : Nat) => if negative then -(Int.ofNat n) else Int.ofNat n
  match hexadecimal? magnitude with
  | some n => some ⟨signed n, 0, width⟩
  | none =>
    match decimalNumber? magnitude with
    | some (n, exponent, []) =>
      some ⟨signed (n * Nat.pow 10 exponent.toNat), (-exponent).toNat,
        if magnitude.getLast? = some '.' then width - 1 else width⟩
    | _ => none

end Given

def isNotNumber (text : Octets) : Bool :=
  let s := text.map Char.toLower
  s = "nan".toList || s = "-nan".toList || s = "+nan".toList

def isInfinite (text : Octets) : Bool :=
  ["inf", "+inf", "infinity", "+infinity"].any fun w => text.map Char.toLower = w.toList

def decimalText (places : Nat) (n : Int) : Octets :=
  let digits := Octets.ofNat n.natAbs
  let digits := List.replicate (places + 1 - digits.length) '0' ++ digits
  let whole := digits.take (digits.length - places)
  let fraction := digits.drop (digits.length - places)
  (if n < 0 then ['-'] else []) ++ whole ++ if places = 0 then [] else '.' :: fraction

/-- Puts zeros behind the sign. -/
def withZeros (width : Nat) (s : Octets) : Octets :=
  match s with
  | '-' :: rest => '-' :: (List.replicate (width - s.length) '0' ++ rest)
  | s => List.replicate (width - s.length) '0' ++ s

structure NumberFormat where
  front : Octets
  conversion : Shell.Printing.Conversion
  kind : Char
  back : Octets

namespace NumberFormat

def splitText : Octets → Octets × Octets
  | '%' :: '%' :: rest =>
    let (front, more) := splitText rest
    ('%' :: front, more)
  | '%' :: rest => ([], '%' :: rest)
  | c :: rest =>
    let (front, more) := splitText rest
    (c :: front, more)
  | [] => ([], [])

def read (text : Octets) : Except Octets NumberFormat :=
  let wrong := fun (message : Octets) =>
    Except.error ("format ".toList ++ quoteName text ++ ' ' :: message)
  let (front, more) := splitText text
  match more with
  | _ :: spec =>
    let flags := spec.takeWhile fun c => "-+#0 '".toList.contains c
    let plain := flags.filter (· != '\'')
    let (conversion, rest, _) := Shell.Printing.readConversion (plain ++ spec.drop flags.length)
      ⟨[], [], [], false, none, false⟩
    match rest.dropWhile (· == 'L') with
    | [] => wrong "ends in %".toList
    | kind :: after =>
      if !"efgaEFGA".toList.contains kind then
        wrong ("has unknown %".toList ++ [kind] ++ " directive".toList)
      else
        match splitText after with
        | (back, []) => .ok ⟨front, conversion, kind, back⟩
        | _ => wrong "has too many % directives".toList
  | [] => wrong "has no % directive".toList

def apply (f : NumberFormat) (s : Octets) : Octets :=
  f.front ++ Shell.Printing.convertDouble f.conversion f.kind (Shell.Printing.readDouble s).1 ++
    f.back

end NumberFormat

structure Progression where
  first : Int
  step : Int
  last : Option Int

def Progression.contains (p : Progression) (n : Int) : Bool :=
  p.last.all fun last => if 0 < p.step then decide (n ≤ last) else decide (last ≤ n)

def Progression.piece (p : Progression) (shown : Int → Octets) (separator : Octets) :
    Nat → Int → List Octets → List Octets × Option Int
  | 0, n, acc => (acc.reverse, some n)
  | count + 1, n, acc =>
    if p.contains n then
      p.piece shown separator count (n + p.step) ((separator ++ shown n) :: acc)
    else (acc.reverse, none)

def writeSequence (i : Invocation) (p : Progression) (shown : Int → Octets) (separator : Octets) :
    Nat → Int → Act Unit
  | 0, _ => return
  | fuel + 1, n => do
    let (pieces, next) := p.piece shown separator 800 n []
    i.write pieces.flatten 1
    match next with
    | some n => writeSequence i p shown separator fuel n
    | none => return

def splitNumbers (words : List Octets) : List Octets × List Octets :=
  let isNumber := fun (w : Octets) => match w with
    | '-' :: c :: _ => c.isDigit || c == '.'
    | _ => false
  match words.findIdx? isNumber with
  | some n => (words.take n, words.drop n)
  | none => (words, [])

def seq : Utility := fun i => do
  let (options, numbers) := splitNumbers i.arguments
  let s ← { i with arguments := options }.select ⟨"w", "fs", "",
    [("equal-width", 'w'), ("format", 'f'), ("separator", 's')], false⟩ 1
  let operands := s.operands ++ numbers
  match operands[3]? with
  | some extra => i.misused ("extra operand ".toList ++ quoteName extra) 1
  | none =>
    if operands.isEmpty then i.misused "missing operand".toList 1
    else
      let format ← match s.value? 'f' with
        | none => pure none
        | some text =>
          match NumberFormat.read text with
          | .ok f => pure (some f)
          | .error message => i.abandon message 1
      if format.isSome && s.has 'w' then
        i.misused "format string may not be specified when printing equal width strings".toList 1
      else
        let mut given : List SequenceEnd := []
        for text in operands do
          if isNotNumber text then
            i.misused ("invalid 'not-a-number' argument: ".toList ++ quoteName text) 1
          else if isInfinite text then given := given ++ [none]
          else
            match Given.read? text with
            | some g => given := given ++ [some g]
            | none => i.misused ("invalid floating point argument: ".toList ++ quoteName text) 1
        let one : Given := ⟨1, 0, 1⟩
        let (first, step, last) : Given × Given × SequenceEnd := match given with
          | [last] => (one, one, last)
          | [first, last] => (first.getD one, one, last)
          | [first, step, last] => (first.getD one, step.getD one, last)
          | _ => (one, one, none)
        if step.digits = 0 then
          i.misused ("invalid Zero increment value: ".toList ++ quoteName (operands.getD 1 [])) 1
        else
          let places := Nat.max first.places step.places
          let unit := Nat.max places (last.elim 0 Given.places)
          let p : Progression := ⟨first.scaled unit, step.scaled unit, last.map (·.scaled unit)⟩
          let widthOf := fun (g : Given) =>
            g.width + places - g.places + (if g.places = 0 && 0 < places then 1 else 0) -
              if 0 < g.places && places = 0 then 1 else 0
          let width := if s.has 'w' then Nat.max (widthOf first) (last.elim 0 widthOf) else 0
          let shown := fun (n : Int) =>
            let text := decimalText places (Int.tdiv n (Int.ofNat (Nat.pow 10 (unit - places))))
            match format with
            | some f => f.apply text
            | none => withZeros width text
          if p.contains p.first then
            i.write (shown p.first) 1
            let separator := (s.value? 's').getD ['\n']
            writeSequence i p shown separator Act.often (p.first + p.step)
            i.write ['\n'] 1
          return 0

/-! ## Expressions -/

/-- A place in an expression: the words before it, the last one first, and the words after it. -/
structure ExpressionCursor where
  before : List Octets
  rest : List Octets

abbrev ExpressionReading := StateT ExpressionCursor (Except Octets)

namespace Calculation

def fail {α : Type} (message : Octets) : ExpressionReading α := fun _ => .error message

def move : ExpressionReading Unit := modify fun c => match c.rest with
  | [] => c
  | w :: rest => ⟨w :: c.before, rest⟩

def take? (words : List String) : ExpressionReading (Option String) := do
  match (← get).rest with
  | [] => return none
  | w :: _ =>
    match words.find? fun word => word.toList = w with
    | some word => do
      move
      return some word
    | none => return none

def missing {α : Type} : ExpressionReading α := do
  fail ("syntax error: missing argument after ".toList ++ quoteName ((← get).before.headD []))

def isNothing (s : Octets) : Bool :=
  let digits := if s.head? = some '-' then s.tail else s
  s.isEmpty || !digits.isEmpty && digits.all (· == '0')

def number (s : Octets) : ExpressionReading Int :=
  match integer? s with
  | some n => if s.head? = some '+' then fail "non-integer argument".toList else return n
  | none => fail "non-integer argument".toList

def ofBool (b : Bool) : Octets := if b then ['1'] else ['0']

/-- The part of a text that an expression matches at its front: the first group, or its length. -/
def matchFront (text expression : Octets) : ExpressionReading Octets := do
  match Regular.read false expression with
  | .error message => fail message.toList
  | .ok r =>
    let subject : Regular.Subject := ⟨text.toArray, false⟩
    let found := Regular.matchAt? subject r (fun _ _ => true) 0
    if 0 < Regular.groupCount r then return found.elim [] fun m => m.group subject 1
    else return Octets.ofNat (found.elim 0 fun m => m.finish)

def part (text position length : Octets) : Octets :=
  match integer? position, integer? length with
  | some p, some n =>
    if p ≤ 0 || n ≤ 0 then [] else (text.drop (p.toNat - 1)).take n.toNat
  | _, _ => []

def position (text characters : Octets) : Nat :=
  (text.findIdx? fun c => characters.contains c).elim 0 (· + 1)

/-- How two values compare: as numbers if both are numbers. -/
def compareValues (operator : String) (a b : Octets) : Bool :=
  let order := match integer? a, integer? b with
    | some m, some n => compare m n
    | _, _ => compareBytes a b
  match operator with
  | "<" => order == .lt
  | "<=" => order != .gt
  | "=" | "==" => order == .eq
  | "!=" => order != .eq
  | ">=" => order != .lt
  | _ => order == .gt

def calculate (operator : String) (a b : Octets) : ExpressionReading Octets := do
  let m ← number a
  let n ← number b
  let shown := fun (n : Int) =>
    (if n < 0 then ['-'] else []) ++ Octets.ofNat n.natAbs
  match operator with
  | "+" => return shown (m + n)
  | "-" => return shown (m - n)
  | "*" => return shown (m * n)
  | _ =>
    if n = 0 then fail "division by zero".toList
    else return shown (if operator = "/" then Int.tdiv m n else Int.tmod m n)

inductive Level where
  | either
  | both
  | comparison
  | sum
  | product
  | matching

def Level.operators : Level → List String
  | .either => ["|"]
  | .both => ["&"]
  | .comparison => ["<", "<=", "=", "==", "!=", ">=", ">"]
  | .sum => ["+", "-"]
  | .product => ["*", "/", "%"]
  | .matching => [":"]

def Level.next? : Level → Option Level
  | .either => some .both
  | .both => some .comparison
  | .comparison => some .sum
  | .sum => some .product
  | .product => some .matching
  | .matching => none

def Level.apply : Level → String → Octets → Octets → ExpressionReading Octets
  | .either, _, a, b =>
    return if !isNothing a then a else if isNothing b then ['0'] else b
  | .both, _, a, b => return if isNothing a || isNothing b then ['0'] else a
  | .comparison, operator, a, b => return ofBool (compareValues operator a b)
  | .matching, _, a, b => matchFront a b
  | _, operator, a, b => calculate operator a b

/-- Whether the right side is of no concern after a left side. -/
def Level.skips : Level → Octets → Bool
  | .either, a => !isNothing a
  | .both, a => isNothing a
  | _, _ => false

mutual

/-- Reads operands of a level with operators between them. What is not evaluated has no value. -/
def level : Nat → Level → (evaluates : Bool) → ExpressionReading Octets
  | 0, _, _ => fail []
  | fuel + 1, l, evaluates => do
    let first ← operand fuel l evaluates
    continueLevel fuel l evaluates first

def continueLevel : Nat → Level → Bool → Octets → ExpressionReading Octets
  | 0, _, _, a => return a
  | fuel + 1, l, evaluates, a => do
    match ← take? l.operators with
    | none => return a
    | some operator => do
      let wanted := evaluates && !l.skips a
      let b ← operand fuel l wanted
      let value ← if wanted then l.apply operator a b
        else if evaluates then l.apply operator a [] else pure []
      continueLevel fuel l evaluates value

def operand : Nat → Level → Bool → ExpressionReading Octets
  | 0, _, _ => fail []
  | fuel + 1, l, evaluates =>
    match l.next? with
    | some next => level fuel next evaluates
    | none => function fuel evaluates

def function : Nat → Bool → ExpressionReading Octets
  | 0, _ => fail []
  | fuel + 1, evaluates => do
    match ← take? ["+", "length", "match", "index", "substr"] with
    | some "+" =>
      match (← get).rest with
      | [] => missing
      | w :: _ => do
        move
        return w
    | some "length" => do
      let text ← function fuel evaluates
      return Octets.ofNat text.length
    | some "match" => do
      let text ← function fuel evaluates
      let expression ← function fuel evaluates
      if evaluates then matchFront text expression else return []
    | some "index" => do
      let text ← function fuel evaluates
      let characters ← function fuel evaluates
      return Octets.ofNat (position text characters)
    | some "substr" => do
      let text ← function fuel evaluates
      let start ← function fuel evaluates
      let length ← function fuel evaluates
      return part text start length
    | _ => value fuel evaluates

def value : Nat → Bool → ExpressionReading Octets
  | 0, _ => fail []
  | fuel + 1, evaluates => do
    match (← get).rest with
    | [] => missing
    | ['('] :: _ => do
      move
      let inner ← level fuel .either evaluates
      match (← get).rest with
      | [] => fail ("syntax error: expecting ')' after ".toList ++
          quoteName ((← get).before.headD []))
      | [')'] :: _ => do
        move
        return inner
      | w :: _ => fail ("syntax error: expecting ')' instead of ".toList ++ quoteName w)
    | [')'] :: _ => fail "syntax error: unexpected ')'".toList
    | w :: _ => do
      move
      return w

end

def evaluate (words : List Octets) : Except Octets Octets := do
  let (value, c) ← (level (20 * words.length + 20) .either true).run ⟨[], words⟩
  match c.rest with
  | [] => .ok value
  | w :: _ => .error ("syntax error: unexpected argument ".toList ++ quoteName w)

end Calculation

def expr : Utility := fun i => do
  let words := match i.arguments with
    | ['-', '-'] :: rest => rest
    | words => words
  if words.isEmpty then i.misused "missing operand".toList 2
  else
    match Calculation.evaluate words with
    | .ok value => do
      i.writeLine value
      return if Calculation.isNothing value then 1 else 0
    | .error message => i.abandon message 2

end LoadScript.Utility
