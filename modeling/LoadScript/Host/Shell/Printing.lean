import LoadScript.Host.Shell.Quoting
import LoadScript.Number.Reading
import LoadScript.Number.Scientific

set_option autoImplicit false

namespace LoadScript.Shell.Printing

open Escape

/-! ## Echoes -/

/-- Words with a blank between them and a line feed at the end, unless they ask for none. -/
def echoWith (extended escapes lineFeed : Bool) (words : List Octets) : Octets :=
  let text := [' '].intercalate words
  let (shown, stops) :=
    if escapes then unescape extended (text.length + 1) [] text else (text, false)
  if stops || !lineFeed then shown else shown ++ ['\n']

def isEchoOption (word : Octets) : Bool :=
  match word with
  | '-' :: c :: rest => (c :: rest).all fun d => d == 'n' || d == 'e' || d == 'E'
  | _ => false

def echo (words : List Octets) : Octets :=
  match words with
  | ['-', 'n'] :: rest => echoWith false true false rest
  | _ => echoWith false true true words

def echoWithOptions (words : List Octets) : Octets :=
  let options := (words.takeWhile isEchoOption).flatten
  let escapes := (options.filter fun c => c == 'e' || c == 'E').getLast? == some 'e'
  echoWith true escapes (!options.contains 'n') (words.dropWhile isEchoOption)

/-! ## Conversions -/

structure Conversion where
  left : Bool
  plus : Bool
  space : Bool
  alternate : Bool
  zeros : Bool
  width : Nat
  precision : Option Nat

def pad (c : Conversion) (s : Octets) : Octets :=
  let fill := List.replicate (c.width - s.length) ' '
  if c.left then s ++ fill else fill ++ s

/-- A number in a field: a sign or mark in front, then its digits. -/
def padNumber (c : Conversion) (zeros : Bool) (front digits : Octets) : Octets :=
  if zeros && !c.left then
    front ++ List.replicate (c.width - front.length - digits.length) '0' ++ digits
  else pad c (front ++ digits)

def signText (c : Conversion) (negative : Bool) : Octets :=
  if negative then ['-'] else if c.plus then ['+'] else if c.space then [' '] else []

def withPrecision (c : Conversion) (digits : Octets) : Octets :=
  match c.precision with
  | none => digits
  | some 0 => if digits = ['0'] then [] else digits
  | some n => List.replicate (n - digits.length) '0' ++ digits

def convertInteger (c : Conversion) (n : Int) : Octets :=
  padNumber c (c.zeros && c.precision.isNone) (signText c (decide (n < 0)))
    (withPrecision c (Octets.ofNat n.natAbs))

def convertNatural (c : Conversion) (kind : Char) (n : Nat) : Octets :=
  let base := if kind == 'o' then 8 else if kind == 'u' then 10 else 16
  let digits := withPrecision c (Nat.toDigits base n)
  let front := if !c.alternate || n = 0 then []
    else if kind == 'o' then (if digits.head? == some '0' then [] else ['0'])
    else if kind == 'u' then []
    else ['0', kind]
  let digits := if kind == 'X' then digits.map Char.toUpper else digits
  padNumber c (c.zeros && c.precision.isNone) front digits

def doubleDigits (c : Conversion) (kind : Char) (m : Nat) (e : Int) : Octets :=
  let places := c.precision.getD 6
  let text := match kind.toLower with
    | 'f' => Binary64.toFixed places (.finite false m e)
    | 'e' => Binary64.scientificMagnitude places (if kind.isUpper then 'E' else 'e') m e
    | _ => Binary64.generalMagnitude places (if kind.isUpper then 'E' else 'e') c.alternate m e
  text.toList

def convertDouble (c : Conversion) (kind : Char) (x : Binary64) : Octets :=
  let word := fun (s : String) => (if kind.isUpper then s.toUpper else s).toList
  match x with
  | .finite negative m e =>
    padNumber c c.zeros (signText c negative) (doubleDigits c kind m e)
  | .infinite negative => pad c (signText c negative ++ word "inf")
  | .nan => pad c (signText c false ++ word "nan")

/-! ## Arguments -/

inductive ArgumentFault where
  | notNumeric
  | incomplete
  | outOfRange

def ArgumentFault.message (dialect : Dialect) : ArgumentFault → String
  | .notNumeric => if dialect == .bash then "invalid number" else "expected numeric value"
  | .incomplete => if dialect == .bash then "invalid number" else "not completely converted"
  | .outOfRange => "Numerical result out of range"

def readSigned (s : Octets) : Option (Int × Octets) :=
  let (negative, digits) := Chars.splitSign (s.dropWhile Arithmetic.isSpace)
  if digits.head?.any Char.isDigit then
    let (n, rest) := Arithmetic.readNatural digits
    some (if negative then -(Int.ofNat n) else Int.ofNat n, rest)
  else none

/-- The number of an argument; a quote in front asks for the code of a character. -/
def readInteger (s : Octets) : Int × Option ArgumentFault :=
  match s with
  | '\'' :: rest | '"' :: rest => (rest.head?.elim 0 fun c => Int.ofNat c.toNat, none)
  | _ =>
    match readSigned s with
    | none => (0, if s.isEmpty then none else some .notNumeric)
    | some (n, rest) => (n, if rest.isEmpty then none else some .incomplete)

def decimalFront (s : Octets) : Nat :=
  ((List.range (s.length + 1)).reverse.find? fun n => (Chars.readBinary64 (s.take n)).isSome).getD 0

def readDouble (s : Octets) : Binary64 × Option ArgumentFault :=
  match s with
  | '\'' :: rest | '"' :: rest => (Binary64.ofNat (rest.head?.elim 0 Char.toNat), none)
  | _ =>
    let trimmed := s.dropWhile Arithmetic.isSpace
    let front := decimalFront trimmed
    match Chars.readBinary64 (trimmed.take front) with
    | none => (Binary64.zero false, if s.isEmpty then none else some .notNumeric)
    | some x => (x, if front = trimmed.length then none else some .incomplete)

/-! ## Formats -/

/-- What a format prints, the last piece first, with its complaints and the arguments left. -/
structure Printed where
  pieces : List Octets
  complaints : List (Octets × ArgumentFault)
  arguments : List Octets
  stopped : Bool
  invalid : Option Octets
  failed : Bool

namespace Printed

def add (p : Printed) (s : Octets) : Printed := { p with pieces := s :: p.pieces }

def argument (p : Printed) : Octets × Printed :=
  (p.arguments.headD [], { p with arguments := p.arguments.tail })

def note (p : Printed) (argument : Octets) (fault : Option ArgumentFault) : Printed :=
  match fault with
  | none => p
  | some fault =>
    { p with
      complaints := p.complaints ++ [(argument, fault)]
      failed := true }

def text (p : Printed) : Octets := p.pieces.reverse.flatten

end Printed

def readCount (s : Octets) (p : Printed) : Int × Octets × Printed :=
  match s with
  | '*' :: rest =>
    let (a, p) := p.argument
    ((readInteger a).1, rest, p)
  | _ =>
    let (n, rest) := Arithmetic.readDigits 10 0 s
    (Int.ofNat n, rest, p)

def readConversion (s : Octets) (p : Printed) : Conversion × Octets × Printed :=
  let flags := s.takeWhile fun c => "#-+ 0".toList.contains c
  let (width, rest, p) := readCount (s.drop flags.length) p
  let (precision, rest, p) := match rest with
    | '.' :: digits =>
      let (n, rest, p) := readCount digits p
      (if n < 0 then none else some n.toNat, rest, p)
    | _ => (none, rest, p)
  ({ left := flags.contains '-' || decide (width < 0)
     plus := flags.contains '+'
     space := flags.contains ' '
     alternate := flags.contains '#'
     zeros := flags.contains '0'
     width := width.natAbs
     precision }, rest, p)

/-- What formats can hold: hexadecimal escapes, and a conversion that puts texts in quotes. -/
structure Style where
  extended : Bool
  quote? : Option (Octets → Octets)

/-- One argument under a conversion. None means that there is no such conversion. -/
def convert? (style : Style) (c : Conversion) (kind : Char) (p : Printed) : Option Printed :=
  let (a, after) := p.argument
  let cut := fun (s : Octets) => pad c (c.precision.elim s s.take)
  match kind with
  | 's' => some (after.add (cut a))
  | 'c' => some (after.add (pad c [a.headD (Char.ofNat 0)]))
  | 'q' => style.quote?.map fun quote => after.add (cut (quote a))
  | 'b' =>
    let (text, stops) := unescape style.extended (a.length + 1) [] a
    some { after.add (cut text) with stopped := stops }
  | 'd' | 'i' =>
    let (n, fault) := readInteger a
    let clamped := Arithmetic.clamp n
    let fault := if n == clamped then fault else some .outOfRange
    some ((after.add (convertInteger c clamped)).note a fault)
  | 'o' | 'u' | 'x' | 'X' =>
    let (n, fault) := readInteger a
    let isLarge := decide (Arithmetic.wordCount ≤ n) || decide (n < 1 - Arithmetic.wordCount)
    let bits := if isLarge then (Arithmetic.wordCount - 1).toNat else Arithmetic.bits n
    let fault := if isLarge then some .outOfRange else fault
    some ((after.add (convertNatural c kind bits)).note a fault)
  | 'e' | 'E' | 'f' | 'F' | 'g' | 'G' =>
    let (x, fault) := readDouble a
    some ((after.add (convertDouble c kind x)).note a fault)
  | _ => none

def once (style : Style) : Nat → Octets → Printed → Printed
  | 0, _, p => p
  | _, [], p => p
  | fuel + 1, '\\' :: rest, p =>
    match if style.extended && rest.head? == some 'x' then hexadecimal? (rest.drop 1) else none with
    | some (c, after) => once style fuel after (p.add [c])
    | none =>
      let (text, after) := readEscape rest
      once style fuel after (p.add text)
  | fuel + 1, '%' :: '%' :: rest, p => once style fuel rest (p.add ['%'])
  | fuel + 1, '%' :: rest, p =>
    let (conversion, after, p) := readConversion rest p
    match after with
    | [] => { p with invalid := some ('%' :: rest) }
    | kind :: more =>
      match convert? style conversion kind p with
      | none => { p with invalid := some ('%' :: rest.take (rest.length - more.length)) }
      | some p => if p.stopped then p else once style fuel more p
  | fuel + 1, c :: rest, p => once style fuel rest (p.add [c])

/-- A format as often as it takes to use up the arguments. -/
def repeatedly (style : Style) (format : Octets) : Nat → Printed → Printed
  | 0, p => p
  | fuel + 1, p =>
    let after := once style (format.length + 1) format p
    if after.stopped || after.invalid.isSome || after.arguments.isEmpty ||
        p.arguments.length ≤ after.arguments.length then after
    else repeatedly style format fuel after

def printf (style : Style) (format : Octets) (arguments : List Octets) : Printed :=
  repeatedly style format (arguments.length + 1) ⟨[], [], arguments, false, none, false⟩

end LoadScript.Shell.Printing
