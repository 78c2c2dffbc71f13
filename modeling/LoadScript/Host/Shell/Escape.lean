import LoadScript.Host.Shell.Arithmetic

set_option autoImplicit false

namespace LoadScript.Shell.Escape

def isOctal (c : Char) : Bool := '0' ≤ c && c ≤ '7'

def octal (digits : Octets) : Char :=
  Char.ofNat (digits.foldl (fun n c => 8 * n + (c.toNat - '0'.toNat)) 0 % 256)

def simpleEscape? (c : Char) : Option Char :=
  match c with
  | 'a' => some (Char.ofNat 7)
  | 'b' => some (Char.ofNat 8)
  | 'e' => some (Char.ofNat 27)
  | 'f' => some (Char.ofNat 12)
  | 'n' => some '\n'
  | 'r' => some '\r'
  | 't' => some '\t'
  | 'v' => some (Char.ofNat 11)
  | '\\' => some '\\'
  | _ => none

/-- An escape behind its backslash: what it stands for, and what follows it. -/
def readEscape (s : Octets) : Octets × Octets :=
  match s with
  | [] => (['\\'], [])
  | c :: rest =>
    match simpleEscape? c with
    | some d => ([d], rest)
    | none =>
      if isOctal c then
        let digits := (s.take 3).takeWhile isOctal
        ([octal digits], s.drop digits.length)
      else (['\\', c], rest)

def hexadecimal? (s : Octets) : Option (Char × Octets) :=
  let digits := (s.take 2).takeWhile fun c => (Arithmetic.digit? c).any (· < 16)
  if digits.isEmpty then none
  else some (Char.ofNat (Arithmetic.readDigits 16 0 digits).1, s.drop digits.length)

/-- A text with its escapes replaced, and whether printing stops in it. Octal digits may stand
behind a zero. -/
def unescape (extended : Bool) : Nat → Octets → Octets → Octets × Bool
  | 0, acc, _ => (acc.reverse, false)
  | _, acc, [] => (acc.reverse, false)
  | _ + 1, acc, '\\' :: 'c' :: _ => (acc.reverse, true)
  | fuel + 1, acc, '\\' :: '0' :: rest =>
    let digits := (rest.take 3).takeWhile isOctal
    unescape extended fuel (octal digits :: acc) (rest.drop digits.length)
  | fuel + 1, acc, '\\' :: rest =>
    match if extended && rest.head? == some 'x' then hexadecimal? (rest.drop 1) else none with
    | some (c, after) => unescape extended fuel (c :: acc) after
    | none =>
      let (text, after) := readEscape rest
      unescape extended fuel (text.reverse ++ acc) after
  | fuel + 1, acc, c :: rest => unescape extended fuel (c :: acc) rest

def codePoint (n : Nat) : Octets := Octets.ofText (String.singleton (Char.ofNat n))

def readCodePoint? (most : Nat) (s : Octets) : Option (Octets × Octets) :=
  let digits := (s.take most).takeWhile fun c => (Arithmetic.digit? c).any (· < 16)
  if digits.isEmpty then none
  else some (codePoint (Arithmetic.readDigits 16 0 digits).1, s.drop digits.length)

def readQuotedEscape (s : Octets) : Octets × Octets :=
  match s with
  | '\'' :: rest => (['\''], rest)
  | '"' :: rest => (['"'], rest)
  | '?' :: rest => (['?'], rest)
  | 'E' :: rest => ([Char.ofNat 27], rest)
  | 'c' :: c :: rest => ([Char.ofNat (c.toUpper.toNat % 32)], rest)
  | 'x' :: rest => ((hexadecimal? rest).map fun (c, after) => ([c], after)).getD (['\\', 'x'], rest)
  | 'u' :: rest => (readCodePoint? 4 rest).getD (['\\', 'u'], rest)
  | 'U' :: rest => (readCodePoint? 8 rest).getD (['\\', 'U'], rest)
  | s => readEscape s

/-- A text in quotes that ask for the replacement of escapes. It ends at a zero byte. -/
def quotedFrom : Nat → Octets → Octets
  | 0, _ => []
  | _, [] => []
  | fuel + 1, '\\' :: rest =>
    let (text, after) := readQuotedEscape rest
    text ++ quotedFrom fuel after
  | fuel + 1, c :: rest => c :: quotedFrom fuel rest

def quotedText (s : Octets) : Octets := (quotedFrom s.length s).takeWhile (·.toNat ≠ 0)

end LoadScript.Shell.Escape
