import LoadScript.Text.Alphanumeric
import LoadScript.Text.Blank
import LoadScript.Text.Case

/-!
# Sentence patterns

The form of a sentence: fixed words, choices, optional parts, and captured parts. Letters are
compared without regard to case. A pattern has to cover the whole sentence; of several ways to do
so the first one counts, where optional parts and runs take as much as they can and choices are
tried in their order.
-/

set_option autoImplicit false

namespace LoadScript

inductive CharClass where
  | digit
  | unquoted
  deriving DecidableEq, Repr

namespace CharClass

def holds : CharClass → Char → Bool
  | .digit, c => Chars.isDecimalDigit c
  | .unquoted, c => c != '"'

def source : CharClass → String
  | .digit => "\\d"
  | .unquoted => "[^\"]"

end CharClass

inductive Pattern where
  | text (s : String)
  | anyOf (chars : String)
  | oneOf (words : List String)
  | atLeast (n : Nat) (cls : CharClass)
  | exactly (n : Nat) (cls : CharClass)
  | maybe (p : Pattern)
  | capture (p : Pattern)
  | seq (p q : Pattern)
  deriving DecidableEq, Repr

namespace Pattern

instance : Coe String Pattern := ⟨text⟩

instance : Append Pattern := ⟨seq⟩

def afterWord? : List Char → List Char → Option (List Char)
  | [], s => some s
  | w :: word, c :: s => if Chars.fold w = Chars.fold c then afterWord? word s else none
  | _ :: _, [] => none

def captures : Pattern → Nat
  | .maybe p => p.captures
  | .capture p => p.captures + 1
  | .seq p q => p.captures + q.captures
  | _ => 0

/-- The rests after `n` or more characters of a run of length `len`, the shortest rest first. -/
def runRests (n : Nat) (s : List Char) : Nat → List (List Char)
  | 0 => if n = 0 then [s] else []
  | len + 1 => if n ≤ len + 1 then s.drop (len + 1) :: runRests n s len else []

/-- All ways to read a beginning of the text, in order of preference: the captured parts and the
rest. A captured part of an optional part that is left out is empty. -/
def readings : Pattern → List Char → List (List (List Char) × List Char)
  | .text w, s => (afterWord? w.toList s).toList.map ([], ·)
  | .anyOf chars, s =>
    match s with
    | c :: rest => if chars.toList.contains c then [([], rest)] else []
    | [] => []
  | .oneOf words, s => (words.filterMap fun w => afterWord? w.toList s).map ([], ·)
  | .atLeast n cls, s => (runRests n s (s.takeWhile cls.holds).length).map ([], ·)
  | .exactly n cls, s =>
    if (s.take n).length = n && (s.take n).all cls.holds then [([], s.drop n)] else []
  | .maybe p, s => p.readings s ++ [(List.replicate p.captures [], s)]
  | .capture p, s =>
    (p.readings s).map fun (parts, rest) => (s.take (s.length - rest.length) :: parts, rest)
  | .seq p q, s =>
    (p.readings s).flatMap fun (parts, rest) =>
      (q.readings rest).map fun (more, last) => (parts ++ more, last)

/-- The captured parts when the pattern covers the trimmed text. -/
def match? (p : Pattern) (s : String) : Option (List String) :=
  ((p.readings (Chars.trim s.toList)).find? (·.2.isEmpty)).map fun (parts, _) =>
    parts.map String.ofList

/-! ## The written form -/

def escapeChar (c : Char) : List Char :=
  if ".+*?()|[]^$\\".toList.contains c then ['\\', c] else [c]

def escape (s : String) : String := String.ofList (s.toList.flatMap escapeChar)

def repetition (n : Nat) : String :=
  if n = 0 then "*" else if n = 1 then "+" else r"{" ++ Nat.repr n ++ r",}"

def source : Pattern → String
  | .text s => escape s
  | .anyOf chars => "[" ++ chars ++ "]"
  | .oneOf words => "(?:" ++ "|".intercalate (words.map escape) ++ ")"
  | .atLeast n cls => cls.source ++ repetition n
  | .exactly n cls => cls.source ++ r"{" ++ Nat.repr n ++ r"}"
  | .maybe (.text s) => if s.length = 1 then escape s ++ "?" else "(?:" ++ escape s ++ ")?"
  | .maybe p => "(?:" ++ p.source ++ ")?"
  | .capture p => "(" ++ p.source ++ ")"
  | .seq p q => p.source ++ q.source

/-! ## Parts of sentences -/

def number : Pattern := capture (atLeast 1 .digit)

def decimalOrComma : Pattern :=
  capture (atLeast 1 .digit ++ maybe (anyOf ".," ++ atLeast 1 .digit))

def decimal : Pattern := capture (atLeast 1 .digit ++ maybe (text "." ++ atLeast 1 .digit))

def quotable : Pattern := capture (atLeast 1 .unquoted)

def quotableOrEmpty : Pattern := capture (atLeast 0 .unquoted)

end Pattern

end LoadScript
