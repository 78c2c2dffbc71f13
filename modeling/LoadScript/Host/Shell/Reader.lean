import LoadScript.Host.Shell.Command

set_option autoImplicit false

namespace LoadScript.Shell

inductive Token where
  | word (w : Word) (quoted : Bool)
  | keyword (s : String)
  | redirect (descriptor : Option Nat) (operator : String)
  | operator (s : String)
  | newline
  | finish

namespace Token

def name : Token → String
  | .word _ _ => "word"
  | .keyword s | .operator s => "\"" ++ s ++ "\""
  | .redirect _ _ => "redirection"
  | .newline => "newline"
  | .finish => "end of file"

def isKeyword (s : String) : Token → Bool
  | .keyword t => t == s
  | _ => false

def isOperator (s : String) : Token → Bool
  | .operator t => t == s
  | _ => false

def endsList : Token → Bool
  | .finish => true
  | .operator s => [")", ";;", ";&", ";;&"].contains s
  | .keyword s => ["do", "done", "elif", "else", "esac", "fi", "then", r"}"].contains s
  | _ => false

def toWord : Token → Word
  | .word w _ => w
  | .keyword s => [.text s.toList false]
  | _ => []

def source : Token → Octets
  | .word w _ => w.flatMap fun part => match part with
    | .text s _ => s
    | _ => []
  | .keyword s | .operator s | .redirect _ s => s.toList
  | .newline => "newline".toList
  | .finish => []

end Token

def commonKeywords : List String :=
  ["!", "case", "do", "done", "elif", "else", "esac", "fi", "for", "if", "in", "then", "until",
    "while", r"{", r"}"]

def Dialect.keywords : Dialect → List String
  | .dash => commonKeywords
  | .bash => ["[[", "function"] ++ commonKeywords

inductive ConditionPart where
  | operator
  | argument (operands : Nat)

inductive SyntaxFault where
  /-- A condition lacks an operator or a word; the token is what stands there. -/
  | badCondition (wanted : ConditionPart) (t : Token)
  | unexpected (t : Token) (expected : Option String)
  | unclosed (mark : String)
  | badFunctionName (name : Octets)
  | badLoopName
  | tooDeep

namespace SyntaxFault

def dashMessage : SyntaxFault → String
  | .unexpected t expected =>
    let message := t.name ++ " unexpected" ++ match expected with
      | some s => " (expecting " ++ s ++ ")"
      | none => ""
    "Syntax error: " ++ String.ofList (message.toList.take 63)
  | .unclosed mark =>
    if mark = String.singleton backquote then "Syntax error: EOF in backquote substitution"
    else if mark = r"}" || mark = "))" then "Syntax error: Missing '" ++ mark ++ "'"
    else "Syntax error: Unterminated quoted string"
  | .badFunctionName _ => "Syntax error: Bad function name"
  | .badLoopName => "Syntax error: Bad for loop variable"
  | .badCondition _ _ | .tooDeep => "Syntax error"

def bashMessage : SyntaxFault → Octets
  | .unexpected .finish _ => "syntax error: unexpected end of file".toList
  | .unexpected t _ => "syntax error near unexpected token ".toList ++ quotedName t.source
  | .unclosed mark =>
    "unexpected EOF while looking for matching ".toList ++ quotedName (mark.toList.take 1)
  | .badFunctionName name => quotedName name ++ ": not a valid identifier".toList
  | .badCondition .operator .newline =>
    "unexpected token ".toList ++ quotedName "newline".toList ++
      ", conditional binary operator expected".toList
  | .badCondition .operator _ => "conditional binary operator expected".toList
  | .badCondition (.argument operands) t =>
    "unexpected argument ".toList ++ quotedName t.source ++ " to conditional ".toList ++
      (if operands = 1 then "unary" else "binary").toList ++ " operator".toList
  | .badLoopName => "syntax error: bad for loop".toList
  | .tooDeep => "syntax error".toList

end SyntaxFault

/-- What is wrong with a script, where that is found, and where what is not closed begins. -/
structure Complaint where
  line : Nat
  start : Option Nat
  fault : SyntaxFault

structure Announced where
  number : Nat
  line : Nat
  delimiter : Octets
  quoted : Bool
  dropTabs : Bool

structure Reader where
  dialect : Dialect
  rest : Octets
  line : Nat
  pushed : Option Token
  announced : List Announced
  documents : List (Nat × Word)
  fresh : Nat
  aliases : List (String × Octets)
  /-- The aliases that were replaced, each with how much text follows its value. -/
  replaced : List (String × Nat)
  /-- How much text follows a value that asks for an alias behind it. -/
  asking : Option Nat
  unfinished : List (Nat × Announced)

abbrev Reading := StateT Reader (Except Complaint)

namespace Reading

def complain {α : Type} (fault : SyntaxFault) : Reading α := fun r => .error ⟨r.line, none, fault⟩

def unexpected {α : Type} (t : Token) (expected : Option String) : Reading α :=
  complain (.unexpected t expected)

/-- Reads something that is to be closed; a complaint tells where it begins. -/
def enclosed {α : Type} (act : Reading α) : Reading α := fun r =>
  match act r with
  | .error c => .error { c with start := c.start <|> some r.line }
  | .ok result => .ok result

def attempt? {α : Type} (act : Reading α) : Reading (Option α) := fun r =>
  match act r with
  | .error _ => .ok (none, r)
  | .ok (a, after) => .ok (some a, after)

def isBash : Reading Bool := return (← get).dialect == .bash

/-- Drops line feeds behind a backslash, which join lines. -/
def joinLines : Octets → Nat → Octets × Nat
  | '\\' :: '\n' :: rest, line => joinLines rest (line + 1)
  | s, line => (s, line)

def peek : Reading (Option Char) := fun r =>
  let (rest, line) := joinLines r.rest r.line
  .ok (rest.head?, { r with rest, line })

def skip (n : Nat) : Reading Unit := modify fun r => { r with rest := r.rest.drop n }

def countLine : Reading Unit := modify fun r => { r with line := r.line + 1 }

def skipCounting (c : Char) : Reading Unit := do
  skip 1
  if c == '\n' then countLine

def accept (c : Char) : Reading Bool := do
  if (← peek) == some c then
    skip 1
    return true
  else return false

def raw? : Reading (Option Char) := fun r =>
  match r.rest with
  | [] => .ok (none, r)
  | c :: rest => .ok (some c, { r with rest, line := if c == '\n' then r.line + 1 else r.line })

def push (t : Token) : Reading Unit := modify fun r => { r with pushed := some t }

def line : Reading Nat := return (← get).line

/-- Whether an alias is at work, so that its name stands for itself. -/
def isReplacing (r : Reader) (name : String) : Bool :=
  r.replaced.any fun a => a.1 = name && a.2 ≤ r.rest.length

def replaceAlias (name : String) (value : Octets) : Reading Unit := modify fun r =>
  { r with
    rest := value ++ r.rest
    replaced := (name, r.rest.length) :: r.replaced
    asking := if value.getLast?.any isBlank then some r.rest.length else r.asking }

def isAsked : Reading Bool := do
  modify fun r => { r with rest := if r.asking.isSome then r.rest.dropWhile isBlank else r.rest }
  let r ← get
  let found := r.pushed.isNone && r.asking.any (r.rest.length ≤ ·)
  if found then set { r with asking := none }
  return found

end Reading

/-! ## Parts in the making -/

/-- Adds a character to parts that are held in reverse. -/
def addChar (c : Char) (quoted : Bool) : List Part → List Part
  | .text s q :: rest => if q == quoted then .text (c :: s) q :: rest
    else .text [c] quoted :: .text s q :: rest
  | parts => .text [c] quoted :: parts

def inOrder (parts : List Part) : List Part :=
  parts.reverse.map fun part => match part with
    | .text s quoted => .text s.reverse quoted
    | part => part

def reversed (parts : List Part) : List Part :=
  parts.reverse.map fun part => match part with
    | .text s quoted => .text s.reverse quoted
    | part => part

def isBareName : List Part → Bool
  | [.text s false] => isName s.reverse
  | _ => false

def splitAt? (c : Char) (s : Octets) : Option (Octets × Octets) :=
  match s.dropWhile (· != c) with
  | [] => none
  | _ :: rest => some (s.takeWhile (· != c), rest)

/-- The lines up to one that is the delimiter: their text, how many lines there are with it, whether
there is one, and what follows. -/
def untilLine (a : Announced) : Nat → Octets → Octets × Nat × Bool × Octets
  | 0, s => ([], 0, false, s)
  | _, [] => ([], 0, false, [])
  | fuel + 1, s =>
    let line := s.takeWhile (· != '\n')
    let rest := (s.dropWhile (· != '\n')).drop 1
    let isLast := line.length == s.length
    let shown := if a.dropTabs then line.dropWhile (· == '\t') else line
    if shown = a.delimiter then ([], if isLast then 0 else 1, true, rest)
    else
      let (body, lines, found, after) := untilLine a fuel rest
      (shown ++ (if isLast then body else '\n' :: body), lines + (if isLast then 0 else 1), found,
        after)

end LoadScript.Shell
