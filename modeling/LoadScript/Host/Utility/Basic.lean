import LoadScript.Host.Program

set_option autoImplicit false

namespace LoadScript

abbrev Bindings := List (String × Octets)

/-- Makes a program of the file at a path, for the name, the arguments and the variables it is
given, or says why it is none. -/
abbrev Launcher := Volume → Octets → Octets → List Octets → Bindings → Except FileFault Program

structure Invocation : Type 1 where
  launch : Launcher
  name : Octets
  arguments : List Octets
  bindings : Bindings

abbrev Utility := Invocation → Act Nat

namespace Act

def look {α : Type} (f : Volume → α) : Act α := call (.files fun v => (f v, v))

def change (f : Volume → Except FileFault Volume) : Act (Except FileFault Unit) :=
  call (.files fun v => match f v with
    | .ok after => (.ok (), after)
    | .error fault => (.error fault, v))

def writeError (text : Octets) : Act Unit := do
  let _ ← call (.write 2 text)

/-- A bound on how often something is repeated, which no process reaches in its time. -/
def often : Nat := 1000000000000

def block : Nat := 65536

def readToEnd (descriptor : Nat) : Nat → List Octets → Act (Except FileFault Octets)
  | 0, acc => return .ok acc.reverse.flatten
  | fuel + 1, acc => do
    match ← call (.read descriptor block) with
    | .error fault => return .error fault
    | .ok [] => return .ok acc.reverse.flatten
    | .ok text => readToEnd descriptor fuel (text :: acc)

def readAll (descriptor : Nat) : Act (Except FileFault Octets) := readToEnd descriptor often []

def readFile (path : Octets) : Act (Except FileFault Octets) := do
  match ← call (.openFile (Octets.toText path) .reading) with
  | .error fault => return .error fault
  | .ok descriptor =>
    let content ← readAll descriptor
    call (.close descriptor)
    return content

end Act

/-! ## Names in messages -/

def escapedByte (c : Char) : Octets :=
  match c.toNat with
  | 7 => "\\a".toList
  | 8 => "\\b".toList
  | 9 => "\\t".toList
  | 10 => "\\n".toList
  | 11 => "\\v".toList
  | 12 => "\\f".toList
  | 13 => "\\r".toList
  | n => '\\' :: (Nat.toDigits 8 (512 + n)).drop 1

def isPrintable (c : Char) : Bool := 32 ≤ c.toNat && c.toNat ≤ 126

/-- The text between quotes, with unprintable bytes escaped outside of them. -/
def quotedFrom : (escaping : Bool) → Octets → Octets
  | escaping, [] => if escaping then "''".toList else []
  | escaping, c :: rest =>
    if isPrintable c then
      let text := if c == '\'' then "'\\''".toList else [c]
      (if escaping then "''".toList else []) ++ text ++ quotedFrom false rest
    else (if escaping then [] else "'$'".toList) ++ escapedByte c ++ quotedFrom true rest

def quoteName (s : Octets) : Octets :=
  let isPlain := fun (c : Char) =>
    isPrintable c && !"\"$\\!".toList.contains c && c.toNat ≠ 96
  if s.contains '\'' && s.all isPlain
  then ['"'] ++ s ++ ['"']
  else ['\''] ++ quotedFrom false s ++ ['\'']

def needsQuotes (s : Octets) : Bool :=
  match s with
  | [] => true
  | c :: rest =>
    (c == '#' || c == '~' || (rest.isEmpty && (c == '{' || c == '}'))) ||
      s.any fun c =>
        !isPrintable c || " !\"$&()*;<=>[^|'\\?".toList.contains c || c.toNat = 96

def showName (s : Octets) : Octets := if needsQuotes s then quoteName s else s

namespace Invocation

def complain (i : Invocation) (message : Octets) : Act Unit :=
  Act.writeError (i.name ++ ": ".toList ++ message ++ ['\n'])

def complainOf (i : Invocation) (name : Octets) (fault : FileFault) : Act Unit :=
  i.complain (showName name ++ ": ".toList ++ fault.message.toList)

def pointToHelp (i : Invocation) : Act Unit :=
  Act.writeError ("Try '".toList ++ i.name ++ " --help' for more information.\n".toList)

/-- Writes to the output. What cannot be written ends the utility. -/
def write (i : Invocation) (text : Octets) (status : Nat) : Act Unit := do
  if text.isEmpty then pure ()
  else
    match ← Act.call (.write 1 text) with
    | .ok () => pure ()
    | .error fault => do
      i.complain ("write error: ".toList ++ fault.message.toList)
      Act.finish status

def writeLine (i : Invocation) (text : Octets) : Act Unit := i.write (text ++ ['\n']) 1

end Invocation

/-! ## Options -/

structure OptionTable where
  plain : String
  taking : String
  /-- The letters whose argument, if there is one, stands in the same word. -/
  optional : String
  long : List (String × Char)
  /-- Whether options may stand behind operands. -/
  anywhere : Bool

structure Selected where
  options : List (Char × Octets)
  operands : List Octets

namespace Selected

def has (s : Selected) (c : Char) : Bool := s.options.any (·.1 = c)

/-- The argument of an option; the last one counts. -/
def value? (s : Selected) (c : Char) : Option Octets :=
  (s.options.reverse.find? (·.1 = c)).map (·.2)

def values (s : Selected) (c : Char) : List Octets :=
  s.options.filterMap fun o => if o.1 = c then some o.2 else none

def last? (s : Selected) (letters : String) : Option Char :=
  (s.options.reverse.find? fun o => letters.toList.contains o.1).map (·.1)

end Selected

namespace OptionTable

def longNames (t : OptionTable) (name : Octets) : List (String × Char) :=
  match t.long.filter fun l => l.1.toList = name with
  | [] => t.long.filter fun l => name.isPrefixOf l.1.toList
  | found => found

/-- Reads an option with a long name: the option, and whether the next word is its argument. -/
def readLong (t : OptionTable) (word : Octets) : Except Octets (Char × Option Octets × String) :=
  let name := word.takeWhile (· != '=')
  let value := if name.length = word.length then none else some (word.drop (name.length + 1))
  let shown := "'--".toList ++ name ++ ['\'']
  match t.longNames name with
  | [] => .error ("unrecognized option ".toList ++ shown)
  | (full, letter) :: rest =>
    if rest.all (·.2 = letter) then
      let shown := "option '--".toList ++ full.toList ++ ['\'']
      if t.plain.toList.contains letter && value.isSome then
        .error (shown ++ " doesn't allow an argument".toList)
      else .ok (letter, value, full)
    else
      let all := ((full, letter) :: rest).flatMap fun l => " '--".toList ++ l.1.toList ++ ['\'']
      .error ("option ".toList ++ shown ++ " is ambiguous; possibilities:".toList ++ all)

def select (t : OptionTable) : Nat → List Octets → Except Octets Selected
  | 0, words => .ok ⟨[], words⟩
  | fuel + 1, words =>
    let add := fun (option : Char × Octets) (rest : List Octets) => do
      let s ← t.select fuel rest
      return { s with options := option :: s.options }
    match words with
    | [] => .ok ⟨[], []⟩
    | ['-', '-'] :: rest => .ok ⟨[], rest⟩
    | ('-' :: '-' :: word) :: rest => do
      let (letter, value, full) ← t.readLong word
      match value with
      | some value => add (letter, value) rest
      | none =>
        if t.taking.toList.contains letter then
          match rest with
          | value :: rest => add (letter, value) rest
          | [] => .error ("option '--".toList ++ full.toList ++ "' requires an argument".toList)
        else add (letter, []) rest
    | ('-' :: c :: letters) :: rest =>
      if t.taking.toList.contains c then
        match letters, rest with
        | [], value :: rest => add (c, value) rest
        | [], [] => .error ("option requires an argument -- '".toList ++ [c, '\''])
        | value, rest => add (c, value) rest
      else if t.optional.toList.contains c then add (c, letters) rest
      else if t.plain.toList.contains c then
        add (c, []) (if letters.isEmpty then rest else ('-' :: letters) :: rest)
      else .error ("invalid option -- '".toList ++ [c, '\''])
    | word :: rest =>
      if t.anywhere then do
        let s ← t.select fuel rest
        return { s with operands := word :: s.operands }
      else .ok ⟨[], words⟩

end OptionTable

namespace Invocation

def select (i : Invocation) (t : OptionTable) (status : Nat) : Act Selected := do
  let fuel := i.arguments.flatten.length + i.arguments.length + 1
  match t.select fuel i.arguments with
  | .ok s => return s
  | .error message => do
    i.complain message
    i.pointToHelp
    Act.finish status

def misused {α : Type} (i : Invocation) (message : Octets) (status : Nat) : Act α := do
  i.complain message
  i.pointToHelp
  Act.finish status

def abandon {α : Type} (i : Invocation) (message : Octets) (status : Nat) : Act α := do
  i.complain message
  Act.finish status

end Invocation

/-! ## Input -/

namespace Act

/-- Opens an operand for reading; a dash stands for the standard input. -/
def openOperand (operand : Octets) : Act (Except FileFault Nat) := do
  if operand = ['-'] then return .ok 0
  else call (.openFile (Octets.toText operand) .reading)

def closeOperand (descriptor : Nat) : Act Unit := do
  if descriptor ≠ 0 then call (.close descriptor)

/-- Takes what is read, block after block, as long as it is wanted. -/
def eachBlock {σ : Type} (descriptor : Nat) (f : σ → Octets → Act (σ × Bool)) :
    Nat → σ → Act (σ × Option FileFault)
  | 0, s => return (s, none)
  | fuel + 1, s => do
    match ← call (.read descriptor block) with
    | .error fault => return (s, some fault)
    | .ok [] => return (s, none)
    | .ok text => do
      let (s, goesOn) ← f s text
      if goesOn then eachBlock descriptor f fuel s else return (s, none)

/-- A line, and whether a line feed ends it. -/
structure Line where
  text : Octets
  ended : Bool

def Line.whole (l : Line) : Octets := if l.ended then l.text ++ ['\n'] else l.text

def splitLines (separator : Char) (text : Octets) : List Octets × Octets :=
  let (lines, rest) := text.foldl (fun (acc : List Octets × Octets) c =>
    if c == separator then (acc.2.reverse :: acc.1, []) else (acc.1, c :: acc.2)) ([], [])
  (lines.reverse, rest.reverse)

def linesOf (text : Octets) : List Line :=
  let (lines, rest) := splitLines '\n' text
  lines.map (⟨·, true⟩) ++ if rest.isEmpty then [] else [⟨rest, false⟩]

def takeLines {σ : Type} (f : σ → Line → Act (σ × Bool)) : List Line → σ → Act (σ × Bool)
  | [], s => return (s, true)
  | line :: rest, s => do
    let (s, goesOn) ← f s line
    if goesOn then takeLines f rest s else return (s, false)

/-- Takes what is read, line after line, as long as it is wanted. The second part of the result
tells of a fault. -/
def eachLine {σ : Type} (descriptor : Nat) (f : σ → Line → Act (σ × Bool)) :
    Nat → (held : Octets) → σ → Act (σ × Option FileFault)
  | 0, _, s => return (s, none)
  | fuel + 1, held, s => do
    match ← call (.read descriptor block) with
    | .error fault => return (s, some fault)
    | .ok [] => do
      if held.isEmpty then return (s, none)
      else
        let (s, _) ← f s ⟨held, false⟩
        return (s, none)
    | .ok text => do
      let (lines, rest) := splitLines '\n' text
      match lines with
      | [] => eachLine descriptor f fuel (held ++ rest) s
      | first :: more => do
        let (s, goesOn) ← takeLines f (⟨held ++ first, true⟩ :: more.map (⟨·, true⟩)) s
        if goesOn then eachLine descriptor f fuel rest s else return (s, none)

end Act

/-! ## Numbers -/

def decimal? (s : Octets) : Option Nat :=
  if !s.isEmpty && s.all Char.isDigit then
    some (s.foldl (fun n c => 10 * n + (c.toNat - '0'.toNat)) 0)
  else none

def integer? (s : Octets) : Option Int :=
  match s with
  | '-' :: digits => (decimal? digits).map fun n => -Int.ofNat n
  | '+' :: digits => (decimal? digits).map Int.ofNat
  | digits => (decimal? digits).map Int.ofNat

def padLeft (width : Nat) (s : Octets) : Octets := List.replicate (width - s.length) ' ' ++ s

end LoadScript
