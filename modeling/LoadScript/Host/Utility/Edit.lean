import LoadScript.Host.Utility.Lines
import LoadScript.Host.Utility.Regular

set_option autoImplicit false

namespace LoadScript.Utility

/-! ## Scripts -/

inductive Place where
  | start
  | line (n : Nat)
  | last
  | every (first step : Nat)
  /-- A line that matches; without an expression, the last one that was used. -/
  | matching (r : Option Regular) (ignoresCase : Bool)

inductive ScopeEnd where
  | place (p : Place)
  | further (n : Nat)
  | multiple (n : Nat)

structure Scope where
  first : Option Place
  finish : Option ScopeEnd
  negated : Bool

inductive NewPart where
  | text (s : Octets)
  | group (number : Nat)
  | case (letter : Char)

structure Substitution where
  expression : Option Regular
  ignoresCase : Bool
  parts : List NewPart
  global : Bool
  occurrence : Nat
  prints : Bool
  file : Option Octets

inductive Verb where
  /-- A block, with the number of the command that ends it. -/
  | block (finish : Nat)
  | blockEnd
  | label
  | append (text : Octets)
  | insert (text : Octets)
  | change (text : Octets)
  /-- Goes on behind a label, or at the end: always, after a substitution, or without one. -/
  | branch (name : Octets) (when : Option Bool)
  | delete
  | deleteLine
  | print
  | printLine
  | number
  | show
  | next
  | nextJoined
  | quit (status : Nat) (prints : Bool)
  | readFile (path : Octets)
  | writeFile (path : Octets)
  | writeLine (path : Octets)
  | holdSet
  | holdAdd
  | takeHeld
  | addHeld
  | exchange
  | clear
  | substitute (s : Substitution)
  | replace (pairs : List (Char × Char))

structure EditCommand where
  scope : Scope
  verb : Verb
  name : Octets

/-! ## Reading of scripts -/

structure ScriptCursor where
  rest : Octets
  used : Nat
  extended : Bool

abbrev ScriptReading := StateT ScriptCursor (Except (Nat × String))

namespace ScriptReading

def fail {α : Type} (message : String) : ScriptReading α := fun c => .error (c.used, message)

def peek : ScriptReading (Option Char) := return (← get).rest.head?

def take : ScriptReading (Option Char) := fun c =>
  match c.rest with
  | [] => .ok (none, c)
  | d :: rest => .ok (some d, { c with rest, used := c.used + 1 })

def skipWhile (p : Char → Bool) : ScriptReading Octets := fun c =>
  let skipped := c.rest.takeWhile p
  .ok (skipped, { c with
    rest := c.rest.drop skipped.length
    used := c.used + skipped.length })

def blank (c : Char) : Bool := c == ' ' || c == '\t'

/-- Reads up to a delimiter. The text is held in reverse; in an expression, the delimiter does not
count in a set. -/
def untilDelimiter (delimiter : Char) (expression : Bool) :
    Nat → (inSet : Bool) → Octets → ScriptReading (Option Octets)
  | 0, _, _ => return none
  | fuel + 1, inSet, acc => do
    match ← take with
    | none => return none
    | some c =>
      if inSet then
        if c == '\n' then return none
        else if c == '\\' && (← peek) == some 'n' then
          let _ ← take
          untilDelimiter delimiter expression fuel true ('\n' :: acc)
        else
          let isEnd := c == ']' && acc.head? != some '[' &&
            !(acc.head? == some '^' && acc.tail.head? == some '[')
          untilDelimiter delimiter expression fuel (!isEnd) (c :: acc)
      else if c == delimiter then return some acc.reverse
      else if c == '\\' then
        match ← take with
        | none => return none
        | some d =>
          if d == delimiter then
            let kept := if !expression && d == '&' then [d, '\\'] else [d]
            untilDelimiter delimiter expression fuel false (kept ++ acc)
          else if d == 'n' && expression then
            untilDelimiter delimiter expression fuel false ('\n' :: acc)
          else untilDelimiter delimiter expression fuel false (d :: '\\' :: acc)
      else if c == '\n' && expression then return none
      else untilDelimiter delimiter expression fuel (expression && c == '[') (c :: acc)

def delimited (delimiter : Char) (expression : Bool) (wrong : String) : ScriptReading Octets := do
  match ← untilDelimiter delimiter expression ((← get).rest.length + 1) false [] with
  | some text => return text
  | none => fail wrong

/-- An expression from its text; an empty one stands for the last that was used. -/
def expression (text : Octets) : ScriptReading (Option Regular) := do
  if text.isEmpty then return none
  else
    let text := text.foldr (fun c rest => match c, rest with
      | '\\', 't' :: more => '\t' :: more
      | c, rest => c :: rest) []
    match Regular.read (← get).extended text with
    | .ok r => return some r
    | .error message => fail message

def quoted (c : Char) : String := String.ofList [Char.ofNat 96, c, '\'']

def numberOf (digits : Octets) : Nat := (decimal? digits).getD 0

def place? : ScriptReading (Option Place) := do
  match ← peek with
  | some '$' => do
    let _ ← take
    return some .last
  | some c =>
    if c.isDigit then
      let n := numberOf (← skipWhile Char.isDigit)
      if (← peek) == some '~' then
        let _ ← take
        let step := numberOf (← skipWhile Char.isDigit)
        return some (if step = 0 then .line n else .every n step)
      else return some (if n = 0 then .start else .line n)
    else if c == '/' || c == '\\' then
      let _ ← take
      let delimiter ← if c == '\\' then take else pure (some '/')
      match delimiter with
      | none => fail "unexpected "
      | some d => do
        let text ← delimited d true "unterminated address regex"
        let flags ← skipWhile fun c => c == 'I' || c == 'M'
        return some (.matching (← expression text) (flags.contains 'I'))
    else return none
  | none => return none

def scope : ScriptReading Scope := do
  let first ← place?
  let _ ← skipWhile blank
  let finish ← if first.isSome && (← peek) == some ',' then do
      let _ ← take
      let _ ← skipWhile blank
      match ← peek with
      | some '+' => do
        let _ ← take
        pure (some (ScopeEnd.further (numberOf (← skipWhile Char.isDigit))))
      | some '~' => do
        let _ ← take
        pure (some (ScopeEnd.multiple (numberOf (← skipWhile Char.isDigit))))
      | _ =>
        match ← place? with
        | some p => pure (some (ScopeEnd.place p))
        | none => do
          let _ ← take
          fail ("unexpected " ++ quoted ',')
    else pure none
  let marks ← skipWhile fun c => blank c || c == '!'
  return ⟨first, finish, marks.contains '!'⟩

def plainCharacter (c : Char) : Char :=
  match c with
  | 'n' => '\n'
  | 't' => '\t'
  | 'r' => '\r'
  | 'a' => Char.ofNat 7
  | 'f' => Char.ofNat 12
  | 'v' => Char.ofNat 11
  | c => c

/-- The text of a command that adds lines, from the line after a backslash on. -/
def textLines : Nat → Octets → ScriptReading Octets
  | 0, acc => return acc.reverse
  | fuel + 1, acc => do
    match ← take with
    | none => return ('\n' :: acc).reverse
    | some '\n' => return ('\n' :: acc).reverse
    | some '\\' =>
      match ← take with
      | none => return ('\n' :: acc).reverse
      | some c => textLines fuel (plainCharacter c :: acc)
    | some c => textLines fuel (c :: acc)

def addedText : ScriptReading Octets := do
  let fuel := (← get).rest.length + 1
  let _ ← skipWhile blank
  match ← peek with
  | none => fail ("expected \\ after " ++ quoted 'a' ++ ", " ++ quoted 'c' ++ " or " ++ quoted 'i')
  | some '\\' => do
    let _ ← take
    let skipped ← skipWhile blank
    match ← peek with
    | some '\n' => do
      let _ ← take
      textLines fuel []
    | none => return []
    | some _ => textLines fuel skipped.reverse
  | some _ => textLines fuel []

def newParts : Nat → Octets → Octets → List NewPart
  | 0, acc, _ => [.text acc.reverse]
  | _, acc, [] => if acc.isEmpty then [] else [.text acc.reverse]
  | fuel + 1, acc, text =>
    let part := fun (p : NewPart) (rest : Octets) =>
      (if acc.isEmpty then [] else [.text acc.reverse]) ++ p :: newParts fuel [] rest
    match text with
    | '&' :: rest => part (.group 0) rest
    | '\\' :: c :: rest =>
      if c.isDigit then part (.group (c.toNat - '0'.toNat)) rest
      else if "ULulE".toList.contains c then part (.case c) rest
      else newParts fuel (plainCharacter c :: acc) rest
    | c :: rest => newParts fuel (c :: acc) rest
    | [] => []

def fileName : ScriptReading Octets := do
  let _ ← skipWhile blank
  let name ← skipWhile (· != '\n')
  if name.isEmpty then fail "missing filename in r/R/w/W commands" else return name

def substitutionFlags (c : Octets) : Nat → Substitution → ScriptReading Substitution
  | 0, s => return s
  | fuel + 1, s => do
    match ← peek with
    | some 'g' => do
      let _ ← take
      substitutionFlags c fuel { s with global := true }
    | some 'p' => do
      let _ ← take
      substitutionFlags c fuel { s with prints := true }
    | some 'i' | some 'I' => do
      let _ ← take
      substitutionFlags c fuel { s with ignoresCase := true }
    | some 'm' | some 'M' | some 'e' => do
      let _ ← take
      substitutionFlags c fuel s
    | some 'w' => do
      let _ ← take
      return { s with file := some (← fileName) }
    | some d =>
      if d.isDigit then
        let n := numberOf (← skipWhile Char.isDigit)
        if n = 0 then
          fail ("number option to " ++ quoted 's' ++ " command may not be zero")
        else substitutionFlags c fuel { s with occurrence := n }
      else if blank d || ['\n', ';', '#', '}'].contains d then return s
      else do
        let _ ← take
        fail ("unknown option to " ++ quoted 's')
    | none => return s

def endCommand : ScriptReading Unit := do
  let _ ← skipWhile blank
  match ← peek with
  | none => pure ()
  | some c =>
    if c == '\n' || c == ';' then
      let _ ← take
    else if c == '#' || c == '}' then pure ()
    else do
      let _ ← take
      fail "extra characters after command"

def highestGroup (parts : List NewPart) : Nat :=
  parts.foldl (fun n p => match p with
    | .group k => Nat.max n k
    | _ => n) 0

def unescaped : Octets → Octets
  | '\\' :: '\\' :: rest => '\\' :: unescaped rest
  | '\\' :: 'n' :: rest => '\n' :: unescaped rest
  | c :: rest => c :: unescaped rest
  | [] => []

def verb (c : Char) : ScriptReading (Verb × Octets) := do
  let plain := fun (v : Verb) => do
    endCommand
    return (v, [])
  let labelled := fun (when : Option Bool) => do
    let _ ← skipWhile blank
    let name ← skipWhile fun c => c != '\n' && c != ';'
    endCommand
    return (.branch (name.reverse.dropWhile blank).reverse when, [])
  let status := do
    let _ ← skipWhile blank
    return numberOf (← skipWhile Char.isDigit)
  match c with
  | 'a' => return (.append (← addedText), [])
  | 'i' => return (.insert (← addedText), [])
  | 'c' => return (.change (← addedText), [])
  | 'b' => labelled none
  | 't' => labelled (some true)
  | 'T' => labelled (some false)
  | ':' => do
    let _ ← skipWhile blank
    let name ← skipWhile fun c => c != '\n' && c != ';' && !blank c
    if name.isEmpty then fail "\":\" lacks a label"
    else
      endCommand
      return (.label, name)
  | 'd' => plain .delete
  | 'D' => plain .deleteLine
  | 'p' => plain .print
  | 'P' => plain .printLine
  | '=' => plain .number
  | 'l' => do
    let _ ← status
    plain .show
  | 'n' => plain .next
  | 'N' => plain .nextJoined
  | 'q' => do
    let code ← status
    plain (.quit code true)
  | 'Q' => do
    let code ← status
    plain (.quit code false)
  | 'r' => return (.readFile (← fileName), [])
  | 'w' => return (.writeFile (← fileName), [])
  | 'W' => return (.writeLine (← fileName), [])
  | 'h' => plain .holdSet
  | 'H' => plain .holdAdd
  | 'g' => plain .takeHeld
  | 'G' => plain .addHeld
  | 'x' => plain .exchange
  | 'z' => plain .clear
  | 's' => do
    let wrong := "unterminated " ++ quoted 's' ++ " command"
    match ← take with
    | none => fail wrong
    | some d => do
      let text ← delimited d true wrong
      let new ← delimited d false wrong
      let parts := newParts (new.length + 1) [] new
      let s ← substitutionFlags [] 20 ⟨none, false, parts, false, 1, false, none⟩
      let r ← expression text
      let groups := r.elim 9 Regular.groupCount
      if groups < highestGroup parts then
        fail ("invalid reference \\" ++ Nat.repr (highestGroup parts) ++ " on " ++ quoted 's' ++
          " command's RHS")
      else
        if s.file.isNone then endCommand
        return (.substitute { s with expression := r }, [])
  | 'y' => do
    let wrong := "unterminated " ++ quoted 'y' ++ " command"
    match ← take with
    | none => fail wrong
    | some d => do
      let old := unescaped (← delimited d false wrong)
      let new := unescaped (← delimited d false wrong)
      if old.length ≠ new.length then
        fail ("strings for " ++ quoted 'y' ++ " command are different lengths")
      else plain (.replace (old.zip new))
  | c => fail ("unknown command: " ++ quoted c)

/-- Reads the commands of a script. The blocks that are open are held with their numbers. -/
def commands : Nat → (blocks : List Nat) → List EditCommand → ScriptReading (List EditCommand)
  | 0, _, acc => return acc.reverse
  | fuel + 1, blocks, acc => do
    let _ ← skipWhile fun c => blank c || c == '\n' || c == ';'
    match ← peek with
    | none =>
      if blocks.isEmpty then return acc.reverse
      else
        modify fun c => { c with used := 0 }
        fail ("unmatched " ++ quoted '{')
    | some '#' => do
      let _ ← skipWhile (· != '\n')
      commands fuel blocks acc
    | some _ => do
      let area ← scope
      match ← take with
      | none => fail "missing command"
      | some '{' => commands fuel (acc.length :: blocks) (⟨area, .block 0, []⟩ :: acc)
      | some '}' =>
        match blocks with
        | [] => fail ("unexpected " ++ quoted '}')
        | start :: outer => do
          if area.first.isSome then fail (quoted '}' ++ " doesn't want any addresses")
          else
            endCommand
            let finish := acc.length
            let acc := acc.reverse.zipIdx.map fun (c, n) =>
              if n = start then { c with verb := .block finish } else c
            commands fuel outer (⟨area, .blockEnd, []⟩ :: acc.reverse)
      | some c =>
        if c == '\n' || c == ';' then fail "missing command"
        else
          let (v, name) ← verb c
          commands fuel blocks (⟨area, v, name⟩ :: acc)

end ScriptReading

/-- Reads a script, or says what is wrong with it and after how many bytes. -/
def readScript (extended : Bool) (text : Octets) : Except (Nat × String) (List EditCommand) :=
  ((ScriptReading.commands (text.length + 2) [] []).run ⟨text, 0, extended⟩).map (·.1)

def missingLabel? (cs : List EditCommand) : Option Octets :=
  cs.findSome? fun c => match c.verb with
    | .branch name _ =>
      if name.isEmpty || cs.any fun d => d.verb matches .label && d.name = name then none
      else some name
    | _ => none

/-! ## Input -/

structure EditInput where
  pending : List Act.Line
  held : Octets
  descriptor : Option Nat
  current : Octets
  operands : List Octets
  failed : Bool

/-- Reads on until a line is known to be the last one or not. -/
def EditInput.fill (i : Invocation) (separator : Char) : Nat → EditInput → Act EditInput
  | 0, input => return input
  | fuel + 1, input => do
    match input.pending with
    | _ :: _ :: _ => return input
    | _ =>
      match input.descriptor with
      | none =>
        match input.operands with
        | [] => return input
        | operand :: rest => do
          match ← Act.openOperand operand with
          | .ok descriptor =>
            fill i separator fuel { input with
              descriptor := some descriptor
              current := operand
              operands := rest }
          | .error fault => do
            i.complain ("can't read ".toList ++ operand ++ ": ".toList ++ fault.message.toList)
            fill i separator fuel { input with operands := rest, failed := true }
      | some descriptor => do
        match ← Act.call (.read descriptor Act.block) with
        | .error fault => do
          i.complain ("read error on ".toList ++ input.current ++ ": ".toList ++
            fault.message.toList)
          Act.closeOperand descriptor
          fill i separator fuel { input with descriptor := none, failed := true }
        | .ok [] => do
          Act.closeOperand descriptor
          let left := if input.held.isEmpty then [] else [⟨input.held, false⟩]
          fill i separator fuel { input with
            pending := input.pending ++ left
            held := []
            descriptor := none }
        | .ok text =>
          let (lines, rest) := Act.splitLines separator (input.held ++ text)
          fill i separator fuel { input with
            pending := input.pending ++ lines.map (⟨·, true⟩)
            held := rest }

/-! ## Carrying out -/

inductive Appended where
  | text (s : Octets)
  | file (path : Octets)

structure EditState where
  input : EditInput
  pattern : Octets
  ended : Bool
  hold : Octets
  line : Nat
  /-- The commands whose scope has begun, with the line it ends with if that is known. -/
  active : List (Nat × Option Nat)
  appended : List Appended
  /-- Whether the last output lacks its line feed. -/
  unended : Bool
  replaced : Bool
  lastExpression : Option (Regular × Bool)
  files : List (Octets × Nat)
  collected : Option (List Octets)
  separator : Char

structure EditPlan where
  commands : Array EditCommand
  silent : Bool
  separator : Char

namespace EditState

def isLast (s : EditState) : Bool := s.input.pending.isEmpty

def emit (i : Invocation) (s : EditState) (text : Octets) (ended : Bool) : Act EditState := do
  let whole := (if s.unended then [s.separator] else []) ++ text ++
    if ended then [s.separator] else []
  let s := { s with unended := !ended }
  match s.collected with
  | some pieces => return { s with collected := some (whole :: pieces) }
  | none => do
    i.write whole 4
    return s

def emitText (i : Invocation) (s : EditState) (text : Octets) : Act EditState :=
  if text.isEmpty then return s else s.emit i text.dropLast true

def flush (i : Invocation) (s : EditState) : Act EditState := do
  let mut s := s
  for a in s.appended do
    match a with
    | .text text => s ← s.emitText i text
    | .file path => do
      match ← Act.readFile path with
      | .ok [] | .error _ => pure ()
      | .ok text =>
        let ended := text.getLast? = some '\n'
        s ← s.emit i (if ended then text.dropLast else text) ended
  return { s with appended := [] }

def nextLine (i : Invocation) (s : EditState) : Act (Option Octets × EditState) := do
  let input ← s.input.fill i s.separator Act.often
  match input.pending with
  | [] => return (none, { s with input })
  | l :: rest => return (some l.text, { s with
      input := { input with pending := rest }
      line := s.line + 1
      ended := l.ended })

def writeTo (i : Invocation) (s : EditState) (path : Octets) (text : Octets) : Act EditState := do
  if path = "/dev/stdout".toList then s.emit i text true
  else
    match s.files.find? (·.1 = path) with
    | some (_, descriptor) => do
      let _ ← Act.call (.write descriptor (text ++ [s.separator]))
      return s
    | none => return s

/-- Whether the line matches an expression, and the state in which that is the last one. -/
def matchesLine (s : EditState) (r : Option Regular) (ignoresCase : Bool) : Bool × EditState :=
  match r.map (·, ignoresCase) <|> s.lastExpression with
  | none => (false, s)
  | some (r, ignoresCase) =>
    ((Regular.find? r ⟨s.pattern.toArray, ignoresCase⟩ 0).isSome,
      { s with lastExpression := some (r, ignoresCase) })

def isAt (s : EditState) : Place → Bool × EditState
  | .start => (false, s)
  | .line n => (s.line = n, s)
  | .last => (s.isLast, s)
  | .every first step => (first ≤ s.line && (s.line - first) % step = 0, s)
  | .matching r ignoresCase => s.matchesLine r ignoresCase

def deactivate (s : EditState) (n : Nat) : EditState :=
  { s with active := s.active.filter fun a => a.1 ≠ n }

/-- The scope of a command with a number goes on up to a line, or to one that is not known. -/
def activate (s : EditState) (n : Nat) (finish : Option Nat) : EditState :=
  { s.deactivate n with active := (n, finish) :: (s.deactivate n).active }

/-- Whether a scope that has begun holds for the line. -/
def continues (s : EditState) (n : Nat) (finish : ScopeEnd) (known : Option Nat) :
    Bool × EditState :=
  match known, finish with
  | some line, _ => if line ≤ s.line then (s.line ≤ line, s.deactivate n) else (true, s)
  | none, .place p =>
    let (isEnd, s) := s.isAt p
    (true, if isEnd then s.deactivate n else s)
  | none, _ => (true, s)

/-- Whether a scope begins with the line. -/
def begins (s : EditState) (n : Nat) (first : Place) (finish : ScopeEnd) : Bool × EditState :=
  let (isFirst, s) := s.isAt first
  if !isFirst then (false, s)
  else
    let upTo := fun (line : Nat) => (true, if line ≤ s.line then s else s.activate n (some line))
    match finish with
    | .place (.line line) => upTo line
    | .further k => upTo (s.line + k)
    | .multiple k => upTo (if k = 0 then s.line else (s.line + k - 1) / k * k)
    | .place .last => (true, if s.isLast then s else s.activate n none)
    | .place _ => (true, s.activate n none)

def applies (s : EditState) (n : Nat) (area : Scope) : Bool × EditState :=
  let (inside, s) := match area.first, area.finish with
    | none, _ => (true, s)
    | some first, none => s.isAt first
    | some .start, some finish =>
      if s.line = 1 && !s.active.any (·.1 = n) then (s.activate n none).continues n finish none
      else
        match s.active.find? (·.1 = n) with
        | some (_, known) => s.continues n finish known
        | none => (false, s)
    | some first, some finish =>
      match s.active.find? (·.1 = n) with
      | some (_, known) => s.continues n finish known
      | none => s.begins n first finish
  (inside != area.negated, s)

end EditState

/-! ## Substitution -/

structure Casing where
  all : Option Char
  next : Option Char

def Casing.apply (c : Casing) (text : Octets) : Octets × Casing :=
  let change := fun (letter : Option Char) (s : Octets) => match letter with
    | some 'U' | some 'u' => s.map Char.toUpper
    | some 'L' | some 'l' => s.map Char.toLower
    | _ => s
  match c.next, text with
  | some letter, d :: rest =>
    (change (some letter) [d] ++ change c.all rest, { c with next := none })
  | _, text => (change c.all text, c)

/-- The text that takes the place of a match. -/
def newText (s : Regular.Subject) (m : Regular.Match) (parts : List NewPart) : Octets :=
  let (text, _) := parts.foldl (fun (acc : Octets × Casing) part =>
    let add := fun (s : Octets) =>
      let (shown, casing) := acc.2.apply s
      (acc.1 ++ shown, casing)
    match part with
    | .text s => add s
    | .group number => add (m.group s number)
    | .case 'E' => (acc.1, ⟨none, none⟩)
    | .case letter =>
      if letter == 'u' || letter == 'l' then (acc.1, { acc.2 with next := some letter })
      else (acc.1, { acc.2 with all := some letter })) ([], ⟨none, none⟩)
  text

/-- Replaces matches from a position on: the new text, and whether anything was replaced. -/
def replaceMatches (s : Substitution) (r : Regular) (subject : Regular.Subject) :
    Nat → (start count : Nat) → (last : Option Nat) → Octets × Bool
  | 0, start, _, _ => (Regular.slice subject start subject.bytes.size, false)
  | fuel + 1, start, count, last =>
    let rest := Regular.slice subject start subject.bytes.size
    if subject.bytes.size < start then ([], false)
    else
      match Regular.find? r subject start with
      | none => (rest, false)
      | some m =>
        let before := Regular.slice subject start m.start
        let isEmpty := m.start = m.finish
        let following := Regular.slice subject m.finish (m.finish + 1)
        if isEmpty && last = some m.start then
          let (text, done) := replaceMatches s r subject fuel (m.finish + 1) count none
          (before ++ following ++ text, done)
        else
          let count := count + 1
          let isWanted := s.occurrence ≤ count && (s.global || count = s.occurrence)
          let shown := if isWanted then newText subject m s.parts
            else Regular.slice subject m.start m.finish
          if isWanted && !s.global then
            (before ++ shown ++ Regular.slice subject m.finish subject.bytes.size, true)
          else
            let (text, done) :=
              if isEmpty then
                let (text, done) := replaceMatches s r subject fuel (m.finish + 1) count none
                (following ++ text, done)
              else replaceMatches s r subject fuel m.finish count (some m.finish)
            (before ++ shown ++ text, isWanted || done)

/-! ## Commands -/

inductive CycleEnd where
  | finish (prints : Bool)
  | restart
  | quit (status : Nat) (prints : Bool)

/-- The number of the command behind a label; without a name, behind the last one. -/
def targetOf (plan : EditPlan) (name : Octets) : Nat :=
  if name.isEmpty then plan.commands.size
  else (plan.commands.toList.findIdx? fun c => c.verb matches .label && c.name = name).getD
    plan.commands.size

def visibleText (text : Octets) : Octets :=
  text.flatMap fun c =>
    if c == '\\' then "\\\\".toList else if isPrintable c then [c] else escapedByte c

/-- A line in pieces of a width, each but the last with a backslash behind it. -/
def wrapped (width : Nat) : Nat → Octets → Octets
  | 0, s => s
  | fuel + 1, s =>
    if s.length ≤ width then s
    else s.take (width - 1) ++ "\\\n".toList ++ wrapped width fuel (s.drop (width - 1))

def runCommandsFrom (i : Invocation) (plan : EditPlan) :
    Nat → (n : Nat) → EditState → Act (CycleEnd × EditState)
  | 0, _, s => return (.finish true, s)
  | fuel + 1, n, s => do
    match plan.commands[n]? with
    | none => return (.finish true, s)
    | some c =>
      let (applies, s) := s.applies n c.scope
      let goOn := fun (s : EditState) => runCommandsFrom i plan fuel (n + 1) s
      if !applies then
        match c.verb with
        | .block finish => runCommandsFrom i plan fuel (finish + 1) s
        | _ => goOn s
      else
        match c.verb with
        | .block _ | .blockEnd | .label => goOn s
        | .append text => goOn { s with appended := s.appended ++ [.text text] }
        | .insert text => goOn (← s.emitText i text)
        | .change text =>
          let isInside := s.active.any (·.1 = n) && !c.scope.negated
          let s ← if isInside then pure s else s.emitText i text
          return (.finish false, s)
        | .branch name when =>
          let isTaken := when.all (· == s.replaced)
          let s := if when.isSome then { s with replaced := false } else s
          if isTaken then runCommandsFrom i plan fuel (targetOf plan name) s else goOn s
        | .delete => return (.finish false, s)
        | .deleteLine =>
          match s.pattern.dropWhile (· != s.separator) with
          | [] => return (.finish false, s)
          | _ :: rest => return (.restart, { s with pattern := rest })
        | .print => goOn (← s.emit i s.pattern s.ended)
        | .printLine => goOn (← s.emit i (s.pattern.takeWhile (· != s.separator)) true)
        | .number => goOn (← s.emit i (Octets.ofNat s.line) true)
        | .show =>
          let text := visibleText s.pattern ++ ['$']
          goOn (← s.emit i (wrapped 70 (text.length + 1) text) true)
        | .next => do
          let s ← if plan.silent then pure s
            else if s.isLast then pure s else s.emit i s.pattern s.ended
          let s ← s.flush i
          match ← s.nextLine i with
          | (none, s) => return (.quit 0 true, s)
          | (some text, s) => goOn { s with pattern := text }
        | .nextJoined => do
          let s ← s.flush i
          match ← s.nextLine i with
          | (none, s) => return (.quit 0 true, s)
          | (some text, s) => goOn { s with pattern := s.pattern ++ s.separator :: text }
        | .quit status prints => return (.quit status prints, s)
        | .readFile path => goOn { s with appended := s.appended ++ [.file path] }
        | .writeFile path => goOn (← s.writeTo i path s.pattern)
        | .writeLine path => goOn (← s.writeTo i path (s.pattern.takeWhile (· != s.separator)))
        | .holdSet => goOn { s with hold := s.pattern }
        | .holdAdd => goOn { s with hold := s.hold ++ s.separator :: s.pattern }
        | .takeHeld => goOn { s with pattern := s.hold }
        | .addHeld => goOn { s with pattern := s.pattern ++ s.separator :: s.hold }
        | .exchange => goOn { s with pattern := s.hold, hold := s.pattern }
        | .clear => goOn { s with pattern := [] }
        | .replace pairs =>
          goOn { s with
            pattern := s.pattern.map fun c =>
              ((pairs.find? (·.1 = c)).map (·.2)).getD c }
        | .substitute sub =>
          match sub.expression.map (·, sub.ignoresCase) <|> s.lastExpression with
          | none => i.abandon "no previous regular expression".toList 1
          | some (r, ignoresCase) => do
            let subject : Regular.Subject := ⟨s.pattern.toArray, ignoresCase || sub.ignoresCase⟩
            let (text, done) :=
              replaceMatches sub r subject (2 * s.pattern.length + 4) 0 0 none
            let s := { s with lastExpression := some (r, ignoresCase) }
            if !done then goOn s
            else
              let s := { s with pattern := text, replaced := true }
              let s ← if sub.prints then s.emit i s.pattern s.ended else pure s
              let s ← match sub.file with
                | some path => s.writeTo i path s.pattern
                | none => pure s
              goOn s

/-- Goes through the lines; the status with which the script ends. -/
def runCycles (i : Invocation) (plan : EditPlan) :
    Nat → (again : Bool) → EditState → Act (Option Nat × EditState)
  | 0, _, s => return (none, s)
  | fuel + 1, again, s => do
    let (isReady, s) ← if again then pure (true, s) else do
      match ← s.nextLine i with
      | (none, s) => pure (false, s)
      | (some text, s) => pure (true, { s with pattern := text, replaced := false })
    if !isReady then return (none, s)
    else
      let (ending, s) ← runCommandsFrom i plan Act.often 0 s
      let closing := fun (prints : Bool) (s : EditState) => do
        let s ← if prints && !plan.silent then s.emit i s.pattern s.ended else pure s
        s.flush i
      match ending with
      | .finish prints => runCycles i plan fuel false (← closing prints s)
      | .restart => runCycles i plan fuel true (← s.flush i)
      | .quit status true => return (some status, ← closing true s)
      | .quit status false => return (some status, s)

/-! ## The utility -/

def newEditState (plan : EditPlan) (operands : List Octets) (files : List (Octets × Nat))
    (collects : Bool) : EditState :=
  { input := ⟨[], [], none, [], operands, false⟩
    pattern := []
    ended := true
    hold := []
    line := 0
    active := []
    appended := []
    unended := false
    replaced := false
    lastExpression := none
    files
    collected := if collects then some [] else none
    separator := plan.separator }

def writtenFiles (cs : List EditCommand) : List Octets :=
  cs.filterMap fun c => match c.verb with
    | .writeFile path | .writeLine path => some path
    | .substitute s => s.file
    | _ => none

def scriptOf (i : Invocation) (s : Selected) : Act (List EditCommand × List Octets) := do
  let parts := s.options.filter fun o => o.1 = 'e' || o.1 = 'f'
  let extended := s.has 'E' || s.has 'r'
  if parts.isEmpty then
    match s.operands with
    | [] => do
      let operands := r"{script-only-if-no-other-script} [input-file]..."
      Act.writeError ("Usage: sed [OPTION]... " ++ operands ++ "\n").toList
      Act.finish 1
    | text :: rest =>
      match readScript extended text with
      | .ok cs => return (cs, rest)
      | .error (n, message) =>
        i.abandon (("-e expression #1, char " ++ Nat.repr n ++ ": " ++ message).toList) 1
  else
    let mut text : Octets := []
    let mut front := 0
    let mut number := 0
    for (kind, value) in parts do
      let content ← if kind = 'e' then pure value else do
        match ← Act.readFile value with
        | .ok content => pure (if content.getLast? = some '\n' then content.dropLast else content)
        | .error fault =>
          i.abandon ("couldn't open file ".toList ++ value ++ ": ".toList ++
            fault.message.toList) 1
      if kind = 'e' then number := number + 1
      front := text.length
      text := if text.isEmpty then content else text ++ '\n' :: content
    match readScript extended text with
    | .ok cs => return (cs, s.operands)
    | .error (n, message) =>
      let place := match parts.getLast? with
        | some ('f', path) => "file " ++ String.ofList path ++ " line " ++
            Nat.repr ((text.take n).filter (· == '\n') |>.length |> (· + 1)) ++ ": "
        | _ => "-e expression #" ++ Nat.repr number ++ ", char " ++
            Nat.repr (n - (if front = 0 then 0 else front + 1)) ++ ": "
      i.abandon ((place ++ message).toList) 1

def editInPlace (i : Invocation) (plan : EditPlan) (files : List (Octets × Nat)) (suffix : Octets)
    (path : Octets) : Act (Option Nat × Bool) := do
  match ← Act.readFile path with
  | .error .isDirectory => do
    i.complain ("couldn't edit ".toList ++ path ++ ": not a regular file".toList)
    return (none, false)
  | .error fault => do
    i.complain ("can't read ".toList ++ path ++ ": ".toList ++ fault.message.toList)
    return (none, false)
  | .ok old => do
    let (ended, s) ← runCycles i plan Act.often false (newEditState plan [path] files true)
    let left := s.input.pending.flatMap Act.Line.whole
    let new := (s.collected.getD []).reverse.flatten ++ left
    let _ ← Act.change fun v => v.writeFile (textOf path) (Octets.toByteArray new)
    if !suffix.isEmpty then
      let backup := if suffix.contains '*' then suffix.flatMap fun c =>
        if c == '*' then lastName path else [c] else path ++ suffix
      let _ ← Act.change fun v => v.writeFile (textOf backup) (Octets.toByteArray old)
    return (ended, true)

def sed : Utility := fun i => do
  let s ← i.select ⟨"nrEsuz", "efl", "i",
    [("quiet", 'n'), ("silent", 'n'), ("expression", 'e'), ("file", 'f'),
      ("regexp-extended", 'E'), ("in-place", 'i'), ("separate", 's'), ("null-data", 'z')], true⟩ 1
  let (commands, operands) ← scriptOf i s
  match missingLabel? commands with
  | some name =>
    i.abandon ("can't find label for jump to ".toList ++ Char.ofNat 96 :: name ++ ['\'']) 1
  | none => do
    let mut files : List (Octets × Nat) := []
    for path in writtenFiles commands do
      if !files.any (·.1 = path) && path ≠ "/dev/stdout".toList then
        match ← Act.call (.openFile (textOf path) .writing) with
        | .ok descriptor => files := (path, descriptor) :: files
        | .error fault =>
          i.abandon ("couldn't open file ".toList ++ path ++ ": ".toList ++ fault.message.toList) 4
    let plan : EditPlan := 
      ⟨commands.toArray, s.has 'n', if s.has 'z' then Char.ofNat 0 else '\n'⟩
    if s.has 'i' then
      let mut status := 0
      for path in operands do
        let (ended, isFine) ← editInPlace i plan files ((s.value? 'i').getD []) path
        if !isFine then status := 4
        match ended with
        | some code => return code
        | none => pure ()
      return status
    else if s.has 's' then
      let mut status := 0
      for path in operands do
        let (ended, after) ← runCycles i plan Act.often false (newEditState plan [path] files false)
        if after.input.failed then status := 2
        match ended with
        | some code => return code
        | none => pure ()
      return status
    else
      let inputs := if operands.isEmpty then [['-']] else operands
      let (ended, after) ← runCycles i plan Act.often false (newEditState plan inputs files false)
      return ended.getD (if after.input.failed then 2 else 0)

end LoadScript.Utility
