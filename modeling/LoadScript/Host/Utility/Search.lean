import LoadScript.Host.Utility.Lines
import LoadScript.Host.Utility.Regular

set_option autoImplicit false

namespace LoadScript.Utility

/-! ## What is searched for -/

structure Query where
  expressions : List Regular
  ignoresCase : Bool
  words : Bool
  lines : Bool

namespace Query

def allows (q : Query) (s : Regular.Subject) (start finish : Nat) : Bool :=
  if q.lines then start = 0 && finish = s.bytes.size
  else if q.words then
    !(0 < start && s.isWordAt (start - 1)) && !s.isWordAt finish
  else true

/-- The first match from a position on; of several expressions, the one that matches first, and then
the one that matches most. -/
def find? (q : Query) (s : Regular.Subject) (start : Nat) : Option Regular.Match :=
  q.expressions.foldl (fun (best : Option Regular.Match) r =>
    match Regular.search? s r (q.allows s) (s.bytes.size + 1 - start) start, best with
    | none, best => best
    | some m, none => some m
    | some m, some b =>
      if m.start < b.start || (m.start = b.start && b.finish < m.finish) then some m else best) none

def subject (q : Query) (line : Octets) : Regular.Subject := ⟨line.toArray, q.ignoresCase⟩

def selects (q : Query) (line : Octets) : Bool := (q.find? (q.subject line) 0).isSome

/-- The parts of a line that match and are not empty: where each begins, and what it holds. -/
def parts (q : Query) (s : Regular.Subject) : Nat → Nat → List (Nat × Octets)
  | 0, _ => []
  | fuel + 1, start =>
    if s.bytes.size < start then []
    else
      match q.find? s start with
      | none => []
      | some m =>
        if m.start = m.finish then parts q s fuel (m.start + 1)
        else (m.start, Regular.slice s m.start m.finish) :: parts q s fuel m.finish

end Query

/-! ## What is shown -/

inductive Showing where
  | lines
  | parts
  | count
  | name (found : Bool)
  | nothing
  deriving DecidableEq

structure SearchStyle where
  showing : Showing
  inverted : Bool
  numbered : Bool
  offsets : Bool
  named : Bool
  before : Nat
  after : Nat
  separator : Option Octets
  limit : Option Nat
  showsBinary : Bool

structure SearchState where
  line : Nat
  offset : Nat
  found : Nat
  /-- Lines before that may have to be shown, the last one first. -/
  waiting : List (Nat × Nat × Octets)
  /-- How many lines are still to be shown after a match. -/
  trailing : Nat
  /-- The last line that was shown; zero means one of an input before. -/
  shown : Option Nat

namespace SearchStyle

/-- A line as it is shown, with a mark that tells matches from lines around them. -/
def line (style : SearchStyle) (name : Octets) (mark : Char) (number offset : Nat)
    (text : Octets) : Octets :=
  (if style.named then name ++ [mark] else []) ++
    (if style.numbered then Octets.ofNat number ++ [mark] else []) ++
    (if style.offsets then Octets.ofNat offset ++ [mark] else []) ++ text ++ ['\n']

/-- What stands in front of a line, if it does not follow the one shown before. -/
def gap (style : SearchStyle) (state : SearchState) (first : Nat) : Octets :=
  match state.shown, style.separator with
  | some n, some separator => if n + 1 < first || n = 0 then separator ++ ['\n'] else []
  | _, _ => []

def foundText (style : SearchStyle) (q : Query) (name : Octets) (state : SearchState)
    (text : Octets) : Octets :=
  let number := state.line + 1
  match style.showing with
  | .parts =>
    if style.inverted then []
    else (q.parts (q.subject text) (text.length + 1) 0).flatMap fun (start, part) =>
      style.line name ':' number (state.offset + start) part
  | _ =>
    let earlier := state.waiting.reverse
    let first := (earlier.head?.map (·.1)).getD number
    style.gap state first ++
      earlier.flatMap (fun (number, offset, text) => style.line name '-' number offset text) ++
      style.line name ':' number state.offset text

end SearchStyle

def searchLine (i : Invocation) (q : Query) (style : SearchStyle) (name : Octets)
    (state : SearchState) (l : Act.Line) : Act (SearchState × Bool) := do
  let next := { state with line := state.line + 1, offset := state.offset + l.text.length + 1 }
  let isFull := style.limit.any (· ≤ state.found)
  let showsLines := style.showing = .lines || style.showing = .parts
  if !isFull && q.selects l.text != style.inverted then
    let found := { next with
      found := state.found + 1
      waiting := []
      trailing := style.after
      shown := if showsLines then some (state.line + 1) else state.shown }
    if style.showing = .count then return (found, true)
    else if !showsLines then return (found, false)
    else if l.text.any (·.toNat = 0) && !style.showsBinary then do
      i.complain (name ++ ": binary file matches".toList)
      return (found, false)
    else do
      i.write (style.foundText q name state l.text) 2
      return (found, true)
  else if 0 < state.trailing && showsLines then do
    if style.showing = .lines then
      i.write (style.line name '-' (state.line + 1) state.offset l.text) 2
    return ({ next with trailing := state.trailing - 1, shown := some (state.line + 1) }, true)
  else
    let waiting := ((state.line + 1, state.offset, l.text) :: state.waiting).take style.before
    return ({ next with waiting }, !isFull)

/-! ## Arguments -/

def searchOptions : OptionTable :=
  ⟨"EFGPabchHiIlLnoqrRsvwxyzUT", "ABCdefmD0123", "K",
    [("count", 'c'), ("ignore-case", 'i'), ("invert-match", 'v'), ("line-number", 'n'),
      ("quiet", 'q'), ("silent", 'q'), ("files-with-matches", 'l'), ("files-without-match", 'L'),
      ("only-matching", 'o'), ("word-regexp", 'w'), ("line-regexp", 'x'), ("extended-regexp", 'E'),
      ("fixed-strings", 'F'), ("basic-regexp", 'G'), ("perl-regexp", 'P'), ("regexp", 'e'),
      ("file", 'f'), ("after-context", 'A'), ("before-context", 'B'), ("context", 'C'),
      ("max-count", 'm'), ("no-messages", 's'), ("no-filename", 'h'), ("with-filename", 'H'),
      ("recursive", 'r'), ("text", 'a'), ("color", 'K'), ("colour", 'K'), ("include", '0'),
      ("exclude", '1'), ("no-group-separator", 'T'), ("group-separator", '2'),
      ("byte-offset", 'b'), ("directories", 'd'), ("null", 'U'), ("label", '3')], true⟩

/-- An option such as `-2` asks for lines around matches. -/
def withContextOption (words : List Octets) : List Octets :=
  words.map fun word => match word with
    | '-' :: c :: rest =>
      if c.isDigit && rest.all Char.isDigit then "-C".toList ++ c :: rest else word
    | word => word

/-- Expressions with a letter for digits as extended ones. -/
def withDigitClasses : Octets → Octets
  | '\\' :: 'd' :: rest => "[0-9]".toList ++ withDigitClasses rest
  | '\\' :: c :: rest => '\\' :: c :: withDigitClasses rest
  | c :: rest => c :: withDigitClasses rest
  | [] => []

def readQuery (s : Selected) (texts : List Octets) : Except String Query := do
  let kind := s.last? "EFGP"
  let expressions ← (texts.flatMap (splitOnByte '\n')).mapM fun text =>
    match kind with
    | some 'F' => .ok (Regular.ofText text)
    | some 'E' => Regular.read true text
    | some 'P' => Regular.read true (withDigitClasses text)
    | _ => Regular.read false text
  return ⟨expressions, s.has 'i' || s.has 'y', s.has 'w', s.has 'x'⟩

def searchCount (i : Invocation) (s : Selected) (c : Char) (wrong : Octets → Octets) :
    Act (Option Nat) := do
  match s.value? c with
  | none => return none
  | some text =>
    match decimal? text with
    | some n => return some n
    | none => i.abandon (wrong text) 2

def readStyle (i : Invocation) (s : Selected) (named : Bool) : Act SearchStyle := do
  let wrong := fun (text : Octets) => text ++ ": invalid context length argument".toList
  let context ← searchCount i s 'C' wrong
  let before ← searchCount i s 'B' wrong
  let after ← searchCount i s 'A' wrong
  let limit ← searchCount i s 'm' fun _ => "invalid max count".toList
  let showing :=
    if s.has 'q' then .nothing
    else match s.last? "lL" with
      | some 'l' => .name true
      | some _ => .name false
      | none => if s.has 'c' then .count else if s.has 'o' then .parts else Showing.lines
  let hasContext := s.has 'A' || s.has 'B' || s.has 'C'
  return {
    showing
    inverted := s.has 'v'
    numbered := s.has 'n'
    offsets := s.has 'b'
    named
    before := (before <|> context).getD 0
    after := (after <|> context).getD 0
    separator := if hasContext && !s.has 'T' then some ((s.value? '2').getD "--".toList) else none
    limit
    showsBinary := s.has 'a' }

def filesIn (v : Volume) (path : Octets) : List Octets :=
  (everythingIn v 1000 path).filter fun p => v.isFile (textOf p)

def searchInputs (s : Selected) (v : Volume) (deep : Bool) (operands : List Octets) :
    List Octets :=
  let wanted := fun (path : Octets) => (s.value? '0').all fun glob =>
    (glob.dropWhile (· == '*')).isSuffixOf path
  let files := fun (path : Octets) =>
    if deep && v.isDirectory (textOf path) then (filesIn v path).filter wanted else [path]
  match operands with
  | [] => if deep then (files ['.']).map (·.drop 2) else [['-']]
  | operands => operands.flatMap files

def searchInput (i : Invocation) (s : Selected) (q : Query) (style : SearchStyle) (path : Octets)
    (shown : Option Nat) : Act (Except FileFault SearchState) := do
  let name := if path = ['-'] then (s.value? '3').getD "(standard input)".toList else path
  match ← Act.openOperand path with
  | .error fault => return .error fault
  | .ok descriptor => do
    let isDirectory := (← Act.call (.medium descriptor)) = some .directory
    let start : SearchState := ⟨0, 0, 0, [], 0, shown⟩
    if isDirectory && s.value? 'd' = some "skip".toList then return .ok start
    else
      let (state, fault) ← Act.eachLine descriptor (searchLine i q style name) Act.often [] start
      Act.closeOperand descriptor
      match fault with
      | some fault => return .error fault
      | none => do
        match style.showing with
        | .count =>
          i.write ((if style.named then name ++ [':'] else []) ++ Octets.ofNat state.found ++
            ['\n']) 2
        | .name found => if (0 < state.found) == found then i.write (name ++ ['\n']) 2
        | _ => pure ()
        return .ok state

def searchAll (i : Invocation) (s : Selected) (q : Query) (style : SearchStyle) :
    List Octets → (found failed : Bool) → Option Nat → Act Nat
  | [], found, failed, _ => return if failed then 2 else if found then 0 else 1
  | path :: rest, found, failed, shown => do
    match ← searchInput i s q style path shown with
    | .error fault => do
      if !s.has 's' then i.complainOf path fault
      searchAll i s q style rest found true shown
    | .ok state =>
      let isFound := 0 < state.found
      if isFound && style.showing = .nothing then return 0
      else
        searchAll i s q style rest (found || isFound) failed (state.shown.map fun _ => 0)

/-- The repetitions of an expression that repeat nothing. -/
def idleRepetitions : Nat → (isFirst : Bool) → Octets → List String
  | 0, _, _ => []
  | _, _, [] => []
  | fuel + 1, isFirst, c :: rest =>
    match c with
    | '(' | '|' | '^' => idleRepetitions fuel true rest
    | '\\' => idleRepetitions fuel false (rest.drop 1)
    | '[' =>
      match Regular.readBracket rest with
      | .ok (_, after) => idleRepetitions fuel false after
      | .error _ => []
    | '*' | '+' | '?' =>
      if isFirst then String.ofList [c] :: idleRepetitions fuel true rest
      else idleRepetitions fuel false rest
    | '{' =>
      match Regular.readBounds? true rest with
      | some (_, _, after) =>
        if isFirst then r"{...}" :: idleRepetitions fuel true after
        else idleRepetitions fuel false after
      | none => idleRepetitions fuel false rest
    | _ => idleRepetitions fuel false rest

def grepWith (preset : List Char) : Utility := fun i => do
  let arguments := withContextOption i.arguments
  let explain := do
    Act.writeError "Usage: grep [OPTION]... PATTERNS [FILE]...\n".toList
    i.pointToHelp
  let fuel := arguments.flatten.length + arguments.length + 1
  let s ← match searchOptions.select fuel arguments with
    | .ok s => pure { s with options := preset.map (·, []) ++ s.options }
    | .error message => do
      i.complain message
      explain
      Act.finish 2
  let fromFiles ← (s.values 'f').mapM fun path => do
    match ← readLines path with
    | .ok lines => pure (lines.map (·.text))
    | .error fault => i.abandon (showName path ++ ": ".toList ++ fault.message.toList) 2
  let isGiven := s.has 'e' || s.has 'f'
  if !isGiven && s.operands.isEmpty then
    explain
    return 2
  else
    let texts := if isGiven then s.values 'e' ++ fromFiles.flatten else s.operands.take 1
    let operands := if isGiven then s.operands else s.operands.drop 1
    let q ← match readQuery s texts with
      | .ok q => pure q
      | .error message => i.abandon message.toList 2
    if s.last? "EFGP" = some 'E' then
      for text in texts do
        for idle in idleRepetitions (text.length + 1) true text do
          i.complain ("warning: " ++ idle ++ " at start of expression").toList
    let deep := s.has 'r' || s.has 'R'
    let v ← Act.look fun v => v
    let paths := searchInputs s v deep operands
    let named := match s.last? "hH" with
      | some 'h' => false
      | some _ => true
      | none => 1 < operands.length || (deep && paths ≠ operands)
    let style ← readStyle i s named
    searchAll i s q style paths false false none

def grep : Utility := grepWith []

def egrep : Utility := grepWith ['E']

def fgrep : Utility := grepWith ['F']

end LoadScript.Utility
