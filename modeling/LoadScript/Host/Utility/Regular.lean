import LoadScript.Host.Utility.Streams

set_option autoImplicit false

namespace LoadScript

inductive Regular where
  | empty
  | char (c : Char)
  | any
  | set (negated : Bool) (members : List Char)
  | sequence (first second : Regular)
  | either (first second : Regular)
  /-- A number of times; without a greatest one, as often as possible. -/
  | times (least : Nat) (greatest : Option Nat) (r : Regular)
  | group (number : Nat) (r : Regular)
  | again (number : Nat)
  | lineStart
  | lineEnd
  | wordStart
  | wordEnd
  | wordEdge (isEdge : Bool)
  deriving Inhabited

namespace Regular

/-! ## Matching -/

structure State where
  position : Nat
  groups : List (Nat × Nat × Nat)

def isWordByte (c : Char) : Bool := c.isAlphanum || c == '_'

structure Subject where
  bytes : Array Char
  ignoresCase : Bool

namespace Subject

def at? (s : Subject) (n : Nat) : Option Char := s.bytes[n]?

def isWordAt (s : Subject) (n : Nat) : Bool := (s.at? n).any isWordByte

def same (s : Subject) (a b : Char) : Bool :=
  a == b || (s.ignoresCase && a.toLower == b.toLower)

def fits (s : Subject) (r : Regular) (c : Char) : Bool :=
  match r with
  | .char d => s.same d c
  | .any => true
  | .set negated members =>
    let isMember := members.contains c ||
      (s.ignoresCase && (members.contains c.toLower || members.contains c.toUpper))
    isMember != negated
  | _ => false

end Subject

def isSingle : Regular → Bool
  | .char _ | .any | .set _ _ => true
  | _ => false

/-- States without those whose position has been before. -/
def distinct : List State → List Nat → List State
  | [], _ => []
  | s :: rest, seen =>
    if seen.contains s.position then distinct rest seen
    else s :: distinct rest (s.position :: seen)

def runLength (s : Subject) (r : Regular) : Nat → Nat → Nat
  | 0, _ => 0
  | fuel + 1, n =>
    match s.at? n with
    | some c => if s.fits r c then runLength s r fuel (n + 1) + 1 else 0
    | none => 0

/-- The states after repetitions, most of them first. -/
def repetitions (f : State → List State) : Nat → (done : Nat) → (least : Nat) →
    (greatest : Option Nat) → State → List State
  | 0, done, least, _, s => if least ≤ done then [s] else []
  | fuel + 1, done, least, greatest, s =>
    let more := if greatest.all (done < ·) then
        (f s).filter fun t => s.position < t.position || done < least
      else []
    distinct (more.flatMap (repetitions f fuel (done + 1) least greatest) ++
      (if least ≤ done then [s] else [])) []

/-- The states in which a match can end that begins in a state, the preferred ones first. -/
def ends (s : Subject) : Regular → State → List State
  | .empty, state => [state]
  | .char c, state =>
    if (s.at? state.position).any (s.fits (.char c)) then
      [{ state with position := state.position + 1 }] else []
  | .any, state =>
    if (s.at? state.position).isSome then [{ state with position := state.position + 1 }] else []
  | .set negated members, state =>
    if (s.at? state.position).any (s.fits (.set negated members)) then
      [{ state with position := state.position + 1 }] else []
  | .sequence first second, state =>
    distinct ((ends s first state).flatMap (ends s second)) []
  | .either first second, state => distinct (ends s first state ++ ends s second state) []
  | .times least greatest r, state =>
    let left := s.bytes.size - state.position
    if isSingle r then
      let most := runLength s r (Nat.min left (greatest.getD left)) state.position
      if most < least then []
      else (List.range (most - least + 1)).map fun n =>
        { state with position := state.position + (most - n) }
    else repetitions (ends s r) (left + least + 1) 0 least greatest state
  | .group number r, state =>
    (ends s r state).map fun after =>
      { after with
        groups := (number, state.position, after.position) ::
          after.groups.filter fun g => g.1 ≠ number }
  | .again number, state =>
    match state.groups.find? (·.1 = number) with
    | none => []
    | some (_, low, high) =>
      let size := high - low
      if (List.range size).all fun n =>
        match s.at? (low + n), s.at? (state.position + n) with
        | some a, some b => s.same a b
        | _, _ => false
      then [{ state with position := state.position + size }] else []
  | .lineStart, state => if state.position = 0 then [state] else []
  | .lineEnd, state => if state.position = s.bytes.size then [state] else []
  | .wordStart, state =>
    let before := 0 < state.position && s.isWordAt (state.position - 1)
    if !before && s.isWordAt state.position then [state] else []
  | .wordEnd, state =>
    let before := 0 < state.position && s.isWordAt (state.position - 1)
    if before && !s.isWordAt state.position then [state] else []
  | .wordEdge isEdge, state =>
    let before := 0 < state.position && s.isWordAt (state.position - 1)
    if (before != s.isWordAt state.position) == isEdge then [state] else []

structure Match where
  start : Nat
  finish : Nat
  groups : List (Nat × Nat × Nat)

/-- The longest match that begins at a position, of those that are allowed by where they begin and
end. -/
def matchAt? (s : Subject) (r : Regular) (allowed : Nat → Nat → Bool) (start : Nat) :
    Option Match :=
  let best := (ends s r ⟨start, []⟩).foldl (fun (best : Option State) state =>
    if !allowed start state.position then best
    else
      match best with
      | none => some state
      | some b => if b.position < state.position then some state else best) none
  best.map fun state => ⟨start, state.position, state.groups⟩

/-- The leftmost match that begins at a position or behind it. -/
def search? (s : Subject) (r : Regular) (allowed : Nat → Nat → Bool) : Nat → Nat → Option Match
  | 0, _ => none
  | fuel + 1, start =>
    match matchAt? s r allowed start with
    | some m => some m
    | none => search? s r allowed fuel (start + 1)

def find? (r : Regular) (s : Subject) (start : Nat) : Option Match :=
  search? s r (fun _ _ => true) (s.bytes.size + 1 - start) start

def slice (s : Subject) (low high : Nat) : Octets := (s.bytes.extract low high).toList

/-- What a group of a match holds; the group zero is the match. -/
def Match.group (m : Match) (s : Subject) (number : Nat) : Octets :=
  if number = 0 then slice s m.start m.finish
  else
    match m.groups.find? (·.1 = number) with
    | some (_, low, high) => slice s low high
    | none => []

/-! ## Reading -/

structure Cursor where
  rest : Octets
  groups : Nat
  closed : List Nat
  depth : Nat

abbrev Reading := StateT Cursor (Except String)

def wordBytes : List Char := ((List.range 256).map Char.ofNat).filter isWordByte

def spaceBytes : List Char := ((List.range 256).map Char.ofNat).filter Utility.isSpace

def classBytes (name : String) : List Char :=
  ((List.range 256).filter fun n => Utility.inClass name n = some true).map Char.ofNat

def readMembers : Nat → Octets → Except String (List Char × Octets)
  | 0, _ => .error "Unmatched [, [^, [:, [., or [="
  | fuel + 1, text =>
    let add := fun (members : List Char) (rest : Octets) => do
      match rest with
      | ']' :: after => return (members, after)
      | rest =>
        let (more, after) ← readMembers fuel rest
        return (members ++ more, after)
    match text with
    | [] => .error "Unmatched [, [^, [:, [., or [="
    | '[' :: ':' :: rest =>
      match Utility.untilPair ':' ']' rest with
      | some (name, after) =>
        if (Utility.inClass (String.ofList name) 0).isSome then
          add (classBytes (String.ofList name)) after
        else .error "Invalid character class name"
      | none => .error "Unmatched [, [^, [:, [., or [="
    | '[' :: c :: rest =>
      if c == '=' || c == '.' then
        match Utility.untilPair c ']' rest with
        | some ([d], after) => add [d] after
        | some _ => .error "Invalid collation character"
        | none => .error "Unmatched [, [^, [:, [., or [="
      else add ['['] (c :: rest)
    | low :: '-' :: ']' :: rest => add [low] ('-' :: ']' :: rest)
    | low :: '-' :: high :: rest =>
      let (high, rest) := match high, rest with
        | '[', '.' :: d :: '.' :: ']' :: after => (d, after)
        | '[', '=' :: d :: '=' :: ']' :: after => (d, after)
        | high, rest => (high, rest)
      if high.toNat < low.toNat then .error "Invalid range end"
      else
        add ((List.range (high.toNat + 1 - low.toNat)).map fun n => Char.ofNat (low.toNat + n)) rest
    | c :: rest => add [c] rest

def readBracket (text : Octets) : Except String (Regular × Octets) := do
  let (negated, text) := match text with
    | '^' :: rest => (true, rest)
    | text => (false, text)
  let (members, rest) ← match text with
    | [] => .error "Invalid regular expression"
    | ']' :: '-' :: _ => readMembers (text.length + 1) text
    | ']' :: ']' :: rest => .ok ([']'], rest)
    | ']' :: rest => do
      let (members, rest) ← readMembers (text.length + 1) rest
      pure (']' :: members, rest)
    | text => readMembers (text.length + 1) text
  let inside := text.take (text.length - rest.length - 1)
  if 1 < inside.length && inside.head? = some ':' && inside.getLast? = some ':' && !negated then
    .error "character class syntax is [[:space:]], not [:space:]"
  else return (.set negated members, rest)

def readBounds? (extended : Bool) (text : Octets) : Option (Nat × Option Nat × Octets) :=
  let low := text.takeWhile Char.isDigit
  let rest := text.drop low.length
  let (high, rest, hasComma) := match rest with
    | ',' :: more =>
      let high := more.takeWhile Char.isDigit
      (high, more.drop high.length, true)
    | rest => ([], rest, false)
  let after? := match extended, rest with
    | true, '}' :: after => some after
    | false, '\\' :: '}' :: after => some after
    | _, _ => none
  match after? with
  | none => none
  | some after =>
    if low.isEmpty && !hasComma then none
    else
      let least := (decimal? low).getD 0
      let greatest := if hasComma then decimal? high else some least
      some (least, greatest, after)

def atEnd (extended : Bool) (depth : Nat) : Octets → Bool
  | [] => true
  | ')' :: _ => extended && 0 < depth
  | '|' :: _ => extended
  | '\\' :: ')' :: _ => !extended
  | '\\' :: '|' :: _ => !extended
  | _ => false

def remaining : Reading Octets := return (← get).rest

def advance (n : Nat) : Reading Unit := modify fun c => { c with rest := c.rest.drop n }

def readRepetitions (extended : Bool) : Nat → Regular → Reading Regular
  | 0, r => return r
  | fuel + 1, r => do
    let again := fun (least : Nat) (greatest : Option Nat) (n : Nat) => do
      advance n
      readRepetitions extended fuel (.times least greatest r)
    let bounded := fun (text : Octets) => do
      match readBounds? extended text with
      | some (least, greatest, after) =>
        if greatest.any (· < least) then throw r"Invalid content of \{\}"
        else
          modify fun c => { c with rest := after }
          readRepetitions extended fuel (.times least greatest r)
      | none =>
        if extended then return r
        else if text.contains '}' then throw r"Invalid content of \{\}"
        else throw r"Unmatched \{"
    match ← remaining with
    | '*' :: _ => again 0 none 1
    | '+' :: _ => if extended then again 1 none 1 else return r
    | '?' :: _ => if extended then again 0 (some 1) 1 else return r
    | '{' :: text => if extended then bounded text else return r
    | '\\' :: '+' :: _ => if extended then return r else again 1 none 2
    | '\\' :: '?' :: _ => if extended then return r else again 0 (some 1) 2
    | '\\' :: '{' :: text => if extended then return r else bounded text
    | _ => return r

def escape? (c : Char) : Option Regular :=
  match c with
  | 'w' => some (.set false wordBytes)
  | 'W' => some (.set true wordBytes)
  | 's' => some (.set false spaceBytes)
  | 'S' => some (.set true spaceBytes)
  | '<' => some .wordStart
  | '>' => some .wordEnd
  | 'b' => some (.wordEdge true)
  | 'B' => some (.wordEdge false)
  | '\'' => some .lineEnd
  | c => if c.toNat = 96 then some .lineStart else none

mutual

def readEither (extended : Bool) : Nat → Reading Regular
  | 0 => return .empty
  | fuel + 1 => do
    let first ← readSequence extended fuel true .empty
    match ← remaining with
    | '|' :: _ =>
      if extended then
        advance 1
        return .either first (← readEither extended fuel)
      else return first
    | '\\' :: '|' :: _ =>
      if extended then return first
      else
        advance 2
        return .either first (← readEither extended fuel)
    | _ => return first

def readSequence (extended : Bool) : Nat → (isFirst : Bool) → Regular → Reading Regular
  | 0, _, r => return r
  | fuel + 1, isFirst, before => do
    let c ← get
    if atEnd extended c.depth c.rest then return before
    else
      let r ← readAtom extended fuel isFirst
      let isAnchor := match r with
        | .lineStart => isFirst && !extended
        | _ => false
      let r ← if isAnchor then pure r else readRepetitions extended c.rest.length r
      let joined := match before with
        | .empty => r
        | before => .sequence before r
      readSequence extended fuel isAnchor joined

def readAtom (extended : Bool) : Nat → (isFirst : Bool) → Reading Regular
  | 0, _ => return .empty
  | fuel + 1, isFirst => do
    let c ← get
    let taken := fun (n : Nat) (r : Regular) => do
      advance n
      return r
    match c.rest with
    | [] => return .empty
    | '\\' :: [] => throw "Trailing backslash"
    | '(' :: _ => if extended then readGroup extended fuel 1 else taken 1 (.char '(')
    | '\\' :: '(' :: _ => if extended then taken 2 (.char '(') else readGroup extended fuel 2
    | '\\' :: d :: _ =>
      match escape? d with
      | some r => taken 2 r
      | none =>
        if d.isDigit && d != '0' then
          let number := d.toNat - '0'.toNat
          if c.closed.contains number then taken 2 (.again number)
          else throw "Invalid back reference"
        else if d == '{' && !extended then
          if isFirst then throw "Invalid preceding regular expression" else taken 2 (.char d)
        else taken 2 (.char d)
    | '[' :: rest => do
      match readBracket rest with
      | .ok (r, after) => do
        modify fun c => { c with rest := after }
        return r
      | .error message => throw message
    | '.' :: _ => taken 1 .any
    | '^' :: _ => if extended || isFirst then taken 1 .lineStart else taken 1 (.char '^')
    | '$' :: rest =>
      if extended || atEnd extended c.depth rest then taken 1 .lineEnd else taken 1 (.char '$')
    | '*' :: _ => taken 1 (if extended && isFirst then .empty else .char '*')
    | d :: rest =>
      if extended && isFirst && (d == '+' || d == '?') then taken 1 .empty
      else
        match if extended && isFirst && d == '{' then readBounds? true rest else none with
        | some (_, _, after) => taken (c.rest.length - after.length) .empty
        | none => taken 1 (.char d)

def readGroup (extended : Bool) : Nat → (opening : Int) → Reading Regular
  | 0, _ => return .empty
  | fuel + 1, opening => do
    let number := (← get).groups + 1
    modify fun c => { c with
      rest := c.rest.drop opening.toNat
      groups := number
      depth := c.depth + 1 }
    let r ← readEither extended fuel
    match extended, ← remaining with
    | true, ')' :: _ | false, '\\' :: ')' :: _ => do
      modify fun c => { c with
        rest := c.rest.drop opening.toNat
        closed := number :: c.closed
        depth := c.depth - 1 }
      return .group number r
    | _, _ => throw "Unmatched ( or \\("

end

def read (extended : Bool) (text : Octets) : Except String Regular :=
  match (readEither extended (4 * text.length + 8)).run ⟨text, 0, [], 0⟩ with
  | .error message => .error message
  | .ok (r, c) => if c.rest.isEmpty then .ok r else .error "Unmatched ) or \\)"

/-- The expression for a text as it is. -/
def ofText (text : Octets) : Regular :=
  text.foldr (fun c r => match r with
    | .empty => .char c
    | r => .sequence (.char c) r) .empty

def groupCount : Regular → Nat
  | .sequence first second | .either first second => groupCount first + groupCount second
  | .times _ _ r => groupCount r
  | .group _ r => groupCount r + 1
  | _ => 0

end Regular

end LoadScript
