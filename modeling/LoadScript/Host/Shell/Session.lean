import LoadScript.Host.Program
import LoadScript.Host.Shell.Elements
import LoadScript.Host.Shell.Grammar
import LoadScript.Host.Shell.Pattern
import LoadScript.Host.Shell.Trouble

set_option autoImplicit false

namespace LoadScript.Shell

structure Variable where
  /-- A variable can be known without having a value. -/
  value : Option Octets
  exported : Bool
  fixed : Bool
  /-- The elements of an array; then the value does not count. -/
  elements : Option Elements := none
  /-- Whether what is assigned is taken for an arithmetic expression. -/
  integer : Bool := false

/-- Commands in the background: their processes, of which the last one counts, and how that one has
ended once it is known. -/
structure Job where
  number : Nat
  pids : List Nat
  ending : Option Ending
  waited : Bool

structure Session where
  dialect : Dialect
  name : Octets
  arguments : List Octets
  bindings : List (String × Variable)
  functions : List (String × Command)
  aliases : List (String × Octets)
  documents : List (Nat × Word)
  freshDocument : Nat
  /-- What is done when a signal comes; the signal zero stands for the end. -/
  traps : List (Signal × Octets)
  status : Nat
  /-- The status from before the action for a signal that is being carried out. -/
  saved : Option Nat
  arrived : List Signal
  outputStatus : Nat
  options : List Char
  namedOptions : List String
  pid : Nat
  jobs : List Job
  lastJob : Option Nat
  /-- What the variables were that functions and commands have made their own. -/
  hidden : List (List (String × Option Variable))
  loops : Nat
  depth : Nat
  line : Nat
  nextLine : Nat
  command : Option String
  /-- How far into a word the options of `getopts` are read. -/
  optionOffset : Nat
  umask : Nat
  place : Octets
  level : Nat
  statuses : List Nat
  calls : List String
  channels : List Nat

def Action (α : Type) : Type 1 :=
  Session → (Except Jump α → Session → Program) → Program

namespace Action

instance : Monad Action where
  pure a := fun s next => next (.ok a) s
  bind act f := fun s next => act s fun
    | .ok a, s => f a s next
    | .error jump, s => next (.error jump) s

instance : MonadStateOf Session Action where
  get := fun s next => next (.ok s) s
  set s := fun _ next => next (.ok ()) s
  modifyGet f := fun s next => let (a, s) := f s; next (.ok a) s

instance : MonadExceptOf Jump Action where
  throw jump := fun s next => next (.error jump) s
  tryCatch act handler := fun s next => act s fun
    | .ok a, s => next (.ok a) s
    | .error jump, s => handler jump s next

def attempt {α : Type} (act : Action α) : Action (Except Jump α) := fun s next =>
  act s fun result s => next (.ok result) s

def call {α : Type} (c : Call α) : Action α := fun s next => .asks c fun a => next (.ok a) s

def lift {α : Type} (act : Act α) : Action α := fun s next => act fun a => next (.ok a) s

def fork (child : Program) : Action Nat := fun s next => .forks child fun pid => next (.ok pid) s

def look {α : Type} (f : Volume → α) : Action α := call (.files fun v => (f v, v))

def replaceBy {α : Type} (p : Program) : Action α := fun _ _ => p

end Action

namespace Session

/-- The values that one dialect keeps itself. -/
def kept? (s : Session) (name : String) : Option Elements :=
  let numbers := fun (ns : List Nat) => some (Elements.ofList (ns.map Octets.ofNat))
  match s.dialect, name with
  | .dash, _ => none
  | .bash, "LINENO" => numbers [s.line]
  | .bash, "PIPESTATUS" => numbers s.statuses
  | .bash, "BASH_SUBSHELL" => numbers [s.level]
  | .bash, "FUNCNAME" =>
    if s.calls.isEmpty then none
    else some (.ofList ((s.calls ++ ["main"]).map String.toList))
  | .bash, "BASH_SOURCE" => some (.ofList [s.place])
  | .bash, "RANDOM" => numbers [(s.line * 7919 + s.pid * 104729 + s.jobs.length) % 32768]
  | .bash, "SECONDS" => numbers [0]
  | .bash, _ => none

def elements? (s : Session) (name : String) : Option Elements :=
  s.kept? name <|> ((s.bindings.find? (·.1 = name)).bind (·.2.elements))

def get? (s : Session) (name : String) : Option Octets :=
  match s.elements? name with
  | some e => e.first?
  | none => ((s.bindings.find? (·.1 = name)).map (·.2)).bind (·.value)

/-- An element of an array; a single value counts as an array of it. -/
def element? (s : Session) (name : String) (key : Octets) : Option Octets :=
  match s.elements? name with
  | some e => e.get? key
  | none => if key = ['0'] then s.get? name else none

def binding (s : Session) (name : String) : Variable :=
  ((s.bindings.find? (·.1 = name)).map (·.2)).getD
    { value := none, exported := false, fixed := false }

def setVariable (s : Session) (name : String) (v : Variable) : Session :=
  { s with bindings := (name, v) :: s.bindings.filter fun b => b.1 ≠ name }

def dropVariable (s : Session) (name : String) : Session :=
  { s with bindings := s.bindings.filter fun b => b.1 ≠ name }

def has (s : Session) (option : Char) : Bool := s.options.contains option

def environment (s : Session) : List (String × Octets) :=
  s.bindings.filterMap fun (name, v) =>
    if v.exported then v.value.map fun value => (name, value) else none

def separators (s : Session) : Octets :=
  match s.bindings.find? (·.1 = "IFS") with
  | some (_, v) => v.value.getD " \t\n".toList
  | none => " \t\n".toList

end Session

/-- A command that a word holds: its output, or a path that leads to it. -/
inductive Held where
  | output (c : Option Command)
  | channel (c : Option Command) (writes : Bool)

abbrev Substitute := Held → Action Octets

namespace Action

def setStatus (status : Nat) : Action Unit := modify fun s => { s with status }

def writeError (text : Octets) : Action Unit := do
  let _ ← call (.write 2 text)

def heading (s : Session) : Octets :=
  let number := match s.dialect with
    | .dash => ": ".toList ++ Octets.ofNat s.line
    | .bash => if s.line = 0 then [] else ": line ".toList ++ Octets.ofNat s.line
  let command := match s.command with
    | some name => name.toList ++ ": ".toList
    | none => []
  s.place ++ number ++ ": ".toList ++ command

def mention (message : Octets) : Action Unit := do
  writeError (heading (← get) ++ message ++ ['\n'])

def complain (trouble : Trouble) : Action Unit := do
  let s ← get
  let s := if trouble.isNamed s.dialect then s else { s with command := none }
  writeError (heading s ++ trouble.message s.dialect ++ ['\n'])

def fail {α : Type} (trouble : Trouble) : Action α := do
  complain trouble
  let s ← get
  setStatus (trouble.status s.dialect)
  throw (trouble.jump s.dialect)

/-- Assigns a value to a variable; of an array, to its first element. -/
def assign (name : String) (value : Octets) : Action Unit := do
  let s ← get
  let v := s.binding name
  if v.fixed then fail (.fixed name)
  else
    let v := match v.elements with
      | some e => { v with elements := some (e.insert ['0'] value) }
      | none => { v with value := some value }
    set (s.setVariable name { v with exported := v.exported || s.has 'a' })

def assignElement (name : String) (key value : Octets) : Action Unit := do
  let s ← get
  let v := s.binding name
  if v.fixed then fail (.fixed name)
  else
    let e := v.elements.getD (.listed (v.value.toList.map (0, ·)))
    set (s.setVariable name { v with elements := some (e.insert key value) })

def share (name : String) : Action Unit :=
  modify fun s => s.setVariable name { s.binding name with exported := true }

/-- Remembers what a variable is, so that it can be given back. -/
def hide (name : String) : Action Unit := modify fun s =>
  match s.hidden with
  | [] => s
  | frame :: outer =>
    if frame.any (·.1 = name) then s
    else { s with
      hidden := ((name, (s.bindings.find? (·.1 = name)).map (·.2)) :: frame) :: outer }

def optionsName : String := "-"

def hideOptions : Action Unit := modify fun s =>
  match s.hidden with
  | [] => s
  | frame :: outer =>
    if frame.any (·.1 = optionsName) then s
    else
      let kept : Variable := { value := some s.options, exported := false, fixed := false }
      { s with hidden := ((optionsName, some kept) :: frame) :: outer }

def restore (s : Session) : String × Option Variable → Session
  | (name, old) =>
    if name = optionsName then { s with options := (old.bind (·.value)).getD s.options }
    else
      match old with
      | some v => s.setVariable name v
      | none => s.dropVariable name

/-- Carries out an action; after it, what was hidden is again what it was. -/
def withFrame {α : Type} (act : Action α) : Action α := do
  modify fun s => { s with hidden := [] :: s.hidden }
  let result ← attempt act
  modify fun s => (s.hidden.headD []).foldl restore { s with hidden := s.hidden.tail }
  match result with
  | .ok a => return a
  | .error jump => throw jump

end Action

end LoadScript.Shell
