import LoadScript.Host.Shell.Expansion
import LoadScript.Host.Shell.Printing
import LoadScript.Host.Shell.Testing
import LoadScript.Host.Utility.Basic

set_option autoImplicit false

namespace LoadScript.Shell

namespace Action

def say (status : Nat) (text : Octets) : Action Unit := do
  if text.isEmpty then setStatus status
  else
    match ← call (.write 1 text) with
    | .ok () => setStatus status
    | .error fault => do
      let s ← get
      match s.dialect with
      | .dash => mention ((s.command.getD "").toList ++ ": I/O error".toList)
      | .bash => mention ("write error: ".toList ++ fault.message.toList)
      setStatus 1

def number (s : Octets) : Action Nat := do
  match Testing.number? s with
  | .ok n =>
    if 0 ≤ n && n ≤ 2147483647 then return n.toNat else fail (.badNumber s)
  | .error _ => fail (.badNumber s)

/-- The letters of the options in front, each with its argument if it takes one, and what follows
them. -/
def options (known takes : List Char) : Nat → List Octets →
    Action (List (Char × Octets) × List Octets)
  | 0, words => return ([], words)
  | fuel + 1, words =>
    match words with
    | ['-', '-'] :: rest => return ([], rest)
    | ('-' :: c :: letters) :: rest => do
      if takes.contains c then
        match letters, rest with
        | [], argument :: rest => do
          let (found, rest) ← options known takes fuel rest
          return ((c, argument) :: found, rest)
        | [], [] => fail (.missingArgument c)
        | argument, rest => do
          let (found, rest) ← options known takes fuel rest
          return ((c, argument) :: found, rest)
      else if !known.contains c then fail (.badOption c)
      else
        let more := if letters.isEmpty then rest else ('-' :: letters) :: rest
        let (found, rest) ← options known takes fuel more
        return ((c, []) :: found, rest)
    | words => return ([], words)

def optionsOf (known takes : String) (words : List Octets) :
    Action (List (Char × Octets) × List Octets) :=
  options known.toList takes.toList (words.flatten.length + words.length + 1) words

end Action

namespace Builtin

open Action

/-! ## Texts and tests -/

def echo (arguments : List Octets) : Action Unit := do
  match (← get).dialect with
  | .dash => say 0 (Printing.echo arguments)
  | .bash => say 0 (Printing.echoWithOptions arguments)

def formatStyle : Dialect → Printing.Style
  | .dash => ⟨false, none⟩
  | .bash => ⟨true, some quoteBriefly⟩

def printf (arguments : List Octets) : Action Unit := do
  let (_, rest) ← optionsOf "" "" arguments
  match rest with
  | [] => fail (.told "usage: printf format [arg ...]")
  | format :: arguments => do
    let dialect := (← get).dialect
    let printed := Printing.printf (formatStyle dialect) format arguments
    for (argument, fault) in printed.complaints do
      mention (argument ++ ": ".toList ++ (fault.message dialect).toList)
    match printed.invalid with
    | some conversion => do
      say 0 printed.text
      fail (.badDirective conversion)
    | none => say (if printed.failed then 1 else 0) printed.text

def isSet (s : Session) (text : Octets) : Bool :=
  match splitReference text with
  | (name, none) => (s.parameter? name).isSome
  | (name, some key) =>
    match allSign? key with
    | some _ => (s.elements? name).any fun e => !e.keys.isEmpty
    | none => (s.element? name key).isSome

def test (arguments : List Octets) : Action Unit := do
  let s ← get
  match ← look fun v => Testing.holds s.dialect ⟨v, isSet s⟩ arguments with
  | .ok true => setStatus 0
  | .ok false => setStatus 1
  | .error fault => fail (.badTest (fault.message s.dialect))

def bracket (arguments : List Octets) : Action Unit :=
  if arguments.getLast? = some [']'] then test arguments.dropLast else fail .missingBracket

/-! ## Variables -/

def checkName (name : Octets) : Action Unit :=
  if isName name then pure () else fail (.badName name)

def splitValue (s : Octets) : Octets × Option Octets :=
  match splitAt? '=' s with
  | some (name, value) => (name, some value)
  | none => (s, none)

def listing (front : String) (chosen : Variable → Bool) (s : Session) : Octets :=
  let chosenBindings := s.bindings.filter fun b => chosen b.2
  let names := Text.sort (chosenBindings.map (·.1))
  names.flatMap fun name =>
    front.toList ++ name.toList ++ (match s.get? name with
      | some value => '=' :: quote value
      | none => []) ++ ['\n']

def declare (front : String) (chosen : Variable → Bool) (mark : Variable → Variable)
    (arguments : List Octets) : Action Unit := do
  let (found, names) ← optionsOf "p" "" arguments
  if names.isEmpty || !found.isEmpty then say 0 (listing front chosen (← get))
  else
    for word in names do
      let (name, value) := splitValue word
      checkName name
      let key := String.ofList name
      match value with
      | some value => assign key value
      | none => pure ()
      modify fun s => s.setVariable key (mark (s.binding key))
    setStatus 0

def «local» (arguments : List Octets) : Action Unit := do
  if (← get).depth = 0 then fail .notInFunction
  else
    for word in arguments do
      let (name, value) := splitValue word
      if name = ['-'] then hideOptions
      else
        checkName name
        let key := String.ofList name
        hide key
        match value with
        | some value => assign key value
        | none => pure ()
    setStatus 0

def unset (arguments : List Octets) : Action Unit := do
  let (found, names) ← optionsOf "vf" "" arguments
  for name in names do
    let key := String.ofList name
    if found.any (·.1 = 'f') then
      modify fun s => { s with functions := s.functions.filter fun f => f.1 ≠ key }
    else
      checkName name
      if ((← get).binding key).fixed then fail (.fixedUnset key)
      modify fun s => s.dropVariable key
  setStatus 0

def shift (arguments : List Octets) : Action Unit := do
  let n ← match arguments with
    | [] => pure 1
    | s :: _ => number s
  let s ← get
  if s.arguments.length < n then
    match s.dialect with
    | .dash => fail .cannotShift
    | .bash => setStatus 1
  else set { s with arguments := s.arguments.drop n, status := 0 }

/-! ## Options -/

def dashOptions : List (String × Option Char) :=
  [("errexit", some 'e'), ("noglob", some 'f'), ("ignoreeof", some 'I'), ("interactive", some 'i'),
    ("monitor", some 'm'), ("noexec", some 'n'), ("stdin", some 's'), ("xtrace", some 'x'),
    ("verbose", some 'v'), ("vi", some 'V'), ("emacs", some 'E'), ("noclobber", some 'C'),
    ("allexport", some 'a'), ("notify", some 'b'), ("nounset", some 'u'), ("privileged", some 'p'),
    ("nolog", none), ("debug", none)]

def bashOptions : List (String × Option Char) :=
  [("allexport", some 'a'), ("braceexpand", some 'B'), ("emacs", none), ("errexit", some 'e'),
    ("errtrace", some 'E'), ("functrace", some 'T'), ("hashall", some 'h'),
    ("histexpand", some 'H'), ("history", none), ("ignoreeof", none),
    ("interactive-comments", none), ("keyword", some 'k'),
    ("monitor", some 'm'), ("noclobber", some 'C'), ("noexec", some 'n'), ("noglob", some 'f'),
    ("nolog", none), ("notify", some 'b'), ("nounset", some 'u'), ("onecmd", some 't'),
    ("physical", some 'P'), ("pipefail", none), ("posix", none), ("privileged", some 'p'),
    ("verbose", some 'v'), ("vi", none), ("xtrace", some 'x')]

def optionNames : Dialect → List (String × Option Char)
  | .dash => dashOptions
  | .bash => bashOptions

def setLetter (on : Bool) (c : Char) (s : Session) : Session :=
  let others := s.options.filter (· != c)
  { s with options := if on then c :: others else others }

def setNamed (on : Bool) (name : String) (s : Session) : Session :=
  let others := s.namedOptions.filter (· ≠ name)
  { s with namedOptions := if on then name :: others else others }

def optionListing (asCommands : Bool) (s : Session) : Octets :=
  let gap := match s.dialect with
    | .dash => fun (name : String) => String.ofList (List.replicate (16 - name.length) ' ')
    | .bash => fun (name : String) => String.ofList (List.replicate (15 - name.length) ' ') ++ "\t"
  let lines := (optionNames s.dialect).map fun (name, letter) =>
    let on := letter.elim (s.namedOptions.contains name) s.has
    if asCommands then (if on then "set -o " else "set +o ") ++ name
    else name ++ gap name ++ (if on then "on" else "off")
  let isTitled := !asCommands && s.dialect == .dash
  let lines := if isTitled then "Current option settings" :: lines else lines
  lines.flatMap fun line => line.toList ++ ['\n']

/-- Sets the options in front of the words, and gives the words behind them; none means that the
arguments stay as they are. -/
def setOptions : Nat → List Octets → Action (Option (List Octets))
  | 0, _ => return none
  | fuel + 1, words => do
    match words with
    | [] => return none
    | ['-', '-'] :: rest => return some rest
    | ['-'] :: rest => do
      modify fun s => setLetter false 'x' (setLetter false 'v' s)
      return if rest.isEmpty then none else some rest
    | (sign :: letters) :: rest =>
      if (sign == '-' || sign == '+') && !letters.isEmpty then do
        let on := sign == '-'
        let mut rest := rest
        for c in letters do
          if c == 'o' then
            match rest with
            | [] => say 0 (optionListing (!on) (← get))
            | name :: more => do
              let key := String.ofList name
              match (optionNames (← get).dialect).find? (·.1 = key) with
              | some (_, some letter) => modify (setLetter on letter)
              | some (_, none) => modify (setNamed on key)
              | none => fail (.badOptionName name)
              rest := more
          else if c == 'm' && on && (← get).dialect == .dash then
            mention "can't access tty; job control turned off".toList
          else if (optionNames (← get).dialect).any (·.2 = some c) then modify (setLetter on c)
          else fail (.badOption c)
        setOptions fuel rest
      else return some words
    | words => return some words

def set (arguments : List Octets) : Action Unit := do
  setStatus 0
  if arguments.isEmpty then say 0 (listing "" (·.value.isSome) (← get))
  else
    match ← setOptions (arguments.length + 1) arguments with
    | none => pure ()
    | some words => modify fun s => { s with arguments := words }

/-! ## Files and directories -/

def pathOf (l : Location) : Octets := '/' :: Octets.ofText ("/".intercalate l)

def cd (arguments : List Octets) : Action Unit := do
  let (_, words) ← optionsOf "LP" "" arguments
  let s ← get
  let target := match words with
    | [] => (s.get? "HOME").getD []
    | ['-'] :: _ => (s.get? "OLDPWD").getD []
    | path :: _ => path
  let unknown := if words.isEmpty then "HOME" else "OLDPWD"
  if s.dialect == .bash && 1 < words.length then fail .tooMany
  else if target.isEmpty then
    if s.dialect == .bash && words ≠ [[]] then fail (.told (unknown ++ " not set"))
    else setStatus 0
  else
    let here ← look fun v => v.workingDir
    let moved ← call (.files fun v =>
      match v.locate (Octets.toText target) with
      | .ok l =>
        if (v.lookup l).any Entry.isDirectory then (Except.ok l, { v with workingDir := l })
        else (.error .notDirectory, v)
      | .error fault => (.error fault, v))
    match moved with
    | .error fault => fail (.noDirectory target fault)
    | .ok l => do
      assign "OLDPWD" (((← get).get? "PWD").getD (pathOf here))
      share "OLDPWD"
      assign "PWD" (pathOf l)
      share "PWD"
      if words.head? = some ['-'] then say 0 (pathOf l ++ ['\n']) else setStatus 0

def pwd (arguments : List Octets) : Action Unit := do
  let _ ← optionsOf "LP" "" arguments
  say 0 (pathOf (← look fun v => v.workingDir) ++ ['\n'])

def octalText (n width : Nat) : Octets :=
  let digits := Nat.toDigits 8 n
  List.replicate (width - digits.length) '0' ++ digits

def maskText (mask : Nat) : Octets :=
  let permissions := fun (shift : Nat) =>
    let bits := 7 - mask / Nat.pow 8 shift % 8
    (if bits / 4 % 2 = 1 then ['r'] else []) ++ (if bits / 2 % 2 = 1 then ['w'] else []) ++
      (if bits % 2 = 1 then ['x'] else [])
  "u=".toList ++ permissions 2 ++ ",g=".toList ++ permissions 1 ++ ",o=".toList ++ permissions 0

def umask (arguments : List Octets) : Action Unit := do
  let (found, words) ← optionsOf "S" "" arguments
  let s ← get
  match words with
  | [] =>
    say 0 ((if found.isEmpty then octalText s.umask 4 else maskText s.umask) ++ ['\n'])
  | mode :: _ =>
    if mode.all Escape.isOctal then
      let mask := (Arithmetic.readDigits 8 0 mode).1 % 512
      modify fun s => { s with umask := mask }
      setStatus 0
    else if mode.head?.any Char.isDigit then fail (.badNumber mode)
    else fail (.badMode mode)

/-! ## Input -/

/-- Reads the characters of a line. Those behind a backslash are quoted, unless `plain`. The line is
held in reverse. -/
def readLineMarks (plain : Bool) : Nat → (escaped : Bool) → List Mark → Action (List Mark × Bool)
  | 0, _, acc => return (acc.reverse, false)
  | fuel + 1, escaped, acc => do
    match ← call (.read 0 1) with
    | .ok [c] =>
      if c.toNat = 0 then readLineMarks plain fuel escaped acc
      else if escaped then
        if c == '\n' then readLineMarks plain fuel false acc
        else readLineMarks plain fuel false (⟨c, true, false⟩ :: acc)
      else if c == '\\' && !plain then readLineMarks plain fuel true acc
      else if c == '\n' then return (acc.reverse, true)
      else readLineMarks plain fuel false (⟨c, false, true⟩ :: acc)
    | _ => return (acc.reverse, false)

/-- The field in front, what follows its separator, and whether there was one. -/
def splitField (separators : Octets) (ms : List Mark) : List Mark × List Mark :=
  let ms := ms.dropWhile (isSpaceSeparator separators)
  let field := ms.takeWhile (!isSeparator separators ·)
  let rest := (ms.drop field.length).dropWhile (isSpaceSeparator separators)
  match ms.drop field.length, rest with
  | [], _ => (field, [])
  | _, m :: more =>
    if isSeparator separators m then (field, more.dropWhile (isSpaceSeparator separators))
    else (field, rest)
  | _, [] => (field, [])

/-- The rest of a line for the last name: blanks at its end do not count, nor does the separator of
a single field. -/
def lastField (separators : Octets) (ms : List Mark) : List Mark :=
  let ms := ms.dropWhile (isSpaceSeparator separators)
  let (field, rest) := splitField separators ms
  if rest.isEmpty then field
  else (ms.reverse.dropWhile (isSpaceSeparator separators)).reverse

/-- Gives the names the fields of a line; the last one takes all that is left. -/
def assignFields (separators : Octets) : List String → List Mark → Action Unit
  | [], _ => pure ()
  | [name], ms => assign name (Mark.text (lastField separators ms))
  | name :: more, ms => do
    let (field, rest) := splitField separators ms
    assign name (Mark.text field)
    assignFields separators more rest

def read (arguments : List Octets) : Action Unit := do
  let (found, names) ← optionsOf "r" "p" arguments
  match (← get).dialect, names with
  | .dash, [] => fail (.told "arg count")
  | _, names => do
    for name in names do checkName name
    let plain := found.any (·.1 = 'r')
    let (marks, complete) ← readLineMarks plain Act.often false []
    if names.isEmpty then assign "REPLY" (Mark.text marks)
    else assignFields (← get).separators (names.map String.ofList) marks
    setStatus (if complete then 0 else 1)

/-! ## Options of scripts -/

structure OptionFound where
  letter : Char
  argument : Option Octets
  complaint : Option Trouble
  index : Nat
  offset : Nat
  done : Bool

/-- Looks for the next option among words. The index counts from one; an offset of zero means that a
new word begins. -/
def nextOption (known : Octets) (words : List Octets) (index offset : Nat) : OptionFound :=
  let finish := fun (index : Nat) => ⟨'?', none, none, index, 0, true⟩
  let current := if 1 < index && 0 < offset then (words[index - 2]?.getD []).drop offset else []
  let started : Option (Octets × Nat × Nat) :=
    match current with
    | c :: rest => some (c :: rest, index, offset)
    | [] =>
      match words[index - 1]? with
      | some ('-' :: '-' :: []) => none
      | some ('-' :: c :: rest) => some (c :: rest, index + 1, 1)
      | _ => none
  match started with
  | some (c :: rest, index, offset) =>
    let silent := known.head? == some ':'
    let next := if rest.isEmpty then 0 else offset + 1
    if c == ':' || !known.contains c then
      if silent then ⟨'?', some [c], none, index, next, false⟩
      else ⟨'?', none, some (.badOption c), index, next, false⟩
    else if (known.dropWhile (· != c)).drop 1 |>.head?.any (· == ':') then
      match rest, words[index - 1]? with
      | [], none =>
        if silent then ⟨':', some [c], none, index, 0, false⟩
        else ⟨'?', none, some (.missingArgument c), index, 0, false⟩
      | [], some word => ⟨c, some word, none, index + 1, 0, false⟩
      | _, _ => ⟨c, some rest, none, index, 0, false⟩
    else ⟨c, some [], none, index, next, false⟩
  | _ =>
    finish (if words[index - 1]? = some ['-', '-'] then index + 1 else index)

def optionMessage (s : Session) (trouble : Trouble) : Octets :=
  match s.dialect, trouble with
  | .bash, .badOption c => s.name ++ ": illegal option -- ".toList ++ [c]
  | .bash, .missingArgument c => s.name ++ ": option requires an argument -- ".toList ++ [c]
  | _, trouble => trouble.dashMessage

def getopts (arguments : List Octets) : Action Unit := do
  match arguments with
  | known :: name :: words => do
    checkName name
    let s ← get
    let words := if words.isEmpty then s.arguments else words
    let index := (((s.get? "OPTIND").bind Arithmetic.readNumber?).getD 1).toNat
    let found := nextOption known words (if index = 0 then 1 else index) s.optionOffset
    match found.complaint with
    | some trouble => writeError (optionMessage s trouble ++ ['\n'])
    | none => pure ()
    match found.argument with
    | some argument => assign "OPTARG" argument
    | none => if !found.done then modify fun s => s.dropVariable "OPTARG"
    assign "OPTIND" (Octets.ofNat found.index)
    modify fun s => { s with optionOffset := found.offset }
    assign (String.ofList name) [found.letter]
    setStatus (if found.done then 1 else 0)
  | _ => fail (.told "Usage: getopts optstring var [arg]")

/-! ## Signals -/

def signal? (s : Octets) : Option Signal :=
  let name := String.ofList (s.map Char.toUpper)
  if s.all Char.isDigit && !s.isEmpty then
    (String.ofList s).toNat?.filter (· < Signal.bound)
  else if name = "EXIT" then some 0
  else Signal.ofName? name

/-- What stands among the signals for commands that fail. -/
def failureTrap : Signal := 1000

/-- The number of a signal in a dialect; one also takes a longer form of names. -/
def trapSignal? (dialect : Dialect) (s : Octets) : Option Signal :=
  match dialect with
  | .dash => signal? s
  | .bash =>
    if s.map Char.toUpper = "ERR".toList then some failureTrap
    else if "SIG".toList.isPrefixOf (s.map Char.toUpper) then signal? (s.drop 3)
    else signal? s

def signalName (signal : Signal) : String :=
  if signal = 0 then "EXIT" else (Signal.name? signal).getD (Nat.repr signal)

def setTrap (action : Option Octets) (signal : Signal) : Action Unit := do
  modify fun s =>
    let others := s.traps.filter fun t => t.1 ≠ signal
    { s with traps := action.elim others fun action => (signal, action) :: others }
  if signal ≠ 0 && signal ≠ failureTrap then
    call (.handle signal (match action with
      | none => .usual
      | some [] => .ignored
      | some _ => .handled))

def trapName (dialect : Dialect) (signal : Signal) : String :=
  if signal = failureTrap then "ERR"
  else if dialect == .bash && signal ≠ 0 then "SIG" ++ signalName signal
  else signalName signal

def trapListing (s : Session) : Octets :=
  let quoted := match s.dialect with
    | .dash => quote
    | .bash => quoteFully
  (List.range Signal.bound ++ [failureTrap]).flatMap fun signal =>
    match s.traps.find? (·.1 = signal) with
    | some (_, action) =>
      "trap -- ".toList ++ quoted action ++ [' '] ++ (trapName s.dialect signal).toList ++ ['\n']
    | none => []

def setTraps (action : Option Octets) : List Octets → Action Unit
  | [] => setStatus 0
  | name :: rest => do
    let s ← get
    match trapSignal? s.dialect name with
    | none => do
      match s.dialect with
      | .dash => writeError ("trap: ".toList ++ name ++ ": bad trap\n".toList)
      | .bash => complain (.badSignal name)
      setStatus 1
    | some signal => do
      setTrap action signal
      setTraps action rest

def trap (arguments : List Octets) : Action Unit := do
  let (found, words) ← optionsOf (if (← get).dialect == .bash then "pl" else "") "" arguments
  match if found.isEmpty then words else [] with
  | [] => say 0 (trapListing (← get))
  | [name] => setTraps none [name]
  | first :: rest =>
    if first.all Char.isDigit && !first.isEmpty then setTraps none words
    else setTraps (if first = ['-'] then none else some first) rest

def killUsage : String :=
  "Usage: kill [-s sigspec | -signum | -sigspec] [pid | job]... or\nkill -l [exitstatus]"

def jobNamed (s : Octets) : Action Job := do
  let jobs := (← get).jobs
  let missing := fun (which : String) => fail (.told ("No " ++ which ++ " job"))
  match s with
  | ['%'] | ['%', '%'] | ['%', '+'] =>
    match jobs with
    | job :: _ => return job
    | [] => missing "current"
  | ['%', '-'] =>
    match jobs with
    | _ :: job :: _ => return job
    | _ => missing "previous"
  | _ =>
    match (String.ofList (s.drop 1)).toNat?.bind fun n => jobs.find? (·.number = n) with
    | some job => return job
    | none => fail (.noJob s)

def target (s : Octets) : Action Nat := do
  match s with
  | '%' :: _ => return ((← jobNamed s).pids.getLast?).getD 0
  | _ =>
    if (← get).dialect == .bash && !s.all Char.isDigit then fail (.notProcess s) else number s

/-- A job cannot be brought to the front, since jobs are not controlled. -/
def bringToFront (arguments : List Octets) : Action Unit := do
  match (← get).dialect with
  | .bash => fail (.told "no job control")
  | .dash => do
    let _ ← jobNamed (arguments.headD ['%'])
    let name := String.ofList (arguments.headD "(null)".toList)
    fail (.told ("job " ++ name ++ " not created under job control"))

def killSignal (words : List Octets) : Action (Signal × List Octets) := do
  let unknown := fun (name : Octets) => fail (.badSignal name)
  match words with
  | ['-', 's'] :: name :: rest =>
    match trapSignal? (← get).dialect name with
    | some signal => return (signal, rest)
    | none => unknown name
  | ['-', '-'] :: rest => return (Signal.terminate, rest)
  | ('-' :: c :: letters) :: rest =>
    match trapSignal? (← get).dialect (c :: letters) with
    | some signal => return (signal, rest)
    | none =>
      if (← get).dialect == .bash then unknown (c :: letters)
      else if c == 's' then unknown letters
      else fail (.badOption c)
  | words => return (Signal.terminate, words)

def signalListing (words : List Octets) : Action Unit := do
  match words with
  | [] =>
    let names := (List.range Signal.bound).map fun n => signalName n
    say 0 (("0" :: names.drop 1).flatMap fun name => name.toList ++ ['\n'])
  | s :: _ => do
    let dialect := (← get).dialect
    match if dialect == .bash && !s.all Char.isDigit then trapSignal? dialect s else none with
    | some signal => say 0 (Octets.ofNat signal ++ ['\n'])
    | none =>
    let n ← number s
    let signal := if 128 < n then n - 128 else n
    if 0 < signal && signal < Signal.bound then say 0 ((signalName signal).toList ++ ['\n'])
    else
      match (← get).dialect with
      | .dash => fail (.told ("invalid signal number or exit status: " ++ String.ofList s))
      | .bash => fail (.badSignal s)

def kill (arguments : List Octets) : Action Unit := do
  match arguments with
  | ['-', 'l'] :: rest => signalListing rest
  | _ => do
    let (signal, words) ← killSignal arguments
    if words.isEmpty then fail (.told killUsage)
    else
      let mut failed := false
      for word in words do
        let pid ← target word
        if !(← call (.kill pid signal)) then
          complain (.noProcess word)
          failed := true
      setStatus (if failed then 1 else 0)

/-! ## Jobs -/

def statusOf : Ending → Nat
  | .exited code => code
  | .signalled signal => 128 + signal
  | .expired => 128 + Signal.kill

/-- Tells of a process that a signal has ended, unless that is a usual way to end. -/
def tellEnding : Ending → Action Unit
  | .signalled signal =>
    if signal = 2 || signal = Signal.pipe then pure ()
    else writeError (signal.text.toList ++ ['\n'])
  | _ => pure ()

def noteEnding (waited : Bool) (pid : Nat) (ending : Ending) : Action Unit := modify fun s =>
  let isIt := fun (job : Job) => job.pids.getLast? = some pid
  let noted := s.jobs.map fun job =>
    if isIt job then { job with ending := some ending, waited } else job
  { s with jobs := if s.dialect == .bash && waited then noted.filter (!isIt ·) else noted }

/-- Takes note of the signals that have come; the status tells of the last one. -/
def interruption : Action Nat := do
  let signals ← call .arrivals
  modify fun s => { s with arrived := s.arrived ++ signals }
  return 128 + ((← get).arrived.getLast?).getD 0

/-- Waits for a process of a job: its status, unless a signal comes first. -/
def waitFor (pid : Nat) : Action (Option Nat) := do
  match ← call (.wait (some pid) true true) with
  | .ended _ ending => do
    tellEnding ending
    noteEnding true pid ending
    return some (statusOf ending)
  | .interrupted => return none
  | _ => return some 127

def waitForAll : Nat → Action Unit
  | 0 => setStatus 0
  | fuel + 1 => do
    match ← call (.wait none true true) with
    | .ended pid ending => do
      noteEnding true pid ending
      waitForAll fuel
    | .interrupted => setStatus (← interruption)
    | _ => setStatus 0

/-- Waits for jobs one after another; the last one that is known counts. -/
def waitForEach : List Octets → (status : Nat) → Action Unit
  | [], status => setStatus status
  | word :: rest, status => do
    let pid ← target word
    match (← get).jobs.find? fun job => job.pids.getLast? = some pid with
    | none => do
      if (← get).dialect == .bash then
        mention ("pid ".toList ++ word ++ " is not a child of this shell".toList)
        waitForEach rest 127
      else waitForEach rest status
    | some job =>
      match job.ending with
      | some ending => do
        noteEnding true pid ending
        waitForEach rest (statusOf ending)
      | none =>
        match ← waitFor pid with
        | some status => waitForEach rest status
        | none => setStatus (← interruption)

def wait (arguments : List Octets) : Action Unit := do
  let (_, words) ← optionsOf "" "" arguments
  if words.isEmpty then waitForAll Act.often else waitForEach words 127

def jobState (job : Job) : String :=
  match job.ending with
  | none => "Running"
  | some (.exited 0) => "Done"
  | some (.exited code) => "Done(" ++ Nat.repr code ++ ")"
  | some (.signalled signal) => signal.text
  | some .expired => Signal.kill.text

def jobLines : List Job → (position : Nat) → Octets
  | [], _ => []
  | job :: rest, position =>
    let mark := if position = 0 then " + " else if position = 1 then " - " else "   "
    let state := jobState job
    let padding := List.replicate (27 - state.length) ' '
    '[' :: Octets.ofNat job.number ++ [']'] ++ mark.toList ++ state.toList ++ padding ++ ['\n'] ++
      jobLines rest (if job.ending.isSome then position else position + 1)

def jobs (_ : List Octets) : Action Unit := do
  for job in (← get).jobs do
    match job.ending, job.pids.getLast? with
    | none, some pid =>
      match ← call (.wait (some pid) false false) with
      | .ended _ ending => noteEnding false pid ending
      | _ => pure ()
    | _, _ => pure ()
  let found := (← get).jobs
  modify fun s => { s with jobs := s.jobs.filter (·.ending.isNone) }
  say 0 (jobLines found 0)

/-! ## Names of commands -/

def ordinaryCommands : List String :=
  ["true", "false", "echo", "printf", "test", "[", "cd", "chdir", "pwd", "umask", "read", "getopts",
    "kill", "wait", "jobs", "alias", "unalias", "ulimit", "hash", "fg", "bg", "command", "type"]

def bashCommands : List String :=
  ["builtin", "declare", "let", "mapfile", "readarray", "shopt", "source", "typeset"]

def isCommand (dialect : Dialect) (name : String) : Bool :=
  ordinaryCommands.contains name || specialBuiltins.contains name ||
    (dialect == .bash && bashCommands.contains name)

inductive Found where
  | path (path : Octets)
  | refused
  | missing

def isRunnable (v : Volume) (path : Octets) : Bool :=
  (v.entry? (Octets.toText path)).any fun e => e.isFile && e.isExecutable

def search (v : Volume) (directories : List Octets) (name : Octets) : Found :=
  if name.contains '/' then .path name
  else
    let candidates := directories.map fun dir => if dir.isEmpty then name else dir ++ '/' :: name
    match candidates.find? (isRunnable v) with
    | some path => .path path
    | none =>
      if candidates.any fun path => (v.entry? (Octets.toText path)).any Entry.isFile then .refused
      else .missing

def directories (s : Session) : List Octets :=
  ((String.ofList ((s.get? "PATH").getD [])).splitOn ":").map String.toList

def unknownAlias (command : String) (name : Octets) : Action Unit := do
  match (← get).dialect with
  | .dash => writeError (command.toList ++ ": ".toList ++ name ++ " not found\n".toList)
  | .bash => complain (.unknownName name)

def setAlias (arguments : List Octets) : Action Unit := do
  let front := if (← get).dialect == .bash then "alias ".toList else []
  let line := fun (a : String × Octets) => front ++ a.1.toList ++ '=' :: quote a.2 ++ ['\n']
  match arguments with
  | [] => say 0 ((← get).aliases.reverse.flatMap line)
  | words => do
    setStatus 0
    for word in words do
      match splitValue word with
      | (name, some value) =>
        let key := String.ofList name
        modify fun s => { s with aliases := (key, value) :: s.aliases.filter fun a => a.1 ≠ key }
      | (name, none) =>
        match (← get).aliases.find? (·.1 = String.ofList name) with
        | some a => say (← get).status (line a)
        | none => do
          unknownAlias "alias" name
          setStatus 1

def unalias (arguments : List Octets) : Action Unit := do
  let (found, names) ← optionsOf "a" "" arguments
  setStatus 0
  if !found.isEmpty then modify fun s => { s with aliases := [] }
  for name in names do
    let key := String.ofList name
    if (← get).aliases.any (·.1 = key) then
      modify fun s => { s with aliases := s.aliases.filter fun a => a.1 ≠ key }
    else
      unknownAlias "unalias" name
      setStatus 1

def hash (arguments : List Octets) : Action Unit := do
  let (_, names) ← optionsOf "rv" "" arguments
  setStatus 0
  for name in names do
    let s ← get
    let v ← look id
    let key := String.ofList name
    let isKnown := s.functions.any (·.1 = key) || isCommand s.dialect key
    match search v (directories s) name with
    | .path _ => pure ()
    | _ =>
      if !isKnown then
        complain (.unknownName name)
        setStatus 1

def find? (name : String) : Option (List Octets → Action Unit) :=
  match name with
  | ":" | "true" => some fun _ => setStatus 0
  | "false" => some fun _ => setStatus 1
  | "echo" => some echo
  | "printf" => some printf
  | "test" => some test
  | "[" => some bracket
  | "export" => some (declare "export " (·.exported) fun v => { v with exported := true })
  | "readonly" => some (declare "readonly " (·.fixed) fun v => { v with fixed := true })
  | "local" => some «local»
  | "unset" => some unset
  | "shift" => some shift
  | "set" => some set
  | "cd" | "chdir" => some cd
  | "pwd" => some pwd
  | "umask" => some umask
  | "read" => some read
  | "getopts" => some getopts
  | "trap" => some trap
  | "kill" => some kill
  | "wait" => some wait
  | "jobs" => some jobs
  | "alias" => some setAlias
  | "unalias" => some unalias
  | "times" => some fun _ => say 0 "0m0.00s 0m0.00s\n0m0.00s 0m0.00s\n".toList
  | "ulimit" => some fun words =>
    if words.all (·.head? == some '-') then say 0 "unlimited\n".toList else setStatus 0
  | "hash" => some hash
  | "fg" | "bg" => some bringToFront
  | _ => none

end Builtin

end LoadScript.Shell
