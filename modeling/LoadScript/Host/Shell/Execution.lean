import LoadScript.Host.Shell.Declarations
import LoadScript.Host.Shell.Redirection

set_option autoImplicit false

namespace LoadScript.Shell

structure Flags where
  /-- Whether its status is looked at, so that a failure does not end the shell. -/
  tested : Bool
  /-- Whether nothing follows it, so that it may take the place of the shell. -/
  last : Bool

abbrev Runner := Flags → Command → Action Unit

/-- The means to carry out the commands that a command holds, and to start programs. -/
structure Means : Type 1 where
  run : Runner
  launch : Launcher

namespace Means

open Action

def usual : Flags := ⟨false, false⟩

/-! ## Scripts -/

structure Script where
  label : String
  line : Nat
  text : Octets

def lineOf (text : Octets) (number : Nat) : Octets :=
  (text.splitOn '\n')[number]?.getD []

def tellFault (script : Script) (c : Complaint) : Action Unit := do
  let s ← get
  let tellAt := fun (line : Nat) (message : Octets) =>
    writeError (s.place ++ ": ".toList ++ script.label.toList ++ "line ".toList ++
      Octets.ofNat line ++ ": ".toList ++ message ++ ['\n'])
  let source := fun (line : Nat) => lineOf script.text (line - script.line)
  let display := fun (line : Nat) => tellAt line (quotedName (source line))
  let message := c.fault.bashMessage
  match c.fault with
  | .unexpected .finish _ =>
    tellAt (if script.text.getLast? == some '\n' then c.line else c.line + 1) message
  | .unclosed _ => tellAt (c.start.getD c.line) message
  | .badCondition _ t => do
    let line := if t matches .newline then c.line - 1 else c.line
    tellAt line message
    let near := if t matches .newline then ((source line).splitOn ' ').getLastD [] else t.source
    tellAt line ("syntax error near ".toList ++ quotedName near)
    display line
  | .unexpected .newline _ => do
    tellAt (c.line - 1) message
    display (c.line - 1)
  | _ => do
    tellAt c.line message
    display c.line

def tellUnfinished (r : Reader) : Action Unit := do
  if r.dialect == .bash then
    for (line, a) in r.unfinished do
      modify fun s => { s with line }
      mention ("warning: here-document at line ".toList ++ Octets.ofNat a.line ++
        " delimited by end-of-file (wanted ".toList ++ quotedName a.delimiter ++ [')'])

/-- Carries out a line; in one dialect an error in it need not end the script. -/
def runLine (run : Runner) (flags : Flags) (c : Command) : Action Unit := do
  match ← attempt (run flags c) with
  | .ok () => pure ()
  | .error .abandons =>
    if (← get).level = 0 then setStatus 1 else throw .abandons
  | .error jump => throw jump

def runLines (run : Runner) (flags : Flags) (script : Script) : Nat → Reader → (status : Nat) →
    Action Unit
  | 0, _, status => setStatus status
  | fuel + 1, r, status => do
    let s ← get
    let usesAliases := s.dialect == .dash || s.namedOptions.contains "expand_aliases"
    let aliases := if usesAliases then s.aliases else []
    match readLine { r with aliases, fresh := s.freshDocument } with
    | .error complaint => do
      match s.dialect with
      | .dash => do
        modify fun s => { s with line := complaint.line }
        fail (.told complaint.fault.dashMessage)
      | .bash => do
        tellFault script complaint
        setStatus 2
        throw .fails
    | .ok (.finish, _) => setStatus status
    | .ok (.empty, r) => do
      modify fun s => { s with freshDocument := r.fresh }
      runLines run flags script fuel r status
    | .ok (.command c, r) => do
      tellUnfinished r
      modify fun s => { s with
        documents := r.documents ++ s.documents
        freshDocument := r.fresh
        nextLine := r.line }
      runLine run { flags with last := flags.last && r.rest.isEmpty } c
      runLines run flags script fuel { r with documents := [] } (← get).status

def runScript (run : Runner) (flags : Flags) (script : Script) : Action Unit := do
  let s ← get
  let text := script.text.filter (·.toNat ≠ 0)
  let r : Reader :=
    { dialect := s.dialect
      rest := text
      line := script.line
      pushed := none
      announced := []
      documents := []
      fresh := 0
      aliases := []
      replaced := []
      asking := none
      unfinished := [] }
  runLines run flags { script with text } (text.length + 1) r 0
  modify fun t => { t with nextLine := s.nextLine }

def runText (run : Runner) (flags : Flags) (text : Octets) : Action Unit :=
  runScript run flags ⟨"", 1, text⟩

/-! ## Signals and ends -/

/-- Carries out the action for a signal; the status is kept. -/
def runTrap (run : Runner) (line : Nat) (signal : Signal) : Action Unit := do
  let s ← get
  match s.traps.find? (·.1 = signal) with
  | some (_, action) =>
    if !action.isEmpty then
      let status := s.saved.getD s.status
      set { s with saved := some status }
      let result ← attempt (runScript run usual ⟨"", line, action⟩)
      modify fun t => { t with saved := s.saved }
      match result with
      | .ok () => setStatus status
      | .error jump => throw jump
  | none => pure ()

def runTraps (run : Runner) : Action Unit := do
  let s ← get
  if s.traps.any (fun t => t.1 ≠ 0 && !t.2.isEmpty) || !s.arrived.isEmpty then
    let signals ← call .arrivals
    let arrived := s.arrived ++ signals
    if !arrived.isEmpty then
      set { s with arrived := [] }
      for signal in (List.range Signal.bound).filter arrived.contains do runTrap run 1 signal

/-- The end of a shell. Its last action, if there is one, does not change the status unless it ends
the shell itself. -/
def conclude (run : Runner) (s : Session) : Program :=
  match s.traps.find? (·.1 = 0) with
  | none => .finished s.status
  | some (_, action) =>
    let s := { s with
      traps := s.traps.filter fun t => t.1 ≠ 0
      saved := some s.status
      command := none }
    runText run usual action s fun
      | .error .exits, after | .error .fails, after | .error .abandons, after =>
        .finished after.status
      | _, _ => .finished s.status

def program (run : Runner) (s : Session) (act : Action Unit) : Program :=
  act s fun _ after => conclude run after

/-! ## Processes -/

/-- A process of its own forgets jobs and actions for signals. -/
def enter (background : Bool) : Action Unit := do
  let s ← get
  for (signal, action) in s.traps do
    if signal ≠ 0 && signal ≠ Builtin.failureTrap && !action.isEmpty then
      call (.handle signal .usual)
  set { s with
    traps := s.traps.filter (·.2.isEmpty)
    jobs := []
    saved := none
    arrived := []
    level := s.level + 1 }
  if background then
    call (.handle 2 .ignored)
    call (.handle 3 .ignored)

def withoutInput : Action Unit := do
  match ← call (.openFile "/dev/null" .reading) with
  | .ok descriptor =>
    if descriptor ≠ 0 then
      let _ ← call (.copy descriptor 0)
      call (.close descriptor)
  | .error _ => call (.close 0)

def spawn (run : Runner) (background : Bool) (act : Action Unit) : Action Nat := do
  let s ← get
  fork (program run s (do
    enter background
    act))

def await : List Nat → Action Unit
  | [] => pure ()
  | pid :: rest => do
    match ← call (.wait (some pid) true false) with
    | .ended _ ending => do
      if (← get).dialect == .dash then Builtin.tellEnding ending
      let status := Builtin.statusOf ending
      modify fun s => { s with status, statuses := s.statuses ++ [status] }
    | _ => pure ()
    await rest

/-- Waits for the processes of a pipeline. With an option, the last failure gives the status. -/
def awaitAll (pids : List Nat) : Action Unit := do
  modify fun s => { s with statuses := [] }
  await pids
  modify fun s =>
    let failure := s.statuses.reverse.find? (· ≠ 0)
    if s.namedOptions.contains "pipefail" then { s with status := failure.getD 0 } else s

/-- Processes become a job. Its number is the first that is free or was that of a job which is over.
-/
def addJob (pids : List Nat) : Action Unit := modify fun s =>
  let isFree := fun (n : Nat) => s.jobs.all fun j => j.number ≠ n || (j.ending.isSome && j.waited)
  let number := ((List.range s.jobs.length).map (· + 1)).find? isFree |>.getD (s.jobs.length + 1)
  { s with
    jobs := ⟨number, pids, none, false⟩ :: s.jobs.filter fun j => j.number ≠ number
    lastJob := pids.getLast?
    status := 0 }

def outputOf (m : Means) (c : Command) : Action Octets := do
  let (input, output) ← call .pipe
  let pid ← spawn m.run false (do
    if (← get).dialect == .bash then modify (Builtin.setLetter false 'e')
    call (.close input)
    if output ≠ 1 then
      let _ ← call (.copy output 1)
      call (.close output)
    m.run ⟨false, true⟩ c)
  call (.close output)
  let content ← lift (Act.readAll input)
  call (.close input)
  let before ← get
  await [pid]
  modify fun s => { s with
    status := before.status
    statuses := before.statuses
    outputStatus := s.status }
  let text := (content.toOption.getD []).filter (·.toNat ≠ 0)
  return (text.reverse.dropWhile (· == '\n')).reverse

/-- The descriptor of the first channel; those of others follow downwards. -/
def firstChannel : Nat := 63

/-- A path that leads to a command: what is read there is its output, or what is written there its
input. -/
def channelTo (m : Means) (c : Option Command) (writes : Bool) : Action Octets := do
  let (input, output) ← call .pipe
  let (near, far, standard) := if writes then (output, input, 0) else (input, output, 1)
  let _ ← spawn m.run false (do
    call (.close near)
    if far ≠ standard then
      let _ ← call (.copy far standard)
      call (.close far)
    match c with
    | some c => m.run ⟨false, true⟩ c
    | none => pure ())
  call (.close far)
  let descriptor := firstChannel - (← get).channels.length
  let _ ← call (.copy near descriptor)
  call (.close near)
  modify fun s => { s with channels := descriptor :: s.channels }
  return "/dev/fd/".toList ++ Octets.ofNat descriptor

def substitute (m : Means) : Substitute
  | .output none => return []
  | .output (some c) => outputOf m c
  | .channel c writes => channelTo m c writes

def closingChannels (before : List Nat) (act : Action Unit) : Action Unit := do
  let result ← attempt act
  for descriptor in (← get).channels do
    if !before.contains descriptor then call (.close descriptor)
  modify fun s => { s with channels := before }
  match result with
  | .ok () => pure ()
  | .error jump => throw jump

/-! ## Programs -/

/-- Turns to a program. A file that is no program is taken for a script. -/
def turnTo (m : Means) (path name : Octets) (arguments : List Octets) : Action FileFault := do
  let s ← get
  let v ← look id
  let turn := fun (p : Program) => (do
    call .become
    replaceBy p : Action FileFault)
  match m.launch v path name arguments s.environment with
  | .ok p => turn p
  | .error .notProgram =>
    let shell := match s.dialect with
      | .dash => "/bin/sh".toList
      | .bash => "/bin/bash".toList
    match m.launch v shell shell (path :: arguments) s.environment with
    | .ok p => turn p
    | .error fault => return fault
  | .error fault => return fault

def interpreterOf? (v : Volume) (path : Octets) : Option Octets :=
  match v.entry? (Octets.toText path) with
  | some (.file content _) =>
    match Octets.ofByteArray (content.extract 0 255) with
    | '#' :: '!' :: rest =>
      some ((rest.dropWhile isBlank).takeWhile fun c => !isBlank c && c ≠ '\n')
    | _ => none
  | _ => none

def programTrouble (dialect : Dialect) (v : Volume) (name : Octets) (fault : FileFault) : Trouble :=
  let isDirectory := (v.entry? (Octets.toText name)).any Entry.isDirectory
  match dialect, fault, interpreterOf? v name with
  | .bash, .notFound, some interpreter => .badInterpreter name interpreter
  | .bash, .notPermitted, _ => .programFault name (if isDirectory then .isDirectory else fault)
  | _, _, _ => .programFault name fault

def execute (m : Means) (found : Builtin.Found) (name : Octets) (arguments : List Octets) :
    Action Unit := do
  let fault ← match found with
    | .path path => turnTo m path name arguments
    | .refused => pure .notPermitted
    | .missing => pure .notFound
  let s ← get
  let v ← look id
  let trouble := match s.dialect, found with
    | .bash, .missing => if s.command.isSome then .unknownName name else .programMissing name
    | dialect, _ => programTrouble dialect v name fault
  complain trouble
  setStatus (match found with
    | .missing => 127
    | _ => trouble.status s.dialect)
  throw .exits

def runProgram (m : Means) (flags : Flags) (found : Builtin.Found) (name : Octets)
    (arguments : List Octets) : Action Unit := do
  match found with
  | .missing => do
    complain (.programMissing name)
    setStatus 127
  | .refused => do
    complain (.programFault name .notPermitted)
    setStatus (if (← get).dialect == .dash then 127 else 126)
  | .path _ =>
    if flags.last && (← get).traps.all (·.2.isEmpty) then execute m found name arguments
    else await [← spawn m.run false (execute m found name arguments)]

/-! ## Names -/

inductive Meaning where
  | function (body : Command)
  | builtin (special : Bool)
  | program (found : Builtin.Found)

def usualPath : String := "/usr/local/sbin:/usr/local/bin:/usr/sbin:/usr/bin:/sbin:/bin"

def meaning (s : Session) (v : Volume) (functions : Bool) (directories : List Octets)
    (name : Octets) : Meaning :=
  let key := String.ofList name
  if name.contains '/' then .program (.path name)
  else
    match if functions then s.functions.find? (·.1 = key) else none with
    | some (_, body) => .function body
    | none =>
      if Builtin.isCommand s.dialect key then .builtin (specialBuiltins.contains key)
      else .program (Builtin.search v directories name)

def describe (brief : Bool) (name : Octets) : Action Bool := do
  let s ← get
  let v ← look id
  let key := String.ofList name
  let isBash := s.dialect == .bash
  let tell := fun (short long : Octets) => do
    say 0 ((if brief then short else name ++ long) ++ ['\n'])
    return true
  let unknown := do
    if isBash then
      if !brief then complain (.unknownName name)
    else if !brief then say 0 (name ++ ": not found\n".toList)
    return false
  if s.dialect.keywords.contains key then tell name " is a shell keyword".toList
  else
    match s.aliases.find? (·.1 = key) with
    | some (_, value) =>
      let long := if isBash then " is aliased to ".toList ++ quotedName value
        else " is an alias for ".toList ++ value
      tell ("alias ".toList ++ name ++ '=' :: quote value) long
    | none =>
      match meaning s v true (Builtin.directories s) name with
      | .function _ =>
        tell name (if isBash then " is a function" else " is a shell function").toList
      | .builtin special =>
        let isSpecial := special && !isBash
        let kind := if isSpecial then " is a special shell builtin" else " is a shell builtin"
        tell name kind.toList
      | .program (.path path) =>
        if Builtin.isRunnable v path then tell path (" is ".toList ++ path) else unknown
      | _ => unknown

def kindOf (s : Session) (v : Volume) (name : Octets) : Option String :=
  let key := String.ofList name
  if s.dialect.keywords.contains key then some "keyword"
  else if s.aliases.any (·.1 = key) then some "alias"
  else
    match meaning s v true (Builtin.directories s) name with
    | .function _ => some "function"
    | .builtin _ => some "builtin"
    | .program (.path path) => if Builtin.isRunnable v path then some "file" else none
    | _ => none

/-! ## Commands that carry out others -/

def eval (m : Means) (flags : Flags) (arguments : List Octets) : Action Unit := do
  match arguments with
  | [] => setStatus 0
  | words => do
    let s ← get
    let text := [' '].intercalate words
    let flags := { flags with last := false }
    match s.dialect with
    | .dash => runText m.run flags text
    | .bash => do
      modify fun s => { s with command := none }
      runScript m.run flags ⟨"eval: ", s.line, text⟩

def scriptPath (name : Octets) : Action Octets := do
  if name.contains '/' then return name
  else
    let directories := Builtin.directories (← get)
    let found ← look fun v =>
      let candidates := directories.map fun dir => if dir.isEmpty then name else dir ++ '/' :: name
      candidates.find? fun path => v.isFile (Octets.toText path)
    match found, (← get).dialect with
    | some path, _ => return path
    | none, .dash => fail (.unknownName name)
    | none, .bash => return name

/-- Carries out a script in this shell. It can be left before its end. -/
def source (m : Means) (arguments : List Octets) : Action Unit := do
  match arguments with
  | [] =>
    match (← get).dialect with
    | .dash => setStatus 0
    | .bash => do
      let name := (← get).command.getD ""
      mention "filename argument required".toList
      writeError (name.toList ++ ": usage: ".toList ++ name.toList ++
        " filename [arguments]\n".toList)
      setStatus 2
  | name :: words => do
    let path ← scriptPath name
    match ← lift (Act.readFile path), (← get).dialect with
    | .error .isDirectory, .dash => setStatus 0
    | .error fault, _ => fail (.noScript path fault)
    | .ok content, dialect => do
      let s ← get
      let isBash := dialect == .bash
      let arguments := if isBash && !words.isEmpty then words else s.arguments
      set { s with
        command := if isBash then none else some (String.ofList path)
        place := if isBash then path else s.place
        calls := if isBash then "source" :: s.calls else s.calls
        arguments }
      let result ← attempt (runText m.run usual content)
      modify fun t => { t with
        command := s.command
        place := s.place
        calls := s.calls
        line := if isBash then s.line else t.line
        arguments := if isBash && !words.isEmpty then s.arguments else t.arguments }
      match result with
      | .ok () | .error .returns => pure ()
      | .error jump => throw jump

def leave (jump : Nat → Jump) (arguments : List Octets) : Action Unit := do
  let levels ← match arguments with
    | [] => pure 1
    | s :: _ => do
      let n ← number s
      if n = 0 then fail (.badNumber s) else pure n
  setStatus 0
  let levels := Nat.min levels (← get).loops
  if 0 < levels then throw (jump levels)

/-- A number as a status; one dialect takes any number and keeps its last byte. -/
def statusNamed (s : Octets) : Action Nat := do
  match (← get).dialect with
  | .dash => number s
  | .bash =>
    match Testing.number? s with
    | .ok n => return (n % 256).toNat
    | .error _ => do
      complain (.badNumber s)
      return 2

def exit (arguments : List Octets) : Action Unit := do
  match arguments with
  | [] => modify fun s => { s with status := s.saved.getD s.status }
  | s :: rest => do
    let status ← statusNamed s
    if (← get).dialect == .bash && !rest.isEmpty && (Testing.number? s).toOption.isSome then
      complain .tooMany
      setStatus 1
    else setStatus status
  throw .exits

def «return» (arguments : List Octets) : Action Unit := do
  let s ← get
  if s.dialect == .bash && s.calls.isEmpty then fail .cannotReturn
  match arguments with
  | [] => pure ()
  | s :: _ => setStatus (← statusNamed s)
  throw .returns

def exec (m : Means) (arguments : List Octets) : Action Unit := do
  let (_, words) ← optionsOf "" "" arguments
  match words with
  | [] => setStatus 0
  | name :: rest => do
    let s ← get
    let v ← look id
    execute m (Builtin.search v (Builtin.directories s) name) name rest

def type (arguments : List Octets) : Action Unit := do
  let dialect := (← get).dialect
  let (found, names) ← if dialect == .bash then optionsOf "tpPaf" "" arguments
    else pure ([], arguments)
  let mut status := 0
  for name in names do
    let s ← get
    let v ← look id
    if found.any (·.1 = 't') then
      match kindOf s v name with
      | some kind => say 0 (kind.toList ++ ['\n'])
      | none => status := 1
    else if found.any (fun o => o.1 = 'p' || o.1 = 'P') then
      match Builtin.search v (Builtin.directories s) name with
      | .path path => say 0 (path ++ ['\n'])
      | _ => status := 1
    else if !(← describe false name) then status := if dialect == .bash then 1 else 127
  setStatus status

def command (arguments : List Octets) : Action Unit := do
  let (found, words) ← optionsOf "pvV" "" arguments
  match words with
  | [] => setStatus 0
  | name :: rest => do
    let brief := !found.any (·.1 = 'V')
    match (← get).dialect with
    | .dash => setStatus (if ← describe brief name then 0 else 127)
    | .bash => do
      let mut status := 1
      for name in name :: rest do
        if ← describe brief name then status := 0
      setStatus status

def builtin? (m : Means) (flags : Flags) (dialect : Dialect) (name : String) :
    Option (List Octets → Action Unit) :=
  match name with
  | "eval" => some (eval m flags)
  | "." | "source" => some (source m)
  | "exec" => some (exec m)
  | "exit" => some exit
  | "return" => some «return»
  | "break" => some (leave .breaks)
  | "continue" => some (leave .continues)
  | "command" => some command
  | "type" => some type
  | _ =>
    match dialect with
    | .dash => Builtin.find? name
    | .bash => Declaration.find? name <|> Builtin.find? name

/-- Carries out a command of the shell. Its errors end the shell if it is a special one. -/
def runBuiltin (m : Means) (flags : Flags) (special : Bool) (name : Octets)
    (arguments : List Octets) : Action Unit := do
  let key := String.ofList name
  let s ← get
  set { s with command := some key }
  let result ← attempt (((builtin? m flags s.dialect key).getD fun _ => pure ()) arguments)
  modify fun t => { t with command := s.command }
  let carriesOut := ["eval", "source", "."].contains key
  match result with
  | .ok () => pure ()
  | .error .fails => if special && s.dialect == .dash then throw .fails
  | .error .abandons => if carriesOut then throw .abandons
  | .error jump => throw jump

def functionDepth : Nat := 1000

def runFunction (m : Means) (flags : Flags) (name : Octets) (body : Command)
    (arguments : List Octets) : Action Unit := do
  let s ← get
  if s.dialect == .dash && functionDepth ≤ s.depth then fail (.deepCalls functionDepth)
  else
    set { s with
      arguments
      loops := 0
      depth := s.depth + 1
      optionOffset := 0
      calls := String.ofList name :: s.calls }
    let result ← attempt (m.run { flags with last := false } body)
    modify fun t => { t with
      arguments := s.arguments
      loops := s.loops
      depth := s.depth
      optionOffset := s.optionOffset
      calls := s.calls }
    match result with
    | .ok () | .error .returns => pure ()
    | .error jump => throw jump

/-! ## Simple commands -/

def takesAssignments (name : Octets) : Bool :=
  ("alias" :: Declaration.declaring).contains (String.ofList name)

/-- The first field of words, with those that follow it in its word, and the words left. -/
def firstFields (m : Means) : List Word → Action (List Octets × List Word)
  | [] => return ([], [])
  | w :: rest => do
    match ← fieldsOf m.substitute w with
    | [] => firstFields m rest
    | found => return (found, rest)

structure Call where
  fields : List Octets
  /-- Whether functions count. -/
  functions : Bool
  directories : Option (List Octets)
  special : Bool
  arrays : List (Assigned × Word) := []

/-- Drops `command` in front of a command. Some of its options make it a command of its own. -/
def stripCommand (m : Means) : Nat → Call → List Word → Action (Call × List Word)
  | 0, c, words => return (c, words)
  | fuel + 1, c, words => do
    match c.fields with
    | ['c', 'o', 'm', 'm', 'a', 'n', 'd'] :: rest => do
      let (fields, words) ← if rest.isEmpty then firstFields m words else pure (rest, words)
      match fields with
      | [] => return (c, words)
      | ['-', 'p'] :: rest => do
        let c := { c with
          fields := "command".toList :: rest
          functions := false
          directories := some ((usualPath.splitOn ":").map String.toList) }
        stripCommand m fuel c words
      | ['-', '-'] :: rest =>
        let (fields, words) ← if rest.isEmpty then firstFields m words else pure (rest, words)
        return ({ c with fields, functions := false }, words)
      | ('-' :: letter :: letters) :: rest =>
        return ({ c with fields := "command".toList :: ('-' :: letter :: letters) :: rest }, words)
      | fields => return ({ c with fields, functions := false }, words)
    | ['b', 'u', 'i', 'l', 't', 'i', 'n'] :: rest => do
      let s ← get
      let (fields, words) ← if rest.isEmpty then firstFields m words else pure (rest, words)
      let isKnown := fields.head?.any fun name => Builtin.isCommand s.dialect (String.ofList name)
      if s.dialect == .bash && isKnown then return ({ c with fields, functions := false }, words)
      else return ({ c with fields := "builtin".toList :: fields }, words)
    | _ => return (c, words)

def fieldsOfWords (m : Means) (words : List Word) : Action Call := do
  let (fields, rest) ← firstFields m words
  let s ← get
  let special := match fields with
    | [] => true
    | name :: _ =>
      isSpecialBuiltin name && !(s.functions.any (·.1 = String.ofList name))
  let (c, rest) ← stripCommand m (words.length + 8) ⟨fields, true, none, special, []⟩ rest
  let assigns := c.fields.head?.any takesAssignments
  let more ← rest.mapM fun w =>
    match if assigns then Word.assigned? s.dialect w else none with
    | some (a, [.values items]) => return ([a.name.toList], [(a, [.values items])])
    | some (⟨name, none, adds⟩, value) => do
      let sign := if adds then "+=".toList else ['=']
      return ([name.toList ++ sign ++ (← valueText m.substitute value)], [])
    | _ => return (← fieldsOf m.substitute w, [])
  return { c with fields := c.fields ++ more.flatMap (·.1), arrays := more.flatMap (·.2) }

def shownWord (dialect : Dialect) (s : Octets) : Octets :=
  match dialect with
  | .dash => s
  | .bash => quoteIfNeeded s

def shownAssignment (dialect : Dialect) (s : Octets) : Octets :=
  match splitAt? '=' s with
  | some (name, value) =>
    if value.isEmpty then s else name ++ '=' :: shownWord dialect value
  | none => s

/-- What is in front of a command that is shown; the deeper the shell, the longer it is. -/
def traceFront (s : Session) : Octets :=
  let front := (s.get? "PS4").getD "+ ".toList
  List.replicate (if s.dialect == .bash then s.level else 0) (front.headD '+') ++ front

/-- Shows a command before it is carried out, on the error output as it was before. -/
def trace (kept : List Kept) (assigned fields : List Octets) : Action Unit := do
  let s ← get
  if s.has 'x' then
    let descriptor := ((kept.getLast?.filter (·.descriptor = 2)).bind (·.copy)).getD 2
    let display := fun (texts : List Octets) =>
      call (.write descriptor (traceFront s ++ [' '].intercalate texts ++ ['\n']))
    let words := fields.map (shownWord s.dialect)
    let values := assigned.map (shownAssignment s.dialect)
    match s.dialect with
    | .dash => do
      let _ ← display (values ++ words)
    | .bash => do
      for value in values do
        let _ ← display [value]
      if !words.isEmpty then
        let _ ← display words

def keyedItem? (w : Word) : Option (Word × Word) :=
  match w with
  | .text ('[' :: s) false :: rest =>
    match Word.extendedAssignment? (.text ('_' :: '[' :: s) false :: rest) with
    | some (⟨_, some key, false⟩, value) => some (key, value)
    | _ => none
  | _ => none

def addItem (m : Means) (name : String) (e : Elements) (w : Word) : Action Elements := do
  match keyedItem? w with
  | some (key, value) => do
    let text ← text m.substitute key
    let key ← if e.isNamed then pure text else keyOf name text
    return e.insert key (← valueText m.substitute value)
  | none =>
    let values ← fieldsOf m.substitute w
    return values.foldl (fun e value => e.insert (Octets.ofNat e.next) value) e

def addItems (m : Means) (name : String) : Elements → List Word → Action Elements
  | e, [] => return e
  | e, w :: rest => do addItems m name (← addItem m name e w) rest

def fillArray (m : Means) (a : Assigned) (items : List Word) : Action Unit := do
  let s ← get
  let old := s.elements? a.name
  let start := match old with
    | some (.named kept) => .named (if a.adds then kept else [])
    | some (.listed kept) => .listed (if a.adds then kept else [])
    | none => Elements.listed (if a.adds then (s.get? a.name).toList.map (0, ·) else [])
  let e ← addItems m a.name start items
  modify fun s => s.setVariable a.name { s.binding a.name with elements := some e }

def assignWord (m : Means) (a : Assigned) (value : Word) : Action Octets := do
  match value, a.index with
  | [.values items], _ => do
    if ((← get).binding a.name).fixed then fail (.fixed a.name)
    fillArray m a items
    return a.name.toList ++ "=()".toList
  | value, none => do
    let text ← valueText m.substitute value
    match (← get).dialect with
    | .dash => assign a.name text
    | .bash => Declaration.assignValue a.name a.adds text
    return a.name.toList ++ (if a.adds then "+=" else "=").toList ++ text
  | value, some index => do
    let key ← keyOf a.name (← text m.substitute index)
    let text ← valueText m.substitute value
    let s ← get
    let old := if a.adds then (s.element? a.name key).getD [] else []
    assignElement a.name key (old ++ text)
    return a.name.toList ++ '[' :: key ++ "]=".toList ++ text

def assignAll (m : Means) (hidden : Bool) : List Word → Action (List Octets)
  | [] => return []
  | w :: rest => do
    match Word.assigned? (← get).dialect w with
    | none => assignAll m hidden rest
    | some (a, value) => do
      let s ← get
      if hidden && s.dialect == .bash && (s.binding a.name).fixed then
        complain (.fixed a.name)
        assignAll m hidden rest
      else
        if hidden then hide a.name
        let shown ← assignWord m a value
        if hidden then share a.name
        return shown :: (← assignAll m hidden rest)

def commandTime : Nat := 8

def dispatch (m : Means) (flags : Flags) (c : Call) : Action Unit := do
  match c.fields with
  | [] => modify fun s => { s with status := s.outputStatus }
  | name :: arguments => do
    let s ← get
    let v ← look id
    let directories := c.directories.getD (Builtin.directories s)
    match meaning s v c.functions directories name with
    | .function body => runFunction m flags name body arguments
    | .builtin _ => do
      runBuiltin m flags c.special name arguments
      for (a, value) in c.arrays do
        match value with
        | [.values items] => fillArray m a items
        | _ => pure ()
    | .program found => runProgram m flags found name arguments

/-- Whether a command works on the variables of the function around it. -/
def keepsFrame (fields : List Octets) : Bool :=
  fields.head?.any fun name =>
    (["source", "read", "mapfile", "readarray", "unset", "let"] ++ Declaration.declaring ++
      specialBuiltins).contains (String.ofList name)

def runSimple (m : Means) (flags : Flags) (line : Nat) (assignments words : List Word)
    (redirects : List Redirect) : Action Unit := do
  modify fun s => { s with line, outputStatus := 0 }
  call (.sleep commandTime)
  let before := (← get).channels
  let c ← fieldsOfWords m words
  let dialect := (← get).dialect
  let isExec := c.fields.head? = some "exec".toList && c.functions
  let isFramed := match dialect with
    | .dash => !c.special
    | .bash => !c.fields.isEmpty && (!assignments.isEmpty || !keepsFrame c.fields)
  let failure := if dialect == .dash then 2 else 1
  let carryOut := do
    let redirections ← Redirection.prepareAll m.substitute redirects
    let (kept, isDone) ← Redirection.applyAll true redirections []
    let result ← attempt (do
      if isDone then
        let assigned ← assignAll m isFramed assignments
        trace kept assigned c.fields
        dispatch m flags c
      else
        setStatus failure
        if dialect == .dash && c.special && !c.fields.isEmpty then throw Jump.fails)
    if isExec && isDone then Redirection.forget kept else Redirection.undo kept
    match result with
    | .ok () => pure ()
    | .error jump => throw jump
  closingChannels before (if isFramed then withFrame carryOut else carryOut)

/-! ## Compound commands -/

def startStages (m : Means) (flags : Flags) (background : Bool) : List Command →
    (input : Option Nat) → List Nat → Action (List Nat)
  | [], _, pids => return pids.reverse
  | c :: rest, input, pids => do
    let pipe ← if rest.isEmpty then pure none else some <$> call .pipe
    let pid ← spawn m.run background (do
      if background && pids.isEmpty then withoutInput
      match pipe with
      | some (reading, _) => call (.close reading)
      | none => pure ()
      match input with
      | some descriptor =>
        if descriptor ≠ 0 then
          let _ ← call (.copy descriptor 0)
          call (.close descriptor)
      | none => pure ()
      match pipe with
      | some (_, writing) =>
        if writing ≠ 1 then
          let _ ← call (.copy writing 1)
          call (.close writing)
      | none => pure ()
      m.run { flags with last := true } c)
    match input with
    | some descriptor => call (.close descriptor)
    | none => pure ()
    match pipe with
    | some (_, writing) => call (.close writing)
    | none => pure ()
    startStages m flags background rest (pipe.map (·.1)) (pid :: pids)

def runBackground (m : Means) (flags : Flags) (c : Command) : Action Unit := do
  match c with
  | .pipeline stages => addJob (← startStages m flags true stages none [])
  | c => do
    let pid ← spawn m.run true (do
      withoutInput
      m.run ⟨false, true⟩ c)
    addJob [pid]

def redirectForGood (m : Means) (redirects : List Redirect) : Action Unit := do
  let redirections ← Redirection.prepareAll m.substitute redirects
  let (_, isDone) ← Redirection.applyAll false redirections []
  if !isDone then
    let dialect := (← get).dialect
    setStatus (if dialect == .dash then 2 else 1)
    throw .fails

def runSubshell (m : Means) (flags : Flags) (c : Command) (redirects : List Redirect) :
    Action Unit := do
  let act := do
    redirectForGood m redirects
    m.run { flags with last := true } c
  await [← spawn m.run false act]

def runRedirected (m : Means) (flags : Flags) (c : Command) (redirects : List Redirect) :
    Action Unit := do
  let before := (← get).channels
  let redirections ← Redirection.prepareAll m.substitute redirects
  let (kept, isDone) ← Redirection.applyAll true redirections []
  let failure := if (← get).dialect == .dash then 2 else 1
  let result ← attempt (closingChannels before
    (if isDone then m.run { flags with last := false } c else setStatus failure))
  Redirection.undo kept
  match result with
  | .ok () => pure ()
  | .error jump => throw jump

/-- Carries out a round of a loop: whether the loop goes on. -/
def round (act : Action Bool) : Action Bool := do
  match ← attempt act with
  | .ok goesOn => return goesOn
  | .error (.breaks levels) => if levels ≤ 1 then return false else throw (.breaks (levels - 1))
  | .error (.continues levels) =>
    if levels ≤ 1 then return true else throw (.continues (levels - 1))
  | .error jump => throw jump

def inLoop (act : Action Unit) : Action Unit := do
  let loops := (← get).loops
  modify fun s => { s with loops := loops + 1 }
  let result ← attempt act
  modify fun s => { s with loops }
  match result with
  | .ok () => pure ()
  | .error jump => throw jump

/-- Rounds of a loop, as long as its test says; the status is that of the last round. -/
def rounds (m : Means) (flags : Flags) (untilTrue : Bool) (test body : Command) :
    Nat → (status : Nat) → Action Unit
  | 0, status => setStatus status
  | fuel + 1, status => do
    let result ← attempt (m.run ⟨true, false⟩ test)
    match result with
    | .error (.breaks 1) => setStatus status
    | .error (.continues 1) => rounds m flags untilTrue test body fuel status
    | .error (.breaks levels) => throw (.breaks (levels - 1))
    | .error (.continues levels) => throw (.continues (levels - 1))
    | .error jump => throw jump
    | .ok () =>
      if ((← get).status == 0) == untilTrue then setStatus status
      else if ← round (m.run flags body *> pure true) then
        rounds m flags untilTrue test body fuel (← get).status

def eachRound (m : Means) (flags : Flags) (name : String) (body : Command) :
    List Octets → Action Unit
  | [] => pure ()
  | value :: rest => do
    assign name value
    if ← round (m.run flags body *> pure true) then eachRound m flags name body rest

def isCovered (m : Means) (subject : Octets) : List Word → Action Bool
  | [] => return false
  | w :: rest => do
    if Pattern.covers (Pattern.read (← marks m.substitute w)) subject then return true
    else isCovered m subject rest

/-- The first arm with a pattern that covers the subject, and those that it goes on with. With
`entered`, the pattern of the next arm does not count. -/
def chooseArm (m : Means) (flags : Flags) (subject : Octets) : (entered : Bool) →
    List (List Word × Option Command × ArmEnd) → Action Unit
  | _, [] => pure ()
  | entered, (patterns, body, ending) :: rest => do
    let isChosen ← if entered then pure true else isCovered m subject patterns
    if isChosen then
      match body with
      | some c => m.run flags c
      | none => setStatus 0
      match ending with
      | .finish => pure ()
      | .intoNext => chooseArm m flags subject true rest
      | .lookOn => chooseArm m flags subject false rest
    else chooseArm m flags subject false rest

/-- Carries out the action for failures, and ends the shell after one if it is to end then. -/
def checkFailure (run : Runner) (flags : Flags) : Action Unit := do
  let s ← get
  if !flags.tested && s.status ≠ 0 then
    if s.depth = 0 then runTrap run s.line Builtin.failureTrap
    if s.has 'e' then throw .exits

def calculate (m : Means) (w : Word) : Action Int := do
  let pieces ← expand m.substitute w
  let s ← get
  let text := Mark.text (marksOf s.separators pieces)
  if s.has 'x' then writeError (traceFront s ++ "(( ".toList ++ text ++ " ))\n".toList)
  underName "((" (sum text)

def tolerantly (act : Action Unit) : Action Unit := do
  match ← attempt act with
  | .ok () => pure ()
  | .error .abandons => setStatus 1
  | .error jump => throw jump

def countingRounds (m : Means) (flags : Flags) (test step : Word) (body : Command) :
    Nat → Action Unit
  | 0 => pure ()
  | fuel + 1 => do
    let n ← if test.isEmpty then pure 1 else calculate m test
    if n ≠ 0 then
      if ← round (m.run flags body *> pure true) then
        let _ ← if step.isEmpty then pure 0 else calculate m step
        countingRounds m flags test step body fuel

def carryOut (m : Means) (flags : Flags) : Command → Action Unit
  | .simple line assignments words redirects => do
    runSimple m flags line assignments words redirects
    modify fun s => { s with statuses := [s.status] }
    runTraps m.run
    checkFailure m.run flags
  | .pipeline stages => do
    awaitAll (← startStages m flags false stages none [])
    runTraps m.run
    checkFailure m.run flags
  | .negated c => do
    m.run ⟨true, false⟩ c
    modify fun s => { s with status := if s.status = 0 then 1 else 0 }
  | .both first second => do
    m.run ⟨true, false⟩ first
    if (← get).status = 0 then m.run flags second
  | .either first second => do
    m.run ⟨true, false⟩ first
    if (← get).status ≠ 0 then m.run flags second
  | .sequence first second => do
    m.run { flags with last := false } first
    m.run flags second
  | .background c => do
    runBackground m flags c
  | .subshell line c redirects => do
    modify fun s => { s with line }
    runSubshell m flags c redirects
    runTraps m.run
    checkFailure m.run flags
  | .redirected line c redirects => do
    modify fun s => { s with line }
    runRedirected m flags c redirects
  | .conditional test yes no => do
    m.run ⟨true, false⟩ test
    if (← get).status = 0 then m.run flags yes
    else
      match no with
      | some c => m.run flags c
      | none => setStatus 0
  | .loop untilTrue test body =>
    inLoop (rounds m { flags with last := false } untilTrue test body Act.often 0)
  | .each line name words body => do
    modify fun s => { s with line }
    let values ← match words with
      | none => pure (← get).arguments
      | some words => do
        let found ← words.mapM (fieldsOf m.substitute)
        pure found.flatten
    setStatus 0
    if isName name.toList then inLoop (eachRound m { flags with last := false } name body values)
    else
      complain (.badName name.toList)
      setStatus 1
  | .choice line subject arms => do
    modify fun s => { s with line }
    let text ← text m.substitute subject
    setStatus 0
    chooseArm m flags text false arms
  | .condition line c => do
    modify fun s => { s with line }
    tolerantly do setStatus (if ← holds m.substitute c then 0 else 1)
    checkFailure m.run flags
  | .calculation line w => do
    modify fun s => { s with line }
    tolerantly do setStatus (if (← calculate m w) = 0 then 1 else 0)
    checkFailure m.run flags
  | .counting line start test step body => do
    modify fun s => { s with line }
    let _ ← if start.isEmpty then pure 0 else calculate m start
    setStatus 0
    inLoop (countingRounds m { flags with last := false } test step body Act.often)
  | .define name body => modify fun s =>
    { s with
      functions := (name, body) :: s.functions.filter fun f => f.1 ≠ name
      status := 0 }

/-- Carries out a command, unless commands are only read. -/
def step (m : Means) (flags : Flags) (c : Command) : Action Unit := do
  if (← get).has 'n' then pure ()
  else
    runTraps m.run
    carryOut m flags c

end Means

end LoadScript.Shell
