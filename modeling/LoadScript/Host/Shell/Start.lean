import LoadScript.Host.Shell.Execution

set_option autoImplicit false

namespace LoadScript.Shell

inductive Origin where
  | word (text : Octets)
  | file (path : Octets)
  | input

structure Setup where
  letters : List (Bool × Char)
  names : List (Bool × Octets)
  origin : Origin
  name : Option Octets
  arguments : List Octets

namespace Setup

structure Front where
  letters : List (Bool × Char)
  names : List (Bool × Octets)
  rest : List Octets

def readLetters (on : Bool) : List Char → List Octets → Front
  | [], rest => ⟨[], [], rest⟩
  | 'o' :: letters, name :: rest =>
    let front := readLetters on letters rest
    { front with names := (on, name) :: front.names }
  | c :: letters, rest =>
    let front := readLetters on letters rest
    { front with letters := (on, c) :: front.letters }

def readFront : Nat → List Octets → Front
  | 0, words => ⟨[], [], words⟩
  | fuel + 1, words =>
    match words with
    | ['-'] :: rest | ['-', '-'] :: rest => ⟨[], [], rest⟩
    | (sign :: c :: letters) :: rest =>
      if sign == '-' || sign == '+' then
        let front := readLetters (sign == '-') (c :: letters) rest
        let more := readFront fuel front.rest
        ⟨front.letters ++ more.letters, front.names ++ more.names, more.rest⟩
      else ⟨[], [], words⟩
    | words => ⟨[], [], words⟩

def read (dialect : Dialect) (arguments : List Octets) : Except Trouble Setup :=
  let front := readFront (arguments.length + 1) arguments
  let known := 's' :: (Builtin.optionNames dialect).filterMap (·.2)
  let letters := front.letters.filter fun l => l.2 ≠ 'c' && l.2 ≠ 'l'
  match letters.find? fun l => !known.contains l.2 with
  | some (_, c) => .error (.badOption c)
  | none =>
    let setup := fun (origin : Origin) (name : Option Octets) (rest : List Octets) =>
      .ok ⟨letters, front.names, origin, name, rest⟩
    if front.letters.any (·.2 = 'c') then
      match front.rest with
      | [] => .error .missingCommands
      | [text] => setup (.word text) none []
      | text :: name :: rest => setup (.word text) (some name) rest
    else if letters.any (·.2 = 's') then setup .input none front.rest
    else
      match front.rest with
      | [] => .ok ⟨letters ++ [(true, 's')], front.names, .input, none, []⟩
      | path :: rest => setup (.file path) (some path) rest

end Setup

def bashValues : List (String × String) :=
  [("BASH", "/bin/bash"), ("BASH_VERSION", "5.2.15(1)-release"), ("EUID", "0"), ("UID", "0"),
    ("HOSTTYPE", "x86_64"), ("MACHTYPE", "x86_64-pc-linux-gnu"), ("OPTERR", "1"),
    ("OSTYPE", "linux-gnu")]

def newSession (dialect : Dialect) (i : Invocation) (pid parent : Nat) (here : Location) :
    Session :=
  let given := i.bindings.filter fun b => isName b.1.toList
  let own := [("IFS", " \t\n"), ("OPTIND", "1"), ("PS1", "# "), ("PS2", "> "), ("PS4", "+ ")]
  let own := match dialect with
    | .dash => own
    | .bash => own.filter (fun b => b.1 ≠ "PS1" && b.1 ≠ "PS2") ++ bashValues
  let level := ((given.find? (·.1 = "SHLVL")).bind fun b =>
    (String.ofList b.2).toNat?).getD 0 + 1
  let more := match dialect with
    | .dash => []
    | .bash =>
      let version := ["5", "2", "15", "1", "release", "x86_64-pc-linux-gnu"].map String.toList
      let shellLevel : Variable :=
        { value := some (Octets.ofNat level), exported := true, fixed := false }
      [("SHLVL", shellLevel),
        ("BASH_VERSINFO",
          { value := none, exported := false, fixed := true, elements := some (.ofList version) })]
  let usual := if given.any (·.1 = "PATH") then [] else [("PATH", Means.usualPath)]
  let names := own.map (·.1) ++ more.map (·.1) ++ ["PPID", "PWD"]
  let bind := fun (exported : Bool) (name : String) (value : Octets) =>
    (name, ({ value := some value, exported, fixed := false } : Variable))
  { dialect
    name := i.name
    arguments := []
    bindings :=
      (given.filter fun b => !names.contains b.1).map (fun b => bind true b.1 b.2) ++
        (own ++ usual).map (fun b => bind false b.1 b.2.toList) ++
        more ++ [bind false "PPID" (Octets.ofNat parent), bind true "PWD" (Builtin.pathOf here)]
    functions := []
    aliases := []
    documents := []
    freshDocument := 0
    traps := []
    status := 0
    saved := none
    arrived := []
    outputStatus := 0
    options := if dialect == .bash then ['h', 'B'] else []
    namedOptions := []
    pid
    jobs := []
    lastJob := none
    hidden := []
    loops := 0
    depth := 0
    line := 0
    nextLine := 1
    command := none
    optionOffset := 0
    umask := 18
    place := i.name
    level := 0
    statuses := [0]
    calls := []
    channels := [] }

def applySetup (setup : Setup) : Action Unit := do
  for (on, letter) in setup.letters do modify (Builtin.setLetter on letter)
  for (on, name) in setup.names do
    let _ ← Builtin.setOptions 2 [if on then "-o".toList else "+o".toList, name]
  modify fun s => { s with
    name := setup.name.getD s.name
    place := setup.name.getD s.name
    arguments := setup.arguments }

def session (run : Runner) (setup : Setup) : Action Unit := do
  match setup.origin with
  | .word text => do
    applySetup setup
    Means.runScript run ⟨false, true⟩ ⟨"-c: ", 1, text⟩
  | .input => do
    applySetup setup
    let content ← Action.lift (Act.readAll 0)
    Means.runText run Means.usual (content.toOption.getD [])
  | .file path => do
    match ← Action.lift (Act.readFile path) with
    | .ok content => do
      applySetup setup
      Means.runText run Means.usual content
    | .error .isDirectory => pure ()
    | .error fault =>
      Action.fail (.noScript path fault)

def shellProgram (run : Runner) (dialect : Dialect) (i : Invocation) : Program :=
  .asks .identity fun (pid, parent) =>
    .asks (.files fun v => (v.workingDir, v)) fun here =>
      let s := newSession dialect i pid parent here
      Means.program run s (match Setup.read dialect i.arguments with
        | .ok setup => session run setup
        | .error trouble => Action.fail trouble)

end LoadScript.Shell
