import LoadScript.Host.Shell.Printing
import LoadScript.Host.Shell.Testing
import LoadScript.Host.Utility.Files

set_option autoImplicit false

namespace LoadScript.Utility

/-! ## Printing and testing -/

def echo : Utility := fun i => do
  i.write (Shell.Printing.echoWithOptions i.arguments) 1
  return 0

def argumentMessage : Shell.Printing.ArgumentFault → String
  | .notNumeric => "expected a numeric value"
  | .incomplete => "value not completely converted"
  | .outOfRange => "Numerical result out of range"

def printf : Utility := fun i => do
  match i.arguments.dropWhile (· = ['-', '-']) with
  | [] => i.misused "missing operand".toList 1
  | format :: arguments => do
    let printed := Shell.Printing.printf ⟨true, some showName⟩ format arguments
    for (argument, fault) in printed.complaints do
      i.complain (quoteName argument ++ ": ".toList ++ (argumentMessage fault).toList)
    i.write printed.text 1
    match printed.invalid with
    | some conversion =>
      i.abandon (conversion ++ ": invalid conversion specification".toList) 1
    | none => return if printed.failed then 1 else 0

def testMessage : Shell.Testing.Fault → Octets
  | .notNumber s => "invalid integer ".toList ++ quoteName s
  | .closingExpected => "')' expected".toList
  | .argumentExpected operator => "missing argument after ".toList ++ quoteName operator
  | .leftOver s => "extra argument ".toList ++ quoteName s
  | .notUnary s => quoteName s ++ ": unary operator expected".toList
  | .notBinary s => quoteName s ++ ": binary operator expected".toList

/-- Two words of which the first is not even like an operator ask for another word. -/
def testFault (arguments : List Octets) : Shell.Testing.Fault → Shell.Testing.Fault
  | .notUnary s =>
    if s.head? == some '-' && s.length = 2 then .notUnary s
    else .argumentExpected (arguments.getLastD [])
  | .argumentExpected _ => .argumentExpected (arguments.getLastD [])
  | fault => fault

def testStatus (i : Invocation) (arguments : List Octets) : Act Nat := do
  match ← Act.look fun v => Shell.Testing.holdsInBash ⟨v, fun _ => false⟩ arguments with
  | .ok true => return 0
  | .ok false => return 1
  | .error fault => i.abandon (testMessage (testFault arguments fault)) 2

def test : Utility := fun i => testStatus i i.arguments

def bracket : Utility := fun i =>
  if i.arguments.getLast? = some [']'] then testStatus i i.arguments.dropLast
  else i.abandon "missing ']'".toList 2

/-! ## Time -/

def decimalNumber? (s : Octets) : Option (Nat × Int × Octets) :=
  let whole := s.takeWhile Char.isDigit
  let rest := s.drop whole.length
  let (fraction, rest) := match rest with
    | '.' :: more =>
      let fraction := more.takeWhile Char.isDigit
      (fraction, more.drop fraction.length)
    | rest => ([], rest)
  match decimal? (whole ++ fraction) with
  | none => none
  | some digits =>
    let shift := -Int.ofNat fraction.length
    match rest with
    | mark :: more =>
      let (sign, text) := match more with
        | '-' :: text => ((-1 : Int), text)
        | '+' :: text => (1, text)
        | text => (1, text)
      let exponent := text.takeWhile Char.isDigit
      match if mark == 'e' || mark == 'E' then decimal? exponent else none with
      | some n =>
        some (digits, shift + sign * Int.ofNat (Nat.min n 1000), text.drop exponent.length)
      | none => some (digits, shift, rest)
    | [] => some (digits, shift, [])

def forever : Nat := 1000000000000000

def interval? (s : Octets) : Option Nat :=
  let unit? := fun (rest : Octets) => match rest with
    | [] | ['s'] => some 1000000
    | ['m'] => some 60000000
    | ['h'] => some 3600000000
    | ['d'] => some 86400000000
    | _ => none
  let lower := s.map Char.toLower
  if "infinity".toList.isPrefixOf lower then (unit? (s.drop 8)).map fun _ => forever
  else if "inf".toList.isPrefixOf lower then (unit? (s.drop 3)).map fun _ => forever
  else
    (decimalNumber? s).bind fun (digits, exponent, rest) =>
      (unit? rest).map fun unit =>
        let num := digits * unit * Nat.pow 10 exponent.toNat
        Nat.min forever ((num + Nat.pow 10 (-exponent).toNat - 1) / Nat.pow 10 (-exponent).toNat)

def sleep : Utility := fun i => do
  let s ← i.select ⟨"", "", "", [], true⟩ 1
  if s.operands.isEmpty then i.misused "missing operand".toList 1
  else
    for operand in s.operands do
      if (interval? operand).isNone then
        i.complain ("invalid time interval ".toList ++ quoteName operand)
    if s.operands.any fun operand => (interval? operand).isNone then
      i.pointToHelp
      return 1
    else
      let total := s.operands.foldl (fun n operand => n + (interval? operand).getD 0) 0
      Act.call (.sleep total)
      return 0

def date : Utility := fun i => do
  let s ← i.select ⟨"Ru", "dIrs", "",
    [("date", 'd'), ("utc", 'u'), ("universal", 'u'), ("rfc-3339", 'r'), ("iso-8601", 'I')], true⟩ 1
  let now ← Act.call .time
  let format := match s.operands with
    | ('+' :: format) :: _ => format
    | _ => "%a %b %e %H:%M:%S %Z %Y".toList
  match s.value? 'd' with
  | some ('@' :: digits) =>
    match decimal? digits with
    | some seconds => do
      i.writeLine (formatDate seconds 0 format)
      return 0
    | none => i.abandon ("invalid date ".toList ++ quoteName ('@' :: digits)) 1
  | some text =>
    if text = "now".toList then
      i.writeLine (formatDate (startOfTime + now / 1000000) (now % 1000000) format)
      return 0
    else i.abandon ("invalid date ".toList ++ quoteName text) 1
  | none => do
    i.writeLine (formatDate (startOfTime + now / 1000000) (now % 1000000) format)
    return 0

/-! ## The machine -/

def whoami : Utility := fun i => do
  i.writeLine "root".toList
  return 0

def id : Utility := fun i => do
  let s ← i.select ⟨"agGnruz", "", "",
    [("user", 'u'), ("group", 'g'), ("groups", 'G'), ("name", 'n')], true⟩ 1
  match s.operands with
  | user :: _ =>
    if user ≠ "root".toList then i.abandon (quoteName user ++ ": no such user".toList) 1
    else pure ()
  | [] => pure ()
  if s.has 'u' || s.has 'g' || s.has 'G' then
    i.writeLine (if s.has 'n' then "root".toList else ['0'])
  else i.writeLine "uid=0(root) gid=0(root) groups=0(root)".toList
  return 0

def uname : Utility := fun i => do
  let s ← i.select ⟨"amnoprsiv", "", "",
    [("all", 'a'), ("kernel-name", 's'), ("machine", 'm'), ("nodename", 'n')], true⟩ 1
  let parts := [('s', "Linux"), ('n', "localhost"), ('r', "6.0.0"), ('v', "#1"), ('m', "x86_64"),
    ('o', "GNU/Linux")]
  let chosen := if s.options.isEmpty then [("Linux" : String)]
    else (parts.filter fun p => s.has 'a' || s.has p.1).map (·.2)
  i.writeLine ((" ".intercalate chosen).toList)
  return 0

def saying (text : String) : Utility := fun i => do
  i.writeLine text.toList
  return 0

def tty : Utility := fun i => do
  i.writeLine "not a tty".toList
  return 1

def printenv : Utility := fun i => do
  match i.arguments with
  | [] => do
    i.write (i.bindings.flatMap fun (name, value) => name.toList ++ '=' :: value ++ ['\n']) 1
    return 0
  | names =>
    forOperands names fun name => do
      match i.bindings.find? fun b => b.1.toList = name with
      | some (_, value) => do
        i.writeLine value
        return true
      | none => return false

/-! ## Other programs -/

def searchPath (bindings : Bindings) : List Octets :=
  let path := ((bindings.find? (·.1 = "PATH")).map (·.2)).getD "/bin:/usr/bin".toList
  ((String.ofList path).splitOn ":").map String.toList

/-- Makes a program of a name, by looking for it in the directories for programs. -/
def programNamed (i : Invocation) (v : Volume) (bindings : Bindings) (name : Octets)
    (arguments : List Octets) : Except FileFault Program :=
  let launch := fun (path : Octets) =>
    match i.launch v path name arguments bindings with
    | .error .notProgram =>
      i.launch v "/bin/sh".toList "/bin/sh".toList (path :: arguments) bindings
    | result => result
  if name.contains '/' then launch name
  else
    let paths := (searchPath bindings).map fun dir => if dir.isEmpty then name else pathIn dir name
    let results := paths.map launch
    match results.find? fun r => r matches .ok _ with
    | some result => result
    | none =>
      if results.any fun r => r matches .error .notPermitted then .error .notPermitted
      else .error .notFound

def turnTo (i : Invocation) (bindings : Bindings) (name : Octets) (arguments : List Octets) :
    Act FileFault := do
  let v ← Act.look fun v => v
  match programNamed i v bindings name arguments with
  | .ok p => do
    Act.call .become
    Act.replaceBy p
  | .error fault => return fault

def startStatus (fault : FileFault) : Nat :=
  match fault with
  | .notFound => 127
  | _ => 126

/-- Reads a text as words, with quotes and backslashes. The word that is open is held in reverse. -/
def splitWords (bindings : Bindings) : Nat → Octets → (quote : Option Char) → Option Octets →
    List Octets
  | 0, _, _, word => (word.map List.reverse).toList
  | _, [], _, word => (word.map List.reverse).toList
  | fuel + 1, c :: rest, quote, word =>
    let add := fun (chars : Octets) (rest : Octets) =>
      splitWords bindings fuel rest quote (some (chars.reverse ++ word.getD []))
    match quote, c with
    | none, '\'' => splitWords bindings fuel rest (some '\'') (some (word.getD []))
    | none, '"' => splitWords bindings fuel rest (some '"') (some (word.getD []))
    | some '\'', '\'' => splitWords bindings fuel rest none word
    | some '"', '"' => splitWords bindings fuel rest none word
    | some '\'', c => add [c] rest
    | _, '\\' =>
      match rest with
      | '_' :: more =>
        if quote.isSome then add [' '] more
        else (word.map List.reverse).toList ++ splitWords bindings fuel more none none
      | 'n' :: more => add ['\n'] more
      | 't' :: more => add ['\t'] more
      | d :: more => add [d] more
      | [] => add ['\\'] []
    | _, '$' =>
      match rest with
      | '{' :: more =>
        let name := more.takeWhile (· != '}')
        let value := ((bindings.find? fun b => b.1.toList = name).map (·.2)).getD []
        add value (more.drop (name.length + 1))
      | _ => add ['$'] rest
    | none, c =>
      if c == ' ' || c == '\t' || c == '\n' then
        (word.map List.reverse).toList ++ splitWords bindings fuel rest none none
      else add [c] rest
    | some _, c => add [c] rest

def withSplitWords (i : Invocation) : List Octets :=
  match i.arguments with
  | ('-' :: 'S' :: text) :: rest =>
    match text, rest with
    | [], text :: rest => splitWords i.bindings (text.length + 1) text none none ++ rest
    | text, rest => splitWords i.bindings (text.length + 1) text none none ++ rest
  | words => words

def env : Utility := fun i => do
  let s ← { i with arguments := withSplitWords i }.select ⟨"i0v", "uCS", "",
    [("ignore-environment", 'i'), ("unset", 'u'), ("null", '0'), ("chdir", 'C'),
      ("split-string", 'S')], false⟩ 125
  let (clear, operands) := match s.operands with
    | ['-'] :: rest => (true, rest)
    | operands => (s.has 'i', operands)
  let base := if clear then [] else i.bindings.filter fun b => !(s.values 'u').contains b.1.toList
  let isAssignment := fun (word : Octets) => word.contains '=' && word.head? ≠ some '='
  let assignments := operands.takeWhile isAssignment
  let bindings := assignments.foldl (fun (bindings : Bindings) word =>
    let name := String.ofList (word.takeWhile (· != '='))
    let value := (word.dropWhile (· != '=')).drop 1
    if bindings.any (·.1 = name) then
      bindings.map fun b => if b.1 = name then (name, value) else b
    else bindings ++ [(name, value)]) base
  match s.value? 'C' with
  | some dir => do
    match ← Act.change fun v => do
        let l ← v.locate (textOf dir)
        if (v.lookup l).any Entry.isDirectory then return { v with workingDir := l }
        else .error .notDirectory with
    | .ok () => pure ()
    | .error fault =>
      i.abandon ("cannot change directory to ".toList ++ quoteName dir ++ ": ".toList ++
        fault.message.toList) 125
  | none => pure ()
  match operands.drop assignments.length with
  | [] => do
    let finish := if s.has '0' then [Char.ofNat 0] else ['\n']
    i.write (bindings.flatMap fun (name, value) => name.toList ++ '=' :: value ++ finish) 125
    return 0
  | name :: arguments => do
    let fault ← turnTo i bindings name arguments
    i.complain (quoteName name ++ ": ".toList ++ fault.message.toList)
    if fault = .notFound && name.any fun c => c == ' ' || c == '\t' then
      i.complain "use -[v]S to pass options in shebang lines".toList
    return startStatus fault

/-- A program that another one is started by: without effect here but for its options. -/
def starting (t : OptionTable) (failure : String) : Utility := fun i => do
  let s ← i.select t 125
  match s.operands with
  | [] => i.misused "missing operand".toList 125
  | name :: arguments => do
    let fault ← turnTo i i.bindings name arguments
    i.complain (failure.toList ++ quoteName name ++ ": ".toList ++ fault.message.toList)
    return startStatus fault

def nohup : Utility := fun i => do
  Act.call (.handle 1 .ignored)
  starting ⟨"", "", "", [], false⟩ "failed to run command " i

def nice : Utility := starting ⟨"", "n", "", [("adjustment", 'n')], false⟩ ""

def stdbuf : Utility :=
  starting ⟨"", "ioe", "", [("input", 'i'), ("output", 'o'), ("error", 'e')], false⟩
    "failed to run command "

def setsid : Utility := fun i => do
  Act.call .lead
  starting ⟨"cfw", "", "", [("wait", 'w'), ("fork", 'f')], false⟩ "failed to execute " i

/-! ## Limits of time -/

def signalNamed? (s : Octets) : Option Signal :=
  let name := String.ofList (s.map Char.toUpper)
  match decimal? s with
  | some n => if n < Signal.bound then some n else none
  | none => Signal.ofName? (if "SIG".toList.isPrefixOf name.toList then
      String.ofList (name.toList.drop 3) else name)

def startTimer (time : Nat) : Act Nat :=
  Act.fork (Act.toProgram do
    Act.call (.sleep time)
    return 0)

/-- Waits for a process and for timers, which send signals when they end. -/
def watch (send : Signal → Act Unit) (child : Nat) : Nat → List (Nat × Signal) →
    (later : Option (Nat × Signal)) → (timedOut : Bool) → Act (Ending × Bool)
  | 0, _, _, timedOut => return (.expired, timedOut)
  | fuel + 1, timers, later, timedOut => do
    match ← Act.call (.wait none true false) with
    | .ended pid ending =>
      if pid = child then
        for (timer, _) in timers do
          let _ ← Act.call (.kill timer Signal.kill)
          let _ ← Act.call (.wait (some timer) true false)
        return (ending, timedOut)
      else
        match timers.find? (·.1 = pid) with
        | some (_, signal) => do
          let timers ← match later with
            | some (time, signal) => do
              let timer ← startTimer time
              pure [(timer, signal)]
            | none => pure []
          send signal
          watch send child fuel timers none true
        | none => watch send child fuel timers later timedOut
    | _ => return (.exited 0, timedOut)

def timeout : Utility := fun i => do
  let s ← i.select ⟨"fpv", "ks", "",
    [("signal", 's'), ("kill-after", 'k'), ("preserve-status", 'p'), ("foreground", 'f'),
      ("verbose", 'v')], false⟩ 125
  let signal ← match s.value? 's' with
    | none => pure Signal.terminate
    | some name =>
      match signalNamed? name with
      | some signal => pure signal
      | none => i.misused (quoteName name ++ ": invalid signal".toList) 125
  let read := fun (text : Octets) => do
    match interval? text with
    | some time => pure time
    | none => i.misused ("invalid time interval ".toList ++ quoteName text) 125
  let later ← match s.value? 'k' with
    | none => pure none
    | some text => do pure (some (← read text, Signal.kill))
  match s.operands with
  | limit :: name :: arguments => do
    let time ← read limit
    if !s.has 'f' then Act.call .lead
    let child ← Act.fork (Act.toProgram do
      let fault ← turnTo i i.bindings name arguments
      i.complain ("failed to run command ".toList ++ quoteName name ++ ": ".toList ++
        fault.message.toList)
      return startStatus fault)
    let timers ← if time = 0 then pure [] else do
      let timer ← startTimer time
      pure [(timer, signal)]
    let send := fun (signal : Signal) => do
      if s.has 'v' then
        i.complain ("sending signal ".toList ++ ((Signal.name? signal).getD "").toList ++
          " to command ".toList ++ quoteName name)
      let _ ← Act.call (.kill child signal)
      if !s.has 'f' then
        Act.call (.killGroup signal)
        if signal = Signal.kill then
          let (self, _) ← Act.call .identity
          let _ ← Act.call (.kill self Signal.kill)
    let (ending, timedOut) ← watch send child 100 timers later false
    match ending with
    | .signalled signal => do
      if !timedOut then
        let (self, _) ← Act.call .identity
        let _ ← Act.call (.kill self signal)
      return if timedOut && !s.has 'p' && signal ≠ Signal.kill then 124 else 128 + signal
    | .exited status => return if timedOut && !s.has 'p' then 124 else status
    | .expired => return 125
  | _ => do
    i.pointToHelp
    return 125

/-! ## Arguments from the input -/

def inputWords : Nat → Octets → (quote : Option Char) → Option Octets → List Octets →
    Except Char (List (List Octets))
  | 0, _, _, _, line => .ok [line.reverse]
  | fuel + 1, text, quote, word, line =>
    let all := (word.map List.reverse).toList ++ line
    match text, quote with
    | [], some c => .error c
    | [], none => .ok (if all.isEmpty then [] else [all.reverse])
    | c :: rest, some q =>
      if c == q then inputWords fuel rest none word line
      else if c == '\n' then .error q
      else inputWords fuel rest quote (some (c :: word.getD [])) line
    | '\\' :: c :: rest, none => inputWords fuel rest none (some (c :: word.getD [])) line
    | '\n' :: rest, none => do
      let more ← inputWords fuel rest none none []
      return if all.isEmpty then more else all.reverse :: more
    | c :: rest, none =>
      if c == '\'' || c == '"' then inputWords fuel rest (some c) (some (word.getD [])) line
      else if c == ' ' || c == '\t' then inputWords fuel rest none none all
      else inputWords fuel rest none (some (c :: word.getD [])) line

def chunks {α : Type} (n : Nat) : Nat → List α → List (List α)
  | 0, _ => []
  | _, [] => []
  | fuel + 1, xs => xs.take n :: chunks n fuel (xs.drop n)

def replaceText (old new : Octets) : Nat → Octets → Octets
  | 0, s => s
  | _, [] => []
  | fuel + 1, c :: rest =>
    if !old.isEmpty && old.isPrefixOf (c :: rest) then
      new ++ replaceText old new fuel ((c :: rest).drop old.length)
    else c :: replaceText old new fuel rest

def separated (separator : Char) (text : Octets) : List Octets :=
  let parts := text.foldr (fun c (acc : List Octets) =>
    if c == separator then [] :: acc
    else match acc with
      | first :: rest => (c :: first) :: rest
      | [] => [[c]]) [[]]
  if parts.getLast? = some [] then parts.dropLast else parts

def runCommands (i : Invocation) (shows : Bool) : List (List Octets) → Nat → Act Nat
  | [], status => return status
  | [] :: rest, status => runCommands i shows rest status
  | (name :: arguments) :: rest, status => do
    if shows then Act.writeError ([' '].intercalate (name :: arguments) ++ ['\n'])
    let child ← Act.fork (Act.toProgram do
      let _ ← Act.call (.openFile "/dev/null" .reading)
      let fault ← turnTo i i.bindings name arguments
      i.complainOf name fault
      return startStatus fault)
    match ← Act.call (.wait (some child) true false) with
    | .ended _ (.exited 0) => runCommands i shows rest status
    | .ended _ (.exited 255) => do
      i.complain (name ++ ": exited with status 255; aborting".toList)
      return 124
    | .ended _ (.exited code) =>
      if code = 126 || code = 127 then return code else runCommands i shows rest 123
    | .ended _ (.signalled signal) => do
      i.complain (name ++ ": terminated by signal ".toList ++ Octets.ofNat signal)
      return 125
    | _ => return 1

def xargs : Utility := fun i => do
  let s ← i.select ⟨"0prtox", "adEIlLnPs", "ie",
    [("null", '0'), ("max-args", 'n'), ("max-lines", 'L'), ("no-run-if-empty", 'r'),
      ("verbose", 't'), ("delimiter", 'd'), ("replace", 'i'), ("max-procs", 'P'),
      ("arg-file", 'a')], false⟩ 1
  let command := if s.operands.isEmpty then ["echo".toList] else s.operands
  let input ← match s.value? 'a' with
    | some path => Act.readFile path
    | none => Act.readAll 0
  let text := input.toOption.getD []
  let replaced := match s.value? 'I', s.value? 'i' with
    | some mark, _ => some mark
    | none, some [] => some r"{}".toList
    | none, mark => mark
  let lines ← if s.has '0' then pure ((separated (Char.ofNat 0) text).map ([·]))
    else match s.value? 'd' with
      | some d =>
        let (d, _) := Shell.Escape.unescape true (d.length + 1) [] d
        pure ((separated (d.headD '\n') text).map ([·]))
      | none =>
        if replaced.isSome then
          pure (((Act.linesOf text).map fun l => [l.text.dropWhile fun c => c == ' ' || c == '\t'])
            |>.filter fun l => l ≠ [[]])
        else
          match inputWords (text.length + 1) text none none [] with
          | .ok lines => pure lines
          | .error q =>
            let noun := if q == '"' then "double" else "single"
            i.abandon ("unmatched ".toList ++ noun.toList ++
              (" quote; by default quotes are special"
              ++ " to xargs unless you use the -0 option").toList) 1
  let words := lines.flatten
  let commands := match replaced with
    | some mark => lines.map fun line =>
        let value := [' '].intercalate line
        command.map fun word => replaceText mark value (word.length + 1) word
    | none =>
      let groups := match (s.value? 'n').bind decimal?, (s.value? 'L').bind decimal? with
        | some n, _ => chunks n (words.length + 1) words
        | none, some n => (chunks n (lines.length + 1) lines).map List.flatten
        | none, none => if words.isEmpty then [] else [words]
      if groups.isEmpty && !s.has 'r' then [command]
      else groups.map (command ++ ·)
  runCommands i (s.has 't') commands 0

end LoadScript.Utility
