import LoadScript.Host.Shell.Pattern
import LoadScript.Host.Utility.Inspection

set_option autoImplicit false

namespace LoadScript.Utility

/-! ## Conditions -/

inductive Condition where
  | always (b : Bool)
  | named (pattern : Octets) (ignoresCase wholePath : Bool)
  | kind (letter : Char)
  | empty
  | size (order : Ordering) (count unit : Nat)
  | mode (n : Nat)
  | print (ending : Char)
  | printFormat (format : Octets)
  | run (words : List Octets)
  /-- The files are given to one command at the end. -/
  | runAll (words : List Octets)
  | delete
  | prune
  | quit
  | negated (c : Condition)
  | both (first second : Condition)
  | either (first second : Condition)
  | sequence (first second : Condition)

namespace Condition

def acts : Condition → Bool
  | .print _ | .printFormat _ | .run _ | .runAll _ | .delete | .quit => true
  | .negated c => c.acts
  | .both a b | .either a b | .sequence a b => a.acts || b.acts
  | _ => false

/-- Whether the files of a directory come before it. -/
def deletes : Condition → Bool
  | .delete => true
  | .negated c => c.deletes
  | .both a b | .either a b | .sequence a b => a.deletes || b.deletes
  | _ => false

def collecting : Condition → List (List Octets)
  | .runAll words => [words]
  | .negated c => c.collecting
  | .both a b | .either a b | .sequence a b => a.collecting ++ b.collecting
  | _ => []

end Condition

/-- How deeply trees are searched, and whether a directory comes behind its files. -/
structure SearchRange where
  least : Nat
  greatest : Option Nat
  inner : Bool

/-! ## Reading of conditions -/

structure FindCursor where
  words : List Octets
  range : SearchRange

abbrev FindReading := StateT FindCursor (Except Octets)

namespace FindReading

def fail {α : Type} (message : Octets) : FindReading α := fun _ => .error message

def peek : FindReading (Option String) := return (← get).words.head?.map String.ofList

def skip : FindReading Unit := modify fun c => { c with words := c.words.tail }

def argument (name : String) : FindReading Octets := do
  match (← get).words with
  | w :: _ => do
    skip
    return w
  | [] => fail ("missing argument to ".toList ++ Char.ofNat 96 :: name.toList ++ ['\''])

def commandWords : Nat → List Octets → FindReading (List Octets × Bool)
  | 0, acc => return (acc.reverse, false)
  | fuel + 1, acc => do
    match (← get).words with
    | [] => fail ("missing argument to ".toList ++ Char.ofNat 96 :: "-exec'".toList)
    | [';'] :: _ => do
      skip
      return (acc.reverse, false)
    | w :: _ => do
      skip
      if w = ['+'] && acc.head? = some r"{}".toList then return (acc.tail.reverse, true)
      else commandWords fuel (w :: acc)

def size (text : Octets) : FindReading Condition := do
  let (order, rest) := match text with
    | '+' :: rest => (Ordering.gt, rest)
    | '-' :: rest => (Ordering.lt, rest)
    | rest => (Ordering.eq, rest)
  let digits := rest.takeWhile Char.isDigit
  let unit := match rest.drop digits.length with
    | [] | ['b'] => some 512
    | ['c'] => some 1
    | ['w'] => some 2
    | ['k'] => some 1024
    | ['M'] => some 1048576
    | ['G'] => some 1073741824
    | _ => none
  match decimal? digits, unit with
  | some count, some unit => return .size order count unit
  | _, _ => fail ("Invalid argument ".toList ++ Char.ofNat 96 :: text ++ "' to -size".toList)

def depthOf (name : String) (text : Octets) : FindReading Nat := do
  match decimal? text with
  | some n => return n
  | none => fail ("Expected a positive decimal integer argument to ".toList ++ name.toList ++
      ", but got ".toList ++ quoteName text)

def single (name : String) : FindReading Condition := do
  match name with
  | "-name" => return .named (← argument name) false false
  | "-iname" => return .named (← argument name) true false
  | "-path" | "-wholename" => return .named (← argument name) false true
  | "-ipath" => return .named (← argument name) true true
  | "-type" => do
    match ← argument name with
    | [c] =>
      if "fdlcbps".toList.contains c then return .kind c
      else fail ("Unknown argument to -type: ".toList ++ [c])
    | _ => fail "Arguments to -type should contain only one letter".toList
  | "-empty" => return .empty
  | "-size" => size (← argument name)
  | "-perm" => return .mode ((← argument name).foldl (fun n c => 8 * n + (c.toNat - '0'.toNat)) 0)
  | "-print" => return .print '\n'
  | "-print0" => return .print (Char.ofNat 0)
  | "-printf" => return .printFormat (← argument name)
  | "-exec" => do
    let (words, all) ← commandWords ((← get).words.length + 1) []
    return if all then .runAll words else .run words
  | "-delete" => do
    modify fun c => { c with range := { c.range with inner := true } }
    return .delete
  | "-prune" => return .prune
  | "-quit" => return .quit
  | "-true" => return .always true
  | "-false" => return .always false
  | "-newer" | "-mtime" | "-mmin" | "-user" | "-group" => do
    let _ ← argument name
    return .always true
  | "-maxdepth" => do
    let n ← depthOf name (← argument name)
    modify fun c => { c with range := { c.range with greatest := some n } }
    return .always true
  | "-mindepth" => do
    let n ← depthOf name (← argument name)
    modify fun c => { c with range := { c.range with least := n } }
    return .always true
  | "-depth" => do
    modify fun c => { c with range := { c.range with inner := true } }
    return .always true
  | _ => fail ("unknown predicate ".toList ++ Char.ofNat 96 :: name.toList ++ ['\''])

mutual

def alternatives : Nat → FindReading Condition
  | 0 => fail []
  | fuel + 1 => do
    let first ← conjunction fuel
    match ← peek with
    | some "-o" | some "-or" => do
      skip
      return .either first (← alternatives fuel)
    | some "," => do
      skip
      return .sequence first (← alternatives fuel)
    | _ => return first

def conjunction : Nat → FindReading Condition
  | 0 => fail []
  | fuel + 1 => do
    let first ← operand fuel
    match ← peek with
    | some "-a" | some "-and" => do
      skip
      return .both first (← conjunction fuel)
    | none | some "-o" | some "-or" | some "," | some ")" => return first
    | _ => return .both first (← conjunction fuel)

def operand : Nat → FindReading Condition
  | 0 => fail []
  | fuel + 1 => do
    match ← peek with
    | none => return .always true
    | some "!" | some "-not" => do
      skip
      return .negated (← operand fuel)
    | some "(" => do
      skip
      let inner ← alternatives fuel
      if (← peek) = some ")" then
        skip
        return inner
      else
        fail ("invalid expression; I was expecting to find a ')' somewhere " ++
          "but did not see one.").toList
    | some name => do
      skip
      if name.toList.head? = some '-' then single name
      else fail ("paths must precede expression: ".toList ++ Char.ofNat 96 :: name.toList ++ ['\''])

end

end FindReading

/-! ## Search -/

structure Candidate where
  path : Octets
  location : Location
  entry : Entry
  depth : Nat

structure FindState where
  failed : Bool
  quit : Bool
  collected : List Octets

def matchesName (pattern name : Octets) (ignoresCase : Bool) : Bool :=
  let fold := fun (s : Octets) => if ignoresCase then s.map Char.toLower else s
  let marks := (fold pattern).map fun c => (⟨c, false, false⟩ : Shell.Mark)
  Shell.Pattern.covers (Shell.Pattern.read marks) (fold name)

def runFor (i : Invocation) (words : List Octets) : Act Bool := do
  match words with
  | [] => return true
  | name :: arguments => do
    let child ← Act.fork (Act.toProgram do
      let fault ← turnTo i i.bindings name arguments
      i.complain (quoteName name ++ ": ".toList ++ fault.message.toList)
      return startStatus fault)
    match ← Act.call (.wait (some child) true false) with
    | .ended _ (.exited 0) => return true
    | _ => return false

def formatFound (c : Candidate) : Nat → Octets → Octets
  | 0, _ => []
  | _, [] => []
  | fuel + 1, '%' :: letter :: rest =>
    let text := match letter with
      | 'p' => c.path
      | 'f' => lastName c.path
      | 'h' => if c.path.contains '/' then
          (c.path.reverse.dropWhile (· != '/')).drop 1 |>.reverse else ['.']
      | 's' => Octets.ofNat (sizeOfEntry c.entry)
      | 'd' => Octets.ofNat c.depth
      | 'm' => Nat.toDigits 8 (modeOf c.entry)
      | 'M' => modeText c.entry
      | 'y' => if c.entry.isDirectory then ['d'] else if c.entry.isFile then ['f']
          else if c.entry.isLink then ['l'] else ['c']
      | 'u' | 'g' => "root".toList
      | letter => [letter]
    text ++ formatFound c fuel rest
  | fuel + 1, '\\' :: rest =>
    let (text, rest) := Shell.Escape.readEscape rest
    text ++ formatFound c fuel rest
  | fuel + 1, d :: rest => d :: formatFound c fuel rest

/-- Whether a condition holds for a file; it may do something. The last flag of the result tells
that a directory is not entered. -/
def Condition.check (i : Invocation) (file : Candidate) :
    Condition → FindState → Act (Bool × Bool × FindState)
  | .always b, s => return (b, false, s)
  | .named pattern ignoresCase wholePath, s =>
    return (matchesName pattern (if wholePath then file.path else lastName file.path) ignoresCase,
      false, s)
  | .kind letter, s =>
    let holds := match letter with
      | 'f' => file.entry.isFile
      | 'd' => file.entry.isDirectory
      | 'c' => file.entry.isDevice
      | 'l' => file.entry.isLink
      | _ => false
    return (holds, false, s)
  | .empty, s => do
    let inside ← Act.look fun v => v.children file.location
    let holds := match file.entry with
      | .file content _ => content.size = 0
      | .directory => inside.isEmpty
      | .device _ | .link _ => false
    return (holds, false, s)
  | .size order count unit, s =>
    let units := (sizeOfEntry file.entry + unit - 1) / unit
    return (compare units count == order, false, s)
  | .mode n, s => return (modeOf file.entry = n, false, s)
  | .print ending, s => do
    i.write (file.path ++ [ending]) 1
    return (true, false, s)
  | .printFormat format, s => do
    i.write (formatFound file (format.length + 1) format) 1
    return (true, false, s)
  | .run words, s => do
    let filled := words.map fun w => replaceText r"{}".toList file.path (w.length + 1) w
    return (← runFor i filled, false, s)
  | .runAll _, s => return (true, false, { s with collected := file.path :: s.collected })
  | .delete, s => do
    if file.path = ['.'] then return (true, false, s)
    else
      match ← Act.change fun v =>
        if file.entry.isDirectory then v.removeDirectory (textOf file.path)
        else v.removeFile (textOf file.path) with
      | .ok () => return (true, false, s)
      | .error fault => do
        i.complain ("cannot delete ".toList ++ quoteName file.path ++ ": ".toList ++
          fault.message.toList)
        return (false, false, { s with failed := true })
  | .prune, s => return (true, true, s)
  | .quit, s => return (true, false, { s with quit := true })
  | .negated c, s => do
    let (holds, stays, s) ← c.check i file s
    return (!holds, stays, s)
  | .both a b, s => do
    let (holds, stays, s) ← a.check i file s
    if holds && !s.quit then
      let (holds, alsoStays, s) ← b.check i file s
      return (holds, stays || alsoStays, s)
    else return (false, stays, s)
  | .either a b, s => do
    let (holds, stays, s) ← a.check i file s
    if holds || s.quit then return (holds, stays, s)
    else
      let (holds, alsoStays, s) ← b.check i file s
      return (holds, stays || alsoStays, s)
  | .sequence a b, s => do
    let (_, stays, s) ← a.check i file s
    if s.quit then return (true, stays, s)
    else
      let (holds, alsoStays, s) ← b.check i file s
      return (holds, stays || alsoStays, s)

def searchTrees (i : Invocation) (range : SearchRange) (c : Condition) :
    Nat → List (Candidate × Bool) → FindState → Act FindState
  | 0, _, s => return s
  | _, [], s => return s
  | fuel + 1, (file, entered) :: rest, s => do
    if s.quit then return s
    else
      let inside ← if file.entry.isDirectory && !entered &&
          range.greatest.all (file.depth < ·) then
          Act.look fun v => (v.children file.location).filterMap fun name =>
            (v.lookup (file.location ++ [name])).map fun e =>
              (⟨pathIn file.path (Octets.ofText name), file.location ++ [name], e,
                file.depth + 1⟩ : Candidate)
        else pure []
      if range.inner && !entered && file.entry.isDirectory then
        searchTrees i range c fuel (inside.map (·, false) ++ (file, true) :: rest) s
      else
        let (_, stays, s) ← if range.least ≤ file.depth then c.check i file s
          else pure (true, false, s)
        searchTrees i range c fuel (if stays then rest else inside.map (·, false) ++ rest) s

def find : Utility := fun i => do
  let isPath := fun (w : Octets) => w.head? ≠ some '-' && w ≠ ['!'] && w ≠ ['('] && w ≠ [')']
  let paths := i.arguments.takeWhile isPath
  let words := i.arguments.drop paths.length
  let start : FindCursor := ⟨words, ⟨0, none, false⟩⟩
  match (FindReading.alternatives (4 * words.length + 8)).run start with
  | .error message => i.abandon message 1
  | .ok (c, after) => do
    if !after.words.isEmpty then
      i.abandon "invalid expression; you have too many ')'".toList 1
    else
      let c := if c.acts then c else .both c (.print '\n')
      let mut s : FindState := ⟨false, false, []⟩
      for path in if paths.isEmpty then [['.']] else paths do
        match ← readEntry path with
        | .error fault => do
          i.complain (quoteName path ++ ": ".toList ++ fault.message.toList)
          s := { s with failed := true }
        | .ok (l, e) => s ← searchTrees i after.range c Act.often [(⟨path, l, e, 0⟩, false)] s
      let mut failed := s.failed
      for command in c.collecting do
        if !s.collected.isEmpty then
          if !(← runFor i (command ++ s.collected.reverse)) then failed := true
      return if failed then 1 else 0

def which : Utility := fun i => do
  let s ← i.select ⟨"as", "", "", [], false⟩ 2
  let v ← Act.look fun v => v
  let isRunnable := fun (path : Octets) =>
    (v.entry? (textOf path)).any fun e => e.isFile && e.isExecutable
  let mut missing := s.operands.isEmpty
  for name in s.operands do
    let paths := if name.contains '/' then [name]
      else (searchPath i.bindings).map fun dir => pathIn (if dir.isEmpty then ['.'] else dir) name
    let found := paths.filter isRunnable
    if found.isEmpty then missing := true
    if !s.has 's' then
      for path in if s.has 'a' then found else found.take 1 do i.writeLine path
  return if missing then 1 else 0

end LoadScript.Utility
