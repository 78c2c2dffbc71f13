import LoadScript.Host.Utility.Files

set_option autoImplicit false

namespace LoadScript.Utility

def inputs (s : Selected) : List Octets := if s.operands.isEmpty then [['-']] else s.operands

/-! ## Whole inputs -/

def visibleByte (n : Nat) : Octets :=
  if 128 ≤ n then
    let low := n - 128
    "M-".toList ++ if low < 32 then ['^', Char.ofNat (low + 64)]
      else if low = 127 then "^?".toList else [Char.ofNat low]
  else if n = 127 then "^?".toList
  else if n < 32 then ['^', Char.ofNat (n + 64)]
  else [Char.ofNat n]

def visibleLine (s : Selected) (text : Octets) : Octets :=
  let shows := s.has 'v' || s.has 'A' || s.has 'e' || s.has 't'
  let showsTabs := s.has 'T' || s.has 'A' || s.has 't'
  text.flatMap fun c =>
    if c == '\t' then (if showsTabs then "^I".toList else [c])
    else if shows then visibleByte c.toNat else [c]

structure CatState where
  number : Nat
  blank : Bool
  inLine : Bool

def catLine (i : Invocation) (s : Selected) (state : CatState) (l : Act.Line) :
    Act (CatState × Bool) := do
  let isBlank := l.text.isEmpty && l.ended && !state.inLine
  if isBlank && state.blank && s.has 's' then return (state, true)
  else
    let counts := !state.inLine && (if s.has 'b' then !isBlank else s.has 'n')
    let number := if counts then padLeft 6 (Octets.ofNat (state.number + 1)) ++ ['\t'] else []
    let mark := if l.ended && (s.has 'E' || s.has 'A' || s.has 'e') then ['$'] else []
    i.write (number ++ visibleLine s l.text ++ mark ++ if l.ended then ['\n'] else []) 1
    return (⟨if counts then state.number + 1 else state.number, isBlank, !l.ended⟩, true)

def cat : Utility := fun i => do
  let s ← i.select ⟨"AbeEnstTuv", "", "",
    [("number", 'n'), ("number-nonblank", 'b'), ("show-ends", 'E'), ("show-tabs", 'T'),
      ("show-all", 'A'), ("squeeze-blank", 's'), ("show-nonprinting", 'v')], true⟩ 1
  let plain := s.options.all (·.1 = 'u')
  let mut status := 0
  let mut state : CatState := ⟨0, false, false⟩
  for operand in inputs s do
    match ← Act.openOperand operand with
    | .error fault => do
      i.complainOf operand fault
      status := 1
    | .ok descriptor => do
      let fault ← if plain then do
          let (_, fault) ← Act.eachBlock descriptor (fun () text => do
            i.write text 1
            return ((), true)) Act.often ()
          pure fault
        else do
          let (after, fault) ← Act.eachLine descriptor (catLine i s) Act.often [] state
          state := after
          pure fault
      Act.closeOperand descriptor
      match fault with
      | some fault => do
        i.complainOf operand fault
        status := 1
      | none => pure ()
  return status

/-! ## Counts -/

def factor? (s : Octets) : Option Nat :=
  match String.ofList s with
  | "" => some 1
  | "b" => some 512
  | "k" | "K" | "KiB" => some 1024
  | "kB" | "KB" => some 1000
  | "m" | "M" | "MiB" => some 1048576
  | "MB" => some 1000000
  | "G" | "GiB" => some 1073741824
  | "GB" => some 1000000000
  | _ => none

def count? (s : Octets) : Option Nat :=
  let digits := s.takeWhile Char.isDigit
  match decimal? digits, factor? (s.drop digits.length) with
  | some n, some f => some (n * f)
  | _, _ => none

structure Extent where
  count : Nat
  bytes : Bool
  opposite : Bool

def extentOf (i : Invocation) (s : Selected) (sign : Char) : Act Extent := do
  match s.options.reverse.find? fun o => o.1 = 'n' || o.1 = 'c' with
  | none => return ⟨10, false, false⟩
  | some (letter, text) =>
    let bytes := letter = 'c'
    let (opposite, digits) := match text with
      | c :: rest => if c = sign then (true, rest)
        else if c = '-' || c = '+' then (false, rest) else (false, text)
      | [] => (false, [])
    match count? digits with
    | some count => return ⟨count, bytes, opposite⟩
    | none =>
      let noun := if bytes then "bytes" else "lines"
      i.abandon ("invalid number of ".toList ++ noun.toList ++ ": ".toList ++ quoteName text) 1

/-- An old form of a count, as in `-5`, is the option for lines. -/
def withOldCount (words : List Octets) : List Octets :=
  match words with
  | ('-' :: c :: rest) :: more =>
    if c.isDigit then
      let digits := c :: rest.takeWhile Char.isDigit
      match rest.drop (digits.length - 1) with
      | [] => "-n".toList :: digits :: more
      | ['c'] => "-c".toList :: digits :: more
      | ['l'] => "-n".toList :: digits :: more
      | _ => words
    else words
  | _ => words

def header (i : Invocation) (first : Bool) (operand : Octets) : Act Unit :=
  let name := if operand = ['-'] then "standard input".toList else operand
  i.write ((if first then [] else ['\n']) ++ "==> ".toList ++ name ++ " <==\n".toList) 1

def forInputs (i : Invocation) (s : Selected) (f : Nat → Act (Option FileFault)) : Act Nat := do
  let operands := inputs s
  let headed := match s.last? "qv" with
    | some 'q' => false
    | some _ => true
    | none => 1 < operands.length
  let mut first := true
  let mut status := 0
  for operand in operands do
    match ← Act.openOperand operand with
    | .error fault => do
      i.complain ("cannot open ".toList ++ quoteName operand ++ " for reading: ".toList ++
        fault.message.toList)
      status := 1
    | .ok descriptor => do
      if headed then header i first operand
      first := false
      match ← f descriptor with
      | some fault => do
        i.complain ("error reading ".toList ++ quoteName operand ++ ": ".toList ++
          fault.message.toList)
        status := 1
      | none => pure ()
      Act.closeOperand descriptor
  return status

/-! ## The first part -/

/-- The text up to the end of a number of lines, what is left, and how many lines are missing. -/
def takeLinesOf : Nat → Octets → Octets × Octets × Nat
  | 0, text => ([], text, 0)
  | n + 1, [] => ([], [], n + 1)
  | n + 1, text =>
    let line := text.takeWhile (· != '\n')
    match text.drop line.length with
    | [] => (line, [], n + 1)
    | _ :: rest =>
      let (taken, left, missing) := takeLinesOf n rest
      (line ++ '\n' :: taken, left, missing)

def headBlock : Nat := 8192

/-- Passes on the first lines or bytes of an input; in a file, what is read too much is given back.
-/
def passFirst (i : Invocation) (descriptor : Nat) (bytes : Bool) :
    Nat → (wanted : Nat) → Act (Option FileFault)
  | 0, _ => return none
  | fuel + 1, wanted => do
    if wanted = 0 then return none
    else
      let size := if bytes then Nat.min wanted headBlock else headBlock
      match ← Act.call (.read descriptor size) with
      | .error fault => return some fault
      | .ok [] => return none
      | .ok text => do
        let (taken, left, missing) := if bytes then (text, [], wanted - text.length)
          else takeLinesOf wanted text
        i.write taken 1
        if missing = 0 && !left.isEmpty then Act.call (.unread descriptor left.length)
        passFirst i descriptor bytes fuel missing

def withoutLastLines (n : Nat) (text : Octets) : Octets :=
  let lines := Act.linesOf text
  (lines.take (lines.length - n)).flatMap Act.Line.whole

def head : Utility := fun i => do
  let s ← { i with arguments := withOldCount i.arguments }.select ⟨"qvz", "nc", "",
    [("lines", 'n'), ("bytes", 'c'), ("quiet", 'q'), ("silent", 'q'), ("verbose", 'v'),
      ("zero-terminated", 'z')], true⟩ 1
  let extent ← extentOf i s '-'
  forInputs i s fun descriptor => do
    if extent.opposite then
      match ← Act.readAll descriptor with
      | .error fault => return some fault
      | .ok text => do
        i.write (if extent.bytes then text.take (text.length - extent.count)
          else withoutLastLines extent.count text) 1
        return none
    else passFirst i descriptor extent.bytes Act.often extent.count

/-! ## The last part -/

def lastPart (e : Extent) (text : Octets) : Octets :=
  if e.bytes then text.drop (if e.opposite then e.count - 1 else text.length - e.count)
  else
    let lines := Act.linesOf text
    (lines.drop (if e.opposite then e.count - 1 else lines.length - e.count)).flatMap
      Act.Line.whole

def followTime : Nat := 1000000

def follow (i : Invocation) (descriptor : Nat) : Nat → Act Unit
  | 0 => pure ()
  | fuel + 1 => do
    match ← Act.call (.read descriptor Act.block) with
    | .ok (c :: text) => i.write (c :: text) 1
    | _ => Act.call (.sleep followTime)
    follow i descriptor fuel

def tail : Utility := fun i => do
  let arguments := match i.arguments with
    | ('+' :: digits) :: rest =>
      if rest.length ≤ 1 && (count? digits).isSome then "-n".toList :: ('+' :: digits) :: rest
      else i.arguments
    | words => withOldCount words
  let s ← { i with arguments }.select ⟨"fFqvz", "nc", "",
    [("lines", 'n'), ("bytes", 'c'), ("quiet", 'q'), ("silent", 'q'), ("verbose", 'v'),
      ("follow", 'f'), ("zero-terminated", 'z')], true⟩ 1
  let extent ← extentOf i s '+'
  forInputs i s fun descriptor => do
    match ← Act.readAll descriptor with
    | .error fault => return some fault
    | .ok text => do
      i.write (lastPart extent text) 1
      let isPipe := (← Act.call (.medium descriptor)) = some .pipe
      if (s.has 'f' || s.has 'F') && !isPipe then follow i descriptor Act.often
      return none

/-! ## Numbers of lines, words and bytes -/

structure Tally where
  lines : Nat
  words : Nat
  bytes : Nat
  longest : Nat
  inWord : Bool
  width : Nat

def isSpace (c : Char) : Bool := c == ' ' || (9 ≤ c.toNat && c.toNat ≤ 13)

/-- Counts a byte. A word is a run of bytes that are not blank, of which one is printable. -/
def Tally.add (t : Tally) (c : Char) : Tally :=
  let newline := c == '\n'
  let begins := !t.inWord && isPrintable c && c != ' '
  let width := if newline || c == '\r' || c == Char.ofNat 12 then 0
    else if c == '\t' then t.width + (8 - t.width % 8)
    else if isPrintable c then t.width + 1 else t.width
  { lines := if newline then t.lines + 1 else t.lines
    words := if begins then t.words + 1 else t.words
    bytes := t.bytes + 1
    longest := Nat.max t.longest width
    inWord := if isSpace c then false else t.inWord || begins
    width }

def Tally.zero : Tally := ⟨0, 0, 0, 0, false, 0⟩

def Tally.columns (t : Tally) (s : Selected) : List Nat :=
  let wanted := fun (c : Char) => s.has c || (!s.has 'l' && !s.has 'w' && !s.has 'c' &&
    !s.has 'm' && !s.has 'L' && c ≠ 'm' && c ≠ 'L')
  (if wanted 'l' then [t.lines] else []) ++ (if wanted 'w' then [t.words] else []) ++
    (if wanted 'm' then [t.bytes] else []) ++ (if wanted 'c' then [t.bytes] else []) ++
    (if wanted 'L' then [t.longest] else [])

def mediumOf (operand : Octets) : Act (Option Medium) := do
  if operand = ['-'] then Act.call (.medium 0)
  else
    return (← Act.look fun v => v.entry? (textOf operand)).map fun
      | .file content _ => .file content.size
      | .directory => .directory
      | .device _ | .link _ => .device

/-- The width of the numbers, for the inputs as they are before they are read. -/
def columnWidth (media : List (Option Medium)) : Nat :=
  let total := media.foldl (fun n medium => match medium with
    | some (.file size) => n + size
    | _ => n) 0
  let others := media.any fun medium => match medium with
    | some (.file _) | none => false
    | some _ => true
  Nat.max (Nat.repr total).length (if others then 7 else 1)

def wc : Utility := fun i => do
  let s ← i.select ⟨"clLmw", "t", "",
    [("bytes", 'c'), ("chars", 'm'), ("lines", 'l'), ("words", 'w'), ("max-line-length", 'L'),
      ("total", 't')], true⟩ 1
  let operands := inputs s
  let single := operands.length = 1 && (Tally.zero.columns s).length = 1
  let media ← operands.mapM mediumOf
  let width := if single then 1 else columnWidth media
  let onlyTotal := s.value? 't' = some "only".toList
  let line := fun (t : Tally) (name : Octets) =>
    let numbers := (t.columns s).map fun n =>
      padLeft (if onlyTotal then 1 else width) (Octets.ofNat n)
    [' '].intercalate numbers ++ (if name.isEmpty then [] else ' ' :: name) ++ ['\n']
  let mut status := 0
  let mut total := Tally.zero
  for operand in operands do
    match ← Act.openOperand operand with
    | .error fault => do
      i.complainOf operand fault
      status := 1
    | .ok descriptor => do
      let (tally, fault) ← Act.eachBlock descriptor
        (fun (t : Tally) text => return (text.foldl Tally.add t, true)) Act.often Tally.zero
      Act.closeOperand descriptor
      match fault with
      | some fault => do
        i.complainOf operand fault
        status := 1
      | none => pure ()
      if !onlyTotal then i.write (line tally (if s.operands.isEmpty then [] else operand)) 1
      total := { total with
        lines := total.lines + tally.lines
        words := total.words + tally.words
        bytes := total.bytes + tally.bytes
        longest := Nat.max total.longest tally.longest }
  let always := s.value? 't' = some "always".toList
  let never := s.value? 't' = some "never".toList
  if onlyTotal then i.write (line total []) 1
  else if (1 < operands.length || always) && !never then i.write (line total "total".toList) 1
  return status

/-! ## Other characters -/

def inClass (name : String) (n : Nat) : Option Bool :=
  let between := fun (low high : Nat) => low ≤ n && n ≤ high
  let upper := between 65 90
  let lower := between 97 122
  let digit := between 48 57
  let graph := between 33 126
  match name with
  | "alnum" => some (upper || lower || digit)
  | "alpha" => some (upper || lower)
  | "blank" => some (n = 32 || n = 9)
  | "cntrl" => some (n < 32 || n = 127)
  | "digit" => some digit
  | "graph" => some graph
  | "lower" => some lower
  | "print" => some (between 32 126)
  | "punct" => some (graph && !upper && !lower && !digit)
  | "space" => some (n = 32 || between 9 13)
  | "upper" => some upper
  | "xdigit" => some (digit || between 65 70 || between 97 102)
  | _ => none

inductive SetPart where
  | char (c : Char)
  | range (low high : Char)
  | kind (name : String)
  /-- A character several times; zero means as often as needed. -/
  | repeated (c : Char) (times : Nat)

def setChar : Octets → Option (Char × Bool × Octets)
  | [] => none
  | '\\' :: c :: rest =>
    let digits := (c :: rest).takeWhile (fun c => '0' ≤ c && c ≤ '7') |>.take 3
    if !digits.isEmpty then
      let n := digits.foldl (fun n c => 8 * n + (c.toNat - '0'.toNat)) 0
      let used := if n < 256 then digits else digits.take 2
      let n := used.foldl (fun n c => 8 * n + (c.toNat - '0'.toNat)) 0
      some (Char.ofNat n, true, (c :: rest).drop used.length)
    else
      let plain := match c with
        | 'a' => Char.ofNat 7
        | 'b' => Char.ofNat 8
        | 'f' => Char.ofNat 12
        | 'n' => '\n'
        | 'r' => '\r'
        | 't' => '\t'
        | 'v' => Char.ofNat 11
        | c => c
      some (plain, true, rest)
  | c :: rest => some (c, false, rest)

def untilPair (a b : Char) : Octets → Option (Octets × Octets)
  | c :: d :: rest =>
    if c == a && d == b then some ([], rest)
    else (untilPair a b (d :: rest)).map fun (front, back) => (c :: front, back)
  | _ => none

def repeatCount? (digits : Octets) : Option Nat :=
  match digits with
  | [] => some 0
  | '0' :: more =>
    if more.all fun c => '0' ≤ c && c ≤ '7' then
      some (more.foldl (fun n c => 8 * n + (c.toNat - '0'.toNat)) 0)
    else none
  | digits => decimal? digits

def readSet : Nat → Octets → Except Octets (List SetPart)
  | 0, _ => .ok []
  | fuel + 1, text =>
    let continuing := fun (part : SetPart) (rest : Octets) => do
      return part :: (← readSet fuel rest)
    let single := fun (_ : Unit) =>
      match setChar text with
      | none => .ok []
      | some (low, _, rest) =>
        match rest with
        | '-' :: more =>
          match setChar more with
          | some (high, _, after) =>
            if high.toNat < low.toNat then
              .error ("range-endpoints of '".toList ++ [low, '-', high] ++
                "' are in reverse collating sequence order".toList)
            else continuing (.range low high) after
          | none => continuing (.char low) rest
        | _ => continuing (.char low) rest
    match text with
    | '[' :: ':' :: more =>
      match untilPair ':' ']' more with
      | some (name, rest) =>
        if (inClass (String.ofList name) 0).isSome then continuing (.kind (String.ofList name)) rest
        else .error ("invalid character class ".toList ++ quoteName name)
      | none => single ()
    | '[' :: '=' :: more =>
      match untilPair '=' ']' more with
      | some ([c], rest) => continuing (.char c) rest
      | some (name, _) =>
        .error (name ++ ": equivalence class operand must be a single character".toList)
      | none => single ()
    | '[' :: more =>
      match setChar more with
      | some (c, _, '*' :: after) =>
        let digits := after.takeWhile (· != ']')
        match after.drop digits.length, repeatCount? digits with
        | _ :: rest, some times => continuing (.repeated c times) rest
        | _, _ => single ()
      | _ => single ()
    | _ => single ()

def SetPart.chars : SetPart → List Char
  | .char c => [c]
  | .range low high =>
    (List.range (high.toNat + 1 - low.toNat)).map fun n => Char.ofNat (low.toNat + n)
  | .kind name => ((List.range 256).filter fun n => inClass name n = some true).map Char.ofNat
  | .repeated c times => List.replicate times c

/-- The bytes of the second set, as many as the first one has: a part that is repeated as often as
needed fills it up, or else the last byte does. -/
def fillSet (size : Nat) (truncates : Bool) (parts : List SetPart) : List Char :=
  let fixed := (parts.flatMap SetPart.chars).length
  let filled := parts.flatMap fun part => match part with
    | .repeated c 0 => List.replicate (size - fixed) c
    | part => part.chars
  if truncates then filled
  else filled ++ List.replicate (size - filled.length) (filled.getLast?.getD ' ')

/-- The pairs of a letter and what becomes of it, where both sets speak of cases. -/
def casePairs : List SetPart → List SetPart → List (Char × Char)
  | .kind "lower" :: _, .kind "upper" :: _ =>
    (List.range 26).map fun n => (Char.ofNat (97 + n), Char.ofNat (65 + n))
  | .kind "upper" :: _, .kind "lower" :: _ =>
    (List.range 26).map fun n => (Char.ofNat (65 + n), Char.ofNat (97 + n))
  | a :: more, b :: rest => if a.chars.length = b.chars.length then casePairs more rest else []
  | _, _ => []

structure Replacement where
  deleted : List Char
  map : List (Char × Char)
  squeezed : List Char

def byteTable {α : Type} (f : Char → α) : Array α :=
  ((List.range 256).map fun n => f (Char.ofNat n)).toArray

def replaceBytes (i : Invocation) (r : Replacement) : Act Nat := do
  let deleted := byteTable fun c => r.deleted.contains c
  let mapped := byteTable fun c => ((r.map.reverse.find? (·.1 = c)).map (·.2)).getD c
  let squeezed := byteTable fun c => r.squeezed.contains c
  let (_, fault) ← Act.eachBlock 0 (fun (last : Option Char) text => do
    let (out, last) := text.foldl (fun (acc : List Char × Option Char) c =>
      if deleted.getD c.toNat false then acc
      else
        let c := mapped.getD c.toNat c
        if squeezed.getD c.toNat false && acc.2 == some c then acc
        else (c :: acc.1, some c)) ([], last)
    i.write out.reverse 1
    return (last, true)) Act.often none
  match fault with
  | some fault => i.abandon ("read error: ".toList ++ fault.message.toList) 1
  | none => return 0

def tr : Utility := fun i => do
  let s ← i.select ⟨"cCdst", "", "",
    [("complement", 'c'), ("delete", 'd'), ("squeeze-repeats", 's'), ("truncate-set1", 't')],
    false⟩ 1
  let deletes := s.has 'd'
  let squeezes := s.has 's'
  let complements := s.has 'c' || s.has 'C'
  let read := fun (text : Octets) => do
    match readSet (text.length + 1) text with
    | .ok parts => pure parts
    | .error message => i.abandon message 1
  let note := fun (message detail : Octets) => do
    i.complain message
    Act.writeError (detail ++ ['\n'])
    i.pointToHelp
    Act.finish 1
  let needsTwo := deletes == squeezes
  match s.operands with
  | [] => i.misused "missing operand".toList 1
  | _ :: _ :: extra :: _ => i.misused ("extra operand ".toList ++ quoteName extra) 1
  | [first] =>
    if needsTwo then
      note ("missing operand after ".toList ++ quoteName first) (if deletes
        then "Two strings must be given when both deleting and squeezing repeats.".toList
        else "Two strings must be given when translating.".toList)
    else
      let chars := (← read first).flatMap SetPart.chars
      let set := if complements then
        ((List.range 256).map Char.ofNat).filter fun c => !chars.contains c else chars
      if deletes then replaceBytes i ⟨set, [], []⟩ else replaceBytes i ⟨[], [], set⟩
  | [first, second] =>
    if deletes && !squeezes then
      note ("extra operand ".toList ++ quoteName second)
        "Only one string may be given when deleting without squeezing repeats.".toList
    else
      let parts ← read first
      let others ← read second
      let chars := parts.flatMap SetPart.chars
      let set := if complements then
        ((List.range 256).map Char.ofNat).filter fun c => !chars.contains c else chars
      if deletes then replaceBytes i ⟨set, [], others.flatMap SetPart.chars⟩
      else if others.isEmpty && !s.has 't' then
        i.abandon "when not truncating set1, string2 must be non-empty".toList 1
      else if others.any (fun part => match part with
          | .kind name => name ≠ "upper" && name ≠ "lower"
          | _ => false) then
        i.abandon ("when translating, the only character classes that may appear in\n".toList ++
          "string2 are 'upper' and 'lower'".toList) 1
      else
        let filled := fillSet set.length (s.has 't') others
        let pairs := set.zip filled ++ casePairs parts others
        replaceBytes i ⟨[], pairs, if squeezes then filled else []⟩

/-! ## Without end -/

def repeatText (i : Invocation) (text : Octets) : Nat → Act Nat
  | 0 => return 0
  | fuel + 1 => do
    i.write text 1
    repeatText i text fuel

def yes : Utility := fun i => do
  let s ← i.select ⟨"", "", "", [], true⟩ 1
  let words := if s.operands.isEmpty then [['y']] else s.operands
  let line := [' '].intercalate words ++ ['\n']
  repeatText i ((List.replicate (4096 / line.length + 1) line).flatten) Act.often

end LoadScript.Utility
