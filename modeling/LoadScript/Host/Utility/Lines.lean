import LoadScript.Host.Utility.Streams

set_option autoImplicit false

namespace LoadScript.Utility

def readLines (operand : Octets) : Act (Except FileFault (List Act.Line)) := do
  match ← Act.openOperand operand with
  | .error fault => return .error fault
  | .ok descriptor => do
    let content ← Act.readAll descriptor
    Act.closeOperand descriptor
    return content.map Act.linesOf

def changeLines (i : Invocation) (operands : List Octets) (f : Act.Line → Octets) : Act Nat :=
  forOperands operands fun operand => do
    match ← Act.openOperand operand with
    | .error fault => do
      i.complainOf operand fault
      return false
    | .ok descriptor => do
      let (_, fault) ← Act.eachLine descriptor (fun () l => do
        i.write (f l) 1
        return ((), true)) Act.often [] ()
      Act.closeOperand descriptor
      match fault with
      | some fault => do
        i.complainOf operand fault
        return false
      | none => return true

/-! ## Order -/

def compareBytes : Octets → Octets → Ordering
  | [], [] => .eq
  | [], _ => .lt
  | _, [] => .gt
  | a :: as, b :: bs => if a == b then compareBytes as bs else compare a.toNat b.toNat

structure LeadingNumber where
  negative : Bool
  whole : Octets
  decimals : Octets

def leadingNumber (s : Octets) : LeadingNumber :=
  let s := s.dropWhile fun c => c == ' ' || c == '\t'
  let (negative, s) := match s with
    | '-' :: rest => (true, rest)
    | s => (false, s)
  let whole := s.takeWhile Char.isDigit
  let decimals := match s.drop whole.length with
    | '.' :: rest => rest.takeWhile Char.isDigit
    | _ => []
  ⟨negative, whole, decimals⟩

def LeadingNumber.scaled (n : LeadingNumber) (places : Nat) : Int :=
  let digits := n.whole ++ n.decimals ++ List.replicate (places - n.decimals.length) '0'
  let magnitude := Int.ofNat ((decimal? digits).getD 0)
  if n.negative then -magnitude else magnitude

def compareNumbers (a b : Octets) : Ordering :=
  let x := leadingNumber a
  let y := leadingNumber b
  let places := Nat.max x.decimals.length y.decimals.length
  compare (x.scaled places) (y.scaled places)

def unitRank (s : Octets) : Nat :=
  let n := leadingNumber s
  let rest := (s.dropWhile fun c => c == ' ' || c == '\t' || c == '-').drop
    (n.whole.length + if n.decimals.isEmpty then 0 else n.decimals.length + 1)
  match rest with
  | c :: _ =>
    match "KMGTPEZY".toList.idxOf? c.toUpper with
    | some k => k + 1
    | none => 0
  | [] => 0

def compareSizes (a b : Octets) : Ordering :=
  let sign := fun (s : Octets) =>
    let n := leadingNumber s
    let isZero := (n.whole ++ n.decimals).all (· == '0')
    if isZero then (0 : Int) else if n.negative then -1 else 1
  let x := sign a * Int.ofNat (unitRank a + 1)
  let y := sign b * Int.ofNat (unitRank b + 1)
  if x = y then compareNumbers a b else compare x y

/-- Compares texts in which runs of digits count as numbers. -/
def compareVersions : Nat → Octets → Octets → Ordering
  | 0, a, b => compareBytes a b
  | fuel + 1, a, b =>
    let textA := a.takeWhile (!·.isDigit)
    let textB := b.takeWhile (!·.isDigit)
    match compareBytes textA textB with
    | .eq =>
      let restA := a.drop textA.length
      let restB := b.drop textB.length
      let digitsA := restA.takeWhile Char.isDigit
      let digitsB := restB.takeWhile Char.isDigit
      match compare ((decimal? digitsA).getD 0) ((decimal? digitsB).getD 0) with
      | .eq =>
        if digitsA.isEmpty && digitsB.isEmpty then .eq
        else compareVersions fuel (restA.drop digitsA.length) (restB.drop digitsB.length)
      | o => o
    | o => o

structure KeyOrder where
  options : List Char

def KeyOrder.has (o : KeyOrder) (c : Char) : Bool := o.options.contains c

def KeyOrder.relevant (o : KeyOrder) (s : Octets) : Octets :=
  let s := if o.has 'd' then
    s.filter fun c => c.isAlphanum || c == ' ' || c == '\t' else s
  let s := if o.has 'i' then s.filter isPrintable else s
  if o.has 'f' then s.map Char.toUpper else s

def KeyOrder.compare (o : KeyOrder) (a b : Octets) : Ordering :=
  let order :=
    if o.has 'n' || o.has 'g' then compareNumbers a b
    else if o.has 'h' then compareSizes a b
    else if o.has 'V' then compareVersions (a.length + b.length + 1) a b
    else compareBytes (o.relevant a) (o.relevant b)
  if o.has 'r' then order.swap else order

structure SortKey where
  startField : Nat
  startByte : Nat
  startBlanks : Bool
  finish : Option (Nat × Nat)
  finishBlanks : Bool
  order : KeyOrder

def readPlace (s : Octets) : Option (Nat × Option Nat × Octets × Octets) :=
  let digits := s.takeWhile Char.isDigit
  let rest := s.drop digits.length
  match decimal? digits with
  | none => none
  | some field =>
    let (byte, rest) := match rest with
      | '.' :: more =>
        let digits := more.takeWhile Char.isDigit
        (decimal? digits, more.drop digits.length)
      | rest => (none, rest)
    let options := rest.takeWhile Char.isAlpha
    some (field, byte, options, rest.drop options.length)

def readKey (s : Octets) : Except Octets SortKey :=
  let wrong := fun (reason : String) =>
    .error (reason.toList ++ ": invalid field specification ".toList ++ quoteName s)
  match readPlace s with
  | none =>
    .error ("invalid number at field start: invalid count at start of ".toList ++ quoteName s)
  | some (field, byte, options, rest) =>
    if field = 0 then wrong "field number is zero"
    else if byte = some 0 then wrong "character offset is zero"
    else
      let key : SortKey :=
        ⟨field, byte.getD 1, options.contains 'b', none, false, ⟨options.filter (· ≠ 'b')⟩⟩
      match rest with
      | [] => .ok key
      | ',' :: more =>
        match readPlace more with
        | some (field, byte, others, []) =>
          if field = 0 then wrong "field number is zero"
          else .ok { key with
            finish := some (field, byte.getD 0)
            finishBlanks := others.contains 'b'
            order := ⟨key.order.options ++ others.filter (· ≠ 'b')⟩ }
        | _ => .error ("invalid number after ',': invalid count at start of ".toList ++
            quoteName more)
      | _ => wrong "stray character in field spec"

def isTabOrBlank (c : Char) : Bool := c == ' ' || c == '\t' || c == '\n'

/-- What follows the first fields of a text. Without a separator, a field has the blanks in front of
it. -/
def dropFields (separator : Option Char) : Nat → Octets → Octets
  | 0, s => s
  | n + 1, s =>
    match separator with
    | some c => dropFields separator n ((s.dropWhile (· != c)).drop 1)
    | none => dropFields separator n ((s.dropWhile isTabOrBlank).dropWhile (!isTabOrBlank ·))

def fieldsLength (separator : Option Char) (n : Nat) (s : Octets) : Nat :=
  match separator with
  | some c =>
    let before := s.length - (dropFields separator (n - 1) s).length
    before + ((s.drop before).takeWhile (· != c)).length
  | none => s.length - (dropFields none n s).length

def SortKey.part (k : SortKey) (separator : Option Char) (line : Octets) : Octets :=
  let fromField := dropFields separator (k.startField - 1) line
  let trimmed := if k.startBlanks then fromField.dropWhile isTabOrBlank else fromField
  let start := line.length - trimmed.length + (k.startByte - 1)
  match k.finish with
  | none => line.drop start
  | some (field, byte) =>
    let stop :=
      if byte = 0 then fieldsLength separator field line
      else
        let rest := dropFields separator (field - 1) line
        let rest := if k.finishBlanks then rest.dropWhile isTabOrBlank else rest
        line.length - rest.length + byte
    (line.take stop).drop start

structure SortOrder where
  separator : Option Char
  keys : List SortKey
  whole : KeyOrder
  stable : Bool

def SortOrder.compareKeys (o : SortOrder) (a b : Octets) : Ordering :=
  if o.keys.isEmpty then
    let trim := fun (s : Octets) => if o.whole.has 'b' then s.dropWhile isTabOrBlank else s
    o.whole.compare (trim a) (trim b)
  else
    o.keys.foldl (fun order k =>
      match order with
      | .eq =>
        let order := if k.order.options.isEmpty && !k.startBlanks then o.whole else k.order
        KeyOrder.compare order (k.part o.separator a) (k.part o.separator b)
      | order => order) .eq

/-- Compares lines; those with equal keys are compared as a whole. -/
def SortOrder.compare (o : SortOrder) (a b : Octets) : Ordering :=
  match o.compareKeys a b with
  | .eq =>
    if o.stable then .eq
    else if o.whole.has 'r' then (compareBytes a b).swap else compareBytes a b
  | order => order

/-- Drops lines whose keys equal those of the line before. -/
def dropEqual (o : SortOrder) : List Octets → List Octets
  | a :: b :: rest =>
    if o.compareKeys a b = .eq then dropEqual o (a :: rest) else a :: dropEqual o (b :: rest)
  | lines => lines
termination_by lines => lines.length

def disorder? (o : SortOrder) (unique : Bool) : Nat → List Octets → Option (Nat × Octets)
  | n, a :: b :: rest =>
    let order := if unique then o.compareKeys a b else o.compare a b
    if order = .gt || (unique && order = .eq) then some (n + 1, b)
    else disorder? o unique (n + 1) (b :: rest)
  | _, _ => none

def sort : Utility := fun i => do
  let s ← i.select ⟨"bcCdfghimMnRrsuVz", "koStT", "",
    [("numeric-sort", 'n'), ("reverse", 'r'), ("unique", 'u'), ("key", 'k'),
      ("field-separator", 't'), ("output", 'o'), ("check", 'c'), ("ignore-case", 'f'),
      ("stable", 's'), ("version-sort", 'V'), ("human-numeric-sort", 'h'), ("merge", 'm'),
      ("ignore-leading-blanks", 'b'), ("dictionary-order", 'd')], true⟩ 2
  let separator ← match s.value? 't' with
    | none => pure none
    | some [] => i.abandon "empty tab".toList 2
    | some [c] => pure (some c)
    | some ['\\', '0'] => pure (some (Char.ofNat 0))
    | some text => i.abandon ("multi-character tab ".toList ++ quoteName text) 2
  let keys ← (s.values 'k').mapM fun text => do
    match readKey text with
    | .ok key => pure key
    | .error message => i.abandon message 2
  let letters := s.options.filterMap fun o =>
    if "bdfghinrV".toList.contains o.1 then some o.1 else none
  let order : SortOrder := ⟨separator, keys, ⟨letters⟩, s.has 's' || s.has 'u'⟩
  let operands := inputs s
  let mut lines : List Octets := []
  for operand in operands do
    match ← readLines operand with
    | .ok found => lines := lines ++ found.map (·.text)
    | .error .isDirectory => i.abandon ("read failed: ".toList ++ showName operand ++ ": ".toList ++
        FileFault.isDirectory.message.toList) 2
    | .error fault => i.abandon ("cannot read: ".toList ++ showName operand ++ ": ".toList ++
        fault.message.toList) 2
  if s.has 'c' || s.has 'C' then
    match disorder? order (s.has 'u') 1 lines with
    | none => return 0
    | some (n, line) => do
      if s.has 'c' then
        i.complain (operands.headD [] ++ ":".toList ++ Octets.ofNat n ++ ": disorder: ".toList ++
          line)
      return 1
  else
    let sorted := lines.mergeSort fun a b => order.compare a b ≠ .gt
    let kept := if s.has 'u' then dropEqual order sorted else sorted
    let text := kept.flatMap (· ++ ['\n'])
    match s.value? 'o' with
    | some path => do
      match ← Act.call (.openFile (textOf path) .writing) with
      | .ok descriptor => do
        let _ ← Act.call (.write descriptor text)
        return 0
      | .error fault =>
        i.abandon ("open failed: ".toList ++ showName path ++ ": ".toList ++ fault.message.toList) 2
    | none => do
      i.write text 2
      return 0

/-! ## Repeated lines -/

def runs (same : Octets → Octets → Bool) : List Octets → List (List Octets)
  | [] => []
  | line :: rest =>
    match runs same rest with
    | (next :: more) :: others =>
      if same line next then (line :: next :: more) :: others
      else [line] :: (next :: more) :: others
    | others => [line] :: others

def skipFields : Nat → Octets → Octets
  | 0, s => s
  | n + 1, s =>
    skipFields n ((s.dropWhile fun c => c == ' ' || c == '\t').dropWhile fun c =>
      c != ' ' && c != '\t')

def uniq : Utility := fun i => do
  let s ← i.select ⟨"cdDiuz", "fsw", "",
    [("count", 'c'), ("repeated", 'd'), ("unique", 'u'), ("ignore-case", 'i'),
      ("skip-fields", 'f'), ("skip-chars", 's'), ("check-chars", 'w')], true⟩ 1
  let number := fun (c : Char) => (s.value? c).bind decimal?
  let key := fun (line : Octets) =>
    let part := (skipFields ((number 'f').getD 0) line).drop ((number 's').getD 0)
    let part := (number 'w').elim part part.take
    if s.has 'i' then part.map Char.toLower else part
  match s.operands with
  | _ :: _ :: extra :: _ => i.misused ("extra operand ".toList ++ quoteName extra) 1
  | operands => do
    let input := operands.headD ['-']
    match ← readLines input with
    | .error .isDirectory =>
      i.abandon ("error reading ".toList ++ quoteName input ++ ": ".toList ++
        FileFault.isDirectory.message.toList) 1
    | .error fault => i.abandon (showName input ++ ": ".toList ++ fault.message.toList) 1
    | .ok lines => do
      let groups := runs (fun a b => key a = key b) (lines.map (·.text))
      let text := groups.flatMap fun group =>
        let isRepeated := 1 < group.length
        let first := group.headD []
        if s.has 'D' then (if isRepeated then group.flatMap (· ++ ['\n']) else [])
        else if (s.has 'd' && !isRepeated) || (s.has 'u' && isRepeated) then []
        else
          let count := if s.has 'c' then padLeft 7 (Octets.ofNat group.length) ++ [' '] else []
          count ++ first ++ ['\n']
      match operands with
      | [_, path] => do
        match ← Act.call (.openFile (textOf path) .writing) with
        | .ok descriptor => do
          let _ ← Act.call (.write descriptor text)
          return 0
        | .error fault => i.abandon (showName path ++ ": ".toList ++ fault.message.toList) 1
      | _ => do
        i.write text 1
        return 0

/-! ## Parts of lines -/

/-- Ranges of numbers; without an end, a range goes on for ever. -/
abbrev Ranges := List (Nat × Option Nat)

def Ranges.holds (rs : Ranges) (n : Nat) : Bool :=
  rs.any fun r => r.1 ≤ n && r.2.all (n ≤ ·)

def readRanges (fields : Bool) (text : Octets) : Except Octets Ranges :=
  let parts := ((String.ofList text).split fun c => c == ',' || c == ' ').toList.map
    fun p => p.toString.toList
  let zero := if fields then "fields are numbered from 1"
    else "byte/character positions are numbered from 1"
  let noun := if fields then "field" else "byte or character"
  parts.mapM fun part =>
    let low := part.takeWhile Char.isDigit
    match part.drop low.length with
    | [] =>
      match decimal? low with
      | some 0 => .error zero.toList
      | some n => .ok (n, some n)
      | none => .error zero.toList
    | '-' :: high =>
      match decimal? low, decimal? high with
      | some 0, _ | _, some 0 => .error zero.toList
      | none, none =>
        if low.isEmpty && high.isEmpty then .error "invalid range with no endpoint: -".toList
        else if high.isEmpty then .error zero.toList
        else .error ("invalid ".toList ++ noun.toList ++ " value ".toList ++ quoteName part)
      | some n, none =>
        if high.isEmpty then .ok (n, none)
        else .error ("invalid ".toList ++ noun.toList ++ " range".toList)
      | none, some n => .ok (1, some n)
      | some a, some b =>
        if b < a then .error "invalid decreasing range".toList else .ok (a, some b)
    | rest =>
      let wrong := if low.isEmpty then part else rest
      .error ("invalid ".toList ++ noun.toList ++ " value ".toList ++ quoteName wrong)

def splitOnByte (separator : Char) (text : Octets) : List Octets :=
  text.foldr (fun c (acc : List Octets) =>
    if c == separator then [] :: acc
    else match acc with
      | first :: rest => (c :: first) :: rest
      | [] => [[c]]) [[]]

def cut : Utility := fun i => do
  let s ← i.select ⟨"nszC", "bcdfO", "",
    [("bytes", 'b'), ("characters", 'c'), ("fields", 'f'), ("delimiter", 'd'),
      ("only-delimited", 's'), ("output-delimiter", 'O'), ("complement", 'C')], true⟩ 1
  match s.options.filter fun o => "bcf".toList.contains o.1 with
  | [] => i.misused "you must specify a list of bytes, characters, or fields".toList 1
  | _ :: _ :: _ => i.misused "only one list may be specified".toList 1
  | [(kind, text)] => do
    let byFields := kind = 'f'
    let separator ← match s.value? 'd' with
      | none => pure '\t'
      | some [c] => pure c
      | some [] => pure (Char.ofNat 0)
      | some _ => i.misused "the delimiter must be a single character".toList 1
    if s.has 'd' && !byFields then
      i.misused "an input delimiter may be specified only when operating on fields".toList 1
    else
      let ranges ← match readRanges byFields text with
        | .ok ranges => pure ranges
        | .error message => i.misused message 1
      let wanted := fun (n : Nat) => ranges.holds n != s.has 'C'
      let join := (s.value? 'O').getD [separator]
      changeLines i (inputs s) fun l =>
        if byFields then
          if !l.text.contains separator then (if s.has 's' then [] else l.text ++ ['\n'])
          else
            let fields := ((splitOnByte separator l.text).zipIdx 1).filterMap fun (field, n) =>
              if wanted n then some field else none
            join.intercalate fields ++ ['\n']
        else
          let chosen := (l.text.zipIdx 1).filter fun (_, n) => wanted n
          if s.has 'O' then
            let starts := ranges.map (·.1)
            let text := chosen.zipIdx.flatMap fun ((c, n), k) =>
              if 0 < k && starts.contains n then join ++ [c] else [c]
            text ++ ['\n']
          else chosen.map (·.1) ++ ['\n']

def pasteDelimiters : Octets → List Octets
  | '\\' :: '0' :: rest => [] :: pasteDelimiters rest
  | '\\' :: 'n' :: rest => ['\n'] :: pasteDelimiters rest
  | '\\' :: 't' :: rest => ['\t'] :: pasteDelimiters rest
  | '\\' :: c :: rest => [c] :: pasteDelimiters rest
  | c :: rest => [c] :: pasteDelimiters rest
  | [] => []

/-- Texts joined by delimiters that take turns. -/
def joinInTurn (delimiters : List Octets) : Nat → List Octets → Octets
  | _, [] => []
  | _, [last] => last
  | n, text :: rest =>
    text ++ (delimiters.getD (n % Nat.max 1 delimiters.length) []) ++
      joinInTurn delimiters (n + 1) rest

/-- The lines of columns side by side. A column that is read from an input that others share takes
turns with them. -/
def rowsOf (columns : List (List Octets)) : Nat → Nat → List (List Octets)
  | 0, _ => []
  | fuel + 1, n =>
    let row := columns.map fun column => column[n]?
    if row.all (·.isNone) then [] else row.map (·.getD []) :: rowsOf columns fuel (n + 1)

def paste : Utility := fun i => do
  let s ← i.select ⟨"sz", "d", "", [("serial", 's'), ("delimiters", 'd')], true⟩ 1
  let operands := inputs s
  let delimiters := match s.value? 'd' with
    | none => [['\t']]
    | some [] => [[]]
    | some text => pasteDelimiters text
  let dashes := (operands.filter (· = ['-'])).length
  let input ← if 0 < dashes then Act.readAll 0 else pure (.ok [])
  let inputLines := (Act.linesOf (input.toOption.getD [])).map (·.text)
  let mut columns : List (List Octets) := []
  let mut seen := 0
  for operand in operands do
    if operand = ['-'] then
      let turn := seen
      let mine := (inputLines.zipIdx).filterMap fun (line, n) =>
        if n % dashes = turn then some line else none
      columns := columns ++ [if s.has 's' then (if turn = 0 then inputLines else []) else mine]
      seen := seen + 1
    else
      match ← readLines operand with
      | .ok lines => columns := columns ++ [lines.map (·.text)]
      | .error fault => i.abandon (showName operand ++ ": ".toList ++ fault.message.toList) 1
  if s.has 's' then
    i.write (columns.flatMap fun column => joinInTurn delimiters 0 column ++ ['\n']) 1
  else
    let height := columns.foldl (fun n column => Nat.max n column.length) 0
    i.write ((rowsOf columns (height + 1) 0).flatMap fun row =>
      joinInTurn delimiters 0 row ++ ['\n']) 1
  return 0

/-- A line in pieces of a width; with `words`, it is cut behind a blank where there is one. The
piece in the making is held in reverse. -/
def foldLine (width : Nat) (words bytes : Bool) : Nat → (column : Nat) → Octets → Octets → Octets
  | 0, _, piece, _ => piece.reverse
  | _, _, piece, [] => piece.reverse
  | fuel + 1, column, piece, c :: rest =>
    let after := if bytes then column + 1
      else if c == '\t' then column + (8 - column % 8)
      else if c.toNat = 8 then column - 1
      else if c == '\r' then 0
      else column + 1
    if width < after && !piece.isEmpty then
      let tail := piece.takeWhile fun c => c != ' ' && c != '\t'
      if words && tail.length < piece.length then
        (piece.drop tail.length).reverse ++ '\n' ::
          foldLine width words bytes fuel tail.length tail (c :: rest)
      else piece.reverse ++ '\n' :: foldLine width words bytes fuel 0 [] (c :: rest)
    else foldLine width words bytes fuel after (c :: piece) rest

def fold : Utility := fun i => do
  let arguments := match i.arguments with
    | ('-' :: c :: digits) :: rest =>
      if c.isDigit then "-w".toList :: (c :: digits) :: rest else i.arguments
    | words => words
  let s ← { i with arguments }.select ⟨"bcs", "w", "",
    [("width", 'w'), ("spaces", 's'), ("bytes", 'b')], true⟩ 1
  let width ← match s.value? 'w' with
    | none => pure 80
    | some text =>
      match decimal? text with
      | some 0 => i.abandon ("invalid number of columns: ".toList ++ quoteName text ++
          ": Numerical result out of range".toList) 1
      | some n => pure n
      | none => i.abandon ("invalid number of columns: ".toList ++ quoteName text) 1
  changeLines i (inputs s) fun l =>
    foldLine width (s.has 's') (s.has 'b') (2 * l.text.length + 2) 0 [] l.text ++
      if l.ended then ['\n'] else []

/-! ## Numbers and turns -/

def nl : Utility := fun i => do
  let s ← i.select ⟨"p", "bdfhilnsvw", "",
    [("body-numbering", 'b'), ("number-width", 'w'), ("number-separator", 's'),
      ("starting-line-number", 'v'), ("line-increment", 'i'), ("number-format", 'n')], true⟩ 1
  let number := fun (c : Char) (usual : Nat) => ((s.value? c).bind decimal?).getD usual
  let width := number 'w' 6
  let separator := (s.value? 's').getD ['\t']
  let style := (s.value? 'b').getD ['t']
  let shown := fun (n : Nat) =>
    let digits := Octets.ofNat n
    match s.value? 'n' with
    | some ['l', 'n'] => digits ++ List.replicate (width - digits.length) ' '
    | some ['r', 'z'] => List.replicate (width - digits.length) '0' ++ digits
    | _ => padLeft width digits
  let mut next := number 'v' 1
  let mut status := 0
  for operand in inputs s do
    match ← readLines operand with
    | .error fault => do
      i.complainOf operand fault
      status := 1
    | .ok lines =>
      for l in lines do
        let counts := style = ['a'] || (style = ['t'] && !l.text.isEmpty)
        if counts then
          i.write (shown next ++ separator ++ l.text ++ ['\n']) 1
          next := next + number 'i' 1
        else i.write (List.replicate (width + separator.length) ' ' ++ l.text ++ ['\n']) 1
  return status

def rev : Utility := fun i => do
  let s ← i.select ⟨"", "", "", [], true⟩ 1
  forOperands (inputs s) fun operand => do
    match ← readLines operand with
    | .error fault => do
      i.complain ("cannot open ".toList ++ operand ++ ": ".toList ++ fault.message.toList)
      return false
    | .ok lines => do
      i.write (lines.flatMap fun l => l.text.reverse ++ if l.ended then ['\n'] else []) 1
      return true

/-- A text in parts that end with a separator. -/
def partsEndingWith (separator : Octets) : Nat → Octets → Octets → List Octets
  | 0, part, rest => [part.reverse ++ rest]
  | _, part, [] => if part.isEmpty then [] else [part.reverse]
  | fuel + 1, part, c :: rest =>
    if !separator.isEmpty && separator.isPrefixOf (c :: rest) then
      (part.reverse ++ separator) ::
        partsEndingWith separator fuel [] ((c :: rest).drop separator.length)
    else partsEndingWith separator fuel (c :: part) rest

def tac : Utility := fun i => do
  let s ← i.select ⟨"br", "s", "", [("separator", 's'), ("before", 'b'), ("regex", 'r')], true⟩ 1
  let separator := (s.value? 's').getD ['\n']
  forOperands (inputs s) fun operand => do
    match ← Act.openOperand operand with
    | .error fault => do
      i.complain ("failed to open ".toList ++ quoteName operand ++ " for reading: ".toList ++
        fault.message.toList)
      return false
    | .ok descriptor => do
      match ← Act.readAll descriptor with
      | .error fault => do
        i.complain (showName operand ++ ": read error: ".toList ++ fault.message.toList)
        return false
      | .ok text => do
        i.write (partsEndingWith separator (text.length + 1) [] text).reverse.flatten 1
        return true

/-! ## Two inputs -/

/-- The lines of two sorted inputs with the column of each: in the first only, the second only, or
in both. -/
def compareLines : Nat → List Octets → List Octets → List (Nat × Octets)
  | 0, _, _ => []
  | _, [], bs => bs.map (1, ·)
  | _, as, [] => as.map (0, ·)
  | fuel + 1, a :: as, b :: bs =>
    match compareBytes a b with
    | .lt => (0, a) :: compareLines fuel as (b :: bs)
    | .gt => (1, b) :: compareLines fuel (a :: as) bs
    | .eq => (2, a) :: compareLines fuel as bs

def comm : Utility := fun i => do
  let s ← i.select ⟨"123z", "", "", [], true⟩ 1
  match s.operands with
  | [] => i.misused "missing operand".toList 1
  | [path] => i.misused ("missing operand after ".toList ++ quoteName path) 1
  | _ :: _ :: extra :: _ => i.misused ("extra operand ".toList ++ quoteName extra) 1
  | [first, second] => do
    let read := fun (path : Octets) => do
      match ← readLines path with
      | .ok lines => pure (lines.map (·.text))
      | .error fault => i.abandon (showName path ++ ": ".toList ++ fault.message.toList) 1
    let as ← read first
    let bs ← read second
    let hidden := fun (column : Nat) => s.has (Char.ofNat ('1'.toNat + column))
    let tabs := fun (column : Nat) =>
      ((List.range column).filter fun c => !hidden c).map fun _ => '\t'
    i.write ((compareLines (as.length + bs.length + 1) as bs).flatMap fun (column, line) =>
      if hidden column then [] else tabs column ++ line ++ ['\n']) 1
    return 0

end LoadScript.Utility
