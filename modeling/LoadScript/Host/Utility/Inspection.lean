import LoadScript.Host.Utility.Lines
import LoadScript.Host.Utility.Processes

set_option autoImplicit false

namespace LoadScript.Utility

/-! ## Bytes -/

structure Shape where
  kind : Char
  size : Nat
  shows : Bool

namespace Shape

def width (s : Shape) : Nat :=
  let wide := fun (one two four eight : Nat) =>
    match s.size with
    | 1 => one
    | 2 => two
    | 4 => four
    | _ => eight
  match s.kind with
  | 'o' => wide 3 6 11 22
  | 'x' => wide 2 4 8 16
  | 'd' => wide 4 6 11 20
  | 'u' => wide 3 5 10 20
  | _ => 3

def value (bytes : List Nat) : Nat := bytes.foldr (fun b n => 256 * n + b) 0

def controlNames : List String :=
  ["nul", "soh", "stx", "etx", "eot", "enq", "ack", "bel", "bs", "ht", "nl", "vt", "ff", "cr", "so",
    "si", "dle", "dc1", "dc2", "dc3", "dc4", "nak", "syn", "etb", "can", "em", "sub", "esc", "fs",
    "gs", "rs", "us", "sp"]

def characterText (n : Nat) : Octets :=
  match n with
  | 0 => "\\0".toList
  | 92 => ['\\']
  | n =>
    let c := Char.ofNat n
    if isPrintable c then [c]
    else
      match escapedByte c with
      | ['\\', d] => ['\\', d]
      | escaped => escaped.drop 1

def digits (base count n : Nat) : Octets :=
  let ds := Nat.toDigits base n
  List.replicate (count - ds.length) '0' ++ ds

def field (s : Shape) (bytes : List Nat) : Octets :=
  let n := value bytes
  match s.kind with
  | 'o' => digits 8 s.width n
  | 'x' => digits 16 s.width n
  | 'u' => Octets.ofNat n
  | 'd' =>
    let count := Nat.pow 256 s.size
    if 2 * n < count then Octets.ofNat n else '-' :: Octets.ofNat (count - n)
  | 'c' => characterText n
  | _ =>
    let n := n % 128
    if n = 127 then "del".toList
    else
      match controlNames[n]? with
      | some name => name.toList
      | none => [Char.ofNat n]

def sizeOf? (c : Char) : Option Nat :=
  match c with
  | 'C' | '1' => some 1
  | 'S' | '2' => some 2
  | 'I' | '4' => some 4
  | 'L' | '8' => some 8
  | _ => none

def readAll : Nat → Octets → Except Char (List Shape)
  | 0, _ => .ok []
  | _, [] => .ok []
  | fuel + 1, c :: rest =>
    let withMark := fun (s : Shape) (rest : Octets) => do
      match rest with
      | 'z' :: rest => return { s with shows := true } :: (← readAll fuel rest)
      | rest => return s :: (← readAll fuel rest)
    if c == 'a' || c == 'c' then withMark ⟨c, 1, false⟩ rest
    else if "doux".toList.contains c then
      match rest with
      | d :: more =>
        match sizeOf? d with
        | some size => withMark ⟨c, size, false⟩ more
        | none => withMark ⟨c, 4, false⟩ rest
      | [] => withMark ⟨c, 4, false⟩ []
    else .error c

end Shape

structure DumpStyle where
  shapes : List Shape
  radix : Char
  perLine : Nat
  showsAll : Bool

namespace DumpStyle

def address (d : DumpStyle) (n : Nat) : Octets :=
  match d.radix with
  | 'n' => []
  | 'x' => Shape.digits 16 6 n
  | 'd' => Shape.digits 10 7 n
  | _ => Shape.digits 8 7 n

def lineWidth (d : DumpStyle) : Nat :=
  d.shapes.foldl (fun n s => Nat.max n ((s.width + 1) * (d.perLine / s.size))) 0

/-- The fields of a line in one shape. Blanks are spread over the fields so that all shapes of a
line are equally wide. -/
def fieldsText (d : DumpStyle) (s : Shape) (bytes : List Nat) : Octets :=
  let count := d.perLine / s.size
  let padding := d.lineWidth - (s.width + 1) * count
  let before := fun (n : Nat) => padding * n / count
  let fields := (chunks s.size (bytes.length + 1) bytes).zipIdx.map fun (part, n) =>
    let room := before (count - n) - before (count - n - 1) + s.width + 1
    padLeft room (s.field part)
  let text := fields.flatten
  if s.shows then
    let full := text ++ List.replicate (d.lineWidth - text.length) ' '
    full ++ "  >".toList ++ bytes.map (fun b =>
      if isPrintable (Char.ofNat b) then Char.ofNat b else '.') ++ ['<']
  else text

def lineText (d : DumpStyle) (offset : Nat) (bytes : List Nat) : Octets :=
  let front := d.address offset
  let lines := d.shapes.zipIdx.map fun (s, n) =>
    (if n = 0 then front else List.replicate front.length ' ') ++ d.fieldsText s bytes ++ ['\n']
  lines.flatten

/-- The lines of a dump. A line like the one before it is left out, with a star for all of them. -/
def linesFrom (d : DumpStyle) : Nat → (offset : Nat) → List Nat → (last : Option (List Nat)) →
    (starred : Bool) → List Octets
  | 0, _, _, _, _ => []
  | _, offset, [], _, _ => if d.radix == 'n' then [] else [d.address offset ++ ['\n']]
  | fuel + 1, offset, bytes, last, starred =>
    let line := bytes.take d.perLine
    let rest := bytes.drop d.perLine
    let next := offset + line.length
    if !d.showsAll && last = some line && line.length = d.perLine then
      (if starred then [] else [['*', '\n']]) ++ d.linesFrom fuel next rest last true
    else d.lineText offset line :: d.linesFrom fuel next rest (some line) false

def text (d : DumpStyle) (offset : Nat) (bytes : List Nat) : Octets :=
  (d.linesFrom (bytes.length + 2) offset bytes none false).flatten

end DumpStyle

def shortShape? (c : Char) : Option Shape :=
  match c with
  | 'a' => some ⟨'a', 1, false⟩
  | 'b' => some ⟨'o', 1, false⟩
  | 'c' => some ⟨'c', 1, false⟩
  | 'd' => some ⟨'u', 2, false⟩
  | 'i' => some ⟨'d', 4, false⟩
  | 'l' => some ⟨'d', 8, false⟩
  | 'o' => some ⟨'o', 2, false⟩
  | 's' => some ⟨'d', 2, false⟩
  | 'x' => some ⟨'x', 2, false⟩
  | _ => none

def od : Utility := fun i => do
  let s ← i.select ⟨"abcdilosxv", "AtNj", "w",
    [("address-radix", 'A'), ("format", 't'), ("read-bytes", 'N'), ("skip-bytes", 'j'),
      ("output-duplicates", 'v'), ("width", 'w')], true⟩ 1
  let mut shapes : List Shape := []
  for (letter, value) in s.options do
    if letter = 't' then
      match Shape.readAll (value.length + 1) value with
      | .ok more => shapes := shapes ++ more
      | .error c =>
        i.abandon ("invalid character ".toList ++ quoteName [c] ++ " in type string ".toList ++
          quoteName value) 1
    else shapes := shapes ++ (shortShape? letter).toList
  let mut bytes : List Octets := []
  let mut status := 0
  for operand in if s.operands.isEmpty then [['-']] else s.operands do
    match ← Act.openOperand operand with
    | .error fault => do
      i.complainOf operand fault
      status := 1
    | .ok descriptor => do
      match ← Act.readAll descriptor with
      | .ok content => bytes := bytes ++ [content]
      | .error fault => do
        i.complainOf operand fault
        status := 1
      Act.closeOperand descriptor
  if bytes.isEmpty && status ≠ 0 then return status
  else
    let skipped := ((s.value? 'j').bind decimal?).getD 0
    let whole := bytes.flatten.drop skipped
    let wanted := ((s.value? 'N').bind decimal?).elim whole whole.take
    let perLine := match s.value? 'w' with
      | none => 16
      | some n => (decimal? n).getD 32
    let style : DumpStyle :=
      ⟨if shapes.isEmpty then [⟨'o', 2, false⟩] else shapes, ((s.value? 'A').getD ['o']).headD 'o',
        perLine, s.has 'v'⟩
    i.write (style.text skipped (wanted.map Char.toNat)) 1
    return status

/-! ## Comparison of bytes -/

def firstDifference : Octets → Octets → (count lines : Nat) → Nat × Nat × Octets × Octets
  | a :: as, b :: bs, count, lines =>
    if a == b then firstDifference as bs (count + 1) (if a == '\n' then lines + 1 else lines)
    else (count, lines, a :: as, b :: bs)
  | as, bs, count, lines => (count, lines, as, bs)

def shownByte (c : Char) : Octets :=
  if isPrintable c then [c]
  else if c.toNat < 32 then ['^', Char.ofNat (c.toNat + 64)]
  else if c.toNat = 127 then "^?".toList
  else "M-".toList ++ [Char.ofNat (c.toNat % 128)]

def octalByte (c : Char) : Octets := padLeft 3 (Nat.toDigits 8 c.toNat)

def cmp : Utility := fun i => do
  let s ← i.select ⟨"slb", "ni", "",
    [("silent", 's'), ("quiet", 's'), ("verbose", 'l'), ("print-bytes", 'b'), ("bytes", 'n'),
      ("ignore-initial", 'i')], true⟩ 2
  let helped := fun (message : Octets) => (do
    i.complain message
    i.complain ("Try '".toList ++ i.name ++ " --help' for more information.".toList)
    Act.finish 2 : Act Unit)
  if s.operands.isEmpty then helped ("missing operand after '".toList ++ i.name ++ ['\''])
  let nameA := s.operands.headD []
  let nameB := s.operands.getD 1 ['-']
  let mut texts : List Octets := []
  for operand in [nameA, nameB] do
    let content ← match ← Act.openOperand operand with
      | .error fault => pure (Except.error fault)
      | .ok descriptor => Act.readAll descriptor
    match content with
    | .ok text => texts := texts ++ [((s.value? 'n').bind decimal?).elim text text.take]
    | .error fault =>
      if !s.has 's' then i.complain (operand ++ ": ".toList ++ fault.message.toList)
      return 2
  match texts with
  | [a, b] =>
    if s.has 'l' then
      let pairs := (a.zip b).zipIdx 1
      for ((c, d), n) in pairs do
        if c ≠ d then
          i.writeLine (Octets.ofNat n ++ [' '] ++ octalByte c ++ [' '] ++ octalByte d)
    let (count, lines, restA, restB) := firstDifference a b 0 0
    match restA, restB with
    | [], [] => return 0
    | c :: _, d :: _ => do
      if !s.has 's' && !s.has 'l' then
        let noun := if s.has 'b' then "byte " else "char "
        let bytes := if s.has 'b' then
            " is ".toList ++ octalByte c ++ [' '] ++ shownByte c ++ [' '] ++ octalByte d ++ [' '] ++
              shownByte d
          else []
        i.writeLine (nameA ++ [' '] ++ nameB ++ " differ: ".toList ++ noun.toList ++
          Octets.ofNat (count + 1) ++ ", line ".toList ++ Octets.ofNat (lines + 1) ++ bytes)
      return 1
    | _, _ => do
      let (name, text) := if restA.isEmpty then (nameA, a) else (nameB, b)
      let place := if text.isEmpty then " which is empty".toList
        else " after byte ".toList ++ Octets.ofNat count ++
          (if text.getLast? = some '\n' then ", line ".toList ++ Octets.ofNat lines
            else ", in line ".toList ++ Octets.ofNat (lines + 1))
      if !s.has 's' then i.complain ("EOF on ".toList ++ name ++ place)
      return 1
  | _ => return 2

/-! ## Comparison of lines -/

/-- Lines that take the place of others: where both begin, and how many there are. -/
structure Hunk where
  start : Nat
  count : Nat
  newStart : Nat
  newCount : Nat

/-- For each pair of places, how many lines the rests have in common. -/
def commonTable (same : Nat → Nat → Bool) (m n : Nat) : Array (Array Nat) :=
  let last := Array.replicate (n + 1) 0
  let rows := (List.range m).reverse.foldl (fun (rows : List (Array Nat)) a =>
    let below := rows.headD last
    let row := (List.range n).reverse.foldl (fun (cells : List Nat) b =>
      let cell := if same a b then (below[b + 1]?).getD 0 + 1
        else Nat.max ((below[b]?).getD 0) (cells.headD 0)
      cell :: cells) [0]
    row.toArray :: rows) [last]
  rows.toArray

/-- The differences from a pair of places on. The one that is open is held. -/
def hunksFrom (same : Nat → Nat → Bool) (table : Array (Array Nat)) (m n : Nat) :
    Nat → (a b : Nat) → Option Hunk → List Hunk
  | 0, _, _, hunk => hunk.toList
  | fuel + 1, a, b, hunk =>
    let cell := fun (a b : Nat) => ((table[a]?).bind (·[b]?)).getD 0
    let current := hunk.getD ⟨a, 0, b, 0⟩
    if m ≤ a && n ≤ b then hunk.toList
    else if a < m && b < n && same a b then
      hunk.toList ++ hunksFrom same table m n fuel (a + 1) (b + 1) none
    else if a < m && (n ≤ b || cell a (b + 1) ≤ cell (a + 1) b) then
      hunksFrom same table m n fuel (a + 1) b (some { current with count := current.count + 1 })
    else hunksFrom same table m n fuel a (b + 1)
      (some { current with newCount := current.newCount + 1 })

def hunks (a b : Array Octets) : List Hunk :=
  let same := fun (m n : Nat) => a[m]? == b[n]?
  hunksFrom same (commonTable same a.size b.size) a.size b.size (a.size + b.size + 2) 0 0 none

def markedLines (mark : String) (lines : List Act.Line) : Octets :=
  lines.flatMap fun l => mark.toList ++ l.text ++ ['\n'] ++
    if l.ended then [] else "\\ No newline at end of file\n".toList

def rangeText (start count : Nat) : Octets :=
  if count ≤ 1 then Octets.ofNat (start + count)
  else Octets.ofNat (start + 1) ++ [','] ++ Octets.ofNat (start + count)

def plainHunk (a b : List Act.Line) (h : Hunk) : Octets :=
  let old := (a.drop h.start).take h.count
  let new := (b.drop h.newStart).take h.newCount
  let letter := if h.count = 0 then 'a' else if h.newCount = 0 then 'd' else 'c'
  rangeText h.start h.count ++ [letter] ++ rangeText h.newStart h.newCount ++ ['\n'] ++
    markedLines "< " old ++ (if letter == 'c' then "---\n".toList else []) ++ markedLines "> " new

/-- Differences that share the lines around them. -/
def joinHunks (context : Nat) : List Hunk → List (List Hunk)
  | [] => []
  | h :: rest =>
    match joinHunks context rest with
    | (next :: more) :: groups =>
      if next.start ≤ h.start + h.count + 2 * context then (h :: next :: more) :: groups
      else [h] :: (next :: more) :: groups
    | groups => [h] :: groups

def joinedRange (start count : Nat) : Octets :=
  if count = 1 then Octets.ofNat (start + 1)
  else Octets.ofNat (if count = 0 then start else start + 1) ++ [','] ++ Octets.ofNat count

def joinedHunk (context : Nat) (a b : List Act.Line) (group : List Hunk) : Octets :=
  match group.head?, group.getLast? with
  | some first, some last =>
    let start := first.start - context
    let newStart := first.newStart - (first.start - start)
    let finish := Nat.min a.length (last.start + last.count + context)
    let newFinish := last.newStart + last.newCount + (finish - (last.start + last.count))
    let (body, position) := group.foldl (fun (acc : Octets × Nat) h =>
      (acc.1 ++ markedLines " " ((a.drop acc.2).take (h.start - acc.2)) ++
        markedLines "-" ((a.drop h.start).take h.count) ++
        markedLines "+" ((b.drop h.newStart).take h.newCount), h.start + h.count)) ([], start)
    "@@ -".toList ++ joinedRange start (finish - start) ++ " +".toList ++
      joinedRange newStart (newFinish - newStart) ++ " @@\n".toList ++ body ++
      markedLines " " ((a.drop position).take (finish - position))
  | _, _ => []

def comparisonKey (s : Selected) (l : Act.Line) : Octets :=
  let text := if s.has 'i' then l.text.map Char.toLower else l.text
  let squeezed := if s.has 'w' then text.filter (!isSpace ·)
    else if s.has 'b' then
      let runs := text.foldr (fun c (acc : Octets) =>
        if isSpace c then (if acc.head? = some ' ' then acc else ' ' :: acc) else c :: acc) []
      (runs.reverse.dropWhile (· == ' ')).reverse
    else text
  if l.ended || s.has 'w' || s.has 'b' then squeezed else squeezed ++ ['\n']

def diff : Utility := fun i => do
  let s ← i.select ⟨"qsuibwaBrN", "U", "",
    [("brief", 'q'), ("report-identical-files", 's'), ("unified", 'u'), ("ignore-case", 'i'),
      ("ignore-space-change", 'b'), ("ignore-all-space", 'w'), ("text", 'a'),
      ("ignore-blank-lines", 'B')], true⟩ 2
  match s.operands with
  | [nameA, nameB] => do
    let v ← Act.look fun v => v
    let isDirectory := fun (path : Octets) => v.isDirectory (textOf path)
    let pathA := if isDirectory nameA && !isDirectory nameB then pathIn nameA (lastName nameB)
      else nameA
    let pathB := if isDirectory nameB && !isDirectory nameA then pathIn nameB (lastName nameA)
      else nameB
    let a ← readLines pathA
    let b ← readLines pathB
    match a, b with
    | .ok a, .ok b =>
      let found := hunks (a.map (comparisonKey s)).toArray (b.map (comparisonKey s)).toArray
      if found.isEmpty then
        if s.has 's' then
          i.writeLine ("Files ".toList ++ pathA ++ " and ".toList ++ pathB ++
            " are identical".toList)
        return 0
      else if s.has 'q' then
        i.writeLine ("Files ".toList ++ pathA ++ " and ".toList ++ pathB ++ " differ".toList)
        return 1
      else if s.has 'u' || s.has 'U' then
        let context := ((s.value? 'U').bind decimal?).getD 3
        let now := startOfTime + (← Act.call .time) / 1000000
        let stamp := formatDate now 0 "%Y-%m-%d %H:%M:%S.000000000 +0000".toList
        i.write ("--- ".toList ++ pathA ++ ['\t'] ++ stamp ++ "\n+++ ".toList ++ pathB ++ ['\t'] ++
          stamp ++ ['\n'] ++ (joinHunks context found).flatMap (joinedHunk context a b)) 2
        return 1
      else
        i.write (found.flatMap (plainHunk a b)) 2
        return 1
    | a, b => do
      for (name, result) in [(pathA, a), (pathB, b)] do
        match result with
        | .error fault => i.complain (name ++ ": ".toList ++ fault.message.toList)
        | .ok _ => pure ()
      return 2
  | operands => do
    i.complain (match operands with
      | _ :: _ :: extra :: _ => "extra operand ".toList ++ quoteName extra
      | operands => "missing operand after ".toList ++ quoteName (operands.headD i.name))
    i.complain ("Try '".toList ++ i.name ++ " --help' for more information.".toList)
    return 2

/-! ## Properties of files -/

def kindText : Entry → String
  | .file content _ => if content.size = 0 then "regular empty file" else "regular file"
  | .directory => "directory"
  | .device _ => "character special file"
  | .link _ => "symbolic link"

def propertyText (v : Volume) (now : Nat) (path : Octets) (l : Location) (e : Entry)
    (letter : Char) : Octets :=
  let size := sizeOfEntry e
  match letter with
  | 'n' => path
  | 'N' => quoteName path
  | 's' => Octets.ofNat size
  | 'F' => (kindText e).toList
  | 'a' => Nat.toDigits 8 (modeOf e)
  | 'A' => modeText e
  | 'U' | 'G' => "root".toList
  | 'u' | 'g' => ['0']
  | 'h' => Octets.ofNat (linkCount v l e)
  | 'b' => Octets.ofNat ((size + 4095) / 4096 * 8)
  | 'B' => "512".toList
  | 'o' => "4096".toList
  | 'X' | 'Y' | 'Z' | 'W' => Octets.ofNat now
  | 'x' | 'y' | 'z' | 'w' => formatDate now 0 "%Y-%m-%d %H:%M:%S.000000000 +0000".toList
  | '%' => ['%']
  | _ => ['?']

def formatProperties (property : Char → Octets) : Nat → Octets → Octets
  | 0, _ => []
  | _, [] => []
  | fuel + 1, '%' :: rest =>
    let flags := rest.takeWhile fun c => c == '-' || c == '0'
    let width := (rest.drop flags.length).takeWhile Char.isDigit
    match rest.drop (flags.length + width.length) with
    | letter :: more =>
      let text := property letter
      let room := (decimal? width).getD 0 - text.length
      let shown := if flags.contains '-' then text ++ List.replicate room ' '
        else List.replicate room (if flags.contains '0' then '0' else ' ') ++ text
      shown ++ formatProperties property fuel more
    | [] => ['%']
  | fuel + 1, c :: rest => c :: formatProperties property fuel rest

def usualProperties : String :=
  "  File: %n\n  Size: %-10s\tBlocks: %-10b IO Block: %-6o %F\n" ++
    "Device: 0,1\tInode: 1           Links: %h\n" ++
    "Access: (0%a/%A)  Uid: (    0/    root)   Gid: (    0/    root)\n" ++
    "Access: %x\nModify: %y\nChange: %z\n Birth: %w"

def stat : Utility := fun i => do
  let names := [("format", 'c'), ("printf", 'p'), ("dereference", 'L')]
  let s ← i.select ⟨"Lft", "cp", "", names, true⟩ 1
  if s.operands.isEmpty then i.misused "missing operand".toList 1
  else
    let now := startOfTime + (← Act.call .time) / 1000000
    let v ← Act.look fun v => v
    forOperands s.operands fun path => do
      match ← readEntry path with
      | .error fault => do
        i.complain ("cannot statx ".toList ++ quoteName path ++ ": ".toList ++ fault.message.toList)
        return false
      | .ok (l, e) => do
        let property := propertyText v now path l e
        match s.value? 'p' with
        | some format =>
          let (format, _) := Shell.Escape.unescape true (format.length + 1) [] format
          i.write (formatProperties property (format.length + 1) format) 1
        | none =>
          let format := (s.value? 'c').getD usualProperties.toList
          i.writeLine (formatProperties property (format.length + 1) format)
        return true

end LoadScript.Utility
