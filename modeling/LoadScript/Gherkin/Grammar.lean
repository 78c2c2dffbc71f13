import LoadScript.Gherkin.Dedent
import LoadScript.Gherkin.Dialect
import LoadScript.Gherkin.Document
import LoadScript.Gherkin.Reader

/-!
# The grammar of scenario documents

Each reader below reads one construct of the document. The choices are ordered and what a
repetition took is not given back, so the order of the alternatives is part of the language. A
table with a row shorter than its header, and a language directive that names no dialect, are
faults: the document is then refused as a whole.
-/

set_option autoImplicit false

namespace LoadScript.Gherkin

open Reader

/-! ## Blanks, line ends and comments -/

def isGap (c : Char) : Bool := c == ' ' || c == '\t'

def gap : Reader Unit := fun s => .ok () (s.dropWhile isGap)

def lineFeed : Reader Unit := token "\n" <|> token "\r\n"

def splitLine : List Char → List Char × List Char
  | [] => ([], [])
  | '\n' :: rest => ([], '\n' :: rest)
  | '\r' :: '\n' :: rest => ([], '\r' :: '\n' :: rest)
  | c :: rest =>
    let (line, after) := splitLine rest
    (c :: line, after)

def lineRest : Reader (List Char) := fun s =>
  let (line, after) := splitLine s
  .ok line after

def lineText : Reader (List Char) := do
  let line ← lineRest
  if line.isEmpty then miss else return line

def commentText : Reader Unit := do
  gap
  token "#"
  let _ ← lineRest

def lineEnd : Reader Unit := do
  let _ ← optional commentText
  lineFeed

/-- One or more line ends, spaces and tabs, or the end of the text. -/
def lineEnds : Reader Unit :=
  (do
    let item : Reader Unit := lineEnd <|> (do let _ ← satisfy isGap)
    item
    let _ ← repeated item) <|> atEnd

def layout : Reader Unit := do
  let _ ← repeated ((do let _ ← satisfy isGap) <|> lineEnd)

def emptyLines : Reader Unit := do
  let _ ← repeated lineEnd

def comments : Reader Unit := do
  let _ ← repeated (do commentText; lineEnds)

def keyword (keywords : List String) : Reader String := do
  comments
  fun s =>
    match keywords.find? (fun k => k.toList.isPrefixOf s) with
    | some k => .ok k (s.drop k.length)
    | none => .miss

/-! ## Tags, doc strings and tables -/

def tag : Reader String := do
  token "@"
  let isTagChar := fun c => !Chars.isBlank c && c != '@'
  let first ← satisfy isTagChar
  let more ← repeated (satisfy isTagChar)
  return String.ofList (first :: more)

def tags : Reader (List String) := do
  let found ← sepBy tag layout
  gap
  emptyLines
  return found

/-- A doc string between two marks. A comment at the end of a line hides a mark inside it. -/
def docstringBetween (mark : String) : Reader String := do
  token mark
  let body ← taken (repeated (do
    notAt (token mark)
    lineEnd <|> (do let _ ← anyChar)))
  token mark
  lineEnds
  return String.ofList (dedent body)

def docstring : Reader String := docstringBetween "\"\"\"" <|> docstringBetween "```"

def splitCell : List Char → List Char × List Char
  | [] => ([], [])
  | '|' :: rest => ([], '|' :: rest)
  | '\n' :: rest => ([], '\n' :: rest)
  | '\r' :: '\n' :: rest => ([], '\r' :: '\n' :: rest)
  | c :: rest =>
    let (cell, after) := splitCell rest
    (c :: cell, after)

def tableCell : Reader String := do
  token "|"
  gap
  notAt (lineFeed <|> atEnd)
  fun s =>
    let (cell, after) := splitCell s
    .ok (String.ofList (Chars.trim cell)) after

def tableRow : Reader (List String) := do
  let cells ← sepBy tableCell gap
  gap
  token "|"
  gap
  lineEnds
  return cells

/-- Rows cut to the length of the first one. A shorter row is a fault. -/
def table : Reader Table := do
  gap
  let rows ← sepBy1 tableRow gap
  let width := (rows.headD []).length
  if rows.any (·.length < width) then fault else return rows.map (·.take width)

/-! ## Steps and descriptions -/

def stepAfter (keyword : String) : Reader SourceStep := do
  gap
  let text ← lineText
  gap
  lineEnds
  gap
  let doc ← optional docstring
  let rows ← optional table
  return { keyword, text := String.ofList (Chars.trimEnd text), table := rows, docstring := doc }

def leadingStep (d : Dialect) : Reader SourceStep :=
  (keyword d.given >>= stepAfter) <|> (keyword d.event >>= stepAfter) <|>
    (keyword d.outcome >>= stepAfter)

def followingStep (d : Dialect) : Reader SourceStep :=
  leadingStep d <|> (keyword d.conjunction >>= stepAfter) <|> (keyword d.contrast >>= stepAfter)

/-- A block of steps. A conjunction or a contrast cannot open it. -/
def steps (d : Dialect) : Reader (List SourceStep) :=
  (do
    let first ← leadingStep d
    let more ← repeated (do gap; followingStep d)
    return first :: more) <|> pure []

/-- A line of a description: it does not begin with a tag or with one of the keywords. -/
def descriptionLine (ending : List String) : Reader (List Char) := do
  gap
  notAt (token "@")
  notAt (keyword ending)
  gap
  let line ← lineText
  lineEnds
  return line

/-- The lines up to the next keyword, if they are not all blank. -/
def description (ending : List String) : Reader (Option String) := do
  let lines ← sepBy (descriptionLine ending) gap
  layout
  let text := ['\n'].intercalate lines
  return if Chars.allBlank text then none else some (String.ofList text)

/-! ## Scenarios, rules and features -/

def background (d : Dialect) : Reader (List SourceStep) := do
  comments
  gap
  let _ ← keyword d.background
  token ":"
  gap
  let _ ← optional lineText
  lineEnds
  let _ ← description d.bodyKeywords
  steps d

def examples (d : Dialect) : Reader Examples := do
  comments
  gap
  let tags ← tags
  gap
  let _ ← keyword d.examples
  token ":"
  gap
  let name ← optional lineText
  lineEnds
  let _ ← description (d.bodyKeywords ++ ["|"])
  let rows ← optional table
  return { name := name.map (fun n => String.ofList (Chars.trimEnd n)), tags, table := rows }

def nameText (name : Option (List Char)) : String := String.ofList (name.getD [])

def scenarioWith (d : Dialect) (keywords : List String) : Reader SourceScenario := do
  comments
  gap
  let tags ← tags
  gap
  let _ ← keyword keywords
  token ":"
  gap
  let name ← optional lineText
  gap
  lineEnds
  let _ ← description d.bodyKeywords
  let steps ← steps d
  let examples ← repeated (examples d)
  return { name := nameText name, tags, steps, examples }

def scenario (d : Dialect) : Reader SourceScenario :=
  scenarioWith d d.scenario <|> scenarioWith d d.outline

def scenarios (d : Dialect) : Reader (List SourceScenario) := do
  gap
  sepBy (scenario d) gap

def rule (d : Dialect) : Reader Rule := do
  gap
  let tags ← tags
  gap
  let _ ← keyword d.rule
  token ":"
  gap
  let _ ← optional lineText
  gap
  lineEnds
  let _ ← description d.ruleKeywords
  let background ← optional (background d)
  emptyLines
  let scenarios ← scenarios d
  emptyLines
  return { tags, background, scenarios }

def rules (d : Dialect) : Reader (List Rule) := do
  gap
  sepBy (rule d) gap

/-- A directive that sets the dialect. Its name runs to the end of the line. -/
def languageDirective : Reader Dialect := do
  let _ ← repeated ((do let _ ← satisfy isGap) <|> lineFeed)
  token "#"
  gap
  token "language"
  gap
  token ":"
  gap
  let name ← lineText
  gap
  lineEnd
  match Dialect.ofName? (String.ofList name) with
  | some d => return d
  | none => fault

def document (start : Dialect) : Reader Document := do
  gap
  let directed ← optional languageDirective
  let d := directed.getD start
  emptyLines
  let tags ← tags
  let _ ← keyword d.feature
  token ":"
  gap
  let name ← optional lineText
  gap
  lineEnds
  let description ← description d.featureKeywords
  let background ← optional (background d)
  emptyLines
  let scenarios ← scenarios d
  emptyLines
  let rules ← rules d
  emptyLines
  return { name := nameText name, description, tags, background, scenarios, rules }

/-- The document that is the whole text, read with the dialect until a directive sets another. -/
def Document.ofText? (start : Dialect) (s : List Char) : Option Document :=
  match document start s with
  | .ok doc [] => some doc
  | _ => none

end LoadScript.Gherkin
