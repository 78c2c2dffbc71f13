import LoadScript.Host.Shell.Conditions

set_option autoImplicit false

namespace LoadScript.Shell.Declaration

open Action

/-! ## Listings -/

def doubleQuoted (s : Octets) : Octets :=
  if s.any isControl then quoteEscaped s
  else
    let isMarked := fun (c : Char) => c == '"' || c == '\\' || c == '$' || c == backquote
    ['"'] ++ s.flatMap (fun c => if isMarked c then ['\\', c] else [c]) ++ ['"']

def elementsText (e : Elements) : Octets :=
  let items := e.items.map fun (key, value) => '[' :: key ++ "]=".toList ++ doubleQuoted value
  "(".toList ++ [' '].intercalate items ++ (if e.isNamed then " )" else ")").toList

def letters (v : Variable) : Octets :=
  let kind := match v.elements with
    | some e => if e.isNamed then ['A'] else ['a']
    | none => []
  let all := kind ++ (if v.integer then ['i'] else []) ++ (if v.fixed then ['r'] else []) ++
    (if v.exported then ['x'] else [])
  if all.isEmpty then ['-'] else all

def line (name : String) (v : Variable) : Octets :=
  let value := match v.elements, v.value with
    | some e, _ => '=' :: elementsText e
    | none, some value => '=' :: doubleQuoted value
    | none, none => []
  "declare -".toList ++ letters v ++ [' '] ++ name.toList ++ value ++ ['\n']

def lines (s : Session) (chosen : Variable → Bool) : Octets :=
  let found := s.bindings.filter fun b => chosen b.2
  (Text.sort (found.map (·.1))).flatMap fun name => line name (s.binding name)

/-! ## Attributes -/

structure Attributes where
  on : List Char
  off : List Char

def readAttributes : List Octets → Attributes × List Octets
  | [] => (⟨[], []⟩, [])
  | ['-', '-'] :: rest => (⟨[], []⟩, rest)
  | ('-' :: c :: more) :: rest =>
    let (a, names) := readAttributes rest
    ({ a with on := c :: more ++ a.on }, names)
  | ('+' :: c :: more) :: rest =>
    let (a, names) := readAttributes rest
    ({ a with off := c :: more ++ a.off }, names)
  | words => (⟨[], []⟩, words)

/-- A variable with the attributes. A value becomes the first element of an array. -/
def Attributes.apply (a : Attributes) (v : Variable) : Variable :=
  let has := fun (c : Char) (old : Bool) => (old || a.on.contains c) && !a.off.contains c
  let elements := if v.elements.isSome then v.elements
    else if a.on.contains 'A' then some (.named [])
    else if a.on.contains 'a' then some (.listed (v.value.toList.map (0, ·)))
    else none
  { v with
    exported := has 'x' v.exported
    fixed := has 'r' v.fixed
    integer := has 'i' v.integer
    elements }

/-- Makes a variable one of the function that is being carried out. It has no value at first. -/
def makeOwn (name : String) : Action Unit := do
  let s ← get
  let isOwn := (s.hidden.headD []).any (·.1 = name)
  hide name
  if !isOwn then
    modify fun s => s.setVariable name
      { value := none, exported := (s.binding name).exported, fixed := false }

def assignValue (name : String) (adds : Bool) (value : Octets) : Action Unit := do
  let s ← get
  let old := (s.get? name).getD []
  if (s.binding name).integer then
    let n ← sum (if adds then old ++ '+' :: value else value)
    assign name (Int.repr n).toList
  else assign name (if adds then old ++ value else value)

def declareOne (a : Attributes) (own : Bool) (word : Octets) : Action Unit := do
  let (front, value) := Builtin.splitValue word
  let adds := value.isSome && front.getLast? == some '+'
  let front := if adds then front.dropLast else front
  let (name, key) := splitReference front
  if !isName name.toList then
    complain (.badName word)
    setStatus 1
  else
    if own then makeOwn name
    let unfixed := { a with on := a.on.filter (· != 'r') }
    modify fun s => s.setVariable name (unfixed.apply (s.binding name))
    match value, key with
    | some value, none => assignValue name adds value
    | some value, some key => assignElement name (← keyOf name key) value
    | none, _ => pure ()
    if a.on.contains 'r' then
      modify fun s => s.setVariable name { s.binding name with fixed := true }

def tell (names : List Octets) : Action Unit := do
  for name in names do
    let key := String.ofList name
    match (← get).bindings.find? (·.1 = key) with
    | some (_, v) => say (← get).status (line key v)
    | none => do
      complain (.unknownName name)
      setStatus 1

def tellFunctions (shown : Bool) (names : List Octets) : Action Unit := do
  for name in names do
    if (← get).functions.any (·.1 = String.ofList name) then
      if shown then say (← get).status (name ++ ['\n'])
    else setStatus 1

def declare (own : Bool) (implied : List Char) (arguments : List Octets) : Action Unit := do
  let (a, names) := readAttributes arguments
  setStatus 0
  let a := if a.on.contains 'n' && implied.contains 'x' then { a with on := [], off := ['x'] }
    else { a with on := implied ++ a.on }
  if a.on.contains 'f' || a.on.contains 'F' then tellFunctions (a.on.contains 'F') names
  else if names.isEmpty then
    say 0 (lines (← get) fun v =>
      (!a.on.contains 'x' || v.exported) && (!a.on.contains 'r' || v.fixed))
  else if a.on.contains 'p' then tell names
  else
    for name in names do declareOne a own name

def declareHere (arguments : List Octets) : Action Unit := do
  let (a, _) := readAttributes arguments
  declare (0 < (← get).depth && !a.on.contains 'g' && !a.on.contains 'p') [] arguments

def «local» (arguments : List Octets) : Action Unit := do
  if (← get).depth = 0 then fail .notInFunction else declare true [] arguments

def unset (arguments : List Octets) : Action Unit := do
  let (found, names) ← optionsOf "vfn" "" arguments
  setStatus 0
  for word in names do
    let (name, key) := splitReference word
    let s ← get
    let isFunction := found.any (·.1 = 'f') ||
      (found.isEmpty && !s.bindings.any (·.1 = name))
    if isFunction then
      modify fun s => { s with functions := s.functions.filter fun f => f.1 ≠ name }
    else if !isName name.toList then
      complain (.badName word)
      setStatus 1
    else if (s.binding name).fixed then
      complain (.fixedUnset name)
      setStatus 1
    else
      match key, s.elements? name with
      | some key, some e => do
        let key ← keyOf name key
        modify fun s => s.setVariable name { s.binding name with elements := some (e.erase key) }
      | _, _ => modify fun s => s.dropVariable name

/-! ## Numbers and options -/

def «let» (arguments : List Octets) : Action Unit := do
  if arguments.isEmpty then fail (.told "expression expected")
  let mut last : Int := 0
  for word in arguments do last ← sum word
  setStatus (if last = 0 then 1 else 0)

def namedOptions : List String :=
  ["autocd", "cdspell", "checkhash", "checkwinsize", "cmdhist", "dotglob", "execfail",
    "expand_aliases", "extdebug", "extglob", "extquote", "failglob", "force_fignore",
    "globasciiranges", "globskipdots", "globstar", "gnu_errfmt", "histappend", "hostcomplete",
    "huponexit", "inherit_errexit", "interactive_comments", "lastpipe", "lithist",
    "localvar_inherit", "localvar_unset", "login_shell", "mailwarn", "nocaseglob", "nocasematch",
    "nullglob", "patsub_replacement", "progcomp", "promptvars", "restricted_shell",
    "shift_verbose", "sourcepath", "varredir_close", "xpg_echo"]

def shopt (arguments : List Octets) : Action Unit := do
  let (found, names) ← optionsOf "suqpo" "" arguments
  setStatus 0
  for name in names do
    let key := String.ofList name
    if !namedOptions.contains key then
      mention (name ++ ": invalid shell option name".toList)
      setStatus 1
    else if found.any (·.1 = 's') then modify (Builtin.setNamed true key)
    else if found.any (·.1 = 'u') then modify (Builtin.setNamed false key)
    else
      let on := (← get).namedOptions.contains key
      if !found.any (·.1 = 'q') then
        let fill := List.replicate (15 - name.length) ' '
        say 0 (name ++ fill ++ ('\t' :: (if on then "on\n" else "off\n").toList))
      if !on then setStatus 1

/-! ## Input -/

structure Intake where
  descriptor : Nat
  plain : Bool
  delimiter : Option Char

/-- Reads up to the delimiter, or as many characters as are left. The text is held in reverse. -/
def readMarks (i : Intake) : Nat → (left : Option Int) → (escaped : Bool) → List Mark →
    Action (List Mark × Bool)
  | 0, _, _, acc => return (acc.reverse, false)
  | fuel + 1, left, escaped, acc => do
    if left = some 0 then return (acc.reverse, true)
    else
      match ← call (.read i.descriptor 1) with
      | .ok [c] =>
        let next := left.map (· - 1)
        if escaped then
          if c == '\n' then readMarks i fuel left false acc
          else readMarks i fuel next false (⟨c, true, false⟩ :: acc)
        else if c == '\\' && !i.plain then readMarks i fuel left true acc
        else if i.delimiter == some c then return (acc.reverse, true)
        else if c.toNat = 0 then readMarks i fuel left false acc
        else readMarks i fuel next false (⟨c, false, true⟩ :: acc)
      | _ => return (acc.reverse, false)

def optionNumber (found : List (Char × Octets)) (letter : Char) : Option Int :=
  ((found.find? (·.1 = letter)).bind fun o => (String.ofList o.2).toNat?).map Int.ofNat

def read (arguments : List Octets) : Action Unit := do
  let (found, names) ← optionsOf "rse" "adinNptu" arguments
  let names := names.map String.ofList
  for name in names do Builtin.checkName name.toList
  let delimiter := match found.find? (·.1 = 'd') with
    | some (_, c :: _) => some c
    | some (_, []) => some (Char.ofNat 0)
    | none => some '\n'
  let exact := optionNumber found 'N'
  let intake : Intake :=
    { descriptor := ((optionNumber found 'u').getD 0).toNat
      plain := found.any (·.1 = 'r')
      delimiter := if exact.isSome then none else delimiter }
  let (marks, complete) ← readMarks intake Act.often (exact <|> optionNumber found 'n') false []
  let separators := (← get).separators
  match found.find? (·.1 = 'a') with
  | some (_, name) =>
    let values := (fields separators (marks.map .mark)).map Mark.text
    modify fun s => s.setVariable (String.ofList name)
      { s.binding (String.ofList name) with elements := some (.ofList values) }
  | none =>
    if names.isEmpty then assign "REPLY" (Mark.text marks)
    else if exact.isSome then assign (names.headD "") (Mark.text marks)
    else Builtin.assignFields separators names marks
  setStatus (if complete then 0 else 1)

def pieces (delimiter : Char) : Nat → Octets → List Octets
  | 0, _ => []
  | _, [] => []
  | fuel + 1, s =>
    let piece := s.takeWhile (· != delimiter)
    match s.drop piece.length with
    | [] => [piece]
    | _ :: rest => (piece ++ [delimiter]) :: pieces delimiter fuel rest

def mapfile (arguments : List Octets) : Action Unit := do
  let (found, names) ← optionsOf "t" "dnOsucC" arguments
  let name := (names.head?.map String.ofList).getD "MAPFILE"
  let delimiter := match found.find? (·.1 = 'd') with
    | some (_, c :: _) => c
    | some (_, []) => Char.ofNat 0
    | none => '\n'
  let content := ((← lift (Act.readAll 0)).toOption).getD []
  let all := pieces delimiter (content.length + 1) content
  let all := all.drop ((optionNumber found 's').getD 0).toNat
  let all := match optionNumber found 'n' with
    | some n => if n = 0 then all else all.take n.toNat
    | none => all
  let trimmed := fun (piece : Octets) =>
    if found.any (·.1 = 't') && piece.getLast? == some delimiter then piece.dropLast else piece
  modify fun s => s.setVariable name
    { s.binding name with elements := some (.ofList (all.map trimmed)) }
  setStatus 0

def printf (arguments : List Octets) : Action Unit := do
  match arguments with
  | ['-', 'v'] :: name :: format :: rest => do
    let printed := Printing.printf (Builtin.formatStyle .bash) format rest
    let (key, subscript) := splitReference name
    Builtin.checkName key.toList
    match subscript with
    | some subscript => assignElement key (← keyOf key subscript) printed.text
    | none => assign key printed.text
    setStatus (if printed.failed then 1 else 0)
  | _ => Builtin.printf arguments

def declaring : List String := ["declare", "typeset", "local", "export", "readonly"]

def find? (name : String) : Option (List Octets → Action Unit) :=
  match name with
  | "declare" | "typeset" => some declareHere
  | "local" => some «local»
  | "export" => some (declare false ['x'])
  | "readonly" => some (declare false ['r'])
  | "unset" => some unset
  | "let" => some «let»
  | "shopt" => some shopt
  | "read" => some read
  | "mapfile" | "readarray" => some mapfile
  | "printf" => some printf
  | _ => none

end LoadScript.Shell.Declaration
