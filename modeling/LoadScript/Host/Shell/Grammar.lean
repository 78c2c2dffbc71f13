import LoadScript.Host.Shell.Escape
import LoadScript.Host.Shell.Reader

set_option autoImplicit false

namespace LoadScript.Shell

open Reading

structure Look where
  /-- Line feeds are passed over. -/
  newlines : Bool
  keywords : Bool
  aliases : Bool

namespace Look

def plain : Look := ⟨false, false, false⟩

def command : Look := ⟨false, true, true⟩

def onwards : Look := ⟨true, true, true⟩

def keyword : Look := ⟨true, true, false⟩

end Look

/-- Where a list of commands stands: as a line of the script, or inside of a command, where it may
be required. -/
inductive ListKind where
  | line
  | required
  | optional
  deriving DecidableEq

def operation? : Octets → Option (Operation × Nat)
  | ':' :: '-' :: _ => some (.otherwise true, 2)
  | ':' :: '=' :: _ => some (.assigned true, 2)
  | ':' :: '?' :: _ => some (.required true, 2)
  | ':' :: '+' :: _ => some (.instead true, 2)
  | '-' :: _ => some (.otherwise false, 1)
  | '=' :: _ => some (.assigned false, 1)
  | '?' :: _ => some (.required false, 1)
  | '+' :: _ => some (.instead false, 1)
  | '#' :: '#' :: _ => some (.withoutPrefix true, 2)
  | '#' :: _ => some (.withoutPrefix false, 1)
  | '%' :: '%' :: _ => some (.withoutSuffix true, 2)
  | '%' :: _ => some (.withoutSuffix false, 1)
  | _ => none

def extendedOperation? (s : Octets) : Option (Operation × Nat) :=
  operation? s <|> match s with
    | ':' :: _ => some (.slice, 1)
    | '/' :: '/' :: _ => some (.replaced .all, 2)
    | '/' :: '#' :: _ => some (.replaced .front, 2)
    | '/' :: '%' :: _ => some (.replaced .back, 2)
    | '/' :: _ => some (.replaced .first, 1)
    | '^' :: '^' :: _ => some (.cased true true, 2)
    | '^' :: _ => some (.cased true false, 1)
    | ',' :: ',' :: _ => some (.cased false true, 2)
    | ',' :: _ => some (.cased false false, 1)
    | '@' :: c :: '}' :: _ => if "ULuQEaAkK".toList.contains c then some (.formed c, 2) else none
    | _ => none

def Operation.isTrim : Operation → Bool
  | .withoutPrefix _ | .withoutSuffix _ => true
  | _ => false

def readName : Nat → (Char → Bool) → Octets → Reading Octets
  | 0, _, acc => return acc.reverse
  | fuel + 1, belongs, acc => do
    match ← peek with
    | some c =>
      if belongs c then
        skip 1
        readName fuel belongs (c :: acc)
      else return acc.reverse
    | none => return acc.reverse

def readBracedName (fuel : Nat) : Reading (Option (String × Bool)) := do
  match ← peek with
  | some '#' =>
    skip 1
    match ← peek with
    | some c =>
      if isNameStart c then
        return some (String.ofList (← readName fuel isNameChar []), true)
      else if c.isDigit then
        return some (String.ofList (← readName fuel Char.isDigit []), true)
      else if isSpecial c && (← get).rest[1]? == some '}' then
        skip 1
        return some (String.singleton c, true)
      else return some ("#", false)
    | none => return some ("#", false)
  | some c =>
    if isNameStart c then return some (String.ofList (← readName fuel isNameChar []), false)
    else if c.isDigit then return some (String.ofList (← readName fuel Char.isDigit []), false)
    else if isSpecial c then
      skip 1
      return some (String.singleton c, false)
    else
      if c != '}' then skip 1
      return none
  | none => return none

/-- The source between backquotes: a backslash hides a backquote, a dollar sign or itself, and in
double quotes also a double quote. -/
def readBackquoted (quoted : Bool) : Nat → Octets → Reading Octets
  | 0, _ => complain (.unclosed (String.singleton backquote))
  | fuel + 1, acc => do
    match ← raw? with
    | none => complain (.unclosed (String.singleton backquote))
    | some c =>
      if c == backquote then return acc.reverse
      else if c == '\\' then
        match ← raw? with
        | none => complain (.unclosed (String.singleton backquote))
        | some d =>
          if d == backquote || d == '$' || d == '\\' || (quoted && d == '"') then
            readBackquoted quoted fuel (d :: acc)
          else readBackquoted quoted fuel (d :: '\\' :: acc)
      else readBackquoted quoted fuel (c :: acc)

def readSingleQuoted : Nat → Octets → Reading Octets
  | 0, _ => complain (.unclosed "'")
  | fuel + 1, acc => do
    match ← raw? with
    | none => complain (.unclosed "'")
    | some '\'' => return acc.reverse
    | some c => readSingleQuoted fuel (c :: acc)

def readEscaped : Nat → Octets → Reading Octets
  | 0, _ => complain (.unclosed "'")
  | fuel + 1, acc => do
    match ← raw? with
    | none => complain (.unclosed "'")
    | some '\'' => return Escape.quotedText acc.reverse
    | some '\\' =>
      match ← raw? with
      | none => complain (.unclosed "'")
      | some c => readEscaped fuel (c :: '\\' :: acc)
    | some c => readEscaped fuel (c :: acc)

def readDelimiter : Nat → Octets → Bool → Reading (Octets × Bool)
  | 0, acc, quoted => return (acc.reverse, quoted)
  | fuel + 1, acc, quoted => do
    match ← peek with
    | none => return (acc.reverse, quoted)
    | some c =>
      if endsWord c then return (acc.reverse, quoted)
      else if c == '\\' then
        skip 1
        match ← raw? with
        | some d => readDelimiter fuel (d :: acc) true
        | none => return (('\\' :: acc).reverse, true)
      else if c == '\'' then
        skip 1
        let text ← readSingleQuoted fuel []
        readDelimiter fuel (text.reverse ++ acc) true
      else if c == '"' then
        skip 1
        match splitAt? '"' (← get).rest with
        | some (text, rest) =>
          modify fun r => { r with rest }
          readDelimiter fuel (text.reverse ++ acc) true
        | none => complain (.unclosed "\"")
      else
        skip 1
        readDelimiter fuel (c :: acc) quoted

def sequenceOf : Option Command → Command → Command
  | none, c => c
  | some first, c => .sequence first c

def readOperator (c : Char) : Reading Token := do
  if ← isBash then
    let known := ["&>>", "&>", "&&", "|&", "||", ";;&", ";;", ";&"]
    let rest := c :: (← get).rest
    match known.find? fun op => op.toList.isPrefixOf rest with
    | some op =>
      skip (op.length - 1)
      return if op = "&>" || op = "&>>" then .redirect none op else .operator op
    | none => return .operator (String.singleton c)
  else if ← accept c then return .operator (String.ofList [c, c])
  else return .operator (String.singleton c)

def readRedirect (descriptor : Option Nat) : Reading Token := do
  let common := ["<<-", "<<", "<&", "<>", "<", ">>", ">&", ">|", ">"]
  let operators := if ← isBash then "<<<" :: common else common
  let rest := (← get).rest
  match operators.find? fun op => op.toList.isPrefixOf rest with
  | some op =>
    skip op.length
    return .redirect descriptor op
  | none => return .finish

def specialBuiltins : List String :=
  [".", ":", "break", "continue", "eval", "exec", "exit", "export", "local", "readonly", "return",
    "set", "shift", "times", "trap", "unset"]

def isSpecialBuiltin (name : Octets) : Bool := specialBuiltins.contains (String.ofList name)

def withRedirects (line : Nat) (c : Command) (redirects : List Redirect) : Command :=
  if redirects.isEmpty then c else .redirected line c redirects

/-- The items of a simple command, held in reverse. -/
structure Items where
  line : Nat
  assignments : List Word := []
  words : List Word := []
  redirects : List Redirect := []

def Items.toCommand (i : Items) : Command :=
  .simple i.line i.assignments.reverse i.words.reverse i.redirects.reverse

def splitWord (c : Char) : Word → List Word
  | [] => [[]]
  | .text s quoted :: rest =>
    let pieces := s.splitOn c
    let after := splitWord c rest
    let part := fun (piece : Octets) => if piece.isEmpty then [] else [Part.text piece quoted]
    (pieces.dropLast.map part) ++
      ((part (pieces.getLastD []) ++ after.headD []) :: after.tail)
  | part :: rest =>
    let after := splitWord c rest
    (part :: after.headD []) :: after.tail

def isFunctionName (dialect : Dialect) (name : Octets) : Bool :=
  match dialect with
  | .dash => isName name && !isSpecialBuiltin name
  | .bash => !name.isEmpty && !name.contains '='

def conditionUnary : List String :=
  ["-a", "-b", "-c", "-d", "-e", "-f", "-g", "-h", "-k", "-p", "-r", "-s", "-t", "-u", "-w", "-x",
    "-G", "-L", "-N", "-O", "-S", "-z", "-n", "-o", "-v", "-R"]

def conditionBinary : List String :=
  ["=", "==", "!=", "=~", "-eq", "-ne", "-lt", "-le", "-gt", "-ge", "-nt", "-ot", "-ef"]

def isClosing (w : Word) (quoted : Bool) : Bool := !quoted && w.plain? == some [']', ']']

def conditionOperator? : Token → Option String
  | .word [.text s false] false =>
    if conditionBinary.contains (String.ofList s) then some (String.ofList s) else none
  | .redirect none "<" => some "<"
  | .redirect none ">" => some ">"
  | _ => none

/-- Whether a text that may be an expression has no closing bracket at all. -/
def isOpenSum (s : Octets) : Bool := !s.contains ')'

/-- Whether an opening bracket, which the text begins with, is that of a subscript in front of an
assignment. -/
def opensSubscript (s : Octets) : Bool :=
  match Arithmetic.splitSubscript? 0 [] (s.drop 1) with
  | some (inside, '=' :: _) | some (inside, '+' :: '=' :: _) => !inside.contains '\n'
  | _ => false

/-- The name of the function that items begin to define; it need not be a good one. -/
def Items.functionName? (i : Items) : Option (Option Octets) :=
  match i.words with
  | [w] => if i.assignments.isEmpty && i.redirects.isEmpty then some w.plain? else none
  | _ => none

mutual

/-- Reads parts to the end of a word. The parts are held in reverse; the flag tells whether anything
was quoted. -/
def readParts : Nat → List Part → Bool → Reading (Word × Bool)
  | 0, _, _ => complain (.unclosed "\"")
  | fuel + 1, acc, quoted => do
    match ← peek with
    | none => return (inOrder acc, quoted)
    | some c =>
      if (c == '<' || c == '>') && (← get).dialect == .bash && (← get).rest[1]? == some '(' then
        skip 2
        let held ← readHeld fuel
        readParts fuel (.channel held (c == '>') :: acc) quoted
      else if endsWord c then
        let begins := c == '(' && (← get).dialect == .bash &&
          (Word.extendedAssignment? (inOrder acc)).any (·.2.isEmpty)
        if begins then
          skip 1
          let items ← enclosed (readValues fuel)
          readParts fuel (.values items :: acc) quoted
        else return (inOrder acc, quoted)
      else
        skip 1
        if c == '\\' then
          match ← raw? with
          | none => readParts fuel (addChar '\\' true acc) quoted
          | some d => readParts fuel (addChar d true acc) true
        else if c == '\'' then
          let text ← enclosed (readSingleQuoted ((← get).rest.length + 1) [])
          readParts fuel (.text text.reverse true :: acc) true
        else if c == '"' then
          let parts ← enclosed (readQuotes fuel [])
          readParts fuel (.quotes parts :: acc) true
        else if c == '$' then
          let part ← readDollar fuel false
          readParts fuel (part :: acc) quoted
        else if c == backquote then
          let part ← readOutput fuel false
          readParts fuel (part :: acc) quoted
        else if c == '[' && (← get).dialect == .bash && isBareName acc &&
            opensSubscript (c :: (← get).rest) then
          let (w, _) ← readUntil fuel [']'] []
          let opened := addChar '[' false acc
          readParts fuel (addChar ']' false (reversed w ++ opened)) quoted
        else readParts fuel (addChar c false acc) quoted

def readValues : Nat → Reading (List Word)
  | 0 => complain .tooDeep
  | fuel + 1 => do
    match ← readToken fuel ⟨true, false, false⟩ with
    | .word w _ => return w :: (← readValues fuel)
    | .operator ")" => return []
    | .finish => complain (.unclosed ")")
    | t => unexpected t none

def readQuotes : Nat → List Part → Reading Word
  | 0, _ => complain (.unclosed "\"")
  | fuel + 1, acc => do
    match ← peek with
    | none => complain (.unclosed "\"")
    | some c =>
      skipCounting c
      if c == '"' then return inOrder acc
      else if c == '\\' then
        match ← raw? with
        | none => readQuotes fuel (addChar '\\' true acc)
        | some d =>
          if d == '\\' || d == backquote || d == '$' || d == '"' then
            readQuotes fuel (addChar d true acc)
          else readQuotes fuel (addChar d true (addChar '\\' true acc))
      else if c == '$' then
        let part ← readDollar fuel true
        readQuotes fuel (part :: acc)
      else if c == backquote then
        let part ← readOutput fuel true
        readQuotes fuel (part :: acc)
      else readQuotes fuel (addChar c true acc)

/-- Parts up to a character that closes them, outside of double quotes; that character as well. -/
def readUntil : Nat → (closing : List Char) → List Part → Reading (Word × Char)
  | 0, _, _ => complain (.unclosed r"}")
  | fuel + 1, closing, acc => do
    match ← peek with
    | none => complain (.unclosed r"}")
    | some c =>
      skipCounting c
      if closing.contains c then return (inOrder acc, c)
      else if c == '\\' then
        match ← raw? with
        | none => readUntil fuel closing (addChar '\\' true acc)
        | some d => readUntil fuel closing (addChar d true acc)
      else if c == '\'' then
        let text ← readSingleQuoted ((← get).rest.length + 1) []
        readUntil fuel closing (.text text.reverse true :: acc)
      else if c == '"' then
        let parts ← readQuotes fuel []
        readUntil fuel closing (.quotes parts :: acc)
      else if c == '$' then
        let part ← readDollar fuel false
        readUntil fuel closing (part :: acc)
      else if c == backquote then
        let part ← readOutput fuel false
        readUntil fuel closing (part :: acc)
      else readUntil fuel closing (addChar c false acc)

/-- Parts up to a closing brace, inside of double quotes. A double quote opens or closes an inner
text, in which a brace means nothing. -/
def readBracedQuoted : Nat → (inner : Bool) → List Part → Reading Word
  | 0, _, _ => complain (.unclosed "\"")
  | fuel + 1, inner, acc => do
    match ← peek with
    | none => complain (.unclosed "\"")
    | some c =>
      skipCounting c
      if c == '}' && !inner then return inOrder acc
      else if c == '"' then readBracedQuoted fuel (!inner) acc
      else if c == '\\' then
        match ← raw? with
        | none => readBracedQuoted fuel inner (addChar '\\' true acc)
        | some d =>
          if d == '\\' || d == backquote || d == '$' || d == '"' || d == '}' then
            readBracedQuoted fuel inner (addChar d true acc)
          else readBracedQuoted fuel inner (addChar d true (addChar '\\' true acc))
      else if c == '$' then
        let part ← readDollar fuel true
        readBracedQuoted fuel inner (part :: acc)
      else if c == backquote then
        let part ← readOutput fuel true
        readBracedQuoted fuel inner (part :: acc)
      else readBracedQuoted fuel inner (addChar c true acc)

def readSum : Nat → (depth : Int) → List Part → Reading Word
  | 0, _, _ => complain (.unclosed "))")
  | fuel + 1, depth, acc => do
    match ← peek with
    | none => complain (.unclosed "))")
    | some c =>
      skipCounting c
      if c == '(' then readSum fuel (depth + 1) (addChar c true acc)
      else if c == ')' then
        if 0 < depth then readSum fuel (depth - 1) (addChar c true acc)
        else if ← accept ')' then return inOrder acc
        else if ← isBash then complain (.unclosed "))")
        else readSum fuel depth (addChar c true acc)
      else if c == '"' && (← isBash) then readSum fuel depth acc
      else if c == '\\' then
        match ← raw? with
        | none => readSum fuel depth (addChar '\\' true acc)
        | some d =>
          if d == '\\' || d == backquote || d == '$' || d == '"' then
            readSum fuel depth (addChar d true acc)
          else readSum fuel depth (addChar d true (addChar '\\' true acc))
      else if c == '$' then
        let part ← readDollar fuel true
        readSum fuel depth (part :: acc)
      else if c == backquote then
        let part ← readOutput fuel true
        readSum fuel depth (part :: acc)
      else readSum fuel depth (addChar c true acc)

def readDocument : Nat → List Part → Reading Word
  | 0, acc => return inOrder acc
  | fuel + 1, acc => do
    match ← peek with
    | none => return inOrder acc
    | some c =>
      skipCounting c
      if c == '\\' then
        match ← raw? with
        | none => readDocument fuel (addChar '\\' true acc)
        | some d =>
          if d == '\\' || d == backquote || d == '$' then readDocument fuel (addChar d true acc)
          else readDocument fuel (addChar d true (addChar '\\' true acc))
      else if c == '$' then
        let part ← readDollar fuel true
        readDocument fuel (part :: acc)
      else if c == backquote then
        let part ← readOutput fuel true
        readDocument fuel (part :: acc)
      else readDocument fuel (addChar c true acc)

/-- What a dollar sign begins; by itself it is a text. -/
def readDollar : Nat → (quoted : Bool) → Reading Part
  | 0, _ => complain (.unclosed r"}")
  | fuel + 1, quoted => do
    match ← peek with
    | some '(' =>
      skip 1
      let isSum := (← get).rest.head? == some '('
      if isSum && (← isBash) && isOpenSum (← get).rest then
        enclosed (complain (.unclosed ")"))
      match ← if isSum && (← isBash) then attempt? (skip 1 *> readSum fuel 0 []) else pure none with
      | some w => return .arithmetic w quoted
      | none =>
        if !(← isBash) && (← accept '(') then return .arithmetic (← readSum fuel 0 []) quoted
        else
          return .output (← readHeld fuel) quoted
    | some '{' =>
      skip 1
      if ← isBash then enclosed (readReference fuel quoted) else readBracedParameter fuel quoted
    | some c =>
      if c == '\'' && !quoted && (← isBash) then
        skip 1
        return .text (← enclosed (readEscaped ((← get).rest.length + 1) [])).reverse true
      else if c == '"' && !quoted && (← isBash) then
        skip 1
        return .quotes (← enclosed (readQuotes fuel []))
      else if isNameStart c then
        return .parameter (String.ofList (← readName fuel isNameChar [])) .value [] quoted
      else if isSpecial c then
        skip 1
        return .parameter (String.singleton c) .value [] quoted
      else return .text ['$'] quoted
    | none => return .text ['$'] quoted

def readHeld : Nat → Reading (Option Command)
  | 0 => complain .tooDeep
  | fuel + 1 => do
    let pushed := (← get).pushed
    modify fun r => { r with pushed := none }
    let c ← readList fuel .optional none
    let t ← readToken fuel .plain
    if !t.isOperator ")" then
      match t with
      | .finish => if ← isBash then complain (.unclosed ")") else unexpected t (some "\")\"")
      | t => unexpected t (some "\")\"")
    modify fun r => { r with pushed }
    return c

def readBracedParameter : Nat → (quoted : Bool) → Reading Part
  | 0, _ => complain (.unclosed r"}")
  | fuel + 1, quoted => do
    let readRest := fun (trim : Bool) =>
      if quoted && !trim then readBracedQuoted fuel false []
      else Prod.fst <$> readUntil fuel ['}'] []
    match ← readBracedName fuel with
    | none => return .parameter "" .invalid (← readRest false) quoted
    | some (name, true) =>
      if ← accept '}' then return .parameter name .length [] quoted
      else return .parameter name .invalid (← readRest false) quoted
    | some (name, false) =>
      if ← accept '}' then return .parameter name .value [] quoted
      else
        let _ ← peek
        match operation? (← get).rest with
        | some (operation, length) =>
          skip length
          return .parameter name operation (← readRest operation.isTrim) quoted
        | none =>
          if (← accept ':') then
            let _ ← accept '}'
          else skip 1
          return .parameter name .invalid (← readRest false) quoted

def readReference : Nat → (quoted : Bool) → Reading Part
  | 0, _ => complain (.unclosed r"}")
  | fuel + 1, quoted => do
    let rest := (← get).rest
    let isIndirect := rest.head? == some '!' &&
      rest[1]?.any fun c => isNameChar c || c == '@' || c == '*'
    if isIndirect then skip 1
    let isLast := r"!#}".toList.isPrefixOf rest
    if isLast then
      skip 3
      return .reference "#" none .indirect .value [] [] quoted
    match ← readBracedName fuel with
    | none =>
      let _ ← readUntil fuel ['}'] []
      return .parameter (String.ofList (rest.takeWhile (· != '}'))) .invalid [] quoted
    | some (name, isLength) =>
      let index ← if isName name.toList && (← accept '[') then
          Option.some <$> (Prod.fst <$> readUntil fuel [']'] [])
        else pure none
      let isAll := index.any fun w => [some ['@'], some ['*']].contains w.plain?
      let after := (← get).rest
      let part := fun (access : Access) (operation : Operation) (word second : Word) =>
        Part.reference name index access operation word second quoted
      let access := if isIndirect then Access.indirect else .value
      if isIndirect && isAll && after.head? == some '}' then
        skip 1
        return part .keys .value [] []
      else if isIndirect && [r"@}".toList, r"*}".toList].contains (after.take 2) then
        skip 2
        return .reference (name ++ String.ofList (after.take 1)) index .names .value [] [] quoted
      else if ← accept '}' then
        if isLength then return part access .length [] []
        else if index.isNone && !isIndirect then return .parameter name .value [] quoted
        else return part access .value [] []
      else
        match if isLength then none else extendedOperation? after with
        | none =>
          let _ ← readUntil fuel ['}'] []
          return .parameter (String.ofList (rest.takeWhile (· != '}'))) .invalid [] quoted
        | some (operation, length) =>
          skip length
          match operation with
          | .slice => do
            let (word, closing) ← readUntil fuel [':', '}'] []
            let second ← if closing == ':' then Prod.fst <$> readUntil fuel ['}'] [] else pure []
            return part access operation word second
          | .replaced _ => do
            let (word, closing) ← readUntil fuel ['/', '}'] []
            let second ← if closing == '/' then Prod.fst <$> readUntil fuel ['}'] [] else pure []
            return part access operation word second
          | .withoutPrefix _ | .withoutSuffix _ | .cased _ _ | .formed _ => do
            return part access operation (← readUntil fuel ['}'] []).1 []
          | _ => do
            let word ← if quoted then readBracedQuoted fuel false []
              else Prod.fst <$> readUntil fuel ['}'] []
            return part access operation word []

def readOutput : Nat → (quoted : Bool) → Reading Part
  | 0, _ => complain (.unclosed (String.singleton backquote))
  | fuel + 1, quoted => do
    let source ← enclosed (readBackquoted quoted ((← get).rest.length + 1) [])
    let outer ← get
    set { outer with rest := source, pushed := none }
    let c ← readList fuel .optional none
    let t ← readToken fuel .plain
    match t with
    | .finish => pure ()
    | t => unexpected t none
    modify fun r => { r with rest := outer.rest, line := outer.line, pushed := outer.pushed }
    return .output c quoted

def readDocuments : Nat → List Announced → Reading Unit
  | 0, _ => return
  | _, [] => return
  | fuel + 1, a :: rest => do
    let r ← get
    let (body, lines, found, after) := untilLine a (r.rest.length + 1) r.rest
    let ending := r.line + lines - (if r.rest.getLast? == some '\n' then 1 else 0)
    let r := if found then r else { r with unfinished := r.unfinished ++ [(ending, a)] }
    if a.quoted then
      set { r with
        rest := after
        line := r.line + lines
        documents := (a.number, [.text body true]) :: r.documents }
    else
      set { r with rest := body }
      let w ← readDocument fuel []
      modify fun s => { s with
        rest := after
        line := r.line + lines
        documents := (a.number, w) :: s.documents }
    readDocuments fuel rest

def readRaw : Nat → Reading Token
  | 0 => return .finish
  | fuel + 1 => do
    match ← peek with
    | none => return .finish
    | some c =>
      if isBlank c then
        skip 1
        readRaw fuel
      else if c == '#' then
        modify fun r => { r with rest := r.rest.dropWhile (· != '\n') }
        readRaw fuel
      else if c == '\n' then
        skip 1
        countLine
        let announced := (← get).announced
        if !announced.isEmpty then
          modify fun r => { r with announced := [] }
          readDocuments fuel announced
        return .newline
      else if c == '&' || c == '|' || c == ';' then
        skip 1
        readOperator c
      else if c == '(' || c == ')' then
        skip 1
        return .operator (String.singleton c)
      else
        let (w, quoted) ← readParts fuel [] false
        match ← peek with
        | some d =>
          if (d == '<' || d == '>') && !quoted then
            match w with
            | [] => readRedirect none
            | [.text digits false] =>
              if digits.all Char.isDigit && (digits.length = 1 || (← isBash)) then
                readRedirect (some ((String.ofList digits).toNat?.getD 0))
              else return .word w quoted
            | _ => return .word w quoted
          else return .word w quoted
        | none => return .word w quoted
def readToken : Nat → Look → Reading Token
  | 0, _ => return .finish
  | fuel + 1, look => do
    let t ← match (← get).pushed with
      | some t => do
        modify fun r => { r with pushed := none }
        pure t
      | none => readRaw fuel
    match t with
    | .newline => if look.newlines then readToken fuel look else return t
    | .word [.text s false] false =>
      let name := String.ofList s
      if look.keywords && (← get).dialect.keywords.contains name then return .keyword name
      else if look.aliases then
        let r ← get
        match r.aliases.find? fun a => a.1 = name && !isReplacing r name with
        | some (_, value) =>
          replaceAlias name value
          readToken fuel look
        | none => return t
      else return t
    | _ => return t

def readList : Nat → ListKind → Option Command → Reading (Option Command)
  | 0, _, _ => complain .tooDeep
  | fuel + 1, kind, acc => do
    let t ← readToken fuel (if kind = .line then .command else .onwards)
    match t with
    | .newline => return acc
    | .finish =>
      push .finish
      return acc
    | t =>
      push t
      if t.endsList && (kind = .optional || (kind = .required && acc.isSome)) then return acc
      else
        let c ← readAndOr fuel
        let t ← readToken fuel .plain
        let c := if t.isOperator "&" then .background c else c
        let acc := sequenceOf acc c
        match t with
        | .finish =>
          push .finish
          return some acc
        | .newline =>
          push .newline
          readList fuel kind (some acc)
        | .operator "&" | .operator ";" => readList fuel kind (some acc)
        | t =>
          if kind = .line then unexpected t none
          else
            push t
            return some acc

def readAndOr : Nat → Reading Command
  | 0 => complain .tooDeep
  | fuel + 1 => do
    let c ← readPipeline fuel .plain
    readJoined fuel c

def readJoined : Nat → Command → Reading Command
  | 0, _ => complain .tooDeep
  | fuel + 1, c => do
    match ← readToken fuel .plain with
    | .operator "&&" => do
      let d ← readPipeline fuel .onwards
      readJoined fuel (.both c d)
    | .operator "||" => do
      let d ← readPipeline fuel .onwards
      readJoined fuel (.either c d)
    | t => do
      push t
      return c

def readPipeline : Nat → Look → Reading Command
  | 0, _ => complain .tooDeep
  | fuel + 1, look => do
    let t ← readToken fuel look
    let negated := t.isKeyword "!"
    if !negated then push t
    let c ← readCommand fuel (if negated then .command else .plain)
    let c ← match ← readStages fuel c with
      | [c] => pure c
      | stages => pure (.pipeline stages)
    return if negated then .negated c else c

def readStages : Nat → Command → Reading (List Command)
  | 0, _ => complain .tooDeep
  | fuel + 1, c => do
    let t ← readToken fuel .plain
    if t.isOperator "|" || t.isOperator "|&" then
      let joined := Redirect.mk 2 .copy [.text ['1'] false]
      let here ← line
      let c := if t.isOperator "|&" then .redirected here c [joined] else c
      let next ← readCommand fuel .onwards
      return c :: (← readStages fuel next)
    else
      push t
      return [c]

def readCommand : Nat → Look → Reading Command
  | 0, _ => complain .tooDeep
  | fuel + 1, look => do
    let start ← line
    match ← readToken fuel look with
    | .keyword "if" => do
      let c ← readConditional fuel
      return withRedirects start c (← readRedirects fuel)
    | .keyword "while" => do
      let c ← readLoop fuel false
      return withRedirects start c (← readRedirects fuel)
    | .keyword "until" => do
      let c ← readLoop fuel true
      return withRedirects start c (← readRedirects fuel)
    | .keyword "for" => do
      let c ← readFor fuel start
      return withRedirects start c (← readRedirects fuel)
    | .keyword "[[" => do
      let c ← readCondition fuel
      match ← readToken fuel ⟨true, false, false⟩ with
      | .word [.text [']', ']'] false] false => pure ()
      | t => unexpected t none
      return withRedirects start (.condition start c) (← readRedirects fuel)
    | .keyword "function" => do
      match ← readToken fuel .plain with
      | .word w _ => do
        let name := w.plain?.getD []
        let t ← readToken fuel .plain
        if t.isOperator "(" then expect fuel (.operator ")") else push t
        let body ← readCommand fuel .onwards
        return .define (String.ofList name) body
      | t => unexpected t none
    | .keyword "case" => do
      let (subject, arms) ← readChoice fuel
      return withRedirects start (.choice start subject arms) (← readRedirects fuel)
    | .keyword r"{" => do
      let c ← readRequired fuel
      expect fuel (.keyword r"}")
      return withRedirects start c (← readRedirects fuel)
    | .operator "(" => do
      let isSum := (← get).rest.head? == some '('
      if isSum && (← isBash) && isOpenSum (← get).rest then
        enclosed (complain (.unclosed ")"))
      match ← if isSum && (← isBash) then attempt? (skip 1 *> readSum fuel 0 []) else pure none with
      | some w => return withRedirects start (.calculation start w) (← readRedirects fuel)
      | none =>
        let c ← readRequired fuel
        expect fuel (.operator ")")
        let redirects ← readRedirects fuel
        return .subshell start c redirects
    | .word w quoted => do
      push (.word w quoted)
      readItems fuel { line := ← line }
    | .redirect descriptor op => do
      push (.redirect descriptor op)
      readItems fuel { line := ← line }
    | t => unexpected t none

def readRequired : Nat → Reading Command
  | 0 => complain .tooDeep
  | fuel + 1 => do
    match ← readList fuel .required none with
    | some c => return c
    | none => return .simple 0 [] [] []

def expect : Nat → Token → Reading Unit
  | 0, _ => complain .tooDeep
  | fuel + 1, wanted => do
    let t ← readToken fuel .plain
    let found := match wanted with
      | .keyword s => t.isKeyword s
      | .operator s => t.isOperator s
      | _ => false
    if !found then unexpected t (some wanted.name)

def readRedirects : Nat → Reading (List Redirect)
  | 0 => complain .tooDeep
  | fuel + 1 => do
    match ← readToken fuel .command with
    | .redirect descriptor op => do
      let r ← readTarget fuel descriptor op
      return r :: (← readRedirects fuel)
    | t => do
      push t
      return []

def readTarget : Nat → Option Nat → String → Reading Redirect
  | 0, _, _ => complain .tooDeep
  | fuel + 1, descriptor, op => do
    let usual := if op.toList.head? == some '<' then 0 else 1
    let descriptor := descriptor.getD usual
    if op == "<<" || op == "<<-" then
      modify fun r => { r with rest := r.rest.dropWhile isBlank }
      match ← peek with
      | some c => if endsWord c then unexpected (← readToken fuel .plain) none
      | none => unexpected .finish none
      let (delimiter, quoted) ← readDelimiter fuel [] false
      let r ← get
      set { r with
        fresh := r.fresh + 1
        announced := r.announced ++ [Announced.mk r.fresh r.line delimiter quoted (op == "<<-")] }
      return .mk descriptor (.document r.fresh) []
    else
      match ← readToken fuel .plain with
      | .word w _ =>
        let kind : RedirectKind := match op with
          | "<" => .input
          | "<>" => .both
          | ">>" => .append
          | ">|" => .overwrite
          | ">" => .output
          | "<<<" => .line
          | "&>" => .everything false
          | "&>>" => .everything true
          | _ => .copy
        return .mk descriptor kind w
      | t => unexpected t none

/-- A simple command behind the items already read, or the definition of a function. -/
def readItems : Nat → Items → Reading Command
  | 0, _ => complain .tooDeep
  | fuel + 1, items => do
    let isAsked ← isAsked
    let look := if items.words.isEmpty || isAsked then Look.mk false false true else .plain
    match ← readToken fuel look with
    | .word w _ =>
      let r ← get
      let items := if r.dialect == .bash then { items with line := r.line } else items
      if items.words.isEmpty && (w.assigned? r.dialect).isSome then
        readItems fuel { items with assignments := w :: items.assignments }
      else readItems fuel { items with words := w :: items.words }
    | .redirect descriptor op => do
      let r ← readTarget fuel descriptor op
      readItems fuel { items with redirects := r :: items.redirects }
    | t => do
      match t.isOperator "(", items.functionName? with
      | true, some name =>
        expect fuel (.operator ")")
        let dialect := (← get).dialect
        match name.filter (isFunctionName dialect) with
        | some good => do
          let body ← readCommand fuel .onwards
          return .define (String.ofList good) body
        | none => complain (.badFunctionName (name.getD []))
      | _, _ =>
        push t
        return items.toCommand

def readConditional : Nat → Reading Command
  | 0 => complain .tooDeep
  | fuel + 1 => do
    let test ← readRequired fuel
    expect fuel (.keyword "then")
    let yes ← readRequired fuel
    match ← readToken fuel .plain with
    | .keyword "elif" =>
      let no ← readConditional fuel
      return .conditional test yes (some no)
    | .keyword "else" => do
      let no ← readRequired fuel
      expect fuel (.keyword "fi")
      return .conditional test yes (some no)
    | .keyword "fi" => return .conditional test yes none
    | t => unexpected t (some "\"fi\"")

def readLoop : Nat → Bool → Reading Command
  | 0, _ => complain .tooDeep
  | fuel + 1, untilTrue => do
    let test ← readRequired fuel
    expect fuel (.keyword "do")
    let body ← readRequired fuel
    expect fuel (.keyword "done")
    return .loop untilTrue test body

def readFor : Nat → (start : Nat) → Reading Command
  | 0, _ => complain .tooDeep
  | fuel + 1, start => do
    let rest := (← get).rest.dropWhile isBlank
    if (← isBash) && "((".toList.isPrefixOf rest then
      modify fun r => { r with rest := rest.drop 2 }
      match splitWord ';' (← readSum fuel 0 []) with
      | [first, test, step] => do
        let t ← readToken fuel .onwards
        let t ← if t.isOperator ";" then readToken fuel .onwards else pure t
        let body ← readBody fuel t
        return .counting start first test step body
      | _ => complain .badLoopName
    else
      let (name, words, body) ← readEach fuel
      return .each start name words body

def readCondition : Nat → Reading Condition
  | 0 => complain .tooDeep
  | fuel + 1 => do
    let a ← readConjunction fuel
    let t ← readToken fuel ⟨true, false, false⟩
    if t.isOperator "||" then return .either a (← readCondition fuel)
    else
      push t
      return a

def readConjunction : Nat → Reading Condition
  | 0 => complain .tooDeep
  | fuel + 1 => do
    let a ← readComparison fuel
    let t ← readToken fuel ⟨true, false, false⟩
    if t.isOperator "&&" then return .both a (← readConjunction fuel)
    else
      push t
      return a

def readComparison : Nat → Reading Condition
  | 0 => complain .tooDeep
  | fuel + 1 => do
    match ← readToken fuel ⟨true, false, false⟩ with
    | .operator "(" => do
      let c ← readCondition fuel
      match ← readToken fuel ⟨true, false, false⟩ with
      | .operator ")" => return c
      | t => unexpected t none
    | .word w quoted => do
      let name := if quoted then none else w.plain?.map String.ofList
      if name = some "!" then return .negated (← readComparison fuel)
      else
        let t ← readToken fuel .plain
        match conditionOperator? t, t with
        | some "=~", _ => do
          modify fun r => { r with rest := r.rest.dropWhile isBlank }
          return .binary "=~" w (← readExpression fuel 0 [])
        | some op, _ => do
          match ← readToken fuel .plain with
          | .word b bQuoted =>
            if isClosing b bQuoted then complain (.badCondition (.argument 2) (.word b bQuoted))
            else return .binary op w b
          | t => complain (.badCondition (.argument 2) t)
        | none, .word b bQuoted =>
          if isClosing b bQuoted then
            if name.any conditionUnary.contains then complain (.badCondition (.argument 1) t)
            else
              push t
              return .nonEmpty w
          else if name.any conditionUnary.contains then return .unary (name.getD "") b
          else complain (.badCondition .operator t)
        | none, .newline => complain (.badCondition .operator .newline)
        | none, t => do
          push t
          return .nonEmpty w
    | t => unexpected t none

/-- A regular expression as a word: brackets in it may hold blanks. -/
def readExpression : Nat → (depth : Nat) → List Part → Reading Word
  | 0, _, _ => complain .tooDeep
  | fuel + 1, depth, acc => do
    match ← peek with
    | none => return inOrder acc
    | some c =>
      if c == '\n' || (isBlank c && depth = 0) then return inOrder acc
      else
        skip 1
        if c == '\\' then
          match ← raw? with
          | none => readExpression fuel depth (addChar '\\' false acc)
          | some d => readExpression fuel depth (addChar d true acc)
        else if c == '\'' then
          let text ← enclosed (readSingleQuoted ((← get).rest.length + 1) [])
          readExpression fuel depth (.text text.reverse true :: acc)
        else if c == '"' then
          let parts ← enclosed (readQuotes fuel [])
          readExpression fuel depth (.quotes parts :: acc)
        else if c == '$' then
          let part ← readDollar fuel false
          readExpression fuel depth (part :: acc)
        else if c == backquote then
          let part ← readOutput fuel false
          readExpression fuel depth (part :: acc)
        else
          let depth := if c == '(' then depth + 1 else if c == ')' then depth - 1 else depth
          readExpression fuel depth (addChar c false acc)

def readEach : Nat → Reading (String × Option (List Word) × Command)
  | 0 => complain .tooDeep
  | fuel + 1 => do
    let name ← match ← readToken fuel .plain with
      | .word [.text s false] false =>
        if isName s || (← isBash) then pure (String.ofList s)
        else complain .badLoopName
      | _ => complain .badLoopName
    let t ← readToken fuel .onwards
    let words ← if t.isKeyword "in" then do
        let ws ← readWords fuel
        pure (some ws)
      else do
        if !t.isOperator ";" then push t
        pure none
    let body ← readBody fuel (← readToken fuel .onwards)
    return (name, words, body)

def readBody : Nat → Token → Reading Command
  | 0, _ => complain .tooDeep
  | fuel + 1, t => do
    let isBraced := t.isKeyword r"{" && (← isBash)
    if !isBraced && !t.isKeyword "do" then unexpected t (some "\"do\"")
    let body ← readRequired fuel
    expect fuel (.keyword (if isBraced then r"}" else "done"))
    return body

def readWords : Nat → Reading (List Word)
  | 0 => complain .tooDeep
  | fuel + 1 => do
    match ← readToken fuel .plain with
    | .word w _ => return w :: (← readWords fuel)
    | .newline | .operator ";" => return []
    | t => unexpected t none

def readChoice : Nat → Reading (Word × List (List Word × Option Command × ArmEnd))
  | 0 => complain .tooDeep
  | fuel + 1 => do
    let subject ← match ← readToken fuel .plain with
      | .word w _ => pure w
      | t => unexpected t (some "word")
    let t ← readToken fuel .onwards
    if !t.isKeyword "in" then unexpected t (some "\"in\"")
    let arms ← readArms fuel
    return (subject, arms)

def readArms : Nat → Reading (List (List Word × Option Command × ArmEnd))
  | 0 => complain .tooDeep
  | fuel + 1 => do
    let t ← readToken fuel .keyword
    if t.isKeyword "esac" then return []
    else
      let t ← if t.isOperator "(" then readToken fuel .plain else pure t
      let patterns ← readPatterns fuel t
      let body ← readList fuel .optional none
      let t ← readToken fuel .keyword
      if t.isKeyword "esac" then return [(patterns, body, .finish)]
      else if t.isOperator ";;" then return (patterns, body, .finish) :: (← readArms fuel)
      else if t.isOperator ";&" then return (patterns, body, .intoNext) :: (← readArms fuel)
      else if t.isOperator ";;&" then return (patterns, body, .lookOn) :: (← readArms fuel)
      else unexpected t (some "\";;\"")

def readPatterns : Nat → Token → Reading (List Word)
  | 0, _ => complain .tooDeep
  | fuel + 1, first => do
    match ← readToken fuel .plain with
    | .operator "|" => do
      let t ← readToken fuel .plain
      return first.toWord :: (← readPatterns fuel t)
    | .operator ")" => return [first.toWord]
    | t => unexpected t (some "\")\"")

end

inductive Line where
  | finish
  | empty
  | command (c : Command)

def readLine (r : Reader) : Except Complaint (Line × Reader) := do
  let fuel := 16 * r.rest.length + 64
  let (t, r) ← readToken fuel .command
    { r with pushed := none, announced := [], replaced := [], asking := none, unfinished := [] }
  match t with
  | .finish => return (.finish, r)
  | .newline => return (.empty, r)
  | t =>
    let (c, r) ← readList fuel .line none { r with pushed := some t }
    return (c.elim .empty .command, r)

end LoadScript.Shell
