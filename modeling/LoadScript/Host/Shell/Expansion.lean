import LoadScript.Host.Shell.Braces
import LoadScript.Host.Shell.Quoting
import LoadScript.Host.Shell.Session
import LoadScript.Text.Sorted

/-!
# Expansion of words

The parts of a word become characters, which remember whether they were quoted. Values that were not
quoted are cut into fields, and fields that are patterns become the paths that they cover.
-/

set_option autoImplicit false

namespace LoadScript.Shell

inductive Piece where
  | mark (m : Mark)
  /-- Something that makes a field even when it is empty. -/
  | present
  /-- The end of an argument, when all of them stand for a word. -/
  | cut

namespace Piece

def ofValue (quoted : Bool) (value : Octets) : List Piece :=
  value.map fun c => .mark ⟨c, quoted, !quoted⟩

end Piece

/-! ## Fields -/

def isSpaceSeparator (separators : Octets) (m : Mark) : Bool :=
  m.splits && separators.contains m.char && (isBlank m.char || m.char == '\n')

def isSeparator (separators : Octets) (m : Mark) : Bool := m.splits && separators.contains m.char

/-- The fields of pieces. The field that is open is held in reverse; `spaced` tells that blanks have
ended the last one, so that another separator belongs to them. -/
def fieldsFrom (separators : Octets) : Option (List Mark) → (spaced : Bool) → List Piece →
    List (List Mark)
  | none, _, [] => []
  | some field, _, [] => [field.reverse]
  | field, _, .present :: rest => fieldsFrom separators (some (field.getD [])) false rest
  | none, _, .cut :: rest => fieldsFrom separators none false rest
  | some field, _, .cut :: rest => field.reverse :: fieldsFrom separators none false rest
  | field, spaced, .mark m :: rest =>
    if isSpaceSeparator separators m then
      match field with
      | none => fieldsFrom separators none spaced rest
      | some field => field.reverse :: fieldsFrom separators none true rest
    else if isSeparator separators m then
      match field, spaced with
      | none, true => fieldsFrom separators none false rest
      | _, _ => (field.getD []).reverse :: fieldsFrom separators none false rest
    else fieldsFrom separators (some (m :: field.getD [])) false rest

def fields (separators : Octets) (ps : List Piece) : List (List Mark) :=
  fieldsFrom separators none false ps

/-- Pieces as one text, in which the first separator stands between arguments. -/
def marksOf (separators : Octets) (ps : List Piece) : List Mark :=
  ps.flatMap fun p => match p with
    | .mark m => [m]
    | .present => []
    | .cut => Mark.literal (separators.take 1)

/-! ## Paths -/

def pathPieces : List Mark → List (List Mark)
  | [] => [[]]
  | m :: rest =>
    if m.char == '/' then [] :: pathPieces rest
    else
      match pathPieces rest with
      | [] => [[m]]
      | piece :: more => (m :: piece) :: more

/-- The names in a directory that a pattern covers. A dot in front has to be asked for; one dialect
then also finds the directory itself and the one above it. -/
def coveredNames (dialect : Dialect) (v : Volume) (dir : String) (pattern : List Mark) :
    List Octets :=
  let asksForDot := pattern.head?.any fun m => m.char == '.'
  match v.locate (if dir = "" then "." else dir) with
  | .error _ => []
  | .ok l =>
    if (v.lookup l).any Entry.isDirectory then
      let names := (if dialect == .dash then [".", ".."] else []) ++ v.children l
      let atoms := Pattern.read pattern
      (names.map Octets.ofText).filter fun name =>
        (name.head? != some '.' || asksForDot) && Pattern.covers atoms name
    else []

def coveredPaths (dialect : Dialect) (v : Volume) :
    List (List Mark) → (front : Octets) → List Octets
  | [], front => [front]
  | [last], front =>
    if Pattern.isPattern last then
      (coveredNames dialect v (Octets.toText front) last).map (front ++ ·)
    else
      let path := front ++ Mark.text last
      if (v.locate (Octets.toText path)).toOption.isSome then [path] else []
  | piece :: rest, front =>
    if Pattern.isPattern piece then
      (coveredNames dialect v (Octets.toText front) piece).flatMap fun name =>
        coveredPaths dialect v rest (front ++ name ++ ['/'])
    else coveredPaths dialect v rest (front ++ Mark.text piece ++ ['/'])

/-- The paths that a field stands for: those that it covers as a pattern, in order, or itself. -/
def paths (s : Session) (v : Volume) (field : List Mark) : List Octets :=
  match (coveredPaths s.dialect v (pathPieces field) []).map String.ofList with
  | [] => if s.namedOptions.contains "nullglob" then [] else [Mark.text field]
  | found => (Text.sort found).map String.toList

/-! ## Parameters -/

namespace Session

def parameter? (s : Session) (name : String) : Option Octets :=
  match name with
  | "#" => some (Octets.ofNat s.arguments.length)
  | "?" => some (Octets.ofNat s.status)
  | "$" => some (Octets.ofNat s.pid)
  | "!" => s.lastJob.map Octets.ofNat
  | "-" =>
    let letters := match s.dialect with
      | .dash => "ubaCEVvxsnmiIfe"
      | .bash => "abefhkmnptuvxBCEHPTcs"
    some (letters.toList.filter s.options.contains)
  | "0" => some s.name
  | _ =>
    if name.toList.all Char.isDigit then s.arguments[name.toNat?.getD 0 - 1]?
    else s.get? name

def joined (s : Session) : Octets := (s.separators.take 1).intercalate s.arguments

end Session

def isArguments (name : String) : Bool := name = "@" || name = "*"

def changeCase (upper all : Bool) (pattern : List Pattern.Atom) (s : Octets) : Octets :=
  let change := fun (c : Char) =>
    if !pattern.isEmpty && !Pattern.covers pattern [c] then c
    else if upper then c.toUpper else c.toLower
  if all then s.map change else
    match s with
    | c :: rest => change c :: rest
    | [] => []

def formOf (letter : Char) (s : Octets) : Octets :=
  match letter with
  | 'U' => s.map Char.toUpper
  | 'L' => s.map Char.toLower
  | 'u' => changeCase true false [] s
  | 'Q' => quoteFully s
  | 'E' => Escape.quotedText s
  | _ => []

/-- The part of a list from an offset on, which counts from the end if it is negative. -/
def slice {α : Type} (offset : Int) (length : Option Int) (s : List α) : Option (List α) :=
  let size := Int.ofNat s.length
  let start := if offset < 0 then offset + size else offset
  if start < 0 || size < start then some []
  else
    match length with
    | none => some (s.drop start.toNat)
    | some n =>
      let stop := if n < 0 then size + n else start + n
      if stop < start then none else some ((s.drop start.toNat).take (stop - start).toNat)

/-! ## Tildes -/

def homeOf? (s : Session) (name : Octets) : Option Octets :=
  if name.isEmpty then s.get? "HOME"
  else if name = "root".toList then some "/root".toList
  else none

/-- A text that a tilde may begin, and whether the word ends with the text. -/
def expandTilde (s : Session) (ends : Char → Bool) (isLast : Bool) (text : Octets) : List Part :=
  match text with
  | '~' :: rest =>
    let name := rest.takeWhile (!ends ·)
    let after := rest.drop name.length
    match if after.isEmpty && !isLast then none else homeOf? s name with
    | some home => [.text home true] ++ (if after.isEmpty then [] else [.text after false])
    | none => [.text text false]
  | _ => [.text text false]

def withTilde (s : Session) : Word → Word
  | .text text false :: rest => expandTilde s (· == '/') rest.isEmpty text ++ rest
  | w => w

def colonPieces : Octets → List Octets
  | [] => [[]]
  | ':' :: rest => [] :: colonPieces rest
  | c :: rest =>
    match colonPieces rest with
    | [] => [[c]]
    | piece :: more => (c :: piece) :: more

/-- The value of an assignment with its tildes replaced, in front and behind colons. -/
def withTildes (s : Session) : Word → Word
  | .text text false :: rest =>
    let pieces := (colonPieces text).map fun piece =>
      expandTilde s (· == '/') (rest.isEmpty || text.contains ':') piece
    (pieces.intersperse [.text [':'] false]).flatten ++ rest
  | w => w

/-! ## Expansion -/

namespace Action

def wordDepth : Nat := 1000

def scope (s : Session) : Arithmetic.Scope :=
  { value := fun place =>
      match place.key with
      | none => s.get? place.name
      | some key => s.element? place.name key
    isNamed := fun name => (s.elements? name).any (·.isNamed) }

def sum (text : Octets) : Action Int := do
  let s ← get
  match Arithmetic.evaluate s.dialect (scope s) text with
  | .ok (n, assigned) =>
    for (place, value) in assigned do
      match place.key with
      | none => assign place.name (Int.repr value).toList
      | some key => assignElement place.name key (Int.repr value).toList
    return n
  | .error fault => fail (.badExpression (fault.message s.dialect))

def plainParameter (name : String) (quoted : Bool) : Action (List Piece) := do
  let s ← get
  if isArguments name then
    if name = "*" && quoted then return Piece.ofValue true s.joined
    else
      let arguments := s.arguments.map fun a =>
        if quoted then .present :: Piece.ofValue true a else Piece.ofValue false a
      return [Piece.cut].intercalate arguments
  else
    match s.parameter? name with
    | some value => return Piece.ofValue quoted value
    | none => if s.has 'u' then fail (.unset name) else return []

/-- What a reference is to: the values, and which sign asks for all of them if one does. -/
structure Referent where
  name : String
  key : Option Octets
  values : List Octets
  all : Option Char

namespace Referent

def pieces (r : Referent) (separators : Octets) (quoted : Bool) (values : List Octets) :
    List Piece :=
  match r.all with
  | none => Piece.ofValue quoted (values.headD [])
  | some sign =>
    if sign == '*' && quoted then Piece.ofValue true ((separators.take 1).intercalate values)
    else [Piece.cut].intercalate (values.map fun value =>
      if quoted then .present :: Piece.ofValue true value else Piece.ofValue false value)

def isMissing (r : Referent) (alsoEmpty : Bool) : Bool :=
  r.values.isEmpty || (alsoEmpty && r.values.flatten.isEmpty)

def title (r : Referent) : String :=
  match r.key with
  | some key => r.name ++ "[" ++ String.ofList key ++ "]"
  | none => r.name

end Referent

def allSign? (s : Octets) : Option Char :=
  match s with
  | ['@'] => some '@'
  | ['*'] => some '*'
  | _ => none

/-- The key that a text denotes in an array; a negative number counts from its end. -/
def keyOf (name : String) (text : Octets) : Action Octets := do
  match (← get).elements? name with
  | some (.named _) => return text
  | found => do
    let n ← sum text
    let n := if n < 0 then n + Int.ofNat (found.elim 1 (·.next)) else n
    if n < 0 then fail (.badSubscript name text) else return (Int.repr n).toList

def referent (name : String) (subscript : Option Octets) : Action Referent := do
  let s ← get
  match subscript with
  | none =>
    if isArguments name then return ⟨name, none, s.arguments, name.toList.head?⟩
    else return ⟨name, none, (s.parameter? name).toList, none⟩
  | some text =>
    match allSign? text with
    | some sign =>
      let values := match s.elements? name with
        | some e => e.values
        | none => (s.get? name).toList
      return ⟨name, some text, values, some sign⟩
    | none => do
      let key ← keyOf name text
      return ⟨name, some key, ((← get).element? name key).toList, none⟩

def splitReference (s : Octets) : String × Option Octets :=
  match splitAt? '[' s with
  | some (name, rest) => (String.ofList name, some rest.dropLast)
  | none => (String.ofList s, none)

def accessed (name : String) (subscript : Option Octets) (access : Access) : Action Referent := do
  match access with
  | .value => referent name subscript
  | .indirect => do
    let r ← referent name subscript
    let (name, subscript) := splitReference (r.values.headD [])
    if name.isEmpty then fail (.badIndirection r.name) else referent name subscript
  | .keys => do
    let s ← get
    let keys := match s.elements? name with
      | some e => e.keys
      | none => (s.get? name).toList.map fun _ => ['0']
    return ⟨name, none, keys, subscript.bind allSign?⟩
  | .names => do
    let front := name.toList.dropLast
    let names := (← get).bindings.filter fun b => front.isPrefixOf b.1.toList
    return ⟨name, none, (Text.sort (names.map (·.1))).map String.toList, name.toList.getLast?⟩

def changed (operation : Operation) (word second : List Mark) (value : Octets) : Octets :=
  let pattern := Pattern.read word
  match operation with
  | .withoutPrefix longest => Pattern.dropFront longest pattern value
  | .withoutSuffix longest => Pattern.dropBack longest pattern value
  | .replaced extent =>
    let new := fun (found : Octets) =>
      second.flatMap fun m => if m.isBare '&' then found else [m.char]
    Pattern.replace extent pattern new value
  | .cased upper all => changeCase upper all pattern value
  | .formed letter => formOf letter value
  | _ => value

/-- The pieces of a part. With `loose`, a text without quotes is cut into fields. -/
def expandPart (substitute : Substitute) :
    Nat → (loose : Bool) → Part → Action (List Piece)
  | 0, _, _ => return []
  | fuel + 1, loose, part => do
    let expandAll := fun (loose : Bool) (w : Word) => do
      let pieces ← w.mapM (expandPart substitute fuel loose)
      return pieces.flatten
    match part with
    | .text s quoted =>
      let marks := s.map fun c => Piece.mark ⟨c, quoted, loose && !quoted⟩
      return if quoted then .present :: marks else marks
    | .quotes [.parameter "@" .value _ _] => plainParameter "@" true
    | .quotes [.reference "@" none access operation w second _] =>
      expandPart substitute fuel loose (.reference "@" none access operation w second true)
    | .quotes [.reference name (some [.text ['@'] false]) access operation w second _] =>
      expandPart substitute fuel loose
        (.reference name (some [.text ['@'] false]) access operation w second true)
    | .quotes parts => return .present :: (← expandAll false parts)
    | .output c quoted => return Piece.ofValue quoted (← substitute (.output c))
    | .channel c writes => return Piece.ofValue true (← substitute (.channel c writes))
    | .arithmetic w quoted =>
      let text := Mark.text (marksOf (← get).separators (← expandAll false w))
      return Piece.ofValue quoted (Int.repr (← sum text)).toList
    | .parameter name operation w quoted =>
      let s ← get
      let value := if isArguments name then
          if s.arguments.isEmpty then none else some s.joined
        else s.parameter? name
      let isMissing := fun (alsoEmpty : Bool) => value.isNone || (alsoEmpty && value == some [])
      let word := fun (_ : Unit) => expandAll (!quoted) (if quoted then w else withTilde s w)
      let textOf := fun (w : Word) => do
        return Mark.text (marksOf s.separators (← expandAll false w))
      match operation with
      | .invalid => fail (.badSubstitution name)
      | .value => plainParameter name quoted
      | .length =>
        if value.isNone && s.has 'u' && !isArguments name then
          fail (.unset name)
        else return Piece.ofValue quoted (Octets.ofNat (value.getD []).length)
      | .otherwise alsoEmpty =>
        if isMissing alsoEmpty then word () else plainParameter name quoted
      | .instead alsoEmpty => if isMissing alsoEmpty then return [] else word ()
      | .assigned alsoEmpty =>
        if isMissing alsoEmpty then
          if isName name.toList then
            assign name (← textOf (if quoted then w else withTilde s w))
            plainParameter name quoted
          else fail (.badName name.toList)
        else plainParameter name quoted
      | .required alsoEmpty =>
        if isMissing alsoEmpty then
          let message ← textOf w
          fail (.required name alsoEmpty (if w.isEmpty then none else some message))
        else plainParameter name quoted
      | .withoutPrefix longest =>
        if value.isNone && s.has 'u' then fail (.unset name)
        else
          let pattern := Pattern.read (marksOf s.separators (← expandAll false (withTilde s w)))
          return Piece.ofValue quoted (Pattern.dropFront longest pattern (value.getD []))
      | .withoutSuffix longest =>
        if value.isNone && s.has 'u' then fail (.unset name)
        else
          let pattern := Pattern.read (marksOf s.separators (← expandAll false (withTilde s w)))
          return Piece.ofValue quoted (Pattern.dropBack longest pattern (value.getD []))
      | .replaced _ | .slice | .cased _ _ | .formed _ => fail (.badSubstitution name)
    | .values _ => return []
    | .reference name index access operation w second quoted =>
      let markedText := fun (w : Word) => do
        return marksOf (← get).separators (← expandAll false w)
      let textOf := fun (w : Word) => do return Mark.text (← markedText w)
      let word := fun (_ : Unit) => do
        let s ← get
        let pieces ← expandAll (!quoted) (if quoted then w else withTilde s w)
        return if quoted then .present :: pieces else pieces
      let subscript ← match index with
        | some w => do pure (some (← textOf w))
        | none => pure none
      let r ← accessed name subscript access
      let s ← get
      let all := r.pieces s.separators quoted
      let check := do
        if r.values.isEmpty && r.all.isNone && s.has 'u' then fail (.unset r.title)
      match operation with
      | .value => do
        check
        return all r.values
      | .length => do
        check
        let n := if r.all.isSome then r.values.length else (r.values.headD []).length
        return Piece.ofValue quoted (Octets.ofNat n)
      | .otherwise alsoEmpty => if r.isMissing alsoEmpty then word () else return all r.values
      | .instead alsoEmpty => if r.isMissing alsoEmpty then return [] else word ()
      | .assigned alsoEmpty =>
        if r.isMissing alsoEmpty then
          let value ← textOf (if quoted then w else withTilde s w)
          match r.key with
          | some key => assignElement r.name key value
          | none => assign r.name value
          return Piece.ofValue quoted value
        else return all r.values
      | .required alsoEmpty =>
        if r.isMissing alsoEmpty then
          let message ← textOf w
          fail (.required r.title alsoEmpty (if w.isEmpty then none else some message))
        else return all r.values
      | .slice => do
        check
        let offset ← sum (← textOf w)
        let length ← if second.isEmpty then pure none else some <$> sum (← textOf second)
        let bad := fail (.badSlice (← textOf second))
        if r.all.isSome then
          let values := if isArguments r.name && 0 ≤ offset then s.name :: r.values else r.values
          match slice offset length values with
          | some values => return all values
          | none => bad
        else
          match slice offset length (r.values.headD []) with
          | some value => return Piece.ofValue quoted value
          | none => bad
      | operation => do
        check
        let word ← markedText (withTilde s w)
        let second ← markedText (withTilde s second)
        return all (r.values.map (changed operation word second))

def expand (substitute : Substitute) (w : Word) : Action (List Piece) := do
  let pieces ← w.mapM (expandPart substitute wordDepth false)
  return pieces.flatten

/-- The marks of a word that is neither cut into fields nor a pattern for paths. -/
def marks (substitute : Substitute) (w : Word) : Action (List Mark) := do
  let pieces ← expand substitute (withTilde (← get) w)
  return marksOf (← get).separators pieces

def text (substitute : Substitute) (w : Word) : Action Octets :=
  return Mark.text (← marks substitute w)

def valueText (substitute : Substitute) (w : Word) : Action Octets := do
  let pieces ← expand substitute (withTildes (← get) w)
  return Mark.text (marksOf (← get).separators pieces)

/-- The fields of a word without braces, with patterns replaced by the paths they cover. -/
def fieldsOfOne (substitute : Substitute) (w : Word) :
    Action (List Octets) := do
  let pieces ← expand substitute (withTilde (← get) w)
  let s ← get
  let found := fields s.separators pieces
  if s.has 'f' || !found.any Pattern.isPattern then return found.map Mark.text
  else
    let all ← found.mapM fun field =>
      if Pattern.isPattern field then look fun v => paths s v field else pure [Mark.text field]
    return all.flatten

def fieldsOf (substitute : Substitute) (w : Word) : Action (List Octets) := do
  match (← get).dialect with
  | .dash => fieldsOfOne substitute w
  | .bash => return (← (Braces.expand w).mapM (fieldsOfOne substitute)).flatten

end Action

end LoadScript.Shell
