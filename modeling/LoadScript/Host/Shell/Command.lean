import LoadScript.Host.Octets

set_option autoImplicit false

namespace LoadScript.Shell

inductive Dialect where
  | dash
  | bash
  deriving DecidableEq, Repr

inductive RedirectKind where
  | input
  | output
  | overwrite
  | append
  | both
  | copy
  | document (number : Nat)
  | line
  | everything (append : Bool)
  deriving DecidableEq, Repr

inductive Extent where
  | first
  | all
  | front
  | back
  deriving DecidableEq, Repr

/-- What is done with the value of a parameter. With `alsoEmpty`, an empty value counts as none. -/
inductive Operation where
  | value
  | length
  | otherwise (alsoEmpty : Bool)
  | assigned (alsoEmpty : Bool)
  | required (alsoEmpty : Bool)
  | instead (alsoEmpty : Bool)
  | withoutPrefix (longest : Bool)
  | withoutSuffix (longest : Bool)
  | replaced (which : Extent)
  | slice
  | cased (upper all : Bool)
  | formed (letter : Char)
  | invalid
  deriving DecidableEq, Repr

inductive Access where
  | value
  | indirect
  | keys
  | names
  deriving DecidableEq, Repr

/-- How an arm of a choice ends: with the choice, in the arm behind it, or in a look at the arms
behind it. -/
inductive ArmEnd where
  | finish
  | intoNext
  | lookOn
  deriving DecidableEq, Repr

mutual

inductive Part where
  | text (s : Octets) (quoted : Bool)
  | quotes (parts : List Part)
  | parameter (name : String) (operation : Operation) (word : List Part) (quoted : Bool)
  | output (c : Option Command) (quoted : Bool)
  | channel (c : Option Command) (writes : Bool)
  | arithmetic (word : List Part) (quoted : Bool)
  /-- A parameter in a form that only one dialect has: with an index, by way of another one, or
  under an operation with two words. -/
  | reference (name : String) (index : Option (List Part)) (access : Access) (operation : Operation)
    (word second : List Part) (quoted : Bool)
  | values (items : List (List Part))

inductive Redirect where
  | mk (descriptor : Nat) (kind : RedirectKind) (target : List Part)

inductive Command where
  | simple (line : Nat) (assignments words : List (List Part)) (redirects : List Redirect)
  | pipeline (stages : List Command)
  | negated (c : Command)
  | both (first second : Command)
  | either (first second : Command)
  | sequence (first second : Command)
  | background (c : Command)
  | subshell (line : Nat) (c : Command) (redirects : List Redirect)
  | redirected (line : Nat) (c : Command) (redirects : List Redirect)
  | conditional (test yes : Command) (no : Option Command)
  | loop (untilTrue : Bool) (test body : Command)
  | each (line : Nat) (name : String) (words : Option (List (List Part))) (body : Command)
  | choice (line : Nat) (subject : List Part)
    (arms : List (List (List Part) × Option Command × ArmEnd))
  | define (name : String) (body : Command)
  | condition (line : Nat) (c : Condition)
  | calculation (line : Nat) (word : List Part)
  | counting (line : Nat) (start test step : List Part) (body : Command)

inductive Condition where
  | nonEmpty (w : List Part)
  | unary (operator : String) (w : List Part)
  | binary (operator : String) (a b : List Part)
  | negated (c : Condition)
  | both (a b : Condition)
  | either (a b : Condition)

end

abbrev Word := List Part

instance : Inhabited Command := ⟨.simple 0 [] [] []⟩

def Redirect.descriptor : Redirect → Nat
  | .mk descriptor _ _ => descriptor

def Redirect.kind : Redirect → RedirectKind
  | .mk _ kind _ => kind

def Redirect.target : Redirect → Word
  | .mk _ _ target => target

namespace Word

def plain? : Word → Option Octets
  | [.text s false] => some s
  | _ => none

end Word

def backquote : Char := Char.ofNat 96

def quotedName (s : Octets) : Octets := backquote :: s ++ ['\'']

def isNameStart (c : Char) : Bool := c.isAlpha || c == '_'

def isNameChar (c : Char) : Bool := isNameStart c || c.isDigit

def isName (s : Octets) : Bool :=
  match s with
  | c :: rest => isNameStart c && rest.all isNameChar
  | [] => false

def isSpecial (c : Char) : Bool := "@*#?$!-0123456789".toList.contains c

def isBlank (c : Char) : Bool := c == ' ' || c == '\t'

def endsWord (c : Char) : Bool := isBlank c || "\n;&|()<>".toList.contains c

def splitAssignment? (s : Octets) : Option (Octets × Octets) :=
  let name := s.takeWhile isNameChar
  match s.drop name.length with
  | '=' :: value => if isName name then some (name, value) else none
  | _ => none

def Word.assignment? : Word → Option (String × Word)
  | .text s false :: rest =>
    (splitAssignment? s).map fun (name, value) =>
      (String.ofList name, if value.isEmpty then rest else .text value false :: rest)
  | _ => none

/-- What an assignment is to. -/
structure Assigned where
  name : String
  index : Option Word
  adds : Bool

def splitIndex : Nat → (depth : Nat) → Octets → Word → Option (Word × Word)
  | 0, _, _, _ => none
  | _, _, _, [] => none
  | fuel + 1, depth, acc, .text s false :: rest =>
    match s with
    | [] => (splitIndex fuel depth [] rest).map fun (index, after) =>
        (if acc.isEmpty then index else .text acc.reverse false :: index, after)
    | ']' :: more =>
      if depth = 0 then
        some (if acc.isEmpty then [] else [.text acc.reverse false], .text more false :: rest)
      else splitIndex fuel (depth - 1) (']' :: acc) (.text more false :: rest)
    | '[' :: more => splitIndex fuel (depth + 1) ('[' :: acc) (.text more false :: rest)
    | c :: more => splitIndex fuel depth (c :: acc) (.text more false :: rest)
  | fuel + 1, depth, acc, part :: rest =>
    (splitIndex fuel depth [] rest).map fun (index, after) =>
      ((if acc.isEmpty then [] else [.text acc.reverse false]) ++ part :: index, after)

def assignedValue? : Word → Option (Bool × Word)
  | .text ('=' :: value) false :: rest =>
    some (false, if value.isEmpty then rest else .text value false :: rest)
  | .text ('+' :: '=' :: value) false :: rest =>
    some (true, if value.isEmpty then rest else .text value false :: rest)
  | _ => none

/-- A word that assigns, also to an element of an array, or adds to what there is. -/
def Word.extendedAssignment? : Word → Option (Assigned × Word)
  | .text s false :: rest =>
    let name := s.takeWhile isNameChar
    if !isName name then none
    else
      let after := s.drop name.length
      match after with
      | '[' :: more => do
        let (index, after) ← splitIndex (s.length + 2 * rest.length + 2 + (rest.map fun p =>
          match p with
          | .text t _ => t.length
          | _ => 1).foldl (· + ·) 0) 0 [] (.text more false :: rest)
        let (adds, value) ← assignedValue? after
        return (⟨String.ofList name, some index, adds⟩, value)
      | _ =>
        (assignedValue? (.text after false :: rest)).map fun (adds, value) =>
          (⟨String.ofList name, none, adds⟩, value)
  | _ => none

def Word.assigned? (dialect : Dialect) (w : Word) : Option (Assigned × Word) :=
  match dialect with
  | .dash => w.assignment?.map fun (name, value) => (⟨name, none, false⟩, value)
  | .bash => w.extendedAssignment?

end LoadScript.Shell
