import LoadScript.Host.Shell.Builtins
import LoadScript.Host.Utility.Regular

set_option autoImplicit false

namespace LoadScript.Shell

def isMetacharacter (c : Char) : Bool := r"\.[]*^$+?()|{}".toList.contains c

def expressionOf (ms : List Mark) : Octets :=
  ms.flatMap fun m => if m.quoted && isMetacharacter m.char then ['\\', m.char] else [m.char]

namespace Action

def underName {α : Type} (name : String) (act : Action α) : Action α := do
  let command := (← get).command
  modify fun s => { s with command := some name }
  let result ← attempt act
  modify fun s => { s with command }
  match result with
  | .ok a => return a
  | .error jump => throw jump

/-- Whether a regular expression is found in a text. What its groups hold is noted. -/
def isFound (expression text : Octets) : Action Bool := do
  let subject : Regular.Subject := ⟨text.toArray, false⟩
  match Regular.read true expression with
  | .error _ => return false
  | .ok r =>
    match Regular.find? r subject 0 with
    | none => do
      modify fun s => s.dropVariable "BASH_REMATCH"
      return false
    | some m => do
      let groups := (List.range (Regular.groupCount r + 1)).map (m.group subject)
      modify fun s => s.setVariable "BASH_REMATCH"
        { s.binding "BASH_REMATCH" with elements := some (.ofList groups) }
      return true

def traceCondition (texts : List Octets) : Action Unit := do
  let s ← get
  if s.has 'x' then
    let front := (s.get? "PS4").getD "+ ".toList
    let deep := List.replicate s.level (front.headD '+')
    writeError (deep ++ front ++ [' '].intercalate (["[[".toList] ++ texts ++ ["]]".toList]) ++
      ['\n'])

/-- A word of a condition that is shown: what is quoted in it stands behind backslashes. -/
def shownPattern (ms : List Mark) : Octets :=
  ms.flatMap fun m => if m.quoted then ['\\', m.char] else [m.char]

def compares (substitute : Substitute) (operator : String) (a b : Word) :
    Action Bool := do
  let first ← text substitute a
  let second ← marks substitute b
  let isPattern := ["=", "==", "!=", "=~"].contains operator
  traceCondition [if first.isEmpty then "''".toList else first, operator.toList,
    if isPattern then shownPattern second else Mark.text second]
  let numbers := fun (f : Int → Int → Bool) => underName "[[" do
    let m ← sum first
    let n ← sum (Mark.text second)
    return f m n
  match operator with
  | "=" | "==" => return Pattern.covers (Pattern.read second) first
  | "!=" => return !Pattern.covers (Pattern.read second) first
  | "=~" => isFound (expressionOf second) first
  | "-eq" => numbers fun m n => m == n
  | "-ne" => numbers fun m n => m != n
  | "-lt" => numbers fun m n => decide (m < n)
  | "-le" => numbers fun m n => decide (m ≤ n)
  | "-gt" => numbers fun m n => decide (n < m)
  | "-ge" => numbers fun m n => decide (n ≤ m)
  | operator => do
    let s ← get
    let result ← look fun v =>
      Testing.binary ⟨v, Builtin.isSet s⟩ operator.toList first (Mark.text second)
    return result.toOption.getD false

def isOptionOn (s : Session) (name : Octets) : Bool :=
  let key := String.ofList name
  match (Builtin.optionNames s.dialect).find? (·.1 = key) with
  | some (_, some letter) => s.has letter
  | _ => s.namedOptions.contains key

def holds (substitute : Substitute) : Condition → Action Bool
  | .nonEmpty w => do
    let word ← text substitute w
    traceCondition ["-n".toList, if word.isEmpty then "''".toList else word]
    return !word.isEmpty
  | .unary operator w => do
    let word ← text substitute w
    traceCondition [operator.toList, if word.isEmpty then "''".toList else word]
    let s ← get
    if operator = "-o" then return isOptionOn s word
    else look fun v => Testing.unary ⟨v, Builtin.isSet s⟩ operator.toList word
  | .binary operator a b => compares substitute operator a b
  | .negated c => return !(← holds substitute c)
  | .both a b => do
    if ← holds substitute a then holds substitute b else return false
  | .either a b => do
    if ← holds substitute a then return true else holds substitute b

end Action

end LoadScript.Shell
