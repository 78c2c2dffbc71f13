import LoadScript.Host.Shell.Builtins

set_option autoImplicit false

namespace LoadScript.Shell

inductive Target where
  | file (mode : OpenMode) (path : Octets)
  | fresh (path : Octets)
  | same (descriptor : Nat)
  | closed
  | text (s : Octets)

structure Redirection where
  descriptor : Nat
  target : Target

/-- What a descriptor led to before a redirection. -/
structure Kept where
  descriptor : Nat
  copy : Option Nat

/-- A pipe holds a text of this length before anyone reads it. -/
def heldText : Nat := 4096

namespace Redirection

open Action

def badDescriptor {α : Type} (word : Octets) : Action α := do
  modify fun s => { s with line := if s.dialect == .dash then s.nextLine else s.line }
  fail (.badDescriptor word)

def descriptorNamed (word : Octets) : Action Target := do
  match word with
  | ['-'] => return .closed
  | [c] => if c.isDigit then return .same (c.toNat - '0'.toNat) else badDescriptor word
  | _ => badDescriptor word

def everything (mode : OpenMode) (path : Octets) : List Redirection :=
  [⟨1, .file mode path⟩, ⟨2, .same 1⟩]

def prepare (substitute : Substitute) (r : Redirect) :
    Action (List Redirection) := do
  let word := text substitute r.target
  match r.kind with
  | .input => return [⟨r.descriptor, .file .reading (← word)⟩]
  | .output =>
    let path ← word
    if (← get).has 'C' then return [⟨r.descriptor, .fresh path⟩]
    else return [⟨r.descriptor, .file .writing path⟩]
  | .overwrite => return [⟨r.descriptor, .file .writing (← word)⟩]
  | .append => return [⟨r.descriptor, .file .appending (← word)⟩]
  | .both => return [⟨r.descriptor, .file .both (← word)⟩]
  | .copy =>
    let name ← word
    if (← get).dialect == .bash && r.descriptor = 1 && name ≠ ['-'] && !name.all Char.isDigit then
      return everything .writing name
    else return [⟨r.descriptor, ← descriptorNamed name⟩]
  | .line => return [⟨r.descriptor, .text ((← word) ++ ['\n'])⟩]
  | .everything append => return everything (if append then .appending else .writing) (← word)
  | .document number =>
    let body := (((← get).documents.find? (·.1 = number)).map (·.2)).getD []
    let pieces ← expand substitute body
    return [⟨r.descriptor, .text (Mark.text (marksOf (← get).separators pieces))⟩]

def prepareAll (substitute : Substitute) (rs : List Redirect) :
    Action (List Redirection) := do
  return (← rs.mapM (prepare substitute)).flatten

def openFile (path : Octets) (mode : OpenMode) : Action (Option Nat) := do
  match ← call (.openFile (Octets.toText path) mode) with
  | .ok descriptor => return some descriptor
  | .error fault => do
    complain (.noFile path (mode ≠ .reading) fault)
    return none

/-- A pipe that holds a text. A long text is written by a process of its own. -/
def openText (s : Octets) : Action Nat := do
  let (input, output) ← call .pipe
  if s.length ≤ heldText then
    let _ ← call (.write output s)
  else
    let _ ← fork (Act.toProgram do
      Act.call (.close input)
      let _ ← Act.call (.write output s)
      return 0)
  call (.close output)
  return input

def source (t : Target) : Action (Option (Nat × Bool)) := do
  match t with
  | .file mode path => return (← openFile path mode).map (·, true)
  | .fresh path =>
    let isDevice ← look fun v => (v.entry? (Octets.toText path)).any Entry.isDevice
    return (← openFile path (if isDevice then .writing else .creating)).map (·, true)
  | .same descriptor => return some (descriptor, false)
  | .text s => return some (← openText s, true)
  | .closed => return none

/-- Carries out a redirection: what the descriptor led to, if `keeping`, and whether all went well.
-/
def apply (keeping : Bool) (r : Redirection) : Action (Option Kept × Bool) := do
  let keep := fun (_ : Unit) => do
    if keeping then return some ⟨r.descriptor, ← call (.keep r.descriptor 10)⟩ else return none
  match r.target with
  | .closed => do
    let kept ← keep ()
    call (.close r.descriptor)
    return (kept, true)
  | target =>
    match ← source target with
    | none => return (none, false)
    | some (descriptor, isNew) =>
      if descriptor = r.descriptor then
        return (if keeping && isNew then some ⟨r.descriptor, none⟩ else none, true)
      else
        let kept ← keep ()
        let isOpen ← call (.copy descriptor r.descriptor)
        if isNew then call (.close descriptor)
        if !isOpen then
          complain (.noDescriptor descriptor)
        return (kept, isOpen)

def applyAll (keeping : Bool) : List Redirection → List Kept → Action (List Kept × Bool)
  | [], kept => return (kept, true)
  | r :: rest, kept => do
    let (one, isDone) ← apply keeping r
    let kept := one.toList ++ kept
    if isDone then applyAll keeping rest kept else return (kept, false)

def undo (kept : List Kept) : Action Unit := do
  for k in kept do
    match k.copy with
    | some copy => do
      let _ ← call (.copy copy k.descriptor)
      call (.close copy)
    | none => call (.close k.descriptor)

def forget (kept : List Kept) : Action Unit := do
  for k in kept do
    match k.copy with
    | some copy => call (.close copy)
    | none => pure ()

end Redirection

end LoadScript.Shell
