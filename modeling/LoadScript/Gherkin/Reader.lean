/-!
# Readers

A reader takes a beginning of the text and returns a value with the rest. It may miss, and then
another reader can be tried at the same place, or it may find a fault that no other reading can
mend; a fault ends the whole reading. Repetition is greedy and is never taken back.
-/

set_option autoImplicit false

namespace LoadScript.Gherkin

inductive Reply (α : Type) where
  | ok (value : α) (rest : List Char)
  | miss
  | fault

def Reader (α : Type) : Type := List Char → Reply α

namespace Reader

variable {α β : Type}

def bind (p : Reader α) (f : α → Reader β) : Reader β := fun s =>
  match p s with
  | .ok a rest => f a rest
  | .miss => .miss
  | .fault => .fault

instance : Monad Reader where
  pure a := fun s => .ok a s
  bind := bind

def orElse (p q : Reader α) : Reader α := fun s =>
  match p s with
  | .miss => q s
  | reply => reply

instance : OrElse (Reader α) := ⟨fun p q => p.orElse (q ())⟩

def miss : Reader α := fun _ => .miss

def fault : Reader α := fun _ => .fault

def optional (p : Reader α) : Reader (Option α) := (some <$> p) <|> pure none

def notAt (p : Reader α) : Reader Unit := fun s =>
  match p s with
  | .ok _ _ => .miss
  | .miss => .ok () s
  | .fault => .fault

/-- Reads with `p` as often as it succeeds and takes something. -/
def many (p : Reader α) (s : List Char) : Reply (List α) :=
  match p s with
  | .ok a rest =>
    if rest.length < s.length then
      match many p rest with
      | .ok more last => .ok (a :: more) last
      | .miss => .miss
      | .fault => .fault
    else .ok [] s
  | .miss => .ok [] s
  | .fault => .fault
termination_by s.length

def repeated (p : Reader α) : Reader (List α) := many p

/-- One or more, with `separator` between two. A separator at the end is not taken. -/
def sepBy1 (p : Reader α) (separator : Reader β) : Reader (List α) := do
  let first ← p
  let more ← repeated (do let _ ← separator; p)
  return first :: more

def sepBy (p : Reader α) (separator : Reader β) : Reader (List α) := sepBy1 p separator <|> pure []

def taken (p : Reader α) : Reader (List Char) := fun s =>
  match p s with
  | .ok _ rest => .ok (s.take (s.length - rest.length)) rest
  | .miss => .miss
  | .fault => .fault

def satisfy (f : Char → Bool) : Reader Char := fun s =>
  match s with
  | c :: rest => if f c then .ok c rest else .miss
  | [] => .miss

def anyChar : Reader Char := satisfy fun _ => true

def atEnd : Reader Unit := notAt anyChar

def token (t : String) : Reader Unit := fun s =>
  if t.toList.isPrefixOf s then .ok () (s.drop t.length) else .miss

end Reader

end LoadScript.Gherkin
