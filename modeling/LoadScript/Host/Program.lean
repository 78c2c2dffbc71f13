import LoadScript.Host.Octets
import LoadScript.Host.Process

/-!
# Programs

A program is known by what it asks its machine for, and by how it goes on after each answer. So the
same program can be run beside others, be held up and be ended at any of its calls.
-/

set_option autoImplicit false

namespace LoadScript

inductive OpenMode where
  | reading
  | writing
  | appending
  | both
  | creating
  deriving DecidableEq, Repr

inductive SignalAction where
  | usual
  | ignored
  | handled
  deriving DecidableEq, Repr

inductive Waited where
  | ended (pid : Nat) (ending : Ending)
  | running
  | interrupted
  | childless

inductive Medium where
  | file (size : Nat)
  | directory
  | device
  | pipe
  deriving DecidableEq, Repr

/-- What a process can ask for, by the kind of the answer. Times are in microseconds. -/
inductive Call : Type → Type 1 where
  | files {α : Type} (f : Volume → α × Volume) : Call α
  | sleep (time : Nat) : Call Unit
  | openFile (path : String) (mode : OpenMode) : Call (Except FileFault Nat)
  | close (descriptor : Nat) : Call Unit
  | copy (source target : Nat) : Call Bool
  /-- Keeps a copy of a descriptor, not below a number, that programs to come do not see. -/
  | keep (source least : Nat) : Call (Option Nat)
  | pipe : Call (Nat × Nat)
  | read (descriptor count : Nat) : Call (Except FileFault Octets)
  | write (descriptor : Nat) (text : Octets) : Call (Except FileFault Unit)
  /-- Goes back in a file, so that what was read last is read again. -/
  | unread (descriptor count : Nat) : Call Unit
  | medium (descriptor : Nat) : Call (Option Medium)
  | identity : Call (Nat × Nat)
  | wait (child : Option Nat) (hang interruptible : Bool) : Call Waited
  | kill (pid : Nat) (signal : Signal) : Call Bool
  | lead : Call Unit
  | killGroup (signal : Signal) : Call Unit
  | time : Call Nat
  | handle (signal : Signal) (action : SignalAction) : Call Unit
  | actions : Call (List (Signal × SignalAction))
  /-- The signals that have come since the last time, as far as they are handled. -/
  | arrivals : Call (List Signal)
  | become : Call Unit

inductive Program : Type 1 where
  | finished (status : Nat)
  | asks {α : Type} (call : Call α) (next : α → Program)
  | forks (child : Program) (next : Nat → Program)

/-- A step of a program with a result, given how the program goes on. -/
def Act (α : Type) : Type 1 := (α → Program) → Program

namespace Act

instance : Monad Act where
  pure a := fun next => next a
  bind act f := fun next => act fun a => f a next

def call {α : Type} (c : Call α) : Act α := fun next => .asks c next

def fork (child : Program) : Act Nat := fun next => .forks child next

def finish {α : Type} (status : Nat) : Act α := fun _ => .finished status

def replaceBy {α : Type} (p : Program) : Act α := fun _ => p

def toProgram (act : Act Nat) : Program := act .finished

end Act

end LoadScript
