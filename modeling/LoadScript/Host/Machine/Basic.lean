import LoadScript.Host.Program

/-!
# Machines

A machine is a volume with the processes that work on it. Descriptors of processes lead to open
files, to pipes between processes, and to the two outputs that are collected from outside.
-/

set_option autoImplicit false

namespace LoadScript

inductive Collected where
  | output
  | complaints
  deriving DecidableEq, Repr

inductive Channel where
  | collected (which : Collected)
  | reader (pipe : Nat)
  | writer (pipe : Nat)
  | file (number : Nat)
  | directory
  | device (d : Device)
  deriving DecidableEq

structure Descriptor where
  channel : Channel
  stays : Bool

structure OpenFile where
  location : Location
  offset : Nat
  appends : Bool
  readable : Bool
  writable : Bool

structure Process where
  pid : Nat
  parent : Nat
  group : Nat
  program : Program
  ready : Nat
  waiting : Bool
  stopped : Bool
  ending : Option Ending
  descriptors : List (Nat × Descriptor)
  workingDir : Location
  ignored : List Signal
  handled : List Signal
  pending : List Signal

structure Machine where
  volume : Volume
  clock : Nat
  processes : List Process
  pipes : List (Nat × Octets)
  files : List (Nat × OpenFile)
  fresh : Nat
  output : List Octets
  complaints : List Octets

namespace Process

def isAlive (p : Process) : Bool := p.ending.isNone

def isReady (p : Process) : Bool := p.isAlive && !p.waiting && !p.stopped

def descriptor? (p : Process) (n : Nat) : Option Descriptor :=
  (p.descriptors.find? (·.1 = n)).map (·.2)

def channel? (p : Process) (n : Nat) : Option Channel := (p.descriptor? n).map (·.channel)

def setDescriptor (p : Process) (n : Nat) (d : Descriptor) : Process :=
  { p with descriptors := (n, d) :: p.descriptors.filter fun e => e.1 ≠ n }

def closeDescriptor (p : Process) (n : Nat) : Process :=
  { p with descriptors := p.descriptors.filter fun e => e.1 ≠ n }

def freeDescriptor (p : Process) (least : Nat) : Nat :=
  let used := p.descriptors.map (·.1)
  ((List.range (used.length + 1)).find? fun n => !used.contains (least + n)).elim least (least + ·)

def spend (p : Process) (time : Nat) : Process := { p with ready := p.ready + time }

end Process

namespace Machine

def process? (m : Machine) (pid : Nat) : Option Process := m.processes.find? (·.pid = pid)

def update (m : Machine) (p : Process) : Machine :=
  { m with processes := m.processes.map fun q => if q.pid = p.pid then p else q }

def leadsTo (m : Machine) (c : Channel) : Bool :=
  m.processes.any fun p => p.descriptors.any fun d => d.2.channel = c

def sweep (m : Machine) : Machine :=
  { m with
    pipes := m.pipes.filter fun (n, _) => m.leadsTo (.reader n) || m.leadsTo (.writer n)
    files := m.files.filter fun (n, _) => m.leadsTo (.file n) }

def wake (m : Machine) : Machine :=
  { m with
    processes := m.processes.map fun p =>
      if p.waiting then { p with waiting := false, ready := Nat.max p.ready m.clock } else p }

def outside : Nat := 1

/-- Ends a process. Its parent, if there is one, can still ask how it ended; its own children that
have ended are forgotten. -/
def finish (m : Machine) (pid : Nat) (ending : Ending) : Machine :=
  match m.process? pid with
  | none => m
  | some p =>
    let isOrphan := p.parent ≠ outside &&
      !(m.processes.any fun q => q.pid = p.parent && q.isAlive)
    let others := m.processes.filter fun q =>
      !(q.parent = pid && !q.isAlive) && !(isOrphan && q.pid = pid)
    let ended := { p with
      ending := some ending
      descriptors := []
      program := .finished 0 }
    ({ m with processes := others }.update ended).sweep.wake

def deliver (m : Machine) (signal : Signal) (p : Process) : Machine :=
  if !p.isAlive then m
  else if p.handled.contains signal then
    (m.update { p with pending := p.pending ++ [signal] }).wake
  else
    match signal.effect with
    | .continues => (m.update { p with stopped := false, ready := Nat.max p.ready m.clock }).wake
    | .nothing => m
    | .stops => if p.ignored.contains signal then m else m.update { p with stopped := true }
    | .ends => if p.ignored.contains signal then m else m.finish p.pid (.signalled signal)

end Machine

end LoadScript
