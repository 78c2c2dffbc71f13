import LoadScript.Host.Machine.Answer

/-!
# Running a machine

Of the processes that can go on, the one whose time is earliest goes on. The first process has a
limit; when it has ended, the others go on for as long as they keep the outputs open.
-/

set_option autoImplicit false

namespace LoadScript.Machine

def forkTime : Nat := 60

def startTime : Nat := 200

def advance (m : Machine) (p : Process) : Machine :=
  match p.program with
  | .finished status => m.finish p.pid (.exited (status % 256))
  | .forks child next =>
    let started : Process := { p with
      pid := m.fresh
      parent := p.pid
      program := child
      ready := p.ready + startTime
      pending := [] }
    let parent := { p.spend forkTime with program := next m.fresh }
    let m := m.update parent
    { m with processes := m.processes ++ [started], fresh := m.fresh + 1 }
  | .asks call next =>
    match m.answer p call with
    | .reply a p m => m.update { p with program := next a }
    | .later again p m => m.update { p with program := .asks again next, waiting := true }
    | .death signal => m.finish p.pid (.signalled signal)

def next? (m : Machine) : Option Process :=
  m.processes.foldl (fun best p =>
    if !p.isReady then best
    else
      match best with
      | none => some p
      | some q => if p.ready < q.ready then some p else best) none

structure Course where
  ended : Option (Ending × Nat)
  outputClosed : Option Nat
  complaintsClosed : Option Nat

def patience : Nat := 5000000

def Course.note (course : Course) (pid : Nat) (m : Machine) : Course :=
  let ended := course.ended <|> ((m.process? pid).bind (·.ending)).map (·, m.clock)
  if ended.isNone then course
  else
    let closed := fun (known : Option Nat) (which : Collected) =>
      known <|> if m.leadsTo (.collected which) then none else some m.clock
    { ended
      outputClosed := closed course.outputClosed .output
      complaintsClosed := closed course.complaintsClosed .complaints }

/-- Runs a machine until nothing is left to be seen of its first process. -/
def run (pid limit : Nat) : Nat → Course → Machine → Course × Machine
  | 0, course, m => (course, m)
  | fuel + 1, course, m =>
    match course.ended with
    | none =>
      match m.next?.filter fun p => p.ready ≤ limit with
      | none =>
        let killed := { m with clock := limit }.finish pid (.signalled Signal.kill)
        run pid limit fuel (Course.note { course with ended := some (.expired, limit) } pid killed)
          killed
      | some p =>
        let after := advance { m with clock := Nat.max m.clock p.ready } p
        run pid limit fuel (course.note pid after) after
    | some (_, time) =>
      if course.outputClosed.isSome && course.complaintsClosed.isSome then (course, m)
      else
        match m.next?.filter fun p => p.ready ≤ time + patience with
        | none => (course, m)
        | some p =>
          let after := advance { m with clock := Nat.max m.clock p.ready } p
          run pid limit fuel (course.note pid after) after

def firstPid : Nat := 1000

def boot (v : Volume) (program : Program) : Machine :=
  let first : Process :=
    { pid := firstPid
      parent := outside
      group := outside
      program
      ready := 0
      waiting := false
      stopped := false
      ending := none
      descriptors :=
        [(0, ⟨.device .null, true⟩), (1, ⟨.collected .output, true⟩),
          (2, ⟨.collected .complaints, true⟩)]
      workingDir := v.workingDir
      ignored := []
      handled := []
      pending := [] }
  { volume := v
    clock := 0
    processes := [first]
    pipes := []
    files := []
    fresh := firstPid + 1
    output := []
    complaints := [] }

def callLimit : Nat := 1000000000000

def report (v : Volume) (program : Program) (limit : Nat) : ProcessReport :=
  let (course, m) :=
    run firstPid (1000 * limit) callLimit ⟨none, none, none⟩ (boot v program)
  let (ending, time) := course.ended.getD (.expired, 1000 * limit)
  let held := fun (closed : Option Nat) => (closed.getD (time + patience) - time) / 1000
  { ending
    stdout := Octets.toBytes m.output.reverse.flatten
    stderr := Octets.toBytes m.complaints.reverse.flatten
    milliseconds := time / 1000
    stdoutHeld := held course.outputClosed
    stderrHeld := held course.complaintsClosed
    volume := { m.volume with workingDir := v.workingDir } }

end LoadScript.Machine
