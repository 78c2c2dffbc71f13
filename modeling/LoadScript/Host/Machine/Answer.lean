import LoadScript.Host.Machine.Basic

set_option autoImplicit false

namespace LoadScript.Machine

inductive Answer (α : Type) : Type 1 where
  | reply (a : α) (p : Process) (m : Machine)
  | later (again : Call α) (p : Process) (m : Machine)
  | death (signal : Signal)

def pipeCapacity : Nat := 65536

/-- Up to this length a text is written to a pipe as a whole. -/
def pipeUnit : Nat := 4096

def pipe (m : Machine) (n : Nat) : Octets := ((m.pipes.find? (·.1 = n)).map (·.2)).getD []

def setPipe (m : Machine) (n : Nat) (content : Octets) : Machine :=
  { m with pipes := m.pipes.map fun e => if e.1 = n then (n, content) else e }

def setFile (m : Machine) (n : Nat) (f : OpenFile) : Machine :=
  { m with files := m.files.map fun e => if e.1 = n then (n, f) else e }

def content (m : Machine) (f : OpenFile) : ByteArray :=
  match m.volume.lookup f.location with
  | some (.file content _) => content
  | _ => ByteArray.empty

/-! ## Opening -/

def namedDescriptor? (path : String) : Option Nat :=
  let digits := ["/dev/fd/", "/proc/self/fd/"].findSome? fun dir =>
    if dir.toList.isPrefixOf path.toList then some (path.toList.drop dir.length) else none
  match path, digits with
  | "/dev/stdin", _ => some 0
  | "/dev/stdout", _ => some 1
  | "/dev/stderr", _ => some 2
  | _, some digits => (String.ofList digits).toNat?
  | _, none => none

def existing (m : Machine) (l : Location) (mode : OpenMode) :
    Except FileFault (Channel × Machine) :=
  let opened := fun (v : Volume) =>
    let f : OpenFile :=
      { location := l
        offset := 0
        appends := mode = .appending
        readable := mode = .reading || mode = .both
        writable := mode ≠ .reading }
    .ok (.file m.fresh, { m with
      volume := v
      files := (m.fresh, f) :: m.files
      fresh := m.fresh + 1 })
  match m.volume.lookup l with
  | none | some (.link _) => .error .notFound
  | some (.device d) => .ok (.device d, m)
  | some .directory => if mode = .reading then .ok (.directory, m) else .error .isDirectory
  | some (.file _ executable) =>
    match mode with
    | .creating => .error .alreadyExists
    | .writing => opened (m.volume.set l (.file ByteArray.empty executable))
    | _ => opened m.volume

def openPath (m : Machine) (path : String) (mode : OpenMode) :
    Except FileFault (Channel × Machine) :=
  match m.volume.locate path with
  | .ok l => existing m l mode
  | .error fault =>
    if mode = .reading then .error fault
    else if path.toList.getLast? = some '/' then .error .isDirectory
    else
      match m.volume.writeFile path ByteArray.empty, m.volume.destination path with
      | .ok v, .ok l => existing { m with volume := v } l .both |>.map fun (channel, after) =>
          (channel, match after.files with
            | (n, f) :: rest =>
              let f := { f with
                appends := mode = .appending
                readable := mode = .both }
              { after with files := (n, f) :: rest }
            | [] => after)
      | .error fault, _ => .error fault
      | _, .error fault => .error fault

/-! ## Reading and writing -/

def read (m : Machine) (p : Process) (descriptor count : Nat) :
    Answer (Except FileFault Octets) :=
  match p.channel? descriptor with
  | some (.reader n) =>
    match m.pipe n with
    | [] =>
      if m.leadsTo (.writer n) then .later (.read descriptor count) p m else .reply (.ok []) p m
    | held => .reply (.ok (held.take count)) p (m.setPipe n (held.drop count)).wake
  | some (.file n) =>
    match m.files.find? (·.1 = n) with
    | some (_, f) =>
      if f.readable then
        let text := (m.content f).extract f.offset (f.offset + count)
        .reply (.ok (Octets.ofByteArray text)) p
          (m.setFile n { f with offset := f.offset + text.size })
      else .reply (.error .badDescriptor) p m
    | none => .reply (.error .badDescriptor) p m
  | some .directory => .reply (.error .isDirectory) p m
  | some (.device .null) => .reply (.ok []) p m
  | some (.device _) => .reply (.ok (List.replicate count (Char.ofNat 0))) p m
  | _ => .reply (.error .badDescriptor) p m

def overlay (content : ByteArray) (offset : Nat) (text : ByteArray) : ByteArray :=
  let gap := ByteArray.mk (List.replicate (offset - content.size) (0 : UInt8)).toArray
  (content ++ gap).extract 0 offset ++ text ++
    content.extract (offset + text.size) content.size

def writeFile (m : Machine) (n : Nat) (f : OpenFile) (text : Octets) : Machine :=
  match m.volume.lookup f.location with
  | some (.file content executable) =>
    let offset := if f.appends then content.size else f.offset
    let bytes := Octets.toByteArray text
    { m.setFile n { f with offset := offset + bytes.size } with
      volume := m.volume.set f.location (.file (overlay content offset bytes) executable) }
  | _ => m

/-- Writes to a pipe. Without a reader, the process is told by a signal. -/
def writePipe (m : Machine) (p : Process) (descriptor n : Nat) (text : Octets) :
    Answer (Except FileFault Unit) :=
  if !m.leadsTo (.reader n) then
    if p.ignored.contains Signal.pipe then .reply (.error .brokenPipe) p m
    else if p.handled.contains Signal.pipe then
      .reply (.error .brokenPipe) { p with pending := p.pending ++ [Signal.pipe] } m
    else .death Signal.pipe
  else
    let held := m.pipe n
    let room := pipeCapacity - held.length
    if text.length ≤ room then .reply (.ok ()) p (m.setPipe n (held ++ text)).wake
    else if text.length ≤ pipeUnit then .later (.write descriptor text) p m
    else .later (.write descriptor (text.drop room)) p (m.setPipe n (held ++ text.take room)).wake

def write (m : Machine) (p : Process) (descriptor : Nat) (text : Octets) :
    Answer (Except FileFault Unit) :=
  match p.channel? descriptor with
  | some (.collected .output) => .reply (.ok ()) p { m with output := text :: m.output }
  | some (.collected .complaints) =>
    .reply (.ok ()) p { m with complaints := text :: m.complaints }
  | some (.writer n) => writePipe m p descriptor n text
  | some (.file n) =>
    match m.files.find? (·.1 = n) with
    | some (_, f) =>
      if f.writable then .reply (.ok ()) p (m.writeFile n f text)
      else .reply (.error .badDescriptor) p m
    | none => .reply (.error .badDescriptor) p m
  | some (.device .full) => .reply (.error .noSpace) p m
  | some (.device _) => .reply (.ok ()) p m
  | _ => .reply (.error .badDescriptor) p m

def unread (m : Machine) (p : Process) (descriptor count : Nat) : Machine :=
  match p.channel? descriptor with
  | some (.file n) =>
    match m.files.find? (·.1 = n) with
    | some (_, f) => m.setFile n { f with offset := f.offset - count }
    | none => m
  | _ => m

def medium (m : Machine) (p : Process) (descriptor : Nat) : Option Medium :=
  (p.channel? descriptor).map fun
    | .file n => .file (((m.files.find? (·.1 = n)).map fun e => (m.content e.2).size).getD 0)
    | .directory => .directory
    | .device _ => .device
    | _ => .pipe

/-! ## Processes -/

def wait (m : Machine) (p : Process) (child : Option Nat) (hang interruptible : Bool) :
    Answer Waited :=
  let children := m.processes.filter fun q => q.parent = p.pid && (child.all (· = q.pid))
  match children.findSome? fun q => q.ending.map fun ending => (q.pid, ending) with
  | some (pid, ending) =>
    .reply (.ended pid ending) p
      { m with processes := m.processes.filter fun q => q.pid ≠ pid }
  | none =>
    if children.isEmpty then .reply .childless p m
    else if interruptible && !p.pending.isEmpty then .reply .interrupted p m
    else if hang then .later (.wait child hang interruptible) p m
    else .reply .running p m

def setAction (p : Process) (signal : Signal) (action : SignalAction) : Process :=
  let ignored := p.ignored.filter (· ≠ signal)
  let handled := p.handled.filter (· ≠ signal)
  match action with
  | .usual => { p with ignored, handled }
  | .ignored => { p with ignored := signal :: ignored, handled }
  | .handled => { p with ignored, handled := signal :: handled }

/-! ## Calls -/

/-- Answers a call. Most calls take a microsecond. -/
def answer (m : Machine) (p : Process) {α : Type} : Call α → Answer α
  | .files f =>
    let (a, v) := f { m.volume with workingDir := p.workingDir }
    .reply a { p.spend 1 with workingDir := v.workingDir } { m with volume := v }
  | .sleep time => .reply () (p.spend time) m
  | .openFile path mode =>
    match namedDescriptor? path with
    | some n =>
      match p.channel? n with
      | some channel =>
        let free := p.freeDescriptor 0
        .reply (.ok free) ((p.spend 1).setDescriptor free ⟨channel, true⟩) m
      | none => .reply (.error .notFound) (p.spend 1) m
    | none =>
      let here := { m with volume := { m.volume with workingDir := p.workingDir } }
      match openPath here path mode with
      | .error fault => .reply (.error fault) (p.spend 1) m
      | .ok (channel, after) =>
        let free := p.freeDescriptor 0
        .reply (.ok free) ((p.spend 1).setDescriptor free ⟨channel, true⟩) after
  | .close descriptor =>
    let p := (p.spend 1).closeDescriptor descriptor
    .reply () p (m.update p).sweep.wake
  | .copy source target =>
    match p.channel? source with
    | none => .reply false (p.spend 1) m
    | some channel =>
      let p := (p.spend 1).setDescriptor target ⟨channel, true⟩
      .reply true p (m.update p).sweep.wake
  | .keep source least =>
    match p.channel? source with
    | none => .reply none (p.spend 1) m
    | some channel =>
      let free := p.freeDescriptor least
      .reply (some free) ((p.spend 1).setDescriptor free ⟨channel, false⟩) m
  | .pipe =>
    let input := p.freeDescriptor 0
    let p := (p.spend 1).setDescriptor input ⟨.reader m.fresh, true⟩
    let output := p.freeDescriptor 0
    .reply (input, output) (p.setDescriptor output ⟨.writer m.fresh, true⟩)
      { m with pipes := (m.fresh, []) :: m.pipes, fresh := m.fresh + 1 }
  | .read descriptor count => read m (p.spend 1) descriptor count
  | .write descriptor text => write m (p.spend 1) descriptor text
  | .unread descriptor count => .reply () (p.spend 1) (unread m p descriptor count)
  | .medium descriptor => .reply (medium m p descriptor) (p.spend 1) m
  | .identity => .reply (p.pid, p.parent) p m
  | .wait child hang interruptible => wait m (p.spend 1) child hang interruptible
  | .kill pid signal =>
    match m.process? pid with
    | none => .reply false (p.spend 1) m
    | some target =>
      if signal = 0 then .reply true (p.spend 1) m
      else
        let receiver := if pid = p.pid then p.spend 1 else target
        let after := (m.update (p.spend 1)).deliver signal receiver
        match after.process? p.pid with
        | some p => if p.isAlive then .reply true p after else .death signal
        | none => .death signal
  | .lead => .reply () { p.spend 1 with group := p.pid } m
  | .killGroup signal =>
    let others := m.processes.filter fun q => q.group = p.group && q.pid ≠ p.pid
    .reply () (p.spend 1) (others.foldl (fun m q => m.deliver signal q) m)
  | .time => .reply p.ready (p.spend 1) m
  | .handle signal action => .reply () (setAction (p.spend 1) signal action) m
  | .actions =>
    .reply (p.ignored.map (·, .ignored) ++ p.handled.map (·, .handled)) p m
  | .arrivals => .reply p.pending { p with pending := [] } m
  | .become =>
    let p := { p.spend 300 with
      descriptors := p.descriptors.filter fun d => d.2.stays
      handled := []
      pending := [] }
    .reply () p (m.update p).sweep.wake

end LoadScript.Machine
