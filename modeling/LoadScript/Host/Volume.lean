import LoadScript.Host.Tree

/-!
# Volumes

A volume is the state of a file system: what stands at which location, the files that the names
there lead to, and the working directory that relative paths start from. Operations return the
state they leave behind, so that what a failed operation has changed can be seen. What the names
and the rights allow may still be refused, by a disk that is full or broken.
-/

set_option autoImplicit false

namespace LoadScript

inductive Entry where
  | file (content : ByteArray) (executable : Bool)
  | directory
  | device (d : Device)
  | link (target : String)

namespace Entry

def isDirectory : Entry → Bool
  | .directory => true
  | _ => false

def isFile : Entry → Bool
  | .file _ _ => true
  | _ => false

def isDevice : Entry → Bool
  | .device _ => true
  | _ => false

def isLink : Entry → Bool
  | .link _ => true
  | _ => false

def isExecutable : Entry → Bool
  | .file _ executable => executable
  | .directory => true
  | .device _ | .link _ => false

end Entry

inductive FileFault where
  | notFound
  | notDirectory
  | isDirectory
  | notEmpty
  | alreadyExists
  | nameTooLong
  | invalidName
  | invalidArgument
  | notPermitted
  | badDescriptor
  | brokenPipe
  | noSpace
  | notProgram
  | tooManyLinks
  | damaged
  deriving DecidableEq, Repr

namespace FileFault

def message : FileFault → String
  | .notFound => "No such file or directory"
  | .notDirectory => "Not a directory"
  | .isDirectory => "Is a directory"
  | .notEmpty => "Directory not empty"
  | .alreadyExists => "File exists"
  | .nameTooLong => "File name too long"
  | .invalidName => "file name contained an unexpected NUL byte"
  | .invalidArgument => "Invalid argument"
  | .notPermitted => "Permission denied"
  | .badDescriptor => "Bad file descriptor"
  | .brokenPipe => "Broken pipe"
  | .noSpace => "No space left on device"
  | .notProgram => "Exec format error"
  | .tooManyLinks => "Too many levels of symbolic links"
  | .damaged => "Input/output error"

end FileFault

/-- What a file is besides its names. -/
structure Inode where
  content : ByteArray
  rights : Rights := { execute := false }

inductive Attempt where
  | makeDirectory (l : Location)
  | create (l : Location)
  | write (number : Nat)
  | sync (number : Nat)
  | move (old new : Location)
  | list (l : Location)
  | read (number : Nat)
  deriving DecidableEq, Repr

structure Refusal where
  fault : FileFault
  kept : Nat := 0

/-- What the disk refuses, depending on how many changes it has made before. -/
structure Disk where
  refuses : Nat → Attempt → Option Refusal := fun _ _ => none

structure Volume where
  entries : Entries
  inodes : List (Nat × Inode)
  workingDir : Location
  rootRights : Rights
  disk : Disk
  changes : Nat
  tree : entries.IsTree

namespace Volume

def bare (here : Location) : Volume where
  entries := []
  inodes := []
  workingDir := here
  rootRights := {}
  disk := {}
  changes := 0
  tree := by decide

/-- What stands at a location. The root is a directory. -/
def node? (v : Volume) (l : Location) : Option Node :=
  if l = [] then some (.directory v.rootRights) else v.entries.node? l

def inode (v : Volume) (number : Nat) : Inode :=
  ((v.inodes.find? (·.1 = number)).map (·.2)).getD ⟨ByteArray.empty, { execute := false }⟩

def seen (v : Volume) : Node → Entry
  | .file number => .file (v.inode number).content (v.inode number).rights.execute
  | .directory _ => .directory
  | .device d => .device d
  | .link target => .link target

def lookup (v : Volume) (l : Location) : Option Entry := (v.node? l).map v.seen

def children (v : Volume) (dir : Location) : List String := v.entries.children dir

def listing (v : Volume) : List (Location × Entry) := v.entries.map fun x => (x.1, v.seen x.2)

/-! ## Single changes -/

/-- Puts a node at a location that has a directory for it; what has something under it is not
replaced by what cannot. -/
def put (v : Volume) (l : Location) (node : Node) : Volume :=
  if h : v.entries.InPlace l ∧ (node.isDirectory = true ∨ v.entries.children l = []) then
    { v with entries := v.entries.without l ++ [(l, node)], tree := v.tree.put h.1 h.2 }
  else v

/-- Takes away what stands at a location, unless there is something under it. -/
def erase (v : Volume) (l : Location) : Volume :=
  if h : v.entries.children l = [] then
    { v with entries := v.entries.without l, tree := v.tree.without h }
  else v

def relocate (v : Volume) (old new : Location) : Volume :=
  if h : v.entries.InPlace new ∧ old ≠ [] ∧ (∀ x ∈ v.entries, ¬ new <+: x.1) ∧ ¬ old <+: new then
    { v with
      entries := v.entries.relocate old new
      tree := v.tree.relocate h.1 h.2.1 h.2.2.1 h.2.2.2 }
  else v

def numbers (v : Volume) : List Nat :=
  v.entries.filterMap fun x =>
    match x.2 with
    | .file number => some number
    | _ => none

def fresh (v : Volume) : Nat := v.numbers.foldr Nat.max 0 + 1

def setInode (v : Volume) (number : Nat) (i : Inode) : Volume :=
  { v with inodes := (number, i) :: v.inodes.filter (·.1 ≠ number) }

def setContent (v : Volume) (number : Nat) (content : ByteArray) : Volume :=
  v.setInode number { v.inode number with content }

def putFile (v : Volume) (l : Location) (i : Inode) : Volume :=
  (v.setInode v.fresh i).put l (.file v.fresh)

/-- Puts an entry at a location. A file that is there is changed, under all its names. -/
def set (v : Volume) (l : Location) : Entry → Volume
  | .file content executable =>
    match v.node? l with
    | some (.file number) =>
      v.setInode number ⟨content, { (v.inode number).rights with execute := executable }⟩
    | _ => v.putFile l ⟨content, { execute := executable }⟩
  | .directory => if (v.node? l).any Node.isDirectory then v else v.put l (.directory {})
  | .device d => v.put l (.device d)
  | .link target => v.put l (.link target)

def refusal (v : Volume) (a : Attempt) : Option Refusal := v.disk.refuses v.changes a

def ask (v : Volume) (a : Attempt) : Except FileFault Unit :=
  match v.refusal a with
  | some r => .error r.fault
  | none => .ok ()

def changed (v : Volume) : Volume := { v with changes := v.changes + 1 }

def empty : Volume := (bare ["work"]).set ["work"] .directory

/-! ## Paths -/

def pathLimit : Nat := 4096

def linkLimit : Nat := 40

def checkName (name : String) : Except FileFault Unit :=
  if nameLimit < name.utf8ByteSize then .error .nameTooLong else .ok ()

def checkPath (path : String) : Except FileFault Unit :=
  if path = "" then .error .notFound
  else if hasNul path then .error .invalidName
  else if pathLimit ≤ path.utf8ByteSize then .error .nameTooLong
  else .ok ()

def origin (here : Location) (path : String) : Location :=
  if Path.isAbsolute path then [] else here

/-- What a name leads to, when `follow` leads on from the directory of a link. -/
def arrive (v : Volume) (follow : Location → String → Except FileFault Location) (l : Location) :
    Except FileFault Location :=
  match v.node? l with
  | none => .error .notFound
  | some (.link target) => follow l.dropLast target
  | some _ => .ok l

/-- The location that the pieces of a path lead to. Every piece but the last has to be a directory
that can be searched; the last one has to be if a dot follows it. -/
def walkWith (v : Volume) (follow : Location → String → Except FileFault Location)
    (here : Location) : List String → Except FileFault Location
  | [] => .ok here
  | piece :: rest =>
    match v.node? here with
    | none => .error .notFound
    | some (.directory rights) =>
      if piece = "" then walkWith v follow here rest
      else if !rights.execute then .error .notPermitted
      else if piece = "." then walkWith v follow here rest
      else if piece = ".." then walkWith v follow here.dropLast rest
      else if nameLimit < piece.utf8ByteSize then .error .nameTooLong
      else v.arrive follow (here ++ [piece]) >>= fun next => walkWith v follow next rest
    | some _ => .error .notDirectory

def follow (v : Volume) : Nat → Location → String → Except FileFault Location
  | 0, _, _ => .error .tooManyLinks
  | depth + 1, here, target => do
    checkPath target
    v.walkWith (follow v depth) (origin here target) (Path.split target)

def walk (v : Volume) (here : Location) (pieces : List String) : Except FileFault Location :=
  v.walkWith (v.follow linkLimit) here pieces

def start (v : Volume) (path : String) : Location := origin v.workingDir path

def locate (v : Volume) (path : String) : Except FileFault Location := do
  checkPath path
  v.walk (v.start path) (Path.split path)

def entry? (v : Volume) (path : String) : Option Entry :=
  (v.locate path).toOption.bind v.lookup

def isFile (v : Volume) (path : String) : Bool := (v.entry? path).any Entry.isFile

def isDirectory (v : Volume) (path : String) : Bool := (v.entry? path).any Entry.isDirectory

/-- The location for an entry under a name, which need not exist, in a directory, which must. -/
def placeFrom (v : Volume) (here : Location) (path : String) : Except FileFault Location := do
  checkPath path
  let pieces := Path.split path
  match pieces.getLast? with
  | none => .error .notFound
  | some name =>
    let dir ← v.walk (origin here path) (pieces.dropLast ++ ["."])
    if name = "" ∨ name = "." ∨ name = ".." then .error .alreadyExists
    else
      checkName name
      return dir ++ [name]

def place (v : Volume) (path : String) : Except FileFault Location :=
  v.placeFrom v.workingDir path

def locateName (v : Volume) (path : String) : Except FileFault Location :=
  match v.place path with
  | .ok l => if (v.node? l).isNone then .error .notFound else .ok l
  | .error .alreadyExists => v.locate path
  | .error fault => .error fault

/-- Where a file goes that is made at a location: where the links lead from there. -/
def destinationFrom (v : Volume) : Nat → Location → Except FileFault Location
  | 0, _ => .error .tooManyLinks
  | depth + 1, l =>
    match v.node? l with
    | some (.link target) => do
      let next ← v.placeFrom l.dropLast target
      v.destinationFrom depth next
    | _ => .ok l

def destination (v : Volume) (path : String) : Except FileFault Location := do
  let l ← v.place path
  v.destinationFrom (linkLimit + 1) l

/-! ## Directories -/

/-- Slashes at the end mean nothing for a path that is to become a directory. -/
def withoutSlashes (path : String) : String :=
  match path.toList.reverse.dropWhile (· == '/') with
  | [] => path
  | kept => String.ofList kept.reverse

/-- Names can be put into a directory and taken from it. -/
def checkWritable (v : Volume) (dir : Location) : Except FileFault Unit :=
  match v.node? dir with
  | some (.directory rights) => if rights.write then .ok () else .error .notPermitted
  | _ => .error .notDirectory

def makeDirectory (v : Volume) (path : String) : Except FileFault Volume := do
  checkPath path
  let l ← v.place (withoutSlashes path)
  if (v.node? l).isSome then .error .alreadyExists
  else
    v.checkWritable l.dropLast
    v.ask (.makeDirectory l)
    return (v.put l (.directory {})).changed

def ensureDirectory (v : Volume) (path : String) : Volume × Option FileFault :=
  match v.makeDirectory path with
  | .ok made => (made, none)
  | .error fault => (v, if v.isDirectory path then none else some fault)

/-- Makes the first of some directories, each of which lies in the next one, with those that are
missing. -/
def ensureFirst (v : Volume) : List String → Volume × Option FileFault
  | [] => (v, none)
  | path :: above =>
    if path = "" then (v, none)
    else
      match v.makeDirectory path with
      | .error .notFound =>
        match v.ensureFirst above with
        | (made, none) => made.ensureDirectory path
        | failed => failed
      | _ => v.ensureDirectory path

def ensureDirectories (v : Volume) (path : String) : Volume × Option FileFault :=
  v.ensureFirst (Path.ancestors path.length path)

def list (v : Volume) (path : String) : Except FileFault (List String) := do
  let l ← v.locate path
  match v.node? l with
  | some (.directory rights) =>
    if !rights.read then .error .notPermitted
    else
      v.ask (.list l)
      return v.children l
  | _ => .error .notDirectory

def removeDirectory (v : Volume) (path : String) : Except FileFault Volume := do
  let l ← v.locate path
  match v.lookup l with
  | some .directory =>
    if (Path.split (withoutSlashes path)).getLast? = some "." then .error .invalidArgument
    else if (v.children l).isEmpty && l ≠ [] then return v.erase l else .error .notEmpty
  | _ => .error .notDirectory

/-! ## Files -/

inductive Handle where
  | file (number : Nat)
  | device (d : Device)
  deriving DecidableEq, Repr

/-- Opens a file for writing. One that is there loses what it holds. -/
def create (v : Volume) (path : String) : Except FileFault (Volume × Handle) := do
  let l ← v.destination path
  match v.node? l with
  | some (.file number) =>
    if !(v.inode number).rights.write then .error .notPermitted
    else
      v.ask (.create l)
      return ((v.setContent number ByteArray.empty).changed, .file number)
  | some (.device d) => return (v, .device d)
  | some _ => .error .isDirectory
  | none =>
    v.checkWritable l.dropLast
    v.ask (.create l)
    return ((v.putFile l ⟨ByteArray.empty, { execute := false }⟩).changed, .file v.fresh)

/-- Writes to what has been opened just now. What the disk has taken before it refuses stays. -/
def write (v : Volume) (h : Handle) (content : ByteArray) : Volume × Option FileFault :=
  match h with
  | .file number =>
    match v.refusal (.write number) with
    | some r => (v.setContent number (content.extract 0 r.kept), some r.fault)
    | none => ((v.setContent number content).changed, none)
  | .device .full => (v, if content.isEmpty then none else some .noSpace)
  | .device _ => (v, none)

/-- Waits until what was written is stored; a device stores nothing. -/
def sync (v : Volume) : Handle → Except FileFault Unit
  | .file number => v.ask (.sync number)
  | .device _ => .error .invalidArgument

def writeFile (v : Volume) (path : String) (content : ByteArray) : Except FileFault Volume := do
  let (opened, h) ← v.create path
  match h, opened.write h content with
  | .device _, (written, _) | .file _, (written, none) => return written
  | .file _, (_, some fault) => .error fault

def read (v : Volume) (path : String) : Except FileFault ByteArray := do
  let l ← v.locate path
  match v.node? l with
  | some (.file number) =>
    if !(v.inode number).rights.read then .error .notPermitted
    else
      v.ask (.read number)
      return (v.inode number).content
  | some (.directory _) => .error .isDirectory
  | _ => .error .invalidArgument

def removeFile (v : Volume) (path : String) : Except FileFault Volume := do
  let l ← v.locateName path
  match v.lookup l with
  | some .directory => .error .isDirectory
  | _ => return v.erase l

/-- Moves a node that stands at `old` and is no directory to `new`. Of two names of one file both
stay. -/
def moveNode (v : Volume) (node : Node) (old new : Location) : Except FileFault Volume :=
  match v.node? new with
  | some (.directory _) => .error .isDirectory
  | there =>
    if node.isFile ∧ there = some node then .ok v
    else do
      v.ask (.move old new)
      return ((v.erase old).put new node).changed

def moveDirectory (v : Volume) (old new : Location) : Except FileFault Volume :=
  match v.node? new with
  | some (.directory _) =>
    if !(v.children new).isEmpty then .error .notEmpty
    else if old.isPrefixOf new then .error .invalidArgument
    else do
      v.ask (.move old new)
      return ((v.erase new).relocate old new).changed
  | some _ => .error .notDirectory
  | none =>
    if old.isPrefixOf new then .error .invalidArgument
    else do
      v.ask (.move old new)
      return (v.relocate old new).changed

/-- Moves a file, a link or a directory. A directory takes the place of an empty directory, anything
else the place of what is no directory. -/
def rename (v : Volume) (source destination : String) : Except FileFault Volume := do
  let old ← v.locateName source
  let new ← v.place destination
  v.checkWritable old.dropLast
  v.checkWritable new.dropLast
  if old = new then return v
  else
    match v.node? old with
    | some (.directory _) => v.moveDirectory old new
    | some node => v.moveNode node old new
    | none => .error .notFound

def files (v : Volume) : List (Location × ByteArray) :=
  v.listing.filterMap fun (l, e) =>
    match e with
    | .file content _ =>
      if v.workingDir.isPrefixOf l then some (l.drop v.workingDir.length, content) else none
    | _ => none

end Volume

end LoadScript
