import LoadScript.Host.Machine.Run
import LoadScript.Host.Shell.Start
import LoadScript.Host.Utility.Installed

set_option autoImplicit false

namespace LoadScript.Shell

/-! ## Files of the host -/

/-- What the file of an installed program begins with; its name follows. -/
def programMark : Octets := Char.ofNat 127 :: "ELF".toList

def shells : List (String × Dialect) := [("sh", .dash), ("dash", .dash), ("bash", .bash)]

def programNames : List String := shells.map (·.1) ++ Utility.installed.map (·.1)

def systemEntries : List (Location × Entry) :=
  let directories := [["bin"], ["sbin"], ["dev"], ["etc"], ["home"], ["proc"], ["root"], ["tmp"],
    ["usr"], ["usr", "bin"], ["usr", "sbin"], ["usr", "lib"], ["usr", "local"],
    ["usr", "local", "bin"], ["usr", "local", "sbin"], ["var"], ["var", "tmp"]]
  let file := fun (name : String) =>
    Entry.file (Octets.toByteArray (programMark ++ name.toList)) true
  directories.map (·, .directory) ++
    [(["dev", "null"], .device .null), (["dev", "zero"], .device .zero),
      (["dev", "full"], .device .full)] ++
    programNames.flatMap fun name => [(["usr", "bin", name], file name), (["bin", name], file name)]

def withSystem (v : Volume) : Volume :=
  systemEntries.foldl (fun v (l, e) => if (v.lookup l).isNone then v.set l e else v) v

/-- A volume without the files of the host that were not there before. -/
def withoutSystem (before after : Volume) : Volume :=
  let added := systemEntries.filter fun e => (before.lookup e.1).isNone
  added.reverse.foldl (fun v e => v.erase e.1) after

/-! ## Programs -/

structure Start where
  program : String
  name : Octets
  arguments : List Octets

def interpreter? (line : Octets) : Option (Octets × Option Octets) :=
  let trimmed := (line.dropWhile isBlank).reverse.dropWhile isBlank |>.reverse
  let path := trimmed.takeWhile (!isBlank ·)
  let argument := (trimmed.drop path.length).dropWhile isBlank
  if path.isEmpty then none else some (path, if argument.isEmpty then none else some argument)

def firstLineLimit : Nat := 255

def resolve (v : Volume) : Nat → (path name : Octets) → (arguments : List Octets) →
    Except FileFault Start
  | 0, _, _, _ => .error .tooManyLinks
  | fuel + 1, path, name, arguments => do
    let l ← v.locate (Octets.toText path)
    match v.lookup l with
    | some (.file content true) =>
      let front := Octets.ofByteArray (content.extract 0 firstLineLimit)
      match front with
      | '#' :: '!' :: rest =>
        match interpreter? (rest.takeWhile (· != '\n')) with
        | some (interpreter, argument) =>
          resolve v fuel interpreter interpreter (argument.toList ++ path :: arguments)
        | none => .error .notProgram
      | front =>
        if programMark.isPrefixOf front then
          return ⟨String.ofList (front.drop programMark.length), name, arguments⟩
        else .error .notProgram
    | _ => .error .notPermitted

def interpreterDepth : Nat := 6

def startProgram (m : Means) : Launcher := fun v path name arguments bindings =>
  match resolve v interpreterDepth path name arguments with
  | .error fault => .error fault
  | .ok start =>
    let invocation : Invocation := ⟨m.launch, start.name, start.arguments, bindings⟩
    match shells.find? (·.1 = start.program) with
    | some (_, dialect) => .ok (shellProgram m.run dialect invocation)
    | none =>
      match Utility.find? start.program with
      | some utility => .ok (utility invocation).toProgram
      | none => .error .notProgram

def means : Nat → Means
  | 0 => ⟨fun _ _ => throw .exits, fun _ _ _ _ _ => .error .notPermitted⟩
  | depth + 1 =>
    ⟨fun flags c => (means depth).step flags c,
      fun v path name arguments bindings =>
        startProgram (means depth) v path name arguments bindings⟩

def depth : Nat := 1000000

def usualBindings : List (String × String) := [("HOME", "/root"), ("PATH", Means.usualPath)]

/-! ## The host -/

/-- Starts a program. Without any time it is killed before it does something. -/
def start (bindings : List (String × String)) (v : Volume) (binary : String)
    (arguments : List String) (limit : Nat) : Except String ProcessReport :=
  if (binary :: arguments).any hasNul then .error FileFault.invalidName.message
  else
    let given := usualBindings.filter fun b => !bindings.any (·.1 = b.1)
    let environment := (given ++ bindings).map fun (name, value) => (name, Octets.ofText value)
    let full := withSystem v
    let name := Octets.ofText binary
    let directories := (Means.usualPath.splitOn ":").map String.toList
    let path := match Builtin.search full directories name with
      | .path path => path
      | _ => name
    match startProgram (means depth) full path name (arguments.map Octets.ofText) environment with
    | .error fault => .error fault.message
    | .ok program =>
      let program := if limit = 0 then .asks (.sleep 1) fun () => .finished 0 else program
      let report := Machine.report full program limit
      .ok { report with volume := withoutSystem v report.volume }

def host (bindings : List (String × String)) : Host := ⟨start bindings⟩

end LoadScript.Shell
