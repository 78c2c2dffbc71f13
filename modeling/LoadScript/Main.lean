import LoadScript.CommandLine.Execution
import LoadScript.Host.Shell.Host
import LoadScript.Run.ProcessEngine
import LoadScript.Vocabulary.Builtin
import Std.Time.DateTime.Timestamp

/-!
# Command line

Takes the part of the file system that a command line speaks of into a volume, carries the command
line out on it, and writes back the files that have changed. Engines are run by the shell of this
library.
-/

set_option autoImplicit false

namespace LoadScript.CommandLine

def locationOf (pieces : List String) : Location :=
  pieces.foldl (fun l piece =>
    if piece = "" ∨ piece = "." then l else if piece = ".." then l.dropLast else l ++ [piece]) []

def pathOf (l : Location) : String := "/" ++ "/".intercalate l

def locationFrom (here : Location) (path : String) : Location :=
  if Path.isAbsolute path then locationOf (Path.split path)
  else locationOf (here ++ Path.split path)

def put (v : Volume) (l : Location) (e : Entry) : Volume :=
  ((List.range l.length).foldl (fun v n =>
    if (v.lookup (l.take n)).isNone then v.set (l.take n) .directory else v) v).set l e

def take (v : Volume) (l : Location) : IO Volume := do
  let here ← IO.currentDir
  let path := here / pathOf l
  if ← path.isDir then
    let entries ← path.readDir
    entries.foldlM (fun v entry => do
      if ← entry.path.isDir then return put v (l ++ [entry.fileName]) .directory
      else return put v (l ++ [entry.fileName]) (.file (← IO.FS.readBinFile entry.path) true))
      (put v l .directory)
  else if ← path.pathExists then return put v l (.file (← IO.FS.readBinFile path) true)
  else return v

def pathsOf (a : Arguments) (s : Settings) : List String :=
  a.target.toList ++ [a.outputDirectory] ++
    (if s.binary.toList.contains '/' then [s.binary] else [])

def isChanged (before : Volume) (l : Location) (content : ByteArray) : Bool :=
  match before.lookup l with
  | some (.file old _) => old != content
  | _ => true

def writeBack (before after : Volume) : IO Unit := do
  let here ← IO.currentDir
  for (l, e) in after.listing do
    match e with
    | .file content _ =>
      if isChanged before l content then
        IO.FS.createDirAll (here / pathOf l.dropLast)
        IO.FS.writeBinFile (here / pathOf l) content
    | _ => pure ()

def variableNames : List String :=
  ["K6_BINARY", "K6_TIMEOUT_SECS", "BASE_URL", "API_USERNAME", "API_PASSWORD"]

def usage : String :=
  "Usage: bdd-k6 [--parse-only | --generate-only] [-e KEY=VALUE]... [-t TAG]... [-o DIR] " ++
    "[--k6-binary PATH] [--timeout SECS] TARGET\n       bdd-k6 --list-steps"

def carryOut (a : Arguments) : IO Nat := do
  let bindings ← variableNames.filterMapM fun name => do
    return (← IO.getEnv name).map fun value => (name, value)
  let settings := a.settings fun name => (bindings.find? (·.1 = name)).map (·.2)
  let here := locationOf (Path.split (← IO.currentDir).toString)
  let now ← Std.Time.Timestamp.now
  let before ← ((pathsOf a settings).map (locationFrom here)).foldlM take
    (put (Volume.bare here) here .directory)
  let workshop : Workshop :=
    { vocabulary := Vocabulary.builtin
      settings
      engine := Engine.ofSettings (Shell.host bindings) settings
      clock := fun _ => ⟨now.toSecondsSinceUnixEpoch.val⟩ }
  let (result, traces) := a.execute workshop before
  writeBack before traces.volume
  for warning in traces.warnings do IO.eprintln ("WARN " ++ warning.message)
  IO.print traces.output
  match result with
  | .ok code => return code
  | .error e =>
    IO.eprintln ("Error: " ++ e.message)
    return 1

end LoadScript.CommandLine

def main (arguments : List String) : IO UInt32 := do
  match LoadScript.Arguments.read arguments with
  | .error fault =>
    if fault.exitCode = 0 then IO.println LoadScript.CommandLine.usage
    else IO.eprintln LoadScript.CommandLine.usage
    return fault.exitCode.toUInt32
  | .ok a => return (← LoadScript.CommandLine.carryOut a).toUInt32
