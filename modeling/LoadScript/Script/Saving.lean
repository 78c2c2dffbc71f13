import LoadScript.Error
import LoadScript.Host.Volume

set_option autoImplicit false

namespace LoadScript

namespace Script

/-- The directory of a path; a path without components belongs to the working directory. -/
def directoryOf (path : String) : String := (Path.parent? path).getD "."

def temporaryPath (path : String) : String :=
  Path.join (directoryOf path) ("." ++ (Path.fileName? path).getD "scenario" ++ ".tmp")

/-- Writes a file and waits until it is stored. As in all that follows, the state is the one in which
the first failing step leaves the volume. -/
def storeFile (v : Volume) (path : String) (content : ByteArray) : Volume × Option FileFault :=
  match v.create path with
  | .error fault => (v, some fault)
  | .ok (opened, h) =>
    match opened.write h content with
    | (written, some fault) => (written, some fault)
    | (written, none) =>
      match written.sync h with
      | .error fault => (written, some fault)
      | .ok () => (written, none)

/-- The steps of saving: the directory, the temporary file, the move. -/
def trySave (v : Volume) (path content : String) : Volume × Option FileFault :=
  match v.ensureDirectories (directoryOf path) with
  | (made, some fault) => (made, some fault)
  | (made, none) =>
    match storeFile made (temporaryPath path) content.toUTF8 with
    | (written, some fault) => (written, some fault)
    | (written, none) =>
      match written.rename (temporaryPath path) path with
      | .error fault => (written, some fault)
      | .ok moved => (moved, none)

/-- Saves a script; the error names the path. It is irreducible so that a match on what it gives is
not decided by running it. -/
@[irreducible] def save (v : Volume) (path content : String) : Volume × Except Error Unit :=
  match trySave v path content with
  | (after, none) => (after, .ok ())
  | (after, some fault) => (after, .error (.unwritable path fault.message))

end Script

end LoadScript
