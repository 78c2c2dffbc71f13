import LoadScript.Feature.Reading
import LoadScript.Host.Volume
import LoadScript.Text.Sorted

set_option autoImplicit false

namespace LoadScript.Feature

def fileExtension : String := "feature"

def filesIn (v : Volume) (dir : String) : Except Error (List String) :=
  if !v.isDirectory dir then .error (.notFound dir .directory)
  else
    match v.list dir with
    | .error fault => .error (.unreadable fault.message)
    | .ok entries =>
      let isFeature := fun name =>
        v.isFile (Path.join dir name) && Path.extension? name = some fileExtension
      match Text.sort (entries.filter isFeature) with
      | [] => .error (.noFeatureFiles dir)
      | names => .ok (names.map (Path.join dir))

def ofFile (v : Volume) (path : String) : Except Error Feature :=
  if !v.isFile path then .error (.notFound path .file)
  else
    match v.read path with
    | .error fault => .error (.unreadable fault.message)
    | .ok content =>
      match String.fromUTF8? content with
      | some text => ofText text path
      | none => .error (.unreadable "stream did not contain valid UTF-8")

/-- The features of a directory; the first file that cannot be read decides the error. -/
def ofDirectory (v : Volume) (dir : String) : Except Error (List Feature) := do
  let paths ← filesIn v dir
  paths.mapM (ofFile v)

def ofTarget (v : Volume) (target : String) : Except Error (List Feature) :=
  if v.isDirectory target then ofDirectory v target
  else if v.isFile target then do
    let f ← ofFile v target
    return [f]
  else .error (.notFound target .fileOrDirectory)

end LoadScript.Feature
