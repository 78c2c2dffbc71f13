import LoadScript.Feature.Basic
import LoadScript.Tags

set_option autoImplicit false

namespace LoadScript

namespace Feature

def keepTagged (wanted : List String) (f : Feature) : Feature :=
  if f.tags.any wanted.contains then f
  else { f with scenarios := f.scenarios.filter fun s => s.tags.any wanted.contains }

def selectByTags (tags : List String) (features : List Feature) : List Feature :=
  let wanted := Tags.normalize tags
  if wanted.isEmpty then features else features.map (keepTagged wanted)

end Feature

end LoadScript
