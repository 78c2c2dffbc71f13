import LoadScript.Distinct
import LoadScript.Text.Blank

set_option autoImplicit false

namespace LoadScript

namespace Tags

def normalizeOne (tag : String) : String :=
  String.ofList ((Chars.trim tag.toList).dropWhile (· == '@'))

/-- The normal forms that are not empty, each at its first occurrence. -/
def normalize (tags : List String) : List String :=
  distinct ((tags.map normalizeOne).filter (fun tag => tag ≠ ""))

end Tags

end LoadScript
