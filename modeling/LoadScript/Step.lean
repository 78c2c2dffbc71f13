import LoadScript.Text.Blank

set_option autoImplicit false

namespace LoadScript

abbrev Table := List (List String)

structure Step where
  keyword : String
  text : String
  table : Option Table
  docstring : Option String
  deriving DecidableEq, Repr, Inhabited

namespace Step

def make (keyword text : String) (table : Option Table) (docstring : Option String) : Step :=
  { keyword := Text.trim keyword, text, table, docstring }

def label (s : Step) : String := s.keyword ++ " " ++ s.text

end Step

end LoadScript
