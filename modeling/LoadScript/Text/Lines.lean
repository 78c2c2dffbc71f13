import LoadScript.Text.Blank

/-!
# Lines

A line ends at a line feed, or at a carriage return with its line feed. A text that ends with a
line feed has no empty last line, and a carriage return elsewhere belongs to its line.
-/

set_option autoImplicit false

namespace LoadScript

namespace Chars

def lines : List Char → List (List Char)
  | [] => []
  | '\n' :: rest => [] :: lines rest
  | '\r' :: '\n' :: rest => [] :: lines rest
  | c :: rest =>
    match lines rest with
    | [] => [[c]]
    | line :: more => (c :: line) :: more

end Chars

namespace Text

def lines (s : String) : List String := (Chars.lines s.toList).map String.ofList

def joinLines (ls : List String) : String := "\n".intercalate ls

def spaces (n : Nat) : String := String.ofList (List.replicate n ' ')

/-- Indents the lines of `code` that are not blank; a blank line becomes empty. -/
def indent (width : Nat) (code : String) : String :=
  joinLines ((lines code).map fun line => if isBlank line then "" else spaces width ++ line)

end Text

end LoadScript
