set_option autoImplicit false

namespace LoadScript

namespace Chars

/-- The characters with the White_Space property. A zero width space is not one of them. -/
def isBlank (c : Char) : Bool :=
  let n := c.toNat
  (0x09 ≤ n && n ≤ 0x0D) || n == 0x20 || n == 0x85 || n == 0xA0 || n == 0x1680 ||
    (0x2000 ≤ n && n ≤ 0x200A) || n == 0x2028 || n == 0x2029 || n == 0x202F || n == 0x205F ||
    n == 0x3000

def trimStart (s : List Char) : List Char := s.dropWhile isBlank

def dropEndWhile (p : Char → Bool) (s : List Char) : List Char := (s.reverse.dropWhile p).reverse

def trimEnd (s : List Char) : List Char := dropEndWhile isBlank s

def trim (s : List Char) : List Char := trimEnd (trimStart s)

def allBlank (s : List Char) : Bool := s.all isBlank

end Chars

namespace Text

def trim (s : String) : String := String.ofList (Chars.trim s.toList)

def trimEnd (s : String) : String := String.ofList (Chars.trimEnd s.toList)

def isBlank (s : String) : Bool := Chars.allBlank s.toList

end Text

end LoadScript
