set_option autoImplicit false

namespace LoadScript.Chars

def isAsciiLetter (c : Char) : Bool := ('a' ≤ c && c ≤ 'z') || ('A' ≤ c && c ≤ 'Z')

def isAsciiDigit (c : Char) : Bool := '0' ≤ c && c ≤ '9'

def digitValue (c : Char) : Nat := c.toNat - '0'.toNat

def digitsValue (s : List Char) : Nat := s.foldl (fun n c => 10 * n + digitValue c) 0

end LoadScript.Chars
