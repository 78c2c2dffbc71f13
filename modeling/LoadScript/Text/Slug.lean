import LoadScript.Text.Alphanumeric
import LoadScript.Text.Blank
import LoadScript.Text.Case

set_option autoImplicit false

namespace LoadScript

namespace Chars

/-- Replaces every maximal run of other characters than letters and numbers by one hyphen.
`inGap` says that the character before was already part of such a run. -/
def hyphenate (inGap : Bool) : List Char → List Char
  | [] => []
  | c :: rest =>
    if isAlphanumeric c then c :: hyphenate false rest
    else if inGap then hyphenate true rest
    else '-' :: hyphenate true rest

def trimHyphens (s : List Char) : List Char := dropEndWhile (· == '-') (s.dropWhile (· == '-'))

def slug (s : List Char) : List Char := trimHyphens (hyphenate false (lower s))

end Chars

namespace Text

def slug (s : String) : String := String.ofList (Chars.slug s.toList)

end Text

end LoadScript
