import LoadScript.Error
import LoadScript.Feature.Expansion
import LoadScript.Gherkin.Grammar
import LoadScript.Text.Ascii

set_option autoImplicit false

namespace LoadScript

namespace Chars

def afterPrefix? (t : String) (s : List Char) : Option (List Char) :=
  if t.toList.isPrefixOf s then some (s.drop t.length) else none

end Chars

namespace Gherkin

/-- The letters and hyphens of a language name; the first is a letter. -/
def isLanguageName : List Char → Bool
  | [] => false
  | c :: rest => Chars.isAsciiLetter c && rest.all fun d => Chars.isAsciiLetter d || d == '-'

def directiveName? (line : List Char) : Option String := do
  let afterMark ← Chars.afterPrefix? "#" line
  let afterWord ← Chars.afterPrefix? "language" (Chars.trimStart afterMark)
  let afterColon ← Chars.afterPrefix? ":" (Chars.trimStart afterWord)
  let name := Chars.trim afterColon
  if isLanguageName name then some (String.ofList name) else none

/-- The first directive among the comment lines at the top; blank lines do not end them. -/
def findLanguage : List (List Char) → Option String
  | [] => none
  | line :: rest =>
    match Chars.trim line with
    | [] => findLanguage rest
    | '#' :: comment => (directiveName? ('#' :: comment)).or (findLanguage rest)
    | _ => none

def language? (s : String) : Option String := findLanguage (Chars.lines s.toList)

def dialectOf (s : String) : Except Error Dialect :=
  match language? s with
  | none => .ok Dialect.english
  | some name =>
    match Dialect.ofName? name with
    | some d => .ok d
    | none => .error (.unsupportedLanguage name)

end Gherkin

namespace Feature

/-- The feature that a text describes. A text that does not end its last line gets a line end. -/
def ofText (s sourcePath : String) : Except Error Feature := do
  let dialect ← Gherkin.dialectOf s
  let text := if s.toList.getLast? = some '\n' then s.toList else s.toList ++ ['\n']
  match Gherkin.Document.ofText? dialect text with
  | some doc => return ofDocument doc sourcePath
  | none => throw (.malformed sourcePath "the text is not a feature document")

end Feature

end LoadScript
