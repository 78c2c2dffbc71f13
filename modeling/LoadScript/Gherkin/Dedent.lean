import LoadScript.Text.Lines

/-!
# Common indentation

Doc strings lose the indentation that their lines share. The margin starts as the leading blanks of
the first line that is not blank; a later line shortens it where a character of the line differs
from the margin's. Lines that are blank or do not begin with the margin become empty.
-/

set_option autoImplicit false

namespace LoadScript.Gherkin

/-- The margin after looking at `line`: cut at the first place where both have a character and the
two differ. -/
def narrowMargin : List Char → List Char → List Char
  | m :: margin, c :: line => if c = m then m :: narrowMargin margin line else []
  | margin, _ => margin

def margin (lines : List (List Char)) : List Char :=
  match lines.dropWhile Chars.allBlank with
  | [] => []
  | first :: rest => rest.foldl narrowMargin (first.takeWhile Chars.isBlank)

def stripMargin (margin line : List Char) : List Char :=
  if margin.isPrefixOf line && !Chars.allBlank line then line.drop margin.length else []

/-- The text without the common indentation of its lines. Line ends become line feeds. -/
def dedent (s : List Char) : List Char :=
  let ls := Chars.lines s
  let stripped := ls.map (stripMargin (margin ls))
  let body := ['\n'].intercalate stripped
  if s.getLast? = some '\n' then body ++ ['\n'] else body

end LoadScript.Gherkin
