set_option autoImplicit false

namespace LoadScript.Path

def isAbsolute (path : String) : Bool := path.toList.head? == some '/'

structure IsName (n : String) : Prop where
  no_slash : '/' ∉ n.toList
  ne_empty : n ≠ ""
  ne_dot : n ≠ "."
  ne_dots : n ≠ ".."

/-- The path `name` as seen from the directory `dir`. -/
def join (dir name : String) : String :=
  if isAbsolute name || dir = "" then name
  else if dir.toList.getLast? = some '/' then dir ++ name
  else dir ++ "/" ++ name

def pieces : List Char → List (List Char)
  | [] => [[]]
  | '/' :: rest => [] :: pieces rest
  | c :: rest =>
    match pieces rest with
    | [] => [[c]]
    | piece :: more => (c :: piece) :: more

/-- The pieces of a path; a slash at the end leaves an empty last piece. -/
def split (path : String) : List String := (pieces path.toList).map String.ofList

/-- The components of a path: empty pieces do not count, and a dot counts only in front. -/
def components (path : String) : List String :=
  match split path with
  | [] => []
  | first :: rest =>
    (if first = "" then [] else [first]) ++ rest.filter (fun piece => piece ≠ "" ∧ piece ≠ ".")

def fileName? (path : String) : Option String :=
  (components path).getLast?.filter fun name => name ≠ "." ∧ name ≠ ".."

def counts : String × Nat → Bool
  | (piece, index) => piece ≠ "" && (piece ≠ "." || index = 0)

/-- The directory that holds the last component, as it is written in the path; a path without
components has none. -/
def parent? (path : String) : Option String :=
  match (split path).zipIdx.reverse.dropWhile (!counts ·) with
  | [] => none
  | _ :: above =>
    match above.dropWhile (!counts ·) with
    | [] => some (if isAbsolute path then "/" else "")
    | kept => some ("/".intercalate (kept.reverse.map (·.1)))

def ancestors : Nat → String → List String
  | 0, path => [path]
  | fuel + 1, path =>
    match parent? path with
    | none => [path]
    | some above => path :: ancestors fuel above

/-- What follows the last dot of a file name; a dot in front does not count. -/
def extension? (path : String) : Option String := do
  let name ← fileName? path
  let reversed := name.toList.reverse
  match reversed.dropWhile (· != '.') with
  | _ :: _ :: _ => return String.ofList (reversed.takeWhile (· != '.')).reverse
  | _ => none

end LoadScript.Path
