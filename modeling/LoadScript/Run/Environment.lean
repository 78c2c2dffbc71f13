import LoadScript.Error
import LoadScript.Text.Ascii
import LoadScript.Text.Blank

set_option autoImplicit false

namespace LoadScript

structure Environment where
  entries : List (String × String)
  increasing : (entries.map Prod.fst).Pairwise (· < ·)
  deriving DecidableEq, Repr

namespace Environment

def empty : Environment := ⟨[], List.Pairwise.nil⟩

instance : Inhabited Environment := ⟨empty⟩

def insertEntry (key value : String) : List (String × String) → List (String × String)
  | [] => [(key, value)]
  | (k, v) :: rest =>
    if key = k then (key, value) :: rest
    else if key < k then (key, value) :: (k, v) :: rest
    else (k, v) :: insertEntry key value rest

theorem mem_keys_insertEntry {key value other : String} {entries : List (String × String)}
    (h : other ∈ (insertEntry key value entries).map Prod.fst) :
    other = key ∨ other ∈ entries.map Prod.fst := by
  induction entries with
  | nil => exact .inl (by simpa [insertEntry] using h)
  | cons entry rest ih =>
    unfold insertEntry at h
    split at h
    · exact (List.mem_cons.1 h).imp_right (List.mem_cons_of_mem _)
    split at h
    · exact List.mem_cons.1 h
    · obtain same | later := List.mem_cons.1 h
      · exact .inr (List.mem_cons.2 (.inl same))
      · exact (ih later).imp_right (List.mem_cons_of_mem _)

theorem increasing_insertEntry (key value : String) {entries : List (String × String)}
    (h : (entries.map Prod.fst).Pairwise (· < ·)) :
    ((insertEntry key value entries).map Prod.fst).Pairwise (· < ·) := by
  induction entries with
  | nil => simp [insertEntry]
  | cons entry rest ih =>
    obtain ⟨k, v⟩ := entry
    obtain ⟨least, tail⟩ := List.pairwise_cons.1 h
    rw [insertEntry]
    split
    · rename_i same
      rw [List.map_cons, same]
      exact h
    split
    · rename_i before
      rw [List.map_cons]
      refine List.pairwise_cons.2 ⟨?_, h⟩
      intro later mem
      obtain rfl | mem := List.mem_cons.1 mem
      · exact before
      · exact String.lt_trans before (least later mem)
    · rename_i other not_before
      have after : k < key := by
        rw [← Decidable.not_not (p := k < key)]
        intro not_after
        exact other (String.le_antisymm (String.not_lt.1 not_after) (String.not_lt.1 not_before))
      rw [List.map_cons]
      refine List.pairwise_cons.2 ⟨?_, ih tail⟩
      intro later mem
      obtain rfl | mem := mem_keys_insertEntry mem
      · exact after
      · exact least later mem

def insert (e : Environment) (key value : String) : Environment :=
  ⟨insertEntry key value e.entries, increasing_insertEntry key value e.increasing⟩

def insertAll (e : Environment) (pairs : List (String × String)) : Environment :=
  pairs.foldl (fun e (key, value) => e.insert key value) e

/-- A repeated key takes the last value. -/
def ofList (pairs : List (String × String)) : Environment := empty.insertAll pairs

def toList (e : Environment) : List (String × String) := e.entries

def get? (e : Environment) (key : String) : Option String :=
  (e.entries.find? (·.1 = key)).map (·.2)

/-- The pairs of both; those of `overrides` win. -/
def merge (defaults overrides : Environment) : Environment := defaults.insertAll overrides.entries

/-! ## Pairs -/

/-- A letter or an underscore, then letters, digits and underscores, all of them ASCII. -/
def isKey : List Char → Bool
  | [] => false
  | c :: rest =>
    (Chars.isAsciiLetter c || c == '_') &&
      rest.all fun d => Chars.isAsciiLetter d || Chars.isAsciiDigit d || d == '_'

/-- A pair `KEY=VALUE`. Blanks around the key do not count; the value may be anything. -/
def readPair (pair : String) : Except Error (String × String) :=
  match pair.toList.dropWhile (· != '=') with
  | _ :: value =>
    let key := Chars.trim (pair.toList.takeWhile (· != '='))
    if isKey key then .ok (String.ofList key, String.ofList value) else .error (.invalidPair pair)
  | [] => .error (.invalidPair pair)

/-- The environment of a list of pairs; the first malformed one decides the error. -/
def ofPairs (pairs : List String) : Except Error Environment := do
  let entries ← pairs.mapM readPair
  return ofList entries

end Environment

end LoadScript
