import LoadScript.Text.Blank

set_option autoImplicit false

namespace LoadScript

structure Parameters where
  entries : List (String × String)
  distinct : (entries.map Prod.fst).Nodup
  deriving DecidableEq, Repr

namespace Parameters

def empty : Parameters := ⟨[], List.nodup_nil⟩

instance : Inhabited Parameters := ⟨empty⟩

/-- Replaces the value of `key` where it stands, or appends the pair. -/
def insertEntry (key value : String) : List (String × String) → List (String × String)
  | [] => [(key, value)]
  | (k, v) :: rest =>
    if k = key then (key, value) :: rest else (k, v) :: insertEntry key value rest

theorem mem_keys_insertEntry {key value k : String} {entries : List (String × String)}
    (h : k ∈ (insertEntry key value entries).map Prod.fst) :
    k = key ∨ k ∈ entries.map Prod.fst := by
  induction entries with
  | nil => exact .inl (by simpa [insertEntry] using h)
  | cons entry rest ih =>
    unfold insertEntry at h
    split at h
    · exact (List.mem_cons.1 h).imp_right (List.mem_cons_of_mem _)
    · obtain same | later := List.mem_cons.1 h
      · exact .inr (List.mem_cons.2 (.inl same))
      · exact (ih later).imp_right (List.mem_cons_of_mem _)

theorem nodup_insertEntry (key value : String) {entries : List (String × String)}
    (h : (entries.map Prod.fst).Nodup) : ((insertEntry key value entries).map Prod.fst).Nodup := by
  induction entries with
  | nil => simp [insertEntry]
  | cons entry rest ih =>
    rw [List.map_cons, List.nodup_cons] at h
    unfold insertEntry
    split
    · rename_i same
      rw [List.map_cons, List.nodup_cons, ← same]
      exact h
    · rename_i other
      rw [List.map_cons, List.nodup_cons]
      refine ⟨fun mem => ?_, ih h.2⟩
      obtain same | old := mem_keys_insertEntry mem
      · exact other same
      · exact h.1 old

def insert (p : Parameters) (key value : String) : Parameters :=
  ⟨insertEntry key value p.entries, nodup_insertEntry key value p.distinct⟩

/-- Inserts the pairs in turn, so a repeated name keeps its place and takes the last value. -/
def ofList (pairs : List (String × String)) : Parameters :=
  pairs.foldl (fun p (key, value) => p.insert key value) empty

def toList (p : Parameters) : List (String × String) := p.entries

def get? (p : Parameters) (key : String) : Option String :=
  (p.entries.find? (·.1 = key)).map (·.2)

/-- The value of `key`, or `default` when there is none or it is blank. -/
def getOr (p : Parameters) (key default : String) : String :=
  match p.get? key with
  | some value => if Text.isBlank value then default else value
  | none => default

def size (p : Parameters) : Nat := p.entries.length

def isEmpty (p : Parameters) : Bool := p.entries.isEmpty

end Parameters

end LoadScript
