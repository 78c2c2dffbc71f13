import LoadScript.Feature.Expansion
import LoadScript.Proofs.Keyed

set_option autoImplicit false

namespace LoadScript

namespace Parameters

open Keyed

def keys (p : Parameters) : List String := p.toList.map Prod.fst

def pairPolicy : Policy (String × String) (String × String) String := .replacing Prod.fst

theorem insertEntry_eq_add (pair : String × String) (entries : List (String × String)) :
    insertEntry pair.1 pair.2 entries = pairPolicy.add entries pair := by
  induction entries with
  | nil => rfl
  | cons entry rest ih =>
    rw [insertEntry, ih]
    rfl

theorem toList_insert (p : Parameters) (key value : String) :
    (p.insert key value).toList = pairPolicy.add p.toList (key, value) :=
  insertEntry_eq_add (key, value) p.toList

theorem get?_insert (p : Parameters) (key value k : String) :
    (p.insert key value).get? k = if k = key then some value else p.get? k := by
  unfold insert get?
  dsimp only
  generalize p.entries = entries
  induction entries with
  | nil => by_cases h : key = k <;> simp [insertEntry, h, eq_comm]
  | cons entry rest ih =>
    by_cases taken : entry.1 = key
    · by_cases h : key = k <;> simp [insertEntry, taken, h, eq_comm]
    · by_cases h : entry.1 = k
      · have other : k ≠ key := fun same => taken (h.trans same)
        simp [insertEntry, h, other]
      · simpa [insertEntry, taken, h] using ih

theorem ofList_concat (pairs : List (String × String)) (pair : String × String) :
    ofList (pairs ++ [pair]) = (ofList pairs).insert pair.1 pair.2 := by
  rw [ofList, List.foldl_append]
  rfl

theorem toList_ofList (pairs : List (String × String)) :
    (ofList pairs).toList = pairPolicy.collect pairs := by
  induction pairs using List.reverseRecOn with
  | nil => rfl
  | append_singleton pairs pair ih =>
    rw [ofList_concat, toList_insert, ih, Policy.collect, Policy.collect, List.foldl_append]
    rfl

theorem collects_ofList (pairs : List (String × String)) :
    pairPolicy.Collects pairs (ofList pairs).toList :=
  toList_ofList pairs ▸ pairPolicy.collects_collect pairs

theorem keys_ofList (pairs : List (String × String)) :
    (ofList pairs).keys = (pairs.map Prod.fst).eraseDups := by
  rw [← distinct_eq_eraseDups]
  exact (collects_ofList pairs).keys

/-- The value of a name is the last that was given to it. -/
theorem get?_ofList (pairs : List (String × String)) (k : String) :
    (ofList pairs).get? k = ((pairs.filter fun pair => pair.1 = k).getLast?).map Prod.snd := by
  have found := ((collects_ofList pairs).find?_eq k).trans
    (Policy.replacing_entry Prod.fst pairs k)
  exact congrArg (Option.map Prod.snd) found

theorem toList_insert_of_mem {p : Parameters} {k : String} (known : k ∈ p.keys) (value : String) :
    (p.insert k value).toList = p.toList.map fun e => if e.1 = k then (k, value) else e := by
  rw [toList_insert]
  exact upsert_of_mem known p.distinct

theorem toList_insert_of_not_mem {p : Parameters} {k : String} (unknown : k ∉ p.keys)
    (value : String) : (p.insert k value).toList = p.toList ++ [(k, value)] := by
  rw [toList_insert]
  exact upsert_of_not_mem unknown

/-! ## Data rows -/

def cell (row : List String) (i : Nat) : String := (row[i]?.map Text.trim).getD ""

def columns (header row : List String) : List (String × String) :=
  header.mapIdx fun i column => (Text.trim column, Text.trim (row.getD i ""))

theorem rowParameters_eq (header row : List String) :
    rowParameters header row = ofList (columns header row) := rfl

theorem trim_getD (row : List String) (i : Nat) : Text.trim (row.getD i "") = cell row i := by
  rw [List.getD_eq_getElem?_getD, cell]
  cases row[i]? <;> rfl

theorem getElem?_columns (header row : List String) (i : Nat) :
    (columns header row)[i]? = (header.map Text.trim)[i]?.map fun column => (column, cell row i) := by
  rw [columns, List.getElem?_mapIdx, List.getElem?_map, trim_getD, Option.map_map]
  rfl

theorem map_fst_columns (header row : List String) :
    (columns header row).map Prod.fst = header.map Text.trim := by
  refine List.ext_getElem? fun i => ?_
  rw [List.getElem?_map, getElem?_columns, Option.map_map]
  exact Option.map_id'

theorem keys_rowParameters (header row : List String) :
    (rowParameters header row).keys = (header.map Text.trim).eraseDups := by
  rw [rowParameters_eq, keys_ofList, map_fst_columns]

theorem get?_rowParameters {header : List String} {k : String} {i : Nat}
    (column : (header.map Text.trim)[i]? = some k)
    (last : ∀ j, i < j → (header.map Text.trim)[j]? ≠ some k) (row : List String) :
    (rowParameters header row).get? k = some (cell row i) := by
  have here : (columns header row)[i]? = some (k, cell row i) := by
    rw [getElem?_columns, column, Option.map_some]
  rw [rowParameters_eq, get?_ofList, getLast?_filter_of_index here (by simp)]
  · rfl
  · intro j pair after found
    rw [getElem?_columns] at found
    obtain ⟨other, there, rfl⟩ := Option.map_eq_some_iff.1 found
    exact decide_eq_false fun same => last j after (same ▸ there)

/-- Cells beyond the header make no difference. -/
theorem rowParameters_take (header row : List String) :
    rowParameters header (row.take header.length) = rowParameters header row := by
  refine congrArg ofList (List.mapIdx_eq_mapIdx_iff.2 fun i inside => ?_)
  rw [trim_getD, trim_getD, cell, cell, List.getElem?_take_of_lt inside]

/-- Inserting pairs keeps each name where it came first, with the value that came last. The row of a
table fills the columns of its header, where the last of several columns with one name counts. -/
theorem ofList_ordered_rows_by_column :
    (∀ pairs : List (String × String),
      (ofList pairs).keys.Nodup ∧ (ofList pairs).keys = (pairs.map Prod.fst).eraseDups ∧
      (∀ k, (ofList pairs).get? k =
        ((pairs.filter fun pair => pair.1 = k).getLast?).map Prod.snd) ∧
      ∀ k value, ofList (pairs ++ [(k, value)]) = (ofList pairs).insert k value ∧
        (k ∈ (ofList pairs).keys → ((ofList pairs).insert k value).toList =
          (ofList pairs).toList.map fun e => if e.1 = k then (k, value) else e) ∧
        (k ∉ (ofList pairs).keys → ((ofList pairs).insert k value).toList =
          (ofList pairs).toList ++ [(k, value)])) ∧
    ∀ header row : List String,
      (rowParameters header row).keys = (header.map Text.trim).eraseDups ∧
      (∀ (k : String) (i : Nat), (header.map Text.trim)[i]? = some k →
        (∀ j, i < j → (header.map Text.trim)[j]? ≠ some k) →
        (rowParameters header row).get? k = some ((row[i]?.map Text.trim).getD "")) ∧
      rowParameters header (row.take header.length) = rowParameters header row := by
  constructor
  · intro pairs
    refine ⟨(ofList pairs).distinct, keys_ofList pairs, get?_ofList pairs, fun k value => ?_⟩
    exact ⟨ofList_concat pairs (k, value), fun known => toList_insert_of_mem known value,
      fun unknown => toList_insert_of_not_mem unknown value⟩
  · intro header row
    exact ⟨keys_rowParameters header row, fun k i column last => get?_rowParameters column last row,
      rowParameters_take header row⟩

/-- The second `user` is beyond the end of the row, and its empty cell counts. -/
theorem repeatedColumn_emptied :
    (rowParameters [" user", "level", "user "] ["ann", " 7 "]).keys = ["user", "level"] ∧
      (rowParameters [" user", "level", "user "] ["ann", " 7 "]).get? "user" = some "" ∧
      ((ofList [("a", "1"), ("b", "2")]).insert "a" "3").toList = [("a", "3"), ("b", "2")] := by
  obtain ⟨inserted, rows⟩ := ofList_ordered_rows_by_column
  obtain ⟨keys, cells, -⟩ := rows [" user", "level", "user "] ["ann", " 7 "]
  have last : ∀ j, 2 < j →
      ([" user", "level", "user "].map Text.trim)[j]? ≠ some "user" := by
    intro j after
    rw [List.getElem?_eq_none (show 3 ≤ j from after)]
    exact nofun
  obtain ⟨-, replaced, -⟩ := (inserted [("a", "1"), ("b", "2")]).2.2.2 "a" "3"
  exact ⟨keys.trans (by decide), cells "user" 2 (by decide) last, replaced (by decide)⟩

end Parameters

end LoadScript
