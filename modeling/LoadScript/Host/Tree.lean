import LoadScript.Host.Path

set_option autoImplicit false

namespace LoadScript

abbrev Location := List String

inductive Device where
  | null
  | zero
  | full
  deriving DecidableEq, Repr

/-- What the running process may do. To execute a directory is to look names up in it. -/
structure Rights where
  read : Bool := true
  write : Bool := true
  execute : Bool := true
  deriving DecidableEq, Repr

inductive Node where
  | file (number : Nat)
  | directory (rights : Rights)
  | device (d : Device)
  /-- A path that is followed instead. -/
  | link (target : String)
  deriving DecidableEq, Repr

namespace Node

def isDirectory : Node → Bool
  | .directory _ => true
  | _ => false

def isFile : Node → Bool
  | .file _ => true
  | _ => false

def isLink : Node → Bool
  | .link _ => true
  | _ => false

end Node

def nameLimit : Nat := 255

def hasNul (path : String) : Bool := path.toList.contains (Char.ofNat 0)

structure IsEntryName (n : String) : Prop where
  name : Path.IsName n
  short : n.utf8ByteSize ≤ nameLimit
  no_nul : hasNul n = false

instance (n : String) : Decidable (IsEntryName n) :=
  decidable_of_iff (('/' ∉ n.toList ∧ n ≠ "" ∧ n ≠ "." ∧ n ≠ "..") ∧
      n.utf8ByteSize ≤ nameLimit ∧ hasNul n = false)
    ⟨fun ⟨⟨slash, empty, dot, dots⟩, short, nul⟩ => ⟨⟨slash, empty, dot, dots⟩, short, nul⟩,
      fun ⟨⟨slash, empty, dot, dots⟩, short, nul⟩ => ⟨⟨slash, empty, dot, dots⟩, short, nul⟩⟩

/-- The entries of all directories but for the root, which is always there. -/
abbrev Entries := List (Location × Node)

namespace Entries

variable {es : Entries} {l dir : Location} {name : String} {node : Node}

def node? (es : Entries) (l : Location) : Option Node := (es.find? (·.1 = l)).map (·.2)

def childName? (dir : Location) (x : Location × Node) : Option String :=
  x.1.getLast?.filter fun name => x.1 = dir ++ [name]

def children (es : Entries) (dir : Location) : List String := es.filterMap (childName? dir)

def HasDirectory (es : Entries) (l : Location) : Prop :=
  l = [] ∨ ∃ x ∈ es, x.1 = l ∧ x.2.isDirectory = true

instance (es : Entries) (l : Location) : Decidable (es.HasDirectory l) :=
  inferInstanceAs (Decidable (_ ∨ _))

/-- The location has a proper name in a directory. -/
def InPlace (es : Entries) (l : Location) : Prop :=
  l ≠ [] ∧ IsEntryName (l.getLast?.getD "") ∧ es.HasDirectory l.dropLast

instance (es : Entries) (l : Location) : Decidable (es.InPlace l) :=
  inferInstanceAs (Decidable (_ ∧ _))

/-- Each entry has a name of its own in a directory. -/
def IsTree (es : Entries) : Prop := (es.map Prod.fst).Nodup ∧ ∀ x ∈ es, es.InPlace x.1

instance (es : Entries) : Decidable es.IsTree := inferInstanceAs (Decidable (_ ∧ _))

theorem inPlace_concat :
    es.InPlace (dir ++ [name]) ↔ IsEntryName name ∧ es.HasDirectory dir := by
  simp [InPlace]

theorem exists_concat (h : es.InPlace l) :
    ∃ dir name, l = dir ++ [name] ∧ IsEntryName name ∧ es.HasDirectory dir := by
  obtain rfl | ⟨dir, name, here⟩ := List.eq_nil_or_concat l
  · exact absurd rfl h.1
  · rw [List.concat_eq_append] at here
    exact ⟨dir, name, here, inPlace_concat.1 (here ▸ h)⟩

theorem childName?_eq_some {x : Location × Node} :
    childName? dir x = some name ↔ x.1 = dir ++ [name] := by
  unfold childName?
  rw [Option.filter_eq_some_iff, decide_eq_true_eq]
  exact ⟨fun h => h.2, fun h => ⟨by simp [h], h⟩⟩

theorem mem_children : name ∈ es.children dir ↔ ∃ node, (dir ++ [name], node) ∈ es := by
  simp only [children, List.mem_filterMap, childName?_eq_some]
  constructor
  · rintro ⟨⟨l, node⟩, mem, rfl⟩
    exact ⟨node, mem⟩
  · rintro ⟨node, mem⟩
    exact ⟨_, mem, rfl⟩

/-! ## Changes -/

def without (es : Entries) (l : Location) : Entries := es.filter (·.1 ≠ l)

theorem mem_without {x : Location × Node} : x ∈ es.without l ↔ x ∈ es ∧ x.1 ≠ l := by
  simp [without]

theorem without_nodup (h : (es.map Prod.fst).Nodup) : ((es.without l).map Prod.fst).Nodup :=
  (List.filter_sublist.map Prod.fst).nodup h

theorem hasDirectory_without (h : es.HasDirectory dir) (other : dir ≠ l) :
    (es.without l).HasDirectory dir := by
  obtain root | ⟨x, mem, rfl, isDir⟩ := h
  · exact .inl root
  · exact .inr ⟨x, mem_without.2 ⟨mem, other⟩, rfl, isDir⟩

theorem parent_ne_of_empty (empty : es.children l = []) {x : Location × Node} (mem : x ∈ es)
    (here : x.1 = dir ++ [name]) : dir ≠ l := by
  rintro rfl
  have child : name ∈ es.children dir := mem_children.2 ⟨x.2, here ▸ mem⟩
  rw [empty] at child
  exact absurd child List.not_mem_nil

theorem IsTree.without (tree : es.IsTree) (empty : es.children l = []) :
    (es.without l).IsTree := by
  refine ⟨without_nodup tree.1, fun x mem => ?_⟩
  obtain ⟨old, -⟩ := mem_without.1 mem
  obtain ⟨dir, name, here, named, above⟩ := exists_concat (tree.2 x old)
  rw [here, inPlace_concat]
  exact ⟨named, hasDirectory_without above (parent_ne_of_empty empty old here)⟩

/-- An entry can come where there is a directory for it, in place of one that has nothing under it
or of a directory that stays one. -/
theorem IsTree.put (tree : es.IsTree) (place : es.InPlace l)
    (room : node.isDirectory = true ∨ es.children l = []) :
    Entries.IsTree (es.without l ++ [(l, node)]) := by
  have kept {dir : Location} (h : es.HasDirectory dir) (fits : dir ≠ l ∨ node.isDirectory = true) :
      Entries.HasDirectory (es.without l ++ [(l, node)]) dir := by
    by_cases same : dir = l
    · exact .inr ⟨(l, node), by simp, same.symm, fits.resolve_left (not_not_intro same)⟩
    · obtain root | ⟨x, mem, here⟩ := hasDirectory_without h same
      · exact .inl root
      · exact .inr ⟨x, List.mem_append_left _ mem, here⟩
  refine ⟨?_, fun x mem => ?_⟩
  · rw [List.map_append, List.nodup_append]
    refine ⟨without_nodup tree.1, by simp, ?_⟩
    rintro a old b new rfl
    obtain ⟨x, hx, rfl⟩ := List.mem_map.1 old
    exact (mem_without.1 hx).2 (by simpa using new)
  · obtain old | new := List.mem_append.1 mem
    · obtain ⟨old, -⟩ := mem_without.1 old
      obtain ⟨dir, name, here, named, above⟩ := exists_concat (tree.2 x old)
      rw [here, inPlace_concat]
      refine ⟨named, kept above ?_⟩
      obtain isDir | empty := room
      · exact .inr isDir
      · exact .inl (parent_ne_of_empty empty old here)
    · obtain rfl : x = (l, node) := by simpa using new
      obtain ⟨dir, name, rfl, named, above⟩ := exists_concat place
      exact inPlace_concat.2 ⟨named, kept above (.inl (by simp))⟩

/-! ## Moves -/

def moved (old new l : Location) : Location :=
  if old <+: l then new ++ l.drop old.length else l

def relocate (es : Entries) (old new : Location) : Entries :=
  es.map fun x => (moved old new x.1, x.2)

section Relocate

variable {old new : Location}

theorem moved_append (old new tail : Location) : moved old new (old ++ tail) = new ++ tail := by
  simp [moved]

theorem moved_elsewhere (h : ¬ old <+: l) : moved old new l = l := if_neg h

theorem moved_inj {m : Location} (free : ¬ new <+: l) (free' : ¬ new <+: m)
    (same : moved old new l = moved old new m) : l = m := by
  by_cases under : old <+: l
  · obtain ⟨tail, rfl⟩ := under
    rw [moved_append] at same
    by_cases under' : old <+: m
    · obtain ⟨tail', rfl⟩ := under'
      rw [moved_append, List.append_cancel_left_eq] at same
      rw [same]
    · rw [moved_elsewhere under'] at same
      exact absurd ⟨tail, same⟩ free'
  · rw [moved_elsewhere under] at same
    by_cases under' : old <+: m
    · obtain ⟨tail', rfl⟩ := under'
      rw [moved_append] at same
      exact absurd ⟨tail', same.symm⟩ free
    · rwa [moved_elsewhere under'] at same

theorem moved_concat (other : dir ++ [name] ≠ old) :
    moved old new (dir ++ [name]) = moved old new dir ++ [name] := by
  by_cases under : old <+: dir
  · obtain ⟨tail, rfl⟩ := under
    rw [List.append_assoc, moved_append, moved_append, List.append_assoc]
  · rw [moved_elsewhere under, moved_elsewhere]
    intro whole
    obtain same | above := List.prefix_concat_iff.1 whole
    · exact other same.symm
    · exact under above

/-- A directory can move to where there is a directory for it and nothing else stands. -/
theorem IsTree.relocate (tree : es.IsTree) (place : es.InPlace new) (root : old ≠ [])
    (free : ∀ x ∈ es, ¬ new <+: x.1) (apart : ¬ old <+: new) : (es.relocate old new).IsTree := by
  have kept {dir : Location} (h : es.HasDirectory dir) :
      (es.relocate old new).HasDirectory (moved old new dir) := by
    obtain rfl | ⟨x, mem, rfl, isDir⟩ := h
    · left
      exact moved_elsewhere fun under => root (List.prefix_nil.1 under)
    · exact .inr ⟨_, List.mem_map_of_mem mem, rfl, isDir⟩
  refine ⟨?_, fun y mem => ?_⟩
  · have distinct := tree.1
    rw [List.nodup_iff_pairwise_ne, List.pairwise_map] at distinct
    rw [List.nodup_iff_pairwise_ne, Entries.relocate, List.map_map, List.pairwise_map]
    exact distinct.imp_of_mem fun {x y} hx hy differ same =>
      differ (moved_inj (free x hx) (free y hy) same)
  · obtain ⟨x, old_mem, rfl⟩ := List.mem_map.1 mem
    obtain ⟨dir, name, here, named, above⟩ := exists_concat (tree.2 x old_mem)
    change Entries.InPlace _ (moved old new x.1)
    by_cases same : x.1 = old
    · obtain ⟨dir', name', rfl, named', above'⟩ := exists_concat place
      have whole : moved old (dir' ++ [name']) x.1 = dir' ++ [name'] := by
        simpa [same] using moved_append old (dir' ++ [name']) []
      have apart' : ¬ old <+: dir' := fun under => apart (under.trans (List.prefix_append _ _))
      have stays := kept above'
      rw [moved_elsewhere apart'] at stays
      rw [whole, inPlace_concat]
      exact ⟨named', stays⟩
    · rw [here] at same ⊢
      rw [moved_concat same, inPlace_concat]
      exact ⟨named, kept above⟩

end Relocate

end Entries

end LoadScript
