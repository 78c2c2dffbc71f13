import LoadScript.Host.Volume
import LoadScript.Proofs.Host.Path
import Mathlib.Data.List.Find
import Mathlib.Data.List.Nodup

set_option autoImplicit false

namespace LoadScript

theorem exists_of_bind_eq_ok {ε α β : Type} {x : Except ε α} {f : α → Except ε β} {b : β}
    (h : x >>= f = .ok b) : ∃ a, x = .ok a ∧ f a = .ok b := by
  cases x with
  | error e => cases h
  | ok a => exact ⟨a, rfl, h⟩

theorem Entry.any_isDirectory {found : Option Entry} :
    found.any Entry.isDirectory = true ↔ found = some .directory := by
  cases found with
  | none => simp
  | some e => cases e <;> simp [Entry.isDirectory]

namespace Entries

variable {es : Entries} {l m : Location} {node : Node}

theorem node?_eq_none : es.node? l = none ↔ ∀ x ∈ es, x.1 ≠ l := by
  simp [node?]

theorem node?_without_self : (es.without l).node? l = none := by
  simp [node?_eq_none, without]

theorem node?_without_of_ne (h : m ≠ l) : (es.without l).node? m = es.node? m := by
  rw [node?, node?, without, List.find?_filter]
  congr 2
  funext x
  by_cases same : x.1 = m <;> simp [same, h]

theorem node?_append_of_none {x : Location × Node} (h : es.node? l = none) :
    Entries.node? (es ++ [x]) l = if x.1 = l then some x.2 else none := by
  have absent : es.find? (·.1 = l) = none := by simpa [node?] using h
  rw [node?, List.find?_append, absent]
  by_cases same : x.1 = l <;> simp [same]

theorem node?_append_of_ne {x : Location × Node} (h : x.1 ≠ l) :
    Entries.node? (es ++ [x]) l = es.node? l := by
  simp [node?, List.find?_append, h]

theorem node?_eq_some_iff (tree : es.IsTree) : es.node? l = some node ↔ (l, node) ∈ es := by
  constructor
  · intro found
    obtain ⟨⟨k, node⟩, hx, rfl⟩ := Option.map_eq_some_iff.1 found
    have same := List.find?_some hx
    obtain rfl : k = l := of_decide_eq_true same
    exact List.mem_of_find?_eq_some hx
  · intro mem
    cases found : es.node? l with
    | none => exact absurd rfl (node?_eq_none.1 found _ mem)
    | some other =>
      obtain ⟨⟨k, other⟩, hx, rfl⟩ := Option.map_eq_some_iff.1 found
      have same := List.find?_some hx
      obtain rfl : k = l := of_decide_eq_true same
      cases List.inj_on_of_nodup_map tree.1 (List.mem_of_find?_eq_some hx) mem rfl
      rfl

end Entries

namespace Volume

variable {v w : Volume} {l m dir : Location} {node : Node} {e : Entry} {name : String} {n k : Nat}

/-! ## Nodes -/

@[simp] theorem node?_root (v : Volume) : v.node? [] = some (.directory v.rootRights) := rfl

theorem node?_of_ne_root (h : l ≠ []) : v.node? l = v.entries.node? l := if_neg h

theorem node?_concat (dir : Location) (name : String) :
    v.node? (dir ++ [name]) = v.entries.node? (dir ++ [name]) :=
  node?_of_ne_root (by simp)

theorem mem_entries_iff (root : l ≠ []) : (l, node) ∈ v.entries ↔ v.node? l = some node := by
  rw [node?_of_ne_root root, Entries.node?_eq_some_iff v.tree]

theorem hasDirectory_iff :
    v.entries.HasDirectory l ↔ ∃ rights, v.node? l = some (.directory rights) := by
  by_cases root : l = []
  · subst root
    exact iff_of_true (.inl rfl) ⟨_, rfl⟩
  · simp only [← mem_entries_iff root]
    constructor
    · rintro (empty | ⟨⟨k, node⟩, mem, rfl, isDir⟩)
      · exact absurd empty root
      · cases node with
        | directory rights => exact ⟨rights, mem⟩
        | _ => cases isDir
    · rintro ⟨rights, mem⟩
      exact .inr ⟨_, mem, rfl, rfl⟩

theorem inPlace_iff : v.entries.InPlace (dir ++ [name]) ↔
    IsEntryName name ∧ ∃ rights, v.node? dir = some (.directory rights) := by
  rw [Entries.inPlace_concat, hasDirectory_iff]

theorem mem_children_iff : name ∈ v.children dir ↔ ∃ node, v.node? (dir ++ [name]) = some node := by
  rw [children, Entries.mem_children]
  simp only [mem_entries_iff (l := dir ++ [name]) (by simp)]

theorem inPlace_of_node? (h : v.node? (dir ++ [name]) = some node) :
    IsEntryName name ∧ ∃ rights, v.node? dir = some (.directory rights) :=
  inPlace_iff.1 (v.tree.2 _ ((mem_entries_iff (by simp)).2 h))

theorem children_of_leaf (leaf : ∀ rights, v.node? l ≠ some (.directory rights)) :
    v.children l = [] := by
  rw [List.eq_nil_iff_forall_not_mem]
  intro name child
  obtain ⟨node, found⟩ := mem_children_iff.1 child
  obtain ⟨-, rights, above⟩ := inPlace_of_node? found
  exact leaf rights above

theorem children_nodup (v : Volume) (dir : Location) : (v.children dir).Nodup := by
  refine List.Pairwise.filterMap _ ?_ (List.pairwise_map.1 v.tree.1)
  intro x y differ a ha b hb same
  rw [Entries.childName?_eq_some] at ha hb
  exact differ (by rw [ha, hb, same])

/-! ## Changes of nodes -/

section Put

variable (v l node)

@[simp] theorem put_workingDir : (v.put l node).workingDir = v.workingDir := by
  unfold put
  split <;> rfl

@[simp] theorem put_rootRights : (v.put l node).rootRights = v.rootRights := by
  unfold put
  split <;> rfl

@[simp] theorem put_disk : (v.put l node).disk = v.disk := by
  unfold put
  split <;> rfl

@[simp] theorem put_changes : (v.put l node).changes = v.changes := by
  unfold put
  split <;> rfl

@[simp] theorem put_inode : (v.put l node).inode = v.inode := by
  unfold put
  split <;> rfl

@[simp] theorem erase_workingDir : (v.erase l).workingDir = v.workingDir := by
  unfold erase
  split <;> rfl

@[simp] theorem erase_rootRights : (v.erase l).rootRights = v.rootRights := by
  unfold erase
  split <;> rfl

@[simp] theorem erase_disk : (v.erase l).disk = v.disk := by
  unfold erase
  split <;> rfl

@[simp] theorem erase_changes : (v.erase l).changes = v.changes := by
  unfold erase
  split <;> rfl

@[simp] theorem erase_inode : (v.erase l).inode = v.inode := by
  unfold erase
  split <;> rfl

end Put

theorem node?_put_of_ne (h : m ≠ l) : (v.put l node).node? m = v.node? m := by
  by_cases root : m = []
  · simp [root]
  · rw [node?_of_ne_root root, node?_of_ne_root root]
    unfold put
    split
    · rw [Entries.node?_append_of_ne (Ne.symm h), Entries.node?_without_of_ne h]
    · rfl

theorem node?_put_self (named : IsEntryName name) {rights : Rights}
    (above : v.node? dir = some (.directory rights))
    (leaf : ∀ r, v.node? (dir ++ [name]) ≠ some (.directory r)) :
    (v.put (dir ++ [name]) node).node? (dir ++ [name]) = some node := by
  have room : v.entries.InPlace (dir ++ [name]) ∧
      (node.isDirectory = true ∨ v.entries.children (dir ++ [name]) = []) :=
    ⟨inPlace_iff.2 ⟨named, rights, above⟩, .inr (children_of_leaf leaf)⟩
  rw [node?_concat, put, dif_pos room, Entries.node?_append_of_none Entries.node?_without_self]
  exact if_pos rfl

theorem node?_erase_of_ne (h : m ≠ l) : (v.erase l).node? m = v.node? m := by
  by_cases root : m = []
  · simp [root]
  · rw [node?_of_ne_root root, node?_of_ne_root root]
    unfold erase
    split
    · rw [Entries.node?_without_of_ne h]
    · rfl

theorem node?_erase_self (root : l ≠ []) (leaf : ∀ r, v.node? l ≠ some (.directory r)) :
    (v.erase l).node? l = none := by
  have room : v.entries.children l = [] := children_of_leaf leaf
  rw [node?_of_ne_root root, erase, dif_pos room]
  exact Entries.node?_without_self

/-! ## Files -/

section Inodes

variable (v) (i : Inode)

@[simp] theorem setInode_node? : (v.setInode n i).node? = v.node? := rfl

@[simp] theorem changed_node? : v.changed.node? = v.node? := rfl

@[simp] theorem changed_inode : v.changed.inode = v.inode := rfl

@[simp] theorem setContent_node? (content : ByteArray) : (v.setContent n content).node? = v.node? :=
  rfl

theorem inode_setInode_self : (v.setInode n i).inode n = i := by
  simp [inode, setInode]

theorem inode_setInode_of_ne (h : k ≠ n) : (v.setInode n i).inode k = v.inode k := by
  have kept : (v.inodes.filter (·.1 ≠ n)).find? (·.1 = k) = v.inodes.find? (·.1 = k) := by
    rw [List.find?_filter]
    congr 1
    funext x
    by_cases same : x.1 = k <;> simp [same, h]
  rw [inode, setInode, List.find?_cons_of_neg (by simpa using Ne.symm h), kept]
  rfl

theorem content_setContent_self (content : ByteArray) :
    ((v.setContent n content).inode n).content = content := by
  rw [setContent, inode_setInode_self]

theorem inode_setContent_of_ne (content : ByteArray) (h : k ≠ n) :
    (v.setContent n content).inode k = v.inode k :=
  inode_setInode_of_ne v _ h

end Inodes

@[simp] theorem set_disk (v : Volume) (l : Location) (e : Entry) :
    (v.set l e).disk = v.disk := by
  cases e with
  | file content executable =>
    unfold set putFile
    dsimp only
    split
    · rfl
    · exact put_disk _ _ _
  | directory =>
    unfold set
    dsimp only
    split
    · rfl
    · exact put_disk _ _ _
  | device d => exact put_disk _ _ _
  | link target => exact put_disk _ _ _

theorem mem_numbers (h : v.node? l = some (.file n)) : n ∈ v.numbers := by
  have root : l ≠ [] := by
    rintro rfl
    cases h
  exact List.mem_filterMap.2 ⟨_, (mem_entries_iff root).2 h, rfl⟩

theorem ne_fresh_of_node? (h : v.node? l = some (.file n)) : n ≠ v.fresh := by
  have bound (ns : List Nat) (mem : n ∈ ns) : n ≤ ns.foldr Nat.max 0 := by
    induction ns with
    | nil => cases mem
    | cons a rest ih =>
      obtain rfl | later := List.mem_cons.1 mem
      · exact Nat.le_max_left _ _
      · exact Nat.le_trans (ih later) (Nat.le_max_right _ _)
  have small := bound _ (mem_numbers h)
  unfold fresh
  omega

theorem lookup_congr (node : w.node? l = v.node? l)
    (inode : ∀ n, v.node? l = some (.file n) → w.inode n = v.inode n) :
    w.lookup l = v.lookup l := by
  rw [lookup, lookup, node]
  cases found : v.node? l with
  | none => rfl
  | some node =>
    cases node with
    | file n => simp [seen, inode n found]
    | _ => rfl

theorem lookup_of_file (h : v.node? l = some (.file n)) :
    v.lookup l = some (.file (v.inode n).content (v.inode n).rights.execute) := by
  rw [lookup, h]
  rfl

theorem lookup_of_inode {content : ByteArray} {executable : Bool}
    (h : v.node? l = some (.file n) ∧ (v.inode n).content = content ∧
      (v.inode n).rights.execute = executable) : v.lookup l = some (.file content executable) := by
  obtain ⟨found, rfl, rfl⟩ := h
  exact lookup_of_file found

theorem lookup_eq_file {content : ByteArray} {executable : Bool}
    (h : v.lookup l = some (.file content executable)) :
    ∃ n, v.node? l = some (.file n) ∧ (v.inode n).content = content := by
  rw [lookup] at h
  obtain ⟨node, found, there⟩ := Option.map_eq_some_iff.1 h
  cases node with
  | file n =>
    obtain ⟨rfl, -⟩ := Entry.file.inj there
    exact ⟨n, found, rfl⟩
  | _ => cases there

theorem lookup_eq_directory :
    v.lookup l = some .directory ↔ ∃ rights, v.node? l = some (.directory rights) := by
  rw [lookup]
  constructor
  · intro h
    obtain ⟨node, found, there⟩ := Option.map_eq_some_iff.1 h
    cases node with
    | directory rights => exact ⟨rights, found⟩
    | _ => cases there
  · rintro ⟨rights, found⟩
    rw [found]
    rfl

/-! ## Ways through directories -/

def Searchable (v : Volume) (l : Location) : Prop :=
  ∃ rights : Rights, v.node? l = some (.directory rights) ∧ rights.execute = true

section Walk

variable {here : Location} {ps : List String} {rights : Rights}
  {f g : Location → String → Except FileFault Location}

theorem walkWith_append (here : Location) (ps qs : List String) :
    v.walkWith f here (ps ++ qs) = v.walkWith f here ps >>= fun l => v.walkWith f l qs := by
  induction ps generalizing here with
  | nil => rfl
  | cons piece ps ih =>
    simp only [List.cons_append, walkWith]
    split
    · rfl
    · split
      · exact ih here
      split
      · rfl
      split
      · exact ih here
      split
      · exact ih here.dropLast
      split
      · rfl
      · rw [bind_assoc]
        exact congrArg _ (funext ih)
    · rfl

theorem walkWith_of_directory (dir : v.node? here = some (.directory rights)) (piece : String) :
    v.walkWith f here (piece :: ps) =
      if piece = "" then v.walkWith f here ps
      else if !rights.execute then .error .notPermitted
      else if piece = "." then v.walkWith f here ps
      else if piece = ".." then v.walkWith f here.dropLast ps
      else if nameLimit < piece.utf8ByteSize then .error .nameTooLong
      else v.arrive f (here ++ [piece]) >>= fun next => v.walkWith f next ps := by
  simp only [walkWith, dir]

theorem directory_of_walkWith (h : v.walkWith f here ps = .ok l) (some_piece : ps ≠ []) :
    ∃ rights, v.node? here = some (.directory rights) := by
  obtain ⟨piece, more, rfl⟩ := List.exists_cons_of_ne_nil some_piece
  unfold walkWith at h
  split at h
  · cases h
  · exact ⟨_, ‹_›⟩
  · cases h

theorem walkWith_dot_eq_ok : v.walkWith f here ["."] = .ok l ↔ l = here ∧ v.Searchable here := by
  constructor
  · intro h
    obtain ⟨rights, dir⟩ := directory_of_walkWith h (List.cons_ne_nil _ _)
    rw [walkWith_of_directory dir, if_neg (by decide)] at h
    split at h
    · cases h
    · rename_i execute
      obtain rfl := Except.ok.inj h
      exact ⟨rfl, rights, dir, by simpa using execute⟩
  · rintro ⟨rfl, rights, dir, execute⟩
    rw [walkWith_of_directory dir, execute]
    rfl

theorem walkWith_to_directory : v.walkWith f here (ps ++ ["."]) = .ok l ↔
    v.walkWith f here ps = .ok l ∧ v.Searchable l := by
  rw [walkWith_append]
  constructor
  · intro h
    obtain ⟨m, reached, last⟩ := exists_of_bind_eq_ok h
    obtain ⟨rfl, found⟩ := walkWith_dot_eq_ok.1 last
    exact ⟨reached, found⟩
  · rintro ⟨reached, found⟩
    rw [reached]
    exact walkWith_dot_eq_ok.2 ⟨rfl, found⟩

theorem walkWith_idle (idle : ∀ piece ∈ ps, piece = "" ∨ piece = ".") :
    v.walkWith f here (ps ++ ["."]) = v.walkWith f here ["."] := by
  induction ps with
  | nil => rfl
  | cons piece ps ih =>
    have rest := ih fun p mem => idle p (List.mem_cons_of_mem _ mem)
    rw [List.cons_append]
    cases found : v.node? here with
    | none => rw [walkWith, walkWith, found]
    | some node =>
      cases node with
      | directory rights =>
        rw [walkWith_of_directory found]
        obtain rfl | rfl := idle piece List.mem_cons_self
        · rw [if_pos rfl, rest]
        · rw [if_neg (by decide)]
          split
          · rename_i execute
            rw [walkWith_of_directory found, if_neg (by decide), if_pos execute]
          · rw [if_pos rfl, rest]
      | _ => rw [walkWith, walkWith, found]

theorem walkWith_drop_idle (here : Location) (kept : List String)
    (idle : ∀ piece ∈ ps, piece = "" ∨ piece = ".") :
    v.walkWith f here (kept ++ ps ++ ["."]) = v.walkWith f here (kept ++ ["."]) := by
  rw [List.append_assoc, walkWith_append, walkWith_append]
  simp only [walkWith_idle idle]

/-! ## Volumes with the same ways -/

/-- The directories and links of `v` are there in `w`. -/
structure Keeps (v w : Volume) : Prop where
  workingDir : w.workingDir = v.workingDir
  directory : ∀ {l : Location} {rights : Rights},
    v.node? l = some (.directory rights) → w.node? l = some (.directory rights)
  link : ∀ {l : Location} {target : String},
    v.node? l = some (.link target) → w.node? l = some (.link target)

def Firm (v : Volume) (l : Location) : Prop :=
  ∃ node : Node, v.node? l = some node ∧ node.isLink = false

theorem arrive_mono (keeps : Keeps v w)
    (follow : ∀ {here target l}, f here target = .ok l → w.Firm l → g here target = .ok l)
    (h : v.arrive f m = .ok l) (firm : w.Firm l) : w.arrive g m = .ok l := by
  unfold arrive at h
  split at h
  · cases h
  · rename_i target found
    rw [arrive, keeps.link found]
    exact follow h firm
  · obtain rfl := Except.ok.inj h
    obtain ⟨node, there, plain⟩ := firm
    rw [arrive, there]
    cases node with
    | link target => cases plain
    | _ => rfl

/-- A way stays when directories and links do, as long as its end is no link. -/
theorem walkWith_mono (keeps : Keeps v w)
    (follow : ∀ {here target l}, f here target = .ok l → w.Firm l → g here target = .ok l)
    (h : v.walkWith f here ps = .ok l) (firm : w.Firm l) : w.walkWith g here ps = .ok l := by
  induction ps generalizing here with
  | nil => exact h
  | cons piece ps ih =>
    obtain ⟨rights, dir⟩ := directory_of_walkWith h (List.cons_ne_nil _ _)
    rw [walkWith_of_directory dir] at h
    rw [walkWith_of_directory (keeps.directory dir)]
    by_cases empty : piece = ""
    · rw [if_pos empty] at h ⊢
      exact ih h
    rw [if_neg empty] at h ⊢
    by_cases blocked : (!rights.execute) = true
    · rw [if_pos blocked] at h
      cases h
    rw [if_neg blocked] at h ⊢
    by_cases dot : piece = "."
    · rw [if_pos dot] at h ⊢
      exact ih h
    rw [if_neg dot] at h ⊢
    by_cases up : piece = ".."
    · rw [if_pos up] at h ⊢
      exact ih h
    rw [if_neg up] at h ⊢
    by_cases long : nameLimit < piece.utf8ByteSize
    · rw [if_pos long] at h
      cases h
    rw [if_neg long] at h ⊢
    obtain ⟨next, arrived, h⟩ := exists_of_bind_eq_ok h
    -- What more pieces follow is a directory; what none follows is the end of the way.
    have next_firm : w.Firm next := by
      by_cases last : ps = []
      · subst last
        obtain rfl := Except.ok.inj h
        exact firm
      · obtain ⟨rights, found⟩ := directory_of_walkWith h last
        exact ⟨_, keeps.directory found, rfl⟩
    rw [arrive_mono keeps follow arrived next_firm]
    exact ih h

theorem follow_mono (keeps : Keeps v w) {depth : Nat} {target : String}
    (h : v.follow depth here target = .ok l) (firm : w.Firm l) :
    w.follow depth here target = .ok l := by
  induction depth generalizing here target l with
  | zero => cases h
  | succ depth ih =>
    rw [follow] at h ⊢
    obtain ⟨⟨⟩, checked, walked⟩ := exists_of_bind_eq_ok h
    rw [checked]
    exact walkWith_mono keeps (fun found firm => ih found firm) walked firm

theorem walk_mono (keeps : Keeps v w) (h : v.walk here ps = .ok l) (firm : w.Firm l) :
    w.walk here ps = .ok l :=
  walkWith_mono keeps (fun found firm => follow_mono keeps found firm) h firm

end Walk

theorem walkWith_congr (same : w.node? = v.node?)
    (f : Location → String → Except FileFault Location) (here : Location) (ps : List String) :
    w.walkWith f here ps = v.walkWith f here ps := by
  induction ps generalizing here with
  | nil => rfl
  | cons piece ps ih => simp only [walkWith, arrive, same, ih]

theorem follow_congr (same : w.node? = v.node?) (depth : Nat) :
    w.follow depth = v.follow depth := by
  induction depth with
  | zero => rfl
  | succ depth ih =>
    funext here target
    rw [follow, follow, ih]
    simp only [walkWith_congr same]

/-- What stands where decides where paths lead. -/
theorem walk_congr (same : w.node? = v.node?) (here : Location) (ps : List String) :
    w.walk here ps = v.walk here ps := by
  rw [walk, walk, follow_congr same, walkWith_congr same]

end Volume

end LoadScript
