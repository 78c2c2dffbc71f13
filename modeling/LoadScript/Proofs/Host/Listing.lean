import LoadScript.Proofs.Host.Places

set_option autoImplicit false

namespace LoadScript

theorem Entries.IsTree.perm {es fs : Entries} (tree : es.IsTree) (same : fs.Perm es) :
    fs.IsTree := by
  refine ⟨(same.map Prod.fst).nodup_iff.2 tree.1, fun x mem => ?_⟩
  obtain ⟨dir, name, here, named, above⟩ := exists_concat (tree.2 x (same.mem_iff.1 mem))
  rw [here, inPlace_concat]
  refine ⟨named, above.imp_right ?_⟩
  rintro ⟨y, there, isDir⟩
  exact ⟨y, same.mem_iff.2 there, isDir⟩

namespace Volume

variable {v w : Volume} {l m : Location} {d n path : String} {rights : Rights}

/-! ## Volumes of one shape -/

/-- Both volumes have the same in the same places, up to what files hold and allow. -/
structure SameShape (v w : Volume) : Prop where
  workingDir : w.workingDir = v.workingDir
  node : w.node? = v.node?
  disk : w.disk = v.disk
  changes : w.changes = v.changes

theorem isFile_eq_any (v : Volume) (path : String) :
    v.isFile path = ((v.locate path).toOption.bind v.node?).any Node.isFile := by
  unfold isFile entry?
  cases (v.locate path).toOption with
  | none => rfl
  | some l =>
    change (v.lookup l).any _ = (v.node? l).any _
    rw [lookup]
    cases v.node? l with
    | none => rfl
    | some node => cases node <;> rfl

theorem isFile_iff : v.isFile path = true ↔
    ∃ m number, v.locate path = .ok m ∧ v.node? m = some (.file number) := by
  rw [isFile_eq_any]
  cases v.locate path with
  | error fault => simp [Except.toOption]
  | ok m =>
    cases found : v.node? m with
    | none => simp [Except.toOption, found]
    | some node => cases node <;> simp [Except.toOption, found, Node.isFile]

namespace SameShape

variable (same : SameShape v w)

include same

theorem locate_eq (path : String) : w.locate path = v.locate path := by
  have origin : w.start path = v.start path := by rw [start, start, same.workingDir]
  simp only [locate, origin, walk_congr same.node]

theorem isFile_eq (path : String) : w.isFile path = v.isFile path := by
  rw [isFile_eq_any, isFile_eq_any, same.locate_eq, same.node]

theorem ask_eq (a : Attempt) : w.ask a = v.ask a := by
  rw [ask, ask, refusal, refusal, same.disk, same.changes]

theorem read_eq (inode : ∀ m number, v.locate path = .ok m → v.node? m = some (.file number) →
    w.inode number = v.inode number) : w.read path = v.read path := by
  unfold read
  rw [same.locate_eq]
  cases located : v.locate path with
  | error fault => rfl
  | ok m =>
    simp only [bind, Except.bind, same.node]
    cases found : v.node? m with
    | none => rfl
    | some node =>
      cases node with
      | file number => simp only [inode m number located found, same.ask_eq]
      | _ => rfl

end SameShape

/-- The same volume, listed in an order of its own. -/
structure Relisted (v w : Volume) : Prop where
  workingDir : w.workingDir = v.workingDir
  rootRights : w.rootRights = v.rootRights
  inodes : w.inodes = v.inodes
  disk : w.disk = v.disk
  changes : w.changes = v.changes
  entries : w.entries.Perm v.entries

theorem Relisted.node?_eq (relisted : Relisted v w) : w.node? = v.node? := by
  funext l
  by_cases root : l = []
  · subst root
    rw [node?_root, node?_root, relisted.rootRights]
  · ext node
    rw [← mem_entries_iff root, ← mem_entries_iff root, relisted.entries.mem_iff]

theorem Relisted.sameShape (relisted : Relisted v w) : SameShape v w :=
  ⟨relisted.workingDir, relisted.node?_eq, relisted.disk, relisted.changes⟩

theorem Relisted.inode_eq (relisted : Relisted v w) (number : Nat) :
    w.inode number = v.inode number := by
  rw [inode, inode, relisted.inodes]

/-! ## Entries of a directory -/

/-- Why the directory at a location cannot be listed: it may not be read, or the disk refuses. -/
inductive ListingFails (v : Volume) (l : Location) (rights : Rights) : FileFault → Prop where
  | notPermitted (unreadable : rights.read = false) : ListingFails v l rights .notPermitted
  | refused {r : Refusal} (readable : rights.read = true)
      (refused : v.refusal (.list l) = some r) : ListingFails v l rights r.fault

section Directory

variable (located : v.locate d = .ok l)

include located

theorem list_of_directory (directory : v.node? l = some (.directory rights)) :
    v.list d = if !rights.read then .error .notPermitted
      else v.ask (.list l) >>= fun _ => .ok (v.children l) := by
  rw [list, located]
  simp only [bind, Except.bind, directory]
  rfl

theorem list_of_listingFails (directory : v.node? l = some (.directory rights)) {fault : FileFault}
    (fails : v.ListingFails l rights fault) : v.list d = .error fault := by
  rw [list_of_directory located directory]
  cases fails with
  | notPermitted unreadable =>
    rw [unreadable]
    rfl
  | refused readable refused =>
    rw [readable, ask, refused]
    rfl

theorem list_of_not_listingFails (directory : v.node? l = some (.directory rights))
    (fine : ∀ fault, ¬ v.ListingFails l rights fault) : v.list d = .ok (v.children l) := by
  have readable : rights.read = true := by
    by_contra unreadable
    exact fine _ (.notPermitted (by simpa using unreadable))
  have accepted : v.refusal (.list l) = none := by
    cases refused : v.refusal (.list l) with
    | none => rfl
    | some r => exact absurd (.refused readable refused) (fine r.fault)
  rw [list_of_directory located directory, readable, ask, accepted]
  rfl

theorem checkPath_of_located : checkPath d = .ok () := by
  obtain ⟨⟨⟩, checked, -⟩ := exists_of_bind_eq_ok located
  exact checked

theorem opened_of_located (searchable : v.Searchable l) : v.opened d = .ok l := by
  obtain ⟨⟨⟩, -, reached⟩ := exists_of_bind_eq_ok located
  exact walkWith_to_directory.2 ⟨reached, searchable⟩

theorem isDirectory_of_located (directory : v.node? l = some (.directory rights)) :
    v.isDirectory d = true := by
  rw [isDirectory, entry?, located]
  exact Entry.any_isDirectory.2 (lookup_eq_directory.2 ⟨rights, directory⟩)

theorem fits_iff (entry : IsEntryName n) :
    Fits d n ↔ (Path.join d n).utf8ByteSize < pathLimit := by
  obtain ⟨visible, no_nul, -⟩ := checkPath_eq_ok.1 (checkPath_of_located located)
  have named : checkName n = .ok () := checkName_eq_ok.2 entry.short
  have parts : Path.join d n ≠ "" ∧ hasNul (Path.join d n) = false := by
    have slash : hasNul "/" = false := by decide
    obtain ⟨empty, -⟩ | ⟨front, rfl, joined⟩ | ⟨-, joined⟩ := Path.join_cases entry.name d
    · exact absurd empty visible
    · rw [joined, hasNul_append, no_nul, entry.no_nul]
      simp [entry.name.ne_empty]
    · rw [joined, hasNul_append, hasNul_append, no_nul, entry.no_nul, slash]
      simp [entry.name.ne_empty]
  constructor
  · exact fun fits => (checkPath_eq_ok.1 fits.path).2.2
  · exact fun short => ⟨checkPath_eq_ok.2 ⟨parts.1, parts.2, short⟩, named⟩

end Directory

theorem opened_of_locate_join (h : Path.IsName n) (located : v.locate (Path.join d n) = .ok m) :
    ∃ dir, v.opened d = .ok dir := by
  have way := walk_join (v := v) h v.workingDir d
  obtain ⟨kept, skipped, joined, -, -⟩ := Path.split_join h d
  rw [joined, List.dropLast_concat] at way
  obtain ⟨⟨⟩, -, walked⟩ := exists_of_bind_eq_ok located
  rw [start, joined, walk, walkWith_append] at walked
  obtain ⟨dir, reached, last⟩ := exists_of_bind_eq_ok walked
  obtain ⟨rights, directory⟩ := directory_of_walkWith last (List.cons_ne_nil _ _)
  rw [walkWith_of_directory directory, if_neg h.ne_empty] at last
  split at last
  · cases last
  · rename_i execute
    refine ⟨dir, way.symm.trans (walkWith_to_directory.2 ⟨reached, rights, directory, ?_⟩)⟩
    simpa using execute

/-- The path of an entry leads to a file exactly when the entry does, the directory can be searched
and the path is not too long. -/
theorem isFile_join_iff (entry : IsEntryName n) (located : v.locate d = .ok l) :
    v.isFile (Path.join d n) = true ↔
      (∃ m number, v.arrive (v.follow linkLimit) (l ++ [n]) = .ok m ∧
        v.node? m = some (.file number)) ∧
      v.Searchable l ∧ (Path.join d n).utf8ByteSize < pathLimit := by
  have fits := fits_iff located entry
  rw [isFile_iff]
  constructor
  · rintro ⟨m, number, reached, file⟩
    obtain ⟨dir, dirs⟩ := opened_of_locate_join entry.name reached
    obtain ⟨walked, searchable⟩ := walkWith_to_directory.1 dirs
    have same : v.locate d = .ok dir := by
      rw [locate, checkPath_of_located located]
      exact walked
    obtain rfl := Except.ok.inj (located.symm.trans same)
    have fit : Fits d n := ⟨checkPath_of_located reached, checkName_eq_ok.2 entry.short⟩
    rw [locate_of_place (place_of_fits entry.name fit dirs)] at reached
    exact ⟨⟨m, number, reached, file⟩, searchable, fits.1 fit⟩
  · rintro ⟨⟨m, number, reached, file⟩, searchable, short⟩
    have dirs := opened_of_located located searchable
    have placed := place_of_fits entry.name (fits.2 short) dirs
    exact ⟨m, number, (locate_of_place placed).trans reached, file⟩

end Volume

end LoadScript
