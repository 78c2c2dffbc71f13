import LoadScript.Proofs.Host.Volume

set_option autoImplicit false

namespace LoadScript.Volume

variable {v w : Volume} {l m dir here : Location} {d n t path : String}

/-! ## Names in a directory -/

/-- The directory that names are looked up in when they are joined to a path. -/
def openedFrom (v : Volume) (here : Location) (d : String) : Except FileFault Location :=
  v.walk (origin here d) (Path.split d ++ ["."])

def opened (v : Volume) (d : String) : Except FileFault Location := v.openedFrom v.workingDir d

theorem searchable_of_opened (h : v.openedFrom here d = .ok dir) : v.Searchable dir :=
  (walkWith_to_directory.1 h).2

theorem opened_mono (keeps : Keeps v w) (h : v.opened d = .ok dir) : w.opened d = .ok dir := by
  obtain ⟨rights, found, -⟩ := searchable_of_opened h
  rw [opened, keeps.workingDir]
  exact walk_mono keeps h ⟨_, keeps.directory found, rfl⟩

theorem origin_join (h : Path.IsName n) (here : Location) (d : String) :
    origin here (Path.join d n) = origin here d := by
  rw [origin, origin, Path.isAbsolute_join h]

theorem walk_join (h : Path.IsName n) (here : Location) (d : String) :
    v.walk (origin here (Path.join d n)) ((Path.split (Path.join d n)).dropLast ++ ["."]) =
      v.openedFrom here d := by
  obtain ⟨kept, skipped, joined, dirs, empty⟩ := Path.split_join h d
  rw [joined, List.dropLast_concat, openedFrom, dirs, origin_join h]
  exact (walkWith_drop_idle _ kept fun piece mem => .inl (empty piece mem)).symm

theorem placeFrom_join (h : Path.IsName n) (here : Location) (d : String) :
    v.placeFrom here (Path.join d n) = (do
      checkPath (Path.join d n)
      let dir ← v.openedFrom here d
      checkName n
      return dir ++ [n]) := by
  have way := walk_join (v := v) h here d
  obtain ⟨kept, skipped, joined, -, -⟩ := Path.split_join h d
  have special : ¬ (n = "" ∨ n = "." ∨ n = "..") := by
    simp [h.ne_empty, h.ne_dot, h.ne_dots]
  rw [joined] at way
  simp only [placeFrom, joined, List.getLast?_concat, way, if_neg special]

/-- The name and the path with it are not too long, and can be a path at all. -/
structure Fits (d n : String) : Prop where
  path : checkPath (Path.join d n) = .ok ()
  name : checkName n = .ok ()

theorem checkName_eq_ok : checkName n = .ok () ↔ n.utf8ByteSize ≤ nameLimit := by
  unfold checkName
  split
  · rename_i long
    exact iff_of_false (by simp) (Nat.not_le_of_lt long)
  · rename_i short
    exact iff_of_true rfl (Nat.le_of_not_lt short)

theorem checkPath_eq_ok : checkPath path = .ok () ↔
    path ≠ "" ∧ hasNul path = false ∧ path.utf8ByteSize < pathLimit := by
  unfold checkPath
  split
  · simp_all
  split
  · simp_all
  split
  · simp_all
  · simp_all

theorem hasNul_append (s t : String) : hasNul (s ++ t) = (hasNul s || hasNul t) := by
  simp [hasNul]

theorem Fits.isEntryName (h : Path.IsName n) (fits : Fits d n) : IsEntryName n := by
  refine ⟨h, checkName_eq_ok.1 fits.name, ?_⟩
  have no_nul := (checkPath_eq_ok.1 fits.path).2.1
  obtain ⟨-, joined⟩ | ⟨e, -, joined⟩ | ⟨-, joined⟩ := Path.join_cases h d
  · rwa [joined] at no_nul
  · rw [joined, hasNul_append, Bool.or_eq_false_iff] at no_nul
    exact no_nul.2
  · rw [joined, hasNul_append, Bool.or_eq_false_iff] at no_nul
    exact no_nul.2

theorem place_of_fits (h : Path.IsName n) (fits : Fits d n) (dirs : v.opened d = .ok dir) :
    v.place (Path.join d n) = .ok (dir ++ [n]) := by
  rw [opened] at dirs
  rw [place, placeFrom_join h, fits.path, dirs, fits.name]
  rfl

theorem fits_of_placeFrom (h : Path.IsName n) (placed : v.placeFrom here (Path.join d n) = .ok l) :
    Fits d n ∧ ∃ dir, v.openedFrom here d = .ok dir ∧ l = dir ++ [n] := by
  rw [placeFrom_join h] at placed
  obtain ⟨⟨⟩, path, placed⟩ := exists_of_bind_eq_ok placed
  obtain ⟨dir, dirs, placed⟩ := exists_of_bind_eq_ok placed
  obtain ⟨⟨⟩, name, placed⟩ := exists_of_bind_eq_ok placed
  exact ⟨⟨path, name⟩, dir, dirs, (Except.ok.inj placed).symm⟩

theorem exists_join_of_placeFrom (h : v.placeFrom here path = .ok l) :
    ∃ d n, Path.IsName n ∧ path = Path.join d n := by
  unfold placeFrom at h
  obtain ⟨⟨⟩, -, h⟩ := exists_of_bind_eq_ok h
  dsimp only at h
  split at h
  · cases h
  · rename_i name last
    obtain ⟨before, pieces⟩ := List.getLast?_eq_some_iff.1 last
    obtain ⟨dir, -, h⟩ := exists_of_bind_eq_ok h
    split at h
    · cases h
    · rename_i special
      obtain ⟨visible, dot, dots⟩ := by simpa only [not_or] using special
      have no_slash := Path.no_slash_of_mem_split (show name ∈ Path.split path by simp [pieces])
      have isName : Path.IsName name := ⟨no_slash, visible, dot, dots⟩
      obtain ⟨d, joined⟩ := Path.exists_join isName pieces
      exact ⟨d, name, isName, joined⟩

/-- A location with a proper name in a directory that can be searched. -/
def Addressed (v : Volume) (l : Location) : Prop :=
  ∃ dir name, l = dir ++ [name] ∧ IsEntryName name ∧ v.Searchable dir

theorem addressed_of_placeFrom (h : v.placeFrom here path = .ok l) : v.Addressed l := by
  obtain ⟨d, n, name, rfl⟩ := exists_join_of_placeFrom h
  obtain ⟨fits, dir, dirs, rfl⟩ := fits_of_placeFrom name h
  exact ⟨dir, n, rfl, fits.isEntryName name, searchable_of_opened dirs⟩

theorem place_mono (keeps : Keeps v w) (h : v.place path = .ok l) : w.place path = .ok l := by
  obtain ⟨d, n, name, rfl⟩ := exists_join_of_placeFrom h
  obtain ⟨fits, dir, dirs, rfl⟩ := fits_of_placeFrom name h
  exact place_of_fits name fits (opened_mono keeps dirs)

theorem locate_of_place (h : v.place path = .ok l) :
    v.locate path = v.arrive (v.follow linkLimit) l := by
  obtain ⟨d, n, name, rfl⟩ := exists_join_of_placeFrom h
  obtain ⟨fits, dir, dirs, rfl⟩ := fits_of_placeFrom name h
  have way := walk_join (v := v) name v.workingDir d
  obtain ⟨kept, skipped, joined, -, -⟩ := Path.split_join name d
  rw [joined, List.dropLast_concat, dirs] at way
  obtain ⟨reached, rights, found, execute⟩ := walkWith_to_directory.1 way
  rw [locate, fits.path, joined]
  change v.walkWith _ (origin v.workingDir (Path.join d n)) (kept ++ [n]) = _
  rw [walkWith_append, reached]
  change v.walkWith _ dir [n] = _
  rw [walkWith_of_directory found, if_neg name.ne_empty, execute, if_neg (by decide),
    if_neg name.ne_dot, if_neg name.ne_dots,
    if_neg (Nat.not_lt_of_le (checkName_eq_ok.1 fits.name))]
  exact bind_pure _

theorem entry?_of_place (h : v.place path = .ok l)
    (plain : ∀ target, v.node? l ≠ some (.link target)) : v.entry? path = v.lookup l := by
  unfold entry?
  rw [locate_of_place h, arrive]
  split
  · rename_i absent
    rw [lookup, absent]
    rfl
  · rename_i target found
    exact absurd found (plain target)
  · rfl

/-! ## New directories -/

/-- Nothing changes but that there may be more directories. -/
structure Grew (v w : Volume) : Prop where
  workingDir : w.workingDir = v.workingDir
  inode : w.inode = v.inode
  disk : w.disk = v.disk
  node : ∀ l, w.node? l = v.node? l ∨ v.node? l = none ∧ w.node? l = some (.directory {})

namespace Grew

variable {x : Volume} {node : Node} {e : Entry}

theorem refl (v : Volume) : Grew v v := ⟨rfl, rfl, rfl, fun _ => .inl rfl⟩

theorem trans (first : Grew v w) (second : Grew w x) : Grew v x where
  workingDir := second.workingDir.trans first.workingDir
  inode := second.inode.trans first.inode
  disk := second.disk.trans first.disk
  node := by
    intro l
    obtain same | ⟨absent, made⟩ := second.node l
    · rw [same]
      exact first.node l
    · obtain same | ⟨-, made'⟩ := first.node l
      · exact .inr ⟨same ▸ absent, made⟩
      · rw [made'] at absent
        cases absent

theorem lookup_eq (grew : Grew v w) (l : Location) : w.lookup l = v.lookup l ∨
    v.lookup l = none ∧ w.lookup l = some .directory := by
  obtain same | ⟨absent, made⟩ := grew.node l
  · exact .inl (lookup_congr same fun n _ => by rw [grew.inode])
  · right
    rw [lookup, lookup, absent, made]
    exact ⟨rfl, rfl⟩

end Grew

theorem grew_put_directory (addressed : v.Addressed l) (free : v.node? l = none) :
    Grew v (v.put l (.directory {})).changed := by
  refine ⟨put_workingDir v l _, put_inode v l _, put_disk v l _, fun m => ?_⟩
  rw [changed_node?]
  obtain ⟨dir, name, rfl, named, rights, above, -⟩ := addressed
  by_cases same : m = dir ++ [name]
  · subst same
    exact .inr ⟨free, node?_put_self named above (by simp [free])⟩
  · exact .inl (node?_put_of_ne same)

theorem grew_of_makeDirectory (h : v.makeDirectory path = .ok w) : Grew v w := by
  unfold makeDirectory at h
  obtain ⟨⟨⟩, -, h⟩ := exists_of_bind_eq_ok h
  obtain ⟨l, placed, h⟩ := exists_of_bind_eq_ok h
  split at h
  · cases h
  · rename_i free
    obtain ⟨⟨⟩, -, h⟩ := exists_of_bind_eq_ok h
    obtain ⟨⟨⟩, -, h⟩ := exists_of_bind_eq_ok h
    obtain rfl := Except.ok.inj h
    exact grew_put_directory (addressed_of_placeFrom placed) (by simpa using free)

theorem grew_ensureDirectory (v : Volume) (path : String) : Grew v (v.ensureDirectory path).1 := by
  unfold ensureDirectory
  split
  · rename_i made h
    exact grew_of_makeDirectory h
  · exact Grew.refl v

theorem grew_ensureFirst (v : Volume) (paths : List String) : Grew v (v.ensureFirst paths).1 := by
  induction paths with
  | nil => exact Grew.refl v
  | cons path above ih =>
    unfold ensureFirst
    split
    · exact Grew.refl v
    split
    · split
      · rename_i made h
        rw [h] at ih
        exact ih.trans (grew_ensureDirectory made path)
      · exact ih
    · exact grew_ensureDirectory v path

theorem grew_ensureDirectories (v : Volume) (path : String) :
    Grew v (v.ensureDirectories path).1 :=
  grew_ensureFirst v (Path.ancestors path.length path)

/-! ## Directories that are there -/

section Existing

theorem checkPath_of_append (nonempty : d ≠ "") (h : checkPath (d ++ t) = .ok ()) :
    checkPath d = .ok () := by
  obtain ⟨-, nul, short⟩ := checkPath_eq_ok.1 h
  rw [hasNul_append, Bool.or_eq_false_iff] at nul
  rw [String.utf8ByteSize_append] at short
  exact checkPath_eq_ok.2 ⟨nonempty, nul.1, by omega⟩

theorem Fits.checkPath_dir (h : Path.IsName n) (fits : Fits d n) (nonempty : d ≠ "") :
    checkPath d = .ok () := by
  obtain ⟨empty, -⟩ | ⟨e, ends, joined⟩ | ⟨-, joined⟩ := Path.join_cases h d
  · exact absurd empty nonempty
  · refine checkPath_of_append nonempty (t := n) ?_
    rw [← fits.path, joined, ends]
  · refine checkPath_of_append nonempty (t := "/" ++ n) ?_
    rw [← fits.path, joined, String.append_assoc]

theorem split_slashes (q : String) (k : Nat) :
    Path.split (q ++ String.ofList (List.replicate k '/')) =
      Path.split q ++ List.replicate k "" := by
  induction k with
  | zero => simp
  | succ k ih =>
    have one_more : q ++ String.ofList (List.replicate (k + 1) '/') =
        q ++ String.ofList (List.replicate k '/') ++ "/" ++ "" := by
      rw [List.replicate_succ', String.ofList_append, String.append_empty, String.append_assoc]
    rw [one_more, Path.split_slash, ih, List.replicate_succ', List.append_assoc]
    rfl

theorem withoutSlashes_spec (nonempty : d ≠ "") : withoutSlashes d ≠ "" ∧
    ∃ k, d = withoutSlashes d ++ String.ofList (List.replicate k '/') := by
  have parts := List.takeWhile_append_dropWhile (p := (· == '/')) (l := d.toList.reverse)
  cases rest : d.toList.reverse.dropWhile (· == '/') with
  | nil =>
    have kept : withoutSlashes d = d := by simp only [withoutSlashes, rest]
    rw [kept]
    exact ⟨nonempty, 0, by simp⟩
  | cons c kept =>
    have shorter : withoutSlashes d = String.ofList (c :: kept).reverse := by
      simp only [withoutSlashes, rest]
    have slashes : d.toList.reverse.takeWhile (· == '/') =
        List.replicate (d.toList.reverse.takeWhile (· == '/')).length '/' := by
      refine List.eq_replicate_iff.2 ⟨rfl, fun c mem => ?_⟩
      simpa using List.all_eq_true.1 List.all_takeWhile c mem
    rw [shorter]
    refine ⟨by simp, (d.toList.reverse.takeWhile (· == '/')).length, ?_⟩
    rw [slashes, rest] at parts
    have chars := congrArg List.reverse parts
    rw [List.reverse_append, List.reverse_replicate, List.reverse_reverse] at chars
    rw [← String.ofList_append, chars, String.ofList_toList]

theorem opened_withoutSlashes (nonempty : d ≠ "") : v.opened (withoutSlashes d) = v.opened d := by
  obtain ⟨some_char, k, slashes⟩ := withoutSlashes_spec nonempty
  have idle : ∀ piece ∈ List.replicate k "", piece = "" ∨ piece = "." :=
    fun piece mem => .inl (List.eq_of_mem_replicate mem)
  have same : v.walk (origin v.workingDir d) _ = v.walk (origin v.workingDir d) _ :=
    walkWith_drop_idle _ (Path.split (withoutSlashes d)) idle
  have start : origin v.workingDir (withoutSlashes d) = origin v.workingDir d := by
    have absolute := Path.isAbsolute_append some_char (String.ofList (List.replicate k '/'))
    rw [← slashes] at absolute
    rw [origin, origin, absolute]
  rw [← split_slashes, ← slashes] at same
  rw [opened, opened, openedFrom, openedFrom, start, same]

theorem searchable_of_step {f : Location → String → Except FileFault Location} {piece : String}
    (h : v.walkWith f here [piece, "."] = .ok l) : v.Searchable here := by
  obtain ⟨rights, found⟩ := directory_of_walkWith h (List.cons_ne_nil _ _)
  rw [walkWith_of_directory found] at h
  split at h
  · exact (walkWith_dot_eq_ok.1 h).2
  split at h
  · cases h
  · rename_i execute
    exact ⟨rights, found, by simpa using execute⟩

/-- There is no place for a new entry where a directory is. -/
theorem place_of_opened (checked : checkPath d = .ok ()) (dirs : v.opened d = .ok dir) :
    v.place d = .error .alreadyExists ∨
      ∃ l, v.place d = .ok l ∧ (v.node? l).isSome = true := by
  obtain ⟨init, name, pieces⟩ :=
    (List.eq_nil_or_concat (Path.split d)).resolve_left (Path.split_ne_nil d)
  rw [List.concat_eq_append] at pieces
  rw [opened, openedFrom, pieces, List.append_assoc, walk, walkWith_append] at dirs
  obtain ⟨here, reached, last⟩ := exists_of_bind_eq_ok dirs
  have searchable := searchable_of_step last
  have way : v.walk (origin v.workingDir d) (init ++ ["."]) = .ok here :=
    walkWith_to_directory.2 ⟨reached, searchable⟩
  simp only [place, placeFrom, checked, pieces, List.getLast?_concat, List.dropLast_concat, way]
  by_cases special : name = "" ∨ name = "." ∨ name = ".."
  · left
    simp only [if_pos special]
    rfl
  · right
    obtain ⟨visible, named, up⟩ := by simpa only [not_or] using special
    obtain ⟨rights, found, execute⟩ := searchable
    rw [List.cons_append, walkWith_of_directory found, if_neg visible, execute, if_neg (by decide),
      if_neg named, if_neg up] at last
    split at last
    · cases last
    · rename_i short
      have fits : checkName name = .ok () := if_neg short
      obtain ⟨next, arrived, -⟩ := exists_of_bind_eq_ok last
      refine ⟨here ++ [name], ?_, ?_⟩
      · simp only [if_neg special, fits]
        rfl
      · unfold arrive at arrived
        split at arrived
        · cases arrived
        · simp [*]
        · simp [*]

theorem makeDirectory_of_opened (checked : checkPath d = .ok ()) (dirs : v.opened d = .ok dir) :
    v.makeDirectory d = .error .alreadyExists := by
  have nonempty : d ≠ "" := (checkPath_eq_ok.1 checked).1
  obtain ⟨some_char, k, slashes⟩ := withoutSlashes_spec nonempty
  have shorter : checkPath (withoutSlashes d) = .ok () :=
    checkPath_of_append some_char (t := String.ofList (List.replicate k '/')) (slashes ▸ checked)
  rw [← opened_withoutSlashes nonempty] at dirs
  obtain taken | ⟨l, placed, there⟩ := place_of_opened shorter dirs
  · rw [makeDirectory, checked, taken]
    rfl
  · rw [makeDirectory, checked, placed]
    simp only [bind, Except.bind, if_pos there]

theorem isDirectory_of_opened (checked : checkPath d = .ok ()) (dirs : v.opened d = .ok dir) :
    v.isDirectory d = true := by
  obtain ⟨reached, rights, found, -⟩ := walkWith_to_directory.1 dirs
  have located : v.locate d = .ok dir := by
    rw [locate, checked]
    exact reached
  rw [isDirectory, entry?, located]
  exact Entry.any_isDirectory.2 (lookup_eq_directory.2 ⟨rights, found⟩)

theorem ensureDirectories_of_opened (checked : d = "" ∨ checkPath d = .ok ())
    (dirs : v.opened d = .ok dir) : v.ensureDirectories d = (v, none) := by
  have first (fuel : Nat) : ∃ above, Path.ancestors fuel d = d :: above := by
    cases fuel with
    | zero => exact ⟨[], rfl⟩
    | succ fuel =>
      unfold Path.ancestors
      split
      · exact ⟨[], rfl⟩
      · exact ⟨_, rfl⟩
  obtain ⟨above, paths⟩ := first d.length
  rw [ensureDirectories, paths, ensureFirst]
  split
  · rfl
  · rename_i nonempty
    have checked := checked.resolve_left nonempty
    rw [makeDirectory_of_opened checked dirs]
    simp [ensureDirectory, makeDirectory_of_opened checked dirs, isDirectory_of_opened checked dirs]

end Existing

end LoadScript.Volume
