import LoadScript.Proofs.Host.Places

/-!
# What writing and moving files changes

A file that is written is the one that its path leads to through links, and it changes under all its
names. What is moved is the name itself. Each operation is described by the nodes and the files
before and after it.
-/

set_option autoImplicit false

namespace LoadScript.Volume

variable {v w : Volume} {l m dir : Location} {node : Node} {path : String} {n k : Nat}

/-! ## Where files are written -/

/-- No link stands there. -/
def Unlinked (v : Volume) (l : Location) : Prop := ∀ target, v.node? l ≠ some (.link target)

/-- No link stands there, and a file there has no other name. -/
structure Alone (v : Volume) (l : Location) : Prop where
  unlinked : v.Unlinked l
  only : ∀ n m, v.node? l = some (.file n) → v.node? m = some (.file n) → m = l

theorem unlinked_iff : v.Unlinked l ↔ (v.node? l).any Node.isLink = false := by
  unfold Unlinked
  cases found : v.node? l with
  | none => simp
  | some node => cases node <;> simp [Node.isLink]

instance (v : Volume) (l : Location) : Decidable (v.Unlinked l) := decidable_of_iff _ unlinked_iff.symm

theorem alone_iff : v.Alone l ↔ v.Unlinked l ∧
    ∀ x ∈ v.entries, x.1 = l → ∀ y ∈ v.entries, y.2 = x.2 → y.2.isFile = true → y.1 = l := by
  have member {m : Location} {n : Nat} (found : v.node? m = some (.file n)) :
      (m, .file n) ∈ v.entries := by
    refine (mem_entries_iff ?_).2 found
    rintro rfl
    cases found
  have node {x : Location × Node} (mem : x ∈ v.entries) : v.node? x.1 = some x.2 :=
    (mem_entries_iff (v.tree.2 x mem).1).1 mem
  constructor
  · intro alone
    refine ⟨alone.unlinked, ?_⟩
    rintro x hx rfl y hy same file
    have here := node hx
    have there := node hy
    rw [← same] at here
    cases kind : y.2 with
    | file n =>
      rw [kind] at here there
      exact alone.only n y.1 here there
    | _ => simp [kind, Node.isFile] at file
  · rintro ⟨unlinked, only⟩
    exact ⟨unlinked, fun n m here there => only _ (member here) rfl _ (member there) rfl rfl⟩

instance (v : Volume) (l : Location) : Decidable (v.Alone l) := decidable_of_iff _ alone_iff.symm

theorem alone_of_free (free : v.node? l = none) : v.Alone l :=
  ⟨fun target => by simp [free], fun n m found => by simp [free] at found⟩

/-- The path leads to its place without a link at one of the locations: it does so in a volume that
has directories and links of `v`, and no links there. -/
def PlacedPast (v : Volume) (avoided : Location → Prop) (path : String) (l : Location) : Prop :=
  ∃ u : Volume, Keeps u v ∧ u.place path = .ok l ∧ ∀ m, avoided m → u.Unlinked m

theorem placedPast_of_unlinked {avoided : Location → Prop} (placed : v.place path = .ok l)
    (unlinked : ∀ m, avoided m → v.Unlinked m) : v.PlacedPast avoided path l :=
  ⟨v, ⟨rfl, id, id⟩, placed, unlinked⟩

/-- Writing a file at the path changes what is seen at the location. -/
def Reaches (v : Volume) (path : String) (m : Location) : Prop :=
  ∃ l, v.destination path = .ok l ∧
    (m = l ∨ ∃ n, v.node? l = some (.file n) ∧ v.node? m = some (.file n))

theorem destinationFrom_spec {depth : Nat} (h : v.destinationFrom depth l = .ok m) :
    v.Unlinked m ∧ (v.Addressed l → v.Addressed m) := by
  induction depth generalizing l with
  | zero => cases h
  | succ depth ih =>
    unfold destinationFrom at h
    split at h
    · obtain ⟨next, placed, h⟩ := exists_of_bind_eq_ok h
      obtain ⟨unlinked, addressed⟩ := ih h
      exact ⟨unlinked, fun _ => addressed (addressed_of_placeFrom placed)⟩
    · rename_i plain
      obtain rfl := Except.ok.inj h
      exact ⟨plain, id⟩

theorem destinationFrom_of_unlinked (depth : Nat) (unlinked : v.Unlinked l) :
    v.destinationFrom (depth + 1) l = .ok l := by
  unfold destinationFrom
  split
  · rename_i target found
    exact absurd found (unlinked target)
  · rfl

theorem destination_of_unlinked (placed : v.place path = .ok l) (unlinked : v.Unlinked l) :
    v.destination path = .ok l := by
  rw [destination, placed]
  exact destinationFrom_of_unlinked linkLimit unlinked

theorem destination_spec (h : v.destination path = .ok m) :
    v.Unlinked m ∧ v.Addressed m ∧
      ∃ l, v.place path = .ok l ∧ (v.Unlinked l → m = l) := by
  obtain ⟨l, placed, led⟩ := exists_of_bind_eq_ok h
  obtain ⟨unlinked, addressed⟩ := destinationFrom_spec led
  refine ⟨unlinked, addressed (addressed_of_placeFrom placed), l, placed, fun plain => ?_⟩
  exact Except.ok.inj (h.symm.trans (destination_of_unlinked placed plain))

theorem destination_of_link {name target : String} (placed : v.place path = .ok (dir ++ [name]))
    (link : v.node? (dir ++ [name]) = some (.link target)) (entry : IsEntryName target)
    (unlinked : v.Unlinked (dir ++ [target])) : v.destination path = .ok (dir ++ [target]) := by
  have searchable : v.Searchable dir := by
    obtain ⟨dir', name', same, -, searchable⟩ := addressed_of_placeFrom placed
    obtain rfl : dir = dir' := List.append_inj_left' same rfl
    exact searchable
  have joined : Path.join "" target = target := by simp [Path.join]
  have checked : checkPath (Path.join "" target) = .ok () := by
    have limits : nameLimit < pathLimit := by decide
    rw [joined, checkPath_eq_ok]
    exact ⟨entry.name.ne_empty, entry.no_nul, Nat.lt_of_le_of_lt entry.short limits⟩
  have beside : v.placeFrom dir target = .ok (dir ++ [target]) := by
    have way : v.openedFrom dir "" = .ok dir := walkWith_to_directory.2 ⟨by
      obtain ⟨rights, found, -⟩ := searchable
      exact (walkWith_of_directory found "").trans (if_pos rfl), searchable⟩
    rw [← joined, placeFrom_join entry.name, checked, way, checkName_eq_ok.2 entry.short, joined]
    rfl
  rw [destination, placed]
  change v.destinationFrom (linkLimit + 1) (dir ++ [name]) = _
  rw [destinationFrom, link]
  dsimp only
  rw [List.dropLast_concat, beside]
  exact destinationFrom_of_unlinked _ unlinked

/-- A file that is alone is written under no other name. -/
theorem Alone.eq_of_reaches (alone : v.Alone l) (placed : v.place path = .ok l)
    (reaches : v.Reaches path m) : m = l := by
  obtain ⟨l', led, here | ⟨n, found, there⟩⟩ := reaches
  · rw [destination_of_unlinked placed alone.unlinked] at led
    exact here.trans (Except.ok.inj led).symm
  · rw [destination_of_unlinked placed alone.unlinked] at led
    obtain rfl := Except.ok.inj led
    exact alone.only n m found there

/-! ## Writing -/

/-- The file with a number has been written at a location: it was there, or it is new. -/
structure Wrote (v : Volume) (l : Location) (n : Nat) (w : Volume) : Prop where
  workingDir : w.workingDir = v.workingDir
  disk : w.disk = v.disk
  node : w.node? l = some (.file n)
  others : ∀ m, m ≠ l → w.node? m = v.node? m
  before : v.node? l = some (.file n) ∨ v.node? l = none ∧ ∀ m, v.node? m ≠ some (.file n)
  inode : ∀ k, k ≠ n → w.inode k = v.inode k

namespace Wrote

theorem setContent (wrote : Wrote v l n w) (content : ByteArray) :
    Wrote v l n (w.setContent n content) where
  workingDir := wrote.workingDir
  disk := wrote.disk
  node := wrote.node
  others := wrote.others
  before := wrote.before
  inode := fun k other => (inode_setContent_of_ne w content other).trans (wrote.inode k other)

theorem changed (wrote : Wrote v l n w) : Wrote v l n w.changed :=
  ⟨wrote.workingDir, wrote.disk, wrote.node, wrote.others, wrote.before, wrote.inode⟩

/-- The file is written under all its names, and no other file. -/
theorem lookup_eq (wrote : Wrote v l n w) (led : v.destination path = .ok l)
    (spared : ¬ v.Reaches path m) : w.lookup m = v.lookup m := by
  have other : m ≠ l := fun same => spared ⟨l, led, .inl same⟩
  refine lookup_congr (wrote.others m other) fun k found => wrote.inode k ?_
  rintro rfl
  obtain here | ⟨-, unnamed⟩ := wrote.before
  · exact spared ⟨l, led, .inr ⟨k, here, found⟩⟩
  · exact unnamed m found

theorem not_directory (wrote : Wrote v l n w) (rights : Rights) :
    v.node? l ≠ some (.directory rights) := by
  intro found
  obtain here | ⟨absent, -⟩ := wrote.before
  · rw [here] at found
    cases found
  · rw [absent] at found
    cases found

theorem unlinked (wrote : Wrote v l n w) : v.Unlinked l := by
  intro target found
  obtain here | ⟨absent, -⟩ := wrote.before
  · rw [here] at found
    cases found
  · rw [absent] at found
    cases found

theorem keeps (wrote : Wrote v l n w) : Keeps v w where
  workingDir := wrote.workingDir
  directory := by
    intro m rights found
    rw [wrote.others m, found]
    rintro rfl
    exact wrote.not_directory rights found
  link := by
    intro m target found
    rw [wrote.others m, found]
    rintro rfl
    exact wrote.unlinked target found

end Wrote

theorem wrote_of_empty (found : v.node? l = some (.file n)) :
    Wrote v l n (v.setContent n ByteArray.empty).changed :=
  Wrote.changed ⟨rfl, rfl, found, fun _ _ => rfl, .inl found,
    fun _ other => inode_setContent_of_ne v _ other⟩

theorem wrote_of_putFile (addressed : v.Addressed l) (free : v.node? l = none) (i : Inode) :
    Wrote v l v.fresh (v.putFile l i).changed := by
  obtain ⟨dir, name, rfl, named, rights, above, -⟩ := addressed
  have leaf (r : Rights) : (v.setInode v.fresh i).node? (dir ++ [name]) ≠ some (.directory r) := by
    simp [free]
  refine Wrote.changed ⟨put_workingDir _ _ _, put_disk _ _ _, node?_put_self named above leaf,
    fun m other => node?_put_of_ne other, .inr ⟨free, fun m found => ?_⟩, fun k other => ?_⟩
  · exact ne_fresh_of_node? found rfl
  · rw [putFile, put_inode]
    exact inode_setInode_of_ne v i other

theorem create_cases {h : Handle} (created : v.create path = .ok (w, h)) :
    ∃ l, v.destination path = .ok l ∧
      ((∃ d, h = .device d ∧ w = v) ∨ ∃ n, h = .file n ∧ Wrote v l n w) := by
  unfold create at created
  obtain ⟨l, led, created⟩ := exists_of_bind_eq_ok created
  refine ⟨l, led, ?_⟩
  split at created
  · rename_i n found
    split at created
    · cases created
    · obtain ⟨⟨⟩, -, created⟩ := exists_of_bind_eq_ok created
      obtain ⟨rfl, rfl⟩ := Prod.mk.inj (Except.ok.inj created)
      exact .inr ⟨n, rfl, wrote_of_empty found⟩
  · rename_i d found
    obtain ⟨rfl, rfl⟩ := Prod.mk.inj (Except.ok.inj created)
    exact .inl ⟨d, rfl, rfl⟩
  · cases created
  · rename_i free
    obtain ⟨⟨⟩, -, created⟩ := exists_of_bind_eq_ok created
    obtain ⟨⟨⟩, -, created⟩ := exists_of_bind_eq_ok created
    obtain ⟨rfl, rfl⟩ := Prod.mk.inj (Except.ok.inj created)
    exact .inr ⟨v.fresh, rfl, wrote_of_putFile (destination_spec led).2.1 free _⟩

theorem Wrote.write (wrote : Wrote v l n w) (content : ByteArray) :
    Wrote v l n (w.write (.file n) content).1 ∧
      ((w.write (.file n) content).2 = none →
        ((w.write (.file n) content).1.inode n).content = content) := by
  unfold Volume.write
  dsimp only
  split
  · exact ⟨wrote.setContent _, fun none_refused => by cases none_refused⟩
  · exact ⟨(wrote.setContent content).changed, fun _ => content_setContent_self w content⟩

/-! ## Moving -/

/-- A node that is no directory has moved. -/
structure Moved (v : Volume) (node : Node) (old new : Location) (w : Volume) : Prop where
  workingDir : w.workingDir = v.workingDir
  disk : w.disk = v.disk
  inode : w.inode = v.inode
  node : w.node? new = some node
  gone : w.node? old = none
  others : ∀ m, m ≠ old → m ≠ new → w.node? m = v.node? m

theorem moved_of_put {old new : Location} (differ : old ≠ new) (addressed : v.Addressed new)
    (root : old ≠ []) (leaf : ∀ rights, v.node? old ≠ some (.directory rights))
    (replaceable : ∀ rights, v.node? new ≠ some (.directory rights)) :
    Moved v node old new ((v.erase old).put new node).changed := by
  obtain ⟨dir, name, rfl, named, rights, above, -⟩ := addressed
  have kept : (v.erase old).node? dir = some (.directory rights) := by
    rw [node?_erase_of_ne, above]
    rintro rfl
    exact leaf rights above
  have free (r : Rights) : (v.erase old).node? (dir ++ [name]) ≠ some (.directory r) := by
    rw [node?_erase_of_ne (Ne.symm differ)]
    exact replaceable r
  refine ⟨?_, ?_, ?_, node?_put_self named kept free, ?_, ?_⟩
  · exact (put_workingDir _ _ _).trans (erase_workingDir v old)
  · exact (put_disk _ _ _).trans (erase_disk v old)
  · exact (put_inode _ _ _).trans (erase_inode v old)
  · exact (node?_put_of_ne differ).trans (node?_erase_self root leaf)
  · exact fun m away other => (node?_put_of_ne other).trans (node?_erase_of_ne away)

theorem locateName_of_place (placed : v.place path = .ok l) (found : v.node? l = some node) :
    v.locateName path = .ok l := by
  simp [locateName, placed, found]

/-- Renaming moves the name, or leaves two names of one file as they are. -/
theorem rename_cases {source destination : String} {old : Location}
    (placed : v.place source = .ok old) (found : v.node? old = some node)
    (plain : node.isDirectory = false) (renamed : v.rename source destination = .ok w) :
    ∃ new, v.place destination = .ok new ∧ v.checkWritable new.dropLast = .ok () ∧
      (∀ rights, v.node? new ≠ some (.directory rights)) ∧
      (w = v ∧ (old = new ∨ node.isFile = true ∧ v.node? new = some node) ∨
        old ≠ new ∧ Moved v node old new w) := by
  have root : old ≠ [] := by
    obtain ⟨dir, name, rfl, -⟩ := addressed_of_placeFrom placed
    simp
  have leaf (rights : Rights) : v.node? old ≠ some (.directory rights) := by
    rw [found]
    rintro ⟨⟩
    cases plain
  obtain ⟨old', located, renamed⟩ := exists_of_bind_eq_ok renamed
  obtain rfl := Except.ok.inj ((locateName_of_place placed found).symm.trans located)
  obtain ⟨new, target, renamed⟩ := exists_of_bind_eq_ok renamed
  obtain ⟨⟨⟩, -, renamed⟩ := exists_of_bind_eq_ok renamed
  obtain ⟨⟨⟩, writable, renamed⟩ := exists_of_bind_eq_ok renamed
  refine ⟨new, target, writable, ?_⟩
  split at renamed
  · rename_i same
    obtain rfl := Except.ok.inj renamed
    subst same
    exact ⟨leaf, .inl ⟨rfl, .inl rfl⟩⟩
  · rename_i differ
    split at renamed
    · rename_i rights directory
      exact absurd directory (leaf rights)
    · rename_i there
      obtain rfl := Option.some.inj (found.symm.trans there)
      unfold moveNode at renamed
      split at renamed
      · cases renamed
      · rename_i replaceable
        refine ⟨replaceable, ?_⟩
        split at renamed
        · rename_i same
          obtain rfl := Except.ok.inj renamed
          exact .inl ⟨rfl, .inr same⟩
        · obtain ⟨⟨⟩, -, renamed⟩ := exists_of_bind_eq_ok renamed
          obtain rfl := Except.ok.inj renamed
          exact .inr ⟨differ, moved_of_put differ (addressed_of_placeFrom target) root leaf
            replaceable⟩
    · cases renamed

/-! ## A disk that takes everything -/

/-- The disk refuses nothing from now on. -/
def Reliable (v : Volume) : Prop := ∀ k a, v.changes ≤ k → v.disk.refuses k a = none

theorem Reliable.later (reliable : v.Reliable) (disk : w.disk = v.disk)
    (later : v.changes ≤ w.changes) : w.Reliable := by
  intro k a above
  rw [disk]
  exact reliable k a (Nat.le_trans later above)

theorem Reliable.refusal (reliable : v.Reliable) (a : Attempt) : v.refusal a = none :=
  reliable _ a (Nat.le_refl _)

theorem Reliable.ask (reliable : v.Reliable) (a : Attempt) : v.ask a = .ok () := by
  rw [Volume.ask, reliable.refusal]

theorem Reliable.exists_create (reliable : v.Reliable) (placed : v.place path = .ok l)
    (free : v.node? l = none) (writable : v.checkWritable l.dropLast = .ok ()) :
    ∃ opened, v.create path = .ok (opened, .file v.fresh) ∧ opened.Reliable ∧
      Wrote v l v.fresh opened := by
  have led := destination_of_unlinked placed fun target => by simp [free]
  refine ⟨(v.putFile l ⟨ByteArray.empty, { execute := false }⟩).changed, ?_, ?_,
    wrote_of_putFile (addressed_of_placeFrom placed) free _⟩
  · rw [create, led]
    simp only [bind, Except.bind, free, writable, reliable.ask]
    rfl
  · refine reliable.later (put_disk _ _ _) ?_
    change v.changes ≤ (Volume.put _ _ _).changes + 1
    rw [put_changes]
    exact Nat.le_succ _

theorem Reliable.exists_write (reliable : v.Reliable) (n : Nat) (content : ByteArray) :
    ∃ written, v.write (.file n) content = (written, none) ∧ written.Reliable := by
  refine ⟨(v.setContent n content).changed, ?_, reliable.later rfl (Nat.le_succ _)⟩
  simp only [write, reliable.refusal]

theorem Reliable.exists_rename (reliable : v.Reliable) {source destination : String}
    {old new : Location} (placed : v.place source = .ok old)
    (found : v.node? old = some (.file n)) (target : v.place destination = .ok new)
    (differ : old ≠ new) (writable : v.checkWritable old.dropLast = .ok ())
    (writable' : v.checkWritable new.dropLast = .ok ())
    (replaceable : ∀ rights, v.node? new ≠ some (.directory rights))
    (other : v.node? new ≠ some (.file n)) :
    ∃ after, v.rename source destination = .ok after ∧ after.Reliable := by
  have moves : v.moveNode (.file n) old new =
      .ok ((v.erase old).put new (.file n)).changed := by
    unfold moveNode
    split
    · rename_i rights directory
      exact absurd directory (replaceable rights)
    · rw [if_neg fun both => other both.2, reliable.ask]
      rfl
  refine ⟨((v.erase old).put new (.file n)).changed, ?_, ?_⟩
  · rw [rename, locateName_of_place placed found, target]
    simp only [bind, Except.bind, writable, writable', if_neg differ, found, moves]
  · refine reliable.later ((put_disk _ _ _).trans (erase_disk v old)) ?_
    change v.changes ≤ (Volume.put _ _ _).changes + 1
    rw [put_changes, erase_changes]
    exact Nat.le_succ _

end LoadScript.Volume
