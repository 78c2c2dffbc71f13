import LoadScript.Feature.Discovery
import LoadScript.Proofs.Host.Listing
import LoadScript.Proofs.Refusal
import LoadScript.Proofs.Text.Blank
import LoadScript.Proofs.Text.Sorted

set_option autoImplicit false

namespace LoadScript

namespace Path

theorem extension?_eq_some_iff {n e : String} (h : IsName n) (plain : '.' ∉ e.toList) :
    extension? n = some e ↔ ∃ stem, stem ≠ "" ∧ n = stem ++ "." ++ e := by
  have alone : split n = [] ++ [n] := split_of_no_slash h.no_slash
  have whole : fileName? n = some n := fileName?_of_split h alone
  have parts := List.takeWhile_append_dropWhile (p := (· != '.')) (l := n.toList.reverse)
  unfold extension?
  rw [whole]
  simp only [Option.bind_eq_bind, Option.bind_some]
  constructor
  · intro found
    split at found
    · rename_i dot c rest behind
      obtain rfl : dot = '.' := by
        have stop := List.head?_dropWhile_not (· != '.') n.toList.reverse
        simpa [behind] using stop
      refine ⟨String.ofList (c :: rest).reverse, by simp, ?_⟩
      rw [← Option.some.inj found, ← String.toList_inj]
      have back := congrArg List.reverse parts
      rw [List.reverse_reverse, behind] at back
      simpa using back.symm
    · cases found
  · rintro ⟨stem, some_stem, rfl⟩
    obtain ⟨c, rest, last⟩ : ∃ c rest, stem.toList.reverse = c :: rest :=
      List.exists_cons_of_ne_nil (by simpa using some_stem)
    have reversed : (stem ++ "." ++ e).toList.reverse = e.toList.reverse ++ '.' :: c :: rest := by
      simp [last]
    have undotted : ∀ x ∈ e.toList.reverse, (x != '.') = true := by
      intro x mem
      have other : x ≠ '.' := fun same => plain (same ▸ List.mem_reverse.1 mem)
      simpa using other
    have tail : (stem ++ "." ++ e).toList.reverse.dropWhile (· != '.') = '.' :: c :: rest := by
      rw [reversed]
      exact Chars.dropWhile_before (List.all_eq_true.2 undotted) (by simp)
    have front : (stem ++ "." ++ e).toList.reverse.takeWhile (· != '.') = e.toList.reverse := by
      rw [reversed]
      exact Chars.takeWhile_before undotted (by decide) _
    rw [tail, front]
    simp

end Path

namespace Feature

open Volume

def namesIn (v : Volume) (dir : String) (l : Location) : List String :=
  Text.sort ((v.children l).filter fun name =>
    v.isFile (Path.join dir name) && Path.extension? name = some fileExtension)

/-- An entry of a directory that is a feature file: it leads to a regular file, its name has
something before the extension, the directory can be searched and the path is not too long. -/
structure IsFeatureFile (v : Volume) (dir : String) (l : Location) (name : String) : Prop where
  regular : ∃ m number, v.arrive (v.follow linkLimit) (l ++ [name]) = .ok m ∧
    v.node? m = some (.file number)
  extension : ∃ stem, stem ≠ "" ∧ name = stem ++ ".feature"
  searchable : v.Searchable l
  reachable : (Path.join dir name).utf8ByteSize < pathLimit

section Directory

variable {v w : Volume} {dir : String} {l : Location} {rights : Rights}

theorem namesIn_increasing (v : Volume) (dir : String) (l : Location) :
    (namesIn v dir l).Pairwise (· < ·) :=
  Text.sort_increasing ((children_nodup v l).filter _)

theorem isEntryName_of_mem_children {name : String} (child : name ∈ v.children l) :
    IsEntryName name := by
  obtain ⟨node, found⟩ := mem_children_iff.1 child
  exact (inPlace_of_node? found).1

theorem mem_namesIn (located : v.locate dir = .ok l) {name : String} :
    name ∈ namesIn v dir l ↔ IsFeatureFile v dir l name := by
  have extension (entry : IsEntryName name) : Path.extension? name = some fileExtension ↔
      ∃ stem, stem ≠ "" ∧ name = stem ++ ".feature" := by
    rw [Path.extension?_eq_some_iff entry.name (by decide)]
    simp only [String.append_assoc]
    rfl
  rw [namesIn, Text.mem_sort, List.mem_filter, Bool.and_eq_true, decide_eq_true_eq]
  constructor
  · rintro ⟨child, file, extended⟩
    have entry := isEntryName_of_mem_children child
    obtain ⟨regular, searchable, short⟩ := (isFile_join_iff entry located).1 file
    exact ⟨regular, (extension entry).1 extended, searchable, short⟩
  · rintro ⟨regular, extended, searchable, short⟩
    have child : name ∈ v.children l := by
      obtain ⟨m, number, reached, -⟩ := regular
      cases found : v.node? (l ++ [name]) with
      | none =>
        rw [arrive, found] at reached
        cases reached
      | some node => exact mem_children_iff.2 ⟨node, found⟩
    have entry := isEntryName_of_mem_children child
    exact ⟨child, (isFile_join_iff entry located).2 ⟨regular, searchable, short⟩,
      (extension entry).2 extended⟩

section Outcome

variable (located : v.locate dir = .ok l) (directory : v.node? l = some (.directory rights))

include located directory

theorem filesIn_of_listingFails {fault : FileFault} (fails : v.ListingFails l rights fault) :
    filesIn v dir = .error (.unreadable fault.message) := by
  rw [filesIn, isDirectory_of_located located directory,
    list_of_listingFails located directory fails]
  rfl

theorem filesIn_eq (fine : ∀ fault, ¬ v.ListingFails l rights fault) :
    filesIn v dir = if namesIn v dir l = [] then .error (.noFeatureFiles dir)
      else .ok ((namesIn v dir l).map (Path.join dir)) := by
  rw [filesIn, isDirectory_of_located located directory, list_of_not_listingFails located directory
    fine, if_neg (by decide), namesIn]
  dsimp only
  generalize Text.sort _ = names
  cases names <;> rfl

theorem ofDirectory_eq (fine : ∀ fault, ¬ v.ListingFails l rights fault)
    (some_file : namesIn v dir l ≠ []) : ofDirectory v dir =
      (namesIn v dir l).mapM fun name => ofFile v (Path.join dir name) := by
  unfold ofDirectory
  rw [filesIn_eq located directory fine, if_neg some_file]
  change ((namesIn v dir l).map (Path.join dir)).mapM (ofFile v) = _
  rw [List.mapM_map]
  rfl

end Outcome

/-! ## Other volumes with the same files -/

theorem listingFails_iff (same : SameShape v w) {fault : FileFault} :
    w.ListingFails l rights fault ↔ v.ListingFails l rights fault := by
  have refusals : w.refusal (.list l) = v.refusal (.list l) := by
    rw [refusal, refusal, same.disk, same.changes]
  constructor
  · rintro (unreadable | ⟨readable, refused⟩)
    · exact .notPermitted unreadable
    · exact .refused readable (refusals ▸ refused)
  · rintro (unreadable | ⟨readable, refused⟩)
    · exact .notPermitted unreadable
    · exact .refused readable (refusals ▸ refused)

theorem namesIn_congr (same : SameShape v w) : namesIn w dir l = namesIn v dir l := by
  unfold namesIn
  simp only [same.isFile_eq]
  refine Text.sort_congr ((children_nodup w l).filter _) ((children_nodup v l).filter _) ?_
  intro name
  rw [List.mem_filter, List.mem_filter, mem_children_iff, mem_children_iff, same.node]

theorem ofFile_congr {path : String} (same : SameShape v w)
    (inode : ∀ m number, v.locate path = .ok m → v.node? m = some (.file number) →
      w.inode number = v.inode number) : ofFile w path = ofFile v path := by
  rw [ofFile, ofFile, same.isFile_eq, same.read_eq inode]

theorem filesIn_relisted (relisted : Relisted v w) (located : v.locate dir = .ok l)
    (directory : v.node? l = some (.directory rights)) : filesIn w dir = filesIn v dir := by
  have same := relisted.sameShape
  have located' : w.locate dir = .ok l := by rw [same.locate_eq, located]
  have directory' : w.node? l = some (.directory rights) := by rw [same.node, directory]
  by_cases fine : ∀ fault, ¬ v.ListingFails l rights fault
  · have fine' : ∀ fault, ¬ w.ListingFails l rights fault :=
      fun fault fails => fine fault ((listingFails_iff same).1 fails)
    rw [filesIn_eq located directory fine, filesIn_eq located' directory' fine',
      namesIn_congr same]
  · obtain ⟨fault, fails⟩ := not_forall_not.1 fine
    rw [filesIn_of_listingFails located directory fails,
      filesIn_of_listingFails located' directory' ((listingFails_iff same).2 fails)]

theorem ofDirectory_relisted (relisted : Relisted v w) (located : v.locate dir = .ok l)
    (directory : v.node? l = some (.directory rights)) : ofDirectory w dir = ofDirectory v dir := by
  have reads : ofFile w = ofFile v := funext fun path =>
    ofFile_congr relisted.sameShape fun _ number _ _ => relisted.inode_eq number
  unfold ofDirectory
  rw [filesIn_relisted relisted located directory, reads]

/-! ## Files that come later -/

/-- The same volume up to files that none of some names in a directory leads to. -/
structure Rewritten (v u : Volume) (dir : String) (names : List String) : Prop where
  shape : SameShape v u
  read : ∀ name ∈ names, ∀ m number, v.locate (Path.join dir name) = .ok m →
    v.node? m = some (.file number) → u.inode number = v.inode number

/-- The features of a directory are those of its files in order, and the first file without one
decides the error. -/
structure ReadsInTurn (v : Volume) (dir : String) (names : List String) : Prop where
  all : ∀ features, ofDirectory v dir = .ok features ↔
    List.Forall₂ (fun name f => ofFile v (Path.join dir name) = .ok f) names features
  first : ∀ e, ofDirectory v dir = .error e ↔ ∃ before name after, names = before ++ name :: after ∧
    (∀ b ∈ before, ∃ f, ofFile v (Path.join dir b) = .ok f) ∧
    ofFile v (Path.join dir name) = .error e
  later : ∀ before name after e, names = before ++ name :: after →
    (∀ b ∈ before, ∃ f, ofFile v (Path.join dir b) = .ok f) →
    ofFile v (Path.join dir name) = .error e →
    ∀ u, Rewritten v u dir (before ++ [name]) → ofDirectory u dir = .error e

theorem readsInTurn_namesIn (located : v.locate dir = .ok l)
    (directory : v.node? l = some (.directory rights))
    (fine : ∀ fault, ¬ v.ListingFails l rights fault) (some_file : namesIn v dir l ≠ []) :
    ReadsInTurn v dir (namesIn v dir l) := by
  have whole := ofDirectory_eq located directory fine some_file
  refine ⟨?_, ?_, ?_⟩
  · intro features
    rw [whole]
    exact mapM_eq_ok_iff _
  · intro e
    rw [whole]
    exact mapM_eq_error_iff _
  · intro before name after e split accepted refused u rewritten
    have same := rewritten.shape
    have located' : u.locate dir = .ok l := by rw [same.locate_eq, located]
    have directory' : u.node? l = some (.directory rights) := by rw [same.node, directory]
    have fine' : ∀ fault, ¬ u.ListingFails l rights fault :=
      fun fault fails => fine fault ((listingFails_iff same).1 fails)
    have names : namesIn u dir l = namesIn v dir l := namesIn_congr same
    have some_file' : namesIn u dir l ≠ [] := by rwa [names]
    have kept (n : String) (mem : n ∈ before ++ [name]) :
        ofFile u (Path.join dir n) = ofFile v (Path.join dir n) :=
      ofFile_congr same (rewritten.read n mem)
    rw [ofDirectory_eq located' directory' fine' some_file', names, split]
    refine mapM_of_refused _ ?_ ?_
    · intro n mem
      rw [kept n (List.mem_append_left _ mem)]
      exact accepted n mem
    · rw [kept name (by simp), refused]

end Directory

/-- A directory with a file that is no text, with names that are none of feature files, with another
directory, and with links to a file and to nothing. -/
def mixed : Volume :=
  (Volume.empty.set ["work", "d"] .directory)
    |>.set ["work", "notes"] (.file "Feature: C".toUTF8 false)
    |>.set ["work", "d", "linked.feature"] (.link "../notes")
    |>.set ["work", "d", "broken.feature"] (.link "nowhere")
    |>.set ["work", "d", "b.feature"] (.file "Feature: B".toUTF8 false)
    |>.set ["work", "d", ".feature"] (.file "Feature: C".toUTF8 false)
    |>.set ["work", "d", "nested.feature"] .directory
    |>.set ["work", "d", "a.feature"] (.file ⟨#[0xff]⟩ false)
    |>.set ["work", "d", "a.FEATURE"] (.file "Feature: D".toUTF8 false)

def mixedReversed : Volume :=
  { mixed with
    entries := mixed.entries.reverse
    tree := mixed.tree.perm (List.reverse_perm _) }

def single : Volume :=
  Volume.empty.set ["work", "a.feature"] (.file "Feature: A\n".toUTF8 false)

theorem single_directory : single.node? ["work"] = some (.directory {}) := by decide +kernel

def slashed (k : Nat) : String := "." ++ String.ofList (List.replicate k '/')

theorem utf8ByteSize_slashed (k : Nat) : (slashed k).utf8ByteSize = k + 1 := by
  have slashes : (String.ofList (List.replicate k '/')).utf8ByteSize = k := by
    induction k with
    | zero => rfl
    | succ k ih =>
      rw [List.replicate_succ', String.ofList_append, String.utf8ByteSize_append, ih]
      rfl
  rw [slashed, String.utf8ByteSize_append, slashes, Nat.add_comm]
  rfl

theorem locate_slashed {k : Nat} (short : k + 1 < pathLimit) :
    single.locate (slashed k) = .ok ["work"] := by
  have checked : checkPath (slashed k) = .ok () := by
    refine checkPath_eq_ok.2 ⟨by simp [slashed], ?_, by rwa [utf8ByteSize_slashed]⟩
    rw [slashed, hasNul_append]
    simp [hasNul]
  have idle : ∀ piece ∈ List.replicate k "", piece = "" ∨ piece = "." :=
    fun piece mem => .inl (List.eq_of_mem_replicate mem)
  have origin : single.start (slashed k) = ["work"] := by
    have working : single.workingDir = ["work"] := by decide +kernel
    rw [start, origin, slashed, Path.isAbsolute_append (by decide), working]
    rfl
  have pieces : Path.split (slashed k) = ["."] ++ List.replicate k "" := by
    rw [slashed, split_slashes]
    rfl
  have here : single.walk ["work"] (["."] ++ ["."]) = .ok ["work"] :=
    walkWith_to_directory.2 ⟨walkWith_dot_eq_ok.2 ⟨rfl, _, single_directory, rfl⟩,
      _, single_directory, rfl⟩
  have reached := (walkWith_drop_idle (v := single) ["work"] ["."] idle).trans here
  rw [locate, checked, origin, pieces]
  exact (walkWith_to_directory.1 reached).1

theorem utf8ByteSize_le_join {d n : String} (h : Path.IsName n) (ends : 0 < d.utf8ByteSize) :
    d.utf8ByteSize + n.utf8ByteSize ≤ (Path.join d n).utf8ByteSize := by
  obtain ⟨rfl, -⟩ | ⟨front, rfl, joined⟩ | ⟨-, joined⟩ := Path.join_cases h d
  · cases ends
  · rw [joined, String.utf8ByteSize_append (s := front ++ "/")]
  · rw [joined, String.utf8ByteSize_append, String.utf8ByteSize_append]
    omega

end Feature

end LoadScript
