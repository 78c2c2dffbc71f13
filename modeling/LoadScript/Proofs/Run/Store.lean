import LoadScript.Proofs.Keyed
import LoadScript.Proofs.Run.Generation
import LoadScript.Proofs.Script.FileNames
import LoadScript.Proofs.Script.Rendering

/-!
# Generated scripts as a store

The scripts of a run all go into one directory, each under a name that is made from its scenario.
Different scenarios may have the same name there, so that the directory holds the last script of
each name. Apart from the directory itself and from these names, the volume stays as it was, as long
as no link and no other name of a file gets in the way.
-/

set_option autoImplicit false

namespace LoadScript

namespace Script

open Volume Path

def fileName (s : Script) : String := stem s.scenario ++ ".js"

theorem fileName_isName (s : Script) : IsName s.fileName := isName_fileNameOf s.scenario

theorem fileName_visible (s : Script) : s.fileName.toList.head? ≠ some '.' :=
  fileNameOf_visible s.scenario

/-- Scripts with different names have nothing in common. -/
theorem places_differ {s r : Script} (dir : Location) (differ : s.fileName ≠ r.fileName) :
    (dir ++ [s.fileName] ≠ dir ++ [r.fileName] ∧
      dir ++ [s.fileName] ≠ dir ++ [temporaryName r.fileName]) ∧
    dir ++ [temporaryName s.fileName] ≠ dir ++ [r.fileName] ∧
      dir ++ [temporaryName s.fileName] ≠ dir ++ [temporaryName r.fileName] := by
  simp only [ne_eq, List.append_cancel_left_eq, List.cons.injEq, and_true]
  exact ⟨⟨differ, temporaryName_ne (fileName_visible s)⟩,
    Ne.symm (temporaryName_ne (fileName_visible r)), fun same => differ (temporaryName_inj same)⟩

/-! ## Many scripts -/

/-- The directory `dir` of the volume `after` holds the scripts; all else is as in `v`. -/
structure Stores (v : Volume) (d : String) (dir : Location) (ss : List Script) (after : Volume) :
    Prop where
  opened : after.opened d = .ok dir
  fits : ∀ s ∈ ss, Fits d s.fileName ∧
    Fits (directoryOf (join d s.fileName)) (temporaryName s.fileName)
  writable : ss ≠ [] → after.checkWritable dir = .ok ()
  content : ∀ n s, (ss.filter (·.fileName = n)).getLast? = some s →
    ∃ executable, after.lookup (dir ++ [n]) = some (.file s.source.toUTF8 executable)
  temporary : ∀ s ∈ ss, after.node? (dir ++ [temporaryName s.fileName]) = none
  others : ∀ l, (∀ s ∈ ss, l ≠ dir ++ [s.fileName] ∧ l ≠ dir ++ [temporaryName s.fileName]) →
    after.node? l = v.node? l ∧ after.lookup l = v.lookup l

section Many

variable {u v after : Volume} {d : String} {dir : Location} {ss : List Script}

theorem saveAll_cons {s : Script} {rest : List Script} (h : saveAll v (s :: rest) = .ok after) :
    ∃ next, save v s.path s.source = (next, .ok ()) ∧ saveAll next rest = .ok after := by
  unfold saveAll at h
  split at h
  · cases h
  · exact ⟨_, ‹_›, h⟩

theorem disk_of_saveAll (saved : saveAll v ss = .ok after) : after.disk = v.disk := by
  induction ss generalizing v with
  | nil =>
    obtain rfl := Except.ok.inj saved
    rfl
  | cons s rest ih =>
    obtain ⟨next, first, later⟩ := saveAll_cons saved
    exact (ih later).trans (disk_of_save first)

theorem Puts.stores_cons {s : Script} {rest : List Script} {next : Volume}
    (puts : Puts v dir s.fileName s.source.toUTF8 next)
    (fits : Fits d s.fileName ∧
      Fits (directoryOf (join d s.fileName)) (temporaryName s.fileName))
    (stores : Stores next d dir rest after) : Stores v d dir (s :: rest) after where
  opened := stores.opened
  fits := List.forall_mem_cons.2 ⟨fits, stores.fits⟩
  writable := by
    intro _
    rw [checkWritable, (stores.others dir fun _ _ => by simp).1, puts.others dir (by simp) (by simp)]
    exact puts.writable
  content := by
    intro n last h
    by_cases mine : s.fileName = n
    · have split := getLast?_filter_split (p := (·.fileName = n)) (by simpa using mine) [] rest
      rw [List.nil_append, h] at split
      obtain rfl := Option.some.inj split
      cases later : (rest.filter (·.fileName = n)).getLast? with
      | some r => exact stores.content n r later
      | none =>
        have gone : rest.filter (·.fileName = n) = [] := List.getLast?_eq_none_iff.1 later
        rw [Option.getD_none, ← mine, (stores.others _ _).2]
        · exact puts.content
        · intro r mem
          have other : r.fileName ≠ n := by simpa using List.filter_eq_nil_iff.1 gone r mem
          exact (places_differ dir (mine.trans_ne (Ne.symm other))).1
    · rw [List.filter_cons_of_neg (by simpa using mine)] at h
      exact stores.content n last h
  temporary := by
    intro r mem
    by_cases again : ∃ q ∈ rest, q.fileName = r.fileName
    · obtain ⟨q, hq, same⟩ := again
      rw [← same]
      exact stores.temporary q hq
    · obtain rfl | later := List.mem_cons.1 mem
      · rw [(stores.others _ _).1]
        · exact puts.temporary
        · exact fun q hq => (places_differ dir fun same => again ⟨q, hq, same.symm⟩).2
      · exact absurd ⟨r, later, rfl⟩ again
  others := by
    intro l outside
    obtain ⟨⟨other, away⟩, theirs⟩ := List.forall_mem_cons.1 outside
    rw [(stores.others l theirs).1, (stores.others l theirs).2]
    exact ⟨puts.others l other away, puts.lookup_eq other away⟩

/-- Scripts whose temporary files are alone are saved one after another. The directory is reached by
ways of `u`, which stay all the time. -/
theorem stores_of_saveAll (paths : ∀ s ∈ ss, s.path = join d s.fileName) (keeps : Keeps u v)
    (dirs : u.opened d = .ok dir) (unlinked : ∀ s ∈ ss, u.Unlinked (dir ++ [s.fileName]))
    (alone : ∀ s ∈ ss, v.Alone (dir ++ [temporaryName s.fileName]))
    (saved : saveAll v ss = .ok after) : Stores v d dir ss after ∧ Keeps u after := by
  induction ss generalizing v with
  | nil =>
    obtain rfl := Except.ok.inj saved
    exact ⟨⟨opened_mono keeps dirs, by simp, by simp, by simp, by simp, fun _ _ => ⟨rfl, rfl⟩⟩,
      keeps⟩
  | cons s rest ih =>
    obtain ⟨next, first, later⟩ := saveAll_cons saved
    obtain ⟨here, paths⟩ := List.forall_mem_cons.1 paths
    obtain ⟨unlinked_here, unlinked⟩ := List.forall_mem_cons.1 unlinked
    obtain ⟨alone_here, alone⟩ := List.forall_mem_cons.1 alone
    rw [here] at first
    obtain ⟨written, l, number, steps⟩ :=
      steps_of_opened (fileName_isName s) (opened_mono keeps dirs) first
    have puts := steps.puts alone_here
    have still (r : Script) (mem : r ∈ rest) :
        next.Alone (dir ++ [temporaryName r.fileName]) := by
      refine puts.alone (alone r mem) ?_
      simpa using Ne.symm (temporaryName_ne (fileName_visible s))
    obtain ⟨stores, kept⟩ := ih paths (puts.keeps keeps unlinked_here alone_here) unlinked still
      later
    exact ⟨puts.stores_cons ⟨steps.fits, steps.temporaryFits⟩ stores, kept⟩

/-- Where all scripts can be saved and the disk takes everything, saving one after another
succeeds. -/
theorem exists_saveAll (paths : ∀ s ∈ ss, s.path = join d s.fileName) (keeps : Keeps u v)
    (dirs : u.opened d = .ok dir) (unlinked : ∀ s ∈ ss, u.Unlinked (dir ++ [s.fileName]))
    (ready : ∀ s ∈ ss, Ready v d dir s.fileName) (reliable : v.Reliable) :
    ∃ after, saveAll v ss = .ok after := by
  induction ss generalizing v with
  | nil => exact ⟨v, rfl⟩
  | cons s rest ih =>
    obtain ⟨here, paths⟩ := List.forall_mem_cons.1 paths
    obtain ⟨unlinked_here, unlinked⟩ := List.forall_mem_cons.1 unlinked
    obtain ⟨mine, theirs⟩ := List.forall_mem_cons.1 ready
    obtain ⟨next, saved, reliable⟩ := exists_save (fileName_isName s) mine reliable s.source
    obtain ⟨written, l, number, steps⟩ := steps_of_opened (fileName_isName s) mine.opened saved
    have alone := alone_of_free mine.free
    have puts := steps.puts alone
    have kept := puts.keeps keeps unlinked_here alone
    have still : ∀ r ∈ rest, Ready next d dir r.fileName := fun r mem =>
      puts.ready (opened_mono kept dirs) (theirs r mem)
        (Ne.symm (temporaryName_ne (fileName_visible s)))
    obtain ⟨after, later⟩ := ih paths kept unlinked still reliable
    refine ⟨after, ?_⟩
    rw [saveAll, here, saved]
    exact later

/-- Saving scripts goes on from where the directory of the first one is there. -/
theorem saveAll_prepared {s : Script} {rest : List Script} (here : s.path = join d s.fileName)
    (saved : saveAll v (s :: rest) = .ok after) : ∃ dir,
      (prepared v s.path).opened d = .ok dir ∧ Fits d s.fileName ∧
      saveAll (prepared v s.path) (s :: rest) = .ok after := by
  obtain ⟨next, first, later⟩ := saveAll_cons saved
  rw [here] at first ⊢
  have name := fileName_isName s
  obtain ⟨dir, written, l, number, steps⟩ := steps_of_save name first
  refine ⟨dir, steps.opened, steps.fits, ?_⟩
  have again : save (prepared v (join d s.fileName)) (join d s.fileName) s.source =
      (next, .ok ()) := by
    obtain ⟨stored, fault, storing, ⟨⟨cause, failed⟩, -⟩ | ⟨-, rfl, -, renamed⟩⟩ := save_cases first
    · cases failed
    unfold save trySave
    simp only [ensureDirectories_directoryOf name steps.temporaryFits steps.opened, storing,
      renamed]
  rw [saveAll, here, again]
  exact later

end Many

/-- The scripts stand in a directory of the volume `after`, where a later script takes the place of
an earlier one with its path, and nothing else has changed since `before`. -/
structure HeldIn (before : Volume) (ss : List Script) (dir : Location) (after : Volume) : Prop where
  placed : ∀ s ∈ ss, after.place s.path = .ok (dir ++ [s.fileName]) ∧
    after.place (temporaryPath s.path) = .ok (dir ++ [temporaryName s.fileName])
  content : ∀ p s, (ss.filter (·.path = p)).getLast? = some s →
    ∃ executable, after.entry? p = some (.file s.source.toUTF8 executable)
  own : ∀ earlier s later, ss = earlier ++ s :: later →
    ((∃ executable, after.entry? s.path = some (.file s.source.toUTF8 executable)) ↔
      ∀ r, (later.filter (·.path = s.path)).getLast? = some r → r.source = s.source)
  temporary : ∀ s ∈ ss, after.entry? (temporaryPath s.path) = none
  others : ∀ l, (∀ s ∈ ss, l ≠ dir ++ [s.fileName] ∧ l ≠ dir ++ [temporaryName s.fileName]) →
    after.lookup l = before.lookup l ∨
      before.lookup l = none ∧ after.lookup l = some .directory

/-- No link and no other name of a file gets in the way of the scripts: the temporary files are
alone, and the paths lead into the directory without what stands at them. -/
structure Undisturbed (made : Volume) (dir : Location) (ss : List Script) : Prop where
  alone : ∀ s ∈ ss, made.Alone (dir ++ [temporaryName s.fileName])
  placed : ∀ s ∈ ss, made.PlacedPast (fun l => ∃ r ∈ ss, l = dir ++ [r.fileName]) s.path
    (dir ++ [s.fileName])

section Held

variable {v made after : Volume} {d : String} {dir : Location} {ss : List Script}

theorem join_inj {n m : String} (hn : IsName n) (hm : IsName m) (h : join d n = join d m) :
    n = m := by
  have name := fileName?_join hn d
  rw [h, fileName?_join hm] at name
  exact (Option.some.inj name).symm

theorem filter_path (paths : ∀ s ∈ ss, s.path = join d s.fileName) (n : String) (name : IsName n) :
    ss.filter (·.path = join d n) = ss.filter (·.fileName = n) := by
  refine List.filter_congr fun s mem => ?_
  rw [decide_eq_decide, paths s mem]
  exact ⟨join_inj (fileName_isName s) name, fun same => by rw [same]⟩

theorem Stores.exists_content (stores : Stores v d dir ss after) {s : Script} (mem : s ∈ ss) :
    ∃ content executable,
      after.lookup (dir ++ [s.fileName]) = some (.file content executable) := by
  have found : s ∈ ss.filter (·.fileName = s.fileName) := List.mem_filter.2 ⟨mem, by simp⟩
  obtain ⟨executable, content⟩ :=
    stores.content _ _ (List.getLast?_eq_some_getLast (List.ne_nil_of_mem found))
  exact ⟨_, executable, content⟩

theorem Stores.placed (stores : Stores v d dir ss after) {s : Script} (mem : s ∈ ss) :
    after.place (join d s.fileName) = .ok (dir ++ [s.fileName]) ∧
      after.place (temporaryPath (join d s.fileName)) =
        .ok (dir ++ [temporaryName s.fileName]) := by
  obtain ⟨fits, temporaryFits⟩ := stores.fits s mem
  have name := fileName_isName s
  rw [temporaryPath_join name]
  exact ⟨place_of_fits name fits stores.opened,
    place_of_fits (temporaryName_isName name) temporaryFits
      ((opened_directoryOf name d).trans stores.opened)⟩

theorem Stores.entry_eq (stores : Stores v d dir ss after) {s : Script} (mem : s ∈ ss) :
    after.entry? (join d s.fileName) = after.lookup (dir ++ [s.fileName]) := by
  obtain ⟨content, executable, file⟩ := stores.exists_content mem
  obtain ⟨number, found, -⟩ := lookup_eq_file file
  exact entry?_of_place (stores.placed mem).1 fun target => by simp [found]

theorem Stores.content_path (stores : Stores v d dir ss after)
    (paths : ∀ s ∈ ss, s.path = join d s.fileName) {p : String} {s : Script}
    (last : (ss.filter (·.path = p)).getLast? = some s) :
    ∃ executable, after.entry? p = some (.file s.source.toUTF8 executable) := by
  obtain ⟨mem, here⟩ := List.mem_filter.1 (List.mem_of_getLast? last)
  have path := paths s mem
  obtain rfl : s.path = p := of_decide_eq_true here
  rw [path, filter_path paths _ (fileName_isName s)] at last
  rw [path, stores.entry_eq mem]
  exact stores.content _ s last

theorem Stores.heldIn (grew : Grew v made) (stores : Stores made d dir ss after)
    (paths : ∀ s ∈ ss, s.path = join d s.fileName) : HeldIn v ss dir after where
  placed := by
    intro s mem
    rw [paths s mem]
    exact stores.placed mem
  content := fun p s last => stores.content_path paths last
  own := by
    intro earlier s later split
    have whole : (ss.filter (·.path = s.path)).getLast? =
        some ((later.filter (·.path = s.path)).getLast?.getD s) := by
      rw [split, getLast?_filter_split (by simp)]
    obtain ⟨executable, found⟩ := stores.content_path paths whole
    constructor
    · rintro ⟨other, own⟩ r last
      rw [last, Option.getD_some, own] at found
      obtain ⟨same, -⟩ := Entry.file.inj (Option.some.inj found)
      exact (String.toByteArray_inj.1 same).symm
    · intro h
      refine ⟨executable, ?_⟩
      cases last : (later.filter (·.path = s.path)).getLast? with
      | none => rw [found, last, Option.getD_none]
      | some r => rw [found, last, Option.getD_some, h r last]
  temporary := by
    intro s mem
    have gone := stores.temporary s mem
    rw [paths s mem, entry?_of_place (stores.placed mem).2 fun target => by simp [gone], lookup,
      gone]
    rfl
  others := by
    intro l outside
    rw [(stores.others l outside).2]
    exact grew.lookup_eq l

end Held

end Script

namespace Run

open Script

variable {w : Workshop} {options : RunOptions} {fs : List Feature} {v : Volume} {ss : List Script}
  {last : Traces}

theorem path_of_mem_scripts {s : Script} (mem : s ∈ scripts w options fs) :
    s.path = Path.join options.outputDir s.fileName := by
  obtain ⟨i, found⟩ := List.mem_iff_getElem?.1 mem
  rw [getElem?_scripts] at found
  obtain ⟨pair, -, rfl⟩ := Option.map_eq_some_iff.1 found
  rw [scriptOf_path, fileName, scriptOf_scenario]
  rfl

theorem saveAll_prepared_of_generate
    (generated : generate w options fs (Traces.ofVolume v) = (.ok ss, last)) :
    ∃ first rest dir, ss = first :: rest ∧
      (prepared v first.path).place first.path = .ok (dir ++ [first.fileName]) ∧
      saveAll (prepared v first.path) ss = .ok last.volume := by
  obtain ⟨some_scenario, rfl, saved⟩ := saveAll_of_generate generated
  have some_script : scripts w options fs ≠ [] := by
    simpa [scripts, scriptsFrom] using some_scenario
  obtain ⟨first, rest, split⟩ := List.exists_cons_of_ne_nil some_script
  have here : first.path = Path.join options.outputDir first.fileName :=
    path_of_mem_scripts (split ▸ List.mem_cons_self)
  rw [split] at saved ⊢
  obtain ⟨dir, dirs, fits, again⟩ := saveAll_prepared here saved
  refine ⟨first, rest, dir, rfl, ?_, again⟩
  rw [here] at dirs ⊢
  exact Volume.place_of_fits (fileName_isName first) fits dirs

/-- Where nothing disturbs a generation that succeeds, its scripts are in their directory. -/
theorem stores_of_undisturbed {made : Volume} {dir : Location} (some_script : ss ≠ [])
    (paths : ∀ s ∈ ss, s.path = Path.join options.outputDir s.fileName)
    (undisturbed : Undisturbed made dir ss) {after : Volume}
    (saved : saveAll made ss = .ok after) :
    ∃ u : Volume, u.opened options.outputDir = .ok dir ∧
      (∀ s ∈ ss, u.Unlinked (dir ++ [s.fileName])) ∧ Volume.Keeps u after ∧
      Stores made options.outputDir dir ss after := by
  obtain ⟨first, rest, rfl⟩ := List.exists_cons_of_ne_nil some_script
  obtain ⟨u, keeps, placed, unlinked⟩ := undisturbed.placed first List.mem_cons_self
  rw [paths first List.mem_cons_self] at placed
  obtain ⟨-, dir', dirs, same⟩ := Volume.fits_of_placeFrom (fileName_isName first) placed
  obtain rfl : dir = dir' := List.append_inj_left' same rfl
  have past : ∀ s ∈ first :: rest, u.Unlinked (dir ++ [s.fileName]) :=
    fun s mem => unlinked _ ⟨s, mem, rfl⟩
  obtain ⟨stores, kept⟩ := stores_of_saveAll paths keeps dirs past undisturbed.alone saved
  exact ⟨u, dirs, past, kept, stores⟩

/-- The scripts of a generation that succeeds go into one directory, which holds them where nothing
disturbs them. -/
theorem heldIn_of_generate
    (generated : generate w options fs (Traces.ofVolume v) = (.ok ss, last)) :
    ∃ first rest dir, ss = first :: rest ∧ v.Grew (prepared v first.path) ∧
      (prepared v first.path).place first.path = .ok (dir ++ [first.fileName]) ∧
      (Undisturbed (prepared v first.path) dir ss → HeldIn v ss dir last.volume) := by
  obtain ⟨first, rest, dir, split, placed, saved⟩ := saveAll_prepared_of_generate generated
  obtain ⟨-, rfl, -⟩ := saveAll_of_generate generated
  have grew := grew_prepared v first.path
  refine ⟨first, rest, dir, split, grew, placed, fun undisturbed => ?_⟩
  have some_script : scripts w options fs ≠ [] := by simp [split]
  obtain ⟨-, -, -, -, stores⟩ :=
    stores_of_undisturbed some_script (fun s mem => path_of_mem_scripts mem) undisturbed saved
  exact stores.heldIn grew fun s mem => path_of_mem_scripts mem

/-- What a generation that succeeds returns and warns about, and what it leaves in the volume where
nothing disturbs it. -/
theorem generate_held_scripts
    (generated : generate w options fs (Traces.ofVolume v) = (.ok ss, last)) :
    (ss = (scenarios fs).mapIdx fun i pair => scriptOf w options i pair.1 pair.2) ∧
      last.warnings.filter (·.isOverwritten) =
        (collisions ss).map (fun s => .overwritten s.path s.scenario) ∧
      ∃ first rest dir, ss = first :: rest ∧ v.Grew (prepared v first.path) ∧
        (prepared v first.path).place first.path = .ok (dir ++ [first.fileName]) ∧
        (Undisturbed (prepared v first.path) dir ss → HeldIn v ss dir last.volume) := by
  obtain ⟨-, rfl, -⟩ := saveAll_of_generate generated
  exact ⟨by simp [scripts, scriptsFrom], generate_overwritten generated,
    heldIn_of_generate generated⟩

def leftBehind : Volume :=
  ((Volume.empty.set ["work", "notes"] (.file "keep".toUTF8 false)).set
    ["work", "generated"] .directory).set
    ["work", "generated", ".a-b.js.tmp"] (.file "old".toUTF8 true)

def plainFeature (names : List String) : Feature where
  name := "F"
  description := ""
  tags := []
  sourcePath := "f"
  background := none
  scenarios := names.map fun name =>
    { name, tags := [], kind := .plain, group := none, parameters := .empty, steps := [] }

def twoAsOne : Feature := plainFeature ["A b", "a-B"]

theorem exists_generate_twoAsOne : ∃ a b last,
    generate emptyShop {} [twoAsOne] (Traces.ofVolume leftBehind) = (.ok [a, b], last) ∧
    (∀ s ∈ [a, b], s.path = "generated/a-b.js" ∧ s.fileName = "a-b.js") ∧ b.scenario = "a-B" := by
  have saves : (saveAll leftBehind (scripts emptyShop {} [twoAsOne])).isOk = true := by
    decide +kernel
  obtain ⟨last, generated, -⟩ := exists_generate emptyShop {} (by decide) saves
  exact ⟨_, _, last, generated, by decide +kernel, by decide +kernel⟩

theorem undisturbed_of_unlinked {made : Volume} {dir : Location}
    (placed : ∀ s ∈ ss, made.place s.path = .ok (dir ++ [s.fileName]))
    (alone : ∀ s ∈ ss, made.Alone (dir ++ [temporaryName s.fileName]))
    (unlinked : ∀ s ∈ ss, made.Unlinked (dir ++ [s.fileName])) : Undisturbed made dir ss := by
  refine ⟨alone, fun s mem => Volume.placedPast_of_unlinked (placed s mem) ?_⟩
  rintro l ⟨r, hr, rfl⟩
  exact unlinked r hr

theorem undisturbed_leftBehind {first : Script} {rest : List Script} {dir : Location}
    (names : ∀ s ∈ first :: rest, s.path = "generated/a-b.js" ∧ s.fileName = "a-b.js")
    (placed : (prepared leftBehind first.path).place first.path = .ok (dir ++ [first.fileName])) :
    Undisturbed (prepared leftBehind first.path) dir (first :: rest) := by
  obtain ⟨path, name⟩ := names first List.mem_cons_self
  rw [path, name] at placed
  rw [path]
  have here : (prepared leftBehind "generated/a-b.js").place "generated/a-b.js" =
      .ok (["work", "generated"] ++ ["a-b.js"]) := by decide +kernel
  obtain rfl : ["work", "generated"] = dir :=
    List.append_inj_left' (Except.ok.inj (here.symm.trans placed)) rfl
  have alone : (prepared leftBehind "generated/a-b.js").Alone
      ["work", "generated", ".a-b.js.tmp"] := by decide +kernel
  have unlinked : (prepared leftBehind "generated/a-b.js").Unlinked
      ["work", "generated", "a-b.js"] := by decide +kernel
  refine undisturbed_of_unlinked ?_ ?_ ?_
  · intro s mem
    rw [(names s mem).1, (names s mem).2]
    exact placed
  · intro s mem
    rw [(names s mem).2]
    exact alone
  · intro s mem
    rw [(names s mem).2]
    exact unlinked

theorem twoAsOne_last_held : ∃ first second last,
    generate emptyShop {} [twoAsOne] (Traces.ofVolume leftBehind) = (.ok [first, second], last) ∧
    (∃ executable, last.volume.entry? "generated/a-b.js" =
      some (.file second.source.toUTF8 executable)) ∧
    last.volume.lookup ["work", "notes"] = some (.file "keep".toUTF8 false) ∧
    last.warnings.filter (·.isOverwritten) = [.overwritten "generated/a-b.js" "a-B"] := by
  obtain ⟨a, b, last, generated, names, scenario_b⟩ := exists_generate_twoAsOne
  obtain ⟨-, warned, first, rest, dir, split, -, placed, held⟩ := generate_held_scripts generated
  obtain ⟨rfl, rfl⟩ := List.cons.inj split
  have held := held (undisturbed_leftBehind names placed)
  obtain ⟨⟨path_a, name_a⟩, path_b, name_b⟩ := by simpa using names
  refine ⟨a, b, last, generated, held.content _ b (by simp [path_a, path_b]), ?_, ?_⟩
  · have notes : leftBehind.lookup ["work", "notes"] = some (.file "keep".toUTF8 false) :=
      Volume.lookup_of_inode (n := 1) (by decide +kernel)
    have apart (n : String) (other : n ≠ "notes") : ["work", "notes"] ≠ dir ++ [n] := by
      intro same
      have ends := congrArg List.getLast? same
      rw [List.getLast?_concat] at ends
      exact other (Option.some.inj ends).symm
    obtain kept | ⟨absent, -⟩ := held.others ["work", "notes"] (by
      intro s mem
      rw [(names s mem).2]
      exact ⟨apart _ (by decide), apart _ (by decide)⟩)
    · rw [kept, notes]
    · rw [notes] at absent
      cases absent
  · rw [warned]
    simp [collisions, path_a, path_b, scenario_b]

/-! ## What disturbs scripts -/

/-- A volume in which the temporary name of one script is that of a link to another. -/
def linkedScripts : Volume :=
  (Volume.empty.set ["work", "generated"] .directory).set
    ["work", "generated", ".a.js.tmp"] (.link "b.js")

/-- The scenarios of these scripts. The link is met by the second one, and the third one has the
path of the second. -/
def crossed : Feature := plainFeature ["b", "a", "a!"]

theorem render_ne {m m' : ScriptModule}
    (lengths : (Text.joinLines (originLines m.header)).toList.length =
      (Text.joinLines (originLines m'.header)).toList.length)
    (differ : Text.joinLines (originLines m.header) ≠ Text.joinLines (originLines m'.header)) :
    render m ≠ render m' := by
  intro same
  rw [render_eq, render_eq] at same
  have chars := congrArg String.toList same
  simp only [String.append_assoc, String.toList_append] at chars
  exact differ (String.toList_inj.1 (List.append_inj_left chars lengths))

theorem exists_generate_crossed : ∃ b a c last,
    generate emptyShop {} [crossed] (Traces.ofVolume linkedScripts) = (.ok [b, a, c], last) ∧
    scripts emptyShop {} [crossed] = [b, a, c] ∧
    saveAll linkedScripts [b, a, c] = .ok last.volume ∧
    (b.path = Path.join "generated" "b.js" ∧ a.path = Path.join "generated" "a.js" ∧
      c.path = Path.join "generated" "a.js") ∧ a.source ≠ b.source := by
  have saves : (saveAll linkedScripts (scripts emptyShop {} [crossed])).isOk = true := by
    decide +kernel
  obtain ⟨last, generated, saved⟩ := exists_generate emptyShop {} (by decide) saves
  refine ⟨_, _, _, last, generated, rfl, saved, by decide +kernel, ?_⟩
  exact render_ne (by decide +kernel) (by decide +kernel)

/-- The second script is written to where the link leads. -/
theorem linkedScripts_second {a b : Script} {next after : Volume}
    (first : save linkedScripts (Path.join "generated" "b.js") b.source = (next, .ok ()))
    (second : save next (Path.join "generated" "a.js") a.source = (after, .ok ())) :
    ∃ executable, after.lookup ["work", "generated", "b.js"] =
      some (.file a.source.toUTF8 executable) := by
  have dirs : linkedScripts.opened "generated" = .ok ["work", "generated"] := by decide +kernel
  have free : linkedScripts.node? (["work", "generated"] ++ [temporaryName "b.js"]) = none := by
    decide +kernel
  have unlinked : linkedScripts.Unlinked (["work", "generated"] ++ ["b.js"]) := by decide +kernel
  obtain ⟨puts, dirs⟩ := puts_of_free (Path.isName_of_length (by decide) (by decide)) dirs free
    unlinked first
  have link : linkedScripts.node? (["work", "generated"] ++ [temporaryName "a.js"]) =
      some (.link "b.js") := by decide +kernel
  rw [← puts.others _ (by decide) (by decide)] at link
  obtain ⟨number, found, -⟩ := puts.script
  exact written_through_link (Path.isName_of_length (by decide) (by decide)) dirs link (by decide)
    (fun target => by rw [found]; simp) (by decide) second

/-- Where the second script went, it stays when the third one comes. -/
theorem linkedScripts_left {b a c : Script} {after : Volume}
    (paths : b.path = Path.join "generated" "b.js" ∧ a.path = Path.join "generated" "a.js" ∧
      c.path = Path.join "generated" "a.js")
    (whole : scripts emptyShop {} [crossed] = [b, a, c])
    (saved : saveAll linkedScripts [b, a, c] = .ok after) :
    ∃ executable, after.lookup ["work", "generated", "b.js"] =
      some (.file a.source.toUTF8 executable) := by
  obtain ⟨path_b, path_a, path_c⟩ := paths
  have between : (saveAll linkedScripts ((scripts emptyShop {} [crossed]).take 2)).toOption.all
      (fun v => decide (v.opened "generated" = .ok ["work", "generated"]) &&
        decide (v.node? (["work", "generated"] ++ [temporaryName "a.js"]) = none)) = true := by
    decide +kernel
  obtain ⟨next, first, saved⟩ := saveAll_cons saved
  obtain ⟨v, second, saved⟩ := saveAll_cons saved
  obtain ⟨after, third, saved⟩ := saveAll_cons saved
  obtain rfl := Except.ok.inj saved
  have two : saveAll linkedScripts [b, a] = .ok v := by simp only [saveAll, first, second]
  rw [whole, List.take_succ_cons, List.take_succ_cons, List.take_zero, two] at between
  obtain ⟨dirs, free⟩ : v.opened "generated" = .ok ["work", "generated"] ∧
      v.node? (["work", "generated"] ++ [temporaryName "a.js"]) = none := by
    simpa [Except.toOption] using between
  rw [path_b] at first
  rw [path_a] at second
  rw [path_c] at third
  obtain ⟨executable, content⟩ := linkedScripts_second first second
  obtain ⟨written, l, number, steps⟩ :=
    steps_of_opened (Path.isName_of_length (by decide) (by decide)) dirs third
  have kept := (steps.puts (Volume.alone_of_free free)).lookup_eq
    (l := ["work", "generated"] ++ ["b.js"]) (by decide) (by decide)
  exact ⟨executable, kept.trans content⟩

/-- An engine that shows the script it runs and empties another one. -/
def emptying : Engine where
  answer _ call v :=
    { result := .ok (.finished (some 0)
        (((v.read call.script).toOption.bind String.fromUTF8?).getD "") "" 0)
      volume := v.set ["work", "generated", "b.js"] (.file ByteArray.empty false)
      warnings := [] }

def emptyingShop : Workshop := { emptyShop with engine := emptying }

theorem source_ne_empty (w : Workshop) (options : RunOptions) (i : Nat) (f : Feature)
    (s : Scenario) : (scriptOf w options i f s).source ≠ "" := by
  intro empty
  have chars := congrArg String.toList ((render_eq _).symm.trans empty)
  simp at chars

theorem execute_emptying {a b : Script} {last : Traces}
    (emptied : ((last.volume.set ["work", "generated", "b.js"] (.file ByteArray.empty false)).read
      b.path).toOption = some ByteArray.empty) :
    ∃ summary t, execute emptyingShop {} [a, b] last = (.ok summary, t) ∧
      summary.results.getLast?.map (·.outcome.stdout) = some "" := by
  refine ⟨_, _, rfl, ?_⟩
  change some ((((last.volume.set ["work", "generated", "b.js"] (.file ByteArray.empty false)).read
    b.path).toOption.bind String.fromUTF8?).getD "") = some ""
  rw [emptied]
  decide

theorem exists_execute_emptying : ∃ a b last summary t,
    generate emptyingShop {} [plainFeature ["a", "b"]] (Traces.ofVolume Volume.empty) =
      (.ok [a, b], last) ∧
    last.warnings = [] ∧ b.source ≠ "" ∧ execute emptyingShop {} [a, b] last = (.ok summary, t) ∧
    summary.results.getLast?.map (·.outcome.stdout) = some "" := by
  obtain ⟨a, b, whole, path, some_text⟩ : ∃ a b,
      scripts emptyingShop {} [plainFeature ["a", "b"]] = [a, b] ∧ b.path = "generated/b.js" ∧
      b.source ≠ "" := ⟨_, _, rfl, by decide +kernel, source_ne_empty _ _ 1 _ _⟩
  have saves : (saveAll Volume.empty
      (scripts emptyingShop {} [plainFeature ["a", "b"]])).isOk = true := by decide +kernel
  have emptied : (saveAll Volume.empty
      (scripts emptyingShop {} [plainFeature ["a", "b"]])).toOption.all (fun v =>
        decide (((v.set ["work", "generated", "b.js"] (.file ByteArray.empty false)).read
          "generated/b.js").toOption = some ByteArray.empty)) = true := by decide +kernel
  obtain ⟨last, generated, saved⟩ := exists_generate emptyingShop {} (by decide) saves
  rw [saved] at emptied
  have unwarned : last.warnings = [] := by
    rw [generate_warnings generated]
    decide +kernel
  obtain ⟨summary, t, executed, shown⟩ :=
    execute_emptying (a := a) (path ▸ of_decide_eq_true emptied)
  exact ⟨a, b, last, summary, t, whole ▸ generated, unwarned, some_text, executed, shown⟩

/-- A link at the temporary name of a script leads it over another one, and an engine may change a
script before it runs it. -/
theorem linkedScripts_overwritten :
    (∃ b a c last,
      generate emptyShop {} [crossed] (Traces.ofVolume linkedScripts) = (.ok [b, a, c], last) ∧
      (b.path = Path.join "generated" "b.js" ∧ a.path = Path.join "generated" "a.js" ∧
        c.path = Path.join "generated" "a.js") ∧
      a.source ≠ b.source ∧ ∃ executable, last.volume.lookup ["work", "generated", "b.js"] =
        some (.file a.source.toUTF8 executable)) ∧
    ∃ a b last summary t,
      generate emptyingShop {} [plainFeature ["a", "b"]] (Traces.ofVolume Volume.empty) =
        (.ok [a, b], last) ∧
      last.warnings = [] ∧ b.source ≠ "" ∧
      execute emptyingShop {} [a, b] last = (.ok summary, t) ∧
      summary.results.getLast?.map (·.outcome.stdout) = some "" := by
  obtain ⟨b, a, c, last, generated, whole, saved, paths, differ⟩ := exists_generate_crossed
  exact ⟨⟨b, a, c, last, generated, paths, differ, linkedScripts_left paths whole saved⟩,
    exists_execute_emptying⟩

end Run

end LoadScript
