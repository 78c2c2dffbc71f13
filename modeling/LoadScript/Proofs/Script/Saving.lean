import LoadScript.Proofs.Host.Writing
import LoadScript.Script.Saving

/-!
# What saving a script changes

The temporary file is written where its path leads. When no link stands there and the file there has
no other name, a script that is saved stands at its path afterwards, its temporary file is gone, and
nothing else has changed, except that the directory may be new. In any case no other file changes,
and where saving fails, the script at the path does not either.
-/

set_option autoImplicit false

namespace LoadScript

namespace Script

open Volume Path

def temporaryName (n : String) : String := "." ++ n ++ ".tmp"

section Names

variable {n m : String}

theorem temporaryName_toList (n : String) :
    (temporaryName n).toList = '.' :: (n.toList ++ ['.', 't', 'm', 'p']) := by
  rw [temporaryName, String.toList_append, String.toList_append]
  rfl

theorem temporaryName_isName (h : IsName n) : IsName (temporaryName n) := by
  apply isName_of_length
  · rw [temporaryName_toList]
    simp [h.no_slash]
  · rw [temporaryName_toList]
    simp

theorem temporaryName_inj (h : temporaryName n = temporaryName m) : n = m := by
  have chars := congrArg String.toList h
  rw [temporaryName_toList, temporaryName_toList] at chars
  exact String.toList_inj.1 (List.append_cancel_right (List.cons.inj chars).2)

theorem temporaryName_ne_self (n : String) : n ≠ temporaryName n := by
  intro same
  have chars := congrArg (·.toList.length) same
  simp only [temporaryName_toList, List.length_cons, List.length_append] at chars
  omega

/-- Names that are not hidden are no names of temporary files. -/
theorem temporaryName_ne (visible : n.toList.head? ≠ some '.') : n ≠ temporaryName m := by
  intro same
  rw [same, temporaryName_toList] at visible
  exact visible rfl

end Names

section Places

variable {v : Volume} {n : String} (h : IsName n) (d : String)

include h

theorem temporaryPath_join : temporaryPath (join d n) =
    join (directoryOf (join d n)) (temporaryName n) := by
  obtain ⟨kept, skipped, joined, -, -⟩ := split_join h d
  rw [temporaryPath, fileName?_of_split h joined]
  rfl

/-- The temporary file is written where the script goes. -/
theorem opened_directoryOf : v.opened (directoryOf (join d n)) = v.opened d := by
  have way := walk_join (v := v) h v.workingDir d
  obtain ⟨before, skipped, joined, -, -⟩ := split_join h d
  obtain ⟨e, kept, idle, more, parent, absolute, rfl, pieces, hidle, hmore⟩ :=
    parent?_of_split h joined
  rw [joined, List.dropLast_concat] at way
  have start : origin v.workingDir e = origin v.workingDir (join d n) := by
    rw [origin, origin, absolute]
  rw [directoryOf, parent, Option.getD_some, opened, opened, ← way, openedFrom, pieces, start, walk,
    walk, walkWith_drop_idle _ kept fun piece mem => .inl (hmore piece mem),
    walkWith_drop_idle _ kept hidle]

end Places

/-! ## The steps of a save -/

/-- The volume in which a save writes: its directory has been made. -/
def prepared (v : Volume) (path : String) : Volume := (v.ensureDirectories (directoryOf path)).1

theorem grew_prepared (v : Volume) (path : String) : Grew v (prepared v path) :=
  grew_ensureDirectories v (directoryOf path)

section Steps

variable {v w after : Volume} {path content : String} {l : Location}

/-- A file is stored by writing it, and storing fails where it does nothing. -/
theorem storeFile_cases {bytes : ByteArray} {fault : Option FileFault}
    (stored : storeFile v path bytes = (w, fault)) :
    w = v ∧ fault ≠ none ∨ ∃ l n, v.destination path = .ok l ∧ Wrote v l n w ∧
      (fault = none → (w.inode n).content = bytes) := by
  unfold storeFile at stored
  split at stored
  · obtain ⟨rfl, rfl⟩ := Prod.mk.inj stored
    exact .inl ⟨rfl, by simp⟩
  · rename_i opened handle created
    obtain ⟨l, led, ⟨d, rfl, rfl⟩ | ⟨n, rfl, wrote⟩⟩ := create_cases created
    · have unchanged : (opened.write (.device d) bytes).1 = opened := by cases d <;> rfl
      split at stored
      · rename_i wrote
        obtain ⟨rfl, rfl⟩ := Prod.mk.inj stored
        rw [wrote] at unchanged
        exact .inl ⟨unchanged, by simp⟩
      · rename_i wrote
        rw [wrote] at unchanged
        obtain ⟨rfl, rfl⟩ := Prod.mk.inj stored
        exact .inl ⟨unchanged, by simp⟩
    · right
      obtain ⟨wrote, whole⟩ := wrote.write bytes
      refine ⟨l, n, led, ?_⟩
      split at stored
      · rename_i written fault wrote_part
        obtain ⟨rfl, rfl⟩ := Prod.mk.inj stored
        rw [wrote_part] at wrote
        exact ⟨wrote, by simp⟩
      · rename_i written wrote_all
        rw [wrote_all] at wrote whole
        split at stored
        · obtain ⟨rfl, rfl⟩ := Prod.mk.inj stored
          exact ⟨wrote, by simp⟩
        · obtain ⟨rfl, rfl⟩ := Prod.mk.inj stored
          exact ⟨wrote, whole⟩

/-- A save fails before the temporary file is written, or it has written it. -/
theorem save_cases {result : Except Error Unit} (saved : save v path content = (after, result)) :
    ∃ written fault,
      storeFile (prepared v path) (temporaryPath path) content.toUTF8 = (written, fault) ∧
      ((∃ cause : FileFault, result = .error (.unwritable path cause.message)) ∧
          (after = prepared v path ∨ after = written) ∨
        result = .ok () ∧ fault = none ∧ (v.ensureDirectories (directoryOf path)).2 = none ∧
          written.rename (temporaryPath path) path = .ok after) := by
  unfold save trySave at saved
  cases ensured : v.ensureDirectories (directoryOf path) with
  | mk made missing =>
    have here : prepared v path = made := by rw [prepared, ensured]
    cases stored : storeFile made (temporaryPath path) content.toUTF8 with
    | mk written fault =>
      rw [here]
      refine ⟨written, fault, stored, ?_⟩
      rw [ensured] at saved
      cases missing with
      | some cause =>
        obtain ⟨rfl, rfl⟩ := Prod.mk.inj saved
        exact .inl ⟨⟨cause, rfl⟩, .inl rfl⟩
      | none =>
        dsimp only at saved
        rw [stored] at saved
        cases fault with
        | some cause =>
          obtain ⟨rfl, rfl⟩ := Prod.mk.inj saved
          exact .inl ⟨⟨cause, rfl⟩, .inr rfl⟩
        | none =>
          dsimp only at saved
          cases renamed : written.rename (temporaryPath path) path with
          | error cause =>
            rw [renamed] at saved
            obtain ⟨rfl, rfl⟩ := Prod.mk.inj saved
            exact .inl ⟨⟨cause, rfl⟩, .inr rfl⟩
          | ok moved =>
            rw [renamed] at saved
            obtain ⟨rfl, rfl⟩ := Prod.mk.inj saved
            exact .inr ⟨rfl, rfl, rfl, rfl⟩

end Steps

/-- What happens in a save that succeeds: the temporary file is written at `l`, and its name is
moved. -/
structure Steps (made : Volume) (d n : String) (dir : Location) (content : ByteArray)
    (written : Volume) (l : Location) (number : Nat) (after : Volume) : Prop where
  name : IsName n
  opened : made.opened d = .ok dir
  fits : Fits d n
  temporaryFits : Fits (directoryOf (join d n)) (temporaryName n)
  led : made.destination (temporaryPath (join d n)) = .ok l
  wrote : Wrote made l number written
  content : (written.inode number).content = content
  renamed : written.rename (temporaryPath (join d n)) (join d n) = .ok after

section Steps

variable {v after : Volume} {path d n content : String}

theorem exists_join_of_save (saved : save v path content = (after, .ok ())) :
    ∃ d n, IsName n ∧ path = join d n := by
  obtain ⟨written, fault, -, ⟨⟨cause, failed⟩, -⟩ | ⟨-, -, -, renamed⟩⟩ := save_cases saved
  · cases failed
  · obtain ⟨old, -, moving⟩ := exists_of_bind_eq_ok renamed
    obtain ⟨new, placed, -⟩ := exists_of_bind_eq_ok moving
    exact exists_join_of_placeFrom placed

theorem steps_of_save (name : IsName n) (saved : save v (join d n) content = (after, .ok ())) :
    ∃ dir written l number,
      Steps (prepared v (join d n)) d n dir content.toUTF8 written l number after := by
  obtain ⟨written, fault, stored, ⟨⟨cause, failed⟩, -⟩ | ⟨-, rfl, -, renamed⟩⟩ := save_cases saved
  · cases failed
  obtain ⟨-, failed⟩ | ⟨l, number, led, wrote, whole⟩ := storeFile_cases stored
  · exact absurd rfl failed
  obtain ⟨-, -, t, placed, -⟩ := destination_spec led
  rw [temporaryPath_join name] at placed
  obtain ⟨temporaryFits, dir, dirs, -⟩ := fits_of_placeFrom (temporaryName_isName name) placed
  obtain ⟨old, -, moving⟩ := exists_of_bind_eq_ok renamed
  obtain ⟨new, target, -⟩ := exists_of_bind_eq_ok moving
  exact ⟨dir, written, l, number, name, (opened_directoryOf name d).symm.trans dirs,
    (fits_of_placeFrom name target).1, temporaryFits, led, wrote, whole rfl, renamed⟩

end Steps

namespace Steps

variable {made written after : Volume} {d n : String} {dir l m : Location} {bytes : ByteArray}
  {number : Nat} (steps : Steps made d n dir bytes written l number after)

include steps

theorem place : made.place (join d n) = .ok (dir ++ [n]) :=
  place_of_fits steps.name steps.fits steps.opened

theorem temporaryPlace :
    made.place (temporaryPath (join d n)) = .ok (dir ++ [temporaryName n]) := by
  rw [temporaryPath_join steps.name]
  exact place_of_fits (temporaryName_isName steps.name) steps.temporaryFits
    ((opened_directoryOf steps.name d).trans steps.opened)

theorem temporary_cases : l = dir ++ [temporaryName n] ∨
    ∃ target, made.node? (dir ++ [temporaryName n]) = some (.link target) ∧
      written.node? (dir ++ [temporaryName n]) = some (.link target) := by
  obtain ⟨-, -, t, placed, same⟩ := destination_spec steps.led
  obtain rfl := Except.ok.inj (steps.temporaryPlace.symm.trans placed)
  by_cases unlinked : made.Unlinked (dir ++ [temporaryName n])
  · exact .inl (same unlinked)
  · obtain ⟨target, link⟩ := not_forall_not.1 unlinked
    exact .inr ⟨target, link, steps.wrote.keeps.link link⟩

theorem temporary_node : ∃ node, written.node? (dir ++ [temporaryName n]) = some node ∧
    node.isDirectory = false := by
  obtain here | ⟨target, -, link⟩ := steps.temporary_cases
  · exact ⟨_, here ▸ steps.wrote.node, rfl⟩
  · exact ⟨_, link, rfl⟩

/-- What was at the temporary name has moved to the script's name, unless both are names of one
file. -/
theorem moved : ∃ node, written.node? (dir ++ [temporaryName n]) = some node ∧
    written.checkWritable dir = .ok () ∧
    (∀ rights, written.node? (dir ++ [n]) ≠ some (.directory rights)) ∧
    (after = written ∧ node.isFile = true ∧ written.node? (dir ++ [n]) = some node ∨
      Moved written node (dir ++ [temporaryName n]) (dir ++ [n]) after) := by
  obtain ⟨node, found, plain⟩ := steps.temporary_node
  have keeps := steps.wrote.keeps
  obtain ⟨new, target, writable, replaceable, cases⟩ :=
    rename_cases (place_mono keeps steps.temporaryPlace) found plain steps.renamed
  obtain rfl := Except.ok.inj ((place_mono keeps steps.place).symm.trans target)
  rw [List.dropLast_concat] at writable
  refine ⟨node, found, writable, replaceable, ?_⟩
  obtain ⟨rfl, same | shared⟩ | ⟨-, moved⟩ := cases
  · exact absurd (by simpa using same) (Ne.symm (temporaryName_ne_self n))
  · exact .inl ⟨rfl, shared⟩
  · exact .inr moved

/-- A save that succeeds changes what its temporary path leads to and what stands at the path. -/
theorem spares (spared : ¬ made.Reaches (temporaryPath (join d n)) m) (other : m ≠ dir ++ [n]) :
    (∀ content executable, made.lookup m = some (.file content executable) ↔
      after.lookup m = some (.file content executable)) := by
  intro content executable
  have same := steps.wrote.lookup_eq steps.led spared
  obtain ⟨node, found, -, -, ⟨rfl, -⟩ | moved⟩ := steps.moved
  · rw [same]
  by_cases away : m = dir ++ [temporaryName n]
  · subst away
    obtain here | ⟨target, link, -⟩ := steps.temporary_cases
    · exact absurd ⟨l, steps.led, .inl here.symm⟩ spared
    · rw [lookup, lookup, link, moved.gone]
      simp [seen]
  · have kept : after.lookup m = written.lookup m :=
      lookup_congr (moved.others m away other) fun k _ => by rw [moved.inode]
    rw [kept, same]

end Steps

theorem disk_of_save {v after : Volume} {path content : String}
    (saved : save v path content = (after, .ok ())) : after.disk = v.disk := by
  obtain ⟨d, n, name, rfl⟩ := exists_join_of_save saved
  obtain ⟨dir, written, l, number, steps⟩ := steps_of_save name saved
  have wrote : written.disk = v.disk := steps.wrote.disk.trans (grew_prepared v _).disk
  obtain ⟨node, -, -, -, ⟨rfl, -⟩ | moved⟩ := steps.moved
  · exact wrote
  · exact moved.disk.trans wrote

/-! ## A temporary file that is alone -/

/-- What a save under a name in a directory does when the temporary file is alone. -/
structure Puts (v : Volume) (dir : Location) (n : String) (content : ByteArray) (after : Volume) :
    Prop where
  workingDir : after.workingDir = v.workingDir
  writable : v.checkWritable dir = .ok ()
  replaceable : ∀ rights, v.node? (dir ++ [n]) ≠ some (.directory rights)
  temporaryPlain : ∀ rights, v.node? (dir ++ [temporaryName n]) ≠ some (.directory rights)
  script : ∃ number, after.node? (dir ++ [n]) = some (.file number) ∧
    (after.inode number).content = content ∧
    ∀ l, l ≠ dir ++ [temporaryName n] → v.node? l ≠ some (.file number)
  temporary : after.node? (dir ++ [temporaryName n]) = none
  others : ∀ l, l ≠ dir ++ [n] → l ≠ dir ++ [temporaryName n] → after.node? l = v.node? l
  inode : ∀ l number, l ≠ dir ++ [temporaryName n] → v.node? l = some (.file number) →
    after.inode number = v.inode number

theorem Steps.puts {made written after : Volume} {d n : String} {dir l : Location}
    {bytes : ByteArray} {number : Nat} (steps : Steps made d n dir bytes written l number after)
    (alone : made.Alone (dir ++ [temporaryName n])) : Puts made dir n bytes after := by
  have differ : dir ++ [n] ≠ dir ++ [temporaryName n] := by simpa using temporaryName_ne_self n
  obtain rfl : l = dir ++ [temporaryName n] := by
    obtain here | ⟨target, link, -⟩ := steps.temporary_cases
    · exact here
    · exact absurd link (alone.unlinked target)
  have wrote := steps.wrote
  -- The file that is written has no name but the temporary one.
  have unnamed (m : Location) (away : m ≠ dir ++ [temporaryName n]) :
      made.node? m ≠ some (.file number) := by
    intro found
    obtain here | ⟨-, unnamed⟩ := wrote.before
    · exact away (alone.only number m here found)
    · exact unnamed m found
  obtain ⟨node, found, writable, replaceable, ⟨-, -, shared⟩ | moved⟩ := steps.moved
  · obtain rfl := Option.some.inj (wrote.node.symm.trans found)
    rw [wrote.others _ differ] at shared
    exact absurd shared (unnamed _ differ)
  obtain rfl := Option.some.inj (wrote.node.symm.trans found)
  have searchable : dir ≠ dir ++ [temporaryName n] := by simp
  rw [checkWritable, wrote.others _ searchable] at writable
  rw [wrote.others _ differ] at replaceable
  refine ⟨moved.workingDir.trans wrote.workingDir, writable, replaceable, wrote.not_directory,
    ⟨number, moved.node, ?_, unnamed⟩, moved.gone, ?_, ?_⟩
  · rw [moved.inode]
    exact steps.content
  · intro m other away
    rw [moved.others m away other, wrote.others m away]
  · intro m k away named
    rw [moved.inode]
    refine wrote.inode k ?_
    rintro rfl
    exact unnamed m away named

namespace Puts

variable {u v after : Volume} {dir l : Location} {d n : String} {bytes : ByteArray}
  (puts : Puts v dir n bytes after)

include puts

theorem content : ∃ executable, after.lookup (dir ++ [n]) = some (.file bytes executable) := by
  obtain ⟨number, found, content, -⟩ := puts.script
  exact ⟨_, by rw [lookup_of_file found, content]⟩

theorem lookup_temporary : after.lookup (dir ++ [temporaryName n]) = none := by
  rw [lookup, puts.temporary]
  rfl

theorem lookup_eq (other : l ≠ dir ++ [n]) (away : l ≠ dir ++ [temporaryName n]) :
    after.lookup l = v.lookup l :=
  lookup_congr (puts.others l other away) fun number found => puts.inode l number away found

theorem keeps (keeps : Keeps u v) (unlinked : u.Unlinked (dir ++ [n]))
    (alone : v.Alone (dir ++ [temporaryName n])) : Keeps u after where
  workingDir := puts.workingDir.trans keeps.workingDir
  directory := by
    intro l rights found
    have there := keeps.directory found
    rw [puts.others, there]
    · rintro rfl
      exact puts.replaceable rights there
    · rintro rfl
      exact puts.temporaryPlain rights there
  link := by
    intro l target found
    have there := keeps.link found
    rw [puts.others, there]
    · rintro rfl
      exact unlinked target found
    · rintro rfl
      exact alone.unlinked target there

theorem alone (alone : v.Alone l) (other : l ≠ dir ++ [n]) : after.Alone l := by
  by_cases away : l = dir ++ [temporaryName n]
  · subst away
    exact alone_of_free puts.temporary
  · refine ⟨fun target => ?_, fun k m found there => ?_⟩
    · rw [puts.others l other away]
      exact alone.unlinked target
    · rw [puts.others l other away] at found
      by_cases script : m = dir ++ [n]
      · obtain ⟨number, new, -, unnamed⟩ := puts.script
        rw [script, new] at there
        obtain rfl := Node.file.inj (Option.some.inj there)
        exact absurd found (unnamed l away)
      by_cases gone : m = dir ++ [temporaryName n]
      · rw [gone, puts.temporary] at there
        cases there
      · rw [puts.others m script gone] at there
        exact alone.only k m found there

end Puts

/-! ## Saving again -/

/-- A script can be saved under the name, with a temporary file that is new. -/
structure Ready (v : Volume) (d : String) (dir : Location) (n : String) : Prop where
  opened : v.opened d = .ok dir
  fits : Fits d n
  temporaryFits : Fits (directoryOf (join d n)) (temporaryName n)
  writable : v.checkWritable dir = .ok ()
  free : v.node? (dir ++ [temporaryName n]) = none
  replaceable : ∀ rights, v.node? (dir ++ [n]) ≠ some (.directory rights)

section Ready

variable {v : Volume} {d n : String} {dir : Location}

theorem ensureDirectories_directoryOf (name : IsName n)
    (fits : Fits (directoryOf (join d n)) (temporaryName n)) (dirs : v.opened d = .ok dir) :
    v.ensureDirectories (directoryOf (join d n)) = (v, none) := by
  refine ensureDirectories_of_opened ?_ ((opened_directoryOf name d).trans dirs)
  by_cases empty : directoryOf (join d n) = ""
  · exact .inl empty
  · exact .inr (fits.checkPath_dir (temporaryName_isName name) empty)

theorem steps_of_opened {after : Volume} {content : String} (name : IsName n)
    (dirs : v.opened d = .ok dir) (saved : save v (join d n) content = (after, .ok ())) :
    ∃ written l number, Steps v d n dir content.toUTF8 written l number after := by
  obtain ⟨dir', written, l, number, steps⟩ := steps_of_save name saved
  have here : prepared v (join d n) = v := by
    rw [prepared, ensureDirectories_directoryOf name steps.temporaryFits dirs]
  rw [here] at steps
  obtain rfl := Except.ok.inj (dirs.symm.trans steps.opened)
  exact ⟨written, l, number, steps⟩

theorem puts_of_free {after : Volume} {content : String} (name : IsName n)
    (dirs : v.opened d = .ok dir) (free : v.node? (dir ++ [temporaryName n]) = none)
    (unlinked : v.Unlinked (dir ++ [n]))
    (saved : save v (join d n) content = (after, .ok ())) :
    Puts v dir n content.toUTF8 after ∧ after.opened d = .ok dir := by
  obtain ⟨written, l, number, steps⟩ := steps_of_opened name dirs saved
  have alone := alone_of_free free
  have puts := steps.puts alone
  exact ⟨puts, opened_mono (puts.keeps ⟨rfl, id, id⟩ unlinked alone) dirs⟩

theorem exists_save (name : IsName n) (ready : Ready v d dir n) (reliable : v.Reliable)
    (content : String) :
    ∃ after, save v (join d n) content = (after, .ok ()) ∧ after.Reliable := by
  have differ : dir ++ [temporaryName n] ≠ dir ++ [n] := by
    simpa using Ne.symm (temporaryName_ne_self n)
  have placed : v.place (temporaryPath (join d n)) = .ok (dir ++ [temporaryName n]) := by
    rw [temporaryPath_join name]
    exact place_of_fits (temporaryName_isName name) ready.temporaryFits
      ((opened_directoryOf name d).trans ready.opened)
  obtain ⟨opened, created, open_reliable, wrote⟩ :=
    reliable.exists_create placed ready.free (by simpa using ready.writable)
  obtain ⟨written, whole, reliable⟩ := open_reliable.exists_write v.fresh content.toUTF8
  have wrote : Wrote v (dir ++ [temporaryName n]) v.fresh written := by
    have wrote := (wrote.write content.toUTF8).1
    rwa [whole] at wrote
  have stored : storeFile v (temporaryPath (join d n)) content.toUTF8 = (written, none) := by
    simp only [storeFile, created, whole, Volume.sync, reliable.ask]
  have writable : written.checkWritable dir = .ok () := by
    rw [checkWritable, wrote.others dir (by simp)]
    exact ready.writable
  have script : written.node? (dir ++ [n]) = v.node? (dir ++ [n]) := wrote.others _ (Ne.symm differ)
  obtain ⟨after, renamed, reliable⟩ := reliable.exists_rename (place_mono wrote.keeps placed)
    wrote.node (place_mono wrote.keeps (place_of_fits name ready.fits ready.opened)) differ
    (by simpa using writable) (by simpa using writable) (script ▸ ready.replaceable)
    (fun found => ne_fresh_of_node? (script ▸ found) rfl)
  refine ⟨after, ?_, reliable⟩
  unfold save trySave
  simp only [ensureDirectories_directoryOf name ready.temporaryFits ready.opened, stored, renamed]

theorem Puts.ready {after : Volume} {bytes : ByteArray} {m : String}
    (puts : Puts v dir n bytes after) (opened : after.opened d = .ok dir)
    (ready : Ready v d dir m) (apart : temporaryName m ≠ n) : Ready after d dir m where
  opened := opened
  fits := ready.fits
  temporaryFits := ready.temporaryFits
  writable := by
    rw [checkWritable, puts.others dir (by simp) (by simp)]
    exact ready.writable
  free := by
    by_cases same : temporaryName m = temporaryName n
    · rw [same, puts.temporary]
    · rw [puts.others _ (by simpa using apart) (by simpa using same), ready.free]
  replaceable := by
    intro rights
    by_cases same : m = n
    · obtain ⟨number, found, -⟩ := puts.script
      rw [same, found]
      simp
    by_cases gone : m = temporaryName n
    · rw [gone, puts.temporary]
      simp
    · rw [puts.others _ (by simpa using same) (by simpa using gone)]
      exact ready.replaceable rights

/-- Through a link at its temporary name, a script is written to the file beside it. -/
theorem written_through_link {after : Volume} {content m : String} (name : IsName n)
    (dirs : v.opened d = .ok dir)
    (link : v.node? (dir ++ [temporaryName n]) = some (.link m)) (entry : IsEntryName m)
    (unlinked : v.Unlinked (dir ++ [m])) (other : m ≠ n)
    (saved : save v (join d n) content = (after, .ok ())) :
    ∃ executable, after.lookup (dir ++ [m]) = some (.file content.toUTF8 executable) := by
  obtain ⟨written, l, number, steps⟩ := steps_of_opened name dirs saved
  obtain rfl := Except.ok.inj
    (steps.led.symm.trans (destination_of_link steps.temporaryPlace link entry unlinked))
  obtain ⟨executable, written_there⟩ : ∃ executable,
      written.lookup (dir ++ [m]) = some (.file content.toUTF8 executable) :=
    ⟨_, by rw [lookup_of_file steps.wrote.node, steps.content]⟩
  refine ⟨executable, ?_⟩
  obtain ⟨node, -, -, -, ⟨rfl, -⟩ | moved⟩ := steps.moved
  · exact written_there
  · have away : dir ++ [m] ≠ dir ++ [temporaryName n] := by
      intro same
      rw [same] at unlinked
      exact unlinked m link
    rw [← written_there]
    exact lookup_congr (moved.others _ away (by simpa using other)) fun k _ => by rw [moved.inode]

end Ready

/-! ## Any path -/

/-- The same regular file stands at the location in both volumes, or none in either. -/
def SameFile (v w : Volume) (l : Location) : Prop := ∀ content executable,
  v.lookup l = some (.file content executable) ↔ w.lookup l = some (.file content executable)

section Any

variable {v w after : Volume} {path content : String} {l : Location}

theorem sameFile_of_eq (h : w.lookup l = v.lookup l) : SameFile v w l := by
  intro content executable
  rw [h]

theorem sameFile_of_grew (grew : Grew v w) (l : Location) : SameFile v w l := by
  obtain same | ⟨absent, made⟩ := grew.lookup_eq l
  · exact sameFile_of_eq same
  · intro content executable
    rw [absent, made]
    simp

theorem SameFile.trans {x : Volume} (first : SameFile v w l) (second : SameFile w x l) :
    SameFile v x l :=
  fun content executable => (first content executable).trans (second content executable)

/-- A save changes no file but what its temporary path leads to and, if it succeeds, what stands at
the path. -/
theorem sameFile_of_save {result : Except Error Unit}
    (saved : save v path content = (after, result))
    (spared : ¬ (prepared v path).Reaches (temporaryPath path) l)
    (other : result = .ok () → (prepared v path).place path ≠ .ok l) : SameFile v after l := by
  refine (sameFile_of_grew (grew_prepared v path) l).trans ?_
  obtain ⟨written, fault, stored, ⟨-, here | here⟩ | ⟨rfl, -⟩⟩ := save_cases saved
  · rw [here]
    exact sameFile_of_eq rfl
  · rw [here]
    obtain ⟨same, -⟩ | ⟨t, number, led, wrote, -⟩ := storeFile_cases stored
    · rw [same]
      exact sameFile_of_eq rfl
    · exact sameFile_of_eq (wrote.lookup_eq led spared)
  · obtain ⟨d, n, name, rfl⟩ := exists_join_of_save saved
    obtain ⟨dir, written, t, number, steps⟩ := steps_of_save name saved
    refine steps.spares spared ?_
    rintro rfl
    exact other rfl steps.place

/-- The script stands at its place and nothing at that of the temporary file; so it is found under
its path if that leads there without the place itself. -/
structure Replaces (made : Volume) (path : String) (content : ByteArray) (p t : Location)
    (after : Volume) : Prop where
  script : ∃ executable, after.lookup p = some (.file content executable)
  temporary : after.lookup t = none
  path : made.PlacedPast (· = p) path p →
    (∃ executable, after.entry? path = some (.file content executable)) ∧
      after.entry? (temporaryPath path) = none

/-- A save that succeeds with a temporary file that is alone leaves the script at the path. -/
theorem replaces_of_save (saved : save v path content = (after, .ok ())) {t : Location}
    (placed : (prepared v path).place (temporaryPath path) = .ok t)
    (alone : (prepared v path).Alone t) : ∃ p, (prepared v path).place path = .ok p ∧
      Replaces (prepared v path) path content.toUTF8 p t after := by
  obtain ⟨d, n, name, rfl⟩ := exists_join_of_save saved
  obtain ⟨dir, written, l, number, steps⟩ := steps_of_save name saved
  obtain rfl := Except.ok.inj (steps.temporaryPlace.symm.trans placed)
  have puts := steps.puts alone
  refine ⟨dir ++ [n], steps.place, puts.content, puts.lookup_temporary, ?_⟩
  rintro ⟨u, keeps, way, unlinked⟩
  have still := puts.keeps keeps (unlinked _ rfl) alone
  obtain ⟨number, script, -⟩ := puts.script
  have place : after.place (join d n) = .ok (dir ++ [n]) := place_mono still way
  have temporary : after.place (temporaryPath (join d n)) = .ok (dir ++ [temporaryName n]) := by
    obtain ⟨-, dir', dirs, same⟩ := fits_of_placeFrom name place
    obtain rfl : dir = dir' := List.append_inj_left' same rfl
    rw [temporaryPath_join name]
    exact place_of_fits (temporaryName_isName name) steps.temporaryFits
      ((opened_directoryOf name d).trans dirs)
  rw [entry?_of_place place fun target => by simp [script],
    entry?_of_place temporary fun target => by simp [puts.temporary]]
  exact ⟨puts.content, puts.lookup_temporary⟩

/-- Where a save succeeds, the path was no directory of its own, its directory was no file, and the
name of the temporary file was not too long. -/
theorem unblocked_of_save (saved : save v path content = (after, .ok ())) :
    ((prepared v path).isDirectory path = true →
      ∃ p, (prepared v path).place path = .ok p ∧ ¬ (prepared v path).Unlinked p) ∧
    (prepared v path).isFile (directoryOf path) = false ∧
      (temporaryName ((fileName? path).getD "scenario")).utf8ByteSize ≤ nameLimit := by
  obtain ⟨d, n, name, rfl⟩ := exists_join_of_save saved
  obtain ⟨dir, written, l, number, steps⟩ := steps_of_save name saved
  obtain ⟨node, -, -, replaceable, -⟩ := steps.moved
  refine ⟨fun directory => ⟨_, steps.place, fun unlinked => ?_⟩, ?_, ?_⟩
  · have found := Entry.any_isDirectory.1 directory
    rw [entry?_of_place steps.place unlinked, lookup_eq_directory] at found
    obtain ⟨rights, found⟩ := found
    exact replaceable rights (steps.wrote.keeps.directory found)
  · rw [Bool.eq_false_iff]
    intro file
    by_cases empty : directoryOf (join d n) = ""
    · rw [empty] at file
      cases file
    · have checked := steps.temporaryFits.checkPath_dir (temporaryName_isName name) empty
      have directory := isDirectory_of_opened checked
        ((opened_directoryOf (v := prepared v (join d n)) name d).trans steps.opened)
      rw [Volume.isDirectory, Entry.any_isDirectory] at directory
      rw [Volume.isFile, directory] at file
      cases file
  · rw [fileName?_join name]
    exact checkName_eq_ok.1 steps.temporaryFits.name

end Any

def withScript : Volume :=
  (Volume.empty.set ["work", "out"] .directory).set ["work", "out", "a.js"]
    (.file "old".toUTF8 false)

/-- The same volume on a disk that takes one byte of a new file. -/
def withFullDisk : Volume := { withScript with
  disk.refuses := fun _ a => if a = .write withScript.fresh then some ⟨.noSpace, 1⟩ else none }

theorem saved_of_isOk {result : Except Error Unit} (isOk : result.isOk = true) :
    result = .ok () := by
  cases result with
  | ok _ => rfl
  | error e => cases isOk

theorem failed_of_isOk {result : Except Error Unit} (failed : result.isOk = false) :
    ∃ e, result = .error e := by
  cases result with
  | ok _ => cases failed
  | error e => exact ⟨e, rfl⟩

/-- A volume in which the temporary name of a script is that of a link to another script. -/
def withLink : Volume :=
  (withScript.set ["work", "out", "b.js"] (.file "other".toUTF8 false)).set
    ["work", "out", ".a.js.tmp"] (.link "b.js")

end Script

end LoadScript
