import LoadScript.Proofs.Run.Store
import LoadScript.Proofs.Script.Rendering

set_option autoImplicit false

namespace LoadScript

namespace Script

variable {v after : Volume} {d : String} {dir : Location} {ss : List Script}

/-- Scripts that have been saved can be saved again. -/
theorem Stores.ready (stores : Stores v d dir ss after) {s : Script} (mem : s ∈ ss) :
    Ready after d dir s.fileName where
  opened := stores.opened
  fits := (stores.fits s mem).1
  temporaryFits := (stores.fits s mem).2
  writable := stores.writable (List.ne_nil_of_mem mem)
  free := stores.temporary s mem
  replaceable := by
    intro rights
    obtain ⟨content, executable, file⟩ := stores.exists_content mem
    obtain ⟨number, found, -⟩ := Volume.lookup_eq_file file
    simp [found]

theorem getLast?_filter_path {earlier later : List Script} {s : Script}
    (alone : ∀ r ∈ later, r.path ≠ s.path) :
    ((earlier ++ s :: later).filter (·.path = s.path)).getLast? = some s := by
  have gone : later.filter (·.path = s.path) = [] :=
    List.filter_eq_nil_iff.2 fun r mem => by simpa using alone r mem
  rw [getLast?_filter_split (by simp), gone]
  rfl

/-- Only the time in the header depends on when a script is generated. -/
theorem ofScenario_source (voc : Vocabulary) (options : GenerationOptions) (f : Feature)
    (s : Scenario) : ∃ lead rest, ∀ time, (ofScenario voc options f s time).source =
      lead ++ "// Generated: " ++ time.toText ++ rest := by
  obtain ⟨lead, rest, rendered⟩ := (moduleOf voc options f s ⟨0⟩).render_atTime
  refine ⟨lead, rest, fun time => ?_⟩
  have timed : moduleOf voc options f s time =
      (moduleOf voc options f s ⟨0⟩).atTime time.toText := by
    simp only [moduleOf, Draft.finish, ScriptModule.atTime]
  simp only [ofScenario, timed, rendered]

/-- What of a script does not depend on its time. -/
def untimed (s : Script) : String × String × LoadProfile × Parameters × List String :=
  (s.scenario, s.path, s.profile, s.parameters, s.unrecognized)

theorem exists_fileName {ss ss' : List Script} (same : ss'.map untimed = ss.map untimed)
    {s : Script} (mem : s ∈ ss') : ∃ r ∈ ss, r.fileName = s.fileName := by
  have found : untimed s ∈ ss.map untimed := by
    rw [← same]
    exact List.mem_map_of_mem mem
  obtain ⟨r, hr, equal⟩ := List.mem_map.1 found
  have scenario : r.scenario = s.scenario := congrArg Prod.fst equal
  exact ⟨r, hr, by rw [fileName, fileName, scenario]⟩

theorem Stores.again {ss' : List Script} {after' : Volume} (stores : Stores v d dir ss after)
    (stores' : Stores after d dir ss' after') (same : ss'.map untimed = ss.map untimed)
    (l : Location) : (∃ s ∈ ss, l = dir ++ [s.fileName]) ∨ after'.lookup l = after.lookup l := by
  by_cases path : ∃ s ∈ ss, l = dir ++ [s.fileName]
  · exact .inl path
  by_cases temporary : ∃ s ∈ ss, l = dir ++ [temporaryName s.fileName]
  · obtain ⟨s, mem, rfl⟩ := temporary
    obtain ⟨r, hr, name⟩ := exists_fileName same.symm mem
    have absent := stores'.temporary r hr
    rw [name] at absent
    right
    rw [Volume.lookup, Volume.lookup, absent, stores.temporary s mem]
    rfl
  · refine .inr (stores'.others l fun r hr => ?_).2
    obtain ⟨s, mem, name⟩ := exists_fileName same hr
    rw [← name]
    exact ⟨fun here => path ⟨s, mem, here⟩, fun here => temporary ⟨s, mem, here⟩⟩

theorem Stores.files_again {ss' : List Script} {after' : Volume} (stores : Stores v d dir ss after)
    (stores' : Stores after d dir ss' after') (same : ss'.map untimed = ss.map untimed)
    (l : Location) :
    (∃ content executable, after'.lookup l = some (.file content executable)) ↔
      ∃ content executable, after.lookup l = some (.file content executable) := by
  obtain ⟨s, mem, rfl⟩ | kept := stores.again stores' same l
  · obtain ⟨r, hr, name⟩ := exists_fileName same.symm mem
    have file := stores'.exists_content hr
    rw [name] at file
    exact iff_of_true file (stores.exists_content mem)
  · rw [kept]

end Script

namespace Run

open Script

/-- The results of two generations agree but for the times. -/
structure SameButTimes (clock clock' : Nat → Timestamp) (ss ss' : List Script)
    (last last' : Traces) : Prop where
  scripts : ss'.map untimed = ss.map untimed
  warnings : last'.warnings = last.warnings
  files : ∀ l, (∃ content executable,
      last'.volume.lookup l = some (.file content executable)) ↔
    ∃ content executable, last.volume.lookup l = some (.file content executable)
  others : ∀ l, (∀ s ∈ ss, last.volume.place s.path ≠ .ok l) →
    last'.volume.lookup l = last.volume.lookup l
  times : ∀ earlier s later, ss = earlier ++ s :: later → (∀ r ∈ later, r.path ≠ s.path) →
    ∃ lead rest executable executable',
      last.volume.entry? s.path = some (.file (lead ++ "// Generated: " ++
        (clock earlier.length).toText ++ rest).toUTF8 executable) ∧
      last'.volume.entry? s.path = some (.file (lead ++ "// Generated: " ++
        (clock' earlier.length).toText ++ rest).toUTF8 executable')

variable {w : Workshop} {options : RunOptions} {fs : List Feature} {v : Volume} {ss : List Script}
  {last : Traces}

theorem map_untimed (clock : Nat → Timestamp) :
    (scripts { w with clock } options fs).map untimed = (scripts w options fs).map untimed := by
  have before : (scripts w options fs).map untimed = (scenarios fs).map fun pair =>
      untimed (scriptOf w options 0 pair.1 pair.2) := by
    refine map_scripts fun number pair => ?_
    simp only [untimed, scriptOf, ofScenario, moduleOf, Draft.finish]
  rw [before]
  refine map_scripts fun number pair => ?_
  simp only [untimed, scriptOf, ofScenario, moduleOf, Draft.finish, generationOptions]

theorem split_scripts {earlier later : List Script} {s : Script} (clock : Nat → Timestamp)
    (split : scripts w options fs = earlier ++ s :: later) :
    ∃ lead rest, s.source = lead ++ "// Generated: " ++ (w.clock earlier.length).toText ++ rest ∧
      ∃ earlier' s' later', scripts { w with clock } options fs = earlier' ++ s' :: later' ∧
        s'.path = s.path ∧ later'.map (·.path) = later.map (·.path) ∧
        s'.source = lead ++ "// Generated: " ++ (clock earlier.length).toText ++ rest := by
  have found : (scripts w options fs)[earlier.length]? = some s := by simp [split]
  rw [getElem?_scripts] at found
  obtain ⟨⟨f, scenario⟩, pair, rfl⟩ := Option.map_eq_some_iff.1 found
  obtain ⟨lead, rest, source⟩ :=
    ofScenario_source w.vocabulary (generationOptions w options) f scenario
  refine ⟨lead, rest, source _, ?_⟩
  have found' : (scripts { w with clock } options fs)[earlier.length]? =
      some (scriptOf { w with clock } options earlier.length f scenario) := by
    rw [getElem?_scripts, pair]
    rfl
  obtain ⟨short, found'⟩ := List.getElem?_eq_some_iff.1 found'
  have paths : (scripts { w with clock } options fs).map (·.path) =
      (scripts w options fs).map (·.path) := by
    have same : (scripts { w with clock } options fs).map untimed =
        (scripts w options fs).map untimed := map_untimed clock
    have mapped := congrArg (List.map (·.2.1)) same
    rwa [List.map_map, List.map_map] at mapped
  refine ⟨(scripts { w with clock } options fs).take earlier.length,
    scriptOf { w with clock } options earlier.length f scenario,
    (scripts { w with clock } options fs).drop (earlier.length + 1), ?_, ?_, ?_, source _⟩
  · rw [← found', ← List.drop_eq_getElem_cons short, List.take_append_drop]
  · rw [scriptOf_path, scriptOf_path]
  · rw [List.map_drop, paths, split, ← List.map_drop, List.drop_length_add_append]
    rfl

/-- A generation that nothing disturbed succeeds again on a disk that takes everything, and gives
the same up to the times. -/
theorem regenerate_same_but_times
    (generated : generate w options fs (Traces.ofVolume v) = (.ok ss, last)) :
    ∃ first rest dir, ss = first :: rest ∧ v.Grew (prepared v first.path) ∧
      (prepared v first.path).place first.path = .ok (dir ++ [first.fileName]) ∧
      (Undisturbed (prepared v first.path) dir ss → last.volume.Reliable →
        ∀ clock : Nat → Timestamp, ∃ ss' last',
          generate { w with clock } options fs (Traces.ofVolume last.volume) = (.ok ss', last') ∧
          SameButTimes w.clock clock ss ss' last last') := by
  obtain ⟨first, rest, dir, split, placed, prepared_saved⟩ := saveAll_prepared_of_generate generated
  have grew := grew_prepared v first.path
  refine ⟨first, rest, dir, split, grew, placed, fun undisturbed reliable clock => ?_⟩
  obtain ⟨some_scenario, rfl, -⟩ := saveAll_of_generate generated
  obtain ⟨u, dirs, unlinked, keeps, stores⟩ := stores_of_undisturbed (by simp [split])
    (fun s mem => path_of_mem_scripts mem) undisturbed prepared_saved
  have held := stores.heldIn grew fun s mem => path_of_mem_scripts mem
  have same : (scripts { w with clock } options fs).map untimed =
      (scripts w options fs).map untimed := map_untimed clock
  have unlinked' : ∀ s ∈ scripts { w with clock } options fs,
      u.Unlinked (dir ++ [s.fileName]) := by
    intro s mem
    obtain ⟨r, hr, name⟩ := exists_fileName same mem
    exact name ▸ unlinked r hr
  have ready : ∀ s ∈ scripts { w with clock } options fs,
      Ready last.volume options.outputDir dir s.fileName := by
    intro s mem
    obtain ⟨r, hr, name⟩ := exists_fileName same mem
    exact name ▸ stores.ready hr
  obtain ⟨after, saved⟩ := exists_saveAll (fun s mem => path_of_mem_scripts mem) keeps dirs unlinked'
    ready reliable
  obtain ⟨last', -, rfl, again⟩ := generate_of_saveAll_ok { w with clock } options
    (Traces.ofVolume last.volume) some_scenario saved
  obtain ⟨stores', -⟩ := stores_of_saveAll (fun s mem => path_of_mem_scripts mem) keeps dirs
    unlinked' (fun s mem => Volume.alone_of_free (ready s mem).free) saved
  refine ⟨_, last', again, same, ?_, stores.files_again stores' same, ?_, ?_⟩
  · rw [generate_warnings again, generate_warnings generated]
    rfl
  · intro l outside
    obtain ⟨s, mem, rfl⟩ | kept := stores.again stores' same l
    · exact absurd (held.placed s mem).1 (outside s mem)
    · exact kept
  · intro earlier s later split alone
    obtain ⟨lead, rest, source, earlier', s', later', split', path, paths, source'⟩ :=
      split_scripts clock split
    have alone' : ∀ r ∈ later', r.path ≠ s'.path := by
      intro r mem
      have there : r.path ∈ later.map (·.path) := paths ▸ List.mem_map_of_mem mem
      obtain ⟨q, hq, equal⟩ := List.mem_map.1 there
      rw [path, ← equal]
      exact alone q hq
    obtain ⟨executable, content⟩ := held.content s.path s (split ▸ getLast?_filter_path alone)
    obtain ⟨executable', content'⟩ := stores'.content_path (fun s mem => path_of_mem_scripts mem)
      (split' ▸ getLast?_filter_path alone')
    rw [source] at content
    rw [path, source'] at content'
    exact ⟨lead, rest, executable, executable', content, content'⟩

theorem twoAsOne_regenerated : ∃ ss last ss' last',
    generate emptyShop {} [twoAsOne] (Traces.ofVolume leftBehind) = (.ok ss, last) ∧
    generate { emptyShop with clock := fun n => ⟨n + 1⟩ } {} [twoAsOne]
      (Traces.ofVolume last.volume) = (.ok ss', last') ∧
    ∃ lead rest executable executable',
      last.volume.entry? "generated/a-b.js" = some (.file (lead ++ "// Generated: " ++
        Timestamp.toText ⟨0⟩ ++ rest).toUTF8 executable) ∧
      last'.volume.entry? "generated/a-b.js" = some (.file (lead ++ "// Generated: " ++
        Timestamp.toText ⟨2⟩ ++ rest).toUTF8 executable') := by
  obtain ⟨a, b, last, generated, names, -⟩ := exists_generate_twoAsOne
  obtain ⟨first, more, dir, split, -, placed, again⟩ := regenerate_same_but_times generated
  obtain ⟨rfl, rfl⟩ := List.cons.inj split
  have undisturbed := undisturbed_leftBehind names placed
  have reliable : last.volume.Reliable := by
    intro k attempt _
    obtain ⟨-, -, saved⟩ := saveAll_of_generate generated
    have disk : last.volume.disk = leftBehind.disk := disk_of_saveAll saved
    rw [disk, leftBehind]
    simp only [Volume.set_disk, Volume.empty, Volume.bare]
  obtain ⟨ss', last', generated', same⟩ := again undisturbed reliable fun n => ⟨n + 1⟩
  have files := same.times [a] b [] rfl (by simp)
  rw [(names b (by simp)).1] at files
  exact ⟨_, last, ss', last', generated, generated', files⟩

/-- The volume that the scripts with a link between them leave behind has no link any more, so that
nothing disturbs the next generation. -/
theorem linkedScripts_settled {after : Volume}
    (saved : saveAll linkedScripts (scripts emptyShop {} [crossed]) = .ok after) :
    (∀ x ∈ after.entries, x.2.isLink = false) ∧
      (saveAll after (scripts emptyShop {} [crossed])).isOk = true ∧
      after.entry? "generated/b.js" = after.lookup ["work", "generated", "b.js"] ∧
      (∀ s ∈ scripts emptyShop {} [crossed], (prepared after "generated/b.js").place s.path =
        .ok (["work", "generated"] ++ [s.fileName])) ∧
      Undisturbed (prepared after "generated/b.js") ["work", "generated"]
        (scripts emptyShop {} [crossed]) := by
  have left_behind : (saveAll linkedScripts (scripts emptyShop {} [crossed])).toOption.all
      (fun after => decide (∀ x ∈ after.entries, x.2.isLink = false) &&
        (saveAll after (scripts emptyShop {} [crossed])).isOk &&
        decide (after.place "generated/b.js" = .ok ["work", "generated", "b.js"] ∧
          after.Unlinked ["work", "generated", "b.js"]) &&
        (scripts emptyShop {} [crossed]).all fun s =>
          let made := prepared after "generated/b.js"
          decide (made.place s.path = .ok (["work", "generated"] ++ [s.fileName])) &&
          decide (made.Alone (["work", "generated"] ++ [temporaryName s.fileName])) &&
          decide (made.Unlinked (["work", "generated"] ++ [s.fileName]))) = true := by
    decide +kernel
  rw [saved] at left_behind
  simp only [Except.toOption, Option.all_some, Bool.and_eq_true, decide_eq_true_eq,
    List.all_eq_true] at left_behind
  obtain ⟨⟨⟨no_link, isOk⟩, placed, unlinked⟩, plain⟩ := left_behind
  exact ⟨no_link, isOk, Volume.entry?_of_place placed unlinked, fun s mem => (plain s mem).1.1,
    undisturbed_of_unlinked (fun s mem => (plain s mem).1.1) (fun s mem => (plain s mem).1.2)
      fun s mem => (plain s mem).2⟩

/-- A script that was written over another one is in its own place after the next generation, and
was not before. -/
theorem linkedScripts_regenerated : ∃ b a c last last',
    generate emptyShop {} [crossed] (Traces.ofVolume linkedScripts) = (.ok [b, a, c], last) ∧
    generate emptyShop {} [crossed] (Traces.ofVolume last.volume) = (.ok [b, a, c], last') ∧
    (∀ x ∈ last.volume.entries, x.2.isLink = false) ∧ a.source ≠ b.source ∧
    (∃ executable, last.volume.entry? "generated/b.js" =
      some (.file a.source.toUTF8 executable)) ∧
    ∃ executable, last'.volume.entry? "generated/b.js" =
      some (.file b.source.toUTF8 executable) := by
  obtain ⟨b, a, c, last, generated, whole, saved, paths, differ⟩ := exists_generate_crossed
  obtain ⟨no_link, isOk, seen, places, undisturbed⟩ := linkedScripts_settled (whole ▸ saved)
  obtain ⟨last', regenerated, -⟩ := exists_generate emptyShop {} (by decide) isOk
  obtain ⟨executable, left_behind⟩ := linkedScripts_left paths whole saved
  have path_b : b.path = "generated/b.js" := paths.1.trans (by decide)
  have path_a : a.path = "generated/a.js" := paths.2.1.trans (by decide)
  have path_c : c.path = "generated/a.js" := paths.2.2.trans (by decide)
  rw [whole] at regenerated undisturbed places
  obtain ⟨first, rest, dir, split, -, placed, held⟩ := heldIn_of_generate regenerated
  obtain ⟨rfl, rfl⟩ := List.cons.inj split
  have here := places b List.mem_cons_self
  rw [path_b] at placed held here
  obtain rfl : ["work", "generated"] = dir :=
    List.append_inj_left' (Except.ok.inj (here.symm.trans placed)) rfl
  exact ⟨b, a, c, last, last', generated, regenerated, no_link, differ,
    ⟨executable, seen.trans left_behind⟩,
    (held undisturbed).content _ b (by simp [path_b, path_a, path_c])⟩

end Run

end LoadScript
