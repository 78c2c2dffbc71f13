import LoadScript.Run.Basic

/-!
# The calls of a run

What a run asks of its engine is compared with the replies the engine has for all calls in a row.
A run that gets as far as its scripts makes their calls in order and stops only at the first call
that the engine cannot start; every other run makes no call.
-/

set_option autoImplicit false

namespace LoadScript

namespace EngineReply

def Started (r : EngineReply) : Prop := ∃ outcome, r.result = .ok outcome

def succeeded (r : EngineReply) : Bool :=
  match r.result with
  | .ok outcome => outcome.success
  | .error _ => false

end EngineReply

namespace Engine

/-- The replies to calls that are made one after another, whatever is replied. -/
def replies (engine : Engine) (history : List EngineCall) (v : Volume) :
    List EngineCall → List EngineReply
  | [] => []
  | call :: rest =>
    let reply := engine.answer history call v
    reply :: engine.replies (history ++ [call]) reply.volume rest

/-- Of the calls, those up to the first that could not be started were made. The result is its
error, or else tells whether all scripts succeeded. -/
structure Session (engine : Engine) (v : Volume) (calls made : List EngineCall)
    (result : Except Error Nat) : Prop where
  finished : (∀ reply ∈ engine.replies [] v calls, reply.Started) →
    made = calls ∧
      result = .ok (if (engine.replies [] v calls).all EngineReply.succeeded then 0 else 1)
  stopped : ∀ before reply after e, engine.replies [] v calls = before ++ reply :: after →
    (∀ earlier ∈ before, earlier.Started) → reply.result = .error e →
    made = calls.take (before.length + 1) ∧ result = .error e

end Engine

namespace Script

/-- The state after all scripts are saved in order, or the error of the first that cannot be. -/
def saveAll (v : Volume) : List Script → Except Error Volume
  | [] => .ok v
  | script :: rest =>
    match save v script.path script.source with
    | (_, .error e) => .error e
    | (after, .ok ()) => saveAll after rest

end Script

namespace Traces

@[simp] theorem warn_volume (t : Traces) (ws : List Warning) : (t.warn ws).volume = t.volume := rfl

end Traces

namespace Summary

theorem failed_eq_zero_iff (s : Summary) :
    s.failed = 0 ↔ ∀ r ∈ s.results, r.outcome.success = true := by
  have bound : s.passed ≤ s.results.length := List.length_filter_le _ _
  rw [← List.length_filter_eq_length_iff]
  change s.results.length - s.passed = 0 ↔ s.passed = s.results.length
  omega

theorem exitCode_eq (s : Summary) :
    s.exitCode = if s.results.all (·.outcome.success) then 0 else 1 := by
  have none_failed := s.failed_eq_zero_iff
  rw [← List.all_eq_true] at none_failed
  by_cases all_passed : s.results.all (·.outcome.success) = true
  · rw [if_pos all_passed, exitCode, none_failed.2 all_passed, if_neg (Nat.lt_irrefl 0)]
  · have some_failed : s.failed ≠ 0 := fun h => all_passed (none_failed.1 h)
    rw [if_neg all_passed, exitCode, if_pos (Nat.pos_of_ne_zero some_failed)]

end Summary

namespace Run

def scriptsFrom (w : Workshop) (options : RunOptions) (number : Nat)
    (pairs : List (Feature × Scenario)) : List Script :=
  pairs.mapIdx fun i pair => scriptOf w options (number + i) pair.1 pair.2

def scripts (w : Workshop) (options : RunOptions) (fs : List Feature) : List Script :=
  scriptsFrom w options 0 (scenarios fs)

def callOf (env : Environment) (script : Script) : EngineCall := ⟨script.path, env⟩

theorem scriptsFrom_cons (w : Workshop) (options : RunOptions) (number : Nat)
    (pair : Feature × Scenario) (rest : List (Feature × Scenario)) :
    scriptsFrom w options number (pair :: rest) =
      scriptOf w options number pair.1 pair.2 :: scriptsFrom w options (number + 1) rest := by
  simp only [scriptsFrom, List.mapIdx_cons, Nat.add_zero, Nat.add_assoc, Nat.add_comm 1]

section Writing

variable (w : Workshop) (options : RunOptions)

theorem writeScripts_cons_ok {before : List Script} {t : Traces} {f : Feature} {s : Scenario}
    {after : Volume} (rest : List (Feature × Scenario))
    (saved : Script.save t.volume (scriptOf w options before.length f s).path
      (scriptOf w options before.length f s).source = (after, .ok ())) :
    ∃ next : Traces, next.calls = t.calls ∧ next.volume = after ∧
      writeScripts w options before t ((f, s) :: rest) =
        writeScripts w options (before ++ [scriptOf w options before.length f s]) next rest := by
  simp only [writeScripts, Traces.warn_volume, saved]
  refine ⟨_, ?_, ?_, rfl⟩
  · split <;> rfl
  · split <;> rfl

theorem writeScripts_cons_error {before : List Script} {t : Traces} {f : Feature} {s : Scenario}
    {after : Volume} {e : Error} (rest : List (Feature × Scenario))
    (refused : Script.save t.volume (scriptOf w options before.length f s).path
      (scriptOf w options before.length f s).source = (after, .error e)) :
    ∃ last : Traces, last.calls = t.calls ∧
      writeScripts w options before t ((f, s) :: rest) = (.error e, last) := by
  simp only [writeScripts, Traces.warn_volume, refused]
  refine ⟨_, ?_, rfl⟩
  rfl

theorem writeScripts_of_saveAll_ok (pairs : List (Feature × Scenario)) (before : List Script)
    (t : Traces) {after : Volume}
    (saved : Script.saveAll t.volume (scriptsFrom w options before.length pairs) = .ok after) :
    ∃ last : Traces, last.calls = t.calls ∧ last.volume = after ∧
      writeScripts w options before t pairs =
        (.ok (before ++ scriptsFrom w options before.length pairs), last) := by
  induction pairs generalizing before t with
  | nil =>
    cases saved
    exact ⟨t, rfl, rfl, by simp [writeScripts, scriptsFrom]⟩
  | cons pair rest ih =>
    obtain ⟨f, s⟩ := pair
    rw [scriptsFrom_cons, Script.saveAll] at saved
    split at saved
    · cases saved
    · rename_i first_saved
      obtain ⟨next, calls, volume, step⟩ := writeScripts_cons_ok w options rest first_saved
      obtain ⟨last, last_calls, last_volume, written⟩ :=
        ih (before ++ [scriptOf w options before.length f s]) next (by simpa [volume] using saved)
      refine ⟨last, last_calls.trans calls, last_volume, ?_⟩
      rw [step, written, scriptsFrom_cons]
      simp

theorem writeScripts_of_saveAll_error (pairs : List (Feature × Scenario)) (before : List Script)
    (t : Traces) {e : Error}
    (refused : Script.saveAll t.volume (scriptsFrom w options before.length pairs) = .error e) :
    ∃ last : Traces, last.calls = t.calls ∧
      writeScripts w options before t pairs = (.error e, last) := by
  induction pairs generalizing before t with
  | nil => cases refused
  | cons pair rest ih =>
    obtain ⟨f, s⟩ := pair
    rw [scriptsFrom_cons, Script.saveAll] at refused
    split at refused
    · rename_i first_refused
      cases refused
      exact writeScripts_cons_error w options rest first_refused
    · rename_i first_saved
      obtain ⟨next, calls, volume, step⟩ := writeScripts_cons_ok w options rest first_saved
      obtain ⟨last, last_calls, written⟩ :=
        ih (before ++ [scriptOf w options before.length f s]) next (by simpa [volume] using refused)
      exact ⟨last, last_calls.trans calls, step.trans written⟩

theorem generate_of_no_scenarios {fs : List Feature} (t : Traces) (empty : scenarios fs = []) :
    generate w options fs t = (.error .noScenarios, t) := by
  simp only [generate, empty, writeScripts]

theorem generate_of_saveAll_ok {fs : List Feature} (t : Traces) {after : Volume}
    (nonempty : scenarios fs ≠ [])
    (saved : Script.saveAll t.volume (scripts w options fs) = .ok after) :
    ∃ last : Traces, last.calls = t.calls ∧ last.volume = after ∧
      generate w options fs t = (.ok (scripts w options fs), last) := by
  obtain ⟨last, calls, volume, written⟩ :=
    writeScripts_of_saveAll_ok w options (scenarios fs) [] t saved
  refine ⟨last, calls, volume, ?_⟩
  have scripts_nonempty : scripts w options fs ≠ [] := by simpa [scripts, scriptsFrom] using nonempty
  simp only [generate, written, List.nil_append]
  split
  · rename_i nothing
    exact absurd (Except.ok.inj (Prod.mk.inj nothing).1) scripts_nonempty
  · rfl

theorem exists_generate {fs : List Feature} {v : Volume} (nonempty : scenarios fs ≠ [])
    (saves : (Script.saveAll v (scripts w options fs)).isOk = true) :
    ∃ last : Traces, generate w options fs (Traces.ofVolume v) = (.ok (scripts w options fs), last) ∧
      Script.saveAll v (scripts w options fs) = .ok last.volume := by
  cases saved : Script.saveAll v (scripts w options fs) with
  | error e =>
    rw [saved] at saves
    cases saves
  | ok after =>
    obtain ⟨last, -, rfl, generated⟩ :=
      generate_of_saveAll_ok w options (Traces.ofVolume v) nonempty saved
    exact ⟨last, generated, rfl⟩

theorem generate_of_saveAll_error {fs : List Feature} (t : Traces) {e : Error}
    (refused : Script.saveAll t.volume (scripts w options fs) = .error e) :
    ∃ last : Traces, last.calls = t.calls ∧ generate w options fs t = (.error e, last) := by
  obtain ⟨last, calls, written⟩ :=
    writeScripts_of_saveAll_error w options (scenarios fs) [] t refused
  exact ⟨last, calls, by simp only [generate, written]⟩

theorem generate_calls (fs : List Feature) (t : Traces) :
    (generate w options fs t).2.calls = t.calls := by
  by_cases empty : scenarios fs = []
  · rw [generate_of_no_scenarios w options t empty]
  · cases saving : Script.saveAll t.volume (scripts w options fs) with
    | error e =>
      obtain ⟨last, calls, generated⟩ := generate_of_saveAll_error w options t saving
      rw [generated, calls]
    | ok after =>
      obtain ⟨last, calls, -, generated⟩ := generate_of_saveAll_ok w options t empty saving
      rw [generated, calls]

end Writing

section Executing

variable (w : Workshop) (env : Environment) (unrecognized : List UnrecognizedStep)

theorem executeFrom_cons_ok (results : List ScenarioResult) {t : Traces} {script : Script}
    {outcome : Outcome} (rest : List Script)
    (started : (w.engine.answer t.calls (callOf env script) t.volume).result = .ok outcome) :
    ∃ next : Traces, next.calls = t.calls ++ [callOf env script] ∧
      next.volume = (w.engine.answer t.calls (callOf env script) t.volume).volume ∧
      executeFrom w env unrecognized results t (script :: rest) =
        executeFrom w env unrecognized (results ++ [⟨script.scenario, script.path, outcome⟩])
          next rest := by
  simp only [callOf] at started ⊢
  simp only [executeFrom, started]
  refine ⟨_, ?_, ?_, rfl⟩ <;> rfl

theorem executeFrom_cons_error (results : List ScenarioResult) {t : Traces} {script : Script}
    {e : Error} (rest : List Script)
    (refused : (w.engine.answer t.calls (callOf env script) t.volume).result = .error e) :
    ∃ last : Traces, last.calls = t.calls ++ [callOf env script] ∧
      executeFrom w env unrecognized results t (script :: rest) = (.error e, last) := by
  simp only [callOf] at refused ⊢
  simp only [executeFrom, refused]
  refine ⟨_, ?_, rfl⟩
  split <;> rfl

theorem executeFrom_of_started (scripts : List Script) (results : List ScenarioResult) (t : Traces)
    (started : ∀ reply ∈ w.engine.replies t.calls t.volume (scripts.map (callOf env)),
      reply.Started) :
    ∃ (more : List ScenarioResult) (last : Traces),
      last.calls = t.calls ++ scripts.map (callOf env) ∧
      more.all (·.outcome.success) =
        (w.engine.replies t.calls t.volume (scripts.map (callOf env))).all
          EngineReply.succeeded ∧
      executeFrom w env unrecognized results t scripts =
        (.ok ⟨results ++ more, unrecognized⟩, last) := by
  induction scripts generalizing results t with
  | nil => exact ⟨[], t, by simp, rfl, by simp [executeFrom]⟩
  | cons script rest ih =>
    simp only [List.map_cons, Engine.replies, List.forall_mem_cons] at started
    obtain ⟨⟨outcome, first⟩, others⟩ := started
    obtain ⟨next, calls, volume, step⟩ :=
      executeFrom_cons_ok w env unrecognized results rest first
    rw [← calls, ← volume] at others
    obtain ⟨more, last, last_calls, passed, ran⟩ := ih _ next others
    refine ⟨⟨script.scenario, script.path, outcome⟩ :: more, last, ?_, ?_, ?_⟩
    · rw [last_calls, calls, List.map_cons, List.append_assoc, List.singleton_append]
    · rw [List.all_cons, passed, List.map_cons, Engine.replies, List.all_cons, ← calls, ← volume]
      simp only [EngineReply.succeeded, first]
    · rw [step, ran, List.append_assoc, List.singleton_append]

theorem executeFrom_of_refused (scripts : List Script) (results : List ScenarioResult) (t : Traces)
    {before after : List EngineReply} {reply : EngineReply} {e : Error}
    (replies : w.engine.replies t.calls t.volume (scripts.map (callOf env)) =
      before ++ reply :: after)
    (started : ∀ earlier ∈ before, earlier.Started) (refused : reply.result = .error e) :
    ∃ last : Traces,
      last.calls = t.calls ++ (scripts.map (callOf env)).take (before.length + 1) ∧
      executeFrom w env unrecognized results t scripts = (.error e, last) := by
  induction scripts generalizing before results t with
  | nil => simp [Engine.replies] at replies
  | cons script rest ih =>
    simp only [List.map_cons, Engine.replies] at replies
    cases before with
    | nil =>
      obtain ⟨rfl, -⟩ := List.cons.inj replies
      obtain ⟨last, calls, ran⟩ :=
        executeFrom_cons_error w env unrecognized results rest refused
      exact ⟨last, by simpa using calls, ran⟩
    | cons earlier before =>
      obtain ⟨rfl, others⟩ := List.cons.inj replies
      obtain ⟨⟨outcome, first⟩, started⟩ := List.forall_mem_cons.1 started
      obtain ⟨next, calls, volume, step⟩ :=
        executeFrom_cons_ok w env unrecognized results rest first
      rw [← calls, ← volume] at others
      obtain ⟨last, last_calls, ran⟩ := ih _ next others started
      refine ⟨last, ?_, step.trans ran⟩
      rw [last_calls, calls]
      simp

end Executing

theorem execute_session (w : Workshop) (options : RunOptions) (ss : List Script) (t : Traces)
    (fresh : t.calls = []) :
    w.engine.Session t.volume (ss.map (callOf (environment w options)))
      (execute w options ss t).2.calls ((execute w options ss t).1.map Summary.exitCode) := by
  constructor
  · intro started
    rw [← fresh] at started ⊢
    obtain ⟨more, last, calls, passed, ran⟩ :=
      executeFrom_of_started w _ (UnrecognizedStep.ofScripts ss) ss [] t started
    rw [execute, ran]
    refine ⟨by simpa [fresh] using calls, ?_⟩
    rw [← passed]
    exact congrArg Except.ok (Summary.exitCode_eq _)
  · intro before reply after e replies started refused
    rw [← fresh] at replies
    obtain ⟨last, calls, ran⟩ :=
      executeFrom_of_refused w _ (UnrecognizedStep.ofScripts ss) ss [] t replies started refused
    rw [execute, ran]
    exact ⟨by simpa [fresh] using calls, rfl⟩

end Run

section Stages

variable {w : Workshop} {options : RunOptions} {target : String} {v : Volume}

theorem run_of_features_error {e : Error} (unread : Run.features v target options = .error e) :
    run w options target v = (.error e, Traces.ofVolume v) := by
  simp only [run, unread]

theorem run_of_generate_error {fs : List Feature} {e : Error} {t : Traces}
    (read : Run.features v target options = .ok fs) (further : options.parseOnly = false)
    (failed : Run.generate w options fs (Traces.ofVolume v) = (.error e, t)) :
    run w options target v = (.error e, t) := by
  simp only [run, read, further, failed, Bool.false_eq_true, if_false]

theorem run_of_generate_ok {fs : List Feature} {ss : List Script} {t : Traces}
    (read : Run.features v target options = .ok fs) (further : options.parseOnly = false)
    (generated : Run.generate w options fs (Traces.ofVolume v) = (.ok ss, t))
    (onward : options.generateOnly = false) :
    (run w options target v).1 = (Run.execute w options ss t).1.map Summary.exitCode ∧
      (run w options target v).2.calls = (Run.execute w options ss t).2.calls := by
  simp only [run, read, further, generated, onward, Bool.false_eq_true, if_false]
  split
  · rename_i executed
    rw [executed]
    exact ⟨rfl, rfl⟩
  · rename_i executed
    rw [executed]
    exact ⟨rfl, rfl⟩

theorem run_of_parseOnly (only : options.parseOnly = true) :
    (run w options target v).2.calls = [] ∧ (run w options target v).2.volume = v := by
  simp only [run]
  split
  · exact ⟨rfl, rfl⟩
  · rw [if_pos only]
    exact ⟨rfl, rfl⟩

theorem run_calls_of_generateOnly (only : options.generateOnly = true) :
    (run w options target v).2.calls = [] := by
  simp only [run]
  split
  · rfl
  · rename_i fs _
    have unchanged := Run.generate_calls w options fs (Traces.ofVolume v)
    split
    · rfl
    · split
      · rename_i generated
        rw [generated] at unchanged
        exact unchanged
      · rename_i generated
        rw [generated] at unchanged
        exact unchanged

end Stages

/-- What a run does is decided by its options and by the first stage that fails. Only a run that is
to go on after writing, and can, asks its engine; then for each script once, in order, in one
environment. -/
theorem run_calls_and_result (w : Workshop) (options : RunOptions) (target : String) (v : Volume) :
    (options.parseOnly = true →
      (run w options target v).2.calls = [] ∧ (run w options target v).2.volume = v) ∧
    (options.generateOnly = true → (run w options target v).2.calls = []) ∧
    (∀ e, Run.features v target options = .error e →
      (run w options target v).1 = .error e ∧ (run w options target v).2.calls = []) ∧
    ∀ fs, Run.features v target options = .ok fs → options.parseOnly = false →
      (Run.scenarios fs = [] →
        (run w options target v).1 = .error .noScenarios ∧
          (run w options target v).2.calls = []) ∧
      (∀ e, Script.saveAll v (Run.scripts w options fs) = .error e →
        (run w options target v).1 = .error e ∧ (run w options target v).2.calls = []) ∧
      ∀ after, Run.scenarios fs ≠ [] →
        Script.saveAll v (Run.scripts w options fs) = .ok after → options.generateOnly = false →
        w.engine.Session after
          ((Run.scripts w options fs).map
            (Run.callOf (w.settings.defaultEnvironment.merge options.overrides)))
          (run w options target v).2.calls (run w options target v).1 := by
  refine ⟨run_of_parseOnly, run_calls_of_generateOnly, ?_, ?_⟩
  · intro e unread
    rw [run_of_features_error unread]
    exact ⟨rfl, rfl⟩
  · intro fs read further
    refine ⟨?_, ?_, ?_⟩
    · intro empty
      rw [run_of_generate_error read further (Run.generate_of_no_scenarios w options _ empty)]
      exact ⟨rfl, rfl⟩
    · intro e refused
      obtain ⟨last, calls, failed⟩ :=
        Run.generate_of_saveAll_error w options (Traces.ofVolume v) refused
      rw [run_of_generate_error read further failed]
      exact ⟨rfl, calls⟩
    · intro after nonempty saved onward
      obtain ⟨last, calls, volume, generated⟩ :=
        Run.generate_of_saveAll_ok w options (Traces.ofVolume v) nonempty saved
      obtain ⟨result, made⟩ := run_of_generate_ok read further generated onward
      rw [result, made, ← volume]
      exact Run.execute_session w options _ last calls

def startsOnce : Engine where
  answer history _ v :=
    { result := if history.isEmpty then .ok (.finished (some 0) "" "" 5)
        else .error (.unstartable "k6" "gone")
      volume := v
      warnings := [] }

def emptyShop : Workshop :=
  { vocabulary := [], settings := Settings.defaults, engine := startsOnce, clock := fun _ => ⟨0⟩ }

def threeScenarios : Volume :=
  Volume.empty.set ["work", "a.feature"]
    (.file "Feature: F\n Scenario: A\n Scenario: B\n Scenario: C\n".toUTF8 false)

def readScenarios : List Feature :=
  (Run.features threeScenarios "a.feature" {}).toOption.getD []

theorem eq_ok_of_isOk {ε α : Type} {x : Except ε α} (default : α) (h : x.isOk = true) :
    x = .ok (x.toOption.getD default) := by
  cases x with
  | error e => cases h
  | ok a => rfl

theorem startsOnce_refuses_second_script :
    (run emptyShop {} "a.feature" threeScenarios).2.calls.map (·.script) =
        ["generated/a.js", "generated/b.js"] ∧
      (run emptyShop {} "a.feature" threeScenarios).1 = .error (.unstartable "k6" "gone") := by
  have read : Run.features threeScenarios "a.feature" {} = .ok readScenarios :=
    eq_ok_of_isOk [] (by decide +kernel)
  have saved := eq_ok_of_isOk (x := Script.saveAll threeScenarios
    (Run.scripts emptyShop {} readScenarios)) threeScenarios (by decide +kernel)
  have paths : (Run.scripts emptyShop {} readScenarios).map (·.path) =
      ["generated/a.js", "generated/b.js", "generated/c.js"] := by
    decide +kernel
  obtain ⟨-, -, -, stages⟩ := run_calls_and_result emptyShop {} "a.feature" threeScenarios
  obtain ⟨-, -, goes_on⟩ := stages _ read rfl
  have session := goes_on _ (by decide +kernel) saved rfl
  revert session paths
  generalize Run.scripts emptyShop {} readScenarios = ss
  intro paths session
  obtain - | ⟨a, - | ⟨b, rest⟩⟩ := ss
  · cases paths
  · cases (List.cons.inj paths).2
  · obtain ⟨path_a, path_b, -⟩ : a.path = "generated/a.js" ∧ b.path = "generated/b.js" ∧ _ := by
      simpa using paths
    obtain ⟨made, result⟩ := session.stopped [_] _ _ _ rfl
      (List.forall_mem_singleton.2 ⟨_, rfl⟩) rfl
    refine ⟨?_, result⟩
    rw [made]
    simp [Run.callOf, path_a, path_b]

end LoadScript
