import LoadScript.Proofs.Number.Printing
import LoadScript.Proofs.Vocabulary.Unambiguous

set_option autoImplicit false

namespace LoadScript

namespace Pattern

theorem length_of_mem_readings {p : Pattern} {s rest : List Char} {parts : List (List Char)}
    (h : (parts, rest) ∈ p.readings s) : parts.length = p.captures := by
  induction p generalizing s rest parts with
  | text w =>
    obtain ⟨_, -, same⟩ := List.mem_map.1 h
    cases same
    rfl
  | anyOf chars =>
    unfold readings at h
    split at h
    · split at h
      · cases List.mem_singleton.1 h
        rfl
      · cases h
    · cases h
  | oneOf words =>
    obtain ⟨_, -, same⟩ := List.mem_map.1 h
    cases same
    rfl
  | atLeast n cls =>
    obtain ⟨_, -, same⟩ := List.mem_map.1 h
    cases same
    rfl
  | exactly n cls =>
    unfold readings at h
    split at h
    · cases List.mem_singleton.1 h
      rfl
    · cases h
  | maybe p ih =>
    obtain taken | left := List.mem_append.1 h
    · exact ih taken
    · cases List.mem_singleton.1 left
      exact List.length_replicate
  | capture p ih =>
    obtain ⟨⟨inner, rest'⟩, mem, same⟩ := List.mem_map.1 h
    cases same
    rw [List.length_cons, ih mem]
    rfl
  | seq p q ihp ihq =>
    obtain ⟨⟨first, rest'⟩, mem, more⟩ := List.mem_flatMap.1 h
    obtain ⟨⟨second, last⟩, mem', same⟩ := List.mem_map.1 more
    cases same
    rw [List.length_append, ihp mem, ihq mem']
    rfl

theorem length_of_match? {p : Pattern} {s : String} {parts : List String}
    (h : p.match? s = some parts) : parts.length = p.captures := by
  obtain ⟨⟨texts, rest⟩, found, rfl⟩ := Option.map_eq_some_iff.1 h
  rw [List.length_map]
  exact length_of_mem_readings (List.mem_of_find?_eq_some found)

end Pattern

namespace Vocabulary

open Chars Numeral

/-- The texts that numbers are written into, and the numbers. -/
inductive Writes : String → List String → Prop
  | sleep (n : String) : Writes ("sleep(" ++ n ++ ");") [n]
  | sleepBetween (a b : String) :
      Writes ("sleep(" ++ a ++ " + Math.random() * (" ++ b ++ " - " ++ a ++ "));") [a, b]
  | status (n : String) : Writes (r"check(res, { 'status is " ++ n ++
      "': (r) => Boolean(r) && r.status === " ++ n ++ r" });") [n]
  | percentile (a b : String) : Writes ("p(" ++ a ++ ")<" ++ b) [a, b]
  | bound {subject : String} (n : String) :
      subject ∈ ["p(95)<", "rate<", "rate>", "rate>=", "count>="] → Writes (subject ++ n) [n]
  | comment (metric : String) {rule : String} {numbers : List String} : Writes rule numbers →
      Writes ("// threshold: " ++ metric ++ " " ++ rule) numbers

/-! ## Waits, checks and bounds -/

/-- The step writes a number for each text that it captured, as bounded as this text. -/
def WritesCaptured (o : Occurrence) (text : String) : Prop :=
  ∃ numbers, Writes text numbers ∧
    List.Forall₂ (fun n t => AsBounded n (pointed t)) numbers o.captures

def CaptureWriting (d : Definition) : Prop :=
  ∀ o : Occurrence, o.captures.length = d.pattern.captures → WritesCaptured o (d.code o) ∧
    ∀ threshold, d.thresholdOf o = some threshold → WritesCaptured o threshold.rule

theorem forall₂_one {o : Occurrence} (one : o.captures.length = 1) {n : String}
    (h : AsBounded n (pointed (o.capture 0))) :
    List.Forall₂ (fun n t => AsBounded n (pointed t)) [n] o.captures := by
  obtain ⟨t, captured⟩ := List.length_eq_one_iff.1 one
  rw [Occurrence.capture, captured] at h
  rw [captured]
  exact .cons h .nil

theorem forall₂_two {o : Occurrence} (two : o.captures.length = 2) {m n : String}
    (first : AsBounded m (pointed (o.capture 0))) (second : AsBounded n (pointed (o.capture 1))) :
    List.Forall₂ (fun n t => AsBounded n (pointed t)) [m, n] o.captures := by
  obtain ⟨t, u, captured⟩ := List.length_eq_two.1 two
  rw [Occurrence.capture, captured] at first second
  rw [captured]
  exact .cons first (.cons second .nil)

/-- Reading the numeral of a percentage back keeps it as bounded as it was. -/
theorem percent_isFinite_iff (o : Occurrence) : (Expectations.percent o).Proper ∧
    ((Expectations.percent o).IsFinite ↔ ¬ Boundless (pointed (o.capture 0))) := by
  have zero_proper : (Binary64.zero false).Proper := ⟨Nat.two_pow_pos 53, by decide⟩
  have written : AsBounded (Expectations.numeral o 0 0) (pointed (o.capture 0)) :=
    asBounded_ofTextOr _ (by decide)
  have read := readBinary64_getD zero_proper trivial (Expectations.numeral o 0 0).toList
  rw [written.boundless_iff] at read
  exact read

theorem asBounded_ratio (o : Occurrence) :
    AsBounded (Expectations.ratio o) (pointed (o.capture 0)) := by
  have read := percent_isFinite_iff o
  have hundred : 0 < 100 := by omega
  unfold Expectations.ratio
  generalize Expectations.percent o = x at *
  refine asBounded_ofBinary64 (Binary64.divNat_proper read.1 hundred) ?_
  rw [Binary64.divNat_isFinite_iff read.1 hundred, read.2]

theorem fixed_writes {p : Pattern} (one : p.captures = 1) : CaptureWriting (ThinkTime.fixed p) := by
  intro o captured
  refine ⟨⟨_, .sleep _, forall₂_one (captured.trans one) ?_⟩, ?_⟩
  · exact asBounded_ofTextOr _ (by decide)
  · rintro threshold ⟨⟩

theorem ranged_writes {p : Pattern} (two : p.captures = 2) :
    CaptureWriting (ThinkTime.ranged p) := by
  intro o captured
  refine ⟨⟨_, .sleepBetween _ _, forall₂_two (captured.trans two) ?_ ?_⟩, ?_⟩
  · exact asBounded_ofTextOr _ (by decide)
  · exact asBounded_ofTextOr _ (by decide)
  · rintro threshold ⟨⟩

theorem status_writes {p : Pattern} (one : p.captures = 1) :
    CaptureWriting (Expectations.status p) := by
  intro o captured
  have text (n : String) : Script.checkStatement "res" ("status is " ++ n)
      ("(r) => Boolean(r) && r.status === " ++ n) = r"check(res, { 'status is " ++ n ++
        "': (r) => Boolean(r) && r.status === " ++ n ++ r" });" := by
    have opening : r"check(res, { 'status is " = "check(" ++ ("res" ++ (", " ++
        (r"{ " ++ ("'" ++ "status is ")))) := rfl
    have middle : "': (r) => Boolean(r) && r.status === " =
        "': " ++ "(r) => Boolean(r) && r.status === " := rfl
    have closing : r" });" = r" }" ++ ");" := rfl
    rw [opening, middle, closing]
    simp only [Script.checkStatement, Script.braced, String.append_assoc]
  have writes := Writes.status (Expectations.numeral o 0 200)
  rw [← text] at writes
  refine ⟨⟨_, writes, forall₂_one (captured.trans one) ?_⟩, ?_⟩
  · exact asBounded_ofTextOr _ (by decide)
  · rintro threshold ⟨⟩

theorem bound_writes {description metric : String} {rule : Occurrence → String}
    {metrics : List Metric} {p : Pattern}
    (h : ∀ o : Occurrence, o.captures.length = p.captures → WritesCaptured o (rule o)) :
    CaptureWriting (Expectations.bound description metric rule metrics p) := by
  intro o captured
  obtain ⟨numbers, writes, bounded⟩ := h o captured
  refine ⟨⟨numbers, .comment metric writes, bounded⟩, ?_⟩
  rintro threshold ⟨⟩
  exact ⟨numbers, writes, bounded⟩

section

variable {p : Pattern} {o : Occurrence} (captured : o.captures.length = p.captures)
include captured

theorem percentileRule_writes (two : p.captures = 2) :
    WritesCaptured o (Expectations.percentileRule o) := by
  refine ⟨_, .percentile _ _, forall₂_two (captured.trans two) ?_ ?_⟩
  · exact asBounded_ofTextOr _ (by decide)
  · exact asBounded_ofTextOr _ (by decide)

theorem numeralRule_writes (one : p.captures = 1) {subject : String}
    (known : subject ∈ ["p(95)<", "rate<", "rate>", "rate>=", "count>="]) {n : Nat}
    (small : n < tenTo 15) : WritesCaptured o (subject ++ Expectations.numeral o 0 n) :=
  ⟨_, .bound _ known, forall₂_one (captured.trans one) (asBounded_ofTextOr _ small)⟩

theorem ratioRule_writes (one : p.captures = 1) {subject : String}
    (known : subject ∈ ["p(95)<", "rate<", "rate>", "rate>=", "count>="]) :
    WritesCaptured o (subject ++ Expectations.ratio o) :=
  ⟨_, .bound _ known, forall₂_one (captured.trans one) (asBounded_ratio o)⟩

end

theorem thinkTime_writes : ∀ d ∈ ThinkTime.definitions, CaptureWriting d := by
  simp only [ThinkTime.definitions, ThinkTime.sentences, List.forall_mem_map, List.forall_mem_cons,
    List.not_mem_nil, false_implies, implies_true]
  exact ⟨ranged_writes rfl, fixed_writes rfl, ranged_writes rfl, fixed_writes rfl, trivial⟩

theorem expectation_writes : ∀ d ∈ Expectations.definitions, CaptureWriting d := by
  simp only [Expectations.definitions, Expectations.sentences, List.forall_mem_map, List.forall_mem_cons,
    List.not_mem_nil, false_implies, implies_true]
  refine ⟨status_writes rfl, status_writes rfl, ?_, ?_, ?_, ?_, ?_, ?_, ?_, ?_, ?_, ?_, ?_, trivial⟩
  · exact bound_writes fun _ h => percentileRule_writes h rfl
  · exact bound_writes fun _ h => numeralRule_writes h rfl (by decide) (by decide)
  · exact bound_writes fun _ h => percentileRule_writes h rfl
  · exact bound_writes fun _ h => numeralRule_writes h rfl (by decide) (by decide)
  · exact bound_writes fun _ h => percentileRule_writes h rfl
  · exact bound_writes fun _ h => numeralRule_writes h rfl (by decide) (by decide)
  · exact bound_writes fun _ h => ratioRule_writes h rfl (by decide)
  · exact bound_writes fun _ h => ratioRule_writes h rfl (by decide)
  · exact bound_writes fun _ h => ratioRule_writes h rfl (by decide)
  · exact bound_writes fun _ h => numeralRule_writes h rfl (by decide) (by decide)
  · exact bound_writes fun _ h => numeralRule_writes h rfl (by decide) (by decide)

/-! ## Requests -/

def thresholdNumber (value : String) : List Char := trim (dropUnit (trim value.toList))

/-- The step writes one number, which is finite unless its parameter is boundless. -/
def WritesParameter (o : Occurrence) (text : String) : Prop :=
  ∃ n, Writes text [n] ∧
    ((∀ value, o.parameters.get? "threshold" = some value → ¬ Boundless (thresholdNumber value)) →
      FiniteNumeral n.toList) ∧
    ∀ value, o.parameters.get? "threshold" = some value → Boundless (thresholdNumber value) →
      Boundless n.toList

def ParameterWriting (d : Definition) : Prop :=
  ∀ o threshold, d.thresholdOf o = some threshold → WritesParameter o threshold.rule

theorem latencyThreshold_writes {o : Occurrence} {metric : String} {default : Option String}
    (usual : ∀ n, default = some n → FiniteNumeral n.toList) {threshold : Threshold}
    (bounded : o.latencyThreshold metric default = some threshold) :
    WritesParameter o threshold.rule := by
  obtain ⟨number, chosen, rfl⟩ := Option.map_eq_some_iff.1 bounded
  have writes : Writes ("p(95)<" ++ number) [number] := .bound number (.head _)
  refine ⟨number, writes, ?_⟩
  simp only [Occurrence.thresholdText?] at chosen
  cases given : o.parameters.get? "threshold" with
  | none =>
    rw [given] at chosen
    refine ⟨fun _ => usual number chosen, ?_⟩
    rintro value ⟨⟩
  | some value =>
    rw [given, Option.bind_some] at chosen
    change ((if (readBinary64 (thresholdNumber value)).isSome then
      some (String.ofList (thresholdNumber value)) else none).or default) = some number at chosen
    cases read : readBinary64 (thresholdNumber value) with
    | none =>
      simp only [read, Option.isSome_none, Bool.false_eq_true, if_false, Option.none_or] at chosen
      refine ⟨fun _ => usual number chosen, ?_⟩
      rintro value ⟨⟩ boundless
      obtain ⟨x, read', -⟩ := boundless.exists_read
      rw [read] at read'
      cases read'
    | some x =>
      simp only [read, Option.isSome_some, if_true, Option.some_or, Option.some.injEq] at chosen
      rw [← chosen, String.toList_ofList]
      have finite := isFinite_of_read read
      refine ⟨fun unlike => finite.1.1 (finite.2.2 (unlike value rfl)), ?_⟩
      rintro value ⟨⟩ boundless
      exact boundless

theorem parameterWriting_of_none {d : Definition} (h : d.threshold = none) :
    ParameterWriting d := by
  intro o threshold given
  rw [Definition.thresholdOf, h] at given
  cases given

theorem parameterWriting_of_latency {d : Definition} {metric : String} {default : Option String}
    (usual : ∀ n, default = some n → FiniteNumeral n.toList)
    (h : d.threshold = some fun o => o.latencyThreshold metric default) : ParameterWriting d := by
  intro o threshold given
  rw [Definition.thresholdOf, h] at given
  exact latencyThreshold_writes usual given

theorem request_writes : ∀ d ∈ Login.definitions ++ Products.definitions ++ Users.definitions ++
    Orders.definitions, ParameterWriting d := by
  have usual (n : String) (h : some "500" = some n) : FiniteNumeral n.toList := by
    cases h
    exact finiteNumeral_repr false (n := 500) (by decide)
  have missing (n : String) (h : none = some n) : FiniteNumeral n.toList := by
    cases h
  simp only [List.forall_mem_append, Login.definitions, Login.sentences, Products.definitions,
    Products.sentences, Users.definitions, Users.sentences, Orders.definitions, Orders.sentences,
    List.forall_mem_map, List.forall_mem_cons, List.not_mem_nil, false_implies, implies_true]
  have login (p : Pattern) := parameterWriting_of_none (d := Login.login p) rfl
  have health (p : Pattern) := parameterWriting_of_none (d := Login.health p) rfl
  have seed (p : Pattern) := parameterWriting_of_none (d := Products.seed p) rfl
  have search (p : Pattern) := parameterWriting_of_latency usual (d := Products.search p) rfl
  have products (p : Pattern) := parameterWriting_of_latency missing (d := Products.list p) rfl
  have detail (p : Pattern) := parameterWriting_of_none (d := Products.detail p) rfl
  have profile (p : Pattern) := parameterWriting_of_latency missing (d := Users.profile p) rfl
  have users (p : Pattern) := parameterWriting_of_none (d := Users.list p) rfl
  have create (p : Pattern) := parameterWriting_of_latency missing (d := Orders.create p) rfl
  have orders (p : Pattern) := parameterWriting_of_none (d := Orders.list p) rfl
  exact ⟨⟨⟨⟨login _, login _, health _, health _, trivial⟩, seed _, search _, search _, products _,
    products _, detail _, trivial⟩, profile _, profile _, users _, trivial⟩, create _, create _,
    orders _, trivial⟩

/-- Each number that a step writes is a finite numeral, unless the text that it comes from is
boundless: then so is the number. Waits, checks and bounds write what they captured, requests the
parameter. -/
theorem written_numbers_as_bounded (d : Definition) (o : Occurrence)
    (recognized : builtin.find? o.step.text = some ⟨d, o.captures⟩) :
    (d ∈ ThinkTime.definitions ++ Expectations.definitions → WritesCaptured o (d.code o) ∧
      ∀ threshold, d.thresholdOf o = some threshold → WritesCaptured o threshold.rule) ∧
    (d ∉ ThinkTime.definitions ++ Expectations.definitions →
      ∀ threshold, d.thresholdOf o = some threshold → WritesParameter o threshold.rule) := by
  obtain ⟨e, mem, matched⟩ := List.exists_of_findSome?_eq_some recognized
  obtain ⟨captures, covered, same⟩ := Option.map_eq_some_iff.1 matched
  cases same
  constructor
  · intro writing
    obtain ⟨s, hs, pattern⟩ := exists_sentence mem
    have number_of_captures : o.captures.length = d.pattern.captures := by
      rw [pattern] at covered ⊢
      exact Pattern.length_of_match? covered
    obtain waits | expects := List.mem_append.1 writing
    · exact thinkTime_writes d waits o number_of_captures
    · exact expectation_writes d expects o number_of_captures
  · intro other threshold bounded
    rw [builtin_eq] at mem
    exact request_writes d ((List.mem_append.1 mem).resolve_right other) o threshold bounded

def shortWait : Occurrence where
  captures := ["0.5"]
  step := .make "And" "user waits 0.5 second" none none
  parameters := .empty

theorem shortWait_written :
    builtin.find? shortWait.step.text = some ⟨fixedWait, shortWait.captures⟩ ∧
      ∃ n, Writes (fixedWait.code shortWait) [n] ∧ FiniteNumeral n.toList := by
  have covered : fixedWait.pattern.match? shortWait.step.text = some ["0.5"] := by decide +kernel
  have recognized : builtin.find? shortWait.step.text = some ⟨fixedWait, shortWait.captures⟩ :=
    builtin_unambiguous.find?_of_match? (List.getElem_mem _) covered
  have waits : fixedWait ∈ ThinkTime.definitions ++ Expectations.definitions :=
    List.mem_append_left _ (List.mem_of_getElem? (i := 3) rfl)
  obtain ⟨⟨numbers, writes, bounded⟩, -⟩ :=
    (written_numbers_as_bounded fixedWait shortWait recognized).1 waits
  have read : ∃ x, readBinary64 (pointed "0.5") = some x ∧ x.IsFinite := ⟨_, rfl, trivial⟩
  obtain ⟨x, read, finite⟩ := read
  cases bounded with
  | cons first rest =>
    cases rest
    exact ⟨recognized, _, writes, first.1 ((isFinite_of_read read).2.1 finite)⟩

def unboundedSearch : Occurrence where
  captures := ["x"]
  step := .make "When" "user searches for \"x\"" none none
  parameters := .ofList [("threshold", "NaN")]

theorem unboundedSearch_written :
    builtin.find? unboundedSearch.step.text = some ⟨builtin[6], unboundedSearch.captures⟩ ∧
      builtin[6].thresholdOf unboundedSearch = some ⟨"product_search_duration", "p(95)<NaN"⟩ ∧
      ¬ FiniteNumeral "NaN".toList := by
  have covered : builtin[6].pattern.match? unboundedSearch.step.text = some ["x"] := by
    decide +kernel
  have word : Boundless "NaN".toList :=
    ⟨[], false, _, rfl, .absent, .inl (.tail _ (.tail _ (.head _)))⟩
  refine ⟨?_, by decide +kernel, word.not_finiteNumeral⟩
  exact builtin_unambiguous.find?_of_match? (List.getElem_mem _) covered

end Vocabulary

end LoadScript
