import LoadScript.Proofs.Keyed
import LoadScript.Proofs.Script.Imports
import LoadScript.Script.Assembly

/-!
# What the steps of a script add up to

A draft is built step by step, and each of its tables is merged in a way of its own. Here is what
comes out, said about all steps at once: every step is one item of the workload, the last
declaration of a metric counts, and rules and setup fragments are those of the recognised steps,
each where it came first.
-/

set_option autoImplicit false

namespace LoadScript

namespace Vocabulary

/-- The definition that explains a step, with what it sees of the step. -/
def explain (v : Vocabulary) (p : Parameters) (s : Step) : Option (Definition × Occurrence) :=
  (v.find? s.text).map fun found => (found.definition, ⟨found.captures, s, p⟩)

def explained (v : Vocabulary) (p : Parameters) (steps : List Step) :
    List (Definition × Occurrence) :=
  steps.filterMap (explain v p)

def itemOf (v : Vocabulary) (p : Parameters) (s : Step) : WorkloadItem :=
  match explain v p s with
  | some (d, o) => .group s.label (d.code o)
  | none => .unrecognized s.label

def declarations (v : Vocabulary) (p : Parameters) (steps : List Step) : List Metric :=
  (explained v p steps).flatMap fun e => e.1.metrics

def bounds (v : Vocabulary) (p : Parameters) (steps : List Step) : List Threshold :=
  (explained v p steps).filterMap fun e => e.1.thresholdOf e.2

def preparations (v : Vocabulary) (p : Parameters) (steps : List Step) : List String :=
  (explained v p steps).filterMap fun e => e.1.setupOf e.2

def needs (v : Vocabulary) (p : Parameters) (steps : List Step) : List String :=
  (explained v p steps).flatMap fun e => e.1.imports

theorem explain_step {v : Vocabulary} {p : Parameters} {s : Step} {d : Definition}
    {o : Occurrence} (h : explain v p s = some (d, o)) : o.step = s ∧ o.parameters = p := by
  obtain ⟨found, -, rfl, rfl⟩ := by simpa [explain] using h
  exact ⟨rfl, rfl⟩

theorem explain_mem {v : Vocabulary} {p : Parameters} {s : Step} {d : Definition}
    {o : Occurrence} (h : explain v p s = some (d, o)) : d ∈ v := by
  obtain ⟨found, hfound, rfl, rfl⟩ := by simpa [explain] using h
  obtain ⟨e, he, hmatch⟩ := List.exists_of_findSome?_eq_some hfound
  obtain ⟨captures, -, rfl⟩ := Option.map_eq_some_iff.1 hmatch
  exact he

theorem mem_explained {v : Vocabulary} {p : Parameters} {steps : List Step} {d : Definition}
    {o : Occurrence} : (d, o) ∈ explained v p steps ↔ ∃ s ∈ steps, explain v p s = some (d, o) :=
  List.mem_filterMap

end Vocabulary

namespace Draft

open Vocabulary Keyed

/-! ## One step -/

theorem push_of_explain_some {v : Vocabulary} {p : Parameters} {s : Step} {e : Definition}
    {o : Occurrence} (d : Draft) (h : explain v p s = some (e, o)) :
    push v p d s = d.addRecognized e o := by
  obtain ⟨found, hfound, rfl, rfl⟩ := by simpa [explain] using h
  unfold push
  rw [hfound]

theorem push_of_explain_none {v : Vocabulary} {p : Parameters} {s : Step} (d : Draft)
    (h : explain v p s = none) : push v p d s = d.addUnrecognized s.label := by
  have unknown : v.find? s.text = none := by simpa [explain] using h
  unfold push
  rw [unknown]

/-! ## All steps -/

theorem foldl_push_workload (v : Vocabulary) (p : Parameters) (steps : List Step) (d : Draft) :
    (steps.foldl (push v p) d).workload = d.workload ++ steps.map (itemOf v p) := by
  induction steps generalizing d with
  | nil => simp
  | cons s steps ih =>
    have item : (push v p d s).workload = d.workload ++ [itemOf v p s] := by
      cases h : explain v p s with
      | none =>
        rw [push_of_explain_none d h, itemOf, h]
        rfl
      | some found =>
        obtain ⟨e, o⟩ := found
        rw [push_of_explain_some d h, itemOf, h, ← (explain_step h).1]
        rfl
    rw [List.foldl_cons, ih, item, List.map_cons, List.append_assoc, List.singleton_append]

/-- A table that only recognised steps change is what they make of it one after another. -/
theorem foldl_push_table {τ : Type} (table : Draft → τ) (next : τ → Definition × Occurrence → τ)
    (recognized : ∀ d e o, table (d.addRecognized e o) = next (table d) (e, o))
    (unrecognized : ∀ d label, table (d.addUnrecognized label) = table d)
    (v : Vocabulary) (p : Parameters) (steps : List Step) (d : Draft) :
    table (steps.foldl (push v p) d) = (explained v p steps).foldl next (table d) := by
  induction steps generalizing d with
  | nil => rfl
  | cons s steps ih =>
    rw [List.foldl_cons, ih]
    unfold explained
    cases h : explain v p s with
    | none => rw [push_of_explain_none d h, List.filterMap_cons_none h, unrecognized]
    | some found =>
      obtain ⟨e, o⟩ := found
      rw [push_of_explain_some d h, List.filterMap_cons_some h, List.foldl_cons, recognized]

/-! ## The tables -/

def metricPolicy : Policy Metric Metric String := .replacing (·.name)

def rulePolicy : Policy Threshold MetricRules String where
  key := (·.metric)
  inputKey := (·.metric)
  fresh t := ⟨t.metric, [t.rule]⟩
  change t r := { r with rules := appendNew t.rule r.rules }
  key_fresh _ := rfl
  key_change _ _ _ := rfl

theorem declareMetric_eq_add (m : Metric) (ms : List Metric) :
    declareMetric m ms = metricPolicy.add ms m := by
  induction ms with
  | nil => rfl
  | cons n rest ih =>
    rw [declareMetric, ih]
    rfl

theorem addThreshold_eq_add (t : Threshold) (rs : List MetricRules) :
    addThreshold t rs = rulePolicy.add rs t := by
  induction rs with
  | nil => rfl
  | cons r rest ih =>
    rw [addThreshold, ih]
    rfl

theorem foldl_appendNew (ss : List String) :
    ss.foldl (fun done s => appendNew s done) [] = distinct ss := by
  induction ss using List.reverseRecOn with
  | nil => rfl
  | append_singleton ss s ih =>
    rw [List.foldl_append, ih, distinct_concat]
    simp [appendNew, mem_distinct]

/-- The last declaration of a name. -/
def lastDeclaration (declared : List Metric) (name : String) : Option Metric :=
  (declared.filter fun m => m.name = name).getLast?

theorem metricPolicy_entry (declared : List Metric) (name : String) :
    metricPolicy.entry declared name = lastDeclaration declared name :=
  Policy.replacing_entry (fun m : Metric => m.name) declared name

/-- The rules on a metric, each where it came first. -/
def rulesOn (metric : String) (ts : List Threshold) : MetricRules :=
  ⟨metric, distinct ((ts.filter fun t => t.metric = metric).map (·.rule))⟩

theorem mem_rulesOn {metric rule : String} {ts : List Threshold} :
    rule ∈ (rulesOn metric ts).rules ↔ ⟨metric, rule⟩ ∈ ts := by
  simp only [rulesOn, mem_distinct, List.mem_map, List.mem_filter, decide_eq_true_eq]
  constructor
  · rintro ⟨t, ⟨ht, rfl⟩, rfl⟩
    exact ht
  · intro ht
    exact ⟨_, ⟨ht, rfl⟩, rfl⟩

theorem rulePolicy_entry {ts : List Threshold} {metric : String}
    (bounded : metric ∈ ts.map (·.metric)) :
    rulePolicy.entry ts metric = some (rulesOn metric ts) := by
  -- Only thresholds on the metric count, and each of them adds its rule to those before.
  have run (us : List Threshold) (only : ∀ t ∈ us, t.metric = metric) (some_rule : us ≠ []) :
      us.foldl rulePolicy.advance none = some ⟨metric, distinct (us.map (·.rule))⟩ := by
    induction us using List.reverseRecOn with
    | nil => exact absurd rfl some_rule
    | append_singleton us t ih =>
      have last : t.metric = metric := only t (by simp)
      rw [List.foldl_append, List.map_append, List.map_cons, List.map_nil, distinct_concat]
      cases us with
      | nil => simp [Policy.advance, rulePolicy, distinct, last]
      | cons u us =>
        rw [ih (fun w hw => only w (List.mem_append_left _ hw)) (List.cons_ne_nil u us)]
        simp [Policy.advance, rulePolicy, appendNew, mem_distinct]
  refine run _ (fun t ht => of_decide_eq_true (List.mem_filter.1 ht).2) ?_
  obtain ⟨t, ht, rfl⟩ := List.mem_map.1 bounded
  exact List.ne_nil_of_mem (List.mem_filter.2 ⟨ht, by simp [rulePolicy]⟩)

/-! ## Drafts -/

section OfSteps

variable (v : Vocabulary) (p : Parameters) (steps : List Step)

theorem ofSteps_workload : (ofSteps v p steps).workload = steps.map (itemOf v p) :=
  foldl_push_workload v p steps empty

theorem ofSteps_symbols : (ofSteps v p steps).symbols = needs v p steps := by
  have run := foldl_push_table (·.symbols) (fun ss e => ss ++ e.1.imports)
    (fun _ _ _ => rfl) (fun _ _ => rfl) v p steps empty
  rw [ofSteps, run, needs, List.flatMap_eq_foldl]
  rfl

theorem ofSteps_metrics :
    (ofSteps v p steps).metrics = metricPolicy.collect (declarations v p steps) := by
  have run := foldl_push_table (·.metrics)
    (fun ms e => e.1.metrics.foldl (fun ms m => declareMetric m ms) ms)
    (fun _ _ _ => rfl) (fun _ _ => rfl) v p steps empty
  rw [ofSteps, run, Policy.collect, declarations, List.foldl_flatMap]
  simp only [declareMetric_eq_add]
  rfl

theorem ofSteps_thresholds_collect :
    (ofSteps v p steps).thresholds = rulePolicy.collect (bounds v p steps) := by
  have run := foldl_push_table (·.thresholds)
    (fun rs e => (e.1.thresholdOf e.2).elim rs (addThreshold · rs))
    (fun _ _ _ => rfl) (fun _ _ => rfl) v p steps empty
  rw [ofSteps, run, Policy.collect, bounds, List.foldl_filterMap]
  simp only [addThreshold_eq_add]
  congr 1
  funext rs e
  cases e.1.thresholdOf e.2 <;> rfl

theorem ofSteps_thresholds : (ofSteps v p steps).thresholds =
    (distinct ((bounds v p steps).map (·.metric))).map fun metric =>
      rulesOn metric (bounds v p steps) := by
  have table := rulePolicy.collect_map_some (bounds v p steps)
  have entries : (distinct ((bounds v p steps).map (·.metric))).map
      (rulePolicy.entry (bounds v p steps)) =
      ((distinct ((bounds v p steps).map (·.metric))).map fun metric =>
        rulesOn metric (bounds v p steps)).map some := by
    rw [List.map_map]
    exact List.map_congr_left fun metric h => rulePolicy_entry (mem_distinct.1 h)
  rw [ofSteps_thresholds_collect]
  exact List.map_injective_iff.2 (fun _ _ h => Option.some.inj h) (table.trans entries)

theorem ofSteps_setup : (ofSteps v p steps).setup = distinct (preparations v p steps) := by
  have run := foldl_push_table (·.setup)
    (fun ss e => (e.1.setupOf e.2).elim ss (appendNew · ss))
    (fun _ _ _ => rfl) (fun _ _ => rfl) v p steps empty
  rw [ofSteps, run, ← foldl_appendNew, preparations, List.foldl_filterMap]
  congr 1
  funext ss e
  cases e.1.setupOf e.2 <;> rfl

theorem ofSteps_metric_names_nodup : ((ofSteps v p steps).metrics.map (·.name)).Nodup := by
  rw [ofSteps_metrics]
  exact metricPolicy.collect_keys_nodup _

theorem ofSteps_threshold_metrics_nodup :
    ((ofSteps v p steps).thresholds.map (·.metric)).Nodup := by
  rw [ofSteps_thresholds_collect]
  exact rulePolicy.collect_keys_nodup _

end OfSteps

/-! ## A step that is there already -/

/-- All that a recognised step contributes besides its code is there already. -/
structure Covers (d : Draft) (e : Definition) (o : Occurrence) : Prop where
  metrics : ∀ m ∈ e.metrics, m ∈ d.metrics
  threshold : ∀ t, e.thresholdOf o = some t → ∃ r ∈ d.thresholds, r.metric = t.metric ∧ t.rule ∈ r.rules
  setup : ∀ fragment, e.setupOf o = some fragment → fragment ∈ d.setup
  symbols : ∀ symbol ∈ e.imports, symbol ∈ d.symbols
  grouped : d.workload.any (·.isGroup) = true

theorem covers_of_mem {v : Vocabulary} {p : Parameters} {steps : List Step} {s : Step}
    {e : Definition} {o : Occurrence} (mem : s ∈ steps) (h : explain v p s = some (e, o))
    (agree : ∀ m ∈ e.metrics, m ∈ (ofSteps v p steps).metrics) :
    (ofSteps v p steps).Covers e o := by
  have found : (e, o) ∈ explained v p steps := mem_explained.2 ⟨s, mem, h⟩
  refine ⟨agree, ?_, ?_, ?_, ?_⟩
  · intro t ht
    have bound : t ∈ bounds v p steps := List.mem_filterMap.2 ⟨_, found, ht⟩
    rw [ofSteps_thresholds]
    refine ⟨rulesOn t.metric (bounds v p steps), ?_, rfl, ?_⟩
    · exact List.mem_map_of_mem (mem_distinct.2 (List.mem_map_of_mem bound))
    · exact mem_rulesOn.2 bound
  · intro fragment hf
    rw [ofSteps_setup, mem_distinct]
    exact List.mem_filterMap.2 ⟨_, found, hf⟩
  · intro symbol hs
    rw [ofSteps_symbols]
    exact List.mem_flatMap.2 ⟨_, found, hs⟩
  · rw [ofSteps_workload, List.any_map, List.any_eq_true]
    refine ⟨s, mem, ?_⟩
    rw [Function.comp_apply, itemOf, h]
    rfl

theorem declareMetrics_eq_self {ms declared : List Metric} (nodup : (ms.map (·.name)).Nodup)
    (agree : ∀ m ∈ declared, m ∈ ms) :
    declared.foldl (fun ms m => declareMetric m ms) ms = ms := by
  induction declared with
  | nil => rfl
  | cons m declared ih =>
    have same : declareMetric m ms = ms := by
      rw [declareMetric_eq_add]
      exact upsert_eq_self (agree m (by simp)) nodup rfl
    rw [List.foldl_cons, same]
    exact ih fun n hn => agree n (by simp [hn])

theorem addThreshold_eq_self {rs : List MetricRules} {t : Threshold} {r : MetricRules}
    (nodup : (rs.map (·.metric)).Nodup) (mem : r ∈ rs) (metric : r.metric = t.metric)
    (known : t.rule ∈ r.rules) : addThreshold t rs = rs := by
  rw [addThreshold_eq_add, Policy.add]
  change upsert _ t.metric _ _ _ = _
  rw [← metric]
  exact upsert_eq_self mem nodup (by simp [rulePolicy, appendNew, known])

/-- A step whose contributions are there already adds an item to the workload, and asks for symbols
that were asked for before. -/
theorem Covers.addRecognized_eq {d : Draft} {e : Definition} {o : Occurrence} (h : d.Covers e o)
    (names : (d.metrics.map (·.name)).Nodup) (metrics : (d.thresholds.map (·.metric)).Nodup) :
    d.addRecognized e o =
      { d with
        workload := d.workload ++ [.group o.step.label (e.code o)]
        symbols := d.symbols ++ e.imports } := by
  have thresholds : (e.thresholdOf o).elim d.thresholds (addThreshold · d.thresholds) =
      d.thresholds := by
    cases ht : e.thresholdOf o with
    | none => rfl
    | some t =>
      obtain ⟨r, hr, metric, known⟩ := h.threshold t ht
      exact addThreshold_eq_self metrics hr metric known
  have setup : (e.setupOf o).elim d.setup (appendNew · d.setup) = d.setup := by
    cases hs : e.setupOf o with
    | none => rfl
    | some fragment => simp [appendNew, h.setup fragment hs]
  rw [addRecognized, declareMetrics_eq_self names h.metrics, thresholds, setup]

theorem Covers.finish_addRecognized {d : Draft} {e : Definition} {o : Occurrence}
    (h : d.Covers e o) (names : (d.metrics.map (·.name)).Nodup)
    (metrics : (d.thresholds.map (·.metric)).Nodup) (header : ScriptHeader) (profile : LoadProfile)
    (layout : ScriptLayout) :
    (d.addRecognized e o).finish header profile layout =
      { d.finish header profile layout with
        workload := d.workload ++ [.group o.step.label (e.code o)] } := by
  have required : ∀ x, x ∈ (d.addRecognized e o).requiredSymbols ↔ x ∈ d.requiredSymbols := by
    intro x
    have before : d.requiredSymbols = d.symbols ++ ["group"] := by
      simp [requiredSymbols, h.grouped]
    have after : (d.addRecognized e o).requiredSymbols = d.symbols ++ e.imports ++ ["group"] := by
      simp [requiredSymbols, addRecognized, WorkloadItem.isGroup]
    have known := h.symbols x
    rw [before, after, List.mem_append, List.mem_append, List.mem_append]
    tauto
  have imports := Import.resolve_congr required (fun k => Iff.rfl (a := k ∈ d.metrics.map (·.kind)))
    layout.libraryDir
  rw [h.addRecognized_eq names metrics] at imports ⊢
  simp [finish, imports]

end Draft

namespace Contributions

open Vocabulary Draft

/-- The contributions of the steps, said about all steps at once. -/
structure Meaning (v : Vocabulary) (p : Parameters) (steps : List Step) (c : Contributions) :
    Prop where
  workload : c.workload = steps.map (itemOf v p)
  metrics : c.metrics.map some =
    ((declarations v p steps).map (·.name)).eraseDups.map
      (lastDeclaration (declarations v p steps))
  thresholds : c.thresholds =
    ((bounds v p steps).map (·.metric)).eraseDups.map fun metric =>
      ⟨metric, (((bounds v p steps).filter fun t => t.metric = metric).map (·.rule)).eraseDups⟩
  setup : c.setup = (preparations v p steps).eraseDups

/-- Nothing is there twice. -/
structure Irredundant (c : Contributions) : Prop where
  metricNames : (c.metrics.map (·.name)).Nodup
  thresholdMetrics : (c.thresholds.map (·.metric)).Nodup
  rules : ∀ r ∈ c.thresholds, r.rules.Nodup
  setup : c.setup.Nodup

theorem ofSteps_meaning (v : Vocabulary) (p : Parameters) (steps : List Step) :
    Meaning v p steps (ofSteps v p steps).toContributions where
  workload := ofSteps_workload v p steps
  metrics := by
    rw [ofSteps_metrics, metricPolicy.collect_map_some, ← distinct_eq_eraseDups]
    exact List.map_congr_left fun name _ => metricPolicy_entry _ name
  thresholds := by
    rw [ofSteps_thresholds, ← distinct_eq_eraseDups]
    simp only [rulesOn, distinct_eq_eraseDups]
  setup := by rw [ofSteps_setup, distinct_eq_eraseDups]

theorem ofSteps_irredundant (v : Vocabulary) (p : Parameters) (steps : List Step) :
    Irredundant (ofSteps v p steps).toContributions where
  metricNames := ofSteps_metric_names_nodup v p steps
  thresholdMetrics := ofSteps_threshold_metrics_nodup v p steps
  rules := by
    intro r hr
    rw [ofSteps_thresholds] at hr
    obtain ⟨metric, -, rfl⟩ := List.mem_map.1 hr
    exact distinct_nodup _
  setup := by
    rw [ofSteps_setup]
    exact distinct_nodup _

end Contributions

namespace Draft

open Vocabulary

/-- A module has what its steps contribute, nothing twice. A step that is there already adds no more
than an item to the workload, unless it declares a metric otherwise than it is declared now. -/
theorem finish_ofSteps_accumulates (v : Vocabulary) (p : Parameters) (steps : List Step)
    (header : ScriptHeader) (profile : LoadProfile) (layout : ScriptLayout) :
    let m := (ofSteps v p steps).finish header profile layout
    m.toContributions.Meaning v p steps ∧ m.toContributions.Irredundant ∧
      ∀ s ∈ steps, (∀ e o, explain v p s = some (e, o) → ∀ n ∈ e.metrics, n ∈ m.metrics) →
        (push v p (ofSteps v p steps) s).finish header profile layout =
          { m with workload := m.workload ++ [itemOf v p s] } := by
  refine ⟨Contributions.ofSteps_meaning v p steps, Contributions.ofSteps_irredundant v p steps, ?_⟩
  intro s mem agree
  cases h : explain v p s with
  | none =>
    rw [push_of_explain_none _ h, itemOf, h]
    simp [finish, addUnrecognized, requiredSymbols, WorkloadItem.isGroup]
  | some found =>
    obtain ⟨e, o⟩ := found
    have covers := covers_of_mem mem h (agree e o h)
    rw [push_of_explain_some _ h, covers.finish_addRecognized
      (ofSteps_metric_names_nodup v p steps) (ofSteps_threshold_metrics_nodup v p steps), itemOf, h,
      (explain_step h).1]
    rfl

def declaring (word : String) (metric : Metric) : Definition where
  pattern := word
  description := word
  imports := ["sleep"]
  metrics := [metric]
  code := fun _ => "sleep(1);"
  setup := some fun _ => "sleep(2);"
  threshold := some fun _ => some ⟨metric.externalName, "count>=1"⟩

def rivals : Vocabulary :=
  [declaring "a" (.trend "orders" "old_orders"), declaring "b" (.counter "orders" "orders")]

def secondRival : Step := ⟨"When", "b", none, none⟩

def rivalSteps : List Step := [⟨"When", "a", none, none⟩, secondRival]

/-- The second declaration is the current one, so its step may be repeated freely. -/
theorem rivals_second_repeats :
    let m := (ofSteps rivals .empty rivalSteps).finish ⟨"F", "S", none, "f", .empty, "now"⟩
      (.fixed 1 1) ⟨"lib", "reports", "s", "url"⟩
    secondRival ∈ rivalSteps ∧ m.metrics = [.counter "orders" "orders"] ∧
      (push rivals .empty (ofSteps rivals .empty rivalSteps) secondRival).finish
          ⟨"F", "S", none, "f", .empty, "now"⟩ (.fixed 1 1) ⟨"lib", "reports", "s", "url"⟩ =
        { m with workload := m.workload ++ [.group "When b" "sleep(1);"] } := by
  have found : explain rivals .empty secondRival =
      some (declaring "b" (.counter "orders" "orders"), ⟨[], secondRival, .empty⟩) := rfl
  have item : itemOf rivals .empty secondRival = .group "When b" "sleep(1);" := by
    rw [itemOf, found]
    rfl
  have current : (ofSteps rivals .empty rivalSteps).metrics = [.counter "orders" "orders"] := rfl
  have mem : secondRival ∈ rivalSteps := by decide
  have again := (finish_ofSteps_accumulates rivals .empty rivalSteps
    ⟨"F", "S", none, "f", .empty, "now"⟩ (.fixed 1 1) ⟨"lib", "reports", "s", "url"⟩).2.2 _ mem
  rw [item] at again
  refine ⟨mem, current, again ?_⟩
  intro e o h
  rw [found] at h
  cases h
  exact List.forall_mem_singleton.2 (current ▸ List.mem_singleton.2 rfl)

end Draft

end LoadScript
