import LoadScript.Proofs.Script.Accumulation
import LoadScript.Proofs.Vocabulary.Closed
import Mathlib.Data.List.Nodup

/-!
# Closed modules

A module of steps of the vocabulary has all that its code is about: every symbol that the code
mentions is imported, every metric is declared, and every threshold is on a metric that there is.
What one definition brings along survives the merging with all others, because no two definitions
declare a metric in different ways.
-/

set_option autoImplicit false

namespace LoadScript

open Script Script.Lexer Vocabulary

/-! ## Metrics of the vocabulary -/

namespace Vocabulary

theorem metrics_eq_of_name {m n : Metric} (hm : m ∈ metrics) (hn : n ∈ metrics)
    (same : m.name = n.name) : m = n :=
  List.inj_on_of_nodup_map metrics_names_nodup hm hn same

theorem metrics_eq_of_externalName {m n : Metric} (hm : m ∈ metrics) (hn : n ∈ metrics)
    (same : m.externalName = n.externalName) : m = n :=
  List.inj_on_of_nodup_map metrics_externalNames_nodup hm hn same

theorem mem_metrics_of_builtin {d : Definition} {m : Metric} (hd : d ∈ builtin)
    (hm : m ∈ d.metrics) : m ∈ metrics :=
  builtin_metrics m (List.mem_flatMap.2 ⟨d, hd, hm⟩)

theorem mem_exported_of_builtin {d : Definition} {symbol : String} (hd : d ∈ builtin)
    (h : symbol ∈ d.imports) : symbol ∈ Import.exported :=
  builtin_imports symbol (List.mem_flatMap.2 ⟨d, hd, h⟩)

/-- Definitions that declare a metric of one name declare it in the same way. -/
def Agrees (v : Vocabulary) : Prop :=
  ∀ m ∈ v.flatMap (·.metrics), ∀ n ∈ v.flatMap (·.metrics), m.name = n.name → m = n

theorem builtin_agrees : Agrees builtin :=
  fun m hm n hn => metrics_eq_of_name (builtin_metrics m hm) (builtin_metrics n hn)

theorem mem_metrics_of_declared {v : Vocabulary} {p : Parameters} {steps : List Step} {m : Metric}
    (h : m ∈ declarations v p steps) : m ∈ v.flatMap (·.metrics) := by
  obtain ⟨⟨d, o⟩, found, hm⟩ := List.mem_flatMap.1 h
  obtain ⟨s, -, explained⟩ := mem_explained.1 found
  exact List.mem_flatMap.2 ⟨d, explain_mem explained, hm⟩

theorem mem_imports_of_mentions {d : Definition} {code symbol : String} (hd : d ∈ builtin)
    (within : Within d.names code) (known : symbol ∈ Import.exported)
    (mentioned : Mentions code symbol) : symbol ∈ d.imports := by
  have named := mem_of_mentions within (List.mem_append_left _ known) mentioned
  refine (List.mem_append.1 named).resolve_right fun metric => ?_
  obtain ⟨m, hm, rfl⟩ := List.mem_map.1 metric
  exact exported_not_metric _ known (List.mem_map_of_mem (mem_metrics_of_builtin hd hm))

theorem mem_metrics_of_mentions {d : Definition} {code : String} {m : Metric} (hd : d ∈ builtin)
    (within : Within d.names code) (known : m ∈ metrics) (mentioned : Mentions code m.name) :
    m ∈ d.metrics := by
  have mem : m.name ∈ metrics.map (·.name) := List.mem_map_of_mem known
  have named := mem_of_mentions within (List.mem_append_right _ mem) mentioned
  rcases List.mem_append.1 named with symbol | metric
  · exact absurd mem (exported_not_metric _ (mem_exported_of_builtin hd symbol))
  · obtain ⟨n, hn, same⟩ := List.mem_map.1 metric
    exact metrics_eq_of_name (mem_metrics_of_builtin hd hn) known same ▸ hn

end Vocabulary

/-! ## Drafts -/

namespace Draft

section AnyVocabulary

variable {v : Vocabulary} {p : Parameters} {steps : List Step}

theorem mem_declarations_of_ofSteps {m : Metric} (h : m ∈ (ofSteps v p steps).metrics) :
    m ∈ declarations v p steps := by
  rw [ofSteps_metrics] at h
  have last := (metricPolicy.collects_collect (declarations v p steps)).entries m h
  rw [metricPolicy_entry] at last
  exact (List.mem_filter.1 (List.mem_of_getLast? last)).1

theorem exists_ofSteps_of_declared {m : Metric} (h : m ∈ declarations v p steps) :
    ∃ n ∈ (ofSteps v p steps).metrics, n.name = m.name := by
  have names : m.name ∈ (metricPolicy.collect (declarations v p steps)).map (·.name) := by
    rw [show (metricPolicy.collect (declarations v p steps)).map (·.name) = _ from
      metricPolicy.collect_keys _]
    exact mem_distinct.2 (List.mem_map_of_mem h)
  rw [ofSteps_metrics]
  exact List.mem_map.1 names

/-- Where definitions agree, it does not matter which declaration of a name was the last. -/
theorem mem_ofSteps_metrics_iff (agree : Agrees v) {m : Metric} :
    m ∈ (ofSteps v p steps).metrics ↔ m ∈ declarations v p steps := by
  refine ⟨mem_declarations_of_ofSteps, fun h => ?_⟩
  obtain ⟨n, hn, same⟩ := exists_ofSteps_of_declared h
  have declared := mem_metrics_of_declared (mem_declarations_of_ofSteps hn)
  exact agree n declared m (mem_metrics_of_declared h) same ▸ hn

theorem rule_of_ofSteps {r : MetricRules} (h : r ∈ (ofSteps v p steps).thresholds) :
    r.rules ≠ [] ∧ ∀ rule ∈ r.rules, ⟨r.metric, rule⟩ ∈ bounds v p steps := by
  rw [ofSteps_thresholds] at h
  obtain ⟨metric, hmetric, rfl⟩ := List.mem_map.1 h
  obtain ⟨t, ht, rfl⟩ := List.mem_map.1 (mem_distinct.1 hmetric)
  exact ⟨List.ne_nil_of_mem (mem_rulesOn.2 ht), fun rule => mem_rulesOn.1⟩

end AnyVocabulary

variable {p : Parameters} {steps : List Step}

theorem builtin_of_explained {d : Definition} {o : Occurrence}
    (h : (d, o) ∈ explained builtin p steps) : d ∈ builtin ∧ o.step ∈ steps := by
  obtain ⟨s, hs, found⟩ := mem_explained.1 h
  exact ⟨explain_mem found, (explain_step found).1 ▸ hs⟩

theorem mem_metrics_of_ofSteps {m : Metric} (h : m ∈ (ofSteps builtin p steps).metrics) :
    m ∈ Vocabulary.metrics :=
  builtin_metrics m (mem_metrics_of_declared (mem_declarations_of_ofSteps h))

theorem mem_ofSteps_of_declared {m : Metric} {d : Definition} {o : Occurrence}
    (found : (d, o) ∈ explained builtin p steps) (hm : m ∈ d.metrics) :
    m ∈ (ofSteps builtin p steps).metrics :=
  (mem_ofSteps_metrics_iff builtin_agrees).2 (List.mem_flatMap.2 ⟨_, found, hm⟩)

theorem ofSteps_externalNames_nodup :
    ((ofSteps builtin p steps).metrics.map (·.externalName)).Nodup := by
  refine List.Nodup.map_on ?_ (ofSteps_metric_names_nodup builtin p steps).of_map
  intro m hm n hn same
  exact metrics_eq_of_externalName (mem_metrics_of_ofSteps hm) (mem_metrics_of_ofSteps hn) same

theorem required_exported :
    ∀ symbol ∈ (ofSteps builtin p steps).requiredSymbols, symbol ∈ Import.exported := by
  intro symbol h
  rw [requiredSymbols, ofSteps_symbols, List.mem_append] at h
  rcases h with needed | group
  · obtain ⟨⟨d, o⟩, found, hs⟩ := List.mem_flatMap.1 needed
    exact mem_exported_of_builtin (builtin_of_explained found).1 hs
  · split at group
    · rw [List.mem_singleton.1 group]
      decide
    · cases group

end Draft

/-! ## Modules -/

def WorkloadItem.code? : WorkloadItem → Option String
  | .group _ code => some code
  | .unrecognized _ => none

def Contributions.fragments (c : Contributions) : List String :=
  c.workload.filterMap WorkloadItem.code? ++ c.setup

/-- A module has what its code, its metrics and its thresholds need, and has it once. -/
structure ScriptModule.Closed (v : Vocabulary) (m : ScriptModule) : Prop where
  readable : ∀ code ∈ m.fragments, ClosedLines code
  imported : ∀ code ∈ m.fragments, ∀ symbol ∈ Import.exported, Mentions code symbol →
    (m.imports.flatMap Import.bound).count symbol = 1
  grouped : m.workload.any (·.isGroup) = true → (m.imports.flatMap Import.bound).count "group" = 1
  declared : ∀ code ∈ m.fragments, ∀ d ∈ v, ∀ metric ∈ d.metrics, Mentions code metric.name →
    metric ∈ m.metrics
  names : (m.metrics.map (·.name)).Nodup
  externalNames : (m.metrics.map (·.externalName)).Nodup
  classes : ∀ name, (∃ i ∈ m.imports, i.source = Import.metricsSource ∧ name ∈ i.bound) ↔
    ∃ metric ∈ m.metrics, metric.kind.className = name
  thresholds : ∀ r ∈ m.thresholds, r.rules ≠ [] ∧ (r.metric ∈ engineMetrics ∨
    ∃ metric ∈ m.metrics, metric.externalName = r.metric ∧
      ∀ rule ∈ r.rules, metric.kind.Fits rule)

namespace Draft

variable {p : Parameters} {steps : List Step}

theorem finish_fragments (d : Draft) (header : ScriptHeader) (profile : LoadProfile)
    (layout : ScriptLayout) : (d.finish header profile layout).fragments = d.fragments := rfl

/-- Every fragment goes with the names of the definition that it comes from. -/
theorem within_of_mem_fragments (plain : ∀ s ∈ steps, s.WithoutDocText) {code : String}
    (h : code ∈ (ofSteps builtin p steps).fragments) :
    ∃ d o, (d, o) ∈ explained builtin p steps ∧ Within d.names code := by
  rw [Contributions.fragments, ofSteps_workload, ofSteps_setup, List.filterMap_map,
    List.mem_append, mem_distinct] at h
  rcases h with group | setup
  · obtain ⟨s, hs, item⟩ := List.mem_filterMap.1 group
    rw [Function.comp_apply, itemOf] at item
    cases found : explain builtin p s with
    | none =>
      rw [found] at item
      cases item
    | some e =>
      obtain ⟨d, o⟩ := e
      rw [found] at item
      cases item
      have closed := builtin_closed d (explain_mem found)
      exact ⟨d, o, mem_explained.2 ⟨s, hs, found⟩,
        closed.code o ((explain_step found).1 ▸ plain s hs)⟩
  · obtain ⟨⟨d, o⟩, found, fragment⟩ := List.mem_filterMap.1 setup
    have closed := builtin_closed d (builtin_of_explained found).1
    exact ⟨d, o, found, closed.setup o code fragment⟩

theorem threshold_of_bounds {t : Threshold} (h : t ∈ bounds builtin p steps) :
    t.metric ∈ engineMetrics ∨ ∃ m ∈ (ofSteps builtin p steps).metrics,
      m.externalName = t.metric ∧ m.kind.Fits t.rule := by
  obtain ⟨⟨d, o⟩, found, threshold⟩ := List.mem_filterMap.1 h
  have closed := builtin_closed d (builtin_of_explained found).1
  exact (closed.threshold o t threshold).imp id fun ⟨m, hm, fits⟩ =>
    ⟨m, mem_ofSteps_of_declared found hm, fits⟩

theorem rules_of_thresholds {r : MetricRules} (h : r ∈ (ofSteps builtin p steps).thresholds) :
    r.rules ≠ [] ∧ (r.metric ∈ engineMetrics ∨ ∃ m ∈ (ofSteps builtin p steps).metrics,
      m.externalName = r.metric ∧ ∀ rule ∈ r.rules, m.kind.Fits rule) := by
  obtain ⟨some_rule, bounded⟩ := rule_of_ofSteps h
  refine ⟨some_rule, ?_⟩
  by_cases engine : r.metric ∈ engineMetrics
  · exact .inl engine
  · obtain ⟨first, rest, hrules⟩ := List.exists_cons_of_ne_nil some_rule
    have fitting (rule : String) (hrule : rule ∈ r.rules) :=
      (threshold_of_bounds (bounded rule hrule)).resolve_left engine
    obtain ⟨m, hm, same, -⟩ := fitting first (by simp [hrules])
    refine .inr ⟨m, hm, same, fun rule hrule => ?_⟩
    -- The other rules are on the same metric, since external names are never shared.
    obtain ⟨n, hn, again, fits⟩ := fitting rule hrule
    have one : n = m := metrics_eq_of_externalName (mem_metrics_of_ofSteps hn)
      (mem_metrics_of_ofSteps hm) (again.trans same.symm)
    exact one ▸ fits

/-- Modules of steps of the vocabulary are closed, and no symbol is left out. -/
theorem finish_ofSteps_closed (p : Parameters) (steps : List Step)
    (plain : ∀ s ∈ steps, s.WithoutDocText) (header : ScriptHeader) (profile : LoadProfile)
    (layout : ScriptLayout) :
    ((ofSteps builtin p steps).finish header profile layout).Closed builtin ∧
      ∀ symbol, .unknownSymbol symbol ∉ (ofSteps builtin p steps).warnings := by
  have once {symbol : String} (required : symbol ∈ (ofSteps builtin p steps).requiredSymbols) :
      (((ofSteps builtin p steps).finish header profile layout).imports.flatMap
        Import.bound).count symbol = 1 :=
    Import.count_resolve_bound (required_exported symbol required) required _ _
  constructor
  · exact {
      readable := by
        intro code h
        obtain ⟨d, o, -, within⟩ := within_of_mem_fragments plain h
        exact within.closedLines
      imported := by
        intro code h symbol known mentioned
        obtain ⟨d, o, found, within⟩ := within_of_mem_fragments plain h
        have needed := mem_imports_of_mentions (builtin_of_explained found).1 within known mentioned
        refine once (List.mem_append_left _ ?_)
        rw [ofSteps_symbols]
        exact List.mem_flatMap.2 ⟨_, found, needed⟩
      grouped := by
        intro grouped
        refine once (List.mem_append_right _ ?_)
        rw [if_pos (show (ofSteps builtin p steps).workload.any (·.isGroup) = true from grouped)]
        exact List.mem_singleton_self _
      declared := by
        intro code h d hd metric hmetric mentioned
        obtain ⟨e, o, found, within⟩ := within_of_mem_fragments plain h
        exact mem_ofSteps_of_declared found (mem_metrics_of_mentions (builtin_of_explained found).1
          within (mem_metrics_of_builtin hd hmetric) mentioned)
      names := ofSteps_metric_names_nodup builtin p steps
      externalNames := ofSteps_externalNames_nodup
      classes := by
        intro name
        refine Import.mem_metricsSource_bound.trans ?_
        simp only [List.mem_map, exists_exists_and_eq_and]
        rfl
      thresholds := fun r h => rules_of_thresholds h }
  · intro symbol h
    rw [warnings, Import.unknown_eq_nil required_exported] at h
    simp at h

def someLogin : Definition := builtin[0]

def confusingLogin : Step := ⟨"Given", "el usuario inicia sesión como \"sleep\"", none, none⟩

/-- The code of the login mentions `check`, which is imported once. -/
theorem confusingLogin_imports_check :
    let m := (ofSteps builtin .empty [confusingLogin]).finish ⟨"F", "S", none, "f", .empty, "now"⟩
      (.fixed 1 1) ⟨"lib", "reports", "s", "url"⟩
    (∀ s ∈ [confusingLogin], s.WithoutDocText) ∧
      ∃ code ∈ m.fragments, Mentions code "check" ∧
        (m.imports.flatMap Import.bound).count "check" = 1 := by
  intro m
  have plain : ∀ s ∈ [confusingLogin], s.WithoutDocText := by
    simp [confusingLogin, Step.WithoutDocText]
  have covered : someLogin.pattern.match? confusingLogin.text = some ["sleep"] := by decide +kernel
  have found : explain builtin .empty confusingLogin =
      some (someLogin, ⟨["sleep"], confusingLogin, .empty⟩) := by
    have first : find? (someLogin :: builtin.tail) confusingLogin.text =
        some ⟨someLogin, ["sleep"]⟩ := by
      simp [find?, covered]
    rw [explain, show find? builtin confusingLogin.text = _ from first]
    rfl
  have mem : someLogin.code ⟨["sleep"], confusingLogin, .empty⟩ ∈ m.fragments := by
    rw [finish_fragments, Contributions.fragments, ofSteps_workload, List.map_singleton, itemOf,
      found]
    exact List.mem_append_left _ (List.mem_singleton_self _)
  have mentioned : Mentions (someLogin.code ⟨["sleep"], confusingLogin, .empty⟩) "check" := by
    refine ⟨[], '(' :: (someLogin.code ⟨["sleep"], confusingLogin, .empty⟩).toList.drop 6, inCode [],
      by decide +kernel, rfl, rfl, by simp, ?_⟩
    rintro c ⟨⟩
    rfl
  have closed : m.Closed builtin := (finish_ofSteps_closed .empty [confusingLogin] plain
    ⟨"F", "S", none, "f", .empty, "now"⟩ (.fixed 1 1) ⟨"lib", "reports", "s", "url"⟩).1
  have known : "check" ∈ Import.exported := by decide
  exact ⟨plain, _, mem, mentioned, closed.imported _ mem "check" known mentioned⟩

end Draft

end LoadScript
