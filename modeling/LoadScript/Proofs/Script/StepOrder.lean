import LoadScript.Proofs.Script.Closed
import Mathlib.Data.List.Perm.Basic

/-!
# The order of steps

The steps of a scenario are merged one after another, and the order shows: tables list what came
first in front, and of two declarations of a metric the later one counts. What a module imports,
declares, bounds and prepares is nevertheless settled by which steps there are, as long as the
definitions agree on the metrics that they share.
-/

set_option autoImplicit false

namespace LoadScript

open Vocabulary

theorem distinct_perm {α : Type} [DecidableEq α] {l k : List α} (same : l.Perm k) :
    (distinct l).Perm (distinct k) := by
  rw [List.perm_ext_iff_of_nodup (distinct_nodup l) (distinct_nodup k)]
  intro a
  rw [mem_distinct, mem_distinct, same.mem_iff]

namespace Contributions

def allRules (c : Contributions) : List Threshold :=
  c.thresholds.flatMap fun r => r.rules.map fun rule => ⟨r.metric, rule⟩

theorem Irredundant.allRules_nodup {c : Contributions} (h : c.Irredundant) : c.allRules.Nodup := by
  refine List.nodup_flatMap.2 ⟨fun r hr => ?_, ?_⟩
  · exact (h.rules r hr).map fun a b same => by simpa using same
  · refine (List.pairwise_map.1 h.thresholdMetrics).imp fun {r s} apart => ?_
    intro t on_r on_s
    obtain ⟨a, -, rfl⟩ := List.mem_map.1 on_r
    obtain ⟨b, -, same⟩ := List.mem_map.1 on_s
    exact apart (congrArg Threshold.metric same).symm

end Contributions

/-- The modules differ at most in the order of what steps contributed. -/
structure ScriptModule.Reordered (m n : ScriptModule) : Prop where
  imports : m.imports = n.imports
  metrics : m.metrics.Perm n.metrics
  rules : m.allRules.Perm n.allRules
  setup : m.setup.Perm n.setup
  workload : m.workload.Perm n.workload

namespace Draft

section SameSteps

variable {v : Vocabulary} {p : Parameters} {steps others : List Step}

theorem mem_allRules_iff {t : Threshold} :
    t ∈ (ofSteps v p steps).allRules ↔ t ∈ bounds v p steps := by
  simp only [Contributions.allRules, ofSteps_thresholds, List.mem_flatMap, List.mem_map,
    mem_distinct]
  constructor
  · rintro ⟨_, ⟨metric, -, rfl⟩, rule, mem, rfl⟩
    exact mem_rulesOn.1 mem
  · intro mem
    exact ⟨_, ⟨t.metric, ⟨t, mem, rfl⟩, rfl⟩, t.rule, mem_rulesOn.2 mem, rfl⟩

theorem explained_perm (same : steps.Perm others) :
    (explained v p steps).Perm (explained v p others) := same.filterMap _

theorem ofSteps_workload_perm (same : steps.Perm others) :
    (ofSteps v p steps).workload.Perm (ofSteps v p others).workload := by
  rw [ofSteps_workload, ofSteps_workload]
  exact same.map _

theorem ofSteps_metrics_perm (agree : Agrees v) (same : steps.Perm others) :
    (ofSteps v p steps).metrics.Perm (ofSteps v p others).metrics := by
  rw [List.perm_ext_iff_of_nodup (ofSteps_metric_names_nodup v p steps).of_map
    (ofSteps_metric_names_nodup v p others).of_map]
  intro m
  rw [mem_ofSteps_metrics_iff agree, mem_ofSteps_metrics_iff agree]
  exact ((explained_perm same).flatMap_right _).mem_iff

theorem ofSteps_allRules_perm (same : steps.Perm others) :
    (ofSteps v p steps).allRules.Perm (ofSteps v p others).allRules := by
  rw [List.perm_ext_iff_of_nodup (Contributions.ofSteps_irredundant v p steps).allRules_nodup
    (Contributions.ofSteps_irredundant v p others).allRules_nodup]
  intro t
  rw [mem_allRules_iff, mem_allRules_iff]
  exact ((explained_perm same).filterMap _).mem_iff

theorem ofSteps_setup_perm (same : steps.Perm others) :
    (ofSteps v p steps).setup.Perm (ofSteps v p others).setup := by
  rw [ofSteps_setup, ofSteps_setup]
  exact distinct_perm ((explained_perm same).filterMap _)

theorem requiredSymbols_perm (same : steps.Perm others) :
    (ofSteps v p steps).requiredSymbols.Perm (ofSteps v p others).requiredSymbols := by
  unfold requiredSymbols
  rw [ofSteps_symbols, ofSteps_symbols, (ofSteps_workload_perm same).any_eq]
  exact ((explained_perm same).flatMap_right _).append_right _

theorem finish_reordered_of_agrees (agree : Agrees v) (same : steps.Perm others)
    (header : ScriptHeader) (profile : LoadProfile) (layout : ScriptLayout) :
    ((ofSteps v p steps).finish header profile layout).Reordered
      ((ofSteps v p others).finish header profile layout) where
  imports := Import.resolve_congr (fun _ => (requiredSymbols_perm same).mem_iff)
    (fun _ => ((ofSteps_metrics_perm agree same).map _).mem_iff) layout.libraryDir
  metrics := ofSteps_metrics_perm agree same
  rules := ofSteps_allRules_perm same
  setup := ofSteps_setup_perm same
  workload := ofSteps_workload_perm same

end SameSteps

/-- The vocabulary agrees on its metrics, so the order of steps only shows in the order of what they
contribute; imports do not show it at all. -/
theorem finish_ofSteps_reordered (p : Parameters) {steps others : List Step}
    (same : steps.Perm others) (header : ScriptHeader) (profile : LoadProfile)
    (layout : ScriptLayout) :
    ((ofSteps builtin p steps).finish header profile layout).Reordered
      ((ofSteps builtin p others).finish header profile layout) :=
  finish_reordered_of_agrees builtin_agrees same header profile layout

def searchThenOrders : List Step := [
  ⟨"When", "user searches for \"a\"", none, none⟩,
  ⟨"And", "the moon turns blue", none, none⟩,
  ⟨"Then", "se deben crear al menos 2 pedidos", none, none⟩]

theorem searchThenOrders_reversed :
    searchThenOrders.Perm searchThenOrders.reverse ∧ searchThenOrders ≠ searchThenOrders.reverse ∧
      ((ofSteps builtin .empty searchThenOrders).finish ⟨"F", "S", none, "f", .empty, "now"⟩
        (.fixed 1 1) ⟨"lib", "reports", "s", "url"⟩).Reordered
      ((ofSteps builtin .empty searchThenOrders.reverse).finish
        ⟨"F", "S", none, "f", .empty, "now"⟩ (.fixed 1 1) ⟨"lib", "reports", "s", "url"⟩) := by
  have same : searchThenOrders.Perm searchThenOrders.reverse := (List.reverse_perm _).symm
  exact ⟨same, by decide, finish_ofSteps_reordered .empty same _ _ _⟩

end Draft

end LoadScript
