import LoadScript.Script.Import
import Mathlib.Data.List.Nodup

set_option autoImplicit false

namespace LoadScript.Import

theorem contains_congr {α : Type} [DecidableEq α] {a b : List α} (h : ∀ x, x ∈ a ↔ x ∈ b) :
    a.contains = b.contains := by
  funext x
  rw [Bool.eq_iff_iff, List.contains_iff_mem, List.contains_iff_mem, h]

theorem resolve_congr {a b : List String} {kinds others : List MetricKind}
    (symbols : ∀ x, x ∈ a ↔ x ∈ b) (same_kinds : ∀ k, k ∈ kinds ↔ k ∈ others)
    (libraryDir : String) : resolve a kinds libraryDir = resolve b others libraryDir := by
  unfold resolve Module.import? metricClasses?
  rw [contains_congr symbols, contains_congr same_kinds]

/-! ## Bound names -/

def bound (i : Import) : List String := i.defaultName.toList ++ i.names

def exported : List String := modules.flatMap Module.exports

theorem isKnown_iff {symbol : String} : isKnown symbol = true ↔ symbol ∈ exported := by
  simp [isKnown, exported]

section Resolve

variable (required : List String) (kinds : List MetricKind) (libraryDir : String)

def Module.selection (m : Module) : Import :=
  ⟨m.defaultName.filter required.contains, m.names.filter required.contains, m.source libraryDir⟩

theorem selection_bound (m : Module) :
    (m.selection required libraryDir).bound = m.exports.filter required.contains := by
  rw [bound, Module.selection, Module.exports, List.filter_append, ← Option.toList_filter]

theorem import?_eq (m : Module) : m.import? required libraryDir =
    if (m.selection required libraryDir).bound = [] then none
    else some (m.selection required libraryDir) := by
  unfold Module.import? Module.selection bound
  cases m.defaultName.filter required.contains <;>
    cases m.names.filter required.contains <;> rfl

theorem import?_eq_some_iff {m : Module} {i : Import} : m.import? required libraryDir = some i ↔
    i = m.selection required libraryDir ∧ i.bound ≠ [] := by
  rw [import?_eq]
  constructor
  · intro h
    split at h
    · cases h
    · cases h
      exact ⟨rfl, ‹_›⟩
  · rintro ⟨rfl, nonempty⟩
    rw [if_neg nonempty]

theorem import?_bound (m : Module) :
    (m.import? required libraryDir).toList.flatMap bound =
      m.exports.filter required.contains := by
  rw [import?_eq, ← selection_bound required libraryDir]
  split
  · rename_i empty
    rw [empty]
    rfl
  · simp

theorem filterMap_import?_bound (ms : List Module) :
    (ms.filterMap (Module.import? required libraryDir)).flatMap bound =
      (ms.flatMap Module.exports).filter required.contains := by
  induction ms with
  | nil => rfl
  | cons m ms ih =>
    rw [List.filterMap_cons, List.flatMap_cons, List.filter_append, ← ih,
      ← import?_bound required libraryDir m]
    cases m.import? required libraryDir <;> simp

theorem metricClasses?_bound :
    (metricClasses? kinds).toList.flatMap bound =
      (MetricKind.all.filter kinds.contains).map MetricKind.className := by
  unfold metricClasses?
  cases MetricKind.all.filter kinds.contains <;> simp [bound]

theorem resolve_bound :
    (resolve required kinds libraryDir).flatMap bound =
      ((modules.filter (·.ofEngine)).flatMap Module.exports).filter required.contains ++
      (MetricKind.all.filter kinds.contains).map MetricKind.className ++
      ((modules.filter (!·.ofEngine)).flatMap Module.exports).filter required.contains ++
      ["htmlReport", "textSummary"] := by
  unfold resolve
  rw [List.flatMap_append, List.flatMap_append, List.flatMap_append, filterMap_import?_bound,
    filterMap_import?_bound, metricClasses?_bound]
  rfl

end Resolve

theorem exported_nodup : exported.Nodup := by decide +kernel

theorem exported_eq : exported = (modules.filter (·.ofEngine)).flatMap Module.exports ++
    (modules.filter (!·.ofEngine)).flatMap Module.exports :=
  rfl

theorem count_resolve_bound {required : List String} {symbol : String}
    (known : symbol ∈ exported) (needed : symbol ∈ required) (kinds : List MetricKind)
    (libraryDir : String) :
    ((resolve required kinds libraryDir).flatMap bound).count symbol = 1 := by
  have helper : ∀ symbol ∈ exported, ["htmlReport", "textSummary"].count symbol = 0 := by
    decide +kernel
  have cls : ∀ symbol ∈ exported, symbol ∉ MetricKind.all.map MetricKind.className := by
    decide +kernel
  have classes : ((MetricKind.all.filter kinds.contains).map MetricKind.className).count symbol =
      0 := by
    refine List.count_eq_zero.2 fun mem => cls symbol known ?_
    obtain ⟨kind, hkind, rfl⟩ := List.mem_map.1 mem
    exact List.mem_map_of_mem (List.mem_filter.1 hkind).1
  have needed : required.contains symbol = true := List.contains_iff_mem.2 needed
  rw [resolve_bound, List.count_append, List.count_append, List.count_append, classes,
    helper symbol known, List.count_filter needed, List.count_filter needed, Nat.add_zero,
    Nat.add_zero, ← List.count_append, ← exported_eq]
  exact List.count_eq_one_of_mem exported_nodup known

theorem unknown_eq_nil {required : List String} (known : ∀ symbol ∈ required, symbol ∈ exported) :
    unknown required = [] := by
  have none_left : required.filter (!isKnown ·) = [] := by
    refine List.filter_eq_nil_iff.2 fun symbol mem => ?_
    simp [isKnown_iff.2 (known symbol mem)]
  rw [unknown, none_left, distinct, Text.sort, List.mergeSort_nil]

/-! ## Metric classes -/

def fixedSources : List String :=
  (modules.filter (·.ofEngine)).map (·.path) ++ [metricsSource] ++ reportHelpers.map (·.source)

/-- A library file is never taken for anything else: none of the other sources ends in its name. -/
theorem library_source_not_fixed {libraryDir : String} {m : Module}
    (mem : m ∈ modules.filter (!·.ofEngine)) : m.source libraryDir ∉ fixedSources := by
  have other : ∀ m ∈ modules.filter (!·.ofEngine), ∀ source ∈ fixedSources,
      ¬ m.path.toList <:+ source.toList := by decide +kernel
  have file : m.ofEngine = false := by simpa using (List.mem_filter.1 mem).2
  intro fixed
  refine other m mem _ fixed ⟨(withoutEndSlashes libraryDir ++ "/").toList, ?_⟩
  rw [Module.source, file, ← String.toList_append]
  rfl

theorem engine_source_ne {libraryDir : String} {m : Module}
    (mem : m ∈ modules.filter (·.ofEngine)) : m.source libraryDir ≠ metricsSource := by
  have other : ∀ m ∈ modules.filter (·.ofEngine), m.path ≠ metricsSource := by decide +kernel
  rw [Module.source, if_pos (by simpa using (List.mem_filter.1 mem).2)]
  exact other m mem

theorem source_of_import? {required : List String} {libraryDir : String} {m : Module} {i : Import}
    (h : m.import? required libraryDir = some i) : i.source = m.source libraryDir := by
  rw [((import?_eq_some_iff required libraryDir).1 h).1, Module.selection]

theorem mem_resolve_metricsSource {required : List String} {kinds : List MetricKind}
    {libraryDir : String} {i : Import} :
    i ∈ resolve required kinds libraryDir ∧ i.source = metricsSource ↔
      metricClasses? kinds = some i := by
  constructor
  · rintro ⟨mem, source⟩
    have helpers : ∀ i ∈ reportHelpers, i.source ≠ metricsSource := by decide +kernel
    simp only [resolve, List.mem_append, List.mem_filterMap, Option.mem_toList] at mem
    rcases mem with ((⟨m, hm, hi⟩ | hi) | ⟨m, hm, hi⟩) | hi
    · exact absurd ((source_of_import? hi).symm.trans source) (engine_source_ne hm)
    · exact hi
    · have fixed : metricsSource ∈ fixedSources := by decide +kernel
      rw [← source, source_of_import? hi] at fixed
      exact absurd fixed (library_source_not_fixed hm)
    · exact absurd source (helpers i hi)
  · intro h
    refine ⟨by simp [resolve, h], ?_⟩
    unfold metricClasses? at h
    simp only at h
    split at h
    · cases h
    · cases h
      rfl

theorem mem_metricsSource_bound {required : List String} {kinds : List MetricKind}
    {libraryDir name : String} :
    (∃ i ∈ resolve required kinds libraryDir, i.source = metricsSource ∧ name ∈ i.bound) ↔
      ∃ kind ∈ kinds, kind.className = name := by
  have bound_iff : (∃ i ∈ resolve required kinds libraryDir,
      i.source = metricsSource ∧ name ∈ i.bound) ↔
      name ∈ (metricClasses? kinds).toList.flatMap bound := by
    simp only [List.mem_flatMap, Option.mem_toList, ← and_assoc, mem_resolve_metricsSource]
  have complete (kind : MetricKind) : kind ∈ MetricKind.all := by cases kind <;> decide
  rw [bound_iff, metricClasses?_bound, List.mem_map]
  simp [complete]

end LoadScript.Import
