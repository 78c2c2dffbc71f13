import LoadScript.Proofs.Script.Imports
import LoadScript.Proofs.Tags
import LoadScript.Proofs.Text.Sorted
import LoadScript.Script.Assembly

set_option autoImplicit false

namespace LoadScript

namespace Import

theorem mem_unknown {symbol : String} {required : List String} :
    symbol ∈ unknown required ↔ symbol ∈ required ∧ symbol ∉ exported := by
  rw [unknown, Text.mem_sort, mem_distinct, List.mem_filter, Bool.not_eq_true', ← Bool.not_eq_true,
    isKnown_iff]

theorem unknown_increasing (required : List String) : (unknown required).Pairwise (· < ·) :=
  Text.sort_increasing (distinct_nodup _)

/-! ## Sections -/

section Sections

variable (required : List String) (kinds : List MetricKind) (libraryDir : String)

def moduleImports (ofEngine : Bool) : List Import :=
  (modules.filter (·.ofEngine == ofEngine)).filterMap (Module.import? required libraryDir)

theorem resolve_eq : resolve required kinds libraryDir =
    moduleImports required libraryDir true ++ (metricClasses? kinds).toList ++
      moduleImports required libraryDir false ++ reportHelpers :=
  rfl

variable {required kinds libraryDir}

theorem mem_moduleImports {ofEngine : Bool} {i : Import} :
    i ∈ moduleImports required libraryDir ofEngine ↔ ∃ m ∈ modules, m.ofEngine = ofEngine ∧
      i = m.selection required libraryDir ∧ i.bound ≠ [] := by
  simp only [moduleImports, List.mem_filterMap, List.mem_filter, beq_iff_eq, import?_eq_some_iff,
    and_assoc]

theorem moduleImports_bound (ofEngine : Bool) :
    (moduleImports required libraryDir ofEngine).flatMap bound =
      ((modules.filter (·.ofEngine == ofEngine)).flatMap Module.exports).filter required.contains :=
  filterMap_import?_bound required libraryDir _

theorem metricClasses?_eq_some {i : Import} (h : metricClasses? kinds = some i) :
    i.source = metricsSource ∧ i.bound ≠ [] := by
  unfold metricClasses? at h
  simp only at h
  split at h
  · cases h
  · rename_i used
    cases h
    refine ⟨rfl, fun empty => used ?_⟩
    simpa [bound] using empty

/-- No import is empty. -/
theorem bound_ne_nil_of_mem_resolve {i : Import} (mem : i ∈ resolve required kinds libraryDir) :
    i.bound ≠ [] := by
  have helpers : ∀ i ∈ reportHelpers, i.bound ≠ [] := by decide +kernel
  rw [resolve_eq, List.mem_append, List.mem_append, List.mem_append, mem_moduleImports,
    Option.mem_toList, mem_moduleImports] at mem
  obtain ((⟨_, _, _, _, nonempty⟩ | classes) | ⟨_, _, _, _, nonempty⟩) | helper := mem
  · exact nonempty
  · exact (metricClasses?_eq_some classes).2
  · exact nonempty
  · exact helpers i helper

/-! ## Sources -/

theorem map_source_filterMap_sublist (ms : List Module) :
    ((ms.filterMap (Module.import? required libraryDir)).map (·.source)).Sublist
      (ms.map (Module.source libraryDir)) := by
  induction ms with
  | nil => exact List.Sublist.slnil
  | cons m ms ih =>
    rw [List.filterMap_cons]
    cases made : m.import? required libraryDir with
    | none => exact ih.cons _
    | some i =>
      rw [List.map_cons, List.map_cons, source_of_import? made]
      exact ih.cons_cons _

def allSources (libraryDir : String) : List String :=
  (modules.filter (·.ofEngine)).map (·.path) ++ [metricsSource] ++
    (modules.filter (!·.ofEngine)).map (Module.source libraryDir) ++ reportHelpers.map (·.source)

theorem map_source_resolve_sublist :
    ((resolve required kinds libraryDir).map (·.source)).Sublist (allSources libraryDir) := by
  have classes : ((metricClasses? kinds).toList.map (·.source)).Sublist [metricsSource] := by
    cases made : metricClasses? kinds with
    | none => exact List.nil_sublist _
    | some i =>
      rw [Option.toList_some, List.map_singleton, (metricClasses?_eq_some made).1]
  unfold resolve allSources
  rw [List.map_append, List.map_append, List.map_append]
  exact (((map_source_filterMap_sublist _).append classes).append
    (map_source_filterMap_sublist _)).append (List.Sublist.refl _)

theorem allSources_nodup (libraryDir : String) : (allSources libraryDir).Nodup := by
  have fixed : fixedSources.Nodup := by decide +kernel
  have files : ((modules.filter (!·.ofEngine)).map (·.path)).Nodup := by decide +kernel
  have library : ((modules.filter (!·.ofEngine)).map (Module.source libraryDir)).Nodup := by
    have joined : (modules.filter (!·.ofEngine)).map (Module.source libraryDir) =
        ((modules.filter (!·.ofEngine)).map (·.path)).map
          (withoutEndSlashes libraryDir ++ "/" ++ ·) := rfl
    rw [joined]
    exact files.map fun a b same => by simpa using same
  have apart : ∀ source ∈ (modules.filter (!·.ofEngine)).map (Module.source libraryDir),
      source ∉ fixedSources := by
    intro source mem
    obtain ⟨m, file, rfl⟩ := List.mem_map.1 mem
    exact library_source_not_fixed file
  have moved : (allSources libraryDir).Perm
      ((modules.filter (!·.ofEngine)).map (Module.source libraryDir) ++ fixedSources) := by
    unfold allSources fixedSources
    rw [← List.append_assoc]
    exact List.perm_append_comm.append_right _
  rw [moved.nodup_iff, List.nodup_append]
  refine ⟨library, fixed, fun a mem b other => ?_⟩
  rintro rfl
  exact apart a mem other

theorem sources_nodup : ((resolve required kinds libraryDir).map (·.source)).Nodup :=
  (allSources_nodup libraryDir).sublist map_source_resolve_sublist

/-! ## Symbols -/

def moduleNames (required : List String) (libraryDir : String) : List String :=
  (moduleImports required libraryDir true ++ moduleImports required libraryDir false).flatMap bound

theorem moduleNames_eq : moduleNames required libraryDir = exported.filter required.contains := by
  rw [moduleNames, List.flatMap_append, moduleImports_bound, moduleImports_bound, exported_eq,
    List.filter_append]
  rfl

theorem mem_moduleNames_iff {symbol : String} :
    symbol ∈ moduleNames required libraryDir ↔ symbol ∈ required ∧ symbol ∈ exported := by
  rw [moduleNames_eq, List.mem_filter, List.contains_iff_mem, and_comm]

theorem count_moduleNames {symbol : String} (needed : symbol ∈ required)
    (known : symbol ∈ exported) : (moduleNames required libraryDir).count symbol = 1 := by
  rw [moduleNames_eq, List.count_filter (List.contains_iff_mem.2 needed)]
  exact List.count_eq_one_of_mem exported_nodup known

theorem exists_import_of_exported {symbol : String} (needed : symbol ∈ required)
    (known : symbol ∈ exported) :
    ∃ m ∈ modules, ∃ i ∈ moduleImports required libraryDir m.ofEngine,
      i.source = m.source libraryDir ∧
        (m.defaultName = some symbol ∧ i.defaultName = some symbol ∨
          symbol ∈ m.names ∧ symbol ∈ i.names) := by
  obtain ⟨m, mem, exports⟩ := List.mem_flatMap.1 known
  have needed : required.contains symbol = true := List.contains_iff_mem.2 needed
  have nonempty : (m.selection required libraryDir).bound ≠ [] := by
    rw [selection_bound]
    exact List.ne_nil_of_mem (List.mem_filter.2 ⟨exports, needed⟩)
  refine ⟨m, mem, _, mem_moduleImports.2 ⟨m, mem, rfl, rfl, nonempty⟩, rfl, ?_⟩
  obtain default | named := List.mem_append.1 exports
  · rw [Option.mem_toList] at default
    exact .inl ⟨default, by rw [Module.selection, default, Option.filter_some, if_pos needed]⟩
  · exact .inr ⟨named, List.mem_filter.2 ⟨named, needed⟩⟩

end Sections

/-- How the required symbols and the metric kinds are divided among the sections of the imports:
those of engine modules, of metric classes and of library files, with the report helpers last. -/
structure Divided (required : List String) (kinds : List MetricKind) (libraryDir : String)
    (engine classes library : List Import) : Prop where
  order : resolve required kinds libraryDir = engine ++ classes ++ library ++ reportHelpers
  engine_source : ∀ i ∈ engine, ∃ m ∈ modules, m.ofEngine = true ∧ i.source = m.path
  class_source : ∀ i ∈ classes, i.source = metricsSource
  library_source : ∀ i ∈ library, ∃ m ∈ modules, m.ofEngine = false ∧
    i.source = withoutEndSlashes libraryDir ++ "/" ++ m.path
  imported : ∀ symbol ∈ required, symbol ∉ unknown required →
    ((engine ++ library).flatMap bound).count symbol = 1 ∧
      ∃ m ∈ modules, ∃ i ∈ engine ++ library, i.source = m.source libraryDir ∧
        (m.defaultName = some symbol ∧ i.defaultName = some symbol ∨
          symbol ∈ m.names ∧ symbol ∈ i.names)
  skipped : ∀ symbol ∈ unknown required,
    symbol ∈ required ∧ symbol ∉ (engine ++ library).flatMap bound
  needed : ∀ symbol ∈ (engine ++ library).flatMap bound, symbol ∈ required
  class_names : classes.flatMap bound =
    (MetricKind.all.filter (· ∈ kinds)).map MetricKind.className
  helper_names : reportHelpers.flatMap bound = ["htmlReport", "textSummary"]

theorem resolve_divided (required : List String) (kinds : List MetricKind) (libraryDir : String) :
    Divided required kinds libraryDir (moduleImports required libraryDir true)
      (metricClasses? kinds).toList (moduleImports required libraryDir false) where
  order := rfl
  engine_source := by
    intro i mem
    obtain ⟨m, known, engine, rfl, -⟩ := mem_moduleImports.1 mem
    exact ⟨m, known, engine, by rw [Module.selection, Module.source, if_pos engine]⟩
  class_source := by
    intro i mem
    exact (metricClasses?_eq_some (Option.mem_toList.1 mem)).1
  library_source := by
    intro i mem
    obtain ⟨m, known, file, rfl, -⟩ := mem_moduleImports.1 mem
    exact ⟨m, known, file, by rw [Module.selection, Module.source, file]; rfl⟩
  imported := by
    intro symbol needed not_unknown
    have known : symbol ∈ exported := by
      by_contra foreign
      exact not_unknown (mem_unknown.2 ⟨needed, foreign⟩)
    refine ⟨count_moduleNames needed known, ?_⟩
    obtain ⟨m, mem, i, imported, found⟩ :=
      @exists_import_of_exported required libraryDir symbol needed known
    refine ⟨m, mem, i, ?_, found⟩
    cases origin : m.ofEngine with
    | true => exact List.mem_append_left _ (origin ▸ imported)
    | false => exact List.mem_append_right _ (origin ▸ imported)
  skipped := by
    intro symbol mem
    obtain ⟨needed, foreign⟩ := mem_unknown.1 mem
    exact ⟨needed, fun bound => foreign (mem_moduleNames_iff.1 bound).2⟩
  needed := by
    intro symbol mem
    exact (mem_moduleNames_iff.1 mem).1
  class_names := by
    rw [metricClasses?_bound]
    congr 2
    funext kind
    simp
  helper_names := rfl

end Import

def Warning.symbol? : Warning → Option String
  | .unknownSymbol symbol => some symbol
  | _ => none

theorem Draft.symbols_warned (d : Draft) :
    d.warnings.filterMap Warning.symbol? = Import.unknown d.requiredSymbols := by
  have steps : (d.unrecognized.map Warning.unmatchedStep).filterMap Warning.symbol? = [] := by
    rw [List.filterMap_map]
    exact List.filterMap_eq_nil_iff.2 fun _ _ => rfl
  rw [warnings, List.filterMap_append, steps, List.nil_append, List.filterMap_map]
  exact List.filterMap_some

namespace Import

/-- The imports of a script divide its required symbols: each is imported once from its module, or
is unknown and warned about in increasing order. Nothing else is imported but the classes of the
metric kinds and the report helpers; no import is empty and no source is imported from twice. -/
theorem resolve_divides_required (required : List String) (kinds : List MetricKind)
    (libraryDir : String) :
    (∃ engine classes library, Divided required kinds libraryDir engine classes library) ∧
      (∀ i ∈ resolve required kinds libraryDir, i.bound ≠ []) ∧
      ((resolve required kinds libraryDir).map (·.source)).Nodup ∧
      (unknown required).Pairwise (· < ·) ∧
      ∀ d : Draft, d.warnings.filterMap Warning.symbol? = unknown d.requiredSymbols := by
  refine ⟨⟨_, _, _, resolve_divided required kinds libraryDir⟩, ?_, sources_nodup,
    unknown_increasing required, Draft.symbols_warned⟩
  intro i mem
  exact bound_ne_nil_of_mem_resolve mem

end Import

end LoadScript
