import LoadScript.Proofs.Template
import LoadScript.Proofs.Vocabulary.Fragments
import LoadScript.Script.Generation

set_option autoImplicit false

namespace LoadScript

open Script Script.Lexer

/-! ## What the steps contribute -/

structure Contributions.WellFormed (c : Contributions) : Prop where
  names : ∀ m ∈ c.metrics, Plain m.name
  setup : ∀ fragment ∈ c.setup, ClosedLines fragment
  code : ∀ label code, .group label code ∈ c.workload → ClosedLines code

namespace Draft

theorem mem_declareMetric {m n : Metric} {ms : List Metric} (h : n ∈ declareMetric m ms) :
    n = m ∨ n ∈ ms := by
  induction ms with
  | nil => exact .inl (List.mem_singleton.1 h)
  | cons k ms ih =>
    unfold declareMetric at h
    split at h
    · rcases List.mem_cons.1 h with rfl | hn
      · exact .inl rfl
      · exact .inr (List.mem_cons_of_mem _ hn)
    · rcases List.mem_cons.1 h with rfl | hn
      · exact .inr (by simp)
      · exact (ih hn).imp_right (List.mem_cons_of_mem _)

theorem mem_declareMetrics {n : Metric} {ms declared : List Metric}
    (h : n ∈ declared.foldl (fun ms m => declareMetric m ms) ms) : n ∈ declared ∨ n ∈ ms := by
  induction declared generalizing ms with
  | nil => exact .inr h
  | cons m declared ih =>
    rcases ih h with hd | hm
    · exact .inl (List.mem_cons_of_mem _ hd)
    · rcases mem_declareMetric hm with rfl | hn
      · exact .inl (by simp)
      · exact .inr hn

theorem mem_appendNew {s t : String} {ss : List String} (h : t ∈ appendNew s ss) :
    t = s ∨ t ∈ ss := by
  unfold appendNew at h
  split at h
  · exact .inr h
  · simpa [or_comm] using h

theorem addRecognized_wellFormed {d : Draft} {found : Definition} {o : Occurrence}
    (hd : d.toContributions.WellFormed) (hf : found.WellFormed) (ho : o.step.WithoutDocText) :
    (d.addRecognized found o).toContributions.WellFormed where
  names := by
    intro m hm
    exact (mem_declareMetrics hm).elim (hf.names m) (hd.names m)
  setup := by
    intro fragment hfragment
    cases hs : found.setupOf o with
    | none =>
      simp only [addRecognized, hs, Option.elim_none] at hfragment
      exact hd.setup fragment hfragment
    | some added =>
      simp only [addRecognized, hs, Option.elim_some] at hfragment
      rcases mem_appendNew hfragment with rfl | hold
      · exact hf.setup o fragment hs
      · exact hd.setup fragment hold
  code := by
    intro label code hcode
    rcases List.mem_append.1 hcode with hold | hnew
    · exact hd.code label code hold
    · cases List.mem_singleton.1 hnew
      exact hf.code o ho

theorem addUnrecognized_wellFormed {d : Draft} (label : String)
    (hd : d.toContributions.WellFormed) :
    (d.addUnrecognized label).toContributions.WellFormed where
  names := hd.names
  setup := hd.setup
  code := by
    intro label code hcode
    rcases List.mem_append.1 hcode with hold | hnew
    · exact hd.code label code hold
    · cases List.mem_singleton.1 hnew

theorem push_wellFormed {v : Vocabulary} (hv : ∀ d ∈ v, d.WellFormed) (p : Parameters)
    {d : Draft} {s : Step} (hd : d.toContributions.WellFormed) (hs : s.WithoutDocText) :
    (push v p d s).toContributions.WellFormed := by
  unfold push
  cases hfound : v.find? s.text with
  | none => exact addUnrecognized_wellFormed _ hd
  | some found =>
    obtain ⟨definition, hmem, hmatch⟩ := List.exists_of_findSome?_eq_some hfound
    obtain ⟨captures, -, rfl⟩ := Option.map_eq_some_iff.1 hmatch
    exact addRecognized_wellFormed hd (hv definition hmem) hs

theorem ofSteps_wellFormed {v : Vocabulary} (hv : ∀ d ∈ v, d.WellFormed) (p : Parameters)
    {steps : List Step} (hs : ∀ s ∈ steps, s.WithoutDocText) :
    (ofSteps v p steps).toContributions.WellFormed := by
  have hrun : ∀ (d : Draft), d.toContributions.WellFormed →
      (steps.foldl (push v p) d).toContributions.WellFormed := by
    induction steps with
    | nil => exact fun _ hd => hd
    | cons s steps ih =>
      intro d hd
      exact ih (fun t ht => hs t (by simp [ht])) _ (push_wellFormed hv p hd (hs s (by simp)))
  exact hrun empty ⟨by simp [empty], by simp [empty], by simp [empty]⟩

end Draft

/-! ## Imports -/

def Import.PlainNames (i : Import) : Prop := ∀ name ∈ i.defaultName.toList ++ i.names, Plain name

namespace Import

theorem modules_plainNames : ∀ m ∈ modules, ∀ name ∈ m.exports, Plain name := by
  decide

theorem import?_plainNames {required : List String} {libraryDir : String} {m : Module}
    {i : Import} (hm : m ∈ modules) (h : m.import? required libraryDir = some i) :
    i.PlainNames := by
  simp only [Module.import?] at h
  split at h
  · cases h
  · cases h
    intro name hname
    refine modules_plainNames m hm name ?_
    rcases List.mem_append.1 hname with hd | hn
    · have hdefault := (Option.filter_eq_some_iff.1 (Option.mem_toList.1 hd)).1
      exact List.mem_append_left _ (Option.mem_toList.2 hdefault)
    · exact List.mem_append_right _ (List.mem_filter.1 hn).1

theorem metricClasses?_plainNames {kinds : List MetricKind} {i : Import}
    (h : metricClasses? kinds = some i) : i.PlainNames := by
  simp only [metricClasses?] at h
  split at h
  · cases h
  · cases h
    intro name hname
    obtain ⟨kind, -, rfl⟩ := List.mem_map.1 hname
    cases kind <;> decide

theorem reportHelpers_plainNames : ∀ i ∈ reportHelpers, i.PlainNames := by
  unfold Import.PlainNames
  decide

theorem resolve_plainNames (required : List String) (kinds : List MetricKind)
    (libraryDir : String) : ∀ i ∈ resolve required kinds libraryDir, i.PlainNames := by
  intro i hi
  unfold resolve at hi
  simp only [List.mem_append, List.mem_filterMap, List.mem_filter] at hi
  rcases hi with ((⟨m, ⟨hm, -⟩, h⟩ | hi) | ⟨m, ⟨hm, -⟩, h⟩) | hi
  · exact import?_plainNames hm h
  · exact metricClasses?_plainNames (Option.mem_toList.1 hi)
  · exact import?_plainNames hm h
  · exact reportHelpers_plainNames i hi

end Import

namespace Script

/-! ## Sections -/

theorem comment_closes {l : String} (h : Reads l (inCode []) ⟨.comment, []⟩) : ClosedLines l :=
  h.append (reads_text rfl)

theorem parameterLines_closedLines (p : Parameters) : ∀ l ∈ parameterLines p, ClosedLines l := by
  have htitle : Reads "// Parameters:" (inCode []) ⟨.comment, []⟩ := reads_text rfl
  have hindent : Reads "//   " (inCode []) ⟨.comment, []⟩ := reads_text rfl
  have hequals : Reads " = " ⟨.comment, []⟩ ⟨.comment, []⟩ := reads_text rfl
  intro l hl
  unfold parameterLines at hl
  split at hl
  · cases hl
  · rcases List.mem_cons.1 hl with rfl | hl
    · exact comment_closes htitle
    · obtain ⟨⟨key, value⟩, -, rfl⟩ := List.mem_map.1 hl
      exact comment_closes (hindent.append ((commentText_oneLine key).reads [])
        |>.append hequals |>.append ((commentText_oneLine value).reads []))

theorem ruler_closedLines : ClosedLines ruler :=
  comment_closes (show Reads "// ------------------------------------------------------------" _ _
    from reads_text rfl)

theorem headerSection_closedLines {h : ScriptHeader} (ht : OneLine h.generatedAt) :
    ClosedLines (headerSection h) := by
  have hfeature : Reads "// Feature:   " (inCode []) ⟨.comment, []⟩ := reads_text rfl
  have hscenario : Reads "// Scenario:  " (inCode []) ⟨.comment, []⟩ := reads_text rfl
  have hexamples : Reads "// Examples:  " (inCode []) ⟨.comment, []⟩ := reads_text rfl
  have hsource : Reads "// Source:    " (inCode []) ⟨.comment, []⟩ := reads_text rfl
  have hgenerated : Reads "// Generated: " (inCode []) ⟨.comment, []⟩ := reads_text rfl
  have hnote : Reads "// Generated by bdd-k6. Do not edit by hand." (inCode []) ⟨.comment, []⟩ :=
    reads_text rfl
  have hempty : Reads "//" (inCode []) ⟨.comment, []⟩ := reads_text rfl
  have htext (s : String) := (commentText_oneLine s).reads []
  refine closedLines_joinLines (readsLines_of_closedLines ?_)
  simp only [List.forall_mem_append, List.forall_mem_cons]
  refine ⟨⟨⟨⟨⟨ruler_closedLines, comment_closes hnote, comment_closes hempty,
    comment_closes (hfeature.append (htext _)), comment_closes (hscenario.append (htext _)), ?_⟩,
    ?_⟩, comment_closes (hsource.append (htext _)), ?_⟩, parameterLines_closedLines _⟩,
    comment_closes (hgenerated.append (ht.reads [])), ruler_closedLines, ?_⟩
  · simp
  · intro l hl
    obtain ⟨group, -, rfl⟩ := Option.map_eq_some_iff.1 (Option.mem_toList.1 hl)
    exact comment_closes (hexamples.append (htext _))
  · simp
  · simp

theorem importLine_wellFormed {i : Import} (h : i.PlainNames) :
    Lexer.WellFormed (importLine i) := by
  have hcomma (opened : List Opened) : Reads ", " (inCode opened) (inCode opened) := reads_text rfl
  have hnames : Lexer.WellFormed (", ".intercalate i.names) :=
    intercalate_reads (hcomma _) fun name hn => (h name (List.mem_append_right _ hn)).wellFormed
  have himport : Reads "import " (inCode []) (inCode []) := reads_text rfl
  have hfrom : Reads " from " (inCode []) (inCode []) := reads_text rfl
  unfold importLine
  refine himport.append (intercalate_reads (hcomma _) ?_) |>.append hfrom
    |>.append (literal_reads _ _) |>.append (reads_text rfl)
  intro part hpart
  rcases List.mem_append.1 hpart with hd | hn
  · exact (h part (List.mem_append_left _ hd)).wellFormed
  · split at hn
    · cases hn
    · cases List.mem_singleton.1 hn
      exact braced_reads hnames []

theorem importSection_closedLines {imports : List Import} (h : ∀ i ∈ imports, i.PlainNames) :
    ClosedLines (importSection imports) := by
  refine closedLines_joinLines (readsLines_of_closedLines fun l hl => ?_)
  obtain ⟨i, hi, rfl⟩ := List.mem_map.1 hl
  exact (importLine_wellFormed (h i hi)).closedLines

theorem baseUrlSection_closedLines (baseUrl : String) : ClosedLines (baseUrlSection baseUrl) := by
  have hconst : Reads "const BASE_URL = __ENV.BASE_URL || " (inCode []) (inCode []) :=
    reads_text rfl
  exact WellFormed.closedLines (hconst.append (literal_reads _ _) |>.append (reads_text rfl))

theorem className_plain (kind : MetricKind) : Plain kind.className := by
  cases kind <;> decide

theorem metricLine_wellFormed {m : Metric} (h : Plain m.name) :
    Lexer.WellFormed (metricLine m) := by
  have hconst : Reads "const " (inCode []) (inCode []) := reads_text rfl
  have hnew : Reads " = new " (inCode []) (inCode []) := reads_text rfl
  have hopen : Reads "(" (inCode []) (inCode [.round]) := reads_text rfl
  have htime : Reads (if (m.isTime && m.kind = .trend) = true then ", true" else "")
      (inCode [.round]) (inCode [.round]) := by
    split <;> exact reads_text rfl
  exact hconst.append h.wellFormed |>.append hnew |>.append (className_plain _).wellFormed
    |>.append hopen |>.append (literal_reads _ _) |>.append htime |>.append (reads_text rfl)

theorem metricSection_closedLines {metrics : List Metric} (h : ∀ m ∈ metrics, Plain m.name) :
    ClosedLines (metricSection metrics) := by
  refine closedLines_joinLines (readsLines_of_closedLines fun l hl => ?_)
  obtain ⟨m, hm, rfl⟩ := List.mem_map.1 hl
  exact (metricLine_wellFormed (h m hm)).closedLines

theorem stageLine_wellFormed (stage : Stage) : Lexer.WellFormed (stageLine stage) := by
  have hduration : Reads "duration: '" (inCode []) ⟨.string, []⟩ := reads_text rfl
  have htarget : Reads "s', target: " ⟨.string, []⟩ (inCode []) := reads_text rfl
  have hinner : Lexer.WellFormed
      ("duration: '" ++ Nat.repr stage.seconds ++ "s', target: " ++ Nat.repr stage.target) :=
    hduration.append ((plain_repr _).reads (by simp) _) |>.append htarget
      |>.append (plain_repr _).wellFormed
  have hindent : Reads "  " (inCode []) (inCode []) := reads_text rfl
  exact hindent.append (braced_reads hinner []) |>.append (reads_text rfl)

theorem numberLine_closedLines {before : String} (h : Plain before) (n : Nat) :
    ClosedLines ("      " ++ (before ++ Nat.repr n ++ ",")) := by
  have hindent : Reads "      " (inCode []) (inCode []) := reads_text rfl
  exact WellFormed.closedLines (hindent.append (Reads.append h.wellFormed (plain_repr n).wellFormed
    |>.append (reads_text rfl)))

theorem profileLines_readsLines (profile : LoadProfile) (opened : List Opened) :
    ReadsLines ((profileLines profile).map ("      " ++ ·)) (inCode opened) (inCode opened) := by
  have hindent (opened : List Opened) : Reads "      " (inCode opened) (inCode opened) :=
    reads_text rfl
  cases profile with
  | fixed virtualUsers iterations =>
    have hexecutor : Reads "executor: 'per-vu-iterations'," (inCode opened) (inCode opened) :=
      reads_text rfl
    exact .line ((hindent _).append hexecutor)
      (.cons ((numberLine_closedLines (plain_text rfl) _).reads _)
        (.cons ((numberLine_closedLines (plain_text rfl) _).reads _) (readsLines_nil _)))
  | ramping startUsers stages =>
    have hexecutor : Reads "executor: 'ramping-vus'," (inCode opened) (inCode opened) :=
      reads_text rfl
    have hopen : Reads "stages: [" (inCode opened) (inCode (.square :: opened)) := reads_text rfl
    have hclose : Reads "]," (inCode (.square :: opened)) (inCode opened) := reads_text rfl
    have hstages : ∀ l ∈ (stages.map stageLine).map ("      " ++ ·), ClosedLines l := by
      intro l hl
      rw [List.map_map] at hl
      obtain ⟨stage, -, rfl⟩ := List.mem_map.1 hl
      exact WellFormed.closedLines ((hindent []).append (stageLine_wellFormed stage))
    unfold profileLines
    rw [List.map_append, List.map_append]
    exact .append (.append (.line ((hindent _).append hexecutor)
      (.cons ((numberLine_closedLines (plain_text rfl) _).reads _)
        (.line ((hindent _).append hopen) (readsLines_nil _))))
      (readsLines_of_closedLines hstages)) (.line ((hindent _).append hclose) (readsLines_nil _))

theorem thresholdLine_wellFormed (r : MetricRules) : Lexer.WellFormed (thresholdLine r) := by
  have hindent : Reads "    " (inCode []) (inCode []) := reads_text rfl
  have hopen : Reads ": [" (inCode []) (inCode [.square]) := reads_text rfl
  have hcomma : Reads ", " (inCode [.square]) (inCode [.square]) := reads_text rfl
  unfold thresholdLine
  refine hindent.append (literal_reads _ _) |>.append hopen
    |>.append (intercalate_reads hcomma fun s hs => ?_) |>.append (reads_text rfl)
  obtain ⟨rule, -, rfl⟩ := List.mem_map.1 hs
  exact literal_reads rule _

theorem thresholdLines_readsLines (thresholds : List MetricRules) (opened : List Opened) :
    ReadsLines (thresholdLines thresholds) (inCode opened) (inCode opened) := by
  have htitle : Reads r"  thresholds: {" (inCode opened) (inCode (.curly :: opened)) :=
    reads_text rfl
  have hclose : Reads r"  }," (inCode (.curly :: opened)) (inCode opened) := reads_text rfl
  unfold thresholdLines
  split
  · exact readsLines_nil _
  · refine .append (.append (.line htitle (readsLines_nil _)) ?_) (.line hclose (readsLines_nil _))
    refine readsLines_of_closedLines fun l hl => ?_
    obtain ⟨r, -, rfl⟩ := List.mem_map.1 hl
    exact (thresholdLine_wellFormed r).closedLines

theorem optionSection_closedLines (profile : LoadProfile) (thresholds : List MetricRules) :
    ClosedLines (optionSection profile thresholds) := by
  have hoptions : Reads r"export const options = {" (inCode []) (inCode [.curly]) := reads_text rfl
  have hscenarios : Reads r"  scenarios: {" (inCode [.curly]) (inCode [.curly, .curly]) :=
    reads_text rfl
  have hdefault : Reads r"    default: {" (inCode [.curly, .curly])
    (inCode [.curly, .curly, .curly]) := reads_text rfl
  have hfour : Reads r"    }," (inCode [.curly, .curly, .curly]) (inCode [.curly, .curly]) :=
    reads_text rfl
  have htwo : Reads r"  }," (inCode [.curly, .curly]) (inCode [.curly]) := reads_text rfl
  refine closedLines_joinLines (.append (.append (.append (.append ?_
    (profileLines_readsLines profile [.curly, .curly, .curly])) ?_)
    (thresholdLines_readsLines thresholds [.curly])) ?_)
  · exact .line hoptions (.line hscenarios (.line hdefault (readsLines_nil _)))
  · exact .line hfour (.line htwo (readsLines_nil _))
  · exact .line (reads_text rfl) (readsLines_nil _)

theorem setupBlock_readsLines {fragment : String} (h : ClosedLines fragment)
    (opened : List Opened) :
    ReadsLines (setupBlock fragment) (inCode opened) (inCode opened) := by
  have hopen : Reads r"  {" (inCode opened) (inCode (.curly :: opened)) := reads_text rfl
  have hclose : Reads r"  }" (inCode (.curly :: opened)) (inCode opened) := reads_text rfl
  exact .line hopen (.cons (indent_reads 4 (.inl rfl) (h.reads _)) (.line hclose (readsLines_nil _)))

theorem setupSection_closedLines {fragments : List String}
    (h : ∀ fragment ∈ fragments, ClosedLines fragment) : ClosedLines (setupSection fragments) := by
  have hsetup : Reads r"export function setup() {" (inCode []) (inCode [.curly]) := reads_text rfl
  have hctx : Reads r"  const ctx = {};" (inCode [.curly]) (inCode [.curly]) := reads_text rfl
  have hreturn : Reads "  return ctx;" (inCode [.curly]) (inCode [.curly]) := reads_text rfl
  have hclose : Reads r"}" (inCode [.curly]) (inCode []) := reads_text rfl
  unfold setupSection
  split
  · exact reads_text rfl
  · refine closedLines_joinLines (.append (.append (b := inCode [.curly]) ?_
      (readsLines_flatMap fun fragment hf => setupBlock_readsLines (h fragment hf) _)) ?_)
    · exact .line hsetup (.line hctx (readsLines_nil _))
    · exact .line hreturn (.line hclose (readsLines_nil _))

theorem workloadBlock_reads {item : WorkloadItem}
    (h : ∀ label code, item = .group label code → ClosedLines code) (opened : List Opened) :
    Reads (workloadBlock item ++ "\n") (inCode opened) (inCode opened) := by
  cases item with
  | group label code =>
    have hgroup : Reads "  group(" (inCode opened) (inCode (.round :: opened)) := reads_text rfl
    have harrow : Reads r", () => {" (inCode (.round :: opened))
      (inCode (.curly :: .round :: opened)) := reads_text rfl
    have hend : Reads r"  });" (inCode (.curly :: .round :: opened)) (inCode opened) :=
      reads_text rfl
    refine ReadsLines.joined (.inl rfl) ?_
    exact .line (hgroup.append (literal_reads _ _) |>.append harrow)
      (.cons (indent_reads 4 (.inl rfl) ((h label code rfl).reads _))
        (.line hend (readsLines_nil _)))
  | unrecognized label =>
    have hcomment : Reads "  // Unrecognized step: " (inCode opened) ⟨.comment, opened⟩ :=
      reads_text rfl
    exact hcomment.append ((commentText_oneLine label).reads _) |>.append (reads_text rfl)

theorem workloadSection_closedLines {items : List WorkloadItem}
    (h : ∀ label code, .group label code ∈ items → ClosedLines code) :
    ClosedLines (workloadSection items) := by
  have hfunction : Reads r"export default function (data) {" (inCode []) (inCode [.curly]) :=
    reads_text rfl
  have hclose : Reads r"}" (inCode [.curly]) (inCode []) := reads_text rfl
  have hlet : Reads "  let res;" (inCode [.curly]) (inCode [.curly]) := reads_text rfl
  have hblocks : ∀ block ∈ "  let res;" :: items.map workloadBlock,
      Reads (block ++ "\n") (inCode [.curly]) (inCode [.curly]) := by
    intro block hblock
    rcases List.mem_cons.1 hblock with rfl | hblock
    · exact hlet.append (reads_text rfl)
    · obtain ⟨item, hitem, rfl⟩ := List.mem_map.1 hblock
      exact workloadBlock_reads (fun label code he => h label code (he ▸ hitem)) _
  refine closedLines_joinLines ?_
  exact .line hfunction (.cons (spaced_reads hblocks) (.line hclose (readsLines_nil _)))

theorem teardownSection_closedLines (scenario : String) :
    ClosedLines (teardownSection scenario) := by
  have hfunction : Reads r"export function teardown(data) {" (inCode []) (inCode [.curly]) :=
    reads_text rfl
  have hlog : Reads "  console.log(" (inCode [.curly]) (inCode [.round, .curly]) := reads_text rfl
  have hend : Reads ");" (inCode [.round, .curly]) (inCode [.curly]) := reads_text rfl
  have hclose : Reads r"}" (inCode [.curly]) (inCode []) := reads_text rfl
  refine closedLines_joinLines ?_
  exact .line hfunction (.line (hlog.append (literal_reads _ _) |>.append hend)
    (.line hclose (readsLines_nil _)))

theorem reportKey_reads (opened : List Opened) :
    Reads ("    [`" ++ interpolated "base") (inCode opened)
      ⟨.template, .template :: .square :: opened⟩ := by
  have hopen : Reads "    [`" (inCode opened) ⟨.template, .template :: .square :: opened⟩ :=
    reads_text rfl
  exact hopen.append (interpolated_reads (plain_text rfl : Plain "base").wellFormed _)

theorem htmlEntry_reads (scenario : String) (opened : List Opened) :
    Reads ("    [`" ++ interpolated "base" ++ ".html`]: htmlReport(data, " ++
      braced ("title: " ++ literal scenario) ++ "),") (inCode opened) (inCode opened) := by
  have hhtml : Reads ".html`]: htmlReport(data, " ⟨.template, .template :: .square :: opened⟩
    (inCode (.round :: opened)) := reads_text rfl
  have htitle : Lexer.WellFormed ("title: " ++ literal scenario) :=
    Reads.append (b := inCode []) (reads_text rfl) (literal_reads scenario [])
  exact (reportKey_reads opened).append hhtml |>.append (braced_reads htitle _)
    |>.append (reads_text rfl)

theorem jsonEntry_reads (opened : List Opened) :
    Reads ("    [`" ++ interpolated "base" ++ ".json`]: JSON.stringify(data, null, 2),")
      (inCode opened) (inCode opened) :=
  (reportKey_reads opened).append (reads_text rfl)

theorem summaryEntry_reads (opened : List Opened) :
    Reads ("    stdout: textSummary(data, " ++ braced "indent: ' ', enableColors: true" ++ "),")
      (inCode opened) (inCode opened) := by
  have hcall : Reads "    stdout: textSummary(data, " (inCode opened) (inCode (.round :: opened)) :=
    reads_text rfl
  have hoptions : Lexer.WellFormed "indent: ' ', enableColors: true" := reads_text rfl
  exact hcall.append (braced_reads hoptions _) |>.append (reads_text rfl)

theorem reportSection_closedLines (m : ScriptModule) : ClosedLines (reportSection m) := by
  have hfunction : Reads r"export function handleSummary(data) {" (inCode []) (inCode [.curly]) :=
    reads_text rfl
  have hstamp : Reads "  const stamp = new Date().toISOString().replace(/[:.]/g, '-');"
    (inCode [.curly]) (inCode [.curly]) := reads_text rfl
  have hbase : Reads "  const base = " (inCode [.curly]) (inCode [.curly]) := reads_text rfl
  have hplus : Reads " + stamp;" (inCode [.curly]) (inCode [.curly]) := reads_text rfl
  have hreturn : Reads r"  return {" (inCode [.curly]) (inCode [.curly, .curly]) := reads_text rfl
  have hend : Reads r"  };" (inCode [.curly, .curly]) (inCode [.curly]) := reads_text rfl
  have hclose : Reads r"}" (inCode [.curly]) (inCode []) := reads_text rfl
  refine closedLines_joinLines (.line hfunction (.line hstamp ?_))
  refine .line (hbase.append (literal_reads _ _) |>.append hplus) ?_
  refine .line hreturn (.line (htmlEntry_reads _ _) ?_)
  refine .line (jsonEntry_reads _) (.line (summaryEntry_reads _) ?_)
  exact .line hend (.line hclose (readsLines_nil _))

/-! ## Scripts -/

theorem sections_closedLines {m : ScriptModule} (hc : m.toContributions.WellFormed)
    (hi : ∀ i ∈ m.imports, i.PlainNames) (ht : OneLine m.header.generatedAt) :
    ∀ s ∈ sections m, ClosedLines s := by
  simp only [sections, List.forall_mem_cons, List.not_mem_nil, false_implies, implies_true]
  exact ⟨headerSection_closedLines ht, importSection_closedLines hi, baseUrlSection_closedLines _,
    metricSection_closedLines hc.names, optionSection_closedLines _ _,
    setupSection_closedLines hc.setup, workloadSection_closedLines hc.code,
    teardownSection_closedLines _, reportSection_closedLines m, trivial⟩

theorem render_wellFormed {m : ScriptModule} (hc : m.toContributions.WellFormed)
    (hi : ∀ i ∈ m.imports, i.PlainNames) (ht : OneLine m.header.generatedAt) :
    Lexer.WellFormed (render m) :=
  spaced_reads fun s hs => sections_closedLines hc hi ht s (List.mem_filter.1 hs).1

theorem substituteStep_withoutDocText {s : Step} (p : Parameters) (h : s.WithoutDocText) :
    (Template.substituteStep p s).WithoutDocText := by
  intro doc hdoc
  obtain ⟨original, ho, rfl⟩ := Option.map_eq_some_iff.1 hdoc
  exact Template.isBlank_substitute p (h original ho)

theorem runSteps_withoutDocText {f : Feature} {s : Scenario}
    (h : ∀ step ∈ f.backgroundSteps ++ s.steps, step.WithoutDocText) :
    ∀ step ∈ runSteps f s, step.WithoutDocText := by
  intro step hstep
  rcases List.mem_append.1 hstep with hb | hs
  · obtain ⟨original, ho, rfl⟩ := List.mem_map.1 hb
    exact substituteStep_withoutDocText _ (h original (List.mem_append_left _ ho))
  · exact h step (List.mem_append_right _ hs)

/-- The script of every scenario is well formed, whatever was written in its feature. -/
theorem ofScenario_source_wellFormed (options : GenerationOptions) (f : Feature) (s : Scenario)
    (time : Timestamp) (h : ∀ step ∈ f.backgroundSteps ++ s.steps, step.WithoutDocText) :
    Lexer.WellFormed (ofScenario Vocabulary.builtin options f s time).source := by
  have hdraft : (draftOf Vocabulary.builtin f s).toContributions.WellFormed :=
    Draft.ofSteps_wellFormed Vocabulary.builtin_wellFormed _ (runSteps_withoutDocText h)
  exact render_wellFormed hdraft (Import.resolve_plainNames _ _ _) (plain_timestamp time).oneLine

/-- Quotes, line ends, brackets and the start of an expression, in every place that takes text. -/
def hostileText : String := r"it's `${ ]\" ++ "\u2028*/\n// )"

def hostileFeature : Feature where
  name := hostileText
  description := hostileText
  tags := [hostileText]
  sourcePath := hostileText
  background := some [Step.make "Given" ("the user is logged in as \"" ++ hostileText ++ "\"")
    none (some " ")]
  scenarios := []

def hostileScenario : Scenario where
  name := hostileText
  tags := []
  kind := .templated
  group := some hostileText
  parameters := Parameters.ofList [(hostileText, hostileText), ("threshold", "1")]
  steps := [Step.make hostileText hostileText none none,
    Step.make "When" "the user places an order" (some [["product"], [hostileText]]) none]

theorem hostile_source_wellFormed :
    (∀ step ∈ hostileFeature.backgroundSteps ++ hostileScenario.steps, step.WithoutDocText) ∧
      Lexer.WellFormed (ofScenario Vocabulary.builtin { baseUrl := hostileText }
        hostileFeature hostileScenario ⟨0⟩).source := by
  have hsteps : ∀ step ∈ hostileFeature.backgroundSteps ++ hostileScenario.steps,
      step.WithoutDocText := by
    have hblank : Text.isBlank " " = true := by decide
    simp [hostileFeature, hostileScenario, Feature.backgroundSteps, Step.make, Step.WithoutDocText,
      hblank]
  exact ⟨hsteps, ofScenario_source_wellFormed _ _ _ _ hsteps⟩

end Script

end LoadScript
