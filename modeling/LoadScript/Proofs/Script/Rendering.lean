import LoadScript.Proofs.Script.Literals
import LoadScript.Script.Render

set_option autoImplicit false

namespace LoadScript

namespace Text

def feedLines (s : String) : List (List Char) := s.toList.splitOn '\n'

theorem feedLines_feed (s t : String) :
    feedLines (s ++ "\n" ++ t) = feedLines s ++ feedLines t := by
  unfold feedLines
  rw [String.toList_append, String.toList_append, List.append_assoc]
  exact List.splitOn_append_cons_self _ _

theorem feedLines_of_no_feed {s : String} (h : '\n' ∉ s.toList) : feedLines s = [s.toList] :=
  List.splitOn_eq_singleton h

section Filtered

variable {wanted : List Char → Bool} (h : wanted [] = false)

include h in
theorem filter_feedLines_joinLines (ls : List String) :
    (feedLines (joinLines ls)).filter wanted = ls.flatMap fun l => (feedLines l).filter wanted := by
  have none_left : (feedLines "").filter wanted = [] := by simp [feedLines, h]
  unfold joinLines
  induction ls with
  | nil => exact none_left
  | cons l ls ih =>
    cases ls with
    | nil => simp
    | cons m ls =>
      rw [String.intercalate_cons_cons, feedLines_feed, List.filter_append, ih,
        List.flatMap_cons (x := l)]

include h in
theorem filter_feedLines_spaced (ss : List String) :
    (feedLines ("\n\n".intercalate ss)).filter wanted =
      ss.flatMap fun s => (feedLines s).filter wanted := by
  have gap : (feedLines "").filter wanted = [] := by simp [feedLines, h]
  induction ss with
  | nil => exact gap
  | cons s ss ih =>
    cases ss with
    | nil => simp
    | cons t ss =>
      have two : s ++ "\n\n" ++ "\n\n".intercalate (t :: ss) =
          s ++ "\n" ++ "" ++ "\n" ++ "\n\n".intercalate (t :: ss) := by
        rw [String.append_empty, show "\n\n" = "\n" ++ "\n" from rfl, ← String.append_assoc]
      rw [String.intercalate_cons_cons, two, feedLines_feed, feedLines_feed, List.filter_append,
        List.filter_append, gap, ih, List.append_nil, List.flatMap_cons (x := s)]

end Filtered

end Text

namespace Chars

theorem not_mem_of_mem_lines {s line : List Char} (h : line ∈ lines s) : '\n' ∉ line := by
  induction s using lines.induct generalizing line with
  | case1 => cases h
  | case2 rest ih =>
    rw [lines] at h
    obtain rfl | later := List.mem_cons.1 h
    · simp
    · exact ih later
  | case3 rest ih =>
    rw [lines] at h
    obtain rfl | later := List.mem_cons.1 h
    · simp
    · exact ih later
  | case4 c rest feed ret none ih =>
    rw [lines.eq_4 c rest feed ret, none] at h
    rw [List.mem_singleton.1 h, List.mem_singleton]
    exact Ne.symm feed
  | case5 c rest feed ret first more some ih =>
    rw [lines.eq_4 c rest feed ret, some] at h
    obtain rfl | later := List.mem_cons.1 h
    · have inner := ih (some ▸ List.mem_cons_self)
      simp [inner, Ne.symm feed]
    · exact ih (some ▸ List.mem_cons_of_mem first later)

end Chars

namespace Script

open Text Lexer

/-! ## Comments for unrecognised steps -/

def unrecognizedMark : String := "  // Unrecognized step: "

def isMarked (line : List Char) : Bool := unrecognizedMark.toList.isPrefixOf line

theorem unrecognizedMark_toList : unrecognizedMark.toList =
    [' ', ' ', '/', '/', ' ', 'U', 'n', 'r', 'e', 'c', 'o', 'g', 'n', 'i', 'z', 'e', 'd', ' ', 's',
      't', 'e', 'p', ':', ' '] :=
  String.toList_ofList

theorem not_isMarked_of_third {a b c : Char} {rest : List Char} (h : c ≠ '/') :
    isMarked (a :: b :: c :: rest) = false := by
  have third : ('/' == c) = false := by simpa using Ne.symm h
  simp [isMarked, unrecognizedMark_toList, List.isPrefixOf, third]

theorem not_isMarked_text {a b c : Char} {rest : List Char} (h : c ≠ '/') (more : String) :
    isMarked (String.ofList (a :: b :: c :: rest) ++ more).toList = false := by
  rw [String.toList_append, String.toList_ofList]
  exact not_isMarked_of_third h

theorem marked_oneLine (label : String) :
    ∀ c ∈ (unrecognizedMark ++ commentText label).toList, Chars.isLineTerminator c = false := by
  intro c hc
  have inside : OneLine (unrecognizedMark ++ commentText label) :=
    OneLine.append (by decide) (commentText_oneLine label)
  have other := inside c hc
  rw [mem_lineEnds_iff] at other
  simpa using other

theorem not_mem_feed_of_oneLine {s : String} (h : OneLine s) : '\n' ∉ s.toList :=
  fun mem => h '\n' mem (by decide)

def Unmarked (s : String) : Prop := (feedLines s).filter isMarked = []

theorem isMarked_nil : isMarked [] = false := by
  rw [isMarked, unrecognizedMark_toList]
  rfl

theorem unmarked_of_oneLine {s : String} (h : OneLine s) (other : isMarked s.toList = false) :
    Unmarked s := by
  rw [Unmarked, feedLines_of_no_feed (not_mem_feed_of_oneLine h)]
  exact List.filter_cons_of_neg (Bool.eq_false_iff.1 other)

theorem unmarked_joinLines {ls : List String} (h : ∀ l ∈ ls, Unmarked l) :
    Unmarked (joinLines ls) := by
  rw [Unmarked, filter_feedLines_joinLines isMarked_nil, List.flatMap_eq_nil_iff]
  exact h

/-- The lines of indented code are empty or begin with four blanks. -/
theorem indent_unmarked (code : String) : Unmarked (indent 4 code) := by
  refine unmarked_joinLines fun l mem => ?_
  obtain ⟨line, hline, rfl⟩ := List.mem_map.1 mem
  obtain ⟨chars, hchars, rfl⟩ := List.mem_map.1 hline
  split
  · exact unmarked_of_oneLine (by decide) isMarked_nil
  · have text : (spaces 4 ++ String.ofList chars).toList = ' ' :: ' ' :: ' ' :: ' ' :: chars := by
      rw [String.toList_append, spaces, String.toList_ofList, String.toList_ofList]
      rfl
    have inner := Chars.not_mem_of_mem_lines hchars
    rw [Unmarked, feedLines_of_no_feed (by simpa [text] using inner), text]
    exact List.filter_cons_of_neg (Bool.eq_false_iff.1 (not_isMarked_of_third (by decide)))

theorem group_unmarked (label code : String) : Unmarked (workloadBlock (.group label code)) := by
  have opening : OneLine ("  group(" ++ literal label ++ r", () => {") := by
    have start : OneLine "  group(" := by decide
    exact start.append (literal_oneLine label) |>.append (by decide)
  have first : isMarked ("  group(" ++ literal label ++ r", () => {").toList = false := by
    rw [String.append_assoc]
    exact not_isMarked_text (by decide) _
  refine unmarked_joinLines (List.forall_mem_cons.2 ⟨unmarked_of_oneLine opening first, ?_⟩)
  refine List.forall_mem_cons.2 ⟨indent_unmarked code, List.forall_mem_singleton.2 ?_⟩
  exact unmarked_of_oneLine (by decide) (by decide)

theorem unrecognized_marked (label : String) :
    (feedLines (workloadBlock (.unrecognized label))).filter isMarked =
      [(unrecognizedMark ++ commentText label).toList] := by
  have line : OneLine (unrecognizedMark ++ commentText label) :=
    OneLine.append (by decide) (commentText_oneLine label)
  have marked : isMarked (unrecognizedMark ++ commentText label).toList = true := by
    rw [isMarked, String.toList_append, List.isPrefixOf_iff_prefix]
    exact List.prefix_append _ _
  change (feedLines (unrecognizedMark ++ commentText label)).filter isMarked = _
  rw [feedLines_of_no_feed (not_mem_feed_of_oneLine line), List.filter_cons_of_pos marked,
    List.filter_nil]

theorem blocks_marked (items : List WorkloadItem) :
    items.flatMap (fun item => (feedLines (workloadBlock item)).filter isMarked) =
      (items.filter (!·.isGroup)).map fun item =>
        (unrecognizedMark ++ commentText item.label).toList := by
  induction items with
  | nil => rfl
  | cons item items ih =>
    rw [List.flatMap_cons, ih]
    cases item with
    | group label code =>
      rw [show (feedLines (workloadBlock (.group label code))).filter isMarked = [] from
        group_unmarked label code]
      rfl
    | unrecognized label =>
      rw [unrecognized_marked]
      rfl

theorem workloadSection_marked (items : List WorkloadItem) :
    (feedLines (workloadSection items)).filter isMarked =
      (items.filter (!·.isGroup)).map fun item =>
        (unrecognizedMark ++ commentText item.label).toList := by
  have opening : Unmarked r"export default function (data) {" :=
    unmarked_of_oneLine (by decide) (by decide)
  have declaration : Unmarked "  let res;" := unmarked_of_oneLine (by decide) (by decide)
  have closing : Unmarked r"}" := unmarked_of_oneLine (by decide) (by decide)
  unfold Unmarked at opening declaration closing
  rw [workloadSection, filter_feedLines_joinLines isMarked_nil, List.flatMap_cons,
    List.flatMap_cons, List.flatMap_cons, opening, closing, filter_feedLines_spaced isMarked_nil, List.flatMap_cons,
    declaration, List.flatMap_map, blocks_marked]
  simp

/-! ## Sections -/

theorem joinLines_ne_empty {l : String} (h : l ≠ "") (ls : List String) :
    joinLines (l :: ls) ≠ "" := by
  unfold joinLines
  cases ls with
  | nil => rwa [String.intercalate_singleton]
  | cons m ls =>
    rw [String.intercalate_cons_cons]
    intro empty
    simp [h] at empty

theorem workloadSection_ne_empty (items : List WorkloadItem) : workloadSection items ≠ "" :=
  joinLines_ne_empty (by decide) _

theorem headerSection_ne_empty (h : ScriptHeader) : headerSection h ≠ "" :=
  joinLines_ne_empty (by decide) _

theorem feedLines_of_mem_spaced {s : String} {ss : List String} (h : s ∈ ss) :
    ∃ before after, feedLines ("\n\n".intercalate ss ++ "\n") = before ++ feedLines s ++ after := by
  induction ss with
  | nil => cases h
  | cons t ss ih =>
    obtain rfl | later := List.mem_cons.1 h
    · cases ss with
      | nil =>
        refine ⟨[], feedLines "", ?_⟩
        rw [String.intercalate_singleton, List.nil_append, ← feedLines_feed, String.append_empty]
      | cons u ss =>
        refine ⟨[], feedLines ("\n" ++ "\n\n".intercalate (u :: ss) ++ "\n"), ?_⟩
        rw [String.intercalate_cons_cons, List.nil_append, ← feedLines_feed,
          show "\n\n" = "\n" ++ "\n" from rfl]
        simp only [String.append_assoc]
    · obtain ⟨before, after, split⟩ := ih later
      refine ⟨feedLines (t ++ "\n") ++ before, after, ?_⟩
      have apart : t ++ "\n\n" ++ "\n\n".intercalate ss ++ "\n" =
          t ++ "\n" ++ "\n" ++ ("\n\n".intercalate ss ++ "\n") := by
        rw [show "\n\n" = "\n" ++ "\n" from rfl]
        simp only [String.append_assoc]
      rw [String.intercalate_cons_of_ne_nil (List.ne_nil_of_mem later), apart, feedLines_feed,
        split]
      simp only [List.append_assoc]

/-- The body of a script stands in it line by line. -/
theorem feedLines_render_workload (m : ScriptModule) : ∃ before after,
    feedLines (render m) = before ++ feedLines (workloadSection m.workload) ++ after := by
  refine feedLines_of_mem_spaced (List.mem_filter.2 ⟨?_, ?_⟩)
  · simp [sections]
  · simpa using workloadSection_ne_empty m.workload

/-! ## The time of generation -/

def originLines (h : ScriptHeader) : List String :=
  [ruler,
   "// Generated by bdd-k6. Do not edit by hand.",
   "//",
   "// Feature:   " ++ commentText h.feature,
   "// Scenario:  " ++ commentText h.scenario] ++
  (h.exampleGroup.map fun group => "// Examples:  " ++ commentText group).toList ++
  ["// Source:    " ++ commentText h.sourcePath] ++
  parameterLines h.parameters

theorem headerSection_eq (h : ScriptHeader) :
    headerSection h =
      joinLines (originLines h) ++ "\n" ++
        ("// Generated: " ++ h.generatedAt ++ "\n" ++ ruler) := by
  change joinLines (originLines h ++ ["// Generated: " ++ h.generatedAt, ruler]) = _
  unfold joinLines
  rw [String.intercalate_append_of_ne_nil (by simp [originLines]) (by simp),
    String.intercalate_cons_cons, String.intercalate_singleton]

def lowerSections (m : ScriptModule) : List String := [
  importSection m.imports,
  baseUrlSection m.baseUrl,
  metricSection m.metrics,
  optionSection m.profile m.thresholds,
  setupSection m.setup,
  workloadSection m.workload,
  teardownSection m.header.scenario,
  reportSection m]

def belowTime (m : ScriptModule) : String :=
  "\n\n".intercalate (("\n" ++ ruler) :: (lowerSections m).filter (fun s => s ≠ "")) ++ "\n"

theorem render_eq (m : ScriptModule) :
    render m = joinLines (originLines m.header) ++ "\n" ++ "// Generated: " ++
      m.header.generatedAt ++ belowTime m := by
  have header : (sections m).filter (fun s => s ≠ "") =
      headerSection m.header :: (lowerSections m).filter (fun s => s ≠ "") :=
    List.filter_cons_of_pos (by simpa using headerSection_ne_empty m.header)
  have front : headerSection m.header =
      joinLines (originLines m.header) ++ "\n" ++ "// Generated: " ++ m.header.generatedAt ++
        ("\n" ++ ruler) := by
    rw [headerSection_eq]
    simp only [String.append_assoc]
  rw [render, header, front, String.intercalate_cons_append, belowTime]
  simp only [String.append_assoc]

end Script

namespace ScriptModule

def atTime (m : ScriptModule) (time : String) : ScriptModule :=
  { m with header := { m.header with generatedAt := time } }

/-- The time stands at one place of a script, and nothing else depends on it. -/
theorem render_atTime (m : ScriptModule) : ∃ lead rest, ∀ time,
    Script.render (m.atTime time) = lead ++ "// Generated: " ++ time ++ rest := by
  have origin (time : String) :
      Script.originLines (m.atTime time).header = Script.originLines m.header := rfl
  have below (time : String) : Script.belowTime (m.atTime time) = Script.belowTime m := rfl
  refine ⟨Text.joinLines (Script.originLines m.header) ++ "\n", Script.belowTime m, fun time => ?_⟩
  rw [Script.render_eq, origin, below]
  rfl

end ScriptModule

end LoadScript
