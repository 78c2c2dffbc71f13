import LoadScript.Proofs.Feature.Names
import LoadScript.Proofs.Script.Literals
import LoadScript.Proofs.Text.Blank
import LoadScript.Script.Render

/-!
# What the options of a script say

Numbers, literals and lists are written so that each can be split off the front of whatever text
follows it, and the parts of the options are told apart by the characters they start with. So the
options of a script have one reading: the load profile and the thresholds that were written.
-/

set_option autoImplicit false

namespace LoadScript

namespace Text

/-! ## Writers whose texts end by themselves -/

/-- What was written, and what follows it, can be told from the whole text. -/
def SelfDelimiting {α : Type} (write : α → String) : Prop :=
  ∀ ⦃a b : α⦄ ⦃r s : String⦄, write a ++ r = write b ++ s → a = b ∧ r = s

/-- No text starts with both. -/
def Unlike (v w : String) : Prop := ∀ r s : String, v ++ r ≠ w ++ s

theorem unlike_of_zip {v w : String}
    (differ : (v.toList.zip w.toList).any (fun p => p.1 != p.2) = true) : Unlike v w := by
  intro r s same
  have chars := congrArg String.toList same
  rw [String.toList_append, String.toList_append] at chars
  obtain ⟨⟨c, d⟩, paired, other⟩ := List.any_eq_true.1 differ
  obtain ⟨i, hi, at_i⟩ := List.mem_iff_getElem.1 paired
  rw [List.getElem_zip, Prod.mk.injEq] at at_i
  rw [List.length_zip] at hi
  have left : (v.toList ++ r.toList)[i]? = some c := by
    rw [List.getElem?_append_left (by omega), List.getElem?_eq_getElem (by omega), at_i.1]
  have right : (w.toList ++ s.toList)[i]? = some d := by
    rw [List.getElem?_append_left (by omega), List.getElem?_eq_getElem (by omega), at_i.2]
  rw [chars, right, Option.some.injEq] at left
  simp [left] at other

theorem Unlike.extend {v w : String} (h : Unlike v w) (more : String) : Unlike (v ++ more) w := by
  intro r s same
  rw [String.append_assoc] at same
  exact h _ _ same

section

variable {α : Type} {write : α → String}

/-- One text after the other, up to a text that none of them starts with. -/
theorem SelfDelimiting.join (one : SelfDelimiting write) {stop : String}
    (ends : ∀ a, Unlike (write a) stop) :
    SelfDelimiting fun items : List α => String.join (items.map write) ++ stop := by
  -- Both lists are cut item by item: where only one goes on, the other has the stop in its place.
  intro items
  induction items with
  | nil =>
    intro others r s same
    cases others with
    | nil => simpa using same
    | cons b others =>
      simp only [List.map_nil, String.join_nil, String.empty_append, List.map_cons,
        String.join_cons, String.append_assoc] at same
      exact (ends b _ _ same.symm).elim
  | cons a items ih =>
    intro others r s same
    cases others with
    | nil =>
      simp only [List.map_nil, String.join_nil, String.empty_append, List.map_cons,
        String.join_cons, String.append_assoc] at same
      exact (ends a _ _ same).elim
    | cons b others =>
      simp only [List.map_cons, String.join_cons, String.append_assoc] at same
      obtain ⟨rfl, behind⟩ := one same
      rw [← String.append_assoc, ← String.append_assoc] at behind
      obtain ⟨rfl, rest⟩ := ih behind
      exact ⟨rfl, rest⟩

theorem intercalate_cons (sep first : String) (rest : List String) :
    sep.intercalate (first :: rest) = first ++ String.join (rest.map (sep ++ ·)) := by
  induction rest generalizing first with
  | nil => simp
  | cons next rest ih =>
    rw [String.intercalate_cons_cons, ih, List.map_cons, String.join_cons]
    simp only [String.append_assoc]

/-- A separated list up to a text that neither an item nor a separator starts with. -/
theorem SelfDelimiting.intercalate (one : SelfDelimiting write) {sep stop : String}
    (ends : ∀ a, Unlike (write a) stop) (between : Unlike sep stop) :
    SelfDelimiting fun items : List α => sep.intercalate (items.map write) ++ stop := by
  have separated : SelfDelimiting fun a => sep ++ write a := by
    intro a b r s same
    simp only [String.append_assoc, String.append_right_inj] at same
    exact one same
  have tail := separated.join fun a => between.extend (write a)
  intro items others r s same
  cases items with
  | nil =>
    cases others with
    | nil => simpa using same
    | cons b others =>
      simp only [List.map_nil, String.intercalate_nil, String.empty_append, List.map_cons,
        intercalate_cons, String.append_assoc] at same
      exact (ends b _ _ same.symm).elim
  | cons a items =>
    cases others with
    | nil =>
      simp only [List.map_nil, String.intercalate_nil, String.empty_append, List.map_cons,
        intercalate_cons, String.append_assoc] at same
      exact (ends a _ _ same).elim
    | cons b others =>
      simp only [List.map_cons, intercalate_cons, List.map_map, String.append_assoc] at same
      obtain ⟨rfl, behind⟩ := one same
      rw [← String.append_assoc, ← String.append_assoc] at behind
      obtain ⟨rfl, rest⟩ := tail behind
      exact ⟨rfl, rest⟩

end

/-- A number ends where a text begins that no number continues with. -/
theorem repr_append_inj {m n : Nat} {stop r s : String}
    (same : Nat.repr m ++ (stop ++ r) = Nat.repr n ++ (stop ++ s))
    (ends : ∃ c ∈ stop.toList.head?, c.isDigit = false) : m = n ∧ r = s := by
  obtain ⟨c, first, other⟩ := ends
  obtain ⟨more, chars⟩ : ∃ more, stop.toList = c :: more := List.head?_eq_some_iff.1 first
  have digits (k : Nat) (rest : String) :
      (Nat.repr k ++ (stop ++ rest)).toList.takeWhile Char.isDigit = (Nat.repr k).toList := by
    rw [String.toList_append, String.toList_append, chars, List.cons_append]
    exact Chars.takeWhile_before (fun _ => Scenario.isDigit_of_mem_repr) other _
  have number : m = n := by
    apply Scenario.repr_inj
    rw [← String.toList_inj, ← digits m r, same, digits n s]
  subst number
  rw [String.append_right_inj, String.append_right_inj] at same
  exact ⟨rfl, same⟩

def endLines (ls : List String) : String := String.join (ls.map (· ++ "\n"))

theorem endLines_append (ls more : List String) :
    endLines (ls ++ more) = endLines ls ++ endLines more := by
  simp only [endLines, List.map_append, String.join_append]

theorem joinLines_concat (ls : List String) (last : String) :
    joinLines (ls ++ [last]) = endLines ls ++ last := by
  induction ls with
  | nil => simp [joinLines, endLines]
  | cons l ls ih =>
    obtain ⟨next, rest, split⟩ := List.exists_cons_of_ne_nil (l := ls ++ [last]) (by simp)
    rw [joinLines, split] at ih
    rw [joinLines, List.cons_append, split, String.intercalate_cons_cons, ih]
    simp only [endLines, List.map_cons, String.join_cons, String.append_assoc]

end Text

namespace Script

open Text

theorem literal_selfDelimiting : SelfDelimiting literal := by
  intro text other r s same
  have read := readLiteral_append text r
  rw [same, readLiteral_append, Option.some.injEq, Prod.mk.injEq] at read
  exact ⟨read.1.symm, read.2.symm⟩

theorem literal_unlike (text : String) {stop : String} (other : Unlike "'" stop) :
    Unlike (literal text) stop := by
  have quoted : literal text =
      "'" ++ String.ofList (text.toList.flatMap Chars.literalChar ++ ['\'']) := by
    simp [literal, Chars.literal]
  rw [quoted]
  exact other.extend _

/-! ## Load profiles -/

theorem stageLine_selfDelimiting :
    SelfDelimiting fun stage => "      " ++ stageLine stage ++ "\n" := by
  rintro ⟨seconds, target⟩ ⟨seconds', target'⟩ r s same
  simp only [stageLine, braced, String.append_assoc, String.append_right_inj] at same
  obtain ⟨rfl, behind⟩ := repr_append_inj same ⟨'s', by decide, by decide⟩
  obtain ⟨rfl, rest⟩ := repr_append_inj behind ⟨' ', by decide, by decide⟩
  simp only [String.append_right_inj] at rest
  exact ⟨rfl, rest⟩

/-- The stages are deeper in the text than the bracket that closes them. -/
theorem stages_selfDelimiting : SelfDelimiting fun stages : List Stage =>
    String.join (stages.map fun stage => "      " ++ stageLine stage ++ "\n") ++ "      ],\n" := by
  have deeper : Unlike ("      " ++ "  ") "      ],\n" := unlike_of_zip (by decide)
  refine stageLine_selfDelimiting.join fun stage r s same => ?_
  simp only [stageLine, String.append_assoc] at same
  exact deeper _ _ (String.append_assoc.trans same)

theorem endLines_fixed (users iterations : Nat) :
    endLines ((profileLines (.fixed users iterations)).map ("      " ++ ·)) =
      "      executor: 'per-vu-iterations',\n      vus: " ++ (Nat.repr users ++
        (",\n      iterations: " ++ (Nat.repr iterations ++ ",\n"))) := by
  simp [profileLines, endLines, ← String.toList_inj]

theorem endLines_ramping (start : Nat) (stages : List Stage) :
    endLines ((profileLines (.ramping start stages)).map ("      " ++ ·)) =
      "      executor: 'ramping-vus',\n      startVUs: " ++ (Nat.repr start ++
        (",\n      stages: [\n" ++ (String.join
          (stages.map fun stage => "      " ++ stageLine stage ++ "\n") ++ "      ],\n"))) := by
  simp [profileLines, endLines, ← String.toList_inj, Function.comp_def]

theorem profileLines_selfDelimiting :
    SelfDelimiting fun profile => endLines ((profileLines profile).map ("      " ++ ·)) := by
  have kinds : Unlike "      executor: 'per-vu-iterations',\n      vus: "
      "      executor: 'ramping-vus',\n      startVUs: " := unlike_of_zip (by decide)
  intro profile other r s same
  cases profile with
  | fixed users iterations =>
    cases other with
    | fixed users' iterations' =>
      simp only [endLines_fixed, String.append_assoc, String.append_right_inj] at same
      obtain ⟨rfl, behind⟩ := repr_append_inj same ⟨',', by decide, by decide⟩
      obtain ⟨rfl, rest⟩ := repr_append_inj behind ⟨',', by decide, by decide⟩
      exact ⟨rfl, rest⟩
    | ramping start stages =>
      simp only [endLines_fixed, endLines_ramping, String.append_assoc] at same
      exact (kinds _ _ same).elim
  | ramping start stages =>
    cases other with
    | fixed users iterations =>
      simp only [endLines_fixed, endLines_ramping, String.append_assoc] at same
      exact (kinds _ _ same.symm).elim
    | ramping start' stages' =>
      simp only [endLines_ramping, String.append_assoc, String.append_right_inj] at same
      obtain ⟨rfl, behind⟩ := repr_append_inj same ⟨',', by decide, by decide⟩
      rw [← String.append_assoc, ← String.append_assoc] at behind
      obtain ⟨rfl, rest⟩ := stages_selfDelimiting behind
      exact ⟨rfl, rest⟩

/-! ## Thresholds -/

theorem rules_selfDelimiting : SelfDelimiting fun rules : List String =>
    ", ".intercalate (rules.map literal) ++ "]," :=
  literal_selfDelimiting.intercalate
    (fun rule => literal_unlike rule (unlike_of_zip (by decide))) (unlike_of_zip (by decide))

theorem thresholdLine_selfDelimiting :
    SelfDelimiting fun rules => thresholdLine rules ++ "\n" := by
  rintro ⟨metric, rules⟩ ⟨metric', rules'⟩ r s same
  simp only [thresholdLine, String.append_assoc, String.append_right_inj] at same
  obtain ⟨rfl, behind⟩ := literal_selfDelimiting same
  rw [String.append_right_inj] at behind
  obtain ⟨rfl, rest⟩ := @rules_selfDelimiting rules rules' ("\n" ++ r) ("\n" ++ s)
    (by simpa only [String.append_assoc] using behind)
  rw [String.append_right_inj] at rest
  exact ⟨rfl, rest⟩

theorem thresholdTable_selfDelimiting : SelfDelimiting fun thresholds : List MetricRules =>
    String.join (thresholds.map fun rules => thresholdLine rules ++ "\n") ++
      (r"  }," ++ "\n" ++ r"};") := by
  have deeper : Unlike "    " (r"  }," ++ "\n" ++ r"};") := unlike_of_zip (by decide)
  refine thresholdLine_selfDelimiting.join fun rules r s same => ?_
  simp only [thresholdLine, String.append_assoc] at same
  exact deeper _ _ same

def optionsEnd (thresholds : List MetricRules) : String :=
  endLines (thresholdLines thresholds) ++ r"};"

theorem optionsEnd_nil : optionsEnd [] = r"};" := rfl

theorem optionsEnd_cons (rules : MetricRules) (more : List MetricRules) :
    optionsEnd (rules :: more) = r"  thresholds: {" ++ "\n" ++ (String.join
      ((rules :: more).map fun rules => thresholdLine rules ++ "\n") ++
        (r"  }," ++ "\n" ++ r"};")) := by
  simp [optionsEnd, thresholdLines, endLines, ← String.toList_inj, Function.comp_def]

theorem optionsEnd_selfDelimiting : SelfDelimiting optionsEnd := by
  have present : Unlike (r"  thresholds: {" ++ "\n") r"};" := unlike_of_zip (by decide)
  intro thresholds others r s same
  cases thresholds with
  | nil =>
    cases others with
    | nil => exact ⟨rfl, (String.append_right_inj _).1 same⟩
    | cons rules others =>
      rw [optionsEnd_nil, optionsEnd_cons, String.append_assoc] at same
      exact (present _ _ same.symm).elim
  | cons rules thresholds =>
    cases others with
    | nil =>
      rw [optionsEnd_nil, optionsEnd_cons, String.append_assoc] at same
      exact (present _ _ same).elim
    | cons rules' others =>
      simp only [optionsEnd_cons, String.append_assoc, String.append_right_inj] at same
      exact thresholdTable_selfDelimiting (by simpa only [String.append_assoc] using same)

/-! ## The whole section -/

theorem optionSection_eq (profile : LoadProfile) (thresholds : List MetricRules) :
    optionSection profile thresholds =
      endLines [r"export const options = {", r"  scenarios: {", r"    default: {"] ++
      (endLines ((profileLines profile).map ("      " ++ ·)) ++
        (endLines [r"    },", r"  },"] ++
          optionsEnd thresholds)) := by
  rw [optionSection, joinLines_concat]
  simp only [endLines_append, optionsEnd, String.append_assoc]

/-- The options can be read off a script at the place where they start. -/
theorem optionSection_selfDelimiting :
    SelfDelimiting fun options : LoadProfile × List MetricRules =>
      optionSection options.1 options.2 := by
  rintro ⟨profile, thresholds⟩ ⟨profile', thresholds'⟩ r s same
  simp only [optionSection_eq, String.append_assoc, String.append_right_inj] at same
  obtain ⟨rfl, behind⟩ := profileLines_selfDelimiting same
  rw [String.append_right_inj] at behind
  obtain ⟨rfl, rest⟩ := optionsEnd_selfDelimiting behind
  exact ⟨rfl, rest⟩

/-- Scripts with the same options have the same load profile, and the same thresholds with the same
rules in the same order, whatever the metrics and the rules are called. -/
theorem optionSection_faithful (m n : ScriptModule)
    (same : optionSection m.profile m.thresholds = optionSection n.profile n.thresholds) :
    m.profile = n.profile ∧ m.thresholds = n.thresholds := by
  have behind : optionSection m.profile m.thresholds ++ "" =
      optionSection n.profile n.thresholds ++ "" := by rw [same]
  obtain ⟨options, -⟩ := @optionSection_selfDelimiting
    (m.profile, m.thresholds) (n.profile, n.thresholds) "" "" behind
  exact Prod.mk.inj options

def rampUnder (rules : List String) (baseUrl : String) : ScriptModule where
  metrics := []
  thresholds := [⟨"http_req_duration", rules⟩, ⟨"'], ", []⟩]
  setup := []
  workload := []
  header := ⟨"F", "S", none, "f.feature", .empty, ""⟩
  imports := []
  profile := .ramping 1 [⟨30, 10⟩, ⟨0, 0⟩]
  baseUrl := baseUrl
  reportDir := "reports"
  reportSlug := "s"

/-- Two scripts for two hosts share their options, and a rule that looks like two is one rule. -/
theorem rampUnder_faithful :
    (optionSection (rampUnder ["a', 'b"] "u").profile (rampUnder ["a', 'b"] "u").thresholds =
        optionSection (rampUnder ["a', 'b"] "v").profile (rampUnder ["a', 'b"] "v").thresholds ∧
      (rampUnder ["a', 'b"] "u").profile = (rampUnder ["a', 'b"] "v").profile ∧
      (rampUnder ["a', 'b"] "u").thresholds = (rampUnder ["a', 'b"] "v").thresholds) ∧
    optionSection (rampUnder ["a', 'b"] "u").profile (rampUnder ["a', 'b"] "u").thresholds ≠
      optionSection (rampUnder ["a", "b"] "u").profile (rampUnder ["a", "b"] "u").thresholds := by
  refine ⟨⟨rfl, optionSection_faithful (rampUnder ["a', 'b"] "u") (rampUnder ["a', 'b"] "v") rfl⟩,
    fun same => ?_⟩
  have thresholds := (optionSection_faithful _ _ same).2
  simp [rampUnder] at thresholds

end Script

end LoadScript
