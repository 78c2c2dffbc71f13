import LoadScript.Proofs.Number.Whole
import LoadScript.Proofs.Script.Accumulation
import LoadScript.Proofs.Vocabulary.Search

set_option autoImplicit false

namespace LoadScript

/-! ## The sentence -/

namespace Pattern

/-- Of several choices the first one is preferred. -/
theorem oneOf_prefers (w : String) (words : List String) (rest : List Char) :
    (oneOf (w :: words)).Prefers (w.toList ++ rest) [] rest := by
  simp [Prefers, readings, afterWord?_append]

end Pattern

namespace Vocabulary.Expectations

open Pattern

def percentilePattern : Pattern :=
  "el percentil " ++ number ++ " del tiempo de respuesta debe ser menor " ++ toOrOf ++ " " ++
    milliseconds

def percentileSentence (a b : String) : String :=
  "el percentil " ++ a ++ " del tiempo de respuesta debe ser menor a " ++ b ++ " ms"

theorem milliseconds_prefers {ds : List Char} (some_digit : ds ≠ [])
    (digits : ds.all Chars.isAsciiDigit = true) :
    milliseconds.Prefers (ds ++ (" ".toList ++ ("ms".toList ++ []))) [ds] [] := by
  have behind : (" ".toList ++ ("ms".toList ++ [])).head? = some ' ' := rfl
  have captured := prefers_number some_digit digits (Chars.not_digit_of_space behind)
  have spaced := captured.append ((text_skips " ").prefers ("ms".toList ++ [])).maybe
  exact spaced.append ((text_skips "ms").prefers [])

theorem percentilePattern_prefers {ds es : List Char} (some_digit : ds ≠ [])
    (digits : ds.all Chars.isAsciiDigit = true) (some_digit' : es ≠ [])
    (digits' : es.all Chars.isAsciiDigit = true) :
    percentilePattern.Prefers ("el percentil ".toList ++ (ds ++
      (" del tiempo de respuesta debe ser menor ".toList ++ ("a".toList ++ (" ".toList ++
        (es ++ (" ".toList ++ ("ms".toList ++ [])))))))) [ds, es] [] := by
  let bound := es ++ (" ".toList ++ ("ms".toList ++ []))
  have behind : (" del tiempo de respuesta debe ser menor ".toList ++ ("a".toList ++
      (" ".toList ++ bound))).head? = some ' ' := rfl
  have captured := ((text_skips "el percentil ").prefers _).append
    (prefers_number some_digit digits (Chars.not_digit_of_space behind))
  have compared := captured.append
    ((text_skips " del tiempo de respuesta debe ser menor ").prefers _)
  have chosen := compared.append (oneOf_prefers "a" ["de"] (" ".toList ++ bound))
  have spaced := chosen.append ((text_skips " ").prefers bound)
  exact spaced.append (milliseconds_prefers some_digit' digits')

theorem match?_percentileSentence {a b : String} (ha : Text.IsDigits a) (hb : Text.IsDigits b) :
    percentilePattern.match? (percentileSentence a b) = some [a, b] := by
  have pieces : (percentileSentence a b).toList = "el percentil ".toList ++ (a.toList ++
      (" del tiempo de respuesta debe ser menor ".toList ++ ("a".toList ++ (" ".toList ++
        (b.toList ++ (" ".toList ++ ("ms".toList ++ []))))))) := by
    change ("el percentil " ++ a ++ (" del tiempo de respuesta debe ser menor " ++ "a" ++ " ") ++
      b ++ (" " ++ "ms")).toList = _
    simp only [String.toList_append, List.append_assoc, List.append_nil]
  have ends : (percentileSentence a b).toList = 'e' :: ("l percentil ".toList ++ a.toList ++
      " del tiempo de respuesta debe ser menor a ".toList ++ b.toList ++ " m".toList ++ ['s']) := by
    change ("e" ++ "l percentil " ++ a ++ " del tiempo de respuesta debe ser menor a " ++ b ++
      (" m" ++ "s")).toList = _
    simp only [String.toList_append, List.append_assoc]
    rfl
  have trimmed : Chars.trim (percentileSentence a b).toList = (percentileSentence a b).toList := by
    rw [ends]
    exact Chars.trim_of_ends (by decide) (by decide) _
  have covered := percentilePattern_prefers ha.1 ha.2 hb.1 hb.2
  rw [← pieces] at covered
  have matched := match?_of_prefers trimmed covered
  rwa [List.map_cons, List.map_singleton, String.ofList_toList, String.ofList_toList] at matched

theorem find?_percentileSentence {a b : String} (ha : Text.IsDigits a) (hb : Text.IsDigits b) :
    builtin.find? (percentileSentence a b) = some ⟨percentile percentilePattern, [a, b]⟩ := by
  have known : ⟨percentile, percentilePattern⟩ ∈ Vocabulary.sentences :=
    List.mem_of_getElem? (i := 24) rfl
  exact find?_of_sentence known (match?_percentileSentence ha hb)

/-! ## The rule -/

theorem numeral_of_isDigits {o : Occurrence} {i : Nat} (digits : Text.IsDigits (o.capture i))
    (small : Text.value (o.capture i) ≤ twoTo 53) (default : Nat) :
    numeral o i default = Nat.repr (Text.value (o.capture i)) := by
  have kept := @Numeral.ofTextOr_digits "" _ "" rfl digits rfl small (.ofNat default)
  rwa [String.empty_append, String.append_empty] at kept

/-- What steps with a sentence record is exactly a threshold. -/
structure Records (sentence : String) (t : Threshold) : Prop where
  /-- A step puts the threshold into a draft and shows it in a comment. Nothing else of the draft
  changes. -/
  push (p : Parameters) (d : Draft) (step : Step) : step.text = sentence →
    Draft.push builtin p d step = { d with
      thresholds := Draft.addThreshold t d.thresholds
      workload := d.workload ++
        [.group step.label ("// threshold: " ++ t.metric ++ " " ++ t.rule)] }
  finish (p : Parameters) (steps : List Step) (step : Step) (header : ScriptHeader)
    (profile : LoadProfile) (layout : ScriptLayout) : step ∈ steps → step.text = sentence →
    ∃ r ∈ ((Draft.ofSteps builtin p steps).finish header profile layout).thresholds,
      r.metric = t.metric ∧ t.rule ∈ r.rules

theorem records_of_find? {sentence : String} {pattern : Pattern} {captures : List String}
    {t : Threshold} (found : builtin.find? sentence = some ⟨percentile pattern, captures⟩)
    (rule : ∀ step p, (percentile pattern).thresholdOf ⟨captures, step, p⟩ = some t) :
    Records sentence t := by
  have explained (p : Parameters) (step : Step) (same : step.text = sentence) :
      explain builtin p step = some (percentile pattern, ⟨captures, step, p⟩) := by
    rw [explain, same, found]
    rfl
  constructor
  · intro p d step same
    have symbols : d.symbols ++ (percentile pattern).imports = d.symbols := List.append_nil _
    rw [Draft.push_of_explain_some d (explained p step same), Draft.addRecognized, symbols]
    cases rule step p
    rfl
  · intro p steps step header profile layout mem same
    have no_metrics (m : Metric) (absent : m ∈ (percentile pattern).metrics) :
        m ∈ (Draft.ofSteps builtin p steps).metrics := absurd absent List.not_mem_nil
    exact (Draft.covers_of_mem mem (explained p step same) no_metrics).threshold t (rule step p)

/-- Whole numbers up to 2 ^ 53 are written as they are: digits denote the same number behind zeros
and between blanks, and a bound on a percentile shows the numbers of its sentence. -/
theorem whole_bounds_kept :
    (∀ lead a trail default, Text.isBlank lead = true → Text.IsDigits a →
      Text.isBlank trail = true → Text.value a ≤ twoTo 53 →
      Numeral.ofTextOr (lead ++ a ++ trail) default = Nat.repr (Text.value a)) ∧
    ∀ a b, Text.IsDigits a → Text.IsDigits b → Text.value a ≤ twoTo 53 → Text.value b ≤ twoTo 53 →
      Records (percentileSentence a b) ⟨"http_req_duration",
        "p(" ++ Nat.repr (Text.value a) ++ ")<" ++ Nat.repr (Text.value b)⟩ := by
  constructor
  · intro lead a trail default before digits behind small
    exact Numeral.ofTextOr_digits before digits behind small default
  · intro a b ha hb small_a small_b
    refine records_of_find? (find?_percentileSentence ha hb) fun step p => ?_
    have first := @numeral_of_isDigits ⟨[a, b], step, p⟩ 0 ha small_a 95
    have second := @numeral_of_isDigits ⟨[a, b], step, p⟩ 1 hb small_b 500
    change some (Threshold.mk "http_req_duration" (percentileRule ⟨[a, b], step, p⟩)) = _
    rw [percentileRule, first, second]
    rfl

/-- A percentile with zeros in front, and the largest bound. -/
theorem largest_bound_kept :
    Numeral.ofTextOr ("\t" ++ "0099" ++ " ") .nan = Nat.repr 99 ∧
      Records (percentileSentence "0099" "9007199254740992")
        ⟨"http_req_duration", "p(" ++ Nat.repr 99 ++ ")<" ++ Nat.repr (twoTo 53)⟩ := by
  obtain ⟨numerals, bounds⟩ := whole_bounds_kept
  have digits : Text.IsDigits "0099" := ⟨by simp, by decide⟩
  have digits' : Text.IsDigits "9007199254740992" := ⟨by simp, by decide⟩
  have value : Text.value "0099" = 99 := by decide
  have value' : Text.value "9007199254740992" = twoTo 53 := by decide
  have small : Text.value "0099" ≤ twoTo 53 := by decide
  have kept := numerals "\t" "0099" " " .nan (by decide) digits (by decide) small
  have recorded := bounds "0099" "9007199254740992" digits digits' small (Nat.le_of_eq value')
  rw [value] at kept recorded
  rw [value'] at recorded
  exact ⟨kept, recorded⟩

end Vocabulary.Expectations

end LoadScript
