import LoadScript.Proofs.Number.Reading
import LoadScript.Proofs.Script.Closed
import LoadScript.Proofs.Script.Origins
import LoadScript.Proofs.Script.Rendering
import LoadScript.Proofs.Text.Blank
import LoadScript.Proofs.Text.Case
import LoadScript.Proofs.Vocabulary.Unambiguous

/-!
# Search terms

A search term from an example row is put between quotation marks, is captured from there, and is
written into the request as a literal. On this way it stays the same text, whatever it is; only a
term with a quotation mark of its own is not understood, because no sentence of the vocabulary has
more than two of them.
-/

set_option autoImplicit false

namespace LoadScript

/-! ## Quotation marks of a sentence -/

namespace CharSet

theorem rows_above_quote : ∀ row ∈ Chars.foldRows ++ Chars.lowerRows,
    (0x22 : Int) < row.first + row.shift := by
  decide +kernel

/-- Nothing but a quotation mark differs from it in case only. -/
theorem eq_quote_of_fold {c : Char} (h : Chars.fold c = '"') : c = '"' :=
  Chars.eq_of_mapByRows h (by decide) fun row mem =>
    Chars.CaseRow.reaches_eq_false (rows_above_quote row mem)

def hasQuote : CharSet → Bool
  | .like c => c == '"'
  | .among chars => chars.contains '"'
  | .ofClass cls => cls.holds '"'

theorem hasQuote_of_holds {set : CharSet} (h : set.holds '"' = true) : set.hasQuote = true := by
  cases set with
  | like c =>
    have same : Chars.fold c = Chars.fold '"' := of_decide_eq_true h
    have quote : Chars.fold '"' = '"' := by decide +kernel
    exact beq_iff_eq.2 (eq_quote_of_fold (same.trans quote))
  | among chars => exact h
  | ofClass cls => exact h

end CharSet

namespace Shape

def quotes : Shape → Nat
  | .never => 0
  | .done => 0
  | .one set => if set.hasQuote then 1 else 0
  | .many _ => 0
  | .either a b => max a.quotes b.quotes
  | .seq a b => a.quotes + b.quotes

theorem count_quotes_le {a : Shape} {s : List Char} (h : a.Covers s) : s.count '"' ≤ a.quotes := by
  induction a generalizing s with
  | never => exact h.elim
  | done =>
    cases h
    exact Nat.le_refl 0
  | one set =>
    obtain ⟨c, rfl, holds⟩ := h
    by_cases same : c = '"'
    · subst same
      simp [quotes, CharSet.hasQuote_of_holds holds]
    · simp [same]
  | many cls =>
    have unquoted : cls.holds '"' = false := by cases cls <;> decide
    have absent : '"' ∉ s := fun mem => by simp [h '"' mem] at unquoted
    exact Nat.le_of_eq (List.count_eq_zero.2 absent)
  | either a b iha ihb =>
    obtain h | h := h
    · exact Nat.le_trans (iha h) (Nat.le_max_left _ _)
    · exact Nat.le_trans (ihb h) (Nat.le_max_right _ _)
  | seq a b iha ihb =>
    obtain ⟨x, y, rfl, hx, hy⟩ := h
    rw [List.count_append]
    exact Nat.add_le_add (iha hx) (ihb hy)

end Shape

namespace Vocabulary

theorem sentences_quotes : ∀ s ∈ sentences, s.pattern.shape.quotes ≤ 2 := by decide +kernel

theorem count_quotes_of_find? {text : String} {found : Recognition}
    (h : builtin.find? text = some found) : (Chars.trim text.toList).count '"' ≤ 2 := by
  obtain ⟨d, mem, recognized⟩ := List.exists_of_findSome?_eq_some h
  obtain ⟨captures, covered, -⟩ := Option.map_eq_some_iff.1 recognized
  obtain ⟨s, hs, pattern⟩ := exists_sentence mem
  rw [pattern] at covered
  calc
    (Chars.trim text.toList).count '"' ≤ _ :=
      Shape.count_quotes_le (Pattern.covers_of_match? covered)
    _ ≤ 2 := sentences_quotes s hs

end Vocabulary

/-! ## Captured terms and numbers -/

namespace Chars

theorem trim_of_ends {c d : Char} (first : isBlank c = false) (last : isBlank d = false)
    (s : List Char) : trim (c :: (s ++ [d])) = c :: (s ++ [d]) := by
  have between : trim ([] ++ c :: (s ++ [d]) ++ []) = c :: (s ++ [d]) :=
    trim_between rfl rfl rfl first (by rw [← List.cons_append, List.getLast?_concat]) last
  simpa using between

theorem trim_quoted {c : Char} (visible : isBlank c = false) (s term : List Char) :
    trim (c :: s ++ (term ++ ['"'])) = c :: s ++ (term ++ ['"']) := by
  have ends := trim_of_ends visible (show isBlank '"' = false by decide) (s ++ term)
  simpa using ends

theorem not_digit_of_space {s : List Char} (space : s.head? = some ' ') (c : Char)
    (first : s.head? = some c) : isDecimalDigit c = false := by
  rw [space] at first
  cases first
  decide +kernel

end Chars

namespace Pattern

/-- The pattern reads the text in one way and captures nothing. -/
def Skips (p : Pattern) (s : List Char) : Prop := ∀ rest, p.readings (s ++ rest) = [([], rest)]

/-- The pattern does not read a text that begins like this. -/
def Refuses (p : Pattern) (s : List Char) : Prop := ∀ rest, p.readings (s ++ rest) = []

theorem text_skips (w : String) : (text w).Skips w.toList := by
  intro rest
  simp [readings, afterWord?_append]

theorem afterWord?_of_differ {a b : Char} (differ : Chars.fold a ≠ Chars.fold b)
    (same w s : List Char) : afterWord? (same ++ a :: w) (same ++ b :: s) = none := by
  induction same with
  | nil => simp [afterWord?, differ]
  | cons c same ih => simpa [afterWord?] using ih

theorem text_refuses {a b : Char} (differ : Chars.fold a ≠ Chars.fold b) (same w s : List Char) :
    (text (String.ofList (same ++ a :: w))).Refuses (same ++ b :: s) := by
  intro rest
  simp [readings, afterWord?_of_differ differ]

theorem Skips.omit {p q r : Pattern} {s t : List Char} (hp : p.Skips s) (plain : q.captures = 0)
    (absent : q.Refuses t) (hr : r.Skips t) : (p ++ maybe q ++ r).Skips (s ++ t) := by
  intro rest
  change ((p.seq (maybe q)).seq r).readings _ = _
  simp [readings, List.append_assoc, hp (t ++ rest), absent rest, plain, hr rest]

theorem Skips.keep {p q : Pattern} {s t : List Char} (hp : p.Skips s) (plain : p.captures = 0)
    (needed : q.Refuses s) (hq : q.Skips t) : (maybe p ++ q).Skips (s ++ t) := by
  intro rest
  change ((maybe p).seq q).readings _ = _
  simp [readings, List.append_assoc, hp (t ++ rest), plain, needed (t ++ rest), hq rest]

/-- The reading that the pattern prefers captures `parts` and leaves `rest`. -/
def Prefers (p : Pattern) (s : List Char) (parts : List (List Char)) (rest : List Char) : Prop :=
  ∃ more, p.readings s = (parts, rest) :: more

theorem Skips.prefers {p : Pattern} {s : List Char} (h : p.Skips s) (rest : List Char) :
    p.Prefers (s ++ rest) [] rest :=
  ⟨[], h rest⟩

theorem Prefers.maybe {p : Pattern} {s rest : List Char} {parts : List (List Char)}
    (h : p.Prefers s parts rest) : (maybe p).Prefers s parts rest := by
  obtain ⟨more, read⟩ := h
  rw [Prefers, readings, read]
  exact ⟨_, rfl⟩

theorem Prefers.append {p q : Pattern} {s rest last : List Char} {parts more : List (List Char)}
    (hp : p.Prefers s parts rest) (hq : q.Prefers rest more last) :
    (p ++ q).Prefers s (parts ++ more) last := by
  obtain ⟨ps, read_p⟩ := hp
  obtain ⟨qs, read_q⟩ := hq
  change ∃ ms, (p.seq q).readings s = _ :: ms
  rw [readings, read_p, List.flatMap_cons]
  simp only [read_q, List.map_cons, List.cons_append]
  exact ⟨_, rfl⟩

theorem match?_of_prefers {p : Pattern} {s : String} {parts : List (List Char)}
    (trimmed : Chars.trim s.toList = s.toList) (h : p.Prefers s.toList parts []) :
    p.match? s = some (parts.map String.ofList) := by
  obtain ⟨more, read⟩ := h
  rw [match?, trimmed, read]
  rfl

theorem runRests_zero (s : List Char) (len : Nat) :
    ∃ more, runRests 0 s len = s.drop len :: more := by
  cases len <;> simp [runRests]

theorem prefers_quotable {term : List Char} (unquoted : '"' ∉ term) :
    quotableOrEmpty.Prefers (term ++ ['"']) [term] ['"'] := by
  have run : (term ++ ['"']).takeWhile CharClass.unquoted.holds = term := by
    have all : ∀ c ∈ term, CharClass.unquoted.holds c = true := by
      intro c mem
      have differs : c ≠ '"' := fun same => unquoted (same ▸ mem)
      simpa [CharClass.holds] using differs
    rw [List.takeWhile_append_of_pos all]
    simp [CharClass.holds]
  obtain ⟨more, rests⟩ := runRests_zero (term ++ ['"']) term.length
  simp [Prefers, quotableOrEmpty, readings, run, rests]

theorem prefers_number {digits rest : List Char} (some_digit : digits ≠ [])
    (all : digits.all Chars.isAsciiDigit = true)
    (behind : ∀ c, rest.head? = some c → Chars.isDecimalDigit c = false) :
    number.Prefers (digits ++ rest) [digits] rest := by
  have taken : digits.all CharClass.digit.holds = true := by
    rw [List.all_eq_true] at all ⊢
    intro c mem
    exact Chars.isDecimalDigit_of_isAsciiDigit (all c mem)
  have run : (digits ++ rest).takeWhile CharClass.digit.holds = digits :=
    Chars.takeWhile_of_head? taken behind
  obtain ⟨k, length⟩ : ∃ k, digits.length = k + 1 :=
    ⟨digits.length - 1, (Nat.sub_add_cancel (List.length_pos_iff.2 some_digit)).symm⟩
  have rests : ∃ more, runRests 1 (digits ++ rest) digits.length = rest :: more := by
    rw [length, runRests, if_pos (by omega), ← length, List.drop_left]
    exact ⟨_, rfl⟩
  obtain ⟨more, rests⟩ := rests
  simp [Prefers, number, readings, run, rests]

theorem match?_quoted {lead : Pattern} {c : Char} {s term : List Char} (h : lead.Skips (c :: s))
    (visible : Chars.isBlank c = false) (unquoted : '"' ∉ term) :
    (lead ++ quotableOrEmpty ++ text "\"").match? (String.ofList (c :: s ++ (term ++ ['"']))) =
      some [String.ofList term] := by
  have quoted := (h.prefers _).append (prefers_quotable unquoted)
  have closed := quoted.append ((text_skips "\"").prefers [])
  rw [← @String.toList_ofList (c :: s ++ (term ++ ['"']))] at closed
  refine match?_of_prefers ?_ closed
  rw [String.toList_ofList, Chars.trim_quoted visible]

end Pattern

/-! ## Latency bounds -/

namespace Chars

theorem dropReversedUnit_spec (s : List Char) :
    ∃ k, s = (List.replicate k ['s', 'm']).flatten ++ dropReversedUnit s ∧
      ¬ ['s', 'm'] <+: dropReversedUnit s := by
  fun_induction dropReversedUnit s with
  | case1 rest ih =>
    obtain ⟨k, split, whole⟩ := ih
    refine ⟨k + 1, ?_, whole⟩
    rw [List.replicate_succ, List.flatten_cons, List.append_assoc, ← split]
    rfl
  | case2 s other =>
    refine ⟨0, rfl, ?_⟩
    rintro ⟨rest, rfl⟩
    exact other rest rfl

/-- The text is what is left without the unit, and the unit some number of times. -/
theorem dropUnit_spec (s : List Char) :
    ∃ k, s = dropUnit s ++ (List.replicate k ['m', 's']).flatten ∧
      ¬ ['m', 's'] <:+ dropUnit s := by
  obtain ⟨k, split, whole⟩ := dropReversedUnit_spec s.reverse
  refine ⟨k, ?_, ?_⟩
  · have back := congrArg List.reverse split
    rwa [List.reverse_reverse, List.reverse_append, List.reverse_flatten, List.map_replicate,
      List.reverse_replicate] at back
  · intro suffix
    exact whole (by simpa [dropUnit] using List.reverse_prefix.2 suffix)

end Chars

/-- The number of milliseconds that the parameter `threshold` asks for: the value without blanks
around it and without units at its end, or the default where this is no number. -/
inductive LatencyBound (default : String) : Option String → String → Prop
  | missing : LatencyBound default none default
  | given {value : String} {number : List Char} (k : Nat)
    (split : Chars.trim value.toList = number ++ (List.replicate k ['m', 's']).flatten)
    (whole : ¬ ['m', 's'] <:+ number)
    (numeric : (Chars.readBinary64 (Chars.trim number)).isSome) :
    LatencyBound default (some value) (String.ofList (Chars.trim number))
  | unusable {value : String} {text : List Char} (k : Nat)
    (split : Chars.trim value.toList = text ++ (List.replicate k ['m', 's']).flatten)
    (whole : ¬ ['m', 's'] <:+ text)
    (other : Chars.readBinary64 (Chars.trim text) = none) :
    LatencyBound default (some value) default

theorem Occurrence.latencyThreshold_bound (o : Occurrence) (metric default : String) :
    ∃ bound, LatencyBound default (o.parameters.get? "threshold") bound ∧
      o.latencyThreshold metric (some default) = some ⟨metric, "p(95)<" ++ bound⟩ := by
  unfold latencyThreshold thresholdText?
  cases o.parameters.get? "threshold" with
  | none => exact ⟨default, .missing, rfl⟩
  | some value =>
    obtain ⟨k, split, whole⟩ := Chars.dropUnit_spec (Chars.trim value.toList)
    simp only [Option.bind_some]
    split
    · rename_i numeric
      exact ⟨_, .given k split whole numeric, rfl⟩
    · rename_i other
      exact ⟨default, .unusable k split whole (by simpa using other), rfl⟩

/-! ## Searches -/

namespace Vocabulary

def searchTemplates : List String :=
  ["el usuario busca \"<searchTerm>\"", "the user searches for \"<searchTerm>\""]

theorem builtin_of_products {d : Definition} (h : d ∈ Products.definitions) : d ∈ builtin := by
  rw [builtin_eq]
  simp only [List.mem_append, h, true_or, or_true]

open Pattern in
/-- A template is the beginning of one of the search sentences, then the placeholder. -/
theorem exists_lead {template : String} (h : template ∈ searchTemplates) :
    ∃ lead c s, template = String.ofList (c :: s ++ '<' :: ("searchTerm".toList ++ ['>', '"'])) ∧
      Chars.isBlank c = false ∧ '<' ∉ c :: s ∧ '"' ∈ c :: s ∧ lead.Skips (c :: s) ∧
      Products.search (lead ++ quotableOrEmpty ++ text "\"") ∈ builtin := by
  have apart : Chars.fold 'e' ≠ Chars.fold '"' ∧ Chars.fold 'u' ≠ Chars.fold 't' := by
    decide +kernel
  simp only [searchTemplates, List.mem_cons, List.not_mem_nil, or_false] at h
  obtain rfl | rfl := h
  · refine ⟨text "el usuario busca" ++ maybe (text " el producto") ++ text " \"", 'e',
      "l usuario busca \"".toList, by decide, by decide, by decide, by decide, ?_, ?_⟩
    · exact (text_skips "el usuario busca").omit rfl
        (text_refuses apart.1 [' '] "l producto".toList []) (text_skips " \"")
    · exact builtin_of_products (List.mem_of_getElem? (i := 1) rfl)
  · refine ⟨maybe (text "the ") ++ text "user searches for \"", 't',
      "he user searches for \"".toList, by decide, by decide, by decide, by decide, ?_, ?_⟩
    · exact (text_skips "the ").keep rfl
        (text_refuses apart.2 [] "ser searches for \"".toList "he ".toList)
        (text_skips "user searches for \"")
    · exact builtin_of_products (List.mem_of_getElem? (i := 2) rfl)

/-- The sentence of a template is understood unless the term has a quotation mark. -/
theorem find?_search {template term : String} {p : Parameters} (h : template ∈ searchTemplates)
    (given : p.get? "searchTerm" = some term) :
    ('"' ∉ term.toList → ∃ pattern, builtin.find? (Template.substitute p template) =
        some ⟨Products.search pattern, [term]⟩) ∧
      ('"' ∈ term.toList → builtin.find? (Template.substitute p template) = none) := by
  obtain ⟨lead, c, s, rfl, visible, outside, opened, skips, mem⟩ := exists_lead h
  have text : Template.substitute p
      (String.ofList (c :: s ++ '<' :: ("searchTerm".toList ++ ['>', '"']))) =
        String.ofList (c :: s ++ (term.toList ++ ['"'])) := by
    rw [← List.append_assoc]
    refine Template.substitute_between ⟨outside, by decide⟩ (by decide) ?_ ?_
    · exact List.all_eq_true.1 (by decide)
    · rwa [String.ofList_toList, String.ofList_toList]
  rw [text]
  constructor
  · intro unquoted
    refine ⟨lead ++ Pattern.quotableOrEmpty ++ Pattern.text "\"",
      builtin_unambiguous.find?_of_match? mem ?_⟩
    have covered := Pattern.match?_quoted skips visible unquoted
    rwa [String.ofList_toList] at covered
  · intro quoted
    rw [Option.eq_none_iff_forall_ne_some]
    intro found hfound
    have few := count_quotes_of_find? hfound
    rw [String.toList_ofList, Chars.trim_quoted visible, List.count_append, List.count_append]
      at few
    have before : 0 < (c :: s).count '"' := List.count_pos_iff.2 opened
    have inside : 0 < term.toList.count '"' := List.count_pos_iff.2 quoted
    have behind : ['"'].count '"' = 1 := by decide
    omega

end Vocabulary

namespace Script

open Vocabulary Gherkin

/-- What a recognised search for a term adds to a script. -/
structure SearchesFor (term : String) (m : ScriptModule) (p : Parameters) (step : Step)
    (found : Recognition) : Prop where
  captures : found.captures = [term]
  workload : .group step.label (found.definition.code ⟨found.captures, step, p⟩) ∈ m.workload
  request : ∃ written,
    (Text.feedLines (found.definition.code ⟨found.captures, step, p⟩)).head? =
      some ("res = searchProducts(BASE_URL, " ++ written ++ ", authHeaders(data));").toList ∧
    Chars.readLiteral written.toList = some (term.toList, [])
  metric : ∃ metric ∈ m.metrics, metric.externalName = "product_search_duration"
  rule : ∃ bound, LatencyBound "500" (p.get? "threshold") bound ∧
    ∃ r ∈ m.thresholds, r.metric = "product_search_duration" ∧ "p(95)<" ++ bound ∈ r.rules

theorem head?_feedLines_joinLines {first second : String} (h : Lexer.OneLine first)
    (rest : List String) :
    (Text.feedLines (Text.joinLines (first :: second :: rest))).head? = some first.toList := by
  rw [Text.joinLines, String.intercalate_cons_cons, Text.feedLines_feed,
    Text.feedLines_of_no_feed (not_mem_feed_of_oneLine h)]
  rfl

theorem search_request (pattern : Pattern) (o : Occurrence) :
    (Text.feedLines ((Products.search pattern).code o)).head? =
      some ("res = searchProducts(BASE_URL, " ++ literal (o.capture 0) ++
        ", authHeaders(data));").toList := by
  have first : Lexer.OneLine ("res = searchProducts(BASE_URL, " ++ literal (o.capture 0) ++
      ", authHeaders(data));") :=
    .append (.append (by decide) (literal_oneLine _)) (by decide)
  simp only [Products.search]
  exact head?_feedLines_joinLines first _

theorem finish_searchesFor {p : Parameters} {steps : List Step} {step : Step} {pattern : Pattern}
    {term : String} (mem : step ∈ steps)
    (found : builtin.find? step.text = some ⟨Products.search pattern, [term]⟩)
    (header : ScriptHeader) (profile : LoadProfile) (layout : ScriptLayout) :
    SearchesFor term ((Draft.ofSteps builtin p steps).finish header profile layout) p step
      ⟨Products.search pattern, [term]⟩ := by
  have explained : explain builtin p step =
      some (Products.search pattern, ⟨[term], step, p⟩) := by rw [explain, found]; rfl
  have declared : ∀ m ∈ (Products.search pattern).metrics,
      m ∈ (Draft.ofSteps builtin p steps).metrics := fun m hm =>
    Draft.mem_ofSteps_of_declared (mem_explained.2 ⟨step, mem, explained⟩) hm
  have covers := Draft.covers_of_mem mem explained declared
  obtain ⟨bound, isBound, rule⟩ :=
    Occurrence.latencyThreshold_bound ⟨[term], step, p⟩ "product_search_duration" "500"
  refine ⟨rfl, ?_, ⟨literal term, search_request pattern _, ?_⟩, ?_, bound, isBound,
    covers.threshold _ rule⟩
  · have item : itemOf builtin p step =
        .group step.label ((Products.search pattern).code ⟨[term], step, p⟩) := by
      rw [itemOf, explained]
    change _ ∈ (Draft.ofSteps builtin p steps).workload
    rw [Draft.ofSteps_workload, ← item]
    exact List.mem_map_of_mem mem
  · have read := Chars.readLiteral_literal term.toList []
    rw [List.append_nil] at read
    rw [literal, String.toList_ofList]
    exact read
  · exact ⟨Products.searchDuration, declared _ (List.mem_cons_self ..), rfl⟩

/-- A term reaches the request as it stands in the row of the examples. -/
theorem searched_terms_verbatim (options : GenerationOptions) (doc : Document) (sourcePath : String)
    (time : Timestamp) :
    List.Forall₂
      (fun origin s => ∀ step ∈ origin.steps doc, Text.trim step.text ∈ searchTemplates →
        ∀ term, origin.parameters.get? "searchTerm" = some term →
          ((builtin.find? (step.resolve origin.parameters).text).isSome ↔ '"' ∉ term.toList) ∧
          ∀ found, builtin.find? (step.resolve origin.parameters).text = some found →
            SearchesFor term (moduleOf builtin options (Feature.ofDocument doc sourcePath) s time)
              origin.parameters (step.resolve origin.parameters) found)
      doc.origins (Feature.ofDocument doc sourcePath).scenarios := by
  refine (Feature.ofDocument_comesFrom doc sourcePath).imp fun origin s comes => ?_
  intro step mem template term given
  obtain ⟨understood, refused⟩ := find?_search template given
  have runs : step.resolve origin.parameters ∈
      (origin.steps doc).map (SourceStep.resolve origin.parameters) := List.mem_map_of_mem mem
  by_cases quoted : '"' ∈ term.toList
  · have none_found : builtin.find? (step.resolve origin.parameters).text = none := refused quoted
    simp [none_found, quoted]
  · obtain ⟨pattern, found⟩ := understood quoted
    have hfound : builtin.find? (step.resolve origin.parameters).text =
      some ⟨Products.search pattern, [term]⟩ := found
    refine ⟨by simp [hfound, quoted], ?_⟩
    intro other hother
    obtain rfl := Option.some.inj (hother.symm.trans hfound)
    rw [moduleOf, draftOf, runSteps_of_comesFrom comes, comes.parameters]
    exact finish_searchesFor runs hfound _ _ _

def searchStep : SourceStep := ⟨"When ", "el usuario busca \"<searchTerm>\"", none, none⟩

/-- A template of one search, with a term that has to be escaped and one that has a quotation
mark. -/
def oddTerms : Document where
  name := "F"
  description := none
  tags := []
  background := none
  scenarios := [{
    name := "S"
    tags := []
    steps := [searchStep]
    examples := [⟨none, [], some
      [["searchTerm", "threshold"], ["it's <b>\\", " 250 ms"], ["12\" disc", "fast"]]⟩] }]
  rules := []

theorem oddTerms_searched :
    let f := Feature.ofDocument oddTerms "f"
    let step : Step := ⟨"When", "el usuario busca \"it's <b>\\\"", none, none⟩
    (∃ s ∈ f.scenarios, ∃ found, builtin.find? step.text = some found ∧
      SearchesFor "it's <b>\\" (moduleOf builtin {} f s ⟨0⟩) s.parameters step found) ∧
    builtin.find? "el usuario busca \"12\" disc\"" = none := by
  intro f step
  have rows := List.forall₂_iff_get.1 (searched_terms_verbatim {} oddTerms "f" ⟨0⟩)
  obtain ⟨understood, searches⟩ := rows.2 0 (by decide) (by decide) searchStep (by decide)
    (by decide) "it's <b>\\" (by decide)
  obtain ⟨refused, -⟩ := rows.2 1 (by decide) (by decide) searchStep (by decide) (by decide)
    "12\" disc" (by decide)
  have first : searchStep.resolve (oddTerms.origins.get ⟨0, by decide⟩).parameters = step := by
    decide +kernel
  have second : (searchStep.resolve (oddTerms.origins.get ⟨1, by decide⟩).parameters).text =
      "el usuario busca \"12\" disc\"" := by
    decide +kernel
  have parameters : (oddTerms.origins.get ⟨0, by decide⟩).parameters =
      (f.scenarios.get ⟨0, by decide⟩).parameters := by decide
  rw [first] at understood searches
  rw [parameters] at searches
  rw [second] at refused
  obtain ⟨found, hfound⟩ := Option.isSome_iff_exists.1 (understood.2 (by decide))
  refine ⟨⟨_, List.get_mem _ _, found, hfound, searches found hfound⟩, ?_⟩
  exact Option.not_isSome_iff_eq_none.1 fun h => refused.1 h (by decide)

end Script

end LoadScript
