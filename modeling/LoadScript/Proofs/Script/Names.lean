import LoadScript.Proofs.Script.Lexemes
import LoadScript.Text.Lines

/-!
# Names in scripts

Which names a script text mentions outside of strings and comments. A scanner runs beside the reader
and gathers names as it goes; it gets stuck at the end of a name that is not allowed. Like reading,
scanning goes piece by piece, so that texts with captured parts can be scanned without knowing them:
literals and comments hold no names, and numbers only harmless ones.
-/

set_option autoImplicit false

namespace LoadScript.Script.Lexer

/-- The characters of names. Letters of other alphabets end a name here, so that a text mentions no
fewer names than it has. -/
def isNameChar (c : Char) : Bool := c.isAlphanum || c == '_' || c == '$'

/-- The modes in which the next character may belong to a name. -/
def Mode.isCode : Mode → Bool
  | .code | .slash => true
  | _ => false

/-- The text mentions the name in code, with no other name character on either side of it. -/
def Mentions (s name : String) : Prop :=
  ∃ before after : List Char, ∃ place : State,
    s.toList = before ++ name.toList ++ after ∧
    read before (inCode []) = some place ∧ place.mode.isCode = true ∧
    (∀ c ∈ before.getLast?, isNameChar c = false) ∧ ∀ c ∈ after.head?, isNameChar c = false

/-! ## The scanner -/

/-- A place of the reader with the characters of the name that it is in, the last one first. -/
structure Scan where
  place : State
  word : List Char
  deriving DecidableEq

abbrev between (opened : List Opened) : Scan := ⟨inCode opened, []⟩

section Scanner

variable (allowed : List Char → Bool)

def Scan.mayLeave (a : Scan) : Bool := a.word.isEmpty || allowed a.word.reverse

def Scan.step (a : Scan) (c : Char) : Option Scan :=
  (Lexer.step a.place c).bind fun next =>
    if a.place.mode.isCode && isNameChar c then some ⟨next, c :: a.word⟩
    else if a.mayLeave allowed then some ⟨next, []⟩
    else none

def scan : List Char → Scan → Option Scan
  | [], a => some a
  | c :: rest, a => (a.step allowed c).bind (scan rest)

/-- The text takes the scanner from `a` to `b`, all names that end in it being allowed. -/
def Spells (s : String) (a b : Scan) : Prop := scan allowed s.toList a = some b

end Scanner

variable {allowed : List Char → Bool}

theorem scan_append (xs ys : List Char) (a : Scan) :
    scan allowed (xs ++ ys) a = (scan allowed xs a).bind (scan allowed ys) := by
  induction xs generalizing a with
  | nil => rfl
  | cons c xs ih =>
    change (a.step allowed c).bind (scan allowed (xs ++ ys)) =
      ((a.step allowed c).bind (scan allowed xs)).bind (scan allowed ys)
    cases a.step allowed c with
    | none => rfl
    | some b => exact ih b

theorem Spells.append {s t : String} {a b c : Scan} (hs : Spells allowed s a b)
    (ht : Spells allowed t b c) : Spells allowed (s ++ t) a c := by
  unfold Spells at *
  rw [String.toList_append, scan_append, hs]
  exact ht

theorem spells_text {l : List Char} {a b : Scan} (h : scan allowed l a = some b) :
    Spells allowed (String.ofList l) a b := by
  unfold Spells
  rw [String.toList_ofList]
  exact h

theorem step_eq_some_iff {a b : Scan} {c : Char} :
    a.step allowed c = some b ↔ step a.place c = some b.place ∧
      if a.place.mode.isCode && isNameChar c then b.word = c :: a.word
      else a.mayLeave allowed = true ∧ b.word = [] := by
  obtain ⟨place, word⟩ := b
  unfold Scan.step
  cases step a.place c with
  | none => simp
  | some next =>
    rw [Option.bind_some]
    split
    · simp [eq_comm]
    · cases a.mayLeave allowed <;> simp [eq_comm]

theorem read_of_scan {l : List Char} {a b : Scan} (h : scan allowed l a = some b) :
    read l a.place = some b.place := by
  induction l generalizing a with
  | nil =>
    cases h
    rfl
  | cons c l ih =>
    obtain ⟨t, ht, hl⟩ := Option.bind_eq_some_iff.1 h
    change (step a.place c).bind (read l) = _
    rw [(step_eq_some_iff.1 ht).1]
    exact ih hl

/-! ## What is mentioned is allowed -/

/-- Behind a character that belongs to no name the scanner is between names. -/
theorem word_of_step {a b : Scan} {c : Char} (h : a.step allowed c = some b)
    (hc : isNameChar c = false) : a.mayLeave allowed = true ∧ b.word = [] := by
  simpa [hc] using (step_eq_some_iff.1 h).2

theorem word_of_scan {l : List Char} {a b : Scan} (h : scan allowed l a = some b)
    (start : a.word = []) (last : ∀ c ∈ l.getLast?, isNameChar c = false) : b.word = [] := by
  rcases l.eq_nil_or_concat with rfl | ⟨l, c, rfl⟩
  · cases h
    exact start
  · rw [List.concat_eq_append] at h last
    rw [scan_append] at h
    obtain ⟨t, -, hc⟩ := Option.bind_eq_some_iff.1 h
    obtain ⟨u, hu, hb⟩ := Option.bind_eq_some_iff.1 hc
    cases hb
    exact (word_of_step hu (last c (by simp))).2

theorem codeAction_of_isNameChar {c : Char} (h : isNameChar c = true) :
    codeAction c = .enter .code := by
  have signs : ['\'', backtick, '/', '(', '[', leftBrace, ')', ']', rightBrace].all
      (!isNameChar ·) = true := by decide
  have other : ∀ d ∈ ['\'', backtick, '/', '(', '[', leftBrace, ')', ']', rightBrace], c ≠ d := by
    rintro d hd rfl
    simpa [h] using List.all_eq_true.1 signs c hd
  simp only [List.forall_mem_cons, List.not_mem_nil, false_implies, implies_true, and_true] at other
  simp [codeAction, other]

theorem step_isNameChar {s : State} {c : Char} (hs : s.mode.isCode = true)
    (hc : isNameChar c = true) : step s c = some (inCode s.opened) := by
  obtain ⟨mode, opened⟩ := s
  have slash : c ≠ '/' := by
    rintro rfl
    cases hc
  unfold step
  cases mode with
  | code =>
    rw [action, codeAction_of_isNameChar hc]
    rfl
  | slash =>
    rw [action, if_neg slash, codeAction_of_isNameChar hc]
    rfl
  | _ => cases hs

def IsName (l : List Char) : Prop := l ≠ [] ∧ l.all isNameChar = true

instance (l : List Char) : Decidable (IsName l) := inferInstanceAs (Decidable (_ ∧ _))

theorem scan_name {l : List Char} {a : Scan} (ha : a.place.mode.isCode = true) (hl : IsName l) :
    scan allowed l a = some ⟨inCode a.place.opened, l.reverse ++ a.word⟩ := by
  induction l generalizing a with
  | nil => exact absurd rfl hl.1
  | cons c l ih =>
    obtain ⟨hc, more⟩ := Bool.and_eq_true_iff.1 hl.2
    have first : a.step allowed c = some ⟨inCode a.place.opened, c :: a.word⟩ := by
      unfold Scan.step
      rw [step_isNameChar ha hc]
      simp [ha, hc]
    change (a.step allowed c).bind (scan allowed l) = _
    rw [first]
    cases l with
    | nil => rfl
    | cons d l =>
      have rest := ih (a := ⟨inCode a.place.opened, c :: a.word⟩) rfl ⟨List.cons_ne_nil d l, more⟩
      rw [Option.bind_some, rest, List.reverse_cons (a := c), List.append_assoc]
      rfl

/-- A text that is scanned to the end of its last line mentions only names that are allowed. -/
theorem allowed_of_mentions {s name : String} {b : Scan}
    (spells : Spells allowed (s ++ "\n") (between []) b) (word : IsName name.toList)
    (mentioned : Mentions s name) : allowed name.toList = true := by
  obtain ⟨before, after, place, hs, hplace, hcode, hbefore, hafter⟩ := mentioned
  have text : (s ++ "\n").toList = before ++ (name.toList ++ (after ++ ['\n'])) := by
    rw [String.toList_append, hs]
    simp
  rw [Spells, text, scan_append] at spells
  obtain ⟨t, ht, spells⟩ := Option.bind_eq_some_iff.1 spells
  have same : t.place = place := Option.some.inj ((read_of_scan ht).symm.trans hplace)
  have idle : t.word = [] := word_of_scan ht rfl hbefore
  rw [scan_append, scan_name (same ▸ hcode) word] at spells
  -- The character behind the name ends it: one of the text, or the line end.
  obtain ⟨c, rest, hrest, hc⟩ : ∃ c rest, after ++ ['\n'] = c :: rest ∧ isNameChar c = false := by
    cases after with
    | nil => exact ⟨'\n', [], rfl, rfl⟩
    | cons c after => exact ⟨c, after ++ ['\n'], rfl, hafter c rfl⟩
  rw [hrest] at spells
  obtain ⟨u, hu, -⟩ := Option.bind_eq_some_iff.1 (Option.bind_some .. ▸ spells)
  have leave := (word_of_step hu hc).1
  rw [idle, List.append_nil, Scan.mayLeave, Bool.or_eq_true, List.reverse_reverse] at leave
  exact leave.resolve_left (by simpa using word.1)

/-! ## Texts without names -/

theorem scan_stay {l : List Char} {a : Scan} (h : ∀ c ∈ l, a.step allowed c = some a) :
    scan allowed l a = some a := by
  induction l with
  | nil => rfl
  | cons c l ih =>
    change (a.step allowed c).bind (scan allowed l) = _
    rw [h c (by simp)]
    exact ih fun d hd => h d (by simp [hd])

theorem step_outside {s : State} (hs : s.mode.isCode = false) (c : Char) :
    Scan.step allowed ⟨s, []⟩ c = (step s c).map (⟨·, []⟩) := by
  unfold Scan.step
  cases step s c with
  | none => rfl
  | some next => simp [hs, Scan.mayLeave]

theorem OneLine.spells {s : String} (h : OneLine s) (opened : List Opened) :
    Spells allowed s ⟨⟨.comment, opened⟩, []⟩ ⟨⟨.comment, opened⟩, []⟩ := by
  refine scan_stay fun c hc => ?_
  rw [step_outside rfl, step, action_comment (h c hc)]
  rfl

theorem Plain.spells_inString {s : String} (h : Plain s) (opened : List Opened) :
    Spells allowed s ⟨⟨.string, opened⟩, []⟩ ⟨⟨.string, opened⟩, []⟩ := by
  refine scan_stay fun c hc => ?_
  rw [step_outside rfl, step, action_string (h c hc).1 (h c hc).2]
  rfl

theorem scan_literalChar (c : Char) (opened : List Opened) :
    scan allowed (Chars.literalChar c) ⟨⟨.string, opened⟩, []⟩ =
      some ⟨⟨.string, opened⟩, []⟩ := by
  by_cases alone : Chars.literalChar c = [c]
  · have stays := read_literalChar c opened
    rw [alone] at stays ⊢
    obtain ⟨next, hnext, stays⟩ := Option.bind_eq_some_iff.1 stays
    cases stays
    change (Scan.step allowed _ c).bind some = _
    rw [step_outside rfl, hnext]
    rfl
  · -- The written forms of the other characters are fixed texts.
    unfold Chars.literalChar at alone ⊢
    split
    · rfl
    split
    · rfl
    split
    · rfl
    split
    · rfl
    split
    · rfl
    split
    · rfl
    split
    · rfl
    simp_all

theorem literal_spells (s : String) (opened : List Opened) :
    Spells allowed (literal s) (between opened) (between opened) := by
  have chars (l : List Char) : scan allowed (l.flatMap Chars.literalChar) ⟨⟨.string, opened⟩, []⟩ =
      some ⟨⟨.string, opened⟩, []⟩ := by
    induction l with
    | nil => rfl
    | cons c l ih =>
      rw [List.flatMap_cons, scan_append, scan_literalChar]
      exact ih
  unfold Spells literal
  rw [String.toList_ofList]
  change scan allowed (s.toList.flatMap Chars.literalChar ++ ['\'']) ⟨⟨.string, opened⟩, []⟩ = _
  rw [scan_append, chars]
  rfl

/-! ## Texts that lead into code -/

section Leads

variable (allowed)

/-- The text leads from `a` into code, at most into a name that may end there. -/
def Leads (s : String) (a : Scan) (opened : List Opened) : Prop :=
  ∃ b, Spells allowed s a b ∧ b.place = inCode opened ∧ b.mayLeave allowed = true

def Harmless : Prop := ∀ word, (∀ c ∈ word, isNumeralChar c = true) → allowed word = true

end Leads

theorem Spells.leads {s : String} {a : Scan} {opened : List Opened}
    (h : Spells allowed s a (between opened)) : Leads allowed s a opened :=
  ⟨_, h, rfl, rfl⟩

theorem leads_text {l : List Char} {a : Scan} {opened : List Opened}
    (h : (scan allowed l a).any (fun b => b.place = inCode opened && b.mayLeave allowed) = true) :
    Leads allowed (String.ofList l) a opened := by
  obtain ⟨b, hb, arrives⟩ := (Option.any_eq_true _ _).1 h
  rw [Bool.and_eq_true, decide_eq_true_eq] at arrives
  exact ⟨b, spells_text hb, arrives⟩

theorem Leads.append_spells {s : String} {l : List Char} {c : Char} {a b : Scan}
    {opened : List Opened} (hs : Leads allowed s a opened) (hc : isNameChar c = false)
    (hl : Spells allowed (String.ofList (c :: l)) (between opened) b) :
    Spells allowed (s ++ String.ofList (c :: l)) a b := by
  obtain ⟨⟨place, word⟩, hs, rfl, leave⟩ := hs
  have same : Scan.step allowed ⟨inCode opened, word⟩ c = Scan.step allowed (between opened) c := by
    unfold Scan.step
    rw [leave, hc]
    rfl
  refine hs.append ?_
  unfold Spells at *
  rw [String.toList_ofList] at *
  rw [scan, same]
  exact hl

theorem Leads.spells_line {s : String} {a : Scan} {opened : List Opened}
    (h : Leads allowed s a opened) : Spells allowed (s ++ "\n") a (between opened) :=
  h.append_spells rfl (spells_text rfl)

theorem Spells.append_leads {s t : String} {a b : Scan} {opened : List Opened}
    (hs : Spells allowed s a b) (ht : Leads allowed t b opened) :
    Leads allowed (s ++ t) a opened := by
  obtain ⟨c, ht, arrives⟩ := ht
  exact ⟨c, hs.append ht, arrives⟩

theorem Leads.lastLine {l : String} {a : Scan} {opened : List Opened}
    (h : Leads allowed l a opened) : Leads allowed (Text.joinLines [l]) a opened := by
  rw [Text.joinLines, String.intercalate_singleton]
  exact h

theorem Leads.consLine {l m : String} {ls : List String} {a : Scan} {opened inner : List Opened}
    (h : Leads allowed l a inner)
    (rest : Leads allowed (Text.joinLines (m :: ls)) (between inner) opened) :
    Leads allowed (Text.joinLines (l :: m :: ls)) a opened := by
  rw [Text.joinLines, String.intercalate_cons_cons]
  exact h.spells_line.append_leads rest

theorem intercalate_spells {separator : String} {ss : List String} {a : Scan}
    (hsep : Spells allowed separator a a) (h : ∀ s ∈ ss, Spells allowed s a a) :
    Spells allowed (separator.intercalate ss) a a := by
  induction ss with
  | nil =>
    rw [String.intercalate_nil]
    rfl
  | cons s ss ih =>
    have hs := h s (by simp)
    cases ss with
    | nil =>
      rw [String.intercalate_singleton]
      exact hs
    | cons t ss =>
      rw [String.intercalate_cons_cons]
      exact hs.append hsep |>.append (ih fun u hu => h u (by simp [hu]))

theorem leads_name {l : List Char} (h : IsName l) (known : allowed l = true)
    (opened : List Opened) : Leads allowed (String.ofList l) (between opened) opened := by
  refine ⟨_, spells_text (scan_name rfl h), rfl, ?_⟩
  simp [Scan.mayLeave, known]

theorem numeric_leads (harmless : Harmless allowed) {s : String} (h : Numeric s)
    (opened : List Opened) : Leads allowed s (between opened) opened := by
  -- All names on the way consist of number characters.
  have run (l word : List Char) (hl : ∀ c ∈ l, isNumeralChar c = true)
      (hword : ∀ c ∈ word, isNumeralChar c = true) :
      ∃ rest, scan allowed l ⟨inCode opened, word⟩ = some ⟨inCode opened, rest⟩ ∧
        ∀ c ∈ rest, isNumeralChar c = true := by
    induction l generalizing word with
    | nil => exact ⟨word, rfl, hword⟩
    | cons c l ih =>
      have hc := hl c (by simp)
      have stays : step (inCode opened) c = some (inCode opened) := by
        rw [step, action, codeAction_of_not_mark (plain_of_isNumeralChar hc).1]
        rfl
      have leave : Scan.mayLeave allowed ⟨inCode opened, word⟩ = true := by
        simp [Scan.mayLeave, harmless word.reverse (by simpa using hword)]
      have next : Scan.step allowed ⟨inCode opened, word⟩ c =
          some ⟨inCode opened, if isNameChar c then c :: word else []⟩ := by
        unfold Scan.step
        rw [stays, leave]
        cases isNameChar c <;> rfl
      rw [scan, next]
      refine ih _ (fun d hd => hl d (by simp [hd])) ?_
      split
      · simpa [hc] using hword
      · simp
  obtain ⟨rest, hrest, number⟩ := run s.toList [] h (by simp)
  exact ⟨_, hrest, rfl, by simp [Scan.mayLeave, harmless rest.reverse (by simpa using number)]⟩

/-! ## What is open around a text -/

def Scan.under (a : Scan) (outer : List Opened) : Scan := ⟨a.place.under outer, a.word⟩

theorem scan_under {l : List Char} {a b : Scan} (outer : List Opened)
    (h : scan allowed l a = some b) : scan allowed l (a.under outer) = some (b.under outer) := by
  induction l generalizing a with
  | nil =>
    cases h
    rfl
  | cons c l ih =>
    obtain ⟨t, ht, hl⟩ := Option.bind_eq_some_iff.1 h
    have next : (a.under outer).step allowed c = some (t.under outer) :=
      step_eq_some_iff.2 ((step_eq_some_iff.1 ht).imp (apply_under outer) id)
    rw [scan, next]
    exact ih hl

theorem Leads.under {s : String} {a : Scan} {opened : List Opened} (h : Leads allowed s a opened)
    (outer : List Opened) : Leads allowed s (a.under outer) (opened ++ outer) := by
  obtain ⟨b, hb, place, leave⟩ := h
  refine ⟨b.under outer, scan_under outer hb, ?_, leave⟩
  rw [Scan.under, place]
  rfl

end LoadScript.Script.Lexer
