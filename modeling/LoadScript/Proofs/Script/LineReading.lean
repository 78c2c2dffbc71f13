import LoadScript.Proofs.Script.Lexemes
import LoadScript.Text.Lines

/-!
# Reading scripts by lines

A script is written line by line, and fragments of code are indented. No string and no comment goes
on behind a line end, so at the start of a line only spaces in code or in a template literal can be
added or lost: indentation does not change how a text is read.
-/

set_option autoImplicit false

namespace LoadScript.Script.Lexer

/-! ## Starts of lines -/

def State.AtLineStart (s : State) : Prop := s.mode = .code ∨ s.mode = .template

theorem not_mark_of_isBlank {c : Char} (h : Chars.isBlank c = true) : c ∉ marks := by
  have hmarks : ∀ d ∈ marks, Chars.isBlank d = false := by
    simp [marks, backtick, leftBrace, rightBrace, Chars.isBlank]
  intro hc
  simp [hmarks c hc] at h

/-- Blank characters at the start of a line mean nothing. -/
theorem step_blank {s : State} (hs : s.AtLineStart) {c : Char} (hc : Chars.isBlank c = true) :
    step s c = some s := by
  obtain ⟨mode, opened⟩ := s
  have hm := not_mark_of_isBlank hc
  rcases hs with rfl | rfl
  · change (codeAction c).apply opened = _
    rw [codeAction_of_not_mark hm]
    rfl
  · change (templateAction c).apply opened = _
    rw [templateAction_of_not_mark hm]
    rfl

theorem read_blanks {s : State} (hs : s.AtLineStart) {l : List Char}
    (hl : Chars.allBlank l = true) : read l s = some s :=
  read_stay fun c hc => step_blank hs (List.all_eq_true.1 hl c hc)

theorem atLineStart_of_step_feed {s t : State} (h : step s '\n' = some t) : t.AtLineStart := by
  obtain ⟨mode, opened⟩ := s
  cases mode <;> cases h
  all_goals first
    | exact .inl rfl
    | exact .inr rfl

/-- A carriage return before a line feed adds nothing to it. -/
theorem step_feed_of_return {s t u : State} (hr : step s '\r' = some t)
    (hf : step t '\n' = some u) : step s '\n' = some u := by
  obtain ⟨mode, opened⟩ := s
  cases mode <;> cases hr <;> exact hf

/-! ## Lines of characters -/

def readCharLines : List (List Char) → State → Option State
  | [], s => some s
  | l :: ls, s => (read (l ++ ['\n']) s).bind (readCharLines ls)

theorem eq_nil_of_lines {cs : List Char} (h : Chars.lines cs = []) : cs = [] := by
  cases cs with
  | nil => rfl
  | cons c rest =>
    rw [Chars.lines.eq_def] at h
    split at h
    · assumption
    · cases h
    · cases h
    · split at h <;> cases h

/-- What is read with a line end after it can be read line by line. Without any character there is
no line, and then the reader has to be at the start of one already. -/
theorem readCharLines_lines {cs : List Char} {s t : State} (hs : cs = [] → s.AtLineStart)
    (h : read (cs ++ ['\n']) s = some t) : readCharLines (Chars.lines cs) s = some t := by
  induction cs using Chars.lines.induct generalizing s with
  | case1 =>
    rw [← h]
    exact (read_blanks (hs rfl) (by decide)).symm
  | case2 rest ih =>
    obtain ⟨u, hu, hr⟩ := Option.bind_eq_some_iff.1 h
    rw [Chars.lines]
    change ((step s '\n').bind some).bind (readCharLines (Chars.lines rest)) = _
    rw [hu]
    exact ih (fun _ => atLineStart_of_step_feed hu) hr
  | case3 rest ih =>
    obtain ⟨u, hu, hr⟩ := Option.bind_eq_some_iff.1 h
    obtain ⟨v, hv, hr⟩ := Option.bind_eq_some_iff.1 hr
    rw [Chars.lines]
    change ((step s '\n').bind some).bind (readCharLines (Chars.lines rest)) = _
    rw [step_feed_of_return hu hv]
    exact ih (fun _ => atLineStart_of_step_feed hv) hr
  | case4 c rest hfeed hreturn hl ih =>
    rw [Chars.lines.eq_4 c rest hfeed hreturn, hl]
    cases eq_nil_of_lines hl
    change (read [c, '\n'] s).bind some = _
    change read [c, '\n'] s = some t at h
    rw [h]
    rfl
  | case5 c rest hfeed hreturn line more hl ih =>
    obtain ⟨u, hu, hr⟩ := Option.bind_eq_some_iff.1 h
    have hrest : rest ≠ [] := by
      rintro rfl
      cases hl
    have hlines := ih (fun he => absurd he hrest) hr
    rw [Chars.lines.eq_4 c rest hfeed hreturn, hl]
    rw [hl] at hlines
    change ((step s c).bind (read (line ++ ['\n']))).bind (readCharLines more) = _
    rw [hu]
    exact hlines

theorem atLineStart_of_readLine {l : List Char} {s t : State}
    (h : read (l ++ ['\n']) s = some t) : t.AtLineStart := by
  rw [read_append] at h
  obtain ⟨u, -, hu⟩ := Option.bind_eq_some_iff.1 h
  obtain ⟨v, hv, ht⟩ := Option.bind_eq_some_iff.1 hu
  cases ht
  exact atLineStart_of_step_feed hv

/-- A change of lines that is not noticed in any line is not noticed at all. -/
theorem readCharLines_map {f : List Char → List Char}
    (hf : ∀ l s, s.AtLineStart → read (f l ++ ['\n']) s = read (l ++ ['\n']) s)
    (ls : List (List Char)) {s : State} (hs : s.AtLineStart) :
    readCharLines (ls.map f) s = readCharLines ls s := by
  induction ls generalizing s with
  | nil => rfl
  | cons l ls ih =>
    change (read (f l ++ ['\n']) s).bind (readCharLines (ls.map f)) =
      (read (l ++ ['\n']) s).bind (readCharLines ls)
    rw [hf l s hs]
    cases hr : read (l ++ ['\n']) s with
    | none => rfl
    | some t => exact ih (atLineStart_of_readLine hr)

theorem read_joined (ls : List (List Char)) {s : State} (hs : s.AtLineStart) :
    read (['\n'].intercalate ls ++ ['\n']) s = readCharLines ls s := by
  induction ls generalizing s with
  | nil => exact read_blanks hs (by decide)
  | cons l ls ih =>
    cases ls with
    | nil =>
      rw [List.intercalate_singleton]
      exact (Option.bind_fun_some _).symm
    | cons m ls =>
      rw [List.intercalate_cons_cons, List.append_assoc, read_append]
      change _ = (read (l ++ ['\n']) s).bind (readCharLines (m :: ls))
      cases hr : read (l ++ ['\n']) s with
      | none => rfl
      | some t => exact ih (atLineStart_of_readLine hr)

/-! ## Lines of text -/

def ReadsLines (ls : List String) (a b : State) : Prop :=
  readCharLines (ls.map String.toList) a = some b

theorem readsLines_nil (a : State) : ReadsLines [] a a := rfl

theorem ReadsLines.cons {l : String} {ls : List String} {a b c : State}
    (hl : Reads (l ++ "\n") a b) (hls : ReadsLines ls b c) : ReadsLines (l :: ls) a c := by
  unfold Reads at hl
  rw [String.toList_append] at hl
  change (read (l.toList ++ ['\n']) a).bind _ = _
  rw [show read (l.toList ++ ['\n']) a = some b from hl]
  exact hls

theorem ReadsLines.append {ks ls : List String} {a b c : State}
    (hk : ReadsLines ks a b) (hl : ReadsLines ls b c) : ReadsLines (ks ++ ls) a c := by
  induction ks generalizing a with
  | nil =>
    cases hk
    exact hl
  | cons k ks ih =>
    obtain ⟨u, hu, hr⟩ := Option.bind_eq_some_iff.1 hk
    change (read (k.toList ++ ['\n']) a).bind _ = _
    rw [hu]
    exact ih hr

theorem ReadsLines.line {l : String} {ls : List String} {a c : State} {opened : List Opened}
    (hl : Reads l a (inCode opened)) (hls : ReadsLines ls (inCode opened) c) :
    ReadsLines (l :: ls) a c :=
  .cons (hl.append (reads_text rfl)) hls

theorem readsLines_flatMap {α : Type} {f : α → List String} {xs : List α} {a : State}
    (h : ∀ x ∈ xs, ReadsLines (f x) a a) : ReadsLines (xs.flatMap f) a a := by
  induction xs with
  | nil => exact readsLines_nil a
  | cons x xs ih =>
    rw [List.flatMap_cons]
    exact (h x (by simp)).append (ih fun y hy => h y (by simp [hy]))

theorem ReadsLines.joined {ls : List String} {a b : State} (ha : a.AtLineStart)
    (h : ReadsLines ls a b) : Reads (Text.joinLines ls ++ "\n") a b := by
  unfold Reads Text.joinLines
  rw [String.toList_append, String.toList_intercalate]
  exact (read_joined _ ha).trans h

/-- A text that is well formed as soon as its last line is ended. -/
def ClosedLines (s : String) : Prop := WellFormed (s ++ "\n")

theorem ClosedLines.reads {s : String} (h : ClosedLines s) (opened : List Opened) :
    Reads (s ++ "\n") (inCode opened) (inCode opened) :=
  WellFormed.reads h opened

theorem WellFormed.closedLines {s : String} (h : WellFormed s) : ClosedLines s :=
  Reads.append h (reads_text rfl)

theorem closedLines_joinLines {ls : List String} (h : ReadsLines ls (inCode []) (inCode [])) :
    ClosedLines (Text.joinLines ls) :=
  h.joined (.inl rfl)

theorem readsLines_of_closedLines {ls : List String} (h : ∀ l ∈ ls, ClosedLines l)
    {opened : List Opened} : ReadsLines ls (inCode opened) (inCode opened) := by
  induction ls with
  | nil => exact readsLines_nil _
  | cons l ls ih =>
    exact .cons ((h l (by simp)).reads opened) (ih fun k hk => h k (by simp [hk]))

theorem spaced_reads {ss : List String} {opened : List Opened}
    (h : ∀ s ∈ ss, Reads (s ++ "\n") (inCode opened) (inCode opened)) :
    Reads ("\n\n".intercalate ss ++ "\n") (inCode opened) (inCode opened) := by
  have hfeed : Reads "\n" (inCode opened) (inCode opened) := reads_text rfl
  induction ss with
  | nil =>
    rw [String.intercalate_nil, String.empty_append]
    exact hfeed
  | cons s ss ih =>
    have hs := h s (by simp)
    cases ss with
    | nil =>
      rw [String.intercalate_singleton]
      exact hs
    | cons t ss =>
      have hrest := ih fun u hu => h u (by simp [hu])
      rw [String.intercalate_cons_cons, show "\n\n" = "\n" ++ "\n" from rfl, String.append_assoc,
        String.append_assoc, String.append_assoc, ← String.append_assoc]
      exact hs.append (hfeed.append hrest)

/-! ## Indentation -/

theorem read_indented (width : Nat) (l : List Char) (s : State) (hs : s.AtLineStart) :
    read ((if Chars.allBlank l then [] else List.replicate width ' ' ++ l) ++ ['\n']) s =
      read (l ++ ['\n']) s := by
  by_cases hl : Chars.allBlank l = true
  · rw [if_pos hl, read_append, read_append, read_blanks hs hl]
    rfl
  · have hspaces : Chars.allBlank (List.replicate width ' ') = true := by
      refine List.all_eq_true.2 fun c hc => ?_
      rw [List.eq_of_mem_replicate hc]
      decide
    rw [if_neg hl, List.append_assoc, read_append, read_blanks hs hspaces]
    rfl

theorem indent_reads {code : String} {a b : State} (width : Nat) (ha : a.AtLineStart)
    (h : Reads (code ++ "\n") a b) : Reads (Text.indent width code ++ "\n") a b := by
  unfold Reads at h
  rw [String.toList_append] at h
  refine ReadsLines.joined ha ?_
  unfold ReadsLines Text.lines
  rw [List.map_map, List.map_map]
  have hline : (String.toList ∘
      fun line => if Text.isBlank line then "" else Text.spaces width ++ line) ∘ String.ofList =
      fun l => if Chars.allBlank l then [] else List.replicate width ' ' ++ l := by
    funext l
    by_cases hl : Chars.allBlank l = true
    · simp [Text.isBlank, hl]
    · simp [Text.isBlank, Text.spaces, hl]
  rw [hline, readCharLines_map (read_indented width) _ ha]
  exact readCharLines_lines (fun _ => ha) h

end LoadScript.Script.Lexer
