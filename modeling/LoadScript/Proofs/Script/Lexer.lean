import LoadScript.Script.Lexeme

/-!
# The lexical form of scripts

A reader of script text that knows single-quoted strings, line comments and template literals with
expressions inside; all other text is code. It keeps what is open, and gets stuck at a raw line end
in a string and at a bracket that does not fit. Texts are read piece by piece, and what is open
around a piece does not matter to it.
-/

set_option autoImplicit false

namespace LoadScript.Script.Lexer

/-- What may be open at a place of a script. -/
inductive Opened where
  | round
  | square
  | curly
  | template
  | expression
  deriving DecidableEq, Repr

inductive Mode where
  | code
  | slash
  | string
  | stringEscape
  | comment
  | template
  | templateEscape
  | dollar
  deriving DecidableEq, Repr

/-- What was opened last stands first. -/
structure State where
  mode : Mode
  opened : List Opened
  deriving DecidableEq, Repr

/-- What a character does. -/
inductive Action where
  | enter (mode : Mode)
  | opening (what : Opened) (mode : Mode)
  /-- Closes what was opened last; that decides the mode, and has to be among `ends`. -/
  | closing (ends : List (Opened × Mode))
  | stuck

def backtick : Char := Char.ofNat 0x60

def leftBrace : Char := Char.ofNat 0x7B

def rightBrace : Char := Char.ofNat 0x7D

def lineEnds : List Char := ['\n', '\r', Char.ofNat 0x2028, Char.ofNat 0x2029]

def codeAction (c : Char) : Action :=
  if c = '\'' then .enter .string
  else if c = backtick then .opening .template .template
  else if c = '/' then .enter .slash
  else if c = '(' then .opening .round .code
  else if c = '[' then .opening .square .code
  else if c = leftBrace then .opening .curly .code
  else if c = ')' then .closing [(.round, .code)]
  else if c = ']' then .closing [(.square, .code)]
  else if c = rightBrace then .closing [(.curly, .code), (.expression, .template)]
  else .enter .code

def templateAction (c : Char) : Action :=
  if c = backtick then .closing [(.template, .code)]
  else if c = '\\' then .enter .templateEscape
  else if c = '$' then .enter .dollar
  else .enter .template

def action : Mode → Char → Action
  | .code, c => codeAction c
  | .slash, c => if c = '/' then .enter .comment else codeAction c
  | .string, c =>
    if c ∈ lineEnds then .stuck
    else if c = '\'' then .enter .code
    else if c = '\\' then .enter .stringEscape
    else .enter .string
  | .stringEscape, c => if c ∈ lineEnds then .stuck else .enter .string
  | .comment, c => if c ∈ lineEnds then .enter .code else .enter .comment
  | .template, c => templateAction c
  | .templateEscape, _ => .enter .template
  | .dollar, c => if c = leftBrace then .opening .expression .code else templateAction c

def Action.apply : Action → List Opened → Option State
  | .enter mode, opened => some ⟨mode, opened⟩
  | .opening what mode, opened => some ⟨mode, what :: opened⟩
  | .closing ends, last :: opened => (ends.lookup last).map (⟨·, opened⟩)
  | .closing _, [] => none
  | .stuck, _ => none

def step (s : State) (c : Char) : Option State := (action s.mode c).apply s.opened

def read : List Char → State → Option State
  | [], s => some s
  | c :: rest, s => (step s c).bind (read rest)

abbrev inCode (opened : List Opened) : State := ⟨.code, opened⟩

def Reads (s : String) (a b : State) : Prop := read s.toList a = some b

/-- A text that can be read to its end, with all strings, comments, template literals and brackets
closed there. -/
def WellFormed (s : String) : Prop := Reads s (inCode []) (inCode [])

instance (s : String) (a b : State) : Decidable (Reads s a b) :=
  inferInstanceAs (Decidable (read s.toList a = some b))

instance (s : String) : Decidable (WellFormed s) :=
  inferInstanceAs (Decidable (Reads s (inCode []) (inCode [])))

example : WellFormed (r"f(`a${g(['b\'', 1])}`); // it's" ++ "\n") := by decide

example : ¬ WellFormed "f('it's');" := by decide

example : ¬ WellFormed "f('a\n');" := by decide

example : ¬ WellFormed r"f(`${`);" := by decide

/-! ## Reading piece by piece -/

theorem read_append (xs ys : List Char) (s : State) :
    read (xs ++ ys) s = (read xs s).bind (read ys) := by
  induction xs generalizing s with
  | nil => rfl
  | cons c xs ih =>
    change (step s c).bind (read (xs ++ ys)) = ((step s c).bind (read xs)).bind (read ys)
    cases step s c with
    | none => rfl
    | some t => exact ih t

theorem Reads.append {s t : String} {a b c : State} (hs : Reads s a b) (ht : Reads t b c) :
    Reads (s ++ t) a c := by
  unfold Reads at *
  rw [String.toList_append, read_append, hs]
  exact ht

theorem reads_text {l : List Char} {a b : State} (h : read l a = some b) :
    Reads (String.ofList l) a b := by
  unfold Reads
  rw [String.toList_ofList]
  exact h

theorem intercalate_reads {separator : String} {ss : List String} {a : State}
    (hsep : Reads separator a a) (h : ∀ s ∈ ss, Reads s a a) :
    Reads (separator.intercalate ss) a a := by
  induction ss with
  | nil =>
    rw [String.intercalate_nil]
    rfl
  | cons s ss ih =>
    have hs := h s (by simp)
    cases ss with
    | nil =>
      rw [String.intercalate_singleton]
      exact hs
    | cons t ss =>
      rw [String.intercalate_cons_cons]
      exact hs.append hsep |>.append (ih fun u hu => h u (by simp [hu]))

/-! ## What is open around a text -/

/-- The state with more open around it. -/
def State.under (s : State) (outer : List Opened) : State := ⟨s.mode, s.opened ++ outer⟩

theorem apply_under {x : Action} {opened : List Opened} {t : State} (outer : List Opened)
    (h : x.apply opened = some t) : x.apply (opened ++ outer) = some (t.under outer) := by
  cases x with
  | enter mode =>
    cases h
    rfl
  | opening what mode =>
    cases h
    rfl
  | closing ends =>
    cases opened with
    | nil => cases h
    | cons last opened =>
      obtain ⟨mode, hm, rfl⟩ := Option.map_eq_some_iff.1 h
      change (ends.lookup last).map _ = _
      rw [hm]
      rfl
  | stuck => cases h

theorem read_under {l : List Char} {a b : State} (outer : List Opened)
    (h : read l a = some b) : read l (a.under outer) = some (b.under outer) := by
  induction l generalizing a with
  | nil =>
    cases h
    rfl
  | cons c l ih =>
    obtain ⟨t, ht, hr⟩ := Option.bind_eq_some_iff.1 h
    change (step (a.under outer) c).bind (read l) = _
    rw [show step (a.under outer) c = some (t.under outer) from apply_under outer ht]
    exact ih hr

theorem WellFormed.reads {s : String} (h : WellFormed s) (opened : List Opened) :
    Reads s (inCode opened) (inCode opened) :=
  read_under opened h

end LoadScript.Script.Lexer
