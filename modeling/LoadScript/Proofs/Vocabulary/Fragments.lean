import LoadScript.Proofs.Vocabulary.Closed

set_option autoImplicit false

namespace LoadScript.Script.Lexer

/-! ## Forms that recur -/

theorem Plain.wellFormed {s : String} (h : Plain s) : WellFormed s := h.reads (by simp) []

theorem braced_reads {inner : String} (h : WellFormed inner) (opened : List Opened) :
    Reads (braced inner) (inCode opened) (inCode opened) := by
  have hopen : Reads r"{ " (inCode opened) (inCode (.curly :: opened)) := reads_text rfl
  have hclose : Reads r" }" (inCode (.curly :: opened)) (inCode opened) := reads_text rfl
  exact hopen.append (h.reads _) |>.append hclose

theorem interpolated_reads {expression : String} (h : WellFormed expression)
    (opened : List Opened) :
    Reads (interpolated expression) ⟨.template, opened⟩ ⟨.template, opened⟩ := by
  have hopen : Reads r"${" ⟨.template, opened⟩ (inCode (.expression :: opened)) := reads_text rfl
  have hclose : Reads r"}" (inCode (.expression :: opened)) ⟨.template, opened⟩ := reads_text rfl
  exact hopen.append (h.reads _) |>.append hclose

end LoadScript.Script.Lexer

namespace LoadScript

open Script Script.Lexer

/-- What a definition contributes can be read as a whole. -/
structure Definition.WellFormed (d : Definition) : Prop where
  names : ∀ m ∈ d.metrics, Plain m.name
  code : ∀ o : Occurrence, o.step.WithoutDocText → ClosedLines (d.code o)
  setup : ∀ o fragment, d.setupOf o = some fragment → ClosedLines fragment

theorem Vocabulary.builtin_wellFormed : ∀ d ∈ builtin, d.WellFormed := by
  have plain : ∀ m ∈ metrics, Plain m.name := by decide
  intro d hd
  have closed := builtin_closed d hd
  exact {
    names := fun m hm => plain m (builtin_metrics m (List.mem_flatMap.2 ⟨d, hd, hm⟩))
    code := fun o ho => (closed.code o ho).closedLines
    setup := fun o fragment h => (closed.setup o fragment h).closedLines }

end LoadScript
