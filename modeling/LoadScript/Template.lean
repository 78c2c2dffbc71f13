import LoadScript.Parameters
import LoadScript.Step

/-!
# Templates

A placeholder is a name between angle brackets; a name is not empty and has no angle bracket and
no line feed. Substitution replaces the placeholders whose name is a parameter, all at once: an
inserted value is not looked at again, and other placeholders stay.
-/

set_option autoImplicit false

namespace LoadScript

namespace Template

def isNameChar (c : Char) : Bool := c != '<' && c != '>' && c != '\n'

/-- The name and the rest, when a placeholder's opening bracket stands just before the text. -/
def placeholder? (s : List Char) : Option (List Char × List Char) :=
  match s.dropWhile isNameChar with
  | '>' :: rest =>
    if (s.takeWhile isNameChar).isEmpty then none else some (s.takeWhile isNameChar, rest)
  | _ => none

theorem placeholder?_length {s name rest : List Char} (h : placeholder? s = some (name, rest)) :
    rest.length < s.length := by
  unfold placeholder? at h
  split at h
  · rename_i r hr
    split at h
    · simp at h
    · simp only [Option.some.injEq, Prod.mk.injEq] at h
      have hlen := congrArg List.length (List.takeWhile_append_dropWhile (p := isNameChar) (l := s))
      rw [hr] at hlen
      simp only [List.length_append, List.length_cons] at hlen
      rw [← h.2]
      omega
  · simp at h

def replacement (p : Parameters) (name : List Char) : List Char :=
  match p.get? (String.ofList name) with
  | some value => value.toList
  | none => '<' :: (name ++ ['>'])

def substituteChars (p : Parameters) (s : List Char) : List Char :=
  match s with
  | [] => []
  | c :: rest =>
    if c = '<' then
      match h : placeholder? rest with
      | some (name, after) =>
        have : after.length < rest.length := placeholder?_length h
        replacement p name ++ substituteChars p after
      | none => c :: substituteChars p rest
    else c :: substituteChars p rest
termination_by s.length

def substitute (p : Parameters) (s : String) : String :=
  if p.isEmpty then s else String.ofList (substituteChars p s.toList)

/-- Substitution in the text, the cells and the doc string of a step. -/
def substituteStep (p : Parameters) (s : Step) : Step :=
  { s with
    text := substitute p s.text
    table := s.table.map (·.map (·.map (substitute p)))
    docstring := s.docstring.map (substitute p) }

end Template

end LoadScript
