import LoadScript.Text.Cased
import LoadScript.Text.LowerRows

/-!
# Lower case and case folding

`Chars.lower` maps a whole text: a capital sigma at the end of a word becomes the final sigma, and
the capital I with a dot above becomes two characters. `Chars.fold` maps one character, so that two
characters that differ only in case have the same image.
-/

set_option autoImplicit false

namespace LoadScript

namespace Chars

/-- Whether the first character that is not case-ignorable is a cased one. -/
def startsCased (s : List Char) : Bool :=
  match s.dropWhile isCaseIgnorable with
  | c :: _ => isCased c
  | [] => false

/-- The lower case form of `c` between the reversed text `before` and the text `after`. -/
def lowerBetween (before : List Char) (c : Char) (after : List Char) : List Char :=
  if c = 'Σ' then
    if startsCased before && !startsCased after then ['ς'] else ['σ']
  else if c = 'İ' then ['i', '̇']
  else [mapByRows lowerRows c]

def lowerFrom : List Char → List Char → List Char
  | _, [] => []
  | before, c :: rest => lowerBetween before c rest ++ lowerFrom (c :: before) rest

def lower (s : List Char) : List Char := lowerFrom [] s

/-- The characters that fold otherwise than to their lower case: variants of a letter fold to the
letter, and Cherokee folds to its capital letters. -/
def foldRows : List CaseRow := [
  ⟨0xB5, 0xB5, 1, 775⟩, ⟨0x17F, 0x17F, 1, -268⟩, ⟨0x345, 0x345, 1, 116⟩, ⟨0x3C2, 0x3C2, 1, 1⟩,
  ⟨0x3D0, 0x3D0, 1, -30⟩, ⟨0x3D1, 0x3D1, 1, -25⟩, ⟨0x3D5, 0x3D5, 1, -15⟩, ⟨0x3D6, 0x3D6, 1, -22⟩,
  ⟨0x3F0, 0x3F0, 1, -54⟩, ⟨0x3F1, 0x3F1, 1, -48⟩, ⟨0x3F5, 0x3F5, 1, -64⟩,
  ⟨0x13A0, 0x13F5, 1, 0⟩, ⟨0x13F8, 0x13FD, 1, -8⟩, ⟨0x1C80, 0x1C80, 1, -6222⟩,
  ⟨0x1C81, 0x1C81, 1, -6221⟩, ⟨0x1C82, 0x1C82, 1, -6212⟩, ⟨0x1C83, 0x1C84, 1, -6210⟩,
  ⟨0x1C85, 0x1C85, 1, -6211⟩, ⟨0x1C86, 0x1C86, 1, -6204⟩, ⟨0x1C87, 0x1C87, 1, -6180⟩,
  ⟨0x1C88, 0x1C88, 1, 35267⟩, ⟨0x1E9B, 0x1E9B, 1, -58⟩, ⟨0x1FBE, 0x1FBE, 1, -7173⟩,
  ⟨0xAB70, 0xABBF, 1, -38864⟩]

def fold (c : Char) : Char := mapByRows (foldRows ++ lowerRows) c

end Chars

namespace Text

def lower (s : String) : String := String.ofList (Chars.lower s.toList)

end Text

end LoadScript
