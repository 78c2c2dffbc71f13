import LoadScript.Proofs.Script.Lexemes

set_option autoImplicit false

namespace LoadScript

namespace Chars

def escaped? : Char → Option Char
  | '\\' => some '\\'
  | '\'' => some '\''
  | 'n' => some '\n'
  | 'r' => some '\r'
  | 't' => some '\t'
  | _ => none

def hexDigit? (c : Char) : Option Nat :=
  if '0' ≤ c ∧ c ≤ '9' then some (c.toNat - '0'.toNat)
  else if 'a' ≤ c ∧ c ≤ 'f' then some (c.toNat - 'a'.toNat + 10)
  else if 'A' ≤ c ∧ c ≤ 'F' then some (c.toNat - 'A'.toNat + 10)
  else none

/-- The character with a number of four hexadecimal digits; half of a pair is none. -/
def codePoint? (a b c d : Char) : Option Char := do
  let n := ((16 * (← hexDigit? a) + (← hexDigit? b)) * 16 + (← hexDigit? c)) * 16 + (← hexDigit? d)
  if n.isValidChar then some (Char.ofNat n) else none

/-- The text up to the closing quote, and what follows it. -/
def readQuoted : List Char → Option (List Char × List Char)
  | [] => none
  | '\'' :: rest => some ([], rest)
  | '\\' :: 'u' :: a :: b :: c :: d :: rest => do
    let (text, after) ← readQuoted rest
    return ((← codePoint? a b c d) :: text, after)
  | '\\' :: e :: rest => do
    let (text, after) ← readQuoted rest
    return ((← escaped? e) :: text, after)
  | c :: rest =>
    if c = '\\' ∨ isLineTerminator c then none
    else (readQuoted rest).map fun (text, after) => (c :: text, after)

def readLiteral : List Char → Option (List Char × List Char)
  | '\'' :: rest => readQuoted rest
  | _ => none

theorem readQuoted_plain {c : Char} (rest : List Char) (quote : c ≠ '\'') (back : c ≠ '\\')
    (line : isLineTerminator c = false) :
    readQuoted (c :: rest) = (readQuoted rest).map fun (text, after) => (c :: text, after) := by
  rw [readQuoted.eq_def]
  split <;> simp_all

theorem readQuoted_escape {c e : Char} (rest : List Char) (other : e ≠ 'u')
    (known : escaped? e = some c) : readQuoted ('\\' :: e :: rest) =
      (readQuoted rest).map fun (text, after) => (c :: text, after) := by
  rw [readQuoted.eq_def]
  split
  · simp_all
  · simp_all
  · simp_all
  · rename_i same
    cases same
    cases readQuoted rest <;> simp [known]
  · rename_i no_escape same
    cases same
    exact (no_escape e rest rfl rfl).elim

theorem readQuoted_literalChar (c : Char) (rest : List Char) :
    readQuoted (literalChar c ++ rest) =
      (readQuoted rest).map fun (text, after) => (c :: text, after) := by
  by_cases back : c = '\\'
  · subst back
    exact readQuoted_escape rest (by decide) rfl
  by_cases quote : c = '\''
  · subst quote
    exact readQuoted_escape rest (by decide) rfl
  by_cases feed : c = '\n'
  · subst feed
    exact readQuoted_escape rest (by decide) rfl
  by_cases ret : c = '\r'
  · subst ret
    exact readQuoted_escape rest (by decide) rfl
  by_cases tab : c = '\t'
  · subst tab
    exact readQuoted_escape rest (by decide) rfl
  by_cases line : c = lineSeparator
  · subst line
    have code : codePoint? '2' '0' '2' '8' = some lineSeparator := by decide
    change readQuoted ('\\' :: 'u' :: '2' :: '0' :: '2' :: '8' :: rest) = _
    rw [readQuoted, code]
    cases readQuoted rest <;> rfl
  by_cases paragraph : c = paragraphSeparator
  · subst paragraph
    have code : codePoint? '2' '0' '2' '9' = some paragraphSeparator := by decide
    change readQuoted ('\\' :: 'u' :: '2' :: '0' :: '2' :: '9' :: rest) = _
    rw [readQuoted, code]
    cases readQuoted rest <;> rfl
  have plain : literalChar c = [c] := by
    simp [literalChar, back, quote, feed, ret, tab, line, paragraph]
  rw [plain]
  refine readQuoted_plain rest quote back ?_
  simp [isLineTerminator, feed, ret, line, paragraph]

theorem readQuoted_literalChars (s rest : List Char) :
    readQuoted (s.flatMap literalChar ++ '\'' :: rest) = some (s, rest) := by
  induction s with
  | nil => rfl
  | cons c s ih =>
    rw [List.flatMap_cons, List.append_assoc, readQuoted_literalChar, ih]
    rfl

theorem readLiteral_literal (s rest : List Char) :
    readLiteral (literal s ++ rest) = some (s, rest) := by
  rw [literal, List.cons_append, List.append_assoc, List.singleton_append]
  exact readQuoted_literalChars s rest

theorem literalChar_oneLine (c : Char) : (literalChar c).all (!isLineTerminator ·) = true := by
  unfold literalChar
  split
  · rfl
  split
  · rfl
  split
  · rfl
  split
  · rfl
  split
  · rfl
  split
  · rfl
  split
  · rfl
  rename_i feed ret _ line paragraph
  simp [isLineTerminator, feed, ret, line, paragraph]

end Chars

namespace Script

open Lexer

theorem literal_oneLine (s : String) : OneLine (literal s) := by
  intro c hc
  unfold literal at hc
  rw [String.toList_ofList] at hc
  rw [mem_lineEnds_iff]
  obtain rfl | later := List.mem_cons.1 hc
  · decide
  · obtain written | last := List.mem_append.1 later
    · obtain ⟨d, -, mem⟩ := List.mem_flatMap.1 written
      simpa using List.all_eq_true.1 (Chars.literalChar_oneLine d) c mem
    · rw [List.mem_singleton.1 last]
      decide

def readLiteral (code : String) : Option (String × String) :=
  (Chars.readLiteral code.toList).map fun (text, rest) => (String.ofList text, String.ofList rest)

theorem readLiteral_append (text rest : String) :
    readLiteral (literal text ++ rest) = some (text, rest) := by
  have chars := Chars.readLiteral_literal text.toList rest.toList
  rw [readLiteral, literal, String.toList_append, String.toList_ofList, chars]
  simp

/-- A text can be read off its literal whatever code follows, and the literal is on one line. -/
theorem literal_prefix_decodable :
    (∀ text rest, readLiteral (literal text ++ rest) = some (text, rest)) ∧
      Function.Injective literal ∧ ∀ text, OneLine (literal text) := by
  refine ⟨readLiteral_append, ?_, literal_oneLine⟩
  intro text other same
  have first := readLiteral_append text ""
  rw [same, readLiteral_append other ""] at first
  cases first
  rfl

-- Backslashes in front of a quote, and a text that looks like an escape.
example : literal "\\'\\u2028" = "'\\\\\\'\\\\u2028'" := by decide +kernel

end Script

end LoadScript
