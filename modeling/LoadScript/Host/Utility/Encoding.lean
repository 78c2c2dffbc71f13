import LoadScript.Host.Utility.Processes

set_option autoImplicit false

namespace LoadScript.Utility

namespace SixBits

def alphabet : Octets :=
  "ABCDEFGHIJKLMNOPQRSTUVWXYZabcdefghijklmnopqrstuvwxyz0123456789+/".toList

def digit (n : Nat) : Char := (alphabet[n]?).getD '='

def value? (c : Char) : Option Nat := alphabet.findIdx? (· == c)

/-- Three bytes as four characters; equals signs stand for what is missing. -/
def encodeGroup (bytes : List Nat) : Octets :=
  match bytes with
  | [a] => [digit (a / 4), digit (a % 4 * 16), '=', '=']
  | [a, b] => [digit (a / 4), digit (a % 4 * 16 + b / 16), digit (b % 16 * 4), '=']
  | [a, b, c] =>
    [digit (a / 4), digit (a % 4 * 16 + b / 16), digit (b % 16 * 4 + c / 64), digit (c % 64)]
  | _ => []

def encode (bytes : Octets) : Octets :=
  ((chunks 3 (bytes.length + 1) (bytes.map Char.toNat)).map encodeGroup).flatten

def decodeGroup (text : Octets) : Octets × Bool :=
  let values := text.filterMap value?
  let bytes := match values with
    | [a, b] => [a * 4 + b / 16]
    | [a, b, c] => [a * 4 + b / 16, b % 16 * 16 + c / 4]
    | [a, b, c, d] => [a * 4 + b / 16, b % 16 * 16 + c / 4, c % 4 * 64 + d]
    | _ => []
  let padding := (text.drop values.length).all (· == '=')
  let isGroup := text.length = 4 && 2 ≤ values.length && padding &&
    (text.take values.length).all fun c => (value? c).isSome
  (bytes.map Char.ofNat, isGroup)

/-- The bytes of a text, up to what is no good group. -/
def decodeGroups : List Octets → Octets × Bool
  | [] => ([], true)
  | group :: rest =>
    match decodeGroup group with
    | (bytes, true) =>
      let (more, isGood) := decodeGroups rest
      (bytes ++ more, isGood)
    | (bytes, false) => (bytes, false)

def decode (text : Octets) : Octets × Bool :=
  decodeGroups (chunks 4 (text.length + 1) text)

end SixBits

def base64 : Utility := fun i => do
  let names := [("decode", 'd'), ("ignore-garbage", 'i'), ("wrap", 'w')]
  let s ← i.select ⟨"di", "w", "", names, true⟩ 1
  match s.operands[1]? with
  | some extra => i.misused ("extra operand ".toList ++ quoteName extra) 1
  | none => do
    let width ← match s.value? 'w' with
      | none => pure 76
      | some text =>
        match decimal? text with
        | some n => pure n
        | none => i.abandon ("invalid wrap size: ".toList ++ quoteName text) 1
    let operand := s.operands.headD ['-']
    let content ← match ← Act.openOperand operand with
      | .error fault => pure (Except.error fault)
      | .ok descriptor => Act.readAll descriptor
    match content with
    | .error fault => do
      i.complainOf operand fault
      return 1
    | .ok text =>
      if s.has 'd' then
        let kept := text.filter fun c => c ≠ '\n' &&
          (!s.has 'i' || c == '=' || (SixBits.value? c).isSome)
        let (bytes, isGood) := SixBits.decode kept
        i.write bytes 1
        if isGood then return 0 else i.abandon "invalid input".toList 1
      else
        let shown := SixBits.encode text
        i.write (if width = 0 then shown
          else (chunks width (shown.length + 1) shown).flatMap (· ++ ['\n'])) 1
        return 0

end LoadScript.Utility
