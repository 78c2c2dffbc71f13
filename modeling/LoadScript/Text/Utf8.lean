/-!
# UTF-8

Decoding of bytes that need not be well formed. Every longest run of bytes that begins a character
but does not finish it, and every byte that begins none, is decoded as the replacement character.
-/

set_option autoImplicit false

namespace LoadScript.Utf8

def replacement : Char := Char.ofNat 0xFFFD

/-- A character of which some bytes are read: how many are missing, the range of the next one, and
the bits so far. -/
structure Unfinished where
  missing : Nat
  least : Nat
  greatest : Nat
  bits : Nat

inductive Lead where
  | ascii (c : Char)
  | opens (u : Unfinished)
  | stray

/-- The second byte of a character excludes longer forms than needed, surrogates and what lies
beyond the last character. -/
def lead (b : Nat) : Lead :=
  if b < 0x80 then .ascii (Char.ofNat b)
  else if b < 0xC2 then .stray
  else if b < 0xE0 then .opens ⟨1, 0x80, 0xBF, b % 0x20⟩
  else if b < 0xF0 then
    .opens ⟨2, if b = 0xE0 then 0xA0 else 0x80, if b = 0xED then 0x9F else 0xBF, b % 0x10⟩
  else if b < 0xF5 then
    .opens ⟨3, if b = 0xF0 then 0x90 else 0x80, if b = 0xF4 then 0x8F else 0xBF, b % 0x08⟩
  else .stray

/-- The characters of bytes that follow an unfinished character, if there is one. -/
def decodeFrom : Option Unfinished → List UInt8 → List Char
  | none, [] => []
  | some _, [] => [replacement]
  | none, b :: rest =>
    match lead b.toNat with
    | .ascii c => c :: decodeFrom none rest
    | .opens u => decodeFrom (some u) rest
    | .stray => replacement :: decodeFrom none rest
  | some u, b :: rest =>
    if u.least ≤ b.toNat ∧ b.toNat ≤ u.greatest then
      let bits := 0x40 * u.bits + b.toNat % 0x40
      if u.missing ≤ 1 then Char.ofNat bits :: decodeFrom none rest
      else decodeFrom (some ⟨u.missing - 1, 0x80, 0xBF, bits⟩) rest
    else
      match lead b.toNat with
      | .ascii c => replacement :: c :: decodeFrom none rest
      | .opens next => replacement :: decodeFrom (some next) rest
      | .stray => replacement :: replacement :: decodeFrom none rest

def decode (bytes : List UInt8) : String := String.ofList (decodeFrom none bytes)

end LoadScript.Utf8
