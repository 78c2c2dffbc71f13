import LoadScript.Host.Shell.Escape

set_option autoImplicit false

namespace LoadScript.Shell

def quoteFrom : Nat → Octets → Octets
  | 0, _ => []
  | fuel + 1, s =>
    let plain := s.takeWhile (· != '\'')
    let rest := s.dropWhile (· != '\'')
    let marks := rest.takeWhile (· == '\'')
    let after := rest.dropWhile (· == '\'')
    ['\''] ++ plain ++ ['\''] ++
      (if marks.isEmpty then []
      else ['"'] ++ marks ++ ['"'] ++ (if after.isEmpty then [] else quoteFrom fuel after))

def quote (s : Octets) : Octets := quoteFrom (s.length + 1) s

def isControl (c : Char) : Bool := c < ' ' || 127 ≤ c.toNat

def escapeControl (c : Char) : Octets :=
  let named := [(7, 'a'), (8, 'b'), (27, 'E'), (12, 'f'), (10, 'n'), (13, 'r'), (9, 't'), (11, 'v')]
  match named.find? (·.1 = c.toNat) with
  | some (_, letter) => ['\\', letter]
  | none =>
    if isControl c then
      let digits := Nat.toDigits 8 c.toNat
      '\\' :: List.replicate (3 - digits.length) '0' ++ digits
    else if c == '\'' || c == '\\' then ['\\', c]
    else [c]

/-- A text in quotes that ask for the replacement of escapes. -/
def quoteEscaped (s : Octets) : Octets := ['$', '\''] ++ s.flatMap escapeControl ++ ['\'']

def quoteOpenly (s : Octets) : Octets :=
  ['\''] ++ s.flatMap (fun c => if c == '\'' then "'\\''".toList else [c]) ++ ['\'']

def quoteFully (s : Octets) : Octets :=
  if s.any isControl then quoteEscaped s else quoteOpenly s

def meansSomething (c : Char) : Bool :=
  (r#" !"$&'()*,;<>?[\]^{|}"#.toList ++ [backquote]).contains c

/-- Whether a text would not be read as one word, or not as it is. -/
def needsQuotes (s : Octets) : Bool :=
  s.isEmpty || s.head? == some '#' || s.head? == some '~' ||
    s.any fun c => c != ',' && (meansSomething c || c == '\t' || c == '\n')

def quoteIfNeeded (s : Octets) : Octets :=
  if needsQuotes s then quoteOpenly s
  else if s.any isControl then quoteEscaped s
  else s

def quoteBriefly (s : Octets) : Octets :=
  if s.isEmpty then "''".toList
  else if s.any isControl then quoteEscaped s
  else
    let escaped := s.flatMap fun c => if meansSomething c then ['\\', c] else [c]
    match s with
    | '#' :: _ | '~' :: _ => '\\' :: escaped
    | _ => escaped

end LoadScript.Shell
