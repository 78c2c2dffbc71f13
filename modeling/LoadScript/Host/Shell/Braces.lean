import LoadScript.Host.Shell.Arithmetic

set_option autoImplicit false

namespace LoadScript.Shell.Braces

/-- A character without quotes, or a part that is taken as it is. -/
inductive Glyph where
  | char (c : Char)
  | part (p : Part)

def Glyph.char? : Glyph → Option Char
  | .char c => some c
  | .part _ => none

def glyphs (w : Word) : List Glyph :=
  w.flatMap fun p => match p with
    | .text s false => s.map .char
    | p => [.part p]

def wordOf (gs : List Glyph) : Word :=
  gs.foldr (fun g w =>
    match g, w with
    | .char c, .text s false :: rest => .text (c :: s) false :: rest
    | .char c, w => .text [c] false :: w
    | .part p, w => p :: w) []

/-! ## Ranges -/

def integer? (s : Octets) : Option Int :=
  let (negative, digits) := match s with
    | '-' :: digits => (true, digits)
    | '+' :: digits => (false, digits)
    | digits => (false, digits)
  let n := Int.ofNat (Arithmetic.readDigits 10 0 digits).1
  if digits.isEmpty || !digits.all Char.isDigit then none else some (if negative then -n else n)

def splitDots : Octets → List Octets
  | [] => [[]]
  | '.' :: '.' :: rest => [] :: splitDots rest
  | c :: rest =>
    match splitDots rest with
    | [] => [[c]]
    | piece :: more => (c :: piece) :: more

def steps (first last step : Int) : List Int :=
  let size := if step = 0 then 1 else step.natAbs
  let count := (last - first).natAbs / size + 1
  (List.range count).map fun k =>
    if first ≤ last then first + Int.ofNat (k * size) else first - Int.ofNat (k * size)

def asksForZeros (s : Octets) : Bool :=
  match s with
  | '0' :: _ :: _ | '-' :: '0' :: _ :: _ => true
  | _ => false

def padded (width : Nat) (n : Int) : Octets :=
  let sign := if n < 0 then ['-'] else []
  let digits := Octets.ofNat n.natAbs
  sign ++ List.replicate (width - sign.length - digits.length) '0' ++ digits

def range? (s : Octets) : Option (List Octets) :=
  let texts? := fun (first last : Octets) (step : Int) =>
    match integer? first, integer? last with
    | some m, some n =>
      let width := if asksForZeros first || asksForZeros last then
          Nat.max first.length last.length
        else 0
      some ((steps m n step).map (padded width))
    | _, _ =>
      match first, last with
      | [a], [b] =>
        if a.isAlpha && b.isAlpha then
          some ((steps (Int.ofNat a.toNat) (Int.ofNat b.toNat) step).map fun n =>
            [Char.ofNat n.toNat])
        else none
      | _, _ => none
  match splitDots s with
  | [first, last] => texts? first last 1
  | [first, last, step] => (integer? step).bind (texts? first last)
  | _ => none

/-! ## Alternatives -/

/-- The glyphs between commas up to the brace that closes the one in front, and what follows it. -/
def splitGroup? : (depth : Nat) → List Glyph → List (List Glyph) → List Glyph →
    Option (List (List Glyph) × List Glyph)
  | _, _, _, [] => none
  | 0, acc, done, .char '}' :: rest => some ((acc.reverse :: done).reverse, rest)
  | 0, acc, done, .char ',' :: rest => splitGroup? 0 [] (acc.reverse :: done) rest
  | depth + 1, acc, done, .char '}' :: rest =>
    splitGroup? depth (.char '}' :: acc) done rest
  | depth, acc, done, .char '{' :: rest =>
    splitGroup? (depth + 1) (.char '{' :: acc) done rest
  | depth, acc, done, g :: rest => splitGroup? depth (g :: acc) done rest

def group? (gs : List Glyph) : Option (List (List Glyph) × List Glyph) :=
  match splitGroup? 0 [] [] gs with
  | some ([single], rest) => do
    let text ← single.mapM Glyph.char?
    let texts ← range? text
    return (texts.map (·.map .char), rest)
  | found => found

def expandFrom : Nat → List Glyph → List (List Glyph)
  | 0, gs => [gs]
  | _, [] => [[]]
  | fuel + 1, .char '{' :: rest =>
    match group? rest with
    | some (alternatives, after) =>
      let tails := expandFrom fuel after
      (alternatives.flatMap (expandFrom fuel)).flatMap fun front => tails.map (front ++ ·)
    | none => (expandFrom fuel rest).map (.char '{' :: ·)
  | fuel + 1, g :: rest => (expandFrom fuel rest).map (g :: ·)

def expand (w : Word) : List Word :=
  let gs := glyphs w
  if gs.any fun g => g.char? == some '{' then (expandFrom (gs.length + 1) gs).map wordOf else [w]

end LoadScript.Shell.Braces
