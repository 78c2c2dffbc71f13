import LoadScript.Host.Octets

set_option autoImplicit false

namespace LoadScript.Shell

inductive Elements where
  | listed (items : List (Nat × Octets))
  /-- The item that was added last comes first. -/
  | named (items : List (Octets × Octets))

namespace Elements

def rows : Nat := 1024

/-- The row of a text: a product by a prime for each byte, to which the byte is added without
carries. -/
def row (key : Octets) : Nat :=
  key.foldl (fun n c => Nat.xor (n * 16777619 % 4294967296) c.toNat) 2166136261 % rows

def insertListed (key : Nat) (value : Octets) : List (Nat × Octets) → List (Nat × Octets)
  | [] => [(key, value)]
  | (k, v) :: rest =>
    if key = k then (key, value) :: rest
    else if key < k then (key, value) :: (k, v) :: rest
    else (k, v) :: insertListed key value rest

def items : Elements → List (Octets × Octets)
  | .listed items => items.map fun (key, value) => (Octets.ofNat key, value)
  | .named items => items.mergeSort fun a b => row a.1 ≤ row b.1

def keys (e : Elements) : List Octets := e.items.map (·.1)

def values (e : Elements) : List Octets := e.items.map (·.2)

def keyNumber (key : Octets) : Nat := (String.ofList key).toNat?.getD 0

def get? (key : Octets) : Elements → Option Octets
  | .listed items => (items.find? (·.1 = keyNumber key)).map (·.2)
  | .named items => (items.find? (·.1 = key)).map (·.2)

/-- The element that the name of the array alone stands for. -/
def first? (e : Elements) : Option Octets := e.get? ['0']

def insert (key value : Octets) : Elements → Elements
  | .listed items => .listed (insertListed (keyNumber key) value items)
  | .named items =>
    if items.any (·.1 = key) then
      .named (items.map fun item => if item.1 = key then (key, value) else item)
    else .named ((key, value) :: items)

def erase (key : Octets) : Elements → Elements
  | .listed items => .listed (items.filter fun item => item.1 ≠ keyNumber key)
  | .named items => .named (items.filter fun item => item.1 ≠ key)

def isNamed : Elements → Bool
  | .named _ => true
  | .listed _ => false

def next : Elements → Nat
  | .listed items => items.getLast?.elim 0 fun item => item.1 + 1
  | .named _ => 0

def ofList (values : List Octets) : Elements := .listed ((List.range values.length).zip values)

end Elements

end LoadScript.Shell
