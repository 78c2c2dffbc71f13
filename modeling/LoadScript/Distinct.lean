set_option autoImplicit false

namespace LoadScript

def distinct {α : Type} [DecidableEq α] : List α → List α
  | [] => []
  | a :: rest => a :: (distinct rest).filter (fun b => b ≠ a)

end LoadScript
