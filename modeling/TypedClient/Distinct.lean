set_option autoImplicit false

namespace TypedClient

def uniqueBy {α β : Type} [DecidableEq β] (key : α → β) : List α → List α
  | [] => []
  | x :: rest => x :: (uniqueBy key rest).filter (key · ≠ key x)

def distinct {α : Type} [DecidableEq α] (items : List α) : List α := uniqueBy id items

end TypedClient
