/-!
# Stable order

The elements of a list in the order of a comparison `before`, which says that its first argument may
stand in front of its second.  Elements each of which may stand in front of the other keep the order
in which they were.
-/

namespace Muster.Order

variable {α : Type}

/-- Puts an element in front of the first one in front of which it may stand. -/
def insert (before : α → α → Bool) (element : α) : List α → List α
  | [] => [element]
  | first :: rest =>
    if before element first then element :: first :: rest
    else first :: insert before element rest

/-- The elements of a list in order. -/
def arrange (before : α → α → Bool) : List α → List α
  | [] => []
  | first :: rest => insert before first (arrange before rest)

end Muster.Order
