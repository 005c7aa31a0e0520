/-!
# Keyed lists

Lists in which things stand under keys, in the order in which their keys first came up.
-/

namespace Muster.Keyed

variable {κ α : Type} [DecidableEq κ]

/-- Changes what stands under a key.  Where nothing does, the key comes last. -/
def alter (key : κ) (change : Option α → α) : List (κ × α) → List (κ × α)
  | [] => [(key, change none)]
  | entry :: rest =>
    if entry.1 = key then (key, change (some entry.2)) :: rest else entry :: alter key change rest

end Muster.Keyed
