import Muster.Match.Searcher
import Muster.Order

/-!
# Groups

The largest group that can be sent to a server.  Players are considered in the order of how many
players they want; a group is a front part of that order.
-/

namespace Muster.Group

/-- Carries on the search for the largest viable front part: `size` players are behind, who want at
most `highest` players, and `best` is the largest viable size so far. -/
def largestFrom (joined available : Count) : Nat → Nat → Nat → List Count → Nat
  | _, _, best, [] => best
  | size, highest, best, threshold :: rest =>
    let size := size + 1
    let highest := max highest threshold.toNat
    if available.toNat < size then best
    else if (Count.plus joined available).toNat < highest then best
    else
      largestFrom joined available size highest
        (if highest ≤ size + joined.toNat then size else best) rest

/-- The size of the largest front part of the wanted numbers that fits the available slots and
whose largest number is reached by it together with the players on the server. -/
def largest (thresholds : List Count) (joined available : Count) : Nat :=
  largestFrom joined available 0 0 0 thresholds

/-- Players in the order of how many players they want; equal ones keep their order. -/
def ordered (players : List Searcher) : List Searcher :=
  Order.arrange (fun left right => left.minPlayers ≤ right.minPlayers) players

/-- The best group of ordered players for a server. -/
def select? (players : List Searcher) (view : ServerView) (available : Count) :
    Option (List Searcher) :=
  let size := largest (players.map (·.minPlayers)) view.realPlayers available
  if size = 0 then none else some (players.take size)

end Muster.Group
