/-!
# Search criteria

What a player is willing to accept from a match.
-/

namespace Muster

/-- A player is named by a number. -/
abbrev PlayerId := UInt64

/-- The limits of a search.  A limit that is not positive, for the ping, or negative, for the
others, does not apply. -/
structure Criteria where
  /-- Players wanted, on the server and in the matched group together. -/
  minPlayers : UInt32 := 1
  maxPing : Int32 := 0
  maxScore : Int64 := -1
  /-- Players tolerated on the server. -/
  maxPlayers : Int32 := -1
  deriving DecidableEq, Repr

namespace Criteria

/-- The ping that is no longer acceptable, if there is one. -/
def pingLimit? (criteria : Criteria) : Option UInt32 :=
  if 0 < criteria.maxPing then some criteria.maxPing.toUInt32 else none

/-- The highest acceptable score, if there is one. -/
def scoreLimit? (criteria : Criteria) : Option Int64 :=
  if 0 ≤ criteria.maxScore then some criteria.maxScore else none

/-- The highest acceptable number of players on the server, if there is one. -/
def playerLimit? (criteria : Criteria) : Option UInt32 :=
  if 0 ≤ criteria.maxPlayers then some criteria.maxPlayers.toUInt32 else none

end Criteria

end Muster
