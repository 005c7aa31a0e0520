import Muster.Matchmaker.Admission

/-!
# Searches

Players enter the search, change what they ask for, and leave.  Nobody searches while in a queue.
-/

namespace Muster.Matchmaker

/-- A player starts to search.  A player who is in a queue is refused before one who searches
already.  Returns whether the search started. -/
def enter (matchmaker : Matchmaker) (player : PlayerId) (criteria : Criteria)
    (servers : List PreferredServer) (now : Nat) : Matchmaker × Bool × List Effect :=
  if matchmaker.registry.isQueued player then
    (matchmaker, false, [.notify player (.failure .alreadyJoining)])
  else if matchmaker.isSearching player then
    (matchmaker, false, [.notify player (.failure .alreadySearching)])
  else
    ((matchmaker.addSearcher (.enter player criteria servers now)).registerAll servers now,
      true, [])

/-- A player changes what the search asks for.  Returns whether there is a search. -/
def updatePreferences (matchmaker : Matchmaker) (player : PlayerId) (criteria : Criteria)
    (servers : List PreferredServer) (now : Nat) : Matchmaker × Bool × List Effect :=
  if matchmaker.isSearching player then
    ((matchmaker.modifySearcher player fun searcher =>
      searcher.update criteria servers).registerAll servers now, true, [])
  else (matchmaker, false, [.notify player (.failure .notSearching)])

/-- A player stops to search.  Returns whether there was a search. -/
def leave (matchmaker : Matchmaker) (player : PlayerId) : Matchmaker × Bool :=
  (matchmaker.removeSearcher player, matchmaker.isSearching player)

/-- The server from whose queue a player is to be taken.  The server where the player is thought to
be is looked at first. -/
def queueToLeave? (matchmaker : Matchmaker) (player : PlayerId) (thoughtAt : Option Endpoint) :
    Option GameServer :=
  ((thoughtAt.bind matchmaker.registry.get?).filter fun server =>
    server.queue.contains player).or (matchmaker.registry.queueOf? player)

/-- Takes a player out of the search or, after the match, out of the queue. -/
def withdraw (matchmaker : Matchmaker) (player : PlayerId) (thoughtAt : Option Endpoint)
    (reason : DequeueReason) (now : Nat) : Matchmaker × Option Withdrawal × List Effect :=
  if matchmaker.isSearching player then (matchmaker.removeSearcher player, some .search, [])
  else
    match matchmaker.queueToLeave? player thoughtAt with
    | none => (matchmaker, none, [])
    | some server =>
      match matchmaker.dequeue? server.address player reason now with
      | some (matchmaker, effects) => (matchmaker, some (.queue server.address), effects)
      | none => (matchmaker, none, [])

end Muster.Matchmaker
