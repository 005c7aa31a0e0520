import Muster.Match.ServerView

/-!
# Searching players

A player who waits for a match, and what keeps the player off a server.  In the first attempt a
player holds out for a server that already has enough players.
-/

namespace Muster

/-- A player in the search pool. -/
structure Searcher where
  id : PlayerId
  criteria : Criteria
  /-- The servers the player named, with pings; of several for one address the last counts. -/
  servers : List PreferredServer
  /-- The time of entry, in milliseconds. -/
  joinedAt : Nat
  /-- Completed passes without a match. -/
  attempts : UInt32
  /-- The hints of the last pass. -/
  possibleMatches : List PossibleMatch
  deriving DecidableEq, Repr

namespace Searcher

/-- A player who has just entered. -/
def enter (id : PlayerId) (criteria : Criteria) (servers : List PreferredServer) (now : Nat) :
    Searcher :=
  ⟨id, criteria, servers, now, 0, []⟩

/-- Replaces what the player asks for; the time of entry and the attempts stay. -/
def update (player : Searcher) (criteria : Criteria) (servers : List PreferredServer) : Searcher :=
  { player with criteria, servers }

/-- The ping of the last of the named servers that has the address. -/
def lastPing? (address : Endpoint) : List PreferredServer → Option UInt32
  | [] => none
  | server :: rest =>
    (lastPing? address rest).or (if server.address = address then some server.ping else none)

/-- The ping the player measured to a server. -/
def pingTo? (player : Searcher) (address : Endpoint) : Option UInt32 :=
  lastPing? address player.servers

/-- The player named the server. -/
def prefers (player : Searcher) (address : Endpoint) : Bool :=
  (player.pingTo? address).isSome

/-- The addresses the player named, each once. -/
def addresses (player : Searcher) : List Endpoint :=
  (player.servers.map (·.address)).eraseDups

/-- The players the player wants on a server, with the group. -/
def minPlayers (player : Searcher) : Count :=
  player.criteria.minPlayers

/-- The time since the player entered, in seconds. -/
def waitSeconds (player : Searcher) (now : Nat) : Float :=
  let waited := now - player.joinedAt
  (waited / 1000).toFloat + (waited % 1000 * 1000000).toFloat / 1000000000

/-- Why the player waits for more players on the server. -/
def waiting? (player : Searcher) (view : ServerView) : Option Ineligibility :=
  if player.attempts = 0 ∧ view.realPlayers < player.minPlayers then
    some (.waitingForPlayers view.realPlayers player.minPlayers)
  else none

/-- Why the server's score is too high for the player. -/
def scoreTooHigh? (player : Searcher) (view : ServerView) : Option Ineligibility :=
  match player.criteria.scoreLimit?, view.totalScore with
  | some max, some score => if max < score then some (.scoreTooHigh score max) else none
  | _, _ => none

/-- Why too many players are on the server for the player. -/
def tooManyPlayers? (player : Searcher) (view : ServerView) : Option Ineligibility :=
  match player.criteria.playerLimit? with
  | some max =>
    if max < view.realPlayers then some (.tooManyPlayers view.realPlayers max) else none
  | none => none

/-- Why a ping is too high for the player. -/
def pingTooHigh? (player : Searcher) (ping : UInt32) : Option Ineligibility :=
  match player.criteria.pingLimit? with
  | some max => if max ≤ ping then some (.pingTooHigh ping max) else none
  | none => none

/-- Everything that keeps the player off the server.  A server the player did not name is not
looked at further. -/
def ineligibility (player : Searcher) (view : ServerView) : List Ineligibility :=
  match player.pingTo? view.address with
  | none => [.notPreferred]
  | some ping =>
    (player.waiting? view).toList ++ (player.scoreTooHigh? view).toList ++
      (player.tooManyPlayers? view).toList ++ (player.pingTooHigh? ping).toList

/-- Nothing keeps the player off the server. -/
def isEligible (player : Searcher) (view : ServerView) : Bool :=
  (player.ineligibility view).isEmpty

end Searcher

end Muster
