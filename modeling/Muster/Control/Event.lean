import Muster.Match.Criteria
import Muster.Net.Endpoint

/-!
# Events

What the daemon tells a player: the state of the search, a match, the place in a queue, the moment
to join, and the end of a stay in a queue.
-/

namespace Muster

/-- A server on which the player wants to play, with the ping the player measured. -/
structure PreferredServer where
  address : Endpoint
  ping : UInt32
  deriving DecidableEq, Repr

/-- Why a player cannot be matched to a server yet. -/
inductive Ineligibility where
  | notPreferred
  /-- In the first attempt the server has fewer players than the player wants. -/
  | waitingForPlayers (current required : UInt32)
  | pingTooHigh (ping max : UInt32)
  | scoreTooHigh (score max : Int64)
  | tooManyPlayers (current max : UInt32)
  deriving DecidableEq, Repr

/-- The bits of a quality in the binary64 format.  Qualities are compared and sent as bits, so that
every one of them is equal to itself. -/
structure QualityBits where
  bits : UInt64
  deriving DecidableEq, Repr

/-- A match the player could be part of. -/
structure PossibleMatch where
  server : Endpoint
  hostname : String
  quality : QualityBits
  players : List PlayerId
  /-- Why the player is not matched right away. -/
  blockedBy : List Ineligibility
  deriving DecidableEq, Repr

/-- Why a player left a queue. -/
inductive DequeueReason where
  | unknown
  | joined
  | userLeave
  | disconnect
  | joinFailed
  | joinTimeout
  | maxJoinAttemptsReached
  deriving DecidableEq, Repr

/-- What became of an attempt to join a server, as the player's game reports it. -/
inductive JoinResult where
  | joined
  /-- The connection failed, for lack of a slot if `serverFull`. -/
  | failed (serverFull : Bool)
  /-- The server refused the player for good. -/
  | rejected
  deriving DecidableEq, Repr

/-- What is wrong with a player's request. -/
inductive MatchmakingError where
  | alreadySearching
  | notSearching
  | alreadyJoining
  | queueFull
  | unknownSession
  deriving DecidableEq, Repr

/-- One event for one player. -/
inductive ClientEvent where
  | searchUpdate (attempts : UInt32) (possibleMatches : List PossibleMatch)
  | matchFound (server : Endpoint) (players : List PlayerId)
  | queuePosition (server : Endpoint) (position queueLength : UInt64)
  | joinServer (server : Endpoint) (attempt : UInt32) (timeout : UInt64)
  | dequeued (server : Endpoint) (reason : DequeueReason)
  | failure (error : MatchmakingError)
  deriving DecidableEq, Repr

end Muster
