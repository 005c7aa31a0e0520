import Muster.Client.Listing
import Muster.Control.Event
import Muster.Text.WholeNumber

/-!
# The text of events

What a player reads about an event.  A search update has a line for each possible match.
-/

namespace Muster

/-- Why a player is not matched, in words. -/
def Ineligibility.text : Ineligibility → String
  | .notPreferred => "server not in your list"
  | .waitingForPlayers current required =>
    "waiting for players (" ++ toString current.toNat ++ "/" ++ toString required.toNat ++ ")"
  | .pingTooHigh ping max =>
    "ping " ++ toString ping.toNat ++ "ms over " ++ toString max.toNat ++ "ms"
  | .scoreTooHigh score max =>
    "score " ++ toString score.toInt ++ " over " ++ toString max.toInt
  | .tooManyPlayers current max =>
    toString current.toNat ++ " players, you allow " ++ toString max.toNat

/-- Why a player left a queue, in words. -/
def DequeueReason.text : DequeueReason → String
  | .joined => "joined"
  | .userLeave => "left the queue"
  | .disconnect => "disconnected"
  | .joinFailed => "the server refused the connection"
  | .joinTimeout => "joining took too long"
  | .maxJoinAttemptsReached => "too many failed join attempts"
  | .unknown => "unknown reason"

/-- What is wrong with a request, in words. -/
def MatchmakingError.text : MatchmakingError → String
  | .alreadySearching => "already searching"
  | .notSearching => "not searching"
  | .alreadyJoining => "already joining a server"
  | .queueFull => "the server's queue is full"
  | .unknownSession => "not connected to the matchmaker"

def PossibleMatch.text (possible : PossibleMatch) : String :=
  "  " ++ Listing.plainName possible.hostname ++ " (" ++ possible.server.text ++ ") with " ++
    toString possible.players.length ++ " players, quality " ++
    Text.WholeNumber.text possible.quality.bits ++ ": " ++
    String.intercalate ", " (possible.blockedBy.map Ineligibility.text)

def ClientEvent.text : ClientEvent → String
  | .searchUpdate attempts possibleMatches =>
    "Searching (attempt " ++ toString attempts.toNat ++ ")" ++
      (if possibleMatches.isEmpty then ", no possible matches yet" else "") ++
      String.join (possibleMatches.map fun possible => "\n" ++ possible.text)
  | .matchFound server players =>
    "Match found on " ++ server.text ++ " with " ++ toString players.length ++ " players"
  | .queuePosition server position queueLength =>
    "Queued for " ++ server.text ++ ": position " ++ toString position.toNat ++ " of " ++
      toString queueLength.toNat
  | .joinServer server attempt timeout =>
    "Join " ++ server.text ++ " now (attempt " ++ toString attempt.toNat ++ ", " ++
      toString (timeout.toNat / 1000) ++ "s to connect)"
  | .dequeued server reason => "Left queue of " ++ server.text ++ ": " ++ reason.text
  | .failure error => "Matchmaking error: " ++ error.text

end Muster
