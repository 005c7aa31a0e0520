import Muster.Client.AckPolicy
import Muster.Control.Packet
import Muster.Document.Basic
import Muster.Session.Sessions

/-!
# Documents of the control protocol

Packets, events and what they are made of.
-/

namespace Muster

open Document

instance : OfDocument Criteria := ⟨fun document => do
  let default : Criteria := {}
  return {
    minPlayers := ← document.getD "min_players" default.minPlayers
    maxPing := ← document.getD "max_ping" default.maxPing
    maxScore := ← document.getD "max_score" default.maxScore
    maxPlayers := ← document.getD "max_players" default.maxPlayers }⟩
instance : ToDocument Criteria := ⟨fun criteria => record [
  ("min_players", toDocument criteria.minPlayers), ("max_ping", toDocument criteria.maxPing),
  ("max_score", toDocument criteria.maxScore),
  ("max_players", toDocument criteria.maxPlayers)]⟩

instance : OfDocument PreferredServer := ⟨fun document => do
  return ⟨← document.get "address", ← document.get "ping"⟩⟩
instance : ToDocument PreferredServer := ⟨fun server => record [
  ("address", toDocument server.address), ("ping", toDocument server.ping)]⟩

/-- The names of the reasons why a player left a queue. -/
def DequeueReason.names : List (String × DequeueReason) := [
  ("Unknown", .unknown), ("Joined", .joined), ("UserLeave", .userLeave),
  ("Disconnect", .disconnect), ("JoinFailed", .joinFailed), ("JoinTimeout", .joinTimeout),
  ("MaxJoinAttemptsReached", .maxJoinAttemptsReached)]

instance : OfDocument DequeueReason := ⟨named? DequeueReason.names⟩
instance : ToDocument DequeueReason := ⟨nameOf DequeueReason.names⟩

/-- The names of what can be wrong with a request. -/
def MatchmakingError.names : List (String × MatchmakingError) := [
  ("AlreadySearching", .alreadySearching), ("NotSearching", .notSearching),
  ("AlreadyJoining", .alreadyJoining), ("QueueFull", .queueFull),
  ("UnknownSession", .unknownSession)]

instance : OfDocument MatchmakingError := ⟨named? MatchmakingError.names⟩
instance : ToDocument MatchmakingError := ⟨nameOf MatchmakingError.names⟩

def AckPolicy.names : List (String × AckPolicy) := [
  ("joined", .joined), ("fail", .fail), ("full", .full), ("reject", .reject),
  ("ignore", .ignore)]

instance : OfDocument AckPolicy := ⟨named? AckPolicy.names⟩

instance : OfDocument JoinResult := ⟨fun document => do
  match ← document.choice? with
  | ("Joined", _) => return .joined
  | ("Rejected", _) => return .rejected
  | ("Failed", fields) => return .failed (← fields.get "server_full")
  | _ => none⟩
instance : ToDocument JoinResult := ⟨fun
  | .joined => .text "Joined"
  | .failed serverFull => choice "Failed" [("server_full", toDocument serverFull)]
  | .rejected => .text "Rejected"⟩

instance : OfDocument Ineligibility := ⟨fun document => do
  match ← document.choice? with
  | ("NotPreferred", _) => return .notPreferred
  | ("WaitingForPlayers", fields) =>
    return .waitingForPlayers (← fields.get "current") (← fields.get "required")
  | ("PingTooHigh", fields) => return .pingTooHigh (← fields.get "ping") (← fields.get "max")
  | ("ScoreTooHigh", fields) => return .scoreTooHigh (← fields.get "score") (← fields.get "max")
  | ("TooManyPlayers", fields) =>
    return .tooManyPlayers (← fields.get "current") (← fields.get "max")
  | _ => none⟩
instance : ToDocument Ineligibility := ⟨fun
  | .notPreferred => .text "NotPreferred"
  | .waitingForPlayers current required => choice "WaitingForPlayers" [
      ("current", toDocument current), ("required", toDocument required)]
  | .pingTooHigh ping max => choice "PingTooHigh" [
      ("ping", toDocument ping), ("max", toDocument max)]
  | .scoreTooHigh score max => choice "ScoreTooHigh" [
      ("score", toDocument score), ("max", toDocument max)]
  | .tooManyPlayers current max => choice "TooManyPlayers" [
      ("current", toDocument current), ("max", toDocument max)]⟩

instance : OfDocument PossibleMatch := ⟨fun document => do
  return {
    server := ← document.get "server"
    hostname := ← document.get "hostname"
    quality := ← document.get "quality"
    players := ← document.get "players"
    blockedBy := ← document.get "blocked_by" }⟩
instance : ToDocument PossibleMatch := ⟨fun possible => record [
  ("server", toDocument possible.server), ("hostname", toDocument possible.hostname),
  ("quality", toDocument possible.quality), ("players", toDocument possible.players),
  ("blocked_by", toDocument possible.blockedBy)]⟩

instance : OfDocument ClientEvent := ⟨fun document => do
  match ← document.choice? with
  | ("SearchUpdate", fields) =>
    return .searchUpdate (← fields.get "attempts") (← fields.get "possible_matches")
  | ("MatchFound", fields) =>
    return .matchFound (← fields.get "server") (← fields.get "players")
  | ("QueuePosition", fields) =>
    return .queuePosition (← fields.get "server") (← fields.get "position")
      (← fields.get "queue_len")
  | ("JoinServer", fields) =>
    return .joinServer (← fields.get "server") (← fields.get "attempt")
      (← fields.get "timeout_ms")
  | ("Dequeued", fields) => return .dequeued (← fields.get "server") (← fields.get "reason")
  | ("Error", error) => return .failure (← ofDocument? error)
  | _ => none⟩
instance : ToDocument ClientEvent := ⟨fun
  | .searchUpdate attempts possibleMatches => choice "SearchUpdate" [
      ("attempts", toDocument attempts), ("possible_matches", toDocument possibleMatches)]
  | .matchFound server players => choice "MatchFound" [
      ("server", toDocument server), ("players", toDocument players)]
  | .queuePosition server position queueLength => choice "QueuePosition" [
      ("server", toDocument server), ("position", toDocument position),
      ("queue_len", toDocument queueLength)]
  | .joinServer server attempt timeout => choice "JoinServer" [
      ("server", toDocument server), ("attempt", toDocument attempt),
      ("timeout_ms", toDocument timeout)]
  | .dequeued server reason => choice "Dequeued" [
      ("server", toDocument server), ("reason", toDocument reason)]
  | .failure error => record [("Error", toDocument error)]⟩

instance : OfDocument Packet := ⟨fun document => do
  match ← document.choice? with
  | ("Hello", fields) =>
    return .hello (← fields.get "protocol_version") (← fields.get "player_id")
      (← fields.get "name")
  | ("EnterMatchmaking", fields) =>
    return .enterMatchmaking (← fields.get "criteria") (← fields.get "servers")
  | ("UpdatePreferences", fields) =>
    return .updatePreferences (← fields.get "criteria") (← fields.get "servers")
  | ("LeaveMatchmaking", _) => return .leaveMatchmaking
  | ("JoinAck", fields) => return .joinAck (← fields.get "server") (← fields.get "result")
  | ("Heartbeat", fields) => return .heartbeat (← fields.get "timestamp")
  | ("Disconnect", _) => return .disconnect
  | ("Welcome", fields) => return .welcome (← fields.get "player_id")
  | ("Rejected", fields) => return .rejected (← fields.get "reason")
  | ("Event", event) => return .event (← ofDocument? event)
  | _ => none⟩
instance : ToDocument Packet := ⟨fun
  | .hello version player name => choice "Hello" [
      ("protocol_version", toDocument version), ("player_id", toDocument player),
      ("name", toDocument name)]
  | .enterMatchmaking criteria servers => choice "EnterMatchmaking" [
      ("criteria", toDocument criteria), ("servers", toDocument servers)]
  | .updatePreferences criteria servers => choice "UpdatePreferences" [
      ("criteria", toDocument criteria), ("servers", toDocument servers)]
  | .leaveMatchmaking => .text "LeaveMatchmaking"
  | .joinAck server result => choice "JoinAck" [
      ("server", toDocument server), ("result", toDocument result)]
  | .heartbeat timestamp => choice "Heartbeat" [("timestamp", toDocument timestamp)]
  | .disconnect => .text "Disconnect"
  | .welcome player => choice "Welcome" [("player_id", toDocument player)]
  | .rejected reason => choice "Rejected" [("reason", toDocument reason)]
  | .event event => record [("Event", toDocument event)]⟩

instance : OfDocument PlayerState := ⟨fun document => do
  match ← document.choice? with
  | ("Idle", _) => return .idle
  | ("Matchmaking", _) => return .matchmaking
  | ("Queued", server) => return .queued (← ofDocument? server)
  | ("Joining", server) => return .joining (← ofDocument? server)
  | ("Joined", server) => return .joined (← ofDocument? server)
  | _ => none⟩
instance : ToDocument PlayerState := ⟨fun
  | .idle => .text "Idle"
  | .matchmaking => .text "Matchmaking"
  | .queued server => record [("Queued", toDocument server)]
  | .joining server => record [("Joining", toDocument server)]
  | .joined server => record [("Joined", toDocument server)]⟩

end Muster
