import Muster.Document.Basic
import Muster.Exchange.Request
import Muster.Probe.Snapshot
import Muster.Query.Report

/-!
# Documents of the query protocol

Messages, reports, and what can be wrong with a request.
-/

namespace Muster

open Document

/-- The name of the kind of an error. -/
def ProtocolError.kind : ProtocolError → String
  | missingMarker => "MissingMarker"
  | invalidCommand => "InvalidCommand"
  | invalidSeparator _ => "InvalidSeparator"
  | missingSeparator _ => "MissingSeparator"
  | invalidInfo _ => "InvalidInfo"

instance : ToDocument ProtocolError := ⟨fun error => failure error.kind error.message⟩

/-- The name of the kind of an error. -/
def ExchangeError.kind : ExchangeError → String
  | unresolved .. => "Resolve"
  | sendFailed _ => "Send"
  | timeout => "Timeout"
  | canceled => "Canceled"
  | shutdown => "Shutdown"
  | invalid error => error.kind

instance : ToDocument ExchangeError := ⟨fun error => failure error.kind error.message⟩

/-- The names of the states of a request. -/
def RequestState.names : List (String × RequestState) := [
  ("Created", .created), ("Waiting", .waiting), ("Completed", .completed),
  ("Canceled", .canceled), ("Error", .failed)]

instance : ToDocument RequestState := ⟨nameOf RequestState.names⟩

/-- The names of the kinds of probes. -/
def ProbeKind.names : List (String × ProbeKind) := [("info", .info), ("status", .status)]

instance : OfDocument ProbeKind := ⟨named? ProbeKind.names⟩

def Message.parts (message : Message) : List (String × Document) := [
  ("command", toDocument message.command), ("data", toDocument message.data),
  ("separator", toDocument message.separator)]

instance : OfDocument Message := ⟨fun document => do
  return ⟨← document.get "command", ← document.get "data", ← document.get "separator"⟩⟩
instance : ToDocument Message := ⟨fun message =>
  record (message.parts ++ [("key", toDocument message.key), ("hex", hex message.encode)])⟩

instance : ToDocument Inbound := ⟨fun inbound =>
  choice "ok" (("from", toDocument inbound.sender) :: inbound.message.parts)⟩

/-- What an info report says, and what follows from it. -/
def ServerInfo.parts (info : ServerInfo) : List (String × Document) := [
  ("address", toDocument info.address), ("hostname", toDocument info.hostname),
  ("map", toDocument info.map), ("game_type", toDocument info.gameType),
  ("mod_name", toDocument info.modName), ("play_mode", toDocument info.playMode),
  ("clients", toDocument info.clients), ("bots", toDocument info.bots),
  ("max_clients", toDocument info.maxClients), ("is_private", toDocument info.isPrivate),
  ("real_players", toDocument info.realPlayers), ("free_slots", toDocument info.freeSlots)]

instance : OfDocument ServerInfo := ⟨fun document => do
  return {
    address := ← document.get "address"
    hostname := ← document.getD "hostname" ""
    map := ← document.getD "map" ""
    gameType := ← document.getD "game_type" ""
    modName := ← document.getD "mod_name" ""
    playMode := ← document.getD "play_mode" ""
    clients := ← document.getD "clients" 0
    bots := ← document.getD "bots" 0
    maxClients := ← document.getD "max_clients" 0
    ping := ← document.getD "ping" 0
    isPrivate := ← document.getD "is_private" false }⟩
instance : ToDocument ServerInfo := ⟨fun info =>
  record (info.parts ++ [("ping", toDocument info.ping)])⟩

instance : OfDocument PlayerScore := ⟨fun document => do
  return ⟨← document.get "score", ← document.get "ping", ← document.get "name"⟩⟩
instance : ToDocument PlayerScore := ⟨fun player => record [
  ("score", toDocument player.score), ("ping", toDocument player.ping),
  ("name", toDocument player.name)]⟩

instance : ToDocument Scoreboard := ⟨fun board => record [
  ("address", toDocument board.address), ("players", toDocument board.players),
  ("total_score", toDocument board.totalScore)]⟩

instance (kind : ProbeKind) : ToDocument kind.Report :=
  match kind with
  | .info => inferInstanceAs (ToDocument ServerInfo)
  | .status => inferInstanceAs (ToDocument Scoreboard)

instance : OfDocument Snapshot := ⟨fun document => do
  let default : Snapshot := {}
  let snapshot : Snapshot := {
    hostname := ← document.getD "hostname" default.hostname
    map := ← document.getD "map" default.map
    gameType := ← document.getD "game_type" default.gameType
    maxClients := ← document.getD "max_clients" default.maxClients
    bots := ← document.getD "bots" default.bots
    players := ← document.getD "players" default.players
    isPrivate := ← document.getD "is_private" default.isPrivate }
  match document.field? "with_players" with
  | none => return snapshot
  | some added => return snapshot.withPlayers (← added.get "count") (← added.get "score")⟩

end Muster
