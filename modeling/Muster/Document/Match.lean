import Muster.Document.Control
import Muster.Match.Evaluation

/-!
# Documents of matchmaking passes

The players and servers of a pass, and the groups that it commits.
-/

namespace Muster

open Document

instance : OfDocument Searcher := ⟨fun document => do
  let searcher := Searcher.enter (← document.get "id") (← document.getD "criteria" {})
    (← document.get "servers") (← document.getD "joined_ms" 0)
  return { searcher with attempts := ← document.getD "attempts" 0 }⟩

instance : OfDocument ServerView := ⟨fun document => do
  return {
    address := ← document.get "address"
    hostname := ← document.get "hostname"
    realPlayers := ← document.get "real_players"
    freeSlots := ← document.get "free_slots"
    reservedSlots := ← document.get "reserved_slots"
    totalScore := ← document.get? "total_score" }⟩
instance : ToDocument ServerView := ⟨fun view => record [
  ("address", toDocument view.address), ("hostname", toDocument view.hostname),
  ("real_players", toDocument view.realPlayers), ("free_slots", toDocument view.freeSlots),
  ("reserved_slots", toDocument view.reservedSlots),
  ("total_score", toDocument view.totalScore),
  ("available_slots", toDocument view.availableSlots), ("quality", toDocument view.quality)]⟩

instance : ToDocument Candidate := ⟨fun candidate => record [
  ("server", toDocument candidate.server), ("hostname", toDocument candidate.hostname),
  ("quality", toDocument candidate.quality), ("players", toDocument candidate.players)]⟩

end Muster
