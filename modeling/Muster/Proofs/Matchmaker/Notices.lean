import Mathlib.Data.List.Basic
import Muster.Matchmaker.Effect

/-!
# Notices of a search

What a player hears of the search, as opposed to what a player hears of a queue.
-/

namespace Muster

/-- The event is about the search of a player and not about a queue. -/
def ClientEvent.isOfSearch : ClientEvent → Bool
  | searchUpdate .. | matchFound .. | failure .. => true
  | queuePosition .. | joinServer .. | dequeued .. => false

namespace Effect

variable {player : PlayerId}

/-- What the player hears of the search, in order. -/
def noticesFor (player : PlayerId) (effects : List Effect) : List ClientEvent :=
  ((effects.filterMap notice?).filter fun notice =>
    notice.1 == player && notice.2.isOfSearch).map (·.2)

@[simp]
theorem noticesFor_append (player : PlayerId) (effects others : List Effect) :
    noticesFor player (effects ++ others) =
      noticesFor player effects ++ noticesFor player others := by
  simp [noticesFor]

theorem noticesFor_cons (player : PlayerId) (effect : Effect) (effects : List Effect) :
    noticesFor player (effect :: effects) =
      noticesFor player [effect] ++ noticesFor player effects :=
  noticesFor_append player [effect] effects

theorem noticesFor_notify_self {event : ClientEvent} (hevent : event.isOfSearch) :
    noticesFor player [.notify player event] = [event] := by
  simp [noticesFor, notice?, hevent]

theorem noticesFor_notify_other {other : PlayerId} (hother : other ≠ player)
    (event : ClientEvent) : noticesFor player [.notify other event] = [] := by
  simp [noticesFor, notice?, hother]

/-- The events of a queue are not about a search. -/
@[simp]
theorem noticesFor_publish (player : PlayerId) (server : Endpoint) (joinTimeout : Nat)
    (events : List QueueEvent) : noticesFor player (publish server joinTimeout events) = [] := by
  induction events with
  | nil => rfl
  | cons event rest ih =>
      rw [publish, List.flatMap_cons, noticesFor_append]
      refine List.append_eq_nil_iff.mpr ⟨?_, ih⟩
      cases event <;> simp [noticesFor, notice?, QueueEvent.toClientEvent, ClientEvent.isOfSearch]

end Effect

end Muster
