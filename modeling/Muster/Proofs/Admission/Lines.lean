import Mathlib.Data.List.Induction
import Muster.Proofs.Admission.Stays

/-!
# What players do in a queue

Whether a player waits or joins, without positions and attempts.  Of all that a queue tells a
player, the last event says what the player does afterwards; who is told nothing does what the
player did before.
-/

namespace Muster

open QueueEvent (about)

variable {player : PlayerId} {now : Nat}

def Standing.state : Standing → EntryState
  | waiting _ => .waiting
  | joining _ => .joining

def QueueEvent.doing? (event : QueueEvent) : Option EntryState :=
  event.standing?.map Standing.state

/-- The last event about a player is what an observer holds of the player. -/
theorem Observer.hearAll_of_mem_getLast? (observer : Observer) {events : List QueueEvent}
    {event : QueueEvent} (hlast : event ∈ (about player events).getLast?) :
    observer.hearAll events player = event.standing? := by
  induction events using List.reverseRecOn with
  | nil => simp [about] at hlast
  | append_singleton events last ih =>
      rw [hearAll_append, hearAll_cons, hearAll_nil]
      by_cases hplayer : last.player = player
      · have habout : about player [last] = [last] :=
          List.filter_cons_of_pos (by simpa using hplayer)
        rw [QueueEvent.about_append, habout, List.getLast?_concat, Option.mem_some_iff] at hlast
        rw [← hplayer, hear_self, hlast]
      · have habout : about player [last] = [] :=
          List.filter_cons_of_neg (by simpa using hplayer)
        rw [QueueEvent.about_append, habout, List.append_nil] at hlast
        rw [hear_of_ne hplayer, ih hlast]

theorem Observer.hearAll_of_about_eq_nil (observer : Observer) {events : List QueueEvent}
    (hsilent : about player events = []) : observer.hearAll events player = observer player := by
  apply hearAll_of_forall_ne
  intro event hevent hsame
  have habout : event ∈ about player events :=
    List.mem_filter.mpr ⟨hevent, beq_iff_eq.mpr hsame⟩
  rw [hsilent] at habout
  exact List.not_mem_nil habout

namespace Queue

variable {queue before after : Queue} {events : List QueueEvent}

def doing? (queue : Queue) (player : PlayerId) : Option EntryState :=
  (queue.find? player).map (·.state)

theorem doing?_eq_none_iff : queue.doing? player = none ↔ player ∉ queue.players := by
  rw [doing?, Option.map_eq_none_iff, ← contains_iff, contains, Option.isSome_iff_ne_none, not_not]

theorem doing?_eq (queue : Queue) (player : PlayerId) :
    queue.doing? player = (queue.standing? player).map Standing.state := by
  rw [doing?]
  cases hfind : queue.find? player with
  | none => rw [standing?, hfind]; rfl
  | some entry =>
      have hsome : (queue.standing? player).isSome := by
        rw [standing?_isSome_iff, contains, hfind]
        rfl
      obtain ⟨standing, hstanding⟩ := Option.isSome_iff_exists.mp hsome
      rw [hstanding]
      rw [standing?, hfind, Option.bind_some] at hstanding
      cases hstate : entry.state with
      | joining =>
          simp only [hstate, Option.some.injEq] at hstanding
          rw [← hstanding, Option.map_some, hstate]
          rfl
      | waiting =>
          simp only [hstate, Option.map_eq_some_iff] at hstanding
          obtain ⟨position, -, rfl⟩ := hstanding
          rw [Option.map_some, hstate]
          rfl

/-- The players differ, the entries are well formed, and everybody who waits was told the present
position. -/
structure IsOrderly (queue : Queue) : Prop where
  isWellFormed : queue.IsWellFormed queue.config
  isAnnounced : queue.IsAnnounced

theorem isOrderly_empty (config : QueueConfig) (start : Nat) : (empty config start).IsOrderly := by
  refine ⟨isWellFormed_empty config start, ?_⟩
  intro index entry hentry
  simp [empty] at hentry

/-- One who knows where everybody stands is one who has heard what everybody was told. -/
theorem IsOrderly.tracks (horderly : queue.IsOrderly) :
    Observer.Tracks queue.standing? queue.entries := by
  have hnodup := horderly.isWellFormed.nodup
  constructor
  · intro entry hentry
    have hfind : queue.find? entry.player = some entry := Parts.find?_key hnodup hentry
    constructor
    · intro hstate
      rw [standing?, hfind, Option.bind_some]
      simp only [hstate]
    · intro hstate position hposition
      have hwaits : entry ∈ queue.entries.filter (·.isWaiting) :=
        List.mem_filter.mpr ⟨hentry, Entry.isWaiting_iff.mpr hstate⟩
      have hindexed : (queue.entries.filter (·.isWaiting)).findIdx?
          (fun other => other.player == entry.player) ≠ none := by
        intro hnone
        simpa using List.findIdx?_eq_none_iff.mp hnone entry hwaits
      obtain ⟨index, hindex⟩ := Option.ne_none_iff_exists'.mp hindexed
      obtain ⟨hlt, hplayer, -⟩ := List.findIdx?_eq_some_iff_getElem.mp hindex
      have hsame : (queue.entries.filter (·.isWaiting))[index] = entry :=
        List.inj_on_of_nodup_map hnodup (List.mem_filter.mp (List.getElem_mem hlt)).1 hentry
          (beq_iff_eq.mp hplayer)
      have htold := horderly.isAnnounced index entry (by rw [List.getElem?_eq_getElem hlt, hsame])
      rw [Option.mem_def, htold] at hposition
      rw [standing?, hfind, Option.bind_some]
      simp only [hstate, position?, hindex, Option.map_some, Option.some.inj hposition]
  · intro player hplayer
    have hnone := doing?_eq_none_iff.mpr hplayer
    rwa [doing?_eq, Option.map_eq_none_iff] at hnone

/-- What a change of a queue tells of it: the last event about a player says what the player does
afterwards, who is told nothing does as before, and nobody is told anything but those who were in
the queue or are in it now. -/
structure Tells (before after : Queue) (events : List QueueEvent) : Prop where
  isOrderly : after.IsOrderly
  silent : ∀ player, about player events = [] → after.doing? player = before.doing? player
  latest : ∀ player, ∀ event ∈ (about player events).getLast?,
    event.doing? = after.doing? player
  concerned : ∀ player, about player events ≠ [] →
    player ∈ before.players ∨ player ∈ after.players

/-- Events that tell where everyone in an orderly queue stands tell what everyone does there. -/
theorem tells_of_standing? (hafter : after.IsOrderly)
    (hstanding : after.standing? = Observer.hearAll before.standing? events)
    (hconcerned : ∀ player, about player events ≠ [] →
      player ∈ before.players ∨ player ∈ after.players) : before.Tells after events := by
  refine ⟨hafter, ?_, ?_, hconcerned⟩
  · intro player hsilent
    rw [doing?_eq, hstanding, Observer.hearAll_of_about_eq_nil _ hsilent, doing?_eq]
  · intro player event hlast
    rw [doing?_eq, hstanding, Observer.hearAll_of_mem_getLast? _ hlast]
    rfl

end Queue

namespace GameServer

variable {server changed : GameServer} {events : List QueueEvent} {attended : Queue}

theorem Serves.isOrderly (hserves : server.Serves attended changed events)
    (hattended : attended.IsWellFormed attended.config) : changed.queue.IsOrderly := by
  have hwell := hattended.sweeps hserves.config_eq hserves.sweeps
  rw [← hserves.config_eq] at hwell
  exact ⟨hwell, hserves.isAnnounced⟩

/-- One who has heard of the queue that an operation goes through knows where everybody stands once
the operation has been told. -/
theorem Serves.standing?_eq (hserves : server.Serves attended changed events)
    (hattended : attended.IsWellFormed attended.config)
    (htracks : Observer.Tracks server.queue.standing? attended.entries) :
    changed.queue.standing? = Observer.hearAll server.queue.standing? events := by
  have hheard := hserves.sweeps.tracks hattended.nodup hattended.entries htracks
  exact (hserves.isAnnounced.eq_standing? hheard).symm

/-- An operation on a queue that one has heard of, who arrived meanwhile left aside. -/
theorem Serves.tells (hserves : server.Serves attended changed events)
    (hattended : attended.IsWellFormed attended.config)
    (htracks : Observer.Tracks server.queue.standing? attended.entries)
    (harrived : ∀ player ∈ attended.players,
      player ∈ server.queue.players ∨ player ∈ changed.queue.players) :
    server.queue.Tells changed.queue events := by
  refine Queue.tells_of_standing? (hserves.isOrderly hattended)
    (hserves.standing?_eq hattended htracks) ?_
  intro player htold
  apply harrived
  by_contra hout
  exact htold (hserves.sweeps.about_eq_nil hout)

/-- An operation that lets nobody in. -/
theorem Serves.tells_self (hserves : server.Serves server.queue changed events)
    (hserver : server.queue.IsOrderly) : server.queue.Tells changed.queue events :=
  hserves.tells hserver.isWellFormed hserver.tracks fun _ hplayer => Or.inl hplayer

theorem tells_enqueue (hserver : server.queue.IsOrderly)
    (henqueue : server.enqueue player now = .ok (changed, events)) :
    server.queue.Tells changed.queue events ∧ player ∈ changed.queue.players := by
  obtain ⟨attended, hqueue, hserves, hplayer⟩ := serves_enqueue henqueue
  have hwell := hserver.isWellFormed.enqueue hqueue
  obtain ⟨-, hattended⟩ := Queue.enqueue_eq_ok hqueue
  have hconfig : attended.config = server.queue.config := by rw [hattended]
  refine ⟨hserves.tells (hconfig ▸ hwell) ?_ ?_, hplayer⟩
  · rw [hattended]
    exact hserver.tracks.arrive player
  · intro other hother
    rw [Queue.players_enqueue hqueue, List.mem_append, List.mem_singleton] at hother
    rcases hother with hbefore | rfl
    · exact Or.inl hbefore
    · exact Or.inr hplayer

end GameServer

end Muster
