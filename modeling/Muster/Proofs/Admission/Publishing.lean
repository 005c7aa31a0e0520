import Mathlib.Data.List.Count
import Mathlib.Logic.Function.Basic
import Muster.Proofs.Admission.Operations

/-!
# Publishing

Several workers take turns at the queue of one server.  A worker changes the queue in one step,
which tells something, and publishes what was told in later steps, one for each event; the steps of
the workers may interleave in any way.  Each worker publishes in order, and everything that was told
is published once.  But two workers that have something to publish about one player may publish it
in either order, whichever of them changed the queue first.
-/

namespace Muster

open QueueEvent (about)

/-- Who works on the queue of a server. -/
inductive Worker where
  | mainLoop
  | matchmaker
  | processor
  deriving DecidableEq, Repr

/-- The queue of a server, with what was told of it and what of that has been published. -/
structure Publication where
  server : GameServer
  /-- What each worker has still to publish. -/
  unpublished : Worker → List QueueEvent
  published : List (Worker × QueueEvent)
  /-- What was told, in the order of the changes. -/
  told : List (Worker × QueueEvent)
  /-- When a player was last told something, another worker had still to publish something about
  that player. -/
  isOvertaken : PlayerId → Prop

namespace Publication

/-- One step of a worker, or something becomes known of the server. -/
inductive Step where
  | work (worker : Worker) (now : Nat) (operation : GameServer.Operation)
  | publish (worker : Worker)
  | learn (info : Option (Stamped ServerInfo)) (privilegedSlots : Count)

/-- A worker has changed the queue and has yet to publish the events. -/
def record (publication : Publication) (worker : Worker) (changed : GameServer)
    (events : List QueueEvent) : Publication where
  server := changed
  unpublished := Function.update publication.unpublished worker events
  published := publication.published
  told := publication.told ++ events.map fun event => (worker, event)
  isOvertaken := fun player =>
    if about player events = [] then publication.isOvertaken player
    else ∃ other ≠ worker, about player (publication.unpublished other) ≠ []

/-- A worker works on the queue only after publishing what came of its work before. -/
def after (publication : Publication) : Step → Publication
  | .work worker now operation =>
    let (changed, events) := publication.server.operate now operation
    if publication.unpublished worker = [] then publication.record worker changed events
    else publication
  | .publish worker =>
    match publication.unpublished worker with
    | [] => publication
    | event :: rest =>
      { publication with
        unpublished := Function.update publication.unpublished worker rest
        published := publication.published ++ [(worker, event)] }
  | .learn info privilegedSlots =>
    { publication with server := { publication.server with info, privilegedSlots } }

def run (server : GameServer) (steps : List Step) : Publication :=
  steps.foldl after ⟨server, fun _ => [], [], [], fun _ => False⟩

def eventsOf (worker : Worker) (log : List (Worker × QueueEvent)) : List QueueEvent :=
  log.filterMap fun entry => if entry.1 = worker then some entry.2 else none

def replay (log : List (Worker × QueueEvent)) : Observer :=
  Observer.blank.hearAll (log.map (·.2))

variable {publication : Publication} {player : PlayerId} {worker : Worker}

/-! ## Logs -/

theorem eventsOf_append (worker : Worker) (log others : List (Worker × QueueEvent)) :
    eventsOf worker (log ++ others) = eventsOf worker log ++ eventsOf worker others :=
  List.filterMap_append

theorem eventsOf_own (worker : Worker) (events : List QueueEvent) :
    eventsOf worker (events.map fun event => (worker, event)) = events := by
  simp [eventsOf, List.filterMap_map]

theorem eventsOf_other {other : Worker} (hother : other ≠ worker) (events : List QueueEvent) :
    eventsOf other (events.map fun event => (worker, event)) = [] := by
  simp [eventsOf, List.filterMap_map, hother.symm]

theorem count_eventsOf (worker : Worker) (event : QueueEvent) (log : List (Worker × QueueEvent)) :
    (eventsOf worker log).count event = log.count (worker, event) := by
  induction log with
  | nil => rfl
  | cons entry rest ih =>
      obtain ⟨other, told⟩ := entry
      have hcount : (eventsOf worker ((other, told) :: rest)).count event =
          (eventsOf worker rest).count event +
            if (other, told) = (worker, event) then 1 else 0 := by
        by_cases hworker : other = worker
        · simp [eventsOf, List.count_cons, hworker]
        · simp [eventsOf, hworker]
      rw [hcount, ih, List.count_cons]
      simp

/-- Logs in which every worker has the same events differ in their order only. -/
theorem perm_of_eventsOf {log others : List (Worker × QueueEvent)}
    (hevents : ∀ worker, eventsOf worker log = eventsOf worker others) : log.Perm others := by
  rw [List.perm_iff_count]
  rintro ⟨worker, event⟩
  rw [← count_eventsOf, hevents, count_eventsOf]

/-- One who hears something of a player holds the latest of it, whatever was held before. -/
theorem hearAll_congr_of_about {events : List QueueEvent} (htold : about player events ≠ [])
    (observer other : Observer) :
    observer.hearAll events player = other.hearAll events player := by
  have hlast := List.getLast?_eq_some_getLast htold
  rw [observer.hearAll_of_mem_getLast? hlast, other.hearAll_of_mem_getLast? hlast]

/-- What an observer holds of a player depends on what was held of that player alone. -/
theorem hearAll_congr {observer other : Observer} (hsame : observer player = other player)
    (events : List QueueEvent) :
    observer.hearAll events player = other.hearAll events player := by
  induction events generalizing observer other with
  | nil => exact hsame
  | cons event rest ih =>
      apply ih
      simp only [Observer.hear, hsame]

theorem about_of_about_cons {event : QueueEvent} {rest : List QueueEvent}
    (hsilent : about player (event :: rest) = []) :
    about player [event] = [] ∧ about player rest = [] := by
  rwa [← List.singleton_append, QueueEvent.about_append, List.append_eq_nil_iff] at hsilent

/-! ## Steps -/

/-- What was told agrees with the queue, each worker publishes what was told in its work, in order,
and of a player who was not overtaken one worker at most has still to publish anything; once it has
done so, what is published agrees with the queue. -/
structure IsFaithful (publication : Publication) : Prop where
  isOrderly : publication.server.queue.IsOrderly
  replay_told : replay publication.told = publication.server.queue.standing?
  eventsOf_published : ∀ worker,
    eventsOf worker publication.published ++ publication.unpublished worker =
      eventsOf worker publication.told
  latest : ∀ player, ¬ publication.isOvertaken player → ∃ worker,
    (∀ other, other ≠ worker → about player (publication.unpublished other) = []) ∧
    (replay publication.published).hearAll (publication.unpublished worker) player =
      publication.server.queue.standing? player

theorem isFaithful_start (serial : Nat) (address : Endpoint) (nameHint : String)
    (config : QueueConfig) (start : Nat) :
    IsFaithful ⟨.register serial address nameHint config start, fun _ => [], [], [],
      fun _ => False⟩ :=
  ⟨Queue.isOrderly_empty config start, rfl, fun _ => rfl,
    fun _ _ => ⟨.mainLoop, fun _ _ => rfl, rfl⟩⟩

theorem replay_append (log others : List (Worker × QueueEvent)) :
    replay (log ++ others) = (replay log).hearAll (others.map (·.2)) := by
  rw [replay, List.map_append, Observer.hearAll_append]
  rfl

/-- A worker that has published all it told may go on to its next work. -/
theorem IsFaithful.record (hfaithful : publication.IsFaithful) {changed : GameServer}
    {events : List QueueEvent} (hdone : publication.unpublished worker = [])
    (horderly : changed.queue.IsOrderly)
    (hstanding : changed.queue.standing? =
      Observer.hearAll publication.server.queue.standing? events) :
    (publication.record worker changed events).IsFaithful := by
  refine ⟨horderly, ?_, ?_, ?_⟩
  · have hevents : (events.map fun event => (worker, event)).map (·.2) = events := by
      simp [Function.comp_def]
    rw [Publication.record, replay_append, hevents, hfaithful.replay_told, hstanding]
  · intro other
    have hother := hfaithful.eventsOf_published other
    simp only [Publication.record, eventsOf_append]
    by_cases hsame : other = worker
    · subst hsame
      rw [hdone, List.append_nil] at hother
      rw [hother, Function.update_self, eventsOf_own]
    · rw [Function.update_of_ne hsame, eventsOf_other hsame, List.append_nil, hother]
  · intro player hinTime
    simp only [Publication.record] at hinTime ⊢
    rw [hstanding]
    split_ifs at hinTime with hsilent
    · -- The player is told nothing, so what one worker has still to publish stays the latest.
      obtain ⟨latest, hothers, hlatest⟩ := hfaithful.latest player hinTime
      refine ⟨latest, ?_, ?_⟩
      · intro other hother
        by_cases hsame : other = worker
        · rw [hsame, Function.update_self, hsilent]
        · rw [Function.update_of_ne hsame]
          exact hothers other hother
      · rw [Observer.hearAll_of_about_eq_nil _ hsilent, ← hlatest]
        by_cases hsame : latest = worker
        · rw [hsame, Function.update_self, hdone, Observer.hearAll_of_about_eq_nil _ hsilent]
          rfl
        · rw [Function.update_of_ne hsame]
    · -- Nobody else has still to publish anything about the player.
      refine ⟨worker, ?_, ?_⟩
      · intro other hother
        rw [Function.update_of_ne hother]
        by_contra hpending
        exact hinTime ⟨other, hother, hpending⟩
      · rw [Function.update_self]
        exact hearAll_congr_of_about hsilent _ _

theorem IsFaithful.publish (hfaithful : publication.IsFaithful) (worker : Worker) :
    (publication.after (.publish worker)).IsFaithful := by
  rw [after]
  split
  next => exact hfaithful
  next event rest hnext =>
    refine ⟨hfaithful.isOrderly, hfaithful.replay_told, ?_, ?_⟩
    · intro other
      simp only [← hfaithful.eventsOf_published other, eventsOf_append]
      by_cases hsame : other = worker
      · rw [hsame, Function.update_self, hnext, List.append_assoc]
        exact congrArg _ (congrArg (· ++ rest) (eventsOf_own worker [event]))
      · have hnone : eventsOf other [(worker, event)] = [] := eventsOf_other hsame [event]
        rw [Function.update_of_ne hsame, hnone, List.append_nil]
    · intro player hinTime
      simp only at hinTime ⊢
      obtain ⟨latest, hothers, hlatest⟩ := hfaithful.latest player hinTime
      refine ⟨latest, ?_, ?_⟩
      · intro other hother
        by_cases hsame : other = worker
        · have hpending := hothers worker (hsame ▸ hother)
          rw [hnext] at hpending
          rw [hsame, Function.update_self]
          exact (about_of_about_cons hpending).2
        · rw [Function.update_of_ne hsame]
          exact hothers other hother
      · rw [← hlatest, replay_append]
        by_cases hsame : latest = worker
        · rw [hsame, Function.update_self, hnext]
          rfl
        · have hpending := hothers worker (Ne.symm hsame)
          rw [hnext] at hpending
          rw [Function.update_of_ne hsame]
          apply hearAll_congr
          exact Observer.hearAll_of_about_eq_nil _ (about_of_about_cons hpending).1

theorem IsFaithful.after (hfaithful : publication.IsFaithful) (step : Step) :
    (publication.after step).IsFaithful := by
  cases step with
  | work worker now operation =>
      have horderly := hfaithful.isOrderly
      simp only [Publication.after]
      split_ifs with hdone
      · exact hfaithful.record hdone (GameServer.isOrderly_operate horderly now operation)
          (GameServer.standing?_operate horderly now operation)
      · exact hfaithful
  | publish worker => exact hfaithful.publish worker
  | learn info privilegedSlots =>
      exact ⟨hfaithful.isOrderly, hfaithful.replay_told, hfaithful.eventsOf_published,
        hfaithful.latest⟩

theorem isFaithful_run (serial : Nat) (address : Endpoint) (nameHint : String)
    (config : QueueConfig) (start : Nat) (steps : List Step) :
    (run (.register serial address nameHint config start) steps).IsFaithful :=
  List.foldlRecOn (motive := IsFaithful) steps _
    (isFaithful_start serial address nameHint config start)
    fun _ hfaithful step _ => hfaithful.after step

/-! ## Runs -/

/-- Once there is nothing left to publish, the latest about a player who was not overtaken is what
the queue holds. -/
theorem IsFaithful.replay_published (hfaithful : publication.IsFaithful)
    (hdone : ∀ worker, publication.unpublished worker = [])
    (hinTime : ¬ publication.isOvertaken player) :
    replay publication.published player = publication.server.queue.standing? player := by
  obtain ⟨worker, -, hlatest⟩ := hfaithful.latest player hinTime
  rwa [hdone] at hlatest

/-- The last event about somebody of whom the observer holds nothing tells of a departure. -/
theorem exists_dequeued_of_hearAll_eq_none {observer : Observer} {events : List QueueEvent}
    (hnone : observer.hearAll events player = none) {event : QueueEvent}
    (hlast : event ∈ (about player events).getLast?) :
    ∃ reason, event = .dequeued player reason := by
  rw [observer.hearAll_of_mem_getLast? hlast] at hnone
  have hplayer : event.player = player := by
    simpa [about] using (List.mem_filter.mp (List.mem_of_mem_getLast? hlast)).2
  cases event with
  | position other place length => exact absurd hnone (by simp [QueueEvent.standing?])
  | join other attempt => exact absurd hnone (by simp [QueueEvent.standing?])
  | dequeued other reason => exact ⟨reason, by rw [← hplayer]; rfl⟩

/-- Whatever the order of the steps, what was told, in the order of the changes, says exactly who
is in the queue and where, and each worker publishes its part of it in order.  Once nothing is left
to publish, everything that was told has been published once; and of every player who was not
overtaken it says what the queue holds, so that a departure comes last. -/
theorem replay_published_of_not_isOvertaken (serial : Nat) (address : Endpoint)
    (nameHint : String) (config : QueueConfig) (start : Nat) (steps : List Step) :
    let publication := run (.register serial address nameHint config start) steps
    let queue := publication.server.queue
    replay publication.told = queue.standing? ∧
    (∀ worker, eventsOf worker publication.published ++ publication.unpublished worker =
      eventsOf worker publication.told) ∧
    ((∀ worker, publication.unpublished worker = []) →
      publication.published.Perm publication.told ∧
      ∀ player, ¬ publication.isOvertaken player →
        replay publication.published player = queue.standing? player ∧
        (player ∉ queue.players →
          ∀ event ∈ (about player (publication.published.map (·.2))).getLast?,
            ∃ reason, event = .dequeued player reason)) := by
  intro publication queue
  have hfaithful : publication.IsFaithful :=
    isFaithful_run serial address nameHint config start steps
  refine ⟨hfaithful.replay_told, hfaithful.eventsOf_published, fun hdone => ⟨?_, ?_⟩⟩
  · apply perm_of_eventsOf
    intro worker
    rw [← hfaithful.eventsOf_published worker, hdone, List.append_nil]
  · intro player hinTime
    have hreplay := hfaithful.replay_published hdone hinTime
    refine ⟨hreplay, fun hout event hlast => ?_⟩
    have hnone : queue.standing? player = none := by
      rw [← Option.map_eq_none_iff, ← Queue.doing?_eq, Queue.doing?_eq_none_iff]
      exact hout
    exact exists_dequeued_of_hearAll_eq_none (hreplay.trans hnone) hlast

/-- The attempt of a player runs out and another one begins while the player leaves: the departure
is published before the attempt that the queue began earlier, and who takes the events one after the
other has the player joining for good. -/
theorem not_replay_published_of_overtaken :
    let publication := run (.register 0 (.loopback 28960) "" {} 0) [
      .work .mainLoop 0 (.enqueue 7), .publish .mainLoop,
      .work .processor 30000 .process,
      .work .mainLoop 30001 (.remove 7 .userLeave), .publish .mainLoop,
      .publish .processor]
    (∀ worker, publication.unpublished worker = []) ∧
    publication.server.queue.players = [] ∧
    publication.published.map (·.2) =
      [.join 7 1, .dequeued 7 .userLeave, .join 7 2] ∧
    replay publication.published 7 = some (.joining 2) ∧
    publication.server.queue.standing? 7 = none := by
  refine ⟨fun worker => ?_, by decide, by decide, by decide, by decide⟩
  cases worker <;> decide

end Publication

end Muster
