import Muster.Proofs.Admission.News
import Muster.Proofs.Admission.Servers

/-!
# Stays in a queue

What is made known about the queue of one server, over any run of the operations on it.  One who
hears all of it knows at every moment who is in the queue and where, and the history of each player
is a row of stays: an arrival, then news of positions and attempts, then one departure.
-/

namespace Muster

/-- The changes of the queue of a server that effects make known, in order. -/
def Effect.changes (server : Endpoint) (effects : List Effect) : List QueueEvent :=
  (effects.filterMap Effect.admission?).filterMap fun change =>
    if change.server = server then some change.event else none

@[simp]
theorem Effect.changes_publish (server : Endpoint) (joinTimeout : Nat) (events : List QueueEvent) :
    changes server (publish server joinTimeout events) = events := by
  induction events with
  | nil => rfl
  | cons event rest ih =>
      simp only [changes, publish] at ih
      simp [changes, publish, admission?, List.filterMap_cons, ih]

/-- What happens at a queue: a player is let in, or something is made known. -/
inductive Happening where
  | arrived (player : PlayerId)
  | told (event : QueueEvent)
  deriving DecidableEq, Repr

def Happening.player : Happening → PlayerId
  | .arrived player => player
  | .told event => event.player

def Happening.event? : Happening → Option QueueEvent
  | .arrived _ => none
  | .told event => some event

/-- What can be done with the queue of a server. -/
inductive GameServer.Act where
  | enqueue (player : PlayerId)
  | acknowledge (player : PlayerId) (result : JoinResult)
  | remove (player : PlayerId) (reason : DequeueReason)
  | process
  /-- Something else becomes known of the server, and with it how many players may join at once. -/
  | learn (info : Option (Stamped ServerInfo)) (privilegedSlots : Count)

structure Course where
  server : GameServer
  /-- What has happened at the queue so far. -/
  chronicle : List Happening

namespace Course

def record (course : Course) (arrived : List PlayerId) (changed : GameServer)
    (events : List QueueEvent) : Course where
  server := changed
  chronicle :=
    let effects :=
      Effect.publish course.server.address course.server.queue.config.joinTimeout events
    course.chronicle ++ arrived.map .arrived ++
      (Effect.changes course.server.address effects).map .told

def after (course : Course) (now : Nat) : GameServer.Act → Course
  | .enqueue player =>
    match course.server.enqueue player now with
    | .ok (changed, events) => course.record [player] changed events
    | .error _ => course
  | .acknowledge player result =>
    match course.server.acknowledge player result now with
    | .ok (changed, events) => course.record [] changed events
    | .error _ => course
  | .remove player reason =>
    match course.server.dequeue? player reason now with
    | some (changed, events) => course.record [] changed events
    | none => course
  | .process =>
    let (changed, events, _) := course.server.processInBackground now
    course.record [] changed events
  | .learn info privilegedSlots =>
    { course with server := { course.server with info, privilegedSlots } }

/-- A run of operations, each at some time, on a server that has just been registered. -/
def run (server : GameServer) (acts : List (Nat × GameServer.Act)) : Course :=
  acts.foldl (fun course act => course.after act.1 act.2) ⟨server, []⟩

def observer (course : Course) : Observer :=
  Observer.blank.hearAll (course.chronicle.filterMap (·.event?))

end Course

/-- A stay that is over: what the player was told in its course, and why it ended. -/
structure Stay where
  news : List QueueEvent
  reason : DequeueReason

def Stay.happenings (player : PlayerId) (stay : Stay) : List Happening :=
  .arrived player :: (stay.news ++ [QueueEvent.dequeued player stay.reason]).map .told

/-- There was news, and there was nothing else. -/
def IsNews (events : List QueueEvent) : Prop :=
  events ≠ [] ∧ ∀ event ∈ events, event.isNews

/-- What happened to a player: some stays that are over and, if the player is there now, the present
one. -/
def Attends (player : PlayerId) (isThere : Bool) (happenings : List Happening) : Prop :=
  ∃ (stays : List Stay) (news : List QueueEvent),
    happenings = stays.flatMap (·.happenings player) ++
      (if isThere then .arrived player :: news.map .told else []) ∧
    (∀ stay ∈ stays, IsNews stay.news) ∧ (isThere → IsNews news)

variable {config : QueueConfig} {player : PlayerId} {now : Nat}

open QueueEvent (about)

/-! ## Operations -/

namespace Queue

variable {queue : Queue}

/-- A pass does not take away whom age leaves alone. -/
theorem mem_players_process {entry other : Entry} (hentry : entry ∈ queue.entries)
    (hage : entry.age queue.config now = .ok other) (slots : Option Count) :
    entry.player ∈ (queue.process now slots).1.players := by
  obtain ⟨room, queueLength, hentries⟩ := process_fst queue now slots
  rw [players, hentries, players_announce, players_promoteFirst, ageAll_fst, ← player_age hage]
  apply List.mem_map_of_mem
  exact List.mem_filterMap.mpr ⟨entry, hentry, by rw [hage]; rfl⟩

theorem age_arrive (player : PlayerId) (config : QueueConfig) (now : Nat) :
    (Entry.arrive player).age config now = .ok (Entry.arrive player) := by
  simp [Entry.arrive, Entry.age, Entry.isOverBudget, Entry.isAttemptExpired]

end Queue

namespace GameServer

variable {server changed : GameServer} {events : List QueueEvent}

/-- An operation that ends with a pass over the queue.  It works on the queue as it is once those
who come have arrived. -/
structure Serves (server : GameServer) (attended : Queue) (changed : GameServer)
    (events : List QueueEvent) : Prop where
  address_eq : changed.address = server.address
  config_eq : changed.queue.config = attended.config
  sweeps : Sweeps attended.config attended.entries changed.queue.entries events
  isAnnounced : changed.queue.IsAnnounced

theorem serves_process (server : GameServer) (queue : Queue) (now : Nat) :
    server.Serves queue ({ server with queue }.process now).1
      ({ server with queue }.process now).2 :=
  ⟨rfl, rfl, Queue.sweeps_process queue now _, Queue.isAnnounced_process queue now _⟩

/-- Joining lets the player in first and passes over the queue afterwards. -/
theorem serves_enqueue (henqueue : server.enqueue player now = .ok (changed, events)) :
    ∃ attended, server.queue.enqueue player now = (attended, .ok ()) ∧
      server.Serves attended changed events ∧ player ∈ changed.queue.players := by
  obtain ⟨queue, hqueue, rfl, rfl⟩ := enqueue_eq_ok henqueue
  have hserves := server.serves_process queue now
  refine ⟨queue, hqueue, ⟨hserves.address_eq, hserves.config_eq, hserves.sweeps,
    hserves.isAnnounced⟩, ?_⟩
  have hnew : Entry.arrive player ∈ queue.entries := by
    rw [(Queue.enqueue_eq_ok hqueue).2]
    exact List.mem_append_right _ List.mem_cons_self
  exact Queue.mem_players_process hnew (Queue.age_arrive player _ now) _

theorem serves_acknowledge {result : JoinResult}
    (hacknowledge : server.acknowledge player result now = .ok (changed, events)) :
    server.Serves server.queue changed events := by
  obtain ⟨queue, told, hqueue, rfl, rfl⟩ := acknowledge_eq_ok hacknowledge
  have hserves := server.serves_process queue now
  have hconfig := Queue.acknowledge_config hqueue
  refine ⟨hserves.address_eq, hserves.config_eq.trans hconfig, ?_, hserves.isAnnounced⟩
  exact .next (Queue.sweep_acknowledge hqueue) (hconfig ▸ hserves.sweeps)

theorem serves_dequeue? {reason : DequeueReason}
    (hdequeue : server.dequeue? player reason now = some (changed, events)) :
    server.Serves server.queue changed events := by
  obtain ⟨⟨queue, event⟩, hremove, hchanged⟩ := Option.map_eq_some_iff.mp hdequeue
  obtain ⟨rfl, rfl⟩ := Prod.mk.inj hchanged
  have hserves := server.serves_process queue now
  have hconfig := Queue.remove_config hremove
  refine ⟨hserves.address_eq, hserves.config_eq.trans hconfig, ?_, hserves.isAnnounced⟩
  exact .next (Queue.sweep_remove hremove) (hconfig ▸ hserves.sweeps)

theorem serves_processInBackground (server : GameServer) (now : Nat) :
    server.Serves server.queue (server.processInBackground now).1
      (server.processInBackground now).2.1 :=
  have hserves := server.serves_process server.queue now
  ⟨hserves.address_eq, hserves.config_eq, hserves.sweeps, hserves.isAnnounced⟩

end GameServer

/-! ## What a run records -/

namespace Course

variable {course : Course} {server changed : GameServer} {events : List QueueEvent}

/-- What happened to one player. -/
def history (course : Course) (player : PlayerId) : List Happening :=
  course.chronicle.filter fun happening => happening.player == player

/-- The chronicle agrees with the queue. -/
structure IsTrue (course : Course) (config : QueueConfig) : Prop where
  isWellFormed : course.server.queue.IsWellFormed config
  tracks : course.observer.Tracks course.server.queue.entries
  isAnnounced : course.server.queue.IsAnnounced
  attends : ∀ player,
    Attends player (course.server.queue.contains player) (course.history player)

@[simp]
theorem observer_record (course : Course) (arrived : List PlayerId) (changed : GameServer)
    (events : List QueueEvent) :
    (course.record arrived changed events).observer = course.observer.hearAll events := by
  have harrived : (arrived.map Happening.arrived).filterMap (·.event?) = [] := by
    simp [List.filterMap_map, Happening.event?]
  have htold : (events.map Happening.told).filterMap (·.event?) = events := by
    simp [List.filterMap_map, Happening.event?]
  rw [observer, observer, ← Observer.hearAll_append]
  simp [record, harrived, htold]

@[simp]
theorem history_record (course : Course) (arrived : List PlayerId) (changed : GameServer)
    (events : List QueueEvent) (player : PlayerId) :
    (course.record arrived changed events).history player =
      course.history player ++ (arrived.filter (· == player)).map .arrived ++
        (about player events).map .told := by
  simp [history, record, about, List.filter_map, Function.comp_def, Happening.player]

theorem contains_eq_false {queue : Queue} (hplayer : player ∉ queue.players) :
    queue.contains player = false := by
  rwa [← Bool.not_eq_true, Queue.contains_iff]

/-- The history of a player goes on with what the player hears of sweeps over the queue. -/
theorem attends_sweeps {before after : Queue} {happenings : List Happening}
    (hattends : Attends player (before.contains player) happenings)
    (hnodup : before.players.Nodup)
    (hsweeps : Sweeps config before.entries after.entries events) :
    Attends player (after.contains player) (happenings ++ (about player events).map .told) := by
  obtain ⟨stays, news, rfl, hstays, hnews⟩ := hattends
  by_cases hbefore : player ∈ before.players
  · rw [Queue.contains_iff.mpr hbefore, if_pos rfl]
    obtain ⟨htold, hall⟩ := hnews (Queue.contains_iff.mpr hbefore)
    by_cases hafter : player ∈ after.players
    · refine ⟨stays, news ++ about player events, ?_, hstays, fun _ => ⟨?_, ?_⟩⟩
      · rw [Queue.contains_iff.mpr hafter, if_pos rfl]
        simp
      · exact List.append_ne_nil_of_left_ne_nil htold _
      · rw [List.forall_mem_append]
        exact ⟨hall, hsweeps.isNews_about hnodup hafter⟩
    · obtain ⟨more, reason, hevents, hmore⟩ :=
        hsweeps.about_eq_append_dequeued hnodup hbefore hafter
      refine ⟨stays ++ [⟨news ++ more, reason⟩], [], ?_, ?_, ?_⟩
      · rw [contains_eq_false hafter, hevents]
        simp [Stay.happenings]
      · rw [List.forall_mem_append, List.forall_mem_singleton]
        refine ⟨hstays, List.append_ne_nil_of_left_ne_nil htold _, ?_⟩
        rw [List.forall_mem_append]
        exact ⟨hall, hmore⟩
      · simp [contains_eq_false hafter]
  · have hafter : player ∉ after.players := fun hafter =>
      hbefore (hsweeps.players_sublist.mem hafter)
    refine ⟨stays, news, ?_, hstays, ?_⟩
    · rw [hsweeps.about_eq_nil hbefore, contains_eq_false hbefore, contains_eq_false hafter]
      simp
    · simp [contains_eq_false hafter]

/-- An operation that lets nobody in. -/
theorem IsTrue.record (hcourse : course.IsTrue config)
    (hserves : course.server.Serves course.server.queue changed events) :
    (course.record [] changed events).IsTrue config := by
  have hwell := hcourse.isWellFormed
  have hsweeps := hserves.sweeps
  refine ⟨hwell.sweeps hserves.config_eq hsweeps, ?_, hserves.isAnnounced, ?_⟩
  · rw [hwell.config_eq] at hsweeps
    rw [observer_record]
    exact hsweeps.tracks hwell.nodup hwell.entries hcourse.tracks
  · intro player
    rw [history_record, List.filter_nil, List.map_nil, List.append_nil]
    exact attends_sweeps (hcourse.attends player) hwell.nodup hsweeps

/-- A player who was let in begins a stay, of which there is news. -/
theorem attends_arrived {happenings : List Happening} (hattends : Attends player false happenings)
    (hnews : IsNews (about player events)) :
    Attends player true (happenings ++ [.arrived player] ++ (about player events).map .told) := by
  obtain ⟨stays, news, rfl, hstays, -⟩ := hattends
  exact ⟨stays, about player events, by simp, hstays, fun _ => hnews⟩

/-- An operation that lets a player in. -/
theorem IsTrue.record_arrived (hcourse : course.IsTrue config)
    (henqueue : course.server.enqueue player now = .ok (changed, events)) :
    (course.record [player] changed events).IsTrue config := by
  obtain ⟨attended, hqueue, hserves, hplayer⟩ := GameServer.serves_enqueue henqueue
  have hwell := hcourse.isWellFormed.enqueue hqueue
  have hplayers := Queue.players_enqueue hqueue
  obtain ⟨hnew, hattended⟩ := Queue.enqueue_eq_ok hqueue
  have hsweeps := hserves.sweeps
  have htracks : (course.observer.hearAll events).Tracks changed.queue.entries := by
    have harrived : course.observer.Tracks attended.entries := by
      rw [hattended]
      exact hcourse.tracks.arrive player
    exact hsweeps.tracks hwell.nodup (hwell.config_eq ▸ hwell.entries) harrived
  have hcontains : changed.queue.contains player := Queue.contains_iff.mpr hplayer
  refine ⟨hwell.sweeps hserves.config_eq hsweeps, ?_, hserves.isAnnounced, ?_⟩
  · rw [observer_record]
    exact htracks
  intro other
  rw [history_record]
  change Attends other (changed.queue.contains other) _
  by_cases hother : player = other
  · subst hother
    have hattends := hcourse.attends player
    rw [contains_eq_false hnew] at hattends
    have htold := hserves.isAnnounced.about_ne_nil htracks (hcourse.tracks.eq_none player hnew)
      hcontains
    rw [hcontains, List.filter_cons_of_pos (by simp), List.filter_nil]
    exact attends_arrived hattends ⟨htold, hsweeps.isNews_about hwell.nodup hplayer⟩
  · have hsame : attended.contains other = course.server.queue.contains other := by
      rw [Bool.eq_iff_iff, Queue.contains_iff, Queue.contains_iff, hplayers]
      simp [Ne.symm hother]
    have hattends := hcourse.attends other
    rw [← hsame] at hattends
    rw [List.filter_cons_of_neg (by simpa using hother), List.filter_nil, List.map_nil,
      List.append_nil]
    exact attends_sweeps hattends hwell.nodup hsweeps

theorem IsTrue.after (hcourse : course.IsTrue config) (now : Nat) (act : GameServer.Act) :
    (course.after now act).IsTrue config := by
  cases act with
  | enqueue player =>
      simp only [Course.after]
      split
      next changed events henqueue => exact hcourse.record_arrived henqueue
      next => exact hcourse
  | acknowledge player result =>
      simp only [Course.after]
      split
      next changed events hacknowledge =>
        exact hcourse.record (GameServer.serves_acknowledge hacknowledge)
      next => exact hcourse
  | remove player reason =>
      simp only [Course.after]
      split
      next changed events hremove => exact hcourse.record (GameServer.serves_dequeue? hremove)
      next => exact hcourse
  | process => exact hcourse.record (GameServer.serves_processInBackground _ now)
  | learn info privilegedSlots =>
      exact ⟨hcourse.isWellFormed, hcourse.tracks, hcourse.isAnnounced, hcourse.attends⟩

/-- By induction on the run: each operation extends the chronicles of the players as it changes the
queue. -/
theorem isTrue_run (serial : Nat) (address : Endpoint) (nameHint : String) (config : QueueConfig)
    (start : Nat) (acts : List (Nat × GameServer.Act)) :
    (run (.register serial address nameHint config start) acts).IsTrue config := by
  have hstart : Course.IsTrue ⟨.register serial address nameHint config start, []⟩ config := by
    refine ⟨Queue.isWellFormed_empty config start, Observer.tracks_blank, ?_, ?_⟩
    · intro index entry hentry
      simp [GameServer.register, Queue.empty] at hentry
    · intro player
      exact ⟨[], [], rfl, by simp, by simp [GameServer.register, Queue.empty, Queue.contains,
        Queue.find?]⟩
  exact List.foldlRecOn (motive := fun course => Course.IsTrue course config) acts _ hstart
    fun course hcourse act _ => hcourse.after act.1 act.2

/-- In the course of any run, one who has heard all that was made known about a queue knows exactly
who is in it, the position of everyone who waits and the attempt of everyone who is joining.  What
happened to a player is a row of stays, each begun by an arrival and ended by one departure, with
nothing but news, and some news, in between; the last stay is not over if and only if the player is
in the queue. -/
theorem observer_eq_standing? (serial : Nat) (address : Endpoint) (nameHint : String)
    (config : QueueConfig) (start : Nat) (acts : List (Nat × GameServer.Act)) :
    let course := run (.register serial address nameHint config start) acts
    course.observer = course.server.queue.standing? ∧
    (∀ player, (course.observer player).isSome ↔ course.server.queue.contains player) ∧
    ∀ player, Attends player (course.server.queue.contains player) (course.history player) := by
  have hcourse := isTrue_run serial address nameHint config start acts
  have hknown := hcourse.isAnnounced.eq_standing? hcourse.tracks
  refine ⟨hknown, fun player => ?_, hcourse.attends⟩
  rw [hknown]
  exact Queue.standing?_isSome_iff

end Course

end Muster
