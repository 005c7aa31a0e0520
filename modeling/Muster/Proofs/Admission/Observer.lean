import Muster.Proofs.Admission.WellFormed

/-!
# Observers of a queue

One who hears all that a queue tells its players, in order, and keeps the last of it for each
player.  In the course of a sweep such an observer knows the attempt of every joining player and,
of every waiting player, the position that the entry says was last told.  A pass ends by telling
every waiting player the present position, so after it the observer knows the whole queue.
-/

namespace Muster

variable {config : QueueConfig} {player : PlayerId} {now : Nat}

/-- Where a queued player stands. -/
inductive Standing where
  | waiting (position : Nat)
  | joining (attempt : UInt32)
  deriving DecidableEq, Repr

/-- Where a player stands in the queue, if the player is in it. -/
def Queue.standing? (queue : Queue) (player : PlayerId) : Option Standing :=
  (queue.find? player).bind fun entry =>
    match entry.state with
    | .waiting => (queue.position? player).map .waiting
    | .joining => some (.joining entry.attempts)

def QueueEvent.standing? : QueueEvent → Option Standing
  | .position _ place _ => some (.waiting place)
  | .join _ attempt => some (.joining attempt)
  | .dequeued _ _ => none

/-- Where an observer takes each player to stand. -/
abbrev Observer := PlayerId → Option Standing

namespace Observer

variable {observer other : Observer}

def blank : Observer := fun _ => none

def hear (observer : Observer) (event : QueueEvent) : Observer := fun player =>
  if player = event.player then event.standing? else observer player

def hearAll (observer : Observer) (events : List QueueEvent) : Observer :=
  events.foldl hear observer

@[simp]
theorem hearAll_nil (observer : Observer) : observer.hearAll [] = observer := rfl

@[simp]
theorem hearAll_cons (observer : Observer) (event : QueueEvent) (events : List QueueEvent) :
    observer.hearAll (event :: events) = (observer.hear event).hearAll events := rfl

theorem hear_self (observer : Observer) (event : QueueEvent) :
    observer.hear event event.player = event.standing? := if_pos rfl

theorem hear_of_ne {event : QueueEvent} (hplayer : event.player ≠ player) :
    observer.hear event player = observer player := if_neg (Ne.symm hplayer)

theorem hearAll_append (observer : Observer) (events others : List QueueEvent) :
    observer.hearAll (events ++ others) = (observer.hearAll events).hearAll others :=
  List.foldl_append

/-- Events about others leave alone what an observer holds of a player. -/
theorem hearAll_of_forall_ne {events : List QueueEvent}
    (hevents : ∀ event ∈ events, event.player ≠ player) :
    observer.hearAll events player = observer player := by
  induction events generalizing observer with
  | nil => rfl
  | cons event rest ih =>
      rw [List.forall_mem_cons] at hevents
      rw [hearAll_cons, ih hevents.2, hear_of_ne hevents.1]

/-- The observer knows the attempt of a joining player, and the position that a waiting player was
last told. -/
structure Follows (observer : Observer) (entry : Entry) : Prop where
  joining : entry.state = .joining → observer entry.player = some (.joining entry.attempts)
  waiting : entry.state = .waiting → ∀ position ∈ entry.reportedPosition,
    observer entry.player = some (.waiting position)

/-- The observer follows all entries and knows of nobody else. -/
structure Tracks (observer : Observer) (entries : List Entry) : Prop where
  follows : ∀ entry ∈ entries, observer.Follows entry
  eq_none : ∀ player ∉ entries.map (·.player), observer player = none

theorem Follows.congr {entry : Entry} (hentry : observer.Follows entry)
    (hsame : other entry.player = observer entry.player) : other.Follows entry := by
  constructor
  · rw [hsame]
    exact hentry.joining
  · rw [hsame]
    exact hentry.waiting

theorem tracks_blank : blank.Tracks [] :=
  ⟨by simp, fun _ _ => rfl⟩

/-- A player who arrives has been told nothing yet. -/
theorem Tracks.arrive {entries : List Entry} (htracks : observer.Tracks entries)
    (player : PlayerId) : observer.Tracks (entries ++ [Entry.arrive player]) := by
  constructor
  · intro entry hentry
    rcases List.mem_append.mp hentry with hearlier | hnew
    · exact htracks.follows entry hearlier
    · rw [List.mem_singleton.mp hnew]
      constructor <;> simp [Entry.arrive]
  · intro other hother
    rw [List.map_append, List.mem_append, not_or] at hother
    exact htracks.eq_none other hother.1

end Observer

/-! ## Sweeps -/

theorem Entry.Turn.player_of_told {entry changed : Entry} {told : List QueueEvent}
    (hturn : entry.Turn config changed told) : ∀ event ∈ told, event.player = entry.player := by
  cases hturn <;> simp [QueueEvent.player]

/-- Whoever knew the entry knows it afterwards, having heard what its turn told. -/
theorem Entry.Turn.follows {entry changed : Entry} {told : List QueueEvent} {observer : Observer}
    (hturn : entry.Turn config changed told) (hwell : entry.IsWellFormed config)
    (hentry : observer.Follows entry) : (observer.hearAll told).Follows changed := by
  cases hturn with
  | stay => exact hentry
  | fail hjoining hcount hattempts =>
      -- A joining player was told no position that would still count.
      have hreported := hwell.reportedPosition_eq (isJoining_iff.mp hjoining)
      constructor <;> simp [hreported]
  | join hwaiting now =>
      constructor <;> simp [promote, Observer.hear, QueueEvent.player, QueueEvent.standing?]
  | place hwaiting position queueLength =>
      have hstate := isWaiting_iff.mp hwaiting
      constructor <;> simp [hstate, Observer.hear, QueueEvent.player, QueueEvent.standing?]

/-- A sweep tells something to those only who are in the queue. -/
theorem Sweep.player_mem {before after : List Entry} {events : List QueueEvent}
    (hsweep : Sweep config before after events) :
    ∀ event ∈ events, event.player ∈ before.map (·.player) := by
  induction hsweep with
  | nil => simp
  | keep hturn _ ih =>
      intro event hevent
      rw [List.map_cons, List.mem_cons]
      exact (List.mem_append.mp hevent).imp (hturn.player_of_told event) (ih event)
  | drop entry reason _ ih =>
      intro event hevent
      rw [List.map_cons, List.mem_cons]
      rcases List.mem_cons.mp hevent with rfl | hevent
      · exact Or.inl rfl
      · exact Or.inr (ih event hevent)

/-- The rest of a sweep tells nothing to a player who came before. -/
theorem Sweep.ne_player {before after : List Entry} {events : List QueueEvent}
    (hsweep : Sweep config before after events) (hplayer : player ∉ before.map (·.player)) :
    ∀ event ∈ events, event.player ≠ player := by
  rintro event hevent rfl
  exact hplayer (hsweep.player_mem event hevent)

/-- Nobody else's events mislead the observer about an entry, since players differ. -/
theorem Sweep.follows {before after : List Entry} {events : List QueueEvent} {observer : Observer}
    (hsweep : Sweep config before after events) (hnodup : (before.map (·.player)).Nodup)
    (hwell : ∀ entry ∈ before, entry.IsWellFormed config)
    (hbefore : ∀ entry ∈ before, observer.Follows entry) :
    ∀ entry ∈ after, (observer.hearAll events).Follows entry := by
  induction hsweep generalizing observer with
  | nil => simp
  | @keep entry changed rest kept told events hturn hrest ih =>
      rw [List.map_cons, List.nodup_cons] at hnodup
      rw [List.forall_mem_cons] at hwell hbefore ⊢
      rw [Observer.hearAll_append]
      constructor
      · refine (hturn.follows hwell.1 hbefore.1).congr ?_
        rw [hturn.player_eq]
        exact Observer.hearAll_of_forall_ne (hrest.ne_player hnodup.1)
      · refine ih hnodup.2 hwell.2 fun other hother => (hbefore.2 other hother).congr ?_
        apply Observer.hearAll_of_forall_ne
        intro event hevent hsame
        rw [hturn.player_of_told event hevent] at hsame
        exact hnodup.1 (hsame ▸ List.mem_map_of_mem hother)
  | drop entry reason hrest ih =>
      rw [List.map_cons, List.nodup_cons] at hnodup
      rw [List.forall_mem_cons] at hwell hbefore
      refine ih hnodup.2 hwell.2 fun other hother => (hbefore.2 other hother).congr ?_
      apply Observer.hear_of_ne
      intro hsame
      change entry.player = other.player at hsame
      exact hnodup.1 (hsame ▸ List.mem_map_of_mem hother)

/-- Whoever leaves in the course of a sweep is known to have left. -/
theorem Sweep.hearAll_eq_none {before after : List Entry} {events : List QueueEvent}
    {observer : Observer} (hsweep : Sweep config before after events)
    (hnodup : (before.map (·.player)).Nodup) (hbefore : player ∈ before.map (·.player))
    (hafter : player ∉ after.map (·.player)) : observer.hearAll events player = none := by
  induction hsweep generalizing observer with
  | nil => exact absurd hbefore List.not_mem_nil
  | keep hturn _ ih =>
      rw [List.map_cons, List.nodup_cons] at hnodup
      rw [List.map_cons, List.mem_cons, not_or, hturn.player_eq] at hafter
      rw [List.map_cons, List.mem_cons] at hbefore
      rw [Observer.hearAll_append]
      exact ih hnodup.2 (hbefore.resolve_left hafter.1) hafter.2
  | drop entry reason hrest ih =>
      rw [List.map_cons, List.nodup_cons] at hnodup
      rw [List.map_cons, List.mem_cons] at hbefore
      rw [Observer.hearAll_cons]
      rcases hbefore with rfl | hothers
      · rw [Observer.hearAll_of_forall_ne (hrest.ne_player hnodup.1)]
        exact Observer.hear_self observer (.dequeued entry.player reason)
      · exact ih hnodup.2 hothers hafter

theorem Sweep.tracks {before after : List Entry} {events : List QueueEvent} {observer : Observer}
    (hsweep : Sweep config before after events) (hnodup : (before.map (·.player)).Nodup)
    (hwell : ∀ entry ∈ before, entry.IsWellFormed config) (htracks : observer.Tracks before) :
    (observer.hearAll events).Tracks after := by
  constructor
  · exact hsweep.follows hnodup hwell htracks.follows
  · intro player hafter
    by_cases hbefore : player ∈ before.map (·.player)
    · exact hsweep.hearAll_eq_none hnodup hbefore hafter
    · rw [Observer.hearAll_of_forall_ne (hsweep.ne_player hbefore)]
      exact htracks.eq_none player hbefore

/-- A pass is several sweeps, and the observer keeps up with each of them. -/
theorem Sweeps.tracks {before after : List Entry} {events : List QueueEvent} {observer : Observer}
    (hsweeps : Sweeps config before after events) (hnodup : (before.map (·.player)).Nodup)
    (hwell : ∀ entry ∈ before, entry.IsWellFormed config) (htracks : observer.Tracks before) :
    (observer.hearAll events).Tracks after := by
  induction hsweeps generalizing observer with
  | none => exact htracks
  | next hsweep _ ih =>
      rw [Observer.hearAll_append]
      exact ih (hnodup.sublist hsweep.players_sublist) (hsweep.isWellFormed hwell)
        (hsweep.tracks hnodup hwell htracks)

/-! ## Passes -/

namespace Queue

variable {queue : Queue}

/-- Every waiting player was last told the present position. -/
def IsAnnounced (queue : Queue) : Prop :=
  ∀ (index : Nat) (entry : Entry), (queue.entries.filter (·.isWaiting))[index]? = some entry →
    entry.reportedPosition = some (index + 1)

/-- Whoever waits is told the place, counted on from those before. -/
theorem reportedPosition_announce {queueLength before index : Nat} {entries : List Entry}
    {entry : Entry}
    (hentry : ((announce queueLength before entries).1.filter (·.isWaiting))[index]? = some entry) :
    entry.reportedPosition = some (before + index + 1) := by
  induction entries generalizing before index with
  | nil => simp [announce] at hentry
  | cons first rest ih =>
      simp only [announce] at hentry
      -- The first entry takes the next position if it waits, whether it has to be told or not.
      split_ifs at hentry with hwaiting hreported
      · rw [List.filter_cons_of_pos hwaiting] at hentry
        cases index with
        | zero =>
            obtain rfl := Option.some.inj hentry
            exact hreported
        | succ index =>
            have hrest := ih hentry
            rw [hrest]
            congr 1
            omega
      · rw [List.filter_cons_of_pos (by exact hwaiting)] at hentry
        cases index with
        | zero =>
            obtain rfl := Option.some.inj hentry
            rfl
        | succ index =>
            have hrest := ih hentry
            rw [hrest]
            congr 1
            omega
      · rw [List.filter_cons_of_neg hwaiting] at hentry
        exact ih hentry

theorem isAnnounced_process (queue : Queue) (now : Nat) (slots : Option Count) :
    (queue.process now slots).1.IsAnnounced := by
  obtain ⟨room, queueLength, hentries⟩ := process_fst queue now slots
  intro index entry hentry
  rw [hentries] at hentry
  have hposition := reportedPosition_announce hentry
  rwa [Nat.zero_add] at hposition

/-- An observer who tracks a queue after a pass knows where everybody stands. -/
theorem IsAnnounced.eq_standing? {observer : Observer} (hannounced : queue.IsAnnounced)
    (htracks : observer.Tracks queue.entries) : observer = queue.standing? := by
  funext player
  rw [standing?]
  cases hfind : queue.find? player with
  | none =>
      refine htracks.eq_none player ?_
      intro hplayer
      have hcontains := contains_iff.mpr hplayer
      simp [contains, hfind] at hcontains
  | some entry =>
      have hentry := List.mem_of_find?_eq_some hfind
      obtain rfl : entry.player = player := by simpa using List.find?_some hfind
      have hfollows := htracks.follows entry hentry
      cases hstate : entry.state with
      | joining => simpa [hstate] using hfollows.joining hstate
      | waiting =>
          have hwaits : entry ∈ queue.entries.filter (·.isWaiting) :=
            List.mem_filter.mpr ⟨hentry, Entry.isWaiting_iff.mpr hstate⟩
          cases hindex : (queue.entries.filter (·.isWaiting)).findIdx?
              fun other => other.player == entry.player with
          | none => simpa using List.findIdx?_eq_none_iff.mp hindex entry hwaits
          | some index =>
              obtain ⟨hlt, hplayer, -⟩ := List.findIdx?_eq_some_iff_getElem.mp hindex
              have hplaced := hannounced index _ (List.getElem?_eq_getElem hlt)
              have hmember := List.mem_filter.mp (List.getElem_mem hlt)
              have htold := (htracks.follows _ hmember.1).waiting
                (Entry.isWaiting_iff.mp hmember.2) _ hplaced
              rw [eq_of_beq hplayer] at htold
              simp [position?, hindex, hstate, htold]

theorem standing?_isSome_iff : (queue.standing? player).isSome ↔ queue.contains player := by
  rw [standing?, contains]
  cases hfind : queue.find? player with
  | none => simp
  | some entry =>
      have hentry := List.mem_of_find?_eq_some hfind
      have hplayer := List.find?_some hfind
      cases hstate : entry.state with
      | joining => simp [hstate]
      | waiting =>
          have hwaits : entry ∈ queue.entries.filter (·.isWaiting) :=
            List.mem_filter.mpr ⟨hentry, Entry.isWaiting_iff.mpr hstate⟩
          have hposition : (queue.position? player).isSome := by
            rw [position?, Option.isSome_map, List.findIdx?_isSome, List.any_eq_true]
            exact ⟨entry, hwaits, hplayer⟩
          simpa [hstate] using hposition

end Queue

end Muster
