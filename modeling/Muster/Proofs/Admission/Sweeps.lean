import Muster.Proofs.Admission.Walks

/-!
# Sweeps over a queue

Every operation but the arrival of a player goes through the entries from the first to the last,
changes or drops each on its own, and tells the player of each what became of it.  What such a
sweep can do to one entry is said here once; whatever holds of every sweep holds of reports on
attempts, departures and passes.
-/

namespace Muster

variable {config : QueueConfig} {player : PlayerId} {now : Nat}

/-- What a sweep makes of an entry that stays in the queue, and what it tells the player.  A failed
attempt counts, or it starts the count anew. -/
inductive Entry.Turn (config : QueueConfig) : Entry → Entry → List QueueEvent → Prop where
  | stay (entry : Entry) : Turn config entry entry []
  | fail {entry : Entry} {attempts : UInt32} (hjoining : entry.isJoining)
      (hcount : attempts = entry.attempts ∨ attempts = 0)
      (hattempts : attempts < config.maxJoinAttempts) :
      Turn config entry { entry with state := .waiting, attempts, attemptStartedAt := none } []
  | join {entry : Entry} (hwaiting : entry.isWaiting) (now : Nat) :
      Turn config entry (entry.promote now) [.join entry.player (entry.attempts + 1)]
  | place {entry : Entry} (hwaiting : entry.isWaiting) (position queueLength : Nat) :
      Turn config entry { entry with reportedPosition := some position }
        [.position entry.player position queueLength]

/-- One sweep: the entries before and after it, and what it tells the players. -/
inductive Sweep (config : QueueConfig) :
    List Entry → List Entry → List QueueEvent → Prop where
  | nil : Sweep config [] [] []
  | keep {entry changed : Entry} {rest kept : List Entry} {told events : List QueueEvent}
      (hturn : entry.Turn config changed told) (hrest : Sweep config rest kept events) :
      Sweep config (entry :: rest) (changed :: kept) (told ++ events)
  | drop {rest kept : List Entry} {events : List QueueEvent} (entry : Entry)
      (reason : DequeueReason) (hrest : Sweep config rest kept events) :
      Sweep config (entry :: rest) kept (.dequeued entry.player reason :: events)

/-- Several sweeps, one after the other. -/
inductive Sweeps (config : QueueConfig) :
    List Entry → List Entry → List QueueEvent → Prop where
  | none (entries : List Entry) : Sweeps config entries entries []
  | next {before between after : List Entry} {events others : List QueueEvent}
      (hsweep : Sweep config before between events)
      (hsweeps : Sweeps config between after others) :
      Sweeps config before after (events ++ others)

theorem Sweep.refl (entries : List Entry) : Sweep config entries entries [] := by
  induction entries with
  | nil => exact .nil
  | cons entry rest ih => exact .keep (.stay entry) ih

theorem Sweep.sweeps {before after : List Entry} {events : List QueueEvent}
    (hsweep : Sweep config before after events) : Sweeps config before after events := by
  rw [← List.append_nil events]
  exact .next hsweep (.none after)

/-- A walk is a sweep if its steps are turns and departures. -/
theorem Walk.sweep {step : Entry → Option Entry → List QueueEvent → Prop}
    {before after : List Entry} {events : List QueueEvent} (hwalk : Walk step before after events)
    (hturn : ∀ entry changed told, step entry (some changed) told → entry.Turn config changed told)
    (hleave : ∀ entry told, step entry none told →
      ∃ reason, told = [.dequeued entry.player reason]) :
    Sweep config before after events := by
  induction hwalk with
  | nil => exact .nil
  | @cons entry outcome rest kept told events hstep _ ih =>
      cases outcome with
      | some changed => exact .keep (hturn entry changed told hstep) ih
      | none =>
          obtain ⟨reason, rfl⟩ := hleave entry told hstep
          exact .drop entry reason ih

/-! ## The sweeps of the operations -/

namespace Queue

variable {queue next : Queue}

/-- An attempt that was forgiven or failed ends in a turn that tells nothing. -/
theorem turn_retry {entry other : Entry} (serverFull : Bool) (hjoining : entry.isJoining)
    (hretry : (entry.forgive config serverFull).retry config now = .ok other) :
    entry.Turn config other [] := by
  simp only [Entry.retry] at hretry
  split_ifs at hretry with hattempts hbudget
  rw [← Except.ok.inj hretry]
  rw [UInt32.not_le] at hattempts
  unfold Entry.forgive at hattempts ⊢
  split_ifs at hattempts ⊢
  · exact .fail hjoining (Or.inr rfl) hattempts
  · exact .fail hjoining (Or.inl rfl) hattempts

theorem turn_report {entry other : Entry} {result : JoinResult}
    (hreport : entry.report config now result = .ok other) : entry.Turn config other [] := by
  cases result with
  | joined | rejected => simp [Entry.report] at hreport
  | failed serverFull =>
      rw [Entry.report] at hreport
      split_ifs at hreport with hjoining
      · exact turn_retry serverFull hjoining hreport
      · rw [← Except.ok.inj hreport]
        exact .stay entry

theorem turn_age {entry other : Entry} (hage : entry.age config now = .ok other) :
    entry.Turn config other [] := by
  simp only [Entry.age] at hage
  split_ifs at hage with hbudget hexpired
  · have hjoining : entry.isJoining := by
      rw [Entry.isAttemptExpired, Bool.and_eq_true] at hexpired
      exact hexpired.1
    exact turn_retry false hjoining hage
  · rw [← Except.ok.inj hage]
    exact .stay entry

/-- Settling the reporter's entry is a sweep in which all others stay as they are. -/
theorem sweep_settle {step : Entry → Except DequeueReason Entry}
    (hstep : ∀ entry other, step entry = .ok other → entry.Turn config other [])
    (player : PlayerId) (entries : List Entry) :
    Sweep config entries (settle player step entries).1 (settle player step entries).2 := by
  induction entries with
  | nil => exact .nil
  | cons entry rest ih =>
      simp only [settle]
      split_ifs with hplayer
      · cases hentry : step entry with
        | ok other => exact .keep (hstep entry other hentry) (Sweep.refl rest)
        | error reason =>
            rw [← hplayer]
            exact .drop entry reason (Sweep.refl rest)
      · exact .keep (.stay entry) ih

theorem sweep_ageAll (config : QueueConfig) (now : Nat) (entries : List Entry) :
    Sweep config entries (ageAll config now entries).1 (ageAll config now entries).2 := by
  refine (walk_ageAll config now entries).sweep ?_ ?_
  · rintro entry changed told ⟨hage⟩
    exact turn_age hage
  · rintro entry told ⟨hage⟩
    exact ⟨_, rfl⟩

theorem sweep_promoteFirst (config : QueueConfig) (now room : Nat) (entries : List Entry) :
    Sweep config entries (promoteFirst now room entries).1 (promoteFirst now room entries).2 := by
  refine (walk_promoteFirst now room entries).sweep ?_ (by rintro _ _ ⟨⟩)
  rintro entry changed told (_ | hwaiting)
  · exact .stay entry
  · exact .join hwaiting now

theorem sweep_announce (config : QueueConfig) (queueLength before : Nat) (entries : List Entry) :
    Sweep config entries (announce queueLength before entries).1
      (announce queueLength before entries).2 := by
  refine (walk_announce queueLength before entries).sweep ?_ (by rintro _ _ ⟨⟩)
  rintro entry changed told (_ | ⟨hwaiting, position, queueLength⟩)
  · exact .stay entry
  · exact .place hwaiting position queueLength

/-- A pass is a sweep that ages the entries, one that starts attempts and one that announces
positions. -/
theorem sweeps_process (queue : Queue) (now : Nat) (slots : Option Count) :
    Sweeps queue.config queue.entries (queue.process now slots).1.entries
      (queue.process now slots).2 := by
  simp only [process, List.append_assoc]
  exact .next (sweep_ageAll _ _ _)
    (.next (sweep_promoteFirst _ _ _ _) (sweep_announce _ _ _ _).sweeps)

theorem sweep_remove {reason : DequeueReason} {event : QueueEvent}
    (hremove : queue.remove player reason now = some (next, event)) :
    Sweep queue.config queue.entries next.entries [event] := by
  have hsweep : Sweep queue.config queue.entries
      (settle player (fun _ => .error reason) queue.entries).1
      (settle player (fun _ => .error reason) queue.entries).2 :=
    sweep_settle (fun entry other hother => by simp at hother) player queue.entries
  rwa [← remove_eq_settle hremove] at hsweep

theorem sweep_acknowledge {result : JoinResult} {events : List QueueEvent}
    (hacknowledge : queue.acknowledge player result now = (next, .ok events)) :
    Sweep queue.config queue.entries next.entries events := by
  obtain ⟨-, rfl, rfl⟩ := acknowledge_eq_ok hacknowledge
  exact sweep_settle (fun _ _ => turn_report) player queue.entries

end Queue

end Muster
