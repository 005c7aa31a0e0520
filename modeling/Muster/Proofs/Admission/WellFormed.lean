import Muster.Proofs.Admission.Sweeps

/-!
# Well-formed queues

Whatever a queue is asked to do, at whatever times and with whatever slots, its players differ and
are no more than it has room for, the fields of each entry agree with what its player does, and the
entries stand in the order in which their players came in.
-/

namespace Muster

variable {config : QueueConfig} {player : PlayerId} {now : Nat}

/-! ## Entries -/

/-- The fields of an entry agree with what its player does, and its attempts are within the
limit. -/
structure Entry.IsWellFormed (entry : Entry) (config : QueueConfig) : Prop where
  joining_iff : entry.state = .joining ↔ entry.attemptStartedAt.isSome
  first : entry.state = .joining → entry.firstAttemptAt.isSome
  attempts_pos : entry.state = .joining → 0 < entry.attempts
  reportedPosition_eq : entry.state = .joining → entry.reportedPosition = none
  attempts_le : entry.attempts.toNat ≤ max 1 config.maxJoinAttempts.toNat
  attempts_lt : entry.state = .waiting → 0 < entry.attempts →
    entry.attempts < config.maxJoinAttempts

theorem Entry.isWellFormed_arrive (player : PlayerId) (config : QueueConfig) :
    (arrive player).IsWellFormed config := by
  constructor <;> simp [arrive]

theorem Entry.isWaiting_iff {entry : Entry} : entry.isWaiting ↔ entry.state = .waiting := by
  simp [isWaiting]

theorem Entry.isJoining_iff {entry : Entry} : entry.isJoining ↔ entry.state = .joining := by
  simp [isJoining]

/-- The attempts of a waiting entry leave room for one more. -/
theorem Entry.IsWellFormed.toNat_attempts_add_one {entry : Entry}
    (hentry : entry.IsWellFormed config) (hwaiting : entry.state = .waiting) :
    (entry.attempts + 1).toNat = entry.attempts.toNat + 1 ∧
      entry.attempts.toNat + 1 ≤ max 1 config.maxJoinAttempts.toNat := by
  have hlimit := config.maxJoinAttempts.toNat_lt
  have hattempts : entry.attempts.toNat = 0 ∨
      entry.attempts.toNat < config.maxJoinAttempts.toNat := by
    rcases Nat.eq_zero_or_pos entry.attempts.toNat with hzero | hpos
    · exact Or.inl hzero
    · exact Or.inr (hentry.attempts_lt hwaiting hpos)
  constructor
  · rw [UInt32.toNat_add, UInt32.toNat_one, Nat.mod_eq_of_lt]
    omega
  · omega

/-- A turn keeps an entry well formed, whatever it makes of the attempt. -/
theorem Entry.Turn.isWellFormed {entry changed : Entry} {told : List QueueEvent}
    (hturn : entry.Turn config changed told) (hentry : entry.IsWellFormed config) :
    changed.IsWellFormed config := by
  cases hturn with
  | stay => exact hentry
  | fail hjoining hcount hattempts =>
      have hlimit := UInt32.lt_iff_toNat_lt.mp hattempts
      refine ⟨by simp, by simp, by simp, by simp, ?_, fun _ _ => hattempts⟩
      exact Nat.le_trans (Nat.le_of_lt hlimit) (Nat.le_max_right _ _)
  | join hwaiting now =>
      obtain ⟨hadd, hle⟩ := hentry.toNat_attempts_add_one (isWaiting_iff.mp hwaiting)
      refine ⟨by simp [promote], by simp [promote], fun _ => ?_, fun _ => rfl, ?_,
        by simp [promote]⟩
      · rw [UInt32.lt_iff_toNat_lt, promote, hadd]
        exact Nat.succ_pos _
      · rwa [promote, hadd]
  | place hwaiting position queueLength =>
      have hstate := isWaiting_iff.mp hwaiting
      refine ⟨hentry.joining_iff, hentry.first, hentry.attempts_pos, ?_, hentry.attempts_le,
        hentry.attempts_lt⟩
      intro hjoining
      rw [hstate] at hjoining
      exact absurd hjoining (by decide)

/-! ## Sweeps -/

theorem Entry.Turn.player_eq {entry changed : Entry} {told : List QueueEvent}
    (hturn : entry.Turn config changed told) : changed.player = entry.player := by
  cases hturn <;> rfl

theorem Sweep.isWellFormed {before after : List Entry} {events : List QueueEvent}
    (hsweep : Sweep config before after events)
    (hbefore : ∀ entry ∈ before, entry.IsWellFormed config) :
    ∀ entry ∈ after, entry.IsWellFormed config := by
  induction hsweep with
  | nil => exact hbefore
  | keep hturn _ ih =>
      rw [List.forall_mem_cons] at hbefore ⊢
      exact ⟨hturn.isWellFormed hbefore.1, ih hbefore.2⟩
  | drop entry reason _ ih =>
      rw [List.forall_mem_cons] at hbefore
      exact ih hbefore.2

/-- A sweep brings nobody in and keeps the order. -/
theorem Sweep.players_sublist {before after : List Entry} {events : List QueueEvent}
    (hsweep : Sweep config before after events) :
    (after.map (·.player)).Sublist (before.map (·.player)) := by
  induction hsweep with
  | nil => exact .refl _
  | keep hturn _ ih =>
      rw [List.map_cons, List.map_cons, hturn.player_eq]
      exact ih.cons_cons _
  | drop entry reason _ ih => exact ih.cons _

theorem Sweeps.isWellFormed {before after : List Entry} {events : List QueueEvent}
    (hsweeps : Sweeps config before after events)
    (hbefore : ∀ entry ∈ before, entry.IsWellFormed config) :
    ∀ entry ∈ after, entry.IsWellFormed config := by
  induction hsweeps with
  | none => exact hbefore
  | next hsweep _ ih => exact ih (hsweep.isWellFormed hbefore)

theorem Sweeps.players_sublist {before after : List Entry} {events : List QueueEvent}
    (hsweeps : Sweeps config before after events) :
    (after.map (·.player)).Sublist (before.map (·.player)) := by
  induction hsweeps with
  | none => exact .refl _
  | next hsweep _ ih => exact ih.trans hsweep.players_sublist

namespace Queue

/-! ## Queues -/

/-- The players differ, there is room for them, and the entries are well formed. -/
structure IsWellFormed (queue : Queue) (config : QueueConfig) : Prop where
  config_eq : queue.config = config
  nodup : queue.players.Nodup
  length_le : queue.length ≤ config.maxQueueLength
  entries : ∀ entry ∈ queue.entries, entry.IsWellFormed config

variable {queue next : Queue}

theorem isWellFormed_empty (config : QueueConfig) (start : Nat) :
    (empty config start).IsWellFormed config :=
  ⟨rfl, List.nodup_nil, Nat.zero_le _, by simp [empty]⟩

/-- A change of the queue by sweeps alone keeps it well formed. -/
theorem IsWellFormed.sweeps {events : List QueueEvent} (hqueue : queue.IsWellFormed config)
    (hconfig : next.config = queue.config)
    (hsweeps : Sweeps queue.config queue.entries next.entries events) :
    next.IsWellFormed config := by
  rw [hqueue.config_eq] at hsweeps
  have hplayers : next.players.Sublist queue.players := hsweeps.players_sublist
  refine ⟨hconfig.trans hqueue.config_eq, hqueue.nodup.sublist hplayers, ?_,
    hsweeps.isWellFormed hqueue.entries⟩
  rw [← length_players]
  refine Nat.le_trans hplayers.length_le ?_
  rw [length_players]
  exact hqueue.length_le

/-- Joining is refused to those who are in the queue, and to all others when it is full. -/
theorem enqueue_eq_error_iff {error : QueueError} :
    (queue.enqueue player now).2 = .error error ↔
      (error = .alreadyQueued ∧ player ∈ queue.players) ∨
        (error = .queueFull ∧ player ∉ queue.players ∧
          queue.config.maxQueueLength ≤ queue.length) := by
  rw [← contains_iff]
  simp only [enqueue]
  split_ifs with hcontains hfull
  · simp [hcontains, eq_comm]
  · simp [hcontains, hfull, eq_comm]
  · simp [hcontains, hfull]

/-- A report is refused to those who are not in the queue, and to nobody else. -/
theorem acknowledge_eq_error_iff {result : JoinResult} {error : QueueError} :
    (queue.acknowledge player result now).2 = .error error ↔
      error = .notQueued ∧ player ∉ queue.players := by
  rw [← contains_iff, contains]
  simp only [acknowledge]
  cases queue.find? player with
  | none => simp [eq_comm]
  | some entry => simp

theorem IsWellFormed.enqueue (hqueue : queue.IsWellFormed config)
    (henqueue : queue.enqueue player now = (next, .ok ())) : next.IsWellFormed config := by
  have hroom : queue.length < queue.config.maxQueueLength := by
    by_contra hfull
    obtain ⟨hplayer, -⟩ := enqueue_eq_ok henqueue
    have herror : (queue.enqueue player now).2 = .error .queueFull :=
      enqueue_eq_error_iff.mpr (Or.inr ⟨rfl, hplayer, Nat.le_of_not_lt hfull⟩)
    rw [henqueue] at herror
    exact absurd herror (by simp)
  obtain ⟨hplayer, rfl⟩ := enqueue_eq_ok henqueue
  refine ⟨hqueue.config_eq, ?_, ?_, ?_⟩
  · rw [players_enqueue henqueue]
    exact hqueue.nodup.append (List.nodup_singleton player) (by simpa using hplayer)
  · rw [← hqueue.config_eq]
    simpa [length, Nat.succ_le_iff] using hroom
  · intro entry hentry
    rcases List.mem_append.mp hentry with hearlier | hnew
    · exact hqueue.entries entry hearlier
    · rw [List.mem_singleton.mp hnew]
      exact Entry.isWellFormed_arrive player config

/-! ## Runs -/

/-- What a queue can be asked to do. -/
inductive Call where
  | enqueue (player : PlayerId)
  | acknowledge (player : PlayerId) (result : JoinResult)
  | remove (player : PlayerId) (reason : DequeueReason)
  | process (slots : Option Count)
  deriving DecidableEq, Repr

/-- The queue after a call, with what it tells the players or why it refuses. -/
def answer (queue : Queue) (now : Nat) : Call → Queue × Except QueueError (List QueueEvent)
  | .enqueue player =>
    let (next, outcome) := queue.enqueue player now
    (next, outcome.map fun _ => [])
  | .acknowledge player result => queue.acknowledge player result now
  | .remove player reason =>
    match queue.remove player reason now with
    | some (next, event) => (next, .ok [event])
    | none => (queue, .ok [])
  | .process slots =>
    let (next, events) := queue.process now slots
    (next, .ok events)

theorem answer_eq_error {call : Call} {error : QueueError}
    (herror : (queue.answer now call).2 = .error error) : (queue.answer now call).1 = queue := by
  cases call with
  | enqueue player =>
      apply enqueue_of_error
      simp only [answer] at herror
      match (queue.enqueue player now).2, herror with
      | .error error, herror => exact congrArg _ (Except.error.inj herror)
  | acknowledge player result => exact acknowledge_of_error herror
  | remove player reason =>
      simp only [answer] at herror
      cases hremove : queue.remove player reason now <;> simp_all
  | process slots => simp [answer] at herror

structure Attended where
  queue : Queue
  /-- All who have ever been let in, in the order of their latest arrivals. -/
  arrivals : List PlayerId

def Attended.after (attended : Attended) (now : Nat) (call : Call) : Attended where
  queue := (attended.queue.answer now call).1
  arrivals :=
    match call, (attended.queue.answer now call).2 with
    | .enqueue player, .ok _ => attended.arrivals.filter (· != player) ++ [player]
    | _, _ => attended.arrivals

/-- A run from an empty queue: calls, each with the time at which it is made. -/
def run (config : QueueConfig) (start : Nat) (calls : List (Nat × Call)) : Attended :=
  calls.foldl (fun attended call => attended.after call.1 call.2) ⟨empty config start, []⟩

/-- The queue is well formed, and its players stand in the order of their arrival. -/
structure Attended.IsWellFormed (attended : Attended) (config : QueueConfig) : Prop where
  queue : attended.queue.IsWellFormed config
  players_sublist : attended.queue.players.Sublist attended.arrivals

theorem remove_config {reason : DequeueReason} {event : QueueEvent}
    (hremove : queue.remove player reason now = some (next, event)) :
    next.config = queue.config := by
  obtain ⟨-, -, rfl⟩ := remove_eq_some hremove
  rfl

theorem acknowledge_config {result : JoinResult} {events : List QueueEvent}
    (hacknowledge : queue.acknowledge player result now = (next, .ok events)) :
    next.config = queue.config := by
  obtain ⟨-, -, rfl⟩ := acknowledge_eq_ok hacknowledge
  rfl

/-- Every call keeps the queue well formed, and the players in the order of their arrival. -/
theorem Attended.IsWellFormed.after {attended : Attended}
    (hattended : attended.IsWellFormed config) (now : Nat) (call : Call) :
    (attended.after now call).IsWellFormed config := by
  obtain ⟨hqueue, hplayers⟩ := hattended
  have hsweeps : ∀ {next : Queue} {events : List QueueEvent},
      next.config = attended.queue.config →
      Sweeps attended.queue.config attended.queue.entries next.entries events →
      Attended.IsWellFormed ⟨next, attended.arrivals⟩ config := fun hconfig hsweeps =>
    ⟨hqueue.sweeps hconfig hsweeps, hsweeps.players_sublist.trans hplayers⟩
  cases call with
  | enqueue player =>
      obtain ⟨error, henqueue⟩ | ⟨next, henqueue⟩ := attended.queue.enqueue_cases player now
      · simp only [Attended.after, answer, henqueue]
        exact ⟨hqueue, hplayers⟩
      · simp only [Attended.after, answer, henqueue]
        refine ⟨hqueue.enqueue henqueue, ?_⟩
        obtain ⟨hplayer, -⟩ := enqueue_eq_ok henqueue
        rw [players_enqueue henqueue]
        apply List.Sublist.append_right
        have hothers : attended.queue.players.filter (· != player) = attended.queue.players := by
          rw [List.filter_eq_self]
          intro other hother
          exact bne_iff_ne.mpr (ne_of_mem_of_not_mem hother hplayer)
        rw [← hothers]
        exact hplayers.filter _
  | acknowledge player result =>
      simp only [Attended.after, answer]
      obtain ⟨error, hacknowledge⟩ | ⟨next, events, hacknowledge⟩ :=
        attended.queue.acknowledge_cases player result now
      · rw [hacknowledge]
        exact ⟨hqueue, hplayers⟩
      · rw [hacknowledge]
        exact hsweeps (acknowledge_config hacknowledge) (sweep_acknowledge hacknowledge).sweeps
  | remove player reason =>
      simp only [Attended.after, answer]
      cases hremove : attended.queue.remove player reason now with
      | none => exact ⟨hqueue, hplayers⟩
      | some outcome => exact hsweeps (remove_config hremove) (sweep_remove hremove).sweeps
  | process slots => exact hsweeps rfl (sweeps_process attended.queue now slots)

theorem attended_run (config : QueueConfig) (start : Nat) (calls : List (Nat × Call)) :
    (run config start calls).IsWellFormed config := by
  have hstart : Attended.IsWellFormed ⟨empty config start, []⟩ config :=
    ⟨isWellFormed_empty config start, List.Sublist.refl _⟩
  exact List.foldlRecOn (motive := fun attended => Attended.IsWellFormed attended config) calls _
    hstart fun attended hattended call _ => hattended.after call.1 call.2

/-- In the course of any run a queue is well formed and its players stand in the order of their
latest arrivals.  Whenever its next pass takes place, the attempts it starts can be counted.  A
player is refused for the reasons given here alone, and the queue is as it was before. -/
theorem isWellFormed_run (config : QueueConfig) (start : Nat) (calls : List (Nat × Call)) :
    let attended := run config start calls
    let queue := attended.queue
    queue.IsWellFormed config ∧
    queue.players.Sublist attended.arrivals ∧
    (∀ now, ∀ entry ∈ (ageAll config now queue.entries).1, entry.state = .waiting →
      (entry.attempts + 1).toNat = entry.attempts.toNat + 1) ∧
    (∀ now player error, (queue.enqueue player now).2 = .error error ↔
      (error = .alreadyQueued ∧ player ∈ queue.players) ∨
        (error = .queueFull ∧ player ∉ queue.players ∧ config.maxQueueLength ≤ queue.length)) ∧
    (∀ now player result error, (queue.acknowledge player result now).2 = .error error ↔
      error = .notQueued ∧ player ∉ queue.players) ∧
    ∀ now call error, (queue.answer now call).2 = .error error →
      (queue.answer now call).1 = queue := by
  obtain ⟨hqueue, hplayers⟩ := attended_run config start calls
  refine ⟨hqueue, hplayers, ?_, ?_, ?_, ?_⟩
  · intro now entry hentry hwaiting
    have haged := (sweep_ageAll config now _).isWellFormed hqueue.entries
    exact ((haged entry hentry).toNat_attempts_add_one hwaiting).1
  · intro now player error
    rw [enqueue_eq_error_iff, hqueue.config_eq]
  · intro now player result error
    exact acknowledge_eq_error_iff
  · intro now call error
    exact answer_eq_error

end Queue

end Muster
