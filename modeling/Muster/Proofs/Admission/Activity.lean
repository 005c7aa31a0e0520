import Muster.Proofs.Admission.Operations

/-!
# Activity of a queue

A queue notes when it last changed.  Arrivals, reports and departures are always noted.  A pass is
noted when it tells something, and one that tells nothing leaves every entry as it was: an attempt
that ran out without success brings its player back among those who wait, and whoever comes back is
told a position.
-/

namespace Muster

variable {config : QueueConfig} {player : PlayerId} {now : Nat}

namespace Queue

variable {queue next before after : Queue}

/-! ## Silent passes -/

/-- Where there is nothing to announce, everybody who waits has been told a position. -/
theorem announce_of_silent {queueLength place : Nat} {entries : List Entry}
    (hsilent : (announce queueLength place entries).2 = []) :
    (announce queueLength place entries).1 = entries ∧
      ∀ entry ∈ entries, entry.isWaiting → entry.reportedPosition ≠ none := by
  induction entries generalizing place with
  | nil => exact ⟨rfl, by simp⟩
  | cons entry rest ih =>
      simp only [announce] at hsilent ⊢
      rw [List.forall_mem_cons]
      split_ifs at hsilent ⊢ with hwaiting hreported
      · obtain ⟨hsame, hrest⟩ := ih hsilent
        rw [hsame]
        exact ⟨rfl, fun _ => by simp [hreported], hrest⟩
      · obtain ⟨hsame, hrest⟩ := ih hsilent
        rw [hsame]
        exact ⟨rfl, fun hentry => absurd hentry hwaiting, hrest⟩

/-- Promotion that invites nobody leaves the entries as they are. -/
theorem promoteFirst_of_silent {room : Nat} {entries : List Entry}
    (hsilent : (promoteFirst now room entries).2 = []) :
    (promoteFirst now room entries).1 = entries := by
  induction entries generalizing room with
  | nil => cases room <;> rfl
  | cons entry rest ih =>
      cases room with
      | zero => rfl
      | succ room =>
          simp only [promoteFirst] at hsilent ⊢
          split_ifs at hsilent ⊢
          rw [ih hsilent]

/-- If nobody leaves and nobody comes back among those who wait, age changes nothing. -/
theorem ageAll_of_silent {entries : List Entry}
    (hwell : ∀ entry ∈ entries, entry.IsWellFormed config)
    (hsilent : (ageAll config now entries).2 = [])
    (htold : ∀ entry ∈ (ageAll config now entries).1,
      entry.isWaiting → entry.reportedPosition ≠ none) :
    (ageAll config now entries).1 = entries := by
  induction entries with
  | nil => rfl
  | cons entry rest ih =>
      rw [List.forall_mem_cons] at hwell
      simp only [ageAll] at hsilent htold ⊢
      cases hage : entry.age config now with
      | error reason =>
          rw [hage] at hsilent
          exact absurd hsilent (List.cons_ne_nil _ _)
      | ok other =>
          simp only [hage, List.forall_mem_cons] at hsilent htold
          simp only [ih hwell.2 hsilent htold.2, List.cons.injEq, and_true]
          cases turn_age hage with
          | stay => rfl
          | fail hjoining _ _ =>
              have hnone := hwell.1.reportedPosition_eq (Entry.isJoining_iff.mp hjoining)
              exact absurd hnone (htold.1 rfl)

/-- A pass that tells nothing changes no entry. -/
theorem entries_process_of_silent (hwell : queue.IsWellFormed queue.config)
    {slots : Option Count} (hsilent : (queue.process now slots).2 = []) :
    (queue.process now slots).1.entries = queue.entries := by
  simp only [process, List.append_assoc, List.append_eq_nil_iff] at hsilent ⊢
  obtain ⟨haged, hpromoted, hannounced⟩ := hsilent
  obtain ⟨hsame, htold⟩ := announce_of_silent hannounced
  rw [hsame]
  rw [promoteFirst_of_silent hpromoted] at htold ⊢
  exact ageAll_of_silent hwell.entries haged htold

/-! ## Marks -/

/-- A change of a queue is marked with its time. -/
def IsMarked (before after : Queue) (now : Nat) : Prop :=
  after.lastActivity = now ∨
    after.entries = before.entries ∧ after.lastActivity = before.lastActivity

theorem lastActivity_process (queue : Queue) (now : Nat) (slots : Option Count) :
    (queue.process now slots).1.lastActivity =
      if (queue.process now slots).2.isEmpty then queue.lastActivity else now := rfl

theorem isMarked_process (hwell : queue.IsWellFormed queue.config) (now : Nat)
    (slots : Option Count) : queue.IsMarked (queue.process now slots).1 now := by
  rw [IsMarked, lastActivity_process]
  split_ifs with hsilent
  · exact Or.inr ⟨entries_process_of_silent hwell (List.isEmpty_iff.mp hsilent), rfl⟩
  · exact Or.inl rfl

/-- A pass of the present moment does not undo the mark of the moment. -/
theorem lastActivity_process_of_eq (hnow : queue.lastActivity = now) (slots : Option Count) :
    (queue.process now slots).1.lastActivity = now := by
  rw [lastActivity_process]
  split_ifs
  · exact hnow
  · rfl

theorem lastActivity_acknowledge {result : JoinResult} {events : List QueueEvent}
    (hacknowledge : queue.acknowledge player result now = (next, .ok events)) :
    next.lastActivity = now := by
  obtain ⟨-, -, rfl⟩ := acknowledge_eq_ok hacknowledge
  rfl

end Queue

namespace GameServer

variable {server : GameServer}

/-- Whatever an operation makes of the queue before its pass is marked with the time. -/
theorem Operation.Begins.lastActivity_eq {operation : Operation} {before queue : Queue}
    (hbegins : operation.Begins before now queue) : queue.lastActivity = now ∨ queue = before := by
  cases hbegins with
  | enqueue henqueue =>
      obtain ⟨-, rfl⟩ := Queue.enqueue_eq_ok henqueue
      exact Or.inl rfl
  | acknowledge hacknowledge => exact Or.inl (Queue.lastActivity_acknowledge hacknowledge)
  | remove hremove =>
      obtain ⟨-, -, rfl⟩ := Queue.remove_eq_some hremove
      exact Or.inl rfl
  | process => exact Or.inr rfl

theorem isMarked_operate (hserver : server.queue.IsOrderly) (now : Nat) (operation : Operation) :
    server.queue.IsMarked (server.operate now operation).1.queue now := by
  rcases server.queue_operate now operation with hrefused | ⟨queue, hbegins, processing, hqueue⟩
  · rw [hrefused]
    exact Or.inr ⟨rfl, rfl⟩
  · rw [hqueue]
    rcases hbegins.lastActivity_eq with hnow | rfl
    · exact Or.inl (Queue.lastActivity_process_of_eq hnow _)
    · exact Queue.isMarked_process hserver.isWellFormed now server.joinableSlots?

end GameServer

end Muster
