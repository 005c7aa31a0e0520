import Muster.Proofs.Admission.Operations

/-!
# Players who are joining

How many players of a queue are joining at once.  Nobody begins an attempt but in a pass, and a
pass begins attempts only as long as fewer are joining than there are joining slots.  So an
operation leaves no more players joining than there were, or than there are slots.
-/

namespace Muster

variable {config : QueueConfig} {player : PlayerId} {now : Nat}

/-! ## Entries -/

theorem Entry.isJoining_of_retry {entry other : Entry}
    (hretry : entry.retry config now = .ok other) : other.isJoining = false := by
  simp only [Entry.retry] at hretry
  split_ifs at hretry
  rw [← Except.ok.inj hretry]
  rfl

theorem Entry.isJoining_of_report {entry other : Entry} {result : JoinResult}
    (hreport : entry.report config now result = .ok other) : other.isJoining = false := by
  cases result with
  | joined | rejected => simp [report] at hreport
  | failed serverFull =>
      rw [report] at hreport
      split_ifs at hreport with hjoining
      · exact isJoining_of_retry hreport
      · rw [← Except.ok.inj hreport]
        exact Bool.eq_false_iff.mpr hjoining

theorem Entry.isJoining_of_age {entry other : Entry} (hage : entry.age config now = .ok other)
    (hjoining : other.isJoining) : entry.isJoining := by
  simp only [Entry.age] at hage
  split_ifs at hage
  · rw [isJoining_of_retry hage] at hjoining
    exact absurd hjoining (by decide)
  · rwa [Except.ok.inj hage]

namespace Queue

variable {queue next : Queue}

/-! ## Sweeps -/

theorem countP_isJoining_ageAll_le (config : QueueConfig) (now : Nat) (entries : List Entry) :
    (ageAll config now entries).1.countP (·.isJoining) ≤ entries.countP (·.isJoining) := by
  rw [ageAll_fst, List.countP_filterMap]
  apply List.countP_mono_left
  intro entry _ haged
  cases hage : entry.age config now with
  | error reason => simp [hage, Except.toOption] at haged
  | ok other => exact Entry.isJoining_of_age hage (by simpa [hage, Except.toOption] using haged)

/-- As many begin an attempt as wait, or as there is room for. -/
theorem countP_isJoining_promoteFirst (now room : Nat) (entries : List Entry) :
    (promoteFirst now room entries).1.countP (·.isJoining) =
      entries.countP (·.isJoining) + min (entries.countP (·.isWaiting)) room := by
  induction entries generalizing room with
  | nil => cases room <;> simp [promoteFirst]
  | cons entry rest ih =>
      cases room with
      | zero =>
          rw [Nat.min_zero]
          rfl
      | succ room =>
          simp only [promoteFirst]
          split_ifs with hwaiting
          · have hrest := ih room
            have hjoining : (entry :: rest).countP (·.isJoining) = rest.countP (·.isJoining) := by
              apply List.countP_cons_of_neg
              simp [Entry.isJoining, Entry.isWaiting_iff.mp hwaiting]
            have hwaits : (entry :: rest).countP (·.isWaiting) = rest.countP (·.isWaiting) + 1 :=
              List.countP_cons_of_pos hwaiting
            rw [List.countP_cons_of_pos (by rfl), hjoining, hwaits]
            omega
          · have hrest := ih (room + 1)
            have hwaits : (entry :: rest).countP (·.isWaiting) = rest.countP (·.isWaiting) :=
              List.countP_cons_of_neg hwaiting
            rw [List.countP_cons, List.countP_cons, hwaits]
            omega

/-- Telling positions lets nobody join and stops nobody from joining. -/
theorem countP_isJoining_announce (queueLength before : Nat) (entries : List Entry) :
    (announce queueLength before entries).1.countP (·.isJoining) =
      entries.countP (·.isJoining) := by
  induction entries generalizing before with
  | nil => rfl
  | cons entry rest ih =>
      simp only [announce]
      -- What an entry says was reported has no part in what its player does.
      split_ifs <;> rw [List.countP_cons, List.countP_cons, ih]
      rfl

theorem countP_isJoining_settle_le {step : Entry → Except DequeueReason Entry}
    (hstep : ∀ entry other, step entry = .ok other → other.isJoining = false)
    (player : PlayerId) (entries : List Entry) :
    (settle player step entries).1.countP (·.isJoining) ≤ entries.countP (·.isJoining) := by
  induction entries with
  | nil => exact Nat.le_refl _
  | cons entry rest ih =>
      simp only [settle]
      split_ifs
      · cases hentry : step entry with
        | ok other =>
            rw [List.countP_cons_of_neg (by simp [hstep entry other hentry])]
            exact (List.sublist_cons_self entry rest).countP_le
        | error reason => exact (List.sublist_cons_self entry rest).countP_le
      · rw [List.countP_cons, List.countP_cons]
        omega

/-! ## Passes and reports -/

/-- A pass leaves no more players joining than there were, or than there are joining slots. -/
theorem joiningCount_process_le (queue : Queue) (now : Nat) (slots : Option Count) :
    (queue.process now slots).1.joiningCount ≤ max queue.joiningCount (slots.getD 1).toNat := by
  let aged := (ageAll queue.config now queue.entries).1
  let room := (slots.getD 1).toNat - aged.countP (·.isJoining)
  have haged : aged.countP (·.isJoining) ≤ queue.joiningCount :=
    countP_isJoining_ageAll_le queue.config now queue.entries
  have hpromoted := countP_isJoining_promoteFirst now room aged
  have hannounced : (queue.process now slots).1.joiningCount =
      (promoteFirst now room aged).1.countP (·.isJoining) := countP_isJoining_announce _ _ _
  omega

theorem joiningCount_enqueue (henqueue : queue.enqueue player now = (next, .ok ())) :
    next.joiningCount = queue.joiningCount := by
  obtain ⟨-, rfl⟩ := enqueue_eq_ok henqueue
  simp [joiningCount, Entry.arrive, Entry.isJoining]

theorem joiningCount_remove_le {reason : DequeueReason} {event : QueueEvent}
    (hremove : queue.remove player reason now = some (next, event)) :
    next.joiningCount ≤ queue.joiningCount := by
  obtain ⟨-, -, rfl⟩ := remove_eq_some hremove
  exact List.eraseP_sublist.countP_le

theorem joiningCount_acknowledge_le {result : JoinResult} {events : List QueueEvent}
    (hacknowledge : queue.acknowledge player result now = (next, .ok events)) :
    next.joiningCount ≤ queue.joiningCount := by
  obtain ⟨-, -, rfl⟩ := acknowledge_eq_ok hacknowledge
  exact countP_isJoining_settle_le (fun _ _ => Entry.isJoining_of_report) player queue.entries

end Queue

namespace GameServer

variable {server : GameServer}

/-- Players who may be joining at once: the joining slots, or one where their number is unknown. -/
def joiningRoom (server : GameServer) : Nat :=
  (server.joinableSlots?.getD 1).toNat

/-- Nobody begins an attempt before the pass that ends an operation. -/
theorem Operation.Begins.joiningCount_le {operation : Operation} {before queue : Queue}
    (hbegins : operation.Begins before now queue) : queue.joiningCount ≤ before.joiningCount := by
  cases hbegins with
  | enqueue henqueue => exact Nat.le_of_eq (Queue.joiningCount_enqueue henqueue)
  | acknowledge hacknowledge => exact Queue.joiningCount_acknowledge_le hacknowledge
  | remove hremove => exact Queue.joiningCount_remove_le hremove
  | process => exact Nat.le_refl _

/-- An operation leaves no more players joining than there were, or than may be joining. -/
theorem joiningCount_operate_le (server : GameServer) (now : Nat) (operation : Operation) :
    (server.operate now operation).1.queue.joiningCount ≤
      max server.queue.joiningCount server.joiningRoom := by
  rcases server.queue_operate now operation with hrefused | ⟨queue, hbegins, processing, hqueue⟩
  · rw [hrefused]
    exact Nat.le_max_left _ _
  · have hbegun := hbegins.joiningCount_le
    have hpass := queue.joiningCount_process_le now server.joinableSlots?
    rw [hqueue, joiningRoom]
    change (queue.process now server.joinableSlots?).1.joiningCount ≤ _
    omega

end GameServer

end Muster
