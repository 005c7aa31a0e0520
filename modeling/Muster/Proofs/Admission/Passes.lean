import Mathlib.Data.List.Basic
import Muster.Proofs.Admission.Joining

/-!
# Passes over a queue

What a pass makes of a queue, said of its entries as a whole.  It leaves out those whose time has
run out, brings back among those who wait everybody whose attempt has lapsed, begins attempts for
the first who wait, as many as there are slots for, and numbers the others.  Nobody begins an
attempt while one who stands before goes on waiting.
-/

namespace Muster

variable {config : QueueConfig} {player : PlayerId} {now : Nat}

namespace Entry

variable {entry : Entry}

/-- The first attempt began too long ago. -/
def HasRunOut (entry : Entry) (config : QueueConfig) (now : Nat) : Prop :=
  ∃ first ∈ entry.firstAttemptAt, config.totalJoinTime ≤ now - first

/-- The attempt that is under way began too long ago. -/
def HasLapsed (entry : Entry) (config : QueueConfig) (now : Nat) : Prop :=
  entry.state = .joining ∧ ∃ started ∈ entry.attemptStartedAt, config.joinTimeout ≤ now - started

theorem isOverBudget_iff : entry.isOverBudget config now ↔ entry.HasRunOut config now := by
  simp [isOverBudget, HasRunOut, Option.any_eq_true]

theorem isAttemptExpired_iff : entry.isAttemptExpired config now ↔ entry.HasLapsed config now := by
  simp [isAttemptExpired, HasLapsed, Option.any_eq_true, isJoining_iff]

instance (entry : Entry) (config : QueueConfig) (now : Nat) :
    Decidable (entry.HasRunOut config now) :=
  decidable_of_iff _ isOverBudget_iff

instance (entry : Entry) (config : QueueConfig) (now : Nat) :
    Decidable (entry.HasLapsed config now) :=
  decidable_of_iff _ isAttemptExpired_iff

/-- Why a pass takes an entry out of the queue, if it does. -/
def departure? (entry : Entry) (config : QueueConfig) (now : Nat) : Option DequeueReason :=
  if entry.HasRunOut config now then some .joinTimeout
  else if entry.HasLapsed config now ∧ config.maxJoinAttempts ≤ entry.attempts then
    some .maxJoinAttemptsReached
  else none

/-- An entry that stays: whose attempt has lapsed waits for another one. -/
def settled (entry : Entry) (config : QueueConfig) (now : Nat) : Entry :=
  if entry.HasLapsed config now then { entry with state := .waiting, attemptStartedAt := none }
  else entry

@[simp]
theorem player_settled (entry : Entry) (config : QueueConfig) (now : Nat) :
    (entry.settled config now).player = entry.player := by
  simp only [settled]
  split_ifs <;> rfl

/-- The time for joining is looked at first.  So an attempt that has lapsed is the last one, or the
entry waits again. -/
theorem age_eq (entry : Entry) (config : QueueConfig) (now : Nat) :
    entry.age config now =
      match entry.departure? config now with
      | some reason => .error reason
      | none => .ok (entry.settled config now) := by
  by_cases hout : entry.HasRunOut config now
  · simp [age, departure?, isOverBudget_iff, hout]
  · by_cases hlapsed : entry.HasLapsed config now
    · by_cases hattempts : config.maxJoinAttempts ≤ entry.attempts
      · simp [age, retry, departure?, isOverBudget_iff, isAttemptExpired_iff, hout, hlapsed,
          hattempts]
      · simp [age, retry, departure?, settled, isOverBudget_iff, isAttemptExpired_iff, hout,
          hlapsed, hattempts]
    · simp [age, departure?, settled, isOverBudget_iff, isAttemptExpired_iff, hout, hlapsed]

end Entry

namespace Queue

variable {queue : Queue} {entries : List Entry}

/-! ## Departures -/

def staying (config : QueueConfig) (now : Nat) (entries : List Entry) : List Entry :=
  (entries.filter fun entry => entry.departure? config now = none).map (·.settled config now)

def departures (config : QueueConfig) (now : Nat) (entries : List Entry) : List QueueEvent :=
  entries.filterMap fun entry => (entry.departure? config now).map (.dequeued entry.player)

theorem ageAll_eq (config : QueueConfig) (now : Nat) (entries : List Entry) :
    ageAll config now entries = (staying config now entries, departures config now entries) := by
  induction entries with
  | nil => rfl
  | cons entry rest ih =>
      rw [ageAll, ih, Entry.age_eq]
      cases hdeparture : entry.departure? config now with
      | none => simp [staying, departures, hdeparture]
      | some reason => simp [staying, departures, hdeparture]

theorem mem_players_staying_iff : player ∈ (staying config now entries).map (·.player) ↔
    ∃ entry ∈ entries, entry.player = player ∧ entry.departure? config now = none := by
  simp [staying, and_comm, and_left_comm]

theorem dequeued_mem_departures_iff {reason : DequeueReason} :
    .dequeued player reason ∈ departures config now entries ↔
      ∃ entry ∈ entries, entry.player = player ∧ entry.departure? config now = some reason := by
  simp [departures, and_comm]

/-! ## Attempts -/

/-- The number of those who wait before a place. -/
def waitingBefore (entries : List Entry) (place : Nat) : Nat :=
  (entries.take place).countP (·.isWaiting)

theorem waitingBefore_zero (entries : List Entry) : waitingBefore entries 0 = 0 := by
  rw [waitingBefore, List.take_zero, List.countP_nil]

theorem waitingBefore_cons (entry : Entry) (rest : List Entry) (place : Nat) :
    waitingBefore (entry :: rest) (place + 1) =
      waitingBefore rest place + if entry.isWaiting then 1 else 0 := by
  rw [waitingBefore, List.take_succ_cons, List.countP_cons, waitingBefore]

/-- The first of those who wait have begun an attempt. -/
def begun (now count : Nat) (entries : List Entry) : List Entry :=
  entries.mapIdx fun place entry =>
    if entry.isWaiting ∧ waitingBefore entries place < count then entry.promote now else entry

def invitations (count : Nat) (entries : List Entry) : List QueueEvent :=
  ((entries.filter (·.isWaiting)).take count).map fun entry =>
    .join entry.player (entry.attempts + 1)

theorem begun_zero (now : Nat) (entries : List Entry) : begun now 0 entries = entries := by
  simp [begun, List.mapIdx_eq_iff]

theorem begun_cons_of_waiting {entry : Entry} (hwaiting : entry.isWaiting) (now count : Nat)
    (rest : List Entry) :
    begun now (count + 1) (entry :: rest) = entry.promote now :: begun now count rest := by
  simp [begun, List.mapIdx_cons, waitingBefore_zero, waitingBefore_cons, hwaiting]

theorem begun_cons_of_not_waiting {entry : Entry} (hwaiting : ¬entry.isWaiting) (now count : Nat)
    (rest : List Entry) : begun now count (entry :: rest) = entry :: begun now count rest := by
  simp [begun, List.mapIdx_cons, waitingBefore_cons, hwaiting]

theorem invitations_cons_of_waiting {entry : Entry} (hwaiting : entry.isWaiting) (count : Nat)
    (rest : List Entry) :
    invitations (count + 1) (entry :: rest) =
      .join entry.player (entry.attempts + 1) :: invitations count rest := by
  simp [invitations, hwaiting]

theorem invitations_cons_of_not_waiting {entry : Entry} (hwaiting : ¬entry.isWaiting) (count : Nat)
    (rest : List Entry) : invitations count (entry :: rest) = invitations count rest := by
  simp [invitations, hwaiting]

theorem dequeued_not_mem_invitations {reason : DequeueReason} {count : Nat} :
    .dequeued player reason ∉ invitations count entries := by
  intro hevent
  obtain ⟨entry, -, hjoin⟩ := List.mem_map.mp hevent
  exact absurd hjoin (by simp)

theorem promoteFirst_eq (now room : Nat) (entries : List Entry) :
    promoteFirst now room entries = (begun now room entries, invitations room entries) := by
  induction entries generalizing room with
  | nil => cases room <;> rfl
  | cons entry rest ih =>
      cases room with
      | zero =>
          rw [begun_zero]
          rfl
      | succ room =>
          simp only [promoteFirst, ih]
          split_ifs with hwaiting
          · rw [begun_cons_of_waiting hwaiting, invitations_cons_of_waiting hwaiting]
            rfl
          · rw [begun_cons_of_not_waiting hwaiting, invitations_cons_of_not_waiting hwaiting]

/-- There cannot be more attempts than there are players who wait. -/
theorem begun_min (now room : Nat) (entries : List Entry) :
    begun now (min (entries.countP (·.isWaiting)) room) entries = begun now room entries := by
  induction entries generalizing room with
  | nil => rfl
  | cons entry rest ih =>
      by_cases hwaiting : entry.isWaiting
      · cases room with
        | zero => rw [Nat.min_zero]
        | succ room =>
            rw [List.countP_cons_of_pos hwaiting, Nat.add_min_add_right,
              begun_cons_of_waiting hwaiting, begun_cons_of_waiting hwaiting, ih]
      · rw [List.countP_cons_of_neg hwaiting, begun_cons_of_not_waiting hwaiting,
          begun_cons_of_not_waiting hwaiting, ih]

theorem invitations_min (room : Nat) (entries : List Entry) :
    invitations (min (entries.countP (·.isWaiting)) room) entries = invitations room entries := by
  rw [invitations, invitations, List.countP_eq_length_filter, Nat.min_comm, ← List.take_eq_take_min]

theorem players_begun (now count : Nat) (entries : List Entry) :
    (begun now count entries).map (·.player) = entries.map (·.player) := by
  have hplayers := players_promoteFirst now count entries
  rwa [promoteFirst_eq] at hplayers

/-- Nobody begins an attempt while one who stands before goes on waiting. -/
theorem pairwise_begun (hnodup : (entries.map (·.player)).Nodup) (now count : Nat) :
    (begun now count entries).Pairwise fun earlier later =>
      earlier.isWaiting → ∀ attempt, .join later.player attempt ∉ invitations count entries := by
  induction entries generalizing count with
  | nil => exact List.Pairwise.nil
  | cons entry rest ih =>
      rw [List.map_cons, List.nodup_cons] at hnodup
      by_cases hwaiting : entry.isWaiting
      · cases count with
        | zero => simp [invitations, List.pairwise_of_forall]
        | succ count =>
            rw [begun_cons_of_waiting hwaiting, invitations_cons_of_waiting hwaiting,
              List.pairwise_cons]
            constructor
            · intro later _ hwaits
              exact absurd hwaits (by simp [Entry.promote, Entry.isWaiting])
            -- Of those behind, none is the player who has just been told.
            · refine (ih hnodup.2 count).imp_of_mem ?_
              intro earlier later _ hlater hrest hwaits attempt hjoin
              have hother : later.player ∈ rest.map (·.player) := by
                rw [← players_begun now count]
                exact List.mem_map_of_mem hlater
              rcases List.mem_cons.mp hjoin with hentry | hjoin
              · exact hnodup.1 ((QueueEvent.join.inj hentry).1 ▸ hother)
              · exact hrest hwaits attempt hjoin
      · rw [begun_cons_of_not_waiting hwaiting, invitations_cons_of_not_waiting hwaiting,
          List.pairwise_cons]
        exact ⟨fun later _ hwaits => absurd hwaits hwaiting, ih hnodup.2 count⟩

/-! ## Positions -/

def numbered (before : Nat) (entries : List Entry) : List Entry :=
  entries.mapIdx fun place entry =>
    if entry.isWaiting then
      { entry with reportedPosition := some (before + waitingBefore entries place + 1) }
    else entry

/-- What those are told whose position is another one. -/
def newPositions (queueLength before : Nat) (entries : List Entry) : List QueueEvent :=
  ((entries.filter (·.isWaiting)).zipIdx (before + 1)).filterMap fun (entry, position) =>
    if entry.reportedPosition = some position then none
    else some (.position entry.player position queueLength)

theorem numbered_cons (before : Nat) (entry : Entry) (rest : List Entry) :
    numbered before (entry :: rest) =
      if entry.isWaiting then
        { entry with reportedPosition := some (before + 1) } :: numbered (before + 1) rest
      else entry :: numbered before rest := by
  split_ifs with hwaiting
  · simp [numbered, List.mapIdx_cons, waitingBefore_zero, waitingBefore_cons, hwaiting,
      Nat.add_assoc, Nat.add_comm 1]
  · simp [numbered, List.mapIdx_cons, waitingBefore_cons, hwaiting]

theorem announce_eq (queueLength before : Nat) (entries : List Entry) :
    announce queueLength before entries =
      (numbered before entries, newPositions queueLength before entries) := by
  induction entries generalizing before with
  | nil => rfl
  | cons entry rest ih =>
      rw [numbered_cons]
      simp only [announce, ih]
      split_ifs with hwaiting hreported
      · have hsame : { entry with reportedPosition := some (before + 1) } = entry := by
          rw [← hreported]
        rw [hsame]
        simp [newPositions, hwaiting, hreported]
      · simp [newPositions, hwaiting, hreported]
      · simp [newPositions, hwaiting]

theorem map_numbered {α : Type} (value : Entry → α)
    (hvalue : ∀ entry position, value { entry with reportedPosition := position } = value entry)
    (before : Nat) (entries : List Entry) :
    (numbered before entries).map value = entries.map value := by
  induction entries generalizing before with
  | nil => rfl
  | cons entry rest ih =>
      rw [numbered_cons]
      split_ifs <;> simp only [List.map_cons, hvalue, ih]

/-! ## Passes -/

theorem process_eq (queue : Queue) (now : Nat) (slots : Option Count) :
    let left := staying queue.config now queue.entries
    let count := min (left.countP (·.isWaiting))
      ((slots.getD 1).toNat - left.countP (·.isJoining))
    (queue.process now slots).1.entries = numbered 0 (begun now count left) ∧
    (queue.process now slots).2 =
      departures queue.config now queue.entries ++ invitations count left ++
        newPositions left.length 0 (begun now count left) := by
  intro left count
  have hlength : (begun now count left).length = left.length := List.length_mapIdx
  simp only [process, ageAll_eq, promoteFirst_eq, announce_eq]
  rw [← begun_min, ← invitations_min, hlength]
  exact ⟨rfl, rfl⟩

theorem players_process (queue : Queue) (now : Nat) (slots : Option Count) :
    (queue.process now slots).1.players =
      (staying queue.config now queue.entries).map (·.player) := by
  rw [players, (queue.process_eq now slots).1, map_numbered _ fun _ _ => rfl, players_begun]

theorem mem_players_process_iff {slots : Option Count} :
    player ∈ (queue.process now slots).1.players ↔
      ∃ entry ∈ queue.entries, entry.player = player ∧
        entry.departure? queue.config now = none := by
  rw [players_process, mem_players_staying_iff]

theorem dequeued_mem_process_iff {slots : Option Count} {reason : DequeueReason} :
    .dequeued player reason ∈ (queue.process now slots).2 ↔
      ∃ entry ∈ queue.entries, entry.player = player ∧
        entry.departure? queue.config now = some reason := by
  rw [(queue.process_eq now slots).2, List.mem_append, List.mem_append,
    dequeued_mem_departures_iff]
  simp [dequeued_not_mem_invitations, newPositions]

theorem joiningCount_process (queue : Queue) (now : Nat) (slots : Option Count) :
    let left := staying queue.config now queue.entries
    let joining := left.countP (·.isJoining)
    let waiting := left.countP (·.isWaiting)
    (queue.process now slots).1.joiningCount =
      max joining (min (slots.getD 1).toNat (joining + waiting)) := by
  intro left joining waiting
  let room := (slots.getD 1).toNat - joining
  calc (queue.process now slots).1.joiningCount
      = (promoteFirst now room left).1.countP (·.isJoining) := by
        simp only [joiningCount, process, ageAll_eq, countP_isJoining_announce, room, joining, left]
    _ = joining + min waiting room := countP_isJoining_promoteFirst now room left
    _ = max joining (min (slots.getD 1).toNat (joining + waiting)) := by omega

/-- Nobody is invited to join past somebody who goes on waiting. -/
theorem pairwise_process (hnodup : queue.players.Nodup) (now : Nat) (slots : Option Count) :
    (queue.process now slots).1.entries.Pairwise fun earlier later =>
      earlier.isWaiting → ∀ attempt, .join later.player attempt ∉ (queue.process now slots).2 := by
  let left := staying queue.config now queue.entries
  obtain ⟨count, hentries, hevents⟩ : ∃ count,
      (queue.process now slots).1.entries = numbered 0 (begun now count left) ∧
      (queue.process now slots).2 = departures queue.config now queue.entries ++
        invitations count left ++ newPositions left.length 0 (begun now count left) :=
    ⟨_, queue.process_eq now slots⟩
  have hleft : (left.map (·.player)).Nodup := by
    rw [← players_process queue now slots]
    exact hnodup.sublist (queue.players_process_sublist now slots)
  have hjoin : ∀ player attempt, .join player attempt ∈ (queue.process now slots).2 →
      .join player attempt ∈ invitations count left := by
    simp [hevents, departures, newPositions]
  -- Numbers change neither who stands in a place nor what the player does.
  let doing : Entry → PlayerId × Bool := fun entry => (entry.player, entry.isWaiting)
  have hbegun : ((begun now count left).map doing).Pairwise fun earlier later =>
      earlier.2 → ∀ attempt, .join later.1 attempt ∉ (queue.process now slots).2 := by
    refine List.pairwise_map.mpr ((pairwise_begun hleft now count).imp ?_)
    exact fun hbehind hwaits attempt hevent => hbehind hwaits attempt (hjoin _ attempt hevent)
  rw [← map_numbered doing (fun _ _ => rfl) 0, ← hentries] at hbegun
  exact List.pairwise_map.mp hbegun

/-- Where the players differ, what is said of an entry of a player is said of the one entry. -/
theorem exists_entry_iff {entry : Entry} {holds : Entry → Prop} (hnodup : queue.players.Nodup)
    (hentry : entry ∈ queue.entries) :
    (∃ other ∈ queue.entries, other.player = entry.player ∧ holds other) ↔ holds entry := by
  constructor
  · rintro ⟨other, hother, hplayer, hholds⟩
    rwa [List.inj_on_of_nodup_map hnodup hother hentry hplayer] at hholds
  · exact fun hholds => ⟨entry, hentry, rfl, hholds⟩

/-- In the course of any run, a pass takes out exactly those whose time or attempts have run out,
and tells them why.  It leaves the others in place, begins as many attempts as there are slots free,
for the first of those who wait, and numbers the rest.  The departures are told first, then the
attempts, then the changes of position, each in the order of the queue. -/
theorem process_run (config : QueueConfig) (start : Nat) (calls : List (Nat × Call)) (now : Nat)
    (slots : Option Count) :
    let queue := (run config start calls).queue
    let capacity := (slots.getD 1).toNat
    let left := staying config now queue.entries
    let joining := left.countP (·.isJoining)
    let waiting := left.countP (·.isWaiting)
    let count := min waiting (capacity - joining)
    let after := (queue.process now slots).1
    let events := (queue.process now slots).2
    (∀ entry ∈ queue.entries,
      (entry.player ∈ after.players ↔ entry.departure? config now = none) ∧
      ∀ reason, .dequeued entry.player reason ∈ events ↔
        entry.departure? config now = some reason) ∧
    after.entries = numbered 0 (begun now count left) ∧
    events = departures config now queue.entries ++ invitations count left ++
      newPositions left.length 0 (begun now count left) ∧
    after.joiningCount = max joining (min capacity (joining + waiting)) ∧
    after.entries.Pairwise fun earlier later =>
      earlier.isWaiting → ∀ attempt, .join later.player attempt ∉ events := by
  intro queue capacity left joining waiting count after events
  have hqueue := (attended_run config start calls).queue
  have hconfig : queue.config = config := hqueue.config_eq
  have hprocess := queue.process_eq now slots
  have hjoining := queue.joiningCount_process now slots
  rw [hconfig] at hprocess hjoining
  refine ⟨fun entry hentry => ⟨?stays, fun reason => ?leaves⟩, hprocess.1, hprocess.2, hjoining,
    pairwise_process hqueue.nodup now slots⟩
  case stays => rw [mem_players_process_iff, hconfig, exists_entry_iff hqueue.nodup hentry]
  case leaves => rw [dequeued_mem_process_iff, hconfig, exists_entry_iff hqueue.nodup hentry]

/-- A player whose attempt has lapsed begins another one in the same pass, the next one gets the
second slot, and a third one is left to wait. -/
theorem process_run_lapsed :
    let calls := [(0, .enqueue 1), (0, .enqueue 2), (0, .enqueue 3), (0, .process none)]
    let queue := (run {} 0 calls).queue
    let after := (queue.process 30000 (some 2)).1
    let events := (queue.process 30000 (some 2)).2
    queue.entries.map (·.state) = [.joining, .waiting, .waiting] ∧
    events = [.join 1 2, .join 2 1, .position 3 1 3] ∧
    after.joiningCount = 2 ∧
    after.entries.Pairwise fun earlier later =>
      earlier.isWaiting → ∀ attempt, .join later.player attempt ∉ events := by
  intro calls queue after events
  obtain ⟨-, -, hevents, hjoining, horder⟩ := process_run {} 0 calls 30000 (some 2)
  exact ⟨by decide, hevents.trans (by decide), hjoining.trans (by decide), horder⟩

end Queue

end Muster
