import Muster.Admission.Queue
import Muster.Proofs.Parts

/-!
# Players of a queue

Which players a queue holds, in the order of their arrival.  Players come in through `enqueue`
alone, at the end.  Every other operation leaves out some of them and keeps the order of the rest.
-/

namespace Muster

/-- What a report on an attempt makes of an entry, or the reason why it leaves. -/
def Entry.report (config : QueueConfig) (now : Nat) (result : JoinResult) (entry : Entry) :
    Except DequeueReason Entry :=
  match result with
  | .joined => .error .joined
  | .rejected => .error .joinFailed
  | .failed serverFull =>
    if entry.isJoining then (entry.forgive config serverFull).retry config now else .ok entry

namespace Queue

variable {queue next : Queue} {player : PlayerId} {now : Nat} {events : List QueueEvent}
variable {entries : List Entry}

def players (queue : Queue) : List PlayerId :=
  queue.entries.map (·.player)

@[simp]
theorem players_empty (config : QueueConfig) (now : Nat) : (empty config now).players = [] := rfl

theorem isEmpty_iff : queue.isEmpty ↔ queue.players = [] := by
  simp [isEmpty, players]

theorem length_players (queue : Queue) : queue.players.length = queue.length :=
  List.length_map _

theorem contains_iff : queue.contains player ↔ player ∈ queue.players := by
  simp [contains, find?, players]

/-! ## Coming in -/

/-- Whoever joins comes in last. -/
theorem enqueue_eq_ok (henqueue : queue.enqueue player now = (next, .ok ())) :
    player ∉ queue.players ∧
      next = { queue with
        entries := queue.entries ++ [Entry.arrive player], lastActivity := now } := by
  simp only [enqueue] at henqueue
  split_ifs at henqueue with hcontains hfull
  case pos => cases (Prod.mk.inj henqueue).2
  case pos => cases (Prod.mk.inj henqueue).2
  case neg => exact ⟨by rwa [contains_iff] at hcontains, (Prod.mk.inj henqueue).1.symm⟩

/-- A player who is refused does not change the queue. -/
theorem enqueue_of_error {error : QueueError}
    (herror : (queue.enqueue player now).2 = .error error) :
    (queue.enqueue player now).1 = queue := by
  rw [enqueue] at herror ⊢
  split_ifs at herror ⊢
  · rfl
  · rfl

theorem enqueue_cases (queue : Queue) (player : PlayerId) (now : Nat) :
    (∃ error, queue.enqueue player now = (queue, .error error)) ∨
      ∃ next, queue.enqueue player now = (next, .ok ()) := by
  rw [enqueue]
  split_ifs
  · exact Or.inl ⟨.alreadyQueued, rfl⟩
  · exact Or.inl ⟨.queueFull, rfl⟩
  · exact Or.inr ⟨_, rfl⟩

theorem players_enqueue (henqueue : queue.enqueue player now = (next, .ok ())) :
    next.players = queue.players ++ [player] := by
  obtain ⟨-, rfl⟩ := enqueue_eq_ok henqueue
  simp [players, Entry.arrive]

/-! ## Going out -/

theorem remove_eq_some {reason : DequeueReason} {event : QueueEvent}
    (hremove : queue.remove player reason now = some (next, event)) :
    player ∈ queue.players ∧ event = .dequeued player reason ∧
      next = { queue with
        entries := queue.entries.eraseP fun entry => entry.player == player
        lastActivity := now } := by
  simp only [remove] at hremove
  split_ifs at hremove with hcontains
  obtain ⟨rfl, rfl⟩ := Prod.mk.inj (Option.some.inj hremove)
  exact ⟨contains_iff.mp hcontains, rfl, rfl⟩

theorem players_remove_sublist {reason : DequeueReason} {event : QueueEvent}
    (hremove : queue.remove player reason now = some (next, event)) :
    next.players.Sublist queue.players := by
  obtain ⟨-, -, rfl⟩ := remove_eq_some hremove
  exact List.eraseP_sublist.map _

/-! ## Settling an entry -/

/-- What becomes of the others does not depend on the step. -/
theorem settle_congr {entry : Entry} {step other : Entry → Except DequeueReason Entry}
    (hfind : (entries.find? fun entry => entry.player == player) = some entry)
    (hsame : step entry = other entry) :
    settle player step entries = settle player other entries := by
  induction entries with
  | nil => rfl
  | cons first rest ih =>
      simp only [settle]
      split_ifs with hplayer
      · rw [List.find?_cons_of_pos (by simpa using hplayer)] at hfind
        rw [Option.some.inj hfind, hsame]
      · rw [List.find?_cons_of_neg (by simpa using hplayer)] at hfind
        rw [ih hfind]

theorem settle_ok (player : PlayerId) (entries : List Entry) :
    settle player .ok entries = (entries, []) := by
  induction entries with
  | nil => rfl
  | cons first rest ih =>
      simp only [settle, ih]
      split_ifs <;> rfl

/-- A reporter whose attempt is refused leaves the queue and is told why. -/
theorem settle_error (hplayer : player ∈ entries.map (·.player)) (reason : DequeueReason) :
    settle player (fun _ => .error reason) entries =
      (entries.eraseP fun entry => entry.player == player, [.dequeued player reason]) := by
  induction entries with
  | nil => exact absurd hplayer List.not_mem_nil
  | cons first rest ih =>
      simp only [settle]
      split_ifs with hfirst
      · rw [List.eraseP_cons_of_pos (by simpa using hfirst)]
      · rw [List.map_cons, List.mem_cons] at hplayer
        rw [List.eraseP_cons_of_neg (by simpa using hfirst),
          ih (hplayer.resolve_left (Ne.symm hfirst))]

theorem remove_eq_settle {reason : DequeueReason} {event : QueueEvent}
    (hremove : queue.remove player reason now = some (next, event)) :
    (next.entries, [event]) = settle player (fun _ => .error reason) queue.entries := by
  obtain ⟨hplayer, rfl, rfl⟩ := remove_eq_some hremove
  rw [settle_error hplayer]

/-- Settling may take the reporter out, and moves nobody. -/
theorem players_settle_sublist {step : Entry → Except DequeueReason Entry}
    (hstep : ∀ entry other, step entry = .ok other → other.player = entry.player)
    (player : PlayerId) (entries : List Entry) :
    ((settle player step entries).1.map (·.player)).Sublist (entries.map (·.player)) := by
  induction entries with
  | nil => exact .refl _
  | cons entry rest ih =>
      simp only [settle]
      split_ifs with hplayer
      · cases hentry : step entry with
        | ok other =>
            rw [List.map_cons, List.map_cons, hstep entry other hentry]
        | error reason => exact List.sublist_cons_self _ _
      · exact ih.cons_cons _

theorem player_forgive (entry : Entry) (config : QueueConfig) (serverFull : Bool) :
    (entry.forgive config serverFull).player = entry.player := by
  simp only [Entry.forgive]
  split_ifs <;> rfl

theorem player_retry {entry other : Entry} {config : QueueConfig}
    (hretry : entry.retry config now = .ok other) : other.player = entry.player := by
  simp only [Entry.retry] at hretry
  split_ifs at hretry
  exact (Except.ok.inj hretry) ▸ rfl

theorem player_age {entry other : Entry} {config : QueueConfig}
    (hage : entry.age config now = .ok other) : other.player = entry.player := by
  simp only [Entry.age] at hage
  split_ifs at hage
  · exact player_retry hage
  · exact (Except.ok.inj hage) ▸ rfl

theorem player_report {entry other : Entry} {config : QueueConfig} {result : JoinResult}
    (hreport : entry.report config now result = .ok other) : other.player = entry.player := by
  cases result with
  | joined | rejected => simp [Entry.report] at hreport
  | failed serverFull =>
      rw [Entry.report] at hreport
      split_ifs at hreport
      · rw [player_retry hreport, player_forgive]
      · rw [Except.ok.inj hreport]

/-- A report that is refused does not change the queue. -/
theorem acknowledge_of_error {result : JoinResult} {error : QueueError}
    (herror : (queue.acknowledge player result now).2 = .error error) :
    (queue.acknowledge player result now).1 = queue := by
  rw [acknowledge] at herror ⊢
  cases hfind : queue.find? player with
  | none => rfl
  | some entry => simp [hfind] at herror

theorem acknowledge_cases (queue : Queue) (player : PlayerId) (result : JoinResult) (now : Nat) :
    (∃ error, queue.acknowledge player result now = (queue, .error error)) ∨
      ∃ next events, queue.acknowledge player result now = (next, .ok events) := by
  rw [acknowledge]
  cases queue.find? player with
  | none => exact Or.inl ⟨.notQueued, rfl⟩
  | some entry => exact Or.inr ⟨_, _, rfl⟩

/-- A report settles the entry of the player who reports. -/
theorem acknowledge_eq_ok {result : JoinResult}
    (hacknowledge : queue.acknowledge player result now = (next, .ok events)) :
    let settled := settle player (Entry.report queue.config now result) queue.entries
    player ∈ queue.players ∧ events = settled.2 ∧
      next = { queue with entries := settled.1, lastActivity := now } := by
  intro settled
  simp only [acknowledge] at hacknowledge
  cases hfind : queue.find? player with
  | none => simp [hfind] at hacknowledge
  | some entry =>
      have hcontains : queue.contains player := by simp [contains, hfind]
      have hplayer := contains_iff.mp hcontains
      rw [hfind] at hacknowledge
      cases result with
      | joined | rejected =>
          simp only [remove, hcontains, if_true, Prod.mk.injEq, Except.ok.injEq] at hacknowledge
          obtain ⟨rfl, rfl⟩ := hacknowledge
          have hsettled : settled = _ := settle_error hplayer _
          exact ⟨hplayer, by rw [hsettled], by rw [hsettled]⟩
      | failed serverFull =>
          simp only [Prod.mk.injEq, Except.ok.injEq] at hacknowledge
          obtain ⟨rfl, rfl⟩ := hacknowledge
          split_ifs with hjoining
          · have hsettled : settled = settle player
                (fun entry => (entry.forgive queue.config serverFull).retry queue.config now)
                queue.entries := settle_congr hfind (if_pos hjoining)
            exact ⟨hplayer, by rw [hsettled, failAttempt], by rw [hsettled, failAttempt]⟩
          · have hsettled : settled = (queue.entries, []) :=
              (settle_congr hfind (if_neg hjoining)).trans (settle_ok player queue.entries)
            exact ⟨hplayer, by rw [hsettled], by rw [hsettled]⟩

theorem players_acknowledge_sublist {result : JoinResult}
    (hacknowledge : queue.acknowledge player result now = (next, .ok events)) :
    next.players.Sublist queue.players := by
  obtain ⟨-, -, rfl⟩ := acknowledge_eq_ok hacknowledge
  exact players_settle_sublist (fun _ _ => player_report) player queue.entries

/-! ## Passes -/

/-- The entries that age keeps, each as age leaves it. -/
theorem ageAll_fst (config : QueueConfig) (now : Nat) (entries : List Entry) :
    (ageAll config now entries).1 =
      entries.filterMap fun entry => (entry.age config now).toOption := by
  induction entries with
  | nil => rfl
  | cons entry rest ih =>
      rw [List.filterMap_cons, ← ih]
      simp only [ageAll]
      cases entry.age config now <;> rfl

theorem players_ageAll_sublist (config : QueueConfig) (now : Nat) (entries : List Entry) :
    ((ageAll config now entries).1.map (·.player)).Sublist (entries.map (·.player)) := by
  rw [ageAll_fst]
  apply Parts.map_filterMap_sublist
  intro entry _ other haged
  cases hage : entry.age config now with
  | error reason => simp [hage, Except.toOption] at haged
  | ok kept =>
      obtain rfl : kept = other := by simpa [hage, Except.toOption] using haged
      exact player_age hage

@[simp]
theorem players_promoteFirst (now room : Nat) (entries : List Entry) :
    (promoteFirst now room entries).1.map (·.player) = entries.map (·.player) := by
  induction entries generalizing room with
  | nil => cases room <;> rfl
  | cons entry rest ih =>
      cases room with
      | zero => rfl
      | succ room =>
          simp only [promoteFirst]
          split_ifs
          · rw [List.map_cons, List.map_cons, ih]
            rfl
          · rw [List.map_cons, List.map_cons, ih]

@[simp]
theorem players_announce (queueLength before : Nat) (entries : List Entry) :
    (announce queueLength before entries).1.map (·.player) = entries.map (·.player) := by
  induction entries generalizing before with
  | nil => rfl
  | cons entry rest ih =>
      simp only [announce]
      split_ifs <;> simp only [List.map_cons, ih]

theorem process_fst (queue : Queue) (now : Nat) (slots : Option Count) :
    ∃ room queueLength, (queue.process now slots).1.entries =
      (announce queueLength 0
        (promoteFirst now room (ageAll queue.config now queue.entries).1).1).1 :=
  ⟨_, _, rfl⟩

theorem players_process_sublist (queue : Queue) (now : Nat) (slots : Option Count) :
    (queue.process now slots).1.players.Sublist queue.players := by
  obtain ⟨room, queueLength, hentries⟩ := process_fst queue now slots
  rw [players, hentries, players_announce, players_promoteFirst]
  exact players_ageAll_sublist queue.config now queue.entries

end Queue

end Muster
