import Muster.Proofs.Admission.Servers

/-!
# Entries of the present moment

Groups are handed over without any time passing.  An entry whose attempts began at this very moment
has neither run out of the time for joining nor out of the time for its attempt, provided that both
times are positive.  So no pass of the moment takes the player away, however often passes take
place.
-/

namespace Muster

variable {player : PlayerId} {now : Nat}

/-- There is time for joining and for each attempt. -/
structure QueueConfig.HasTime (config : QueueConfig) : Prop where
  totalJoinTime : 0 < config.totalJoinTime
  joinTimeout : 0 < config.joinTimeout

/-- The attempts of the entry, if there are any, began at this moment. -/
structure Entry.IsRecent (entry : Entry) (now : Nat) : Prop where
  first : ∀ first ∈ entry.firstAttemptAt, first = now
  started : ∀ started ∈ entry.attemptStartedAt, started = now

theorem Entry.isRecent_arrive (player : PlayerId) (now : Nat) : (arrive player).IsRecent now :=
  ⟨by simp [arrive], by simp [arrive]⟩

theorem Entry.isRecent_promote {entry : Entry} (hrecent : entry.IsRecent now) :
    (entry.promote now).IsRecent now := by
  constructor
  · intro first hfirst
    cases hentry : entry.firstAttemptAt with
    | none => simpa [promote, hentry, eq_comm] using hfirst
    | some earlier =>
        have hearlier := hrecent.first earlier hentry
        simpa [promote, hentry, hearlier, eq_comm] using hfirst
  · intro started hstarted
    simpa [promote, eq_comm] using hstarted

/-- No time has passed since this moment. -/
theorem any_elapsed_eq_false {since : Option Nat} {limit : Nat} (hlimit : 0 < limit)
    (hsince : ∀ start ∈ since, start = now) :
    since.any (fun start => limit ≤ now - start) = false := by
  cases since with
  | none => rfl
  | some start =>
      have hstart := hsince start rfl
      simpa [hstart] using Nat.pos_iff_ne_zero.mp hlimit

theorem Entry.age_of_isRecent {entry : Entry} {config : QueueConfig} (hconfig : config.HasTime)
    (hrecent : entry.IsRecent now) : entry.age config now = .ok entry := by
  have hbudget : entry.isOverBudget config now = false :=
    any_elapsed_eq_false hconfig.totalJoinTime hrecent.first
  have hattempt : entry.isAttemptExpired config now = false := by
    rw [isAttemptExpired, any_elapsed_eq_false hconfig.joinTimeout hrecent.started, Bool.and_false]
  simp [age, hbudget, hattempt]

namespace Queue

variable {queue next : Queue}

def HasRecent (entries : List Entry) (player : PlayerId) (now : Nat) : Prop :=
  ∃ entry ∈ entries, entry.player = player ∧ entry.IsRecent now

theorem hasRecent_cons {entry : Entry} {rest : List Entry} :
    HasRecent (entry :: rest) player now ↔
      (entry.player = player ∧ entry.IsRecent now) ∨ HasRecent rest player now := by
  simp [HasRecent]

/-- An attempt that has just begun has not lapsed. -/
theorem hasRecent_ageAll {config : QueueConfig} (hconfig : config.HasTime) {entries : List Entry}
    (hentries : HasRecent entries player now) :
    HasRecent (ageAll config now entries).1 player now := by
  obtain ⟨entry, hentry, hplayer, hrecent⟩ := hentries
  refine ⟨entry, ?_, hplayer, hrecent⟩
  rw [ageAll_fst, List.mem_filterMap]
  exact ⟨entry, hentry, by rw [Entry.age_of_isRecent hconfig hrecent]; rfl⟩

theorem hasRecent_promoteFirst {room : Nat} {entries : List Entry}
    (hentries : HasRecent entries player now) :
    HasRecent (promoteFirst now room entries).1 player now := by
  induction entries generalizing room with
  | nil => cases room <;> exact hentries
  | cons entry rest ih =>
      cases room with
      | zero => exact hentries
      | succ room =>
          rw [hasRecent_cons] at hentries
          simp only [promoteFirst]
          split_ifs
          · rw [hasRecent_cons]
            rcases hentries with ⟨hplayer, hrecent⟩ | hrest
            · exact Or.inl ⟨hplayer, Entry.isRecent_promote hrecent⟩
            · exact Or.inr (ih hrest)
          · rw [hasRecent_cons]
            rcases hentries with hentry | hrest
            · exact Or.inl hentry
            · exact Or.inr (ih hrest)

theorem hasRecent_announce {queueLength before : Nat} {entries : List Entry}
    (hentries : HasRecent entries player now) :
    HasRecent (announce queueLength before entries).1 player now := by
  induction entries generalizing before with
  | nil => exact hentries
  | cons entry rest ih =>
      rw [hasRecent_cons] at hentries
      have hrest : ∀ before, HasRecent rest player now →
          HasRecent (announce queueLength before rest).1 player now :=
        fun before => ih
      simp only [announce]
      -- Neither the player nor the times of an entry depend on the position that was reported.
      split_ifs <;> rw [hasRecent_cons] <;>
        exact hentries.imp (fun hentry => ⟨hentry.1, ⟨hentry.2.first, hentry.2.started⟩⟩) (hrest _)

def Seats (queue : Queue) (player : PlayerId) (now : Nat) : Prop :=
  HasRecent queue.entries player now

theorem Seats.contains (hseats : queue.Seats player now) : queue.contains player := by
  obtain ⟨entry, hentry, hplayer, -⟩ := hseats
  exact contains_iff.mpr (hplayer ▸ List.mem_map_of_mem hentry)

theorem seats_process (hconfig : queue.config.HasTime) (hseats : queue.Seats player now)
    (slots : Option Count) : (queue.process now slots).1.Seats player now := by
  obtain ⟨room, queueLength, hentries⟩ := process_fst queue now slots
  rw [Seats, hentries]
  exact hasRecent_announce (hasRecent_promoteFirst (hasRecent_ageAll hconfig hseats))

theorem length_process_le (queue : Queue) (now : Nat) (slots : Option Count) :
    (queue.process now slots).1.length ≤ queue.length := by
  rw [← length_players, ← length_players]
  exact (players_process_sublist queue now slots).length_le

end Queue

end Muster
