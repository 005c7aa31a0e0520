import Muster.Proofs.Admission.Observer

/-!
# News

What one player hears in the course of sweeps over a queue.  Whoever stays hears of positions and
attempts only.  Whoever leaves hears of the departure last, and of it once.
-/

namespace Muster

variable {config : QueueConfig} {player : PlayerId}

/-- Tells a player where the player stands. -/
def QueueEvent.isNews : QueueEvent → Bool
  | .position _ _ _ => true
  | .join _ _ => true
  | .dequeued _ _ => false

open QueueEvent (about)

theorem Entry.Turn.isNews_of_told {entry changed : Entry} {told : List QueueEvent}
    (hturn : entry.Turn config changed told) : ∀ event ∈ told, event.isNews := by
  cases hturn <;> simp [QueueEvent.isNews]

/-- Whoever stays hears news only. -/
theorem Sweep.isNews_about {before after : List Entry} {events : List QueueEvent}
    (hsweep : Sweep config before after events) (hnodup : (before.map (·.player)).Nodup)
    (hafter : player ∈ after.map (·.player)) : ∀ event ∈ about player events, event.isNews := by
  induction hsweep with
  | nil => simp [about]
  | keep hturn hrest ih =>
      rw [List.map_cons, List.nodup_cons] at hnodup
      rw [List.map_cons, List.mem_cons, hturn.player_eq] at hafter
      rw [QueueEvent.about_append, List.forall_mem_append]
      constructor
      · intro event hevent
        exact hturn.isNews_of_told event (List.mem_filter.mp hevent).1
      · rcases hafter with rfl | hafter
        · rw [QueueEvent.about_eq_nil (hrest.ne_player hnodup.1)]
          simp
        · exact ih hnodup.2 hafter
  | drop entry reason hrest ih =>
      rw [List.map_cons, List.nodup_cons] at hnodup
      have hne : entry.player ≠ player := by
        rintro rfl
        exact hnodup.1 (hrest.players_sublist.mem hafter)
      rw [about, List.filter_cons_of_neg (by simpa [QueueEvent.player] using hne)]
      exact ih hnodup.2 hafter

/-- Whoever leaves in the course of a sweep hears of nothing else. -/
theorem Sweep.about_eq_dequeued {before after : List Entry} {events : List QueueEvent}
    (hsweep : Sweep config before after events) (hnodup : (before.map (·.player)).Nodup)
    (hbefore : player ∈ before.map (·.player)) (hafter : player ∉ after.map (·.player)) :
    ∃ reason, about player events = [.dequeued player reason] := by
  induction hsweep with
  | nil => exact absurd hbefore List.not_mem_nil
  | keep hturn _ ih =>
      rw [List.map_cons, List.nodup_cons] at hnodup
      rw [List.map_cons, List.mem_cons, not_or, hturn.player_eq] at hafter
      rw [List.map_cons, List.mem_cons] at hbefore
      rw [QueueEvent.about_append, QueueEvent.about_eq_nil, List.nil_append]
      · exact ih hnodup.2 (hbefore.resolve_left hafter.1) hafter.2
      · intro event hevent
        rw [hturn.player_of_told event hevent]
        exact Ne.symm hafter.1
  | drop entry reason hrest ih =>
      rw [List.map_cons, List.nodup_cons] at hnodup
      rw [List.map_cons, List.mem_cons] at hbefore
      by_cases hentry : entry.player = player
      · subst hentry
        have hothers := QueueEvent.about_eq_nil (hrest.ne_player hnodup.1)
        exact ⟨reason, by
          rw [about, List.filter_cons_of_pos (by simp [QueueEvent.player]), ← about, hothers]⟩
      · rw [about, List.filter_cons_of_neg (by simpa [QueueEvent.player] using hentry)]
        exact ih hnodup.2 (hbefore.resolve_left (Ne.symm hentry)) hafter

theorem Sweeps.about_eq_nil {before after : List Entry} {events : List QueueEvent}
    (hsweeps : Sweeps config before after events) (hbefore : player ∉ before.map (·.player)) :
    about player events = [] := by
  induction hsweeps with
  | none => rfl
  | next hsweep _ ih =>
      rw [QueueEvent.about_append, QueueEvent.about_eq_nil (hsweep.ne_player hbefore),
        List.nil_append]
      exact ih fun hbetween => hbefore (hsweep.players_sublist.mem hbetween)

/-- Of a player who stays, a sweep tells nothing but news. -/
theorem Sweeps.isNews_about {before after : List Entry} {events : List QueueEvent}
    (hsweeps : Sweeps config before after events) (hnodup : (before.map (·.player)).Nodup)
    (hafter : player ∈ after.map (·.player)) : ∀ event ∈ about player events, event.isNews := by
  induction hsweeps with
  | none => simp [about]
  | next hsweep hsweeps ih =>
      rw [QueueEvent.about_append, List.forall_mem_append]
      exact ⟨hsweep.isNews_about hnodup (hsweeps.players_sublist.mem hafter),
        ih (hnodup.sublist hsweep.players_sublist) hafter⟩

/-- Whoever leaves hears news first, then of the departure, and of nothing afterwards. -/
theorem Sweeps.about_eq_append_dequeued {before after : List Entry} {events : List QueueEvent}
    (hsweeps : Sweeps config before after events) (hnodup : (before.map (·.player)).Nodup)
    (hbefore : player ∈ before.map (·.player)) (hafter : player ∉ after.map (·.player)) :
    ∃ news reason, about player events = news ++ [.dequeued player reason] ∧
      ∀ event ∈ news, event.isNews := by
  induction hsweeps with
  | none => exact absurd hbefore hafter
  | @next before between after events others hsweep hsweeps ih =>
      rw [QueueEvent.about_append]
      by_cases hbetween : player ∈ between.map (·.player)
      · obtain ⟨news, reason, hothers, hnews⟩ :=
          ih (hnodup.sublist hsweep.players_sublist) hbetween hafter
        refine ⟨about player events ++ news, reason, ?_, ?_⟩
        · rw [hothers, List.append_assoc]
        · rw [List.forall_mem_append]
          exact ⟨hsweep.isNews_about hnodup hbetween, hnews⟩
      · obtain ⟨reason, hevents⟩ := hsweep.about_eq_dequeued hnodup hbefore hbetween
        refine ⟨[], reason, ?_, by simp⟩
        rw [hevents, hsweeps.about_eq_nil hbetween]
        rfl

/-- Whoever was not known of before and is in the queue after a pass has been told something. -/
theorem Queue.IsAnnounced.about_ne_nil {queue : Queue} {observer : Observer}
    {events : List QueueEvent} (hannounced : queue.IsAnnounced)
    (htracks : (observer.hearAll events).Tracks queue.entries) (hunknown : observer player = none)
    (hplayer : queue.contains player) : about player events ≠ [] := by
  intro hsilent
  have hunheard : ∀ event ∈ events, event.player ≠ player := by
    intro event hevent hsame
    have habout : event ∈ about player events :=
      List.mem_filter.mpr ⟨hevent, beq_iff_eq.mpr hsame⟩
    rw [hsilent] at habout
    exact absurd habout List.not_mem_nil
  rw [← Queue.standing?_isSome_iff, ← hannounced.eq_standing? htracks,
    Observer.hearAll_of_forall_ne hunheard, hunknown] at hplayer
  exact absurd hplayer (by simp)

end Muster
