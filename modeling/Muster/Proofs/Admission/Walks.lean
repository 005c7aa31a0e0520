import Mathlib.Tactic.SplitIfs
import Muster.Proofs.Admission.Players

/-!
# Walks over a queue

Most operations walk over the entries from the first to the last, and what becomes of an entry
depends on that entry alone, and on how many came before.  So what such a walk means to one player
can be said without the others: the player's own entry takes one step, and the player hears of that
step and of nothing else.
-/

namespace Muster

def QueueEvent.about (player : PlayerId) (events : List QueueEvent) : List QueueEvent :=
  events.filter fun event => event.player == player

open QueueEvent (about)

theorem QueueEvent.about_nil (player : PlayerId) : about player [] = [] := by
  rw [about, List.filter_nil]

@[simp]
theorem QueueEvent.about_append (player : PlayerId) (events others : List QueueEvent) :
    about player (events ++ others) = about player events ++ about player others :=
  List.filter_append _ _

theorem QueueEvent.about_eq_nil {player : PlayerId} {events : List QueueEvent}
    (hevents : ∀ event ∈ events, event.player ≠ player) : about player events = [] := by
  rw [about, List.filter_eq_nil_iff]
  intro event hevent
  simpa using hevents event hevent

/-- A walk over entries.  Each takes a step: it stays, changed or not, or it leaves, and its player
is told something.  -/
inductive Walk (step : Entry → Option Entry → List QueueEvent → Prop) :
    List Entry → List Entry → List QueueEvent → Prop where
  | nil : Walk step [] [] []
  | cons {entry : Entry} {outcome : Option Entry} {rest kept : List Entry}
      {told events : List QueueEvent} (hstep : step entry outcome told)
      (hrest : Walk step rest kept events) :
      Walk step (entry :: rest) (outcome.toList ++ kept) (told ++ events)

/-- What a walk means to one player. -/
inductive Walk.Meets (step : Entry → Option Entry → List QueueEvent → Prop) :
    Option Entry → Option Entry → List QueueEvent → Prop where
  | absent : Meets step none none []
  | present {entry : Entry} {outcome : Option Entry} {told : List QueueEvent}
      (hstep : step entry outcome told) : Meets step (some entry) outcome told

/-- A step concerns nobody but the player of the entry. -/
def IsOwn (step : Entry → Option Entry → List QueueEvent → Prop) : Prop :=
  ∀ entry outcome told, step entry outcome told →
    (∀ other ∈ outcome, other.player = entry.player) ∧ ∀ event ∈ told, event.player = entry.player

namespace Walk

variable {step : Entry → Option Entry → List QueueEvent → Prop} {before after : List Entry}
variable {events : List QueueEvent}

/-- A walk brings in nobody, and tells of nobody who is not there. -/
theorem mem_players (hown : IsOwn step) (hwalk : Walk step before after events) :
    (∀ entry ∈ after, entry.player ∈ before.map (·.player)) ∧
      ∀ event ∈ events, event.player ∈ before.map (·.player) := by
  induction hwalk with
  | nil => simp
  | @cons entry outcome rest kept told events hstep _ ih =>
      obtain ⟨houtcome, htold⟩ := hown entry outcome told hstep
      simp only [List.map_cons, List.mem_cons, List.mem_append, Option.mem_toList]
      constructor
      · rintro other (hother | hother)
        · exact Or.inl (houtcome other hother)
        · exact Or.inr (ih.1 other hother)
      · rintro event (hevent | hevent)
        · exact Or.inl (htold event hevent)
        · exact Or.inr (ih.2 event hevent)

/-- A player takes the step of the player's own entry, and hears of that. -/
theorem meets (hown : IsOwn step) (hwalk : Walk step before after events)
    (hnodup : (before.map (·.player)).Nodup) (player : PlayerId) :
    Meets step (before.find? fun entry => entry.player == player)
      (after.find? fun entry => entry.player == player) (about player events) := by
  induction hwalk with
  | nil => exact .absent
  | @cons entry outcome rest kept told events hstep hrest ih =>
      rw [List.map_cons, List.nodup_cons] at hnodup
      obtain ⟨houtcome, htold⟩ := hown entry outcome told hstep
      obtain ⟨hkept, hevents⟩ := hrest.mem_players hown
      rw [List.find?_append, about, List.filter_append]
      by_cases hplayer : entry.player = player
      · subst hplayer
        rw [List.find?_cons_of_pos (p := fun other : Entry => other.player == entry.player)
          (beq_self_eq_true _)]
        -- Nobody behind is the same player.
        have hothers : (kept.find? fun other => other.player == entry.player) = none := by
          rw [List.find?_eq_none]
          intro other hother hsame
          exact hnodup.1 (beq_iff_eq.mp hsame ▸ hkept other hother)
        have hsilent : about entry.player events = [] :=
          QueueEvent.about_eq_nil fun event hevent hsame => hnodup.1 (hsame ▸ hevents event hevent)
        have hself : (outcome.toList.find? fun other => other.player == entry.player) =
            outcome := by
          cases outcome with
          | none => rfl
          | some other => simp [houtcome other rfl]
        have htold : (told.filter fun event => event.player == entry.player) = told := by
          rw [List.filter_eq_self]
          exact fun event hevent => beq_iff_eq.mpr (htold event hevent)
        rw [about] at hsilent
        rw [hothers, hsilent, hself, htold, Option.or_none, List.append_nil]
        exact .present hstep
      · have hleft : (outcome.toList.find? fun other => other.player == player) = none := by
          rw [List.find?_eq_none]
          intro other hother
          simpa [houtcome other (Option.mem_toList.mp hother)] using hplayer
        have hunheard : (told.filter fun event => event.player == player) = [] := by
          rw [List.filter_eq_nil_iff]
          intro event hevent
          simpa [htold event hevent] using hplayer
        rw [List.find?_cons_of_neg (by simpa using hplayer), hleft, hunheard, Option.none_or,
          List.nil_append]
        exact ih hnodup.2

end Walk

/-! ## The walks of the operations -/

namespace Entry

inductive Decided (decide : Entry → Except DequeueReason Entry) (entry : Entry) :
    Option Entry → List QueueEvent → Prop where
  | stays {other : Entry} (hdecided : decide entry = .ok other) :
      Decided decide entry (some other) []
  | leaves {reason : DequeueReason} (hdecided : decide entry = .error reason) :
      Decided decide entry none [.dequeued entry.player reason]

inductive Invited (now : Nat) (entry : Entry) : Option Entry → List QueueEvent → Prop where
  | passed : Invited now entry (some entry) []
  | begins (hwaiting : entry.isWaiting) :
      Invited now entry (some (entry.promote now)) [.join entry.player (entry.attempts + 1)]

inductive Placed (entry : Entry) : Option Entry → List QueueEvent → Prop where
  | unmoved : Placed entry (some entry) []
  | moved (hwaiting : entry.isWaiting) (position queueLength : Nat) :
      Placed entry (some { entry with reportedPosition := some position })
        [.position entry.player position queueLength]

theorem isOwn_decided {decide : Entry → Except DequeueReason Entry}
    (hdecide : ∀ entry other, decide entry = .ok other → other.player = entry.player) :
    IsOwn (Decided decide) := by
  rintro entry outcome told (hdecided | hdecided)
  · simpa using hdecide entry _ hdecided
  · simp [QueueEvent.player]

theorem isOwn_invited (now : Nat) : IsOwn (Invited now) := by
  rintro entry outcome told (_ | hwaiting) <;> simp [promote, QueueEvent.player]

theorem isOwn_placed : IsOwn Placed := by
  rintro entry outcome told (_ | ⟨-, position, queueLength⟩) <;> simp [QueueEvent.player]

end Entry

namespace Queue

theorem walk_decided {decide : Entry → Except DequeueReason Entry} {entries : List Entry}
    (hstays : ∀ entry ∈ entries, decide entry = .ok entry) :
    Walk (Entry.Decided decide) entries entries [] := by
  induction entries with
  | nil => exact .nil
  | cons entry rest ih =>
      rw [List.forall_mem_cons] at hstays
      exact .cons (.stays hstays.1) (ih hstays.2)

/-- Settling decides on the reporter's entry alone. -/
theorem walk_settle (step : Entry → Except DequeueReason Entry) {entries : List Entry}
    (hnodup : (entries.map (·.player)).Nodup) (player : PlayerId) :
    Walk (Entry.Decided fun entry => if entry.player = player then step entry else .ok entry)
      entries (settle player step entries).1 (settle player step entries).2 := by
  induction entries with
  | nil => exact .nil
  | cons entry rest ih =>
      rw [List.map_cons, List.nodup_cons] at hnodup
      simp only [settle]
      split_ifs with hplayer
      · have hothers : ∀ other ∈ rest,
            (if other.player = player then step other else .ok other) = .ok other := by
          intro other hother
          refine if_neg fun hsame => hnodup.1 ?_
          rw [hplayer, ← hsame]
          exact List.mem_map_of_mem hother
        cases hdecided : step entry with
        | ok other => exact .cons (.stays (by rw [if_pos hplayer, hdecided])) (walk_decided hothers)
        | error reason =>
            rw [← hplayer] at hothers ⊢
            exact .cons (.leaves (by rw [if_pos rfl, hdecided])) (walk_decided hothers)
      · exact .cons (.stays (if_neg hplayer)) (ih hnodup.2)

theorem walk_ageAll (config : QueueConfig) (now : Nat) (entries : List Entry) :
    Walk (Entry.Decided fun entry => entry.age config now) entries (ageAll config now entries).1
      (ageAll config now entries).2 := by
  induction entries with
  | nil => exact .nil
  | cons entry rest ih =>
      simp only [ageAll]
      cases hage : entry.age config now with
      | ok other => exact .cons (.stays hage) ih
      | error reason => exact .cons (.leaves hage) ih

theorem walk_promoteFirst (now room : Nat) (entries : List Entry) :
    Walk (Entry.Invited now) entries (promoteFirst now room entries).1
      (promoteFirst now room entries).2 := by
  have hpassed : ∀ entries : List Entry, Walk (Entry.Invited now) entries entries [] := by
    intro entries
    induction entries with
    | nil => exact .nil
    | cons entry rest ih => exact .cons .passed ih
  induction entries generalizing room with
  | nil => cases room <;> exact .nil
  | cons entry rest ih =>
      cases room with
      | zero => exact hpassed _
      | succ room =>
          simp only [promoteFirst]
          split_ifs with hwaiting
          · exact .cons (.begins hwaiting) (ih room)
          · exact .cons .passed (ih (room + 1))

theorem walk_announce (queueLength before : Nat) (entries : List Entry) :
    Walk Entry.Placed entries (announce queueLength before entries).1
      (announce queueLength before entries).2 := by
  induction entries generalizing before with
  | nil => exact .nil
  | cons entry rest ih =>
      simp only [announce]
      split_ifs with hwaiting hreported
      · exact .cons .unmoved (ih (before + 1))
      · exact .cons (.moved hwaiting (before + 1) queueLength) (ih (before + 1))
      · exact .cons .unmoved (ih before)

end Queue

end Muster
