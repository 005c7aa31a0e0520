import Muster.Proofs.Admission.Visits

/-!
# Attempts in the course of a run

The history of a player in the course of a run of calls can always be read as a row of visits, each
with its attempts.  The first attempt of a visit has number one.  Before another begins the one
before it has come to nothing, once, and its number is the next, or one again where the server was
full and that is forgiven.  No number is above the limit, and no attempt begins when the time for
joining, counted from the first, is over.
-/

namespace Muster

variable {config : QueueConfig} {player : PlayerId} {now : Nat}

open QueueEvent (about)

/-- The mark that an event leaves with its player; a position leaves none. -/
def QueueEvent.mark? : QueueEvent → Option Mark
  | .position _ _ _ => none
  | .join _ number => some (.began number)
  | .dequeued _ _ => some .left

/-- How a report brings the attempt of an entry to nothing, if it does.  A report of a failure
counts for a player who is joining only.  -/
def Entry.reported? (entry : Entry) : JoinResult → Option Ending
  | .failed serverFull => if entry.isJoining then some (.failed serverFull) else none
  | _ => none

/-- How a pass brings the attempt of an entry to nothing, if it does. -/
def Entry.lapsed? (entry : Entry) (config : QueueConfig) (now : Nat) : Option Ending :=
  if entry.isAttemptExpired config now then some .lapsed else none

namespace Queue

def letsIn (queue : Queue) (player : PlayerId) (now : Nat) : Call → Bool
  | .enqueue other => other == player && (queue.enqueue player now).2.isOk
  | _ => false

/-- How a call brings the attempt of a player to nothing, if it does. -/
def ending? (queue : Queue) (player : PlayerId) (now : Nat) : Call → Option Ending
  | .acknowledge reporter result =>
    if reporter = player then (queue.find? player).bind (·.reported? result) else none
  | .process _ => (queue.find? player).bind (·.lapsed? queue.config now)
  | _ => none

def heard (queue : Queue) (player : PlayerId) (now : Nat) (call : Call) : List QueueEvent :=
  match (queue.answer now call).2 with
  | .ok events => about player events
  | .error _ => []

def marks (queue : Queue) (player : PlayerId) (now : Nat) (call : Call) : List Mark :=
  (if queue.letsIn player now call then [.arrived] else []) ++
    (queue.ending? player now call).toList.map .ended ++
    (queue.heard player now call).filterMap (·.mark?)

/-- What happens to a player in the course of calls, and when. -/
def history (player : PlayerId) : Queue → List (Nat × Call) → List (Nat × Mark)
  | _, [] => []
  | queue, (now, call) :: rest =>
    (queue.marks player now call).map (now, ·) ++ history player (queue.answer now call).1 rest

end Queue

/-! ## Calls -/

namespace Entry

variable {entry other : Entry} {before after outcome : Option Entry} {told : List QueueEvent}

theorem giveUp_lapsed (hlapsed : entry.HasLapsed config now) :
    entry.giveUp config .lapsed = entry.settled config now := by
  rw [settled, if_pos hlapsed]
  rfl

theorem firstAttemptAt_settled (entry : Entry) (config : QueueConfig) (now : Nat) :
    (entry.settled config now).firstAttemptAt = entry.firstAttemptAt := by
  simp only [settled]
  split_ifs <;> rfl

/-- What the passing of time does to a player.  Whoever stays has time left. -/
theorem steps_age
    (hmeets : Walk.Meets (Decided fun entry => entry.age config now) before after told) :
    Steps config now before after
        ((before.bind (·.lapsed? config now)).toList.map .ended ++ told.filterMap (·.mark?)) ∧
      ∀ entry ∈ after, ¬entry.HasRunOut config now := by
  cases hmeets with
  | absent => exact ⟨.none none, by simp⟩
  | @present entry outcome told hstep =>
      have hsettled : Steps config now (some entry) (some (entry.settled config now))
          ((entry.lapsed? config now).toList.map .ended) := by
        rw [lapsed?]
        by_cases hlapsed : entry.HasLapsed config now
        · rw [if_pos (isAttemptExpired_iff.mpr hlapsed), ← giveUp_lapsed hlapsed]
          exact (Step.giveUp (isJoining_iff.mpr hlapsed.1) fun _ => hlapsed).steps
        · rw [if_neg (mt isAttemptExpired_iff.mp hlapsed), settled, if_neg hlapsed]
          exact .none _
      rw [Option.bind_some]
      cases hstep with
      | stays hage =>
          rw [age_eq] at hage
          cases hdeparture : entry.departure? config now with
          | some reason => simp [hdeparture] at hage
          | none =>
              simp only [hdeparture, Except.ok.injEq] at hage
              subst hage
              refine ⟨hsettled.trans (.none _), ?_⟩
              intro other hother hout
              rw [Option.mem_some_iff] at hother
              have htime : entry.HasRunOut config now := by
                rwa [← hother, HasRunOut, firstAttemptAt_settled] at hout
              simp [departure?, htime] at hdeparture
      | leaves hage => exact ⟨hsettled.trans (Step.leave _).steps, by simp⟩

/-- What an invitation does to a player who has time left. -/
theorem steps_invited (hmeets : Walk.Meets (Invited now) before after told)
    (hwell : ∀ entry ∈ before, entry.IsWellFormed config)
    (htime : ∀ entry ∈ before, ¬entry.HasRunOut config now) :
    Steps config now before after (told.filterMap (·.mark?)) := by
  cases hmeets with
  | absent => exact .none none
  | present hstep =>
      cases hstep with
      | passed => exact .none _
      | begins hwaiting => exact (Step.begin hwaiting (hwell _ rfl) (htime _ rfl)).steps

/-- A position is no mark. -/
theorem steps_placed (hmeets : Walk.Meets Placed before after told) :
    Steps config now before after (told.filterMap (·.mark?)) := by
  cases hmeets with
  | absent => exact .none none
  | present hstep =>
      cases hstep with
      | unmoved => exact .none _
      | moved _ position queueLength => exact (Step.place _ (some position)).steps

/-- A retry that is granted gives up the attempt that was under way. -/
theorem retry_forgive_eq_ok {serverFull : Bool}
    (hretry : (entry.forgive config serverFull).retry config now = .ok other) :
    other = entry.giveUp config (.failed serverFull) := by
  simp only [retry] at hretry
  split_ifs at hretry
  rw [← Except.ok.inj hretry, giveUp, Ending.count, Ending.isForgiven, forgive]
  split_ifs <;> rfl

/-- A report takes its player through a step or two of the visit. -/
theorem steps_report {result : JoinResult}
    (hdecided : Decided (report config now result) entry outcome told) :
    Steps config now (some entry) outcome
      ((entry.reported? result).toList.map .ended ++ told.filterMap (·.mark?)) := by
  cases result with
  | joined | rejected =>
      cases hdecided with
      | stays hreport => simp [report] at hreport
      | leaves => exact (Step.leave entry).steps
  | failed serverFull =>
      by_cases hjoining : entry.isJoining
      · have hended : Step config now (some entry)
            (some (entry.giveUp config (.failed serverFull))) [.ended (.failed serverFull)] :=
          .giveUp hjoining (by simp)
        rw [reported?, if_pos hjoining]
        cases hdecided with
        | stays hreport =>
            rw [report, if_pos hjoining] at hreport
            rw [retry_forgive_eq_ok hreport]
            exact hended.steps
        | leaves => exact .next hended (Step.leave _).steps
      · rw [reported?, if_neg hjoining]
        cases hdecided with
        | stays hreport =>
            rw [report, if_neg hjoining] at hreport
            rw [Except.ok.inj hreport]
            exact .none _
        | leaves hreport => simp [report, hjoining] at hreport

end Entry

namespace Queue

variable {queue next : Queue} {entries : List Entry} {events : List QueueEvent}

/-- What settling the entry of one player means to any player. -/
theorem meets_settle (hnodup : (entries.map (·.player)).Nodup)
    (step : Entry → Except DequeueReason Entry)
    (hstep : ∀ entry other, step entry = .ok other → other.player = entry.player)
    (reporter player : PlayerId) :
    Walk.Meets
      (Entry.Decided fun entry => if entry.player = reporter then step entry else .ok entry)
      (entries.find? fun entry => entry.player == player)
      ((settle reporter step entries).1.find? fun entry => entry.player == player)
      (about player (settle reporter step entries).2) := by
  refine (walk_settle step hnodup reporter).meets (Entry.isOwn_decided ?_) hnodup player
  intro entry other hdecided
  split_ifs at hdecided
  · exact hstep entry other hdecided
  · rw [Except.ok.inj hdecided]

/-- Settling the reporter's entry concerns that one player; to any other nothing happens. -/
theorem steps_settle (hqueue : queue.IsWellFormed config)
    {step : Entry → Except DequeueReason Entry}
    (hstep : ∀ entry other, step entry = .ok other → other.player = entry.player)
    {reporter : PlayerId} (hnext : (next.entries, events) = settle reporter step queue.entries)
    {ended : Entry → Option Ending}
    (hsteps : ∀ entry outcome told, Entry.Decided step entry outcome told →
      Entry.Steps config now (some entry) outcome
        ((ended entry).toList.map .ended ++ told.filterMap (·.mark?)))
    (player : PlayerId) :
    Entry.Steps config now (queue.find? player) (next.find? player)
      ((if reporter = player then (queue.find? player).bind ended else none).toList.map .ended ++
        (about player events).filterMap (·.mark?)) := by
  have hmeets := meets_settle hqueue.nodup step hstep reporter player
  rw [← hnext] at hmeets
  change Walk.Meets _ (queue.find? player) (next.find? player) (about player events) at hmeets
  cases hfind : queue.find? player with
  | none =>
      rw [hfind] at hmeets
      generalize next.find? player = after, about player events = told at hmeets ⊢
      cases hmeets
      simpa using Entry.Steps.none none
  | some entry =>
      have hplayer : entry.player = player := by
        simpa using List.find?_some hfind
      rw [hfind] at hmeets
      generalize next.find? player = after, about player events = told at hmeets ⊢
      obtain _ | hdecided := hmeets
      by_cases hreporter : reporter = player
      · have hself : entry.player = reporter := hplayer.trans hreporter.symm
        rw [if_pos hreporter, Option.bind_some]
        apply hsteps
        cases hdecided with
        | stays hother => exact .stays (by rwa [if_pos hself] at hother)
        | leaves hreason => exact .leaves (by rwa [if_pos hself] at hreason)
      · have hne : entry.player ≠ reporter := fun hsame => hreporter (hsame.symm.trans hplayer)
        rw [if_neg hreporter]
        cases hdecided with
        | stays hother =>
            rw [if_neg hne] at hother
            rw [Except.ok.inj hother]
            exact .none _
        | leaves hreason => simp [hne] at hreason

/-- Joining begins a visit, unless the player is in the queue or finds no room there. -/
theorem steps_enqueue (queue : Queue) (config : QueueConfig) (player reporter : PlayerId)
    (now : Nat) :
    Entry.Steps config now (queue.find? player)
      ((queue.answer now (.enqueue reporter)).1.find? player)
      (queue.marks player now (.enqueue reporter)) := by
  obtain ⟨error, henqueue⟩ | ⟨next, henqueue⟩ := queue.enqueue_cases reporter now
  · have hout : queue.letsIn player now (.enqueue reporter) = false := by
      rw [letsIn, Bool.and_eq_false_iff, beq_eq_false_iff_ne]
      by_cases hplayer : reporter = player
      · exact Or.inr (by rw [← hplayer, henqueue]; rfl)
      · exact Or.inl hplayer
    simpa [marks, hout, heard, answer, henqueue, Except.map, ending?] using
      Entry.Steps.none (queue.find? player)
  · obtain ⟨hnew, rfl⟩ := enqueue_eq_ok henqueue
    by_cases hplayer : reporter = player
    · subst hplayer
      have hnone : queue.find? reporter = none := by
        rwa [← Option.not_isSome_iff_eq_none, ← contains, contains_iff]
      have hin : queue.letsIn reporter now (.enqueue reporter) = true := by
        rw [letsIn, henqueue, beq_self_eq_true]
        rfl
      have hfound : (queue.answer now (.enqueue reporter)).1.find? reporter =
          some (Entry.arrive reporter) := by
        rw [find?] at hnone
        simp [answer, henqueue, find?, hnone, Entry.arrive]
      have harrive : Entry.Step config now none (some (Entry.arrive reporter)) [.arrived] :=
        .arrive reporter
      rw [hnone, hfound]
      simpa [marks, hin, heard, answer, henqueue, Except.map, ending?, QueueEvent.about_nil]
        using harrive.steps
    · have hout : queue.letsIn player now (.enqueue reporter) = false := by
        rw [letsIn, beq_eq_false_iff_ne.mpr hplayer, Bool.false_and]
      have hfound : (queue.answer now (.enqueue reporter)).1.find? player =
          queue.find? player := by
        simp [answer, henqueue, find?, Entry.arrive, hplayer]
      rw [hfound]
      simpa [marks, hout, heard, answer, henqueue, Except.map, ending?, QueueEvent.about_nil]
        using Entry.Steps.none (queue.find? player)

theorem steps_acknowledge (hqueue : queue.IsWellFormed config) (player reporter : PlayerId)
    (result : JoinResult) (now : Nat) :
    Entry.Steps config now (queue.find? player)
      ((queue.answer now (.acknowledge reporter result)).1.find? player)
      (queue.marks player now (.acknowledge reporter result)) := by
  obtain ⟨error, hacknowledge⟩ | ⟨next, events, hacknowledge⟩ :=
    queue.acknowledge_cases reporter result now
  · have hrefused := congrArg Prod.snd hacknowledge
    obtain ⟨-, hreporter⟩ := acknowledge_eq_error_iff.mp hrefused
    have hnone : queue.ending? player now (.acknowledge reporter result) = none := by
      rw [ending?]
      split_ifs with hplayer
      · rw [← contains_iff, contains, hplayer, Option.not_isSome_iff_eq_none] at hreporter
        rw [hreporter, Option.bind_none]
      · rfl
    simpa [marks, hnone, letsIn, heard, answer, hacknowledge] using
      Entry.Steps.none (queue.find? player)
  · obtain ⟨-, hevents, hnext⟩ := acknowledge_eq_ok hacknowledge
    have hsettle : (next.entries, events) =
        settle reporter (Entry.report config now result) queue.entries := by
      rw [hevents, hnext, hqueue.config_eq]
    have hsteps := steps_settle hqueue (fun _ _ => player_report) hsettle
      (fun _ _ _ => Entry.steps_report) player
    simpa [marks, ending?, letsIn, heard, answer, hacknowledge] using hsteps

theorem steps_remove (hqueue : queue.IsWellFormed config) (player reporter : PlayerId)
    (reason : DequeueReason) (now : Nat) :
    Entry.Steps config now (queue.find? player)
      ((queue.answer now (.remove reporter reason)).1.find? player)
      (queue.marks player now (.remove reporter reason)) := by
  cases hremove : queue.remove reporter reason now with
  | none =>
      simpa [marks, letsIn, ending?, heard, answer, hremove, about] using
        Entry.Steps.none (queue.find? player)
  | some outcome =>
      have hleave : ∀ entry outcome told,
          Entry.Decided (fun _ => .error reason) entry outcome told →
          Entry.Steps config now (some entry) outcome
            ((none : Option Ending).toList.map .ended ++ told.filterMap (·.mark?)) := by
        rintro entry outcome told (hother | _)
        · simp at hother
        · exact (Entry.Step.leave entry).steps
      have hsteps := steps_settle hqueue (fun entry other hother => by simp at hother)
        (remove_eq_settle hremove) hleave player
      simpa [marks, letsIn, ending?, heard, answer, hremove] using hsteps

/-- Each of the three sweeps of a pass adds its steps to those of the one before. -/
theorem steps_process (hqueue : queue.IsWellFormed config) (player : PlayerId)
    (slots : Option Count) (now : Nat) :
    Entry.Steps config now (queue.find? player)
      ((queue.answer now (.process slots)).1.find? player)
      (queue.marks player now (.process slots)) := by
  obtain rfl := hqueue.config_eq
  let aged := ageAll queue.config now queue.entries
  let room := (slots.getD 1).toNat - aged.1.countP (·.isJoining)
  let promoted := promoteFirst now room aged.1
  have haged : (aged.1.map (·.player)).Nodup :=
    hqueue.nodup.sublist (players_ageAll_sublist queue.config now queue.entries)
  have hpromoted : (promoted.1.map (·.player)).Nodup := by
    rwa [players_promoteFirst]
  have hwell : ∀ entry ∈ aged.1, entry.IsWellFormed queue.config :=
    (sweep_ageAll queue.config now queue.entries).isWellFormed hqueue.entries
  -- First the entry of the player ages, then it may be invited, then it may get a position.
  obtain ⟨hage, htime⟩ := Entry.steps_age <|
    (walk_ageAll queue.config now queue.entries).meets
      (Entry.isOwn_decided fun _ _ => player_age) hqueue.nodup player
  have hinvited : Entry.Steps queue.config now _ _ _ := Entry.steps_invited
    ((walk_promoteFirst now room aged.1).meets (Entry.isOwn_invited now) haged player)
    (fun entry hentry => hwell entry (List.mem_of_find?_eq_some hentry)) htime
  have hplaced : Entry.Steps queue.config now _ _ _ := Entry.steps_placed
    ((walk_announce promoted.1.length 0 promoted.1).meets Entry.isOwn_placed hpromoted player)
  have hsteps := (hage.trans hinvited).trans hplaced
  have hmarks : queue.marks player now (.process slots) =
      (queue.ending? player now (.process slots)).toList.map .ended ++
        (about player (aged.2 ++ promoted.2 ++
          (announce promoted.1.length 0 promoted.1).2)).filterMap (·.mark?) := rfl
  rw [hmarks]
  simp only [QueueEvent.about_append, List.filterMap_append, List.append_assoc] at hsteps ⊢
  exact hsteps

/-- A call takes a player through steps, which leave the marks that they should. -/
theorem steps_answer (hqueue : queue.IsWellFormed config) (player : PlayerId) (now : Nat)
    (call : Call) :
    Entry.Steps config now (queue.find? player) ((queue.answer now call).1.find? player)
      (queue.marks player now call) := by
  cases call with
  | enqueue reporter => exact steps_enqueue queue config player reporter now
  | acknowledge reporter result => exact steps_acknowledge hqueue player reporter result now
  | remove reporter reason => exact steps_remove hqueue player reporter reason now
  | process slots => exact steps_process hqueue player slots now

/-! ## Runs -/

/-- In the course of calls the record of a player goes on. -/
theorem exists_isRecord_history {attended : Attended} (hattended : attended.IsWellFormed config)
    {visits : List Visit} (hrecord : IsRecord config (attended.queue.find? player) visits)
    (calls : List (Nat × Call)) :
    ∃ later, IsRecord config ((calls.foldl (fun attended call => attended.after call.1 call.2)
        attended).queue.find? player) later ∧
      later.flatMap Visit.marks =
        visits.flatMap Visit.marks ++ history player attended.queue calls := by
  induction calls generalizing attended visits with
  | nil => exact ⟨visits, hrecord, (List.append_nil _).symm⟩
  | cons call rest ih =>
      obtain ⟨now, call⟩ := call
      have hsteps := steps_answer hattended.queue player now call
      obtain ⟨between, hbetween, hmarks⟩ := hsteps.exists_isRecord hrecord
      obtain ⟨later, hlater, hothers⟩ := ih (hattended.after now call) hbetween
      refine ⟨later, hlater, ?_⟩
      rw [hothers, hmarks, history, List.append_assoc]
      rfl

/-- The history of a player is a row of visits, of which the last one goes on if the player is in
the queue.  The attempts of each are numbered as they should be, and are in time.  -/
theorem attempts_run (config : QueueConfig) (start : Nat) (calls : List (Nat × Call))
    (player : PlayerId) :
    ∃ visits : List Visit,
      history player (empty config start) calls = visits.flatMap Visit.marks ∧
      (∀ visit ∈ visits, AreOrderly config visit.attempts) ∧
      (∀ visit ∈ visits.dropLast, visit.leftAt.isSome) ∧
      ((run config start calls).queue.contains player ↔
        ∃ visit ∈ visits.getLast?, visit.leftAt = none) := by
  have hstart : Attended.IsWellFormed ⟨empty config start, []⟩ config :=
    ⟨isWellFormed_empty config start, List.Sublist.refl _⟩
  have hblank : IsRecord config ((empty config start).find? player) [] := .away (by simp)
  obtain ⟨visits, hvisits, hmarks⟩ := exists_isRecord_history hstart hblank calls
  refine ⟨visits, hmarks.symm, ?_⟩
  change IsRecord config ((run config start calls).queue.find? player) visits at hvisits
  rw [contains]
  generalize (run config start calls).queue.find? player = present at hvisits
  cases hvisits with
  | away hpast =>
      refine ⟨fun visit hvisit => (hpast visit hvisit).2, fun visit hvisit =>
        (hpast visit (List.dropLast_subset _ hvisit)).1, ?_⟩
      simp only [Option.isSome_none, Bool.false_eq_true, false_iff]
      rintro ⟨visit, hvisit, hnone⟩
      have hover := (hpast visit (List.mem_of_getLast? hvisit)).1
      simp [hnone] at hover
  | present hpast horderly =>
      refine ⟨?_, ?_, by simp⟩
      · rw [List.forall_mem_append, List.forall_mem_singleton]
        exact ⟨fun visit hvisit => (hpast visit hvisit).2, horderly⟩
      · rw [List.dropLast_concat]
        exact fun visit hvisit => (hpast visit hvisit).1

/-- A full server is forgiven, a silent attempt is not. -/
example :
    history 7 (empty {} 0)
      [(0, .enqueue 7), (0, .process none), (5, .acknowledge 7 (.failed true)), (6, .process none),
        (36006, .process none), (36010, .acknowledge 7 .joined)] =
      [(0, .arrived), (0, .began 1), (5, .ended (.failed true)), (6, .began 1),
        (36006, .ended .lapsed), (36006, .began 2), (36010, .left)] := by
  decide

end Queue

end Muster
