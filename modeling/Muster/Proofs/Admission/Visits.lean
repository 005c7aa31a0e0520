import Mathlib.Data.List.Chain
import Muster.Proofs.Admission.Passes

/-!
# Visits to a queue

A player who is let into a queue makes attempts to join until the player leaves it again.  What
happens to the player leaves marks: the arrival, each attempt with its number, each attempt that
comes to nothing, and the departure.  Here it is said which rows of attempts a visit may have, what
the entry of a player can go through, and that the marks of every step go on with a record of
such visits.
-/

namespace Muster

variable {config : QueueConfig} {now : Nat}

/-- How an attempt came to nothing. -/
inductive Ending where
  /-- The player reported it. -/
  | failed (serverFull : Bool)
  /-- The player did not report in time. -/
  | lapsed
  deriving DecidableEq, Repr

/-- What happens to a player in a queue. -/
inductive Mark where
  | arrived
  | began (number : UInt32)
  | ended (ending : Ending)
  | left
  deriving DecidableEq, Repr

/-- An attempt: its number, when it began, and when and how it came to nothing, if it has. -/
structure Attempt where
  number : UInt32
  since : Nat
  ended : Option (Nat × Ending)
  deriving DecidableEq, Repr

/-- The time of a player in a queue, up to now or until the player left. -/
structure Visit where
  arrivedAt : Nat
  attempts : List Attempt
  leftAt : Option Nat
  deriving DecidableEq, Repr

namespace Ending

def isForgiven (config : QueueConfig) : Ending → Bool
  | failed serverFull => serverFull && config.resetAttemptsWhenFull
  | lapsed => false

def count (config : QueueConfig) (ending : Ending) (attempts : UInt32) : UInt32 :=
  if ending.isForgiven config then 0 else attempts

end Ending

def Attempt.marks (attempt : Attempt) : List (Nat × Mark) :=
  (attempt.since, .began attempt.number) ::
    attempt.ended.toList.map fun (time, ending) => (time, .ended ending)

def Visit.marks (visit : Visit) : List (Nat × Mark) :=
  (visit.arrivedAt, .arrived) :: visit.attempts.flatMap Attempt.marks ++
    visit.leftAt.toList.map (·, .left)

/-- An attempt may follow another once that one has come to nothing: by a report, or because the
time to report was over.  It has the next number, unless the one before it is forgiven. -/
def Attempt.Precedes (config : QueueConfig) (attempt next : Attempt) : Prop :=
  ∃ time ending, attempt.ended = some (time, ending) ∧
    (ending = .lapsed → config.joinTimeout ≤ time - attempt.since) ∧
    next.number.toNat = if ending.isForgiven config then 1 else attempt.number.toNat + 1

/-- The attempts of a visit are numbered as they should be, and they begin in time. -/
structure AreOrderly (config : QueueConfig) (attempts : List Attempt) : Prop where
  first : ∀ attempt ∈ attempts.head?, attempt.number = 1
  consecutive : attempts.IsChain (Attempt.Precedes config)
  bounded : ∀ attempt ∈ attempts, attempt.number.toNat ≤ max 1 config.maxJoinAttempts.toNat
  inTime : ∀ first ∈ attempts.head?, ∀ later ∈ attempts.tail,
    later.since < first.since + config.totalJoinTime

/-! ## Steps of an entry -/

namespace Entry

variable {before between after : Option Entry} {marks others : List Mark}

def giveUp (entry : Entry) (config : QueueConfig) (ending : Ending) : Entry :=
  { entry with
    state := .waiting
    attempts := ending.count config entry.attempts
    attemptStartedAt := none }

/-- What can happen to the entry of a player, and what it does to the player. -/
inductive Step (config : QueueConfig) (now : Nat) :
    Option Entry → Option Entry → List Mark → Prop where
  | arrive (player : PlayerId) : Step config now none (some (arrive player)) [.arrived]
  | begin {entry : Entry} (hwaiting : entry.isWaiting) (hentry : entry.IsWellFormed config)
      (htime : ¬entry.HasRunOut config now) :
      Step config now (some entry) (some (entry.promote now)) [.began (entry.attempts + 1)]
  | giveUp {entry : Entry} {ending : Ending} (hjoining : entry.isJoining)
      (hlapsed : ending = .lapsed → entry.HasLapsed config now) :
      Step config now (some entry) (some (entry.giveUp config ending)) [.ended ending]
  | place (entry : Entry) (position : Option Nat) :
      Step config now (some entry) (some { entry with reportedPosition := position }) []
  | leave (entry : Entry) : Step config now (some entry) none [.left]

inductive Steps (config : QueueConfig) (now : Nat) :
    Option Entry → Option Entry → List Mark → Prop where
  | none (present : Option Entry) : Steps config now present present []
  | next {before between after : Option Entry} {marks others : List Mark}
      (hstep : Step config now before between marks)
      (hsteps : Steps config now between after others) :
      Steps config now before after (marks ++ others)

theorem Step.steps (hstep : Step config now before after marks) :
    Steps config now before after marks := by
  rw [← List.append_nil marks]
  exact .next hstep (.none after)

theorem Steps.trans (hfirst : Steps config now before between marks)
    (hsecond : Steps config now between after others) :
    Steps config now before after (marks ++ others) := by
  induction hfirst with
  | none => exact hsecond
  | next hstep _ ih =>
      rw [List.append_assoc]
      exact .next hstep (ih hsecond)

end Entry

/-! ## Records of visits -/

/-- The entry of a player who has made these attempts in the present visit. -/
inductive Entry.IsAfter (config : QueueConfig) (entry : Entry) : List Attempt → Prop where
  | fresh (hstate : entry.state = .waiting) (hattempts : entry.attempts = 0) :
      IsAfter config entry []
  | trying {earlier : List Attempt} {since : Nat} (hstate : entry.state = .joining)
      (hstarted : entry.attemptStartedAt = some since) :
      IsAfter config entry (earlier ++ [⟨entry.attempts, since, none⟩])
  | between {earlier : List Attempt} {number : UInt32} {since time : Nat} {ending : Ending}
      (hstate : entry.state = .waiting) (hattempts : entry.attempts = ending.count config number)
      (hended : ending = .lapsed → config.joinTimeout ≤ time - since) :
      IsAfter config entry (earlier ++ [⟨number, since, some (time, ending)⟩])

/-- The visits of a player: those that are over, and the present one if the player has an entry. -/
inductive IsRecord (config : QueueConfig) : Option Entry → List Visit → Prop where
  | away {past : List Visit}
      (hpast : ∀ visit ∈ past, visit.leftAt.isSome ∧ AreOrderly config visit.attempts) :
      IsRecord config none past
  | present {past : List Visit} {arrivedAt : Nat} {attempts : List Attempt} {entry : Entry}
      (hpast : ∀ visit ∈ past, visit.leftAt.isSome ∧ AreOrderly config visit.attempts)
      (horderly : AreOrderly config attempts)
      (hfirst : entry.firstAttemptAt = attempts.head?.map (·.since))
      (hentry : entry.IsAfter config attempts) :
      IsRecord config (some entry) (past ++ [⟨arrivedAt, attempts, none⟩])

theorem areOrderly_nil (config : QueueConfig) : AreOrderly config [] :=
  ⟨by simp, List.IsChain.nil, by simp, by simp⟩

/-- Whether and how the last attempt came to nothing does not matter. -/
theorem AreOrderly.ended {earlier : List Attempt} {number : UInt32} {since : Nat}
    {before after : Option (Nat × Ending)}
    (horderly : AreOrderly config (earlier ++ [⟨number, since, before⟩])) :
    AreOrderly config (earlier ++ [⟨number, since, after⟩]) := by
  obtain ⟨hfirst, hconsecutive, hbounded, hintime⟩ := horderly
  rw [List.isChain_append] at hconsecutive
  constructor
  · cases earlier <;> simpa using hfirst
  · rw [List.isChain_append]
    refine ⟨hconsecutive.1, List.isChain_singleton _, ?_⟩
    simpa [Attempt.Precedes] using hconsecutive.2.2
  · simpa [or_imp, forall_and] using hbounded
  · cases earlier with
    | nil => simp
    | cons first rest => simpa [or_imp, forall_and] using hintime

/-- The number of the next attempt. -/
theorem Entry.IsAfter.precedes {entry : Entry} {attempts : List Attempt}
    (hentry : entry.IsAfter config attempts) (now : Nat) (hstate : entry.state = .waiting)
    (hnumber : (entry.attempts + 1).toNat = entry.attempts.toNat + 1) :
    (attempts = [] → entry.attempts + 1 = 1) ∧
      ∀ attempt ∈ attempts.getLast?, attempt.Precedes config ⟨entry.attempts + 1, now, none⟩ := by
  cases hentry with
  | fresh _ hattempts => simp [hattempts]
  | trying hjoining => simp [hstate] at hjoining
  | @between earlier number since time ending _ hattempts hended =>
      refine ⟨by simp, ?_⟩
      simp only [List.getLast?_append, List.getLast?_singleton, Option.some_or, Option.mem_some_iff,
        forall_eq']
      refine ⟨time, ending, rfl, hended, ?_⟩
      rw [hnumber, hattempts, Ending.count]
      split_ifs <;> rfl

/-- One more attempt. -/
theorem AreOrderly.concat {attempts : List Attempt} {next : Attempt}
    (horderly : AreOrderly config attempts) (hfirst : attempts = [] → next.number = 1)
    (hprecedes : ∀ attempt ∈ attempts.getLast?, attempt.Precedes config next)
    (hbound : next.number.toNat ≤ max 1 config.maxJoinAttempts.toNat)
    (htime : ∀ first ∈ attempts.head?, next.since < first.since + config.totalJoinTime) :
    AreOrderly config (attempts ++ [next]) := by
  constructor
  · cases attempts with
    | nil => simpa using hfirst
    | cons first rest => simpa using horderly.first
  · rw [List.isChain_append]
    exact ⟨horderly.consecutive, List.isChain_singleton _, by simpa using hprecedes⟩
  · rw [List.forall_mem_append, List.forall_mem_singleton]
    exact ⟨horderly.bounded, hbound⟩
  · cases attempts with
    | nil => simp
    | cons first rest =>
        have hintime := horderly.inTime
        simp_all [or_imp, forall_and]

/-- Another attempt of the present visit begins. -/
theorem IsRecord.begin {entry : Entry} {visits : List Visit}
    (hrecord : IsRecord config (some entry) visits) (hwaiting : entry.isWaiting)
    (hwell : entry.IsWellFormed config) (htime : ¬entry.HasRunOut config now) :
    ∃ later, IsRecord config (some (entry.promote now)) later ∧
      later.flatMap Visit.marks =
        visits.flatMap Visit.marks ++ [(now, .began (entry.attempts + 1))] := by
  obtain _ | @⟨past, arrivedAt, attempts, _, hpast, horderly, hfirst, hentry⟩ := hrecord
  have hstate := Entry.isWaiting_iff.mp hwaiting
  obtain ⟨hadd, hbound⟩ := hwell.toNat_attempts_add_one hstate
  obtain ⟨hone, hprecedes⟩ := hentry.precedes now hstate hadd
  rw [← hadd] at hbound
  have hintime : ∀ first ∈ attempts.head?, now < first.since + config.totalJoinTime := by
    intro first hhead
    by_contra hlate
    refine htime ⟨first.since, ?_, Nat.le_sub_of_add_le' (Nat.le_of_not_lt hlate)⟩
    rw [hfirst, Option.mem_def, hhead, Option.map_some]
  let attempt : Attempt := ⟨entry.attempts + 1, now, none⟩
  have hfirst : (entry.promote now).firstAttemptAt =
      (attempts ++ [attempt]).head?.map (·.since) := by
    cases attempts <;> simp [Entry.promote, hfirst, attempt]
  exact ⟨past ++ [⟨arrivedAt, attempts ++ [attempt], none⟩],
    .present hpast (horderly.concat hone hprecedes hbound hintime) hfirst (.trying rfl rfl),
    by simp [Visit.marks, Attempt.marks, attempt]⟩

/-- The attempt that is under way comes to nothing. -/
theorem IsRecord.giveUp {entry : Entry} {ending : Ending} {visits : List Visit}
    (hrecord : IsRecord config (some entry) visits) (hjoining : entry.isJoining)
    (hlapsed : ending = .lapsed → entry.HasLapsed config now) :
    ∃ later, IsRecord config (some (entry.giveUp config ending)) later ∧
      later.flatMap Visit.marks = visits.flatMap Visit.marks ++ [(now, .ended ending)] := by
  obtain _ | @⟨past, arrivedAt, attempts, _, hpast, horderly, hfirst, hentry⟩ := hrecord
  have hstate := Entry.isJoining_iff.mp hjoining
  cases hentry with
  | fresh hwaiting => simp [hstate] at hwaiting
  | between hwaiting => simp [hstate] at hwaiting
  | @trying earlier since _ hstarted =>
      let attempt : Attempt := ⟨entry.attempts, since, some (now, ending)⟩
      have hended : ending = .lapsed → config.joinTimeout ≤ now - since := by
        intro hending
        obtain ⟨-, started, hsome, hlate⟩ := hlapsed hending
        rw [hstarted, Option.mem_some_iff] at hsome
        rwa [hsome]
      have hfirst : (entry.giveUp config ending).firstAttemptAt =
          (earlier ++ [attempt]).head?.map (·.since) := by
        cases earlier <;> simpa [Entry.giveUp, attempt] using hfirst
      exact ⟨past ++ [⟨arrivedAt, earlier ++ [attempt], none⟩],
        .present hpast horderly.ended hfirst (.between rfl rfl hended),
        by simp [Visit.marks, Attempt.marks, attempt]⟩

/-- A step goes on with the record. -/
theorem Entry.Step.exists_isRecord {before after : Option Entry} {marks : List Mark}
    {visits : List Visit} (hstep : Step config now before after marks)
    (hrecord : IsRecord config before visits) :
    ∃ later, IsRecord config after later ∧
      later.flatMap Visit.marks = visits.flatMap Visit.marks ++ marks.map (now, ·) := by
  cases hstep with
  | arrive player =>
      obtain ⟨hpast⟩ := hrecord
      exact ⟨visits ++ [⟨now, [], none⟩],
        .present hpast (areOrderly_nil config) rfl (.fresh rfl rfl), by simp [Visit.marks]⟩
  | begin hwaiting hwell htime => exact hrecord.begin hwaiting hwell htime
  | giveUp hjoining hlapsed => exact hrecord.giveUp hjoining hlapsed
  | place entry position =>
      obtain _ | ⟨hpast, horderly, hfirst, hentry⟩ := hrecord
      refine ⟨_, .present hpast horderly hfirst ?_, (List.append_nil _).symm⟩
      cases hentry with
      | fresh hstate hattempts => exact .fresh hstate hattempts
      | trying hstate hstarted => exact .trying hstate hstarted
      | between hstate hattempts hended => exact .between hstate hattempts hended
  | leave entry =>
      obtain _ | @⟨past, arrivedAt, attempts, _, hpast, horderly, -, -⟩ := hrecord
      refine ⟨past ++ [⟨arrivedAt, attempts, some now⟩], .away ?_, by simp [Visit.marks]⟩
      rw [List.forall_mem_append, List.forall_mem_singleton]
      exact ⟨hpast, rfl, horderly⟩

/-- The visits so far, with what has happened since, are the visits afterwards. -/
theorem Entry.Steps.exists_isRecord {before after : Option Entry} {marks : List Mark}
    {visits : List Visit} (hsteps : Steps config now before after marks)
    (hrecord : IsRecord config before visits) :
    ∃ later, IsRecord config after later ∧
      later.flatMap Visit.marks = visits.flatMap Visit.marks ++ marks.map (now, ·) := by
  induction hsteps generalizing visits with
  | none => exact ⟨visits, hrecord, (List.append_nil _).symm⟩
  | next hstep _ ih =>
      obtain ⟨between, hbetween, hmarks⟩ := hstep.exists_isRecord hrecord
      obtain ⟨later, hlater, hothers⟩ := ih hbetween
      exact ⟨later, hlater, by rw [hothers, hmarks, List.map_append, List.append_assoc]⟩

end Muster
