import Muster.Proofs.Exchange.Handlers

/-!
# Dispatching

Messages wait for their turn.  When a message comes up its handlers are settled, and they are called
one after the other.  Before, between and after the calls anybody may change the handlers, those
that are called among them.  A message reaches exactly the handlers of its command that stood when
it came up, each once and in the order of their registration, whatever is changed meanwhile.
-/

namespace Muster

/-- What happens around a dispatcher. -/
inductive DispatchEvent where
  /-- Somebody changes the handlers: a handler that has been called, or anyone else. -/
  | alter (change : HandlerChange)
  | arrive (message : Message)
  /-- The next handler is called, or else the next message comes up. -/
  | proceed

/-- What has happened to the handlers and the messages. -/
inductive DispatchMark where
  | changed (change : HandlerChange)
  | begun (message : Message)
  | called (call : HandlerCall)

structure Dispatching where
  dispatcher : Dispatcher
  /-- Messages that have not come up yet, the first to arrive first. -/
  waiting : List Message
  /-- Calls that the message that has come up has still to make. -/
  due : List HandlerCall
  /-- Everything that has happened so far, in order. -/
  marks : List DispatchMark

namespace DispatchEvent

def change? : DispatchEvent → Option HandlerChange
  | alter change => some change
  | arrive _ | proceed => none

def arrival? : DispatchEvent → Option Message
  | arrive message => some message
  | alter _ | proceed => none

end DispatchEvent

namespace DispatchMark

def change? : DispatchMark → Option HandlerChange
  | changed change => some change
  | begun _ | called _ => none

def message? : DispatchMark → Option Message
  | begun message => some message
  | changed _ | called _ => none

def changes (marks : List DispatchMark) : List HandlerChange :=
  marks.filterMap change?

def messages (marks : List DispatchMark) : List Message :=
  marks.filterMap message?

def firstCalls : List DispatchMark → List HandlerCall
  | [] => []
  | changed _ :: rest => firstCalls rest
  | begun _ :: _ => []
  | called call :: rest => call :: firstCalls rest

variable {marks more : List DispatchMark}

theorem changes_append (marks more : List DispatchMark) :
    changes (marks ++ more) = changes marks ++ changes more :=
  List.filterMap_append

theorem changes_concat (marks : List DispatchMark) (mark : DispatchMark) :
    changes (marks ++ [mark]) = changes marks ++ mark.change?.toList := by
  rw [changes_append]
  cases mark <;> rfl

theorem messages_concat (marks : List DispatchMark) (mark : DispatchMark) :
    messages (marks ++ [mark]) = messages marks ++ mark.message?.toList := by
  rw [messages, List.filterMap_append]
  cases mark <;> rfl

/-- Calls after the first message of a log are those of that message, and not counted. -/
theorem firstCalls_append (marks more : List DispatchMark) :
    firstCalls (marks ++ more) =
      firstCalls marks ++ if messages marks = [] then firstCalls more else [] := by
  induction marks with
  | nil => simp [firstCalls, messages]
  | cons mark rest ih =>
      cases mark with
      | changed change => exact ih
      | begun message => simp [firstCalls, messages, message?]
      | called call => exact congrArg (call :: ·) ih

end DispatchMark

namespace Dispatching

open DispatchMark

def start : Dispatching :=
  ⟨.empty, [], [], []⟩

def after (run : Dispatching) : DispatchEvent → Dispatching
  | .alter change =>
    { run with
      dispatcher := run.dispatcher.change change
      marks := run.marks ++ [.changed change] }
  | .arrive message => { run with waiting := run.waiting ++ [message] }
  | .proceed =>
    match run.due, run.waiting with
    | call :: rest, _ => { run with due := rest, marks := run.marks ++ [.called call] }
    | [], message :: rest =>
      { run with
        waiting := rest
        due := (run.dispatcher.handlersFor message).map fun handler => ⟨handler, message⟩
        marks := run.marks ++ [.begun message] }
    | [], [] => run

def afterAll (run : Dispatching) (events : List DispatchEvent) : Dispatching :=
  events.foldl after run

/-- The calls of a message, made or due, where these are the marks since it came up. -/
def callsOf (run : Dispatching) (later : List DispatchMark) : List HandlerCall :=
  firstCalls later ++ if messages later = [] then run.due else []

/-- A message that came up after some changes reaches exactly the handlers of its command that stood
then, each of them once, in the order of registration. -/
structure AreExact (earlier : List HandlerChange) (message : Message) (calls : List HandlerCall) :
    Prop where
  mem_iff : ∀ call, call ∈ calls ↔
    call.message = message ∧ call.handler.Stands earlier message.key
  ordered : calls.Pairwise fun first second => first.handler.id < second.handler.id

/-- Whom the messages reach. -/
structure IsExact (run : Dispatching) : Prop where
  /-- No handler is called before a message comes up. -/
  silent : firstCalls run.marks = []
  calls : ∀ before message later, run.marks = before ++ .begun message :: later →
    AreExact (changes before) message (run.callsOf later)
  /-- A handler that is dropped, be it while a message is dispatched that still reaches it, gets no
  message that comes up later. -/
  dropped : ∀ before change between message later,
    run.marks = before ++ .changed change :: (between ++ .begun message :: later) →
      ∀ command, ∀ handler : Handler, handler.Stands (changes before) command →
        change.takesLabel handler.label → ∀ call ∈ run.callsOf later, call.handler.id ≠ handler.id
  /-- A handler that is registered gets no message that came up before. -/
  added : ∀ before message between change later,
    run.marks = before ++ .begun message :: (between ++ .changed change :: later) →
      ∀ call ∈ run.callsOf (between ++ .changed change :: later),
        call.handler.id < registrations (changes (before ++ .begun message :: between))

variable {run next : Dispatching} {event : DispatchEvent}

inductive Takes (run : Dispatching) : DispatchEvent → Dispatching → Prop where
  | alter (change : HandlerChange) :
      Takes run (.alter change)
        { run with
          dispatcher := run.dispatcher.change change
          marks := run.marks ++ [.changed change] }
  | arrive (message : Message) :
      Takes run (.arrive message) { run with waiting := run.waiting ++ [message] }
  | call {call : HandlerCall} {rest : List HandlerCall} (hdue : run.due = call :: rest) :
      Takes run .proceed { run with due := rest, marks := run.marks ++ [.called call] }
  | begin {message : Message} {rest : List Message} (hdue : run.due = [])
      (hwaiting : run.waiting = message :: rest) :
      Takes run .proceed
        { run with
          waiting := rest
          due := (run.dispatcher.handlersFor message).map fun handler => ⟨handler, message⟩
          marks := run.marks ++ [.begun message] }
  | rest (hdue : run.due = []) (hwaiting : run.waiting = []) : Takes run .proceed run

theorem takes_after (run : Dispatching) (event : DispatchEvent) :
    run.Takes event (run.after event) := by
  cases event with
  | alter change => exact .alter change
  | arrive message => exact .arrive message
  | proceed =>
      rw [after]
      split
      next hdue => exact .call hdue
      next hdue hwaiting => exact .begin hdue hwaiting
      next hdue hwaiting => exact .rest hdue hwaiting

theorem Takes.changes_eq (htakes : run.Takes event next) :
    changes next.marks = changes run.marks ++ event.change?.toList := by
  cases htakes with
  | alter | call | begin => exact changes_concat ..
  | arrive | rest => exact (List.append_nil _).symm

/-- Messages come up in the order in which they arrive. -/
theorem Takes.messages_eq (htakes : run.Takes event next) :
    messages next.marks ++ next.waiting =
      messages run.marks ++ run.waiting ++ event.arrival?.toList := by
  cases htakes with
  | alter | call => simp [messages_concat, message?, DispatchEvent.arrival?]
  | arrive => simp [DispatchEvent.arrival?]
  | begin _ hwaiting => simp [messages_concat, message?, DispatchEvent.arrival?, hwaiting]
  | rest => exact (List.append_nil _).symm

/-! ## One event -/

/-- A change concerns no calls. -/
theorem callsOf_changed (run : Dispatching) (later : List DispatchMark) (change : HandlerChange) :
    run.callsOf (later ++ [.changed change]) = run.callsOf later := by
  simp [callsOf, firstCalls_append, messages_concat, firstCalls, message?]

/-- A call that was due and has been made is still a call of its message. -/
theorem callsOf_called {call : HandlerCall} (hdue : run.due = call :: next.due)
    (later : List DispatchMark) :
    next.callsOf (later ++ [.called call]) = run.callsOf later := by
  by_cases hlatest : messages later = [] <;>
    simp [callsOf, firstCalls_append, messages_concat, firstCalls, message?, hdue, hlatest]

/-- A message comes up when no calls are due any more. -/
theorem callsOf_begun (hdue : run.due = []) (later : List DispatchMark) (message : Message) :
    next.callsOf (later ++ [.begun message]) = run.callsOf later := by
  simp [callsOf, firstCalls_append, messages_concat, firstCalls, message?, hdue]

/-- What the dispatcher keeps of the changes, and whom the messages have reached and will reach. -/
structure IsSteady (run : Dispatching) : Prop where
  records : run.dispatcher.Records (changes run.marks)
  idle : messages run.marks = [] → run.due = []
  silent : firstCalls run.marks = []
  calls : ∀ before message later, run.marks = before ++ .begun message :: later →
    AreExact (changes before) message (run.callsOf later)

theorem isSteady_start : start.IsSteady where
  records := Dispatcher.records_empty
  idle := fun _ => rfl
  silent := rfl
  calls := fun _ _ _ hmarks => absurd hmarks (by simp [start])

/-- The message that comes up reaches the handlers that the dispatcher has for it. -/
theorem IsSteady.areExact_handlersFor (hsteady : run.IsSteady) (message : Message) :
    AreExact (changes run.marks) message
      ((run.dispatcher.handlersFor message).map fun handler => ⟨handler, message⟩) := by
  constructor
  case mem_iff =>
    intro call
    rw [← hsteady.records.mem_get, List.mem_map]
    constructor
    · rintro ⟨handler, hhandler, rfl⟩
      exact ⟨rfl, hhandler⟩
    · rintro ⟨rfl, hhandler⟩
      exact ⟨call.handler, hhandler, rfl⟩
  case ordered =>
    rw [List.pairwise_map]
    exact hsteady.records.ordered message.key

/-- One more mark that is no message leaves the calls of the messages as they were. -/
theorem IsSteady.calls_concat (hsteady : run.IsSteady) {mark : DispatchMark}
    (hmark : mark.message? = none)
    (hcalls : ∀ later, next.callsOf (later ++ [mark]) = run.callsOf later) :
    ∀ before message later, run.marks ++ [mark] = before ++ .begun message :: later →
      AreExact (changes before) message (next.callsOf later) := by
  intro before message later hsplit
  rcases Parts.concat_eq_append_cons hsplit with ⟨-, -, rfl⟩ | ⟨between, rfl, hbefore⟩
  · exact absurd hmark (by simp [message?])
  · rw [hcalls]
    exact hsteady.calls before message between hbefore

theorem Takes.isSteady (htakes : run.Takes event next) (hsteady : run.IsSteady) :
    next.IsSteady := by
  cases htakes with
  | arrive | rest => exact ⟨hsteady.records, hsteady.idle, hsteady.silent, hsteady.calls⟩
  | alter change =>
      constructor
      case records =>
        rw [changes_concat]
        exact Dispatcher.records_changeAll hsteady.records [change]
      case idle =>
        intro hnone
        rw [messages_concat] at hnone
        exact hsteady.idle (List.append_eq_nil_iff.mp hnone).1
      case silent => simp [firstCalls_append, hsteady.silent, firstCalls]
      case calls =>
        exact hsteady.calls_concat rfl fun later => callsOf_changed run later change
  | @call call rest hdue =>
      have hbegun : messages run.marks ≠ [] := by
        intro hnone
        rw [hsteady.idle hnone] at hdue
        exact absurd hdue (by simp)
      constructor
      case records =>
        rw [changes_concat, DispatchMark.change?, Option.toList_none, List.append_nil]
        exact hsteady.records
      case idle =>
        intro hnone
        rw [messages_concat] at hnone
        exact absurd (List.append_eq_nil_iff.mp hnone).1 hbegun
      case silent => simp [firstCalls_append, hsteady.silent, hbegun]
      case calls => exact hsteady.calls_concat rfl fun later => callsOf_called hdue later
  | @begin message rest hdue hwaiting =>
      constructor
      case records =>
        rw [changes_concat, DispatchMark.change?, Option.toList_none, List.append_nil]
        exact hsteady.records
      case idle =>
        intro hnone
        rw [messages_concat] at hnone
        exact absurd (List.append_eq_nil_iff.mp hnone).2 (by simp [message?])
      case silent => simp [firstCalls_append, hsteady.silent, firstCalls]
      case calls =>
        intro before other later hsplit
        rcases Parts.concat_eq_append_cons hsplit with ⟨rfl, rfl, hlast⟩ | ⟨between, rfl, hbefore⟩
        · obtain rfl := DispatchMark.begun.inj hlast
          exact hsteady.areExact_handlersFor message
        · rw [callsOf_begun hdue]
          exact hsteady.calls before other between hbefore

/-! ## Whole runs -/

theorem isSteady_afterAll (hsteady : run.IsSteady) (events : List DispatchEvent) :
    (run.afterAll events).IsSteady := by
  induction events generalizing run with
  | nil => exact hsteady
  | cons event rest ih => exact ih ((takes_after run event).isSteady hsteady)

theorem IsSteady.isExact (hsteady : run.IsSteady) : run.IsExact := by
  constructor
  case silent => exact hsteady.silent
  case calls => exact hsteady.calls
  case dropped =>
    intro before change between message later hmarks command handler hstands htaken call hcall hid
    have hsplit : run.marks =
        (before ++ .changed change :: between) ++ .begun message :: later := by
      rw [hmarks, List.append_assoc, List.cons_append]
    obtain ⟨-, hreached⟩ := ((hsteady.calls _ message later hsplit).mem_iff call).mp hcall
    rw [changes_append] at hreached
    rcases Handler.stands_append hreached with ⟨hearlier, hkept⟩ | hlate
    · obtain ⟨hsame, -⟩ := hearlier.eq_of_same hstands (Or.inl hid)
      have hstill := hkept change List.mem_cons_self
      rw [hsame, htaken] at hstill
      exact absurd hstill (by decide)
    · have hless := hstands.id_lt
      rw [← hid] at hless
      exact absurd hlate (Nat.not_le.mpr hless)
  case added =>
    intro before message between change later hmarks call hcall
    obtain ⟨-, hreached⟩ := ((hsteady.calls before message _ hmarks).mem_iff call).mp hcall
    rw [changes_append, registrations_append]
    exact Nat.lt_of_lt_of_le hreached.id_lt (Nat.le_add_right _ _)

/-- What has happened is what the events say. -/
theorem marks_afterAll (run : Dispatching) (events : List DispatchEvent) :
    changes (run.afterAll events).marks =
        changes run.marks ++ events.filterMap DispatchEvent.change? ∧
      messages (run.afterAll events).marks ++ (run.afterAll events).waiting =
        messages run.marks ++ run.waiting ++ events.filterMap DispatchEvent.arrival? := by
  induction events generalizing run with
  | nil => simp [afterAll]
  | cons event rest ih =>
      obtain ⟨hchanges, hmessages⟩ := ih (run.after event)
      have htakes := takes_after run event
      rw [htakes.changes_eq] at hchanges
      rw [htakes.messages_eq] at hmessages
      rw [afterAll, List.foldl_cons, ← afterAll, hchanges, hmessages, List.filterMap_cons,
        List.filterMap_cons]
      cases event <;> simp [DispatchEvent.change?, DispatchEvent.arrival?]

/-- What is due and what waits is done with in the end. -/
theorem exists_settled (run : Dispatching) :
    ∃ steps, (run.afterAll (List.replicate steps .proceed)).due = [] ∧
      (run.afterAll (List.replicate steps .proceed)).waiting = [] := by
  obtain ⟨dispatcher, waiting, due, marks⟩ := run
  induction waiting generalizing due marks with
  | nil =>
      induction due generalizing marks with
      | nil => exact ⟨0, rfl, rfl⟩
      | cons call rest ih =>
          obtain ⟨steps, hsettled⟩ := ih (marks ++ [.called call])
          exact ⟨steps + 1, hsettled⟩
  | cons message others ihWaiting =>
      induction due generalizing marks with
      | nil =>
          obtain ⟨steps, hsettled⟩ := ihWaiting
            ((dispatcher.handlersFor message).map fun handler => ⟨handler, message⟩)
            (marks ++ [.begun message])
          exact ⟨steps + 1, hsettled⟩
      | cons call rest ih =>
          obtain ⟨steps, hsettled⟩ := ih (marks ++ [.called call])
          exact ⟨steps + 1, hsettled⟩

/-! ## Handlers that react -/

theorem afterAll_append (run : Dispatching) (events more : List DispatchEvent) :
    run.afterAll (events ++ more) = (run.afterAll events).afterAll more :=
  List.foldl_append

theorem afterAll_alter (run : Dispatching) (changes : List HandlerChange) :
    run.afterAll (changes.map .alter) =
      { run with
        dispatcher := run.dispatcher.changeAll changes
        marks := run.marks ++ changes.map .changed } := by
  induction changes generalizing run with
  | nil => simp [afterAll, Dispatcher.changeAll]
  | cons change rest ih =>
      have hrest := ih (run.after (.alter change))
      rw [List.map_cons, afterAll, List.foldl_cons, ← afterAll, hrest]
      simp [after, Dispatcher.changeAll]

def visit (handler : Handler) : List DispatchEvent :=
  .proceed :: handler.reaction.changes.map .alter

def visitMarks (call : HandlerCall) : List DispatchMark :=
  .called call :: call.handler.reaction.changes.map .changed

/-- A handler is called and does what it does before the next one is called. -/
theorem afterAll_visits (dispatcher : Dispatcher) (marks : List DispatchMark) (message : Message)
    (reached : List Handler) :
    afterAll ⟨dispatcher, [], reached.map fun handler => ⟨handler, message⟩, marks⟩
        (reached.flatMap visit) =
      ⟨reached.foldl (fun dispatcher handler => dispatcher.react handler.reaction) dispatcher,
        [], [], marks ++ (reached.map fun handler => ⟨handler, message⟩).flatMap visitMarks⟩ := by
  induction reached generalizing dispatcher marks with
  | nil => simp [afterAll]
  | cons handler rest ih =>
      have hcalled : (⟨dispatcher, [], (handler :: rest).map fun handler => ⟨handler, message⟩,
          marks⟩ : Dispatching).afterAll (visit handler) =
          ⟨dispatcher.react handler.reaction, [], rest.map fun handler => ⟨handler, message⟩,
            marks ++ visitMarks ⟨handler, message⟩⟩ := by
        rw [visit, afterAll, List.foldl_cons, ← afterAll, afterAll_alter, Dispatcher.react_eq]
        simp [after, visitMarks]
      rw [List.flatMap_cons, afterAll_append, hcalled, ih, List.foldl_cons, List.map_cons,
        List.flatMap_cons, List.append_assoc]

/-- To hand a message to its handlers, who then do what they do, is to go on event by event. -/
theorem afterAll_dispatch (hdue : run.due = []) (hwaiting : run.waiting = []) (message : Message) :
    run.afterAll (.arrive message :: .proceed ::
        (run.dispatcher.handlersFor message).flatMap visit) =
      ⟨(run.dispatcher.dispatch message).1, [], [],
        run.marks ++ .begun message ::
          (run.dispatcher.dispatch message).2.flatMap visitMarks⟩ := by
  obtain ⟨dispatcher, waiting, due, marks⟩ := run
  simp only at hdue hwaiting
  subst hdue hwaiting
  have hvisits := afterAll_visits dispatcher (marks ++ [.begun message]) message
    (dispatcher.handlersFor message)
  rw [List.append_assoc, List.singleton_append] at hvisits
  exact hvisits

/-- Whatever handlers are registered and dropped, before the messages, between the calls of one or
by the handlers themselves, every message reaches exactly the handlers of its command that stood
when it came up, each once and in the order of registration.  The messages come up in the order in
which they arrive, each of them in the end; and handing them out one by one, every handler doing
what it does when it is called, is a case of it. -/
theorem calls_those_who_stand (events : List DispatchEvent) :
    let run := start.afterAll events
    run.IsExact ∧
      changes run.marks = events.filterMap DispatchEvent.change? ∧
      messages run.marks ++ run.waiting = events.filterMap DispatchEvent.arrival? ∧
      (∃ steps, (run.afterAll (List.replicate steps .proceed)).due = [] ∧
        (run.afterAll (List.replicate steps .proceed)).waiting = []) ∧
      (run.due = [] → run.waiting = [] → ∀ message, ∃ more,
        run.afterAll more =
          ⟨(run.dispatcher.dispatch message).1, [], [],
            run.marks ++ .begun message ::
              (run.dispatcher.dispatch message).2.flatMap visitMarks⟩) := by
  intro run
  obtain ⟨hchanges, hmessages⟩ := marks_afterAll start events
  refine ⟨?_, hchanges, hmessages, exists_settled run, ?_⟩
  · exact (isSteady_afterAll isSteady_start events).isExact
  · intro hdue hwaiting message
    exact ⟨_, afterAll_dispatch hdue hwaiting message⟩

/-- A handler that gives way to another one gets the message that finds it, and no other. -/
example :
    let ping : Message := ⟨"PING", "", ' '⟩
    let handover : Reaction := .drop "own" (.register "Ping" "late" .nothing .nothing)
    let first := (Dispatcher.empty.register "ping" "own" handover).dispatch ping
    first.2.map (·.handler.label) = ["own"] ∧
      (first.1.dispatch ping).2.map (·.handler.label) = ["late"] := by
  decide

end Dispatching

end Muster
