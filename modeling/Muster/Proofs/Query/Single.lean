import Muster.Proofs.Query.Service

/-!
# The course of a single request

The one who makes a request indexes it, sends it, waits for its outcome or gives it up, and takes it
out of the index again.  Between any two of these steps others may do anything with the exchange.
-/

namespace Muster

open Exchange

/-- How far the one who makes a request has come. -/
inductive RequestStage where
  | made
  | placed
  | waiting
  /-- It is known how the request ended. -/
  | ended
  | withdrawn
  deriving DecidableEq

structure RequestRun where
  timed : Timed
  id : RequestId
  target : Endpoint
  /-- The time for the outcome once the request has been sent, in milliseconds. -/
  timeout : Nat
  stage : RequestStage

/-- What happens in the course of a single request. -/
inductive RequestEvent where
  /-- The request is indexed. -/
  | place
  /-- Its datagram is sent. -/
  | send
  /-- It turns out whether the datagram could be sent. -/
  | launch (isSent : Bool)
  /-- The outcome is taken. -/
  | hear
  /-- The request is given up. -/
  | cancel
  /-- The request is taken out of the index. -/
  | withdraw
  /-- Somebody else does something with the exchange. -/
  | other (call : Call)

namespace RequestRun

def start (target : Endpoint) (message : Message) (responseCommand : String) (timeout : Nat)
    (timed : Timed) : RequestRun :=
  ⟨timed.after (.create target message responseCommand timeout .caller), timed.exchange.nextId,
    target, timeout, .made⟩

/-- What an event does with the exchange, and how far the request has come then.  Nothing happens
before its time, and nobody but the one who made the request does anything with it. -/
def next? (run : RequestRun) : RequestEvent → Option (List Call × RequestStage)
  | .place => if run.stage = .made then some ([.insert run.id], .placed) else none
  | .send => if run.stage = .placed then some ([.markSent run.id], .placed) else none
  | .launch isSent =>
    if run.stage = .placed then
      if isSent then some ([.markSent run.id, .activate run.id], .waiting)
      else some ([.markSent run.id, .fail run.id (.sendFailed run.target)], .ended)
    else none
  | .hear =>
    if run.stage = .waiting ∧ run.timed.exchange.deliveriesTo run.id ≠ [] then some ([], .ended)
    else none
  | .cancel => if run.stage = .waiting then some ([.cancel run.id], .ended) else none
  | .withdraw => if run.stage = .ended then some ([.remove run.id], .withdrawn) else none
  | .other call => if call.subject? = some run.id then none else some ([call], run.stage)

def after (run : RequestRun) (event : RequestEvent) : RequestRun :=
  match run.next? event with
  | none => run
  | some (calls, stage) => { run with timed := run.timed.afterAll calls, stage }

def afterAll (run : RequestRun) (events : List RequestEvent) : RequestRun :=
  events.foldl after run

def indexed? (run : RequestRun) : RequestEvent → Option RequestId
  | .place => if run.stage = .made then some run.id else none
  | .send | .launch _ | .hear | .cancel | .withdraw | .other _ => none

variable {run : RequestRun} {event : RequestEvent} {calls : List Call} {stage : RequestStage}
  {request : Request}

/-- What an event does that is possible. -/
inductive Takes (run : RequestRun) : RequestEvent → List Call → RequestStage → Prop where
  | place (hstage : run.stage = .made) : Takes run .place [.insert run.id] .placed
  | send (hstage : run.stage = .placed) : Takes run .send [.markSent run.id] .placed
  | launched (hstage : run.stage = .placed) :
      Takes run (.launch true) [.markSent run.id, .activate run.id] .waiting
  | failed (hstage : run.stage = .placed) :
      Takes run (.launch false) [.markSent run.id, .fail run.id (.sendFailed run.target)] .ended
  | hear (hstage : run.stage = .waiting)
      (hdelivered : run.timed.exchange.deliveriesTo run.id ≠ []) : Takes run .hear [] .ended
  | cancel (hstage : run.stage = .waiting) : Takes run .cancel [.cancel run.id] .ended
  | withdraw (hstage : run.stage = .ended) : Takes run .withdraw [.remove run.id] .withdrawn
  | other {call : Call} (hsubject : call.subject? ≠ some run.id) :
      Takes run (.other call) [call] run.stage

theorem takes_of_next? (hnext : run.next? event = some (calls, stage)) :
    run.Takes event calls stage := by
  cases event with
  | launch isSent =>
      rw [next?] at hnext
      split_ifs at hnext with hstage hsent
      · obtain ⟨rfl, rfl⟩ := Prod.mk.inj (Option.some.inj hnext)
        exact hsent ▸ .launched hstage
      · obtain ⟨rfl, rfl⟩ := Prod.mk.inj (Option.some.inj hnext)
        exact Bool.eq_false_iff.mpr hsent ▸ .failed hstage
  | hear =>
      rw [next?] at hnext
      split_ifs at hnext with hheard
      obtain ⟨rfl, rfl⟩ := Prod.mk.inj (Option.some.inj hnext)
      exact .hear hheard.1 hheard.2
  | _ =>
      rw [next?] at hnext
      split_ifs at hnext with hpossible
      obtain ⟨rfl, rfl⟩ := Prod.mk.inj (Option.some.inj hnext)
      constructor
      exact hpossible

theorem after_of_next? (hnext : run.next? event = some (calls, stage)) :
    run.after event = { run with timed := run.timed.afterAll calls, stage } := by
  rw [after, hnext]

theorem after_of_none (hnext : run.next? event = none) : run.after event = run := by
  rw [after, hnext]

/-- A request stays the one that it is. -/
theorem after_eq (run : RequestRun) (event : RequestEvent) :
    run.after event =
      { run with timed := (run.after event).timed, stage := (run.after event).stage } := by
  rw [after]
  cases run.next? event <;> rfl

theorem afterAll_eq (run : RequestRun) (events : List RequestEvent) :
    run.afterAll events =
      { run with timed := (run.afterAll events).timed, stage := (run.afterAll events).stage } := by
  induction events generalizing run with
  | nil => rfl
  | cons event rest ih =>
      have hrest := ih (run.after event)
      rw [after_eq] at hrest
      rw [afterAll, List.foldl_cons, ← afterAll, after_eq]
      exact hrest

/-- The exchange is one with a history, and the request is held.  It is over from the time on at
which its outcome has been taken, and not indexed from the time on at which it was withdrawn. -/
structure IsSteady (run : RequestRun) : Prop where
  history : ∃ calls, run.timed = Timed.run calls
  isHeld : run.timed.exchange.IsHeld run.id
  timeout_eq : ∀ request, run.timed.exchange.get? run.id = some request →
    request.timeout = run.timeout
  launched : run.stage = .waiting → ∀ request, run.timed.exchange.get? run.id = some request →
    request.state ≠ .created
  isOver : run.stage = .ended ∨ run.stage = .withdrawn → run.timed.exchange.IsOver run.id
  contains_eq : run.stage = .withdrawn → run.timed.exchange.pending.contains run.id = false

theorem IsSteady.isOrderly (hsteady : run.IsSteady) :
    run.timed.exchange.IsOrderly ∧ run.timed.exchange.IsSwept := by
  obtain ⟨calls, htimed⟩ := hsteady.history
  rw [htimed]
  exact Timed.isOrderly_run calls

/-- Nothing has been delivered of a request that has not ended. -/
theorem IsSteady.isOver_of_delivered (hsteady : run.IsSteady)
    (hdelivered : run.timed.exchange.deliveriesTo run.id ≠ []) :
    run.timed.exchange.IsOver run.id := by
  obtain ⟨calls, htimed⟩ := hsteady.history
  obtain ⟨request, hget, hheld⟩ := hsteady.isHeld
  obtain ⟨-, hid⟩ := mem_of_get? hget
  refine ⟨request, hget, hheld, ?_⟩
  by_contra hopen
  rw [htimed] at hget hdelivered
  have hsilent := (Timed.account_run hget).silent (Bool.eq_false_iff.mpr hopen)
  rw [hid] at hsilent
  exact hdelivered hsilent

/-- A request is not released before it is withdrawn. -/
theorem Takes.not_release (htakes : run.Takes event calls stage) :
    Call.release run.id ∉ calls := by
  cases htakes with
  | other hsubject =>
      rw [List.mem_singleton]
      rintro rfl
      exact hsubject rfl
  | _ => simp

/-- A request that was withdrawn or whose outcome was taken is over. -/
theorem Takes.isOver (htakes : run.Takes event calls stage) (hsteady : run.IsSteady)
    (hstage : stage = .ended ∨ stage = .withdrawn) :
    (run.timed.afterAll calls).exchange.IsOver run.id := by
  obtain ⟨horderly, hswept⟩ := hsteady.isOrderly
  have hrelease := htakes.not_release
  cases htakes with
  | place | send | launched => exact absurd hstage (by decide)
  | failed =>
      obtain ⟨hnextOrderly, hnextSwept⟩ := Timed.isOrderly_after horderly hswept (.markSent run.id)
      have htarget : (Call.fail run.id (.sendFailed run.target)).target? = some run.id := rfl
      have hcall : Call.markSent run.id ≠ .release run.id := by simp
      have hheld := Timed.isHeld_after horderly hswept hsteady.isHeld hcall
      exact Timed.isOver_of_target? hnextOrderly hnextSwept hheld htarget
  | hear _ hdelivered => exact hsteady.isOver_of_delivered hdelivered
  | cancel =>
      have htarget : (Call.cancel run.id).target? = some run.id := rfl
      exact Timed.isOver_of_target? horderly hswept hsteady.isHeld htarget
  | withdraw hended =>
      exact Timed.keeps_afterAll horderly hswept (·.IsOver run.id) Timed.isOver_after
        (hsteady.isOver (Or.inl hended)) hrelease
  | other =>
      exact Timed.keeps_afterAll horderly hswept (·.IsOver run.id) Timed.isOver_after
        (hsteady.isOver hstage) hrelease

theorem Takes.contains_eq (htakes : run.Takes event calls stage) (hsteady : run.IsSteady)
    (hstage : stage = .withdrawn) :
    (run.timed.afterAll calls).exchange.pending.contains run.id = false := by
  obtain ⟨horderly, hswept⟩ := hsteady.isOrderly
  cases htakes with
  | withdraw => exact Timed.contains_after_remove horderly hsteady.isHeld
  | @other call hsubject =>
      have hleft := (hsteady.isOver (Or.inr hstage)).hasLeft horderly (hsteady.contains_eq hstage)
      have hcall : call ≠ .insert run.id := by
        rintro rfl
        exact hsubject rfl
      exact (Timed.hasLeft_after horderly hswept hleft hcall).contains_eq
  | _ => exact absurd hstage (by decide)

/-- Whoever waits for an outcome has sent the request off, or learned that it failed. -/
theorem Takes.launched_of_waiting (htakes : run.Takes event calls stage) (hsteady : run.IsSteady)
    (hstage : stage = .waiting) :
    ∀ request, (run.timed.afterAll calls).exchange.get? run.id = some request →
      request.state ≠ .created := by
  obtain ⟨earlier, htimed⟩ := hsteady.history
  cases htakes with
  | launched =>
      rw [htimed]
      intro request hget
      have hmarked : (Timed.run earlier).afterAll [.markSent run.id, .activate run.id] =
          (Timed.run (earlier ++ [.markSent run.id])).after (.activate run.id) := by
        rw [Timed.run_concat]
        rfl
      rw [hmarked] at hget
      exact Timed.state_ne_created_of_activate hget
  | @other call =>
      obtain ⟨first, hfirst, -⟩ := hsteady.isHeld
      have hlaunched := hsteady.launched hstage first hfirst
      intro request hget
      rw [htimed] at hfirst
      have hconcat : (Timed.run earlier).afterAll [call] = Timed.run (earlier ++ [call]) :=
        (Timed.run_concat earlier call).symm
      rw [htimed, hconcat] at hget
      exact Timed.state_ne_created hfirst hlaunched (List.prefix_append earlier [call]) hget
  | _ => exact absurd hstage (by decide)

theorem isSteady_after (hsteady : run.IsSteady) (event : RequestEvent) :
    (run.after event).IsSteady := by
  cases hnext : run.next? event with
  | none =>
      rw [after_of_none hnext]
      exact hsteady
  | some next =>
      obtain ⟨calls, stage⟩ := next
      obtain ⟨horderly, hswept⟩ := hsteady.isOrderly
      obtain ⟨earlier, htimed⟩ := hsteady.history
      have hhistory : run.timed.afterAll calls = Timed.run (earlier ++ calls) := by
        rw [htimed]
        exact List.foldl_append.symm
      have htakes := takes_of_next? hnext
      rw [after_of_next? hnext]
      constructor
      case history => exact ⟨earlier ++ calls, hhistory⟩
      case isHeld =>
        exact Timed.keeps_afterAll horderly hswept (·.IsHeld run.id) Timed.isHeld_after
          hsteady.isHeld htakes.not_release
      case timeout_eq =>
        obtain ⟨first, hfirst, -⟩ := hsteady.isHeld
        intro request hget
        have htimeout := hsteady.timeout_eq first hfirst
        rw [htimed] at hfirst
        simp only [hhistory] at hget
        have hcontinues :=
          Timed.continues_lasting hfirst (List.prefix_append earlier calls) hget
        exact hcontinues.timeout_eq.trans htimeout
      case launched => exact htakes.launched_of_waiting hsteady
      case isOver => exact htakes.isOver hsteady
      case contains_eq => exact htakes.contains_eq hsteady

theorem isSteady_start (calls : List Call) (target : Endpoint) (message : Message)
    (responseCommand : String) (timeout : Nat) :
    (start target message responseCommand timeout (Timed.run calls)).IsSteady := by
  obtain ⟨horderly, hswept⟩ := Timed.isOrderly_run calls
  let creation : Call := .create target message responseCommand timeout .caller
  have hmade : (Timed.run calls).made? creation = some ((Timed.run calls).exchange.made target
      message responseCommand timeout .caller (Timed.run calls).now) := rfl
  have hknown := Timed.made_after horderly hswept hmade
  refine ⟨⟨calls ++ [creation], (Timed.run_concat calls creation).symm⟩, ⟨_, hknown, rfl⟩, ?_, ?_,
    ?_, ?_⟩
  · intro request hget
    rw [← Option.some.inj (hknown.symm.trans hget)]
    rfl
  · simp [start]
  · simp [start]
  · simp [start]

theorem isSteady_afterAll (hsteady : run.IsSteady) (events : List RequestEvent) :
    (run.afterAll events).IsSteady := by
  induction events generalizing run with
  | nil => exact hsteady
  | cons event rest ih => exact ih (isSteady_after hsteady event)

/-! ## Other requests -/

/-- Nothing but indexing the request has an effect on others. -/
theorem respects_after (hsteady : run.IsSteady) (hevent : ∀ call, event ≠ .other call)
    (hget : run.timed.exchange.get? request.id = some request) (hid : run.id ≠ request.id) :
    Respects run.timed.exchange (run.after event).timed.exchange (run.indexed? event) request := by
  obtain ⟨horderly, hswept⟩ := hsteady.isOrderly
  have hspares : ∀ calls : List Call, (∀ call ∈ calls, call.subject? = some run.id ∧
      call ≠ .insert run.id) →
        Spares run.timed.exchange (run.timed.afterAll calls).exchange request := by
    intro calls hcalls
    refine Timed.spares_of_subjects horderly hswept hget ?_
    intro call hcall
    exact ⟨run.id, (hcalls call hcall).1, hid, (hcalls call hcall).2⟩
  cases hnext : run.next? event with
  | none =>
      have hindexed : run.indexed? event = none := by
        cases event with
        | place => exact if_neg fun hstage => by simp [next?, hstage] at hnext
        | _ => rfl
      rw [after_of_none hnext, hindexed]
      exact .refl hget
  | some next =>
      obtain ⟨calls, stage⟩ := next
      rw [after_of_next? hnext]
      cases takes_of_next? hnext with
      | place hstage =>
          rw [indexed?, if_pos hstage]
          exact Timed.respects_insert horderly hswept hget hid
      | hear => exact .refl hget
      | other => exact absurd rfl (hevent _)
      | _ => exact hspares _ (by simp [Call.subject?])

/-! ## Round trips -/

/-- A request can have come so far when the exchange is in some state. -/
def Reaches (began : RequestRun) (stage : RequestStage) (timed : Timed) : Prop :=
  ∃ events, (began.afterAll events).stage = stage ∧ (began.afterAll events).timed = timed

variable {began : RequestRun} {timed : Timed} {later : RequestStage}

/-- An event that is possible leads a request from where it can have come to where it can go on. -/
theorem Reaches.next (hreaches : began.Reaches stage timed) (event : RequestEvent)
    (hnext : { began with timed, stage }.next? event = some (calls, later)) :
    began.Reaches later (timed.afterAll calls) := by
  obtain ⟨events, rfl, rfl⟩ := hreaches
  rw [← afterAll_eq] at hnext
  refine ⟨events ++ [event], ?_⟩
  have hlast : began.afterAll (events ++ [event]) = (began.afterAll events).after event :=
    List.foldl_concat ..
  rw [hlast, after_of_next? hnext]
  exact ⟨rfl, rfl⟩

theorem Reaches.isSteady (hsteady : began.IsSteady) (hreaches : began.Reaches stage timed) :
    { began with timed, stage }.IsSteady := by
  obtain ⟨events, rfl, rfl⟩ := hreaches
  rw [← afterAll_eq]
  exact isSteady_afterAll hsteady events

/-- Calls that name no request take nothing from where a request has come. -/
theorem Reaches.others (hreaches : began.Reaches stage timed)
    (hcalls : ∀ call ∈ calls, call.subject? = none) :
    began.Reaches stage (timed.afterAll calls) := by
  induction calls generalizing timed with
  | nil => exact hreaches
  | cons call rest ih =>
      rw [List.forall_mem_cons] at hcalls
      have hnext : { began with timed, stage }.next? (.other call) = some ([call], stage) := by
        rw [next?, hcalls.1]
        exact if_neg (by simp)
      exact ih (hreaches.next (.other call) hnext) hcalls.2

end RequestRun

namespace QueryService

variable {service : QueryService} {began : RequestRun} {stage : RequestStage}

theorem timed_transmit (service : QueryService) (target : Endpoint) (message : Message) :
    (service.transmit target message).timed = service.timed := by
  have hnow : (service.transmit target message).now = service.now := by
    rw [now, network_transmit]
    split_ifs <;> rfl
  rw [timed, exchange_transmit, hnow]
  rfl

/-- Answers that arrive one after the other. -/
theorem timed_settle (service : QueryService) :
    ∃ calls, (∀ call ∈ calls, call.subject? = none) ∧
      service.settle.timed = service.timed.afterAll calls := by
  have hall : ∀ (replies : List Reply) (service : QueryService),
      ∃ calls, (∀ call ∈ calls, call.subject? = none) ∧
        (replies.foldl receive service).timed = service.timed.afterAll calls := by
    intro replies
    induction replies with
    | nil => exact fun service => ⟨[], by simp, rfl⟩
    | cons reply rest ih =>
        intro service
        obtain ⟨first, hfirst, htimed, -⟩ := timed_receive service reply
        obtain ⟨more, hmore, hrest⟩ := ih (service.receive reply)
        refine ⟨first ++ more, ?_, ?_⟩
        · intro call hcall
          exact (List.mem_append.mp hcall).elim (hfirst call) (hmore call)
        · rw [List.foldl_cons, hrest, htimed, Timed.afterAll_append]
  exact hall service.arriving { service with arriving := [] }

/-- The outcome that the service has is one that was delivered. -/
theorem deliveriesTo_of_outcomeOf? {id : RequestId} {outcome : Outcome}
    (houtcome : service.outcomeOf? id = some outcome) :
    service.exchange.deliveriesTo id ≠ [] := by
  obtain ⟨delivery, hdelivery, -⟩ := Option.map_eq_some_iff.mp houtcome
  have hown := List.find?_some hdelivery
  have hmember : delivery ∈ service.exchange.deliveriesTo id :=
    List.mem_filter.mpr ⟨List.mem_of_find?_eq_some hdelivery, hown⟩
  exact List.ne_nil_of_mem hmember

/-- Waiting until the time for the outcome is over is waiting long enough. -/
theorem deliveriesTo_of_advance (hsteady : began.IsSteady)
    (hreaches : began.Reaches .waiting service.timed) :
    (service.advance began.timeout).exchange.deliveriesTo began.id ≠ [] := by
  have hnow := hreaches.isSteady hsteady
  obtain ⟨calls, htimed⟩ := hnow.history
  obtain ⟨request, hget, hheld⟩ := hnow.isHeld
  have hstate := hnow.launched rfl request hget
  have htimeout := hnow.timeout_eq request hget
  simp only at htimed hget htimeout
  rw [htimed] at hget
  have hover := Timed.isOver_of_advance hget hheld hstate (Nat.le_of_eq htimeout)
  have hadvanced : (service.advance began.timeout).timed =
      Timed.run (calls ++ [.advance began.timeout]) := by
    rw [Timed.run_concat, ← htimed]
    rfl
  rw [← Timed.run_concat] at hover
  have hheard := Timed.deliveriesTo_ne_nil hover
  rw [← hadvanced] at hheard
  exact hheard

/-- The service waits until it knows how a request that it has sent ended. -/
theorem reaches_await (hsteady : began.IsSteady) (hreaches : began.Reaches .waiting service.timed)
    (patience : Patience) :
    began.Reaches .ended (service.await began.id began.timeout patience).1.timed := by
  obtain ⟨settled, hsettle⟩ : ∃ settled, (if patience = .none then service else service.settle) =
      settled := ⟨_, rfl⟩
  have hsettled : began.Reaches .waiting settled.timed := by
    rw [← hsettle]
    split_ifs
    · exact hreaches
    · obtain ⟨calls, hcalls, htimed⟩ := timed_settle service
      rw [htimed]
      exact hreaches.others hcalls
  have hhear : ∀ next : QueryService, began.Reaches .waiting next.timed →
      next.exchange.deliveriesTo began.id ≠ [] → began.Reaches .ended next.timed :=
    fun next hwaiting hheard => hwaiting.next .hear (if_pos ⟨rfl, hheard⟩)
  simp only [await, hsettle]
  cases houtcome : settled.outcomeOf? began.id with
  | some outcome => exact hhear settled hsettled (deliveriesTo_of_outcomeOf? houtcome)
  | none =>
      simp only
      split_ifs
      · have hcalls : ∀ call ∈ [Call.advance began.timeout], call.subject? = none := by
          simp [Call.subject?]
        exact hhear (settled.advance began.timeout) (hsettled.others hcalls)
          (deliveriesTo_of_advance hsteady hsettled)
      · have hgiven : began.Reaches .ended (settled.timed.afterAll [.cancel began.id]) :=
          hsettled.next .cancel rfl
        exact hgiven

/-- The service lets go of a request that has ended. -/
theorem exists_retired (hended : began.Reaches .ended service.timed) :
    ∃ events, (began.afterAll events).stage = .withdrawn ∧
      (service.retire began.id).timed =
        (began.afterAll events).timed.after (.release (began.afterAll events).id) := by
  have hwithdrawn : began.Reaches .withdrawn (service.timed.afterAll [.remove began.id]) :=
    hended.next .withdraw rfl
  obtain ⟨events, hstage, htimed⟩ := hwithdrawn
  refine ⟨events, hstage, ?_⟩
  rw [RequestRun.afterAll_eq, htimed]
  rfl

/-- A round trip is the course of a single request to its end.  After that the service lets go of
the request, and answers that are still under way may arrive. -/
theorem roundTrip_eq (hservice : ∃ calls, service.timed = Timed.run calls) (target : Endpoint)
    (message : Message) (responseCommand : String) (timeout : Nat) (patience : Patience) :
    ∃ events calls,
      let run := (RequestRun.start target message responseCommand timeout service.timed).afterAll
        events
      run.stage = .withdrawn ∧ (∀ call ∈ calls, call.subject? = none) ∧
        (service.roundTrip target message responseCommand timeout patience).1.timed =
          (run.timed.after (.release run.id)).afterAll calls := by
  let began := RequestRun.start target message responseCommand timeout service.timed
  have hsteady : began.IsSteady := by
    obtain ⟨calls, htimed⟩ := hservice
    have hstart := RequestRun.isSteady_start calls target message responseCommand timeout
    rwa [← htimed] at hstart
  have hstart : began.Reaches .made began.timed := ⟨[], rfl, rfl⟩
  have hplaced : began.Reaches .placed (began.timed.afterAll [.insert began.id]) :=
    hstart.next .place rfl
  let id := service.exchange.nextId
  let placed := ((service.exchange.create target message responseCommand timeout .caller
    service.now).insert id).1.markSent id service.now
  let sent := { service with exchange := (placed.activate id service.now).1 }.transmit target
    message
  let failed := { service with exchange := (placed.fail id (.sendFailed target)).1 }
  have hround : (service.roundTrip target message responseCommand timeout patience).1 =
      if service.canSend target then ((sent.await id timeout patience).1.retire id).settle
      else failed.retire id := by
    rw [roundTrip]
    split_ifs <;> rfl
  rw [hround]
  split_ifs
  · have hlaunched : began.Reaches .waiting ((began.timed.afterAll [.insert began.id]).afterAll
        [.markSent began.id, .activate began.id]) := hplaced.next (.launch true) rfl
    have hsent : sent.timed = (began.timed.afterAll [.insert began.id]).afterAll
        [.markSent began.id, .activate began.id] := timed_transmit ..
    rw [← hsent] at hlaunched
    obtain ⟨events, hstage, htimed⟩ := exists_retired (reaches_await hsteady hlaunched patience)
    obtain ⟨calls, hcalls, hsettled⟩ := timed_settle
      ((sent.await id timeout patience).1.retire id)
    refine ⟨events, calls, hstage, hcalls, ?_⟩
    rw [hsettled]
    exact congrArg (Timed.afterAll · calls) htimed
  · have hfailed : began.Reaches .ended failed.timed := hplaced.next (.launch false) rfl
    obtain ⟨events, hstage, htimed⟩ := exists_retired hfailed
    exact ⟨events, [], hstage, by simp, htimed⟩

end QueryService

end Muster
