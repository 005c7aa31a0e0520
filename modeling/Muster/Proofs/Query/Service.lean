import Muster.Proofs.Query.Answers
import Muster.Proofs.Query.Custody

/-!
# Batches of the query service

Whatever the query service does for a batch is part of the course of one.  It starts its lookups in
their order and sends its requests one after the other; answers that arrive and time that passes are
what others do with its exchange.  The service takes all outcomes that are there before it closes
the batch.
-/

namespace Muster

open Exchange

variable {kind : ProbeKind}

/-! ## Lookups -/

namespace Lookups

theorem started_prefix (resolve : HostPort → Resolution) (room : Nat) (servers : List HostPort) :
    started resolve room servers <+: servers := by
  induction servers generalizing room with
  | nil => exact List.nil_prefix
  | cons server rest ih =>
      cases room with
      | zero => exact List.nil_prefix
      | succ room =>
          rw [started, List.prefix_cons_inj]
          exact ih _

/-- All lookups are started where none of them keeps its place. -/
theorem started_of_complete {resolve : HostPort → Resolution} {servers : List HostPort}
    (hcomplete : complete resolve servers) (room : Nat) :
    started resolve (room + 1) servers = servers := by
  induction servers with
  | nil => rfl
  | cons server rest ih =>
      rw [complete, List.all_cons, Bool.and_eq_true, bne_iff_ne] at hcomplete
      rw [started, if_neg hcomplete.1, ih hcomplete.2]

end Lookups

/-! ## Datagrams -/

def Network.asked (network : Network) (kind : ProbeKind) (endpoints : List Endpoint) : Network :=
  endpoints.foldl (fun network endpoint => (network.deliver endpoint kind.request.encode).1) network

theorem Network.asked_concat (network : Network) (kind : ProbeKind) (endpoints : List Endpoint)
    (endpoint : Endpoint) :
    network.asked kind (endpoints ++ [endpoint]) =
      ((network.asked kind endpoints).deliver endpoint kind.request.encode).1 :=
  List.foldl_concat ..

/-- The time of sending is taken once. -/
theorem Exchange.markSent_markSent (exchange : Exchange) (id : RequestId) (now : Nat) :
    (exchange.markSent id now).markSent id now = exchange.markSent id now := by
  have htwice :
      (fun request : Request => if request.id = id then request.markSent now else request) ∘
        (fun request => if request.id = id then request.markSent now else request) =
          fun request => if request.id = id then request.markSent now else request := by
    funext request
    simp only [Function.comp_apply, Request.markSent]
    split_ifs <;> rfl
  rw [markSent, markSent, modify, modify, List.map_map, htwice]

theorem Batch.launch_markSent {batch : Batch kind} {target : BatchTarget}
    (hplaced : batch.placed = some target) (exchange : Exchange) (isSent : Bool) (now : Nat) :
    batch.launch (exchange.markSent target.request now) isSent now =
      batch.launch exchange isSent now := by
  rw [launch, launch, hplaced]
  simp only [Exchange.markSent_markSent]

namespace BatchRun

section

variable (lead : HostPort → Option Endpoint) (timeout : Nat)

def afterAll (run : BatchRun kind) (events : List BatchEvent) : BatchRun kind :=
  events.foldl (after lead timeout) run

end

variable {lead : HostPort → Option Endpoint} {timeout : Nat} {servers : List HostPort}

theorem course_append (kind : ProbeKind) (servers : List HostPort) (timed : Timed)
    (events more : List BatchEvent) :
    course lead timeout kind servers timed (events ++ more) =
      (course lead timeout kind servers timed events).afterAll lead timeout more :=
  List.foldl_append

/-- Others do things that name no request. -/
theorem afterAll_others (run : BatchRun kind) {calls : List Call}
    (hcalls : ∀ call ∈ calls, call.subject? = none) :
    run.afterAll lead timeout (calls.map .other) =
      { run with
        timed := run.timed.afterAll calls
        heard := run.heard ++ calls.filterMap Call.heard? } := by
  induction calls generalizing run with
  | nil =>
      rw [List.filterMap_nil, List.append_nil]
      rfl
  | cons call rest ih =>
      rw [List.forall_mem_cons] at hcalls
      have hown : run.isOwn call = false := by rw [isOwn, hcalls.1]; rfl
      have hfirst : run.after lead timeout (.other call) =
          { run with
            timed := run.timed.after call
            heard := run.heard ++ call.heard?.toList } := by
        rw [after, hown, if_neg Bool.false_ne_true]
      rw [List.map_cons, afterAll, List.foldl_cons, ← afterAll, hfirst, ih _ hcalls.2,
        Call.filterMap_heard?_cons, ← List.append_assoc]
      rfl

/-- A batch that begins with lookups alone has started as many of them. -/
theorem course_lookUp (kind : ProbeKind) (servers : List HostPort) (timed : Timed)
    (count : Nat) :
    course lead timeout kind servers timed (List.replicate count .lookUp) =
      { start kind servers timed with lookups := (Lookups.distinct servers).take count } := by
  induction count with
  | zero => rfl
  | succ count ih =>
      have hnext : (Lookups.distinct servers).take
          (((Lookups.distinct servers).take count).length + 1) =
            (Lookups.distinct servers).take (count + 1) := by
        rw [List.length_take, List.take_eq_take_iff]
        omega
      rw [List.replicate_succ', course_concat, ih, after]
      exact congrArg (fun lookups => { start kind servers timed with lookups }) hnext

/-- No request is indexed that has not been sent or failed. -/
def IsReady (run : BatchRun kind) : Prop :=
  run.batch.placed = none ∧ run.isOut = false

def sending (canSend : Bool) : List BatchEvent :=
  [.place] ++ (if canSend then [.send] else []) ++ [.launch canSend]

variable {run : BatchRun kind} {target : BatchTarget} {rest : List BatchTarget}

/-- A request of a batch is placed and sent in two events. -/
theorem afterAll_sending (hready : run.IsReady) (hwaiting : run.batch.waiting = target :: rest)
    (canSend : Bool) :
    run.afterAll lead timeout (sending canSend) =
      { run.act ((run.batch.place run.timed.exchange).1.launch
          (run.batch.place run.timed.exchange).2 canSend run.timed.now) with
        isOut := false
        probed := run.probed ++ if canSend then [target.endpoint] else [] } := by
  obtain ⟨hplaced, hout⟩ := hready
  let placed := run.batch.place run.timed.exchange
  have hnext : placed.1.placed = some target := by
    simp only [placed, Batch.place, hplaced, hwaiting]
  cases canSend with
  | false =>
      rw [if_neg Bool.false_ne_true, List.append_nil]
      rfl
  | true =>
      have hsent : (run.after lead timeout .place).after lead timeout .send =
          { run.act placed with
            timed := ⟨placed.2.markSent target.request run.timed.now, run.timed.now⟩
            isOut := true
            probed := run.probed ++ [target.endpoint] } := by
        have hplace : run.after lead timeout .place = run.act placed := rfl
        have hactPlaced : (run.act placed).batch.placed = some target := hnext
        rw [hplace, after, hactPlaced]
        exact if_neg (by rw [act, hout]; exact Bool.false_ne_true)
      have hlaunch := Batch.launch_markSent hnext placed.2 true run.timed.now
      rw [if_pos rfl, afterAll, sending, if_pos rfl, List.singleton_append, List.cons_append,
        List.foldl_cons, List.singleton_append, List.foldl_cons, hsent, List.foldl_cons,
        List.foldl_nil, after]
      simp only [act, hlaunch, placed]

theorem isReady_sending (lead : HostPort → Option Endpoint) (timeout : Nat) (canSend : Bool)
    (hready : run.IsReady) (hwaiting : run.batch.waiting = target :: rest) :
    (run.afterAll lead timeout (sending canSend)).IsReady := by
  rw [afterAll_sending hready hwaiting]
  exact ⟨congrArg Batch.placed (Batch.launch_fst ..), rfl⟩

end BatchRun

namespace QueryService

def timed (service : QueryService) : Timed :=
  ⟨service.exchange, service.now⟩

/-- The service has come as far with a batch as the course of the batch says.  Since it began, it
has looked up and asked what the batch has, and nothing else. -/
structure Shows (began service : QueryService) (batch : Batch kind) (run : BatchRun kind) :
    Prop where
  timed_eq : service.timed = run.timed
  batch_eq : batch = run.batch
  lookups_eq : service.lookups = began.lookups + run.lookups.length
  network_eq : service.network =
    { began.network.asked kind run.probed with now := service.now }

variable {lead : HostPort → Option Endpoint} {timeout : Nat} {servers : List HostPort}
  {began service next : QueryService} {batch : Batch kind} {run : BatchRun kind}

/-- The service has come somewhere in the course of the batch. -/
def IsOnCourse (lead : HostPort → Option Endpoint) (timeout : Nat) (servers : List HostPort)
    (began service : QueryService) (batch : Batch kind) : Prop :=
  ∃ events, began.Shows service batch
    (BatchRun.course lead timeout kind servers began.timed events)

theorem exchange_of_shows (hshows : began.Shows service batch run) :
    service.exchange = run.timed.exchange :=
  congrArg Timed.exchange hshows.timed_eq

theorem now_of_shows (hshows : began.Shows service batch run) : service.now = run.timed.now :=
  congrArg Timed.now hshows.timed_eq

/-! ## Waiting -/

/-- The service waits: others do something with its exchange, and it asks nobody. -/
theorem isOnCourse_others (hcourse : began.IsOnCourse lead timeout servers service batch)
    {calls : List Call} (hcalls : ∀ call ∈ calls, call.subject? = none)
    (htimed : next.timed = service.timed.afterAll calls) (hlookups : next.lookups = service.lookups)
    (hnetwork : next.network = { service.network with now := next.now }) :
    began.IsOnCourse lead timeout servers next batch := by
  obtain ⟨events, hshows⟩ := hcourse
  refine ⟨events ++ calls.map .other, ?_⟩
  rw [BatchRun.course_append, BatchRun.afterAll_others _ hcalls]
  refine ⟨?_, hshows.batch_eq, hlookups.trans hshows.lookups_eq, ?_⟩
  · rw [htimed, hshows.timed_eq]
  · rw [hnetwork, hshows.network_eq]

/-- An answer that arrives is handed out after the time that it took, if it can be read. -/
theorem timed_receive (service : QueryService) (reply : Reply) :
    ∃ calls, (∀ call ∈ calls, call.subject? = none) ∧
      (service.receive reply).timed = service.timed.afterAll calls ∧
      (service.receive reply).lookups = service.lookups ∧
      (service.receive reply).network =
        { service.network with now := (service.receive reply).now } := by
  have hadvance : ∃ calls, (∀ call ∈ calls, call.subject? = none) ∧
      (service.advance reply.delay).timed = service.timed.afterAll calls ∧
      (service.advance reply.delay).lookups = service.lookups ∧
      (service.advance reply.delay).network =
        { service.network with now := (service.advance reply.delay).now } :=
    ⟨[.advance reply.delay], by simp [Call.subject?], rfl, rfl, rfl⟩
  rw [receive]
  cases Message.decode reply.datagram with
  | error _ => exact hadvance
  | ok message =>
      simp only
      split_ifs
      · exact ⟨[.advance reply.delay,
          .dispatch ⟨reply.sender, message, (service.advance reply.delay).now⟩],
          by simp [Call.subject?], rfl, rfl, rfl⟩
      · exact hadvance

theorem isOnCourse_advance (hcourse : began.IsOnCourse lead timeout servers service batch)
    (milliseconds : Nat) :
    began.IsOnCourse lead timeout servers (service.advance milliseconds) batch := by
  have hcalls : ∀ call ∈ [Call.advance milliseconds], call.subject? = none := by
    simp [Call.subject?]
  exact isOnCourse_others hcourse hcalls rfl rfl rfl

theorem isOnCourse_receive (hcourse : began.IsOnCourse lead timeout servers service batch)
    (reply : Reply) :
    began.IsOnCourse lead timeout servers (service.receive reply) batch := by
  obtain ⟨calls, hcalls, htimed, hlookups, hnetwork⟩ := timed_receive service reply
  exact isOnCourse_others hcourse hcalls htimed hlookups hnetwork

/-! ## Taking outcomes -/

/-- Taking deliveries goes on with the course of the batch. -/
theorem isOnCourse_collectUpTo (limit : Nat)
    (hcourse : began.IsOnCourse lead timeout servers service batch) :
    began.IsOnCourse lead timeout servers
      { service with
        exchange := (Batch.collectUpTo service.now limit batch service.exchange).2 }
      (Batch.collectUpTo service.now limit batch service.exchange).1 := by
  induction limit generalizing service batch with
  | zero => exact hcourse
  | succ limit ih =>
      rw [Batch.collectUpTo]
      cases hdelivery : batch.nextDelivery? service.exchange with
      | none => exact hcourse
      | some delivery =>
          obtain ⟨events, hshows⟩ := hcourse
          have hcollected : began.IsOnCourse lead timeout servers
              { service with
                exchange := (batch.collect service.exchange delivery service.now).2 }
              (batch.collect service.exchange delivery service.now).1 := by
            refine ⟨events ++ [.collect], ?_⟩
            have hnow := now_of_shows hshows
            rw [exchange_of_shows hshows, hshows.batch_eq] at hdelivery
            rw [BatchRun.course_concat, BatchRun.after, hdelivery, exchange_of_shows hshows,
              hnow, hshows.batch_eq]
            exact ⟨congrArg (Timed.mk _) hnow, rfl, hshows.lookups_eq, hshows.network_eq⟩
          exact ih hcollected

theorem isOnCourse_collectBatch (hcourse : began.IsOnCourse lead timeout servers service batch) :
    began.IsOnCourse lead timeout servers (service.collectBatch batch).1
      (service.collectBatch batch).2 :=
  isOnCourse_collectUpTo batch.targets.length hcourse

/-! ## Sending -/

theorem network_transmit (service : QueryService) (target : Endpoint) (message : Message) :
    (service.transmit target message).network =
      if service.canSend target then (service.network.deliver target message.encode).1
      else service.network := by
  rw [transmit]
  split_ifs <;> rfl

theorem lookups_transmit (service : QueryService) (target : Endpoint) (message : Message) :
    (service.transmit target message).lookups = service.lookups := by
  rw [transmit]
  split_ifs <;> rfl

/-- The next request of a batch is sent. -/
theorem shows_sending (lead : HostPort → Option Endpoint) (timeout : Nat)
    (hshows : began.Shows service batch run) (hready : run.IsReady)
    {target : BatchTarget} {rest : List BatchTarget} (hwaiting : batch.waiting = target :: rest) :
    began.Shows
      ({ service with exchange := ((batch.place service.exchange).1.launch
          (batch.place service.exchange).2 (service.canSend target.endpoint) service.now).2
        }.transmit target.endpoint kind.request)
      ((batch.place service.exchange).1.launch (batch.place service.exchange).2
        (service.canSend target.endpoint) service.now).1
      (run.afterAll lead timeout (BatchRun.sending (service.canSend target.endpoint))) := by
  have hnow := now_of_shows hshows
  rw [hshows.batch_eq] at hwaiting
  rw [BatchRun.afterAll_sending hready hwaiting, exchange_of_shows hshows, hnow, hshows.batch_eq]
  have hsame : ∀ exchange : Exchange, ({ service with exchange }.transmit target.endpoint
      kind.request).now = service.now := by
    intro exchange
    rw [now, network_transmit]
    split_ifs <;> rfl
  refine ⟨?_, rfl, ?_, ?_⟩
  · rw [timed, exchange_transmit, hsame, hnow]
    rfl
  · rw [lookups_transmit]
    exact hshows.lookups_eq
  · rw [hsame, network_transmit]
    have hsends : ∀ exchange : Exchange, ({ service with exchange } : QueryService).canSend
        target.endpoint = service.canSend target.endpoint := fun _ => rfl
    rw [hsends]
    split_ifs with hsend
    · rw [Network.asked_concat, hshows.network_eq]
      rfl
    · rw [List.append_nil]
      exact hshows.network_eq

/-- Sending requests goes on with the course of the batch, as long as one was not left half way. -/
theorem isOnCourse_sendUpTo (limit : Nat) (events : List BatchEvent)
    (hshows : began.Shows service batch
      (BatchRun.course lead timeout kind servers began.timed events))
    (hready : (BatchRun.course lead timeout kind servers began.timed events).IsReady) :
    began.IsOnCourse lead timeout servers (sendUpTo limit service batch).1
      (sendUpTo limit service batch).2 := by
  induction limit generalizing service batch events with
  | zero => exact ⟨events, hshows⟩
  | succ limit ih =>
      rw [sendUpTo]
      cases hwaiting : batch.waiting with
      | nil => exact ⟨events, hshows⟩
      | cons target rest =>
          let more := BatchRun.sending (service.canSend target.endpoint)
          have hnext := shows_sending lead timeout hshows hready hwaiting
          have hnextReady := BatchRun.isReady_sending lead timeout
            (service.canSend target.endpoint) hready (hshows.batch_eq ▸ hwaiting)
          rw [← BatchRun.course_append] at hnext hnextReady
          exact ih (events ++ more) hnext hnextReady

/-- A batch that has been opened is at the beginning of its course. -/
theorem isOnCourse_openBatch (service : QueryService) (kind : ProbeKind)
    (servers : List HostPort) (timeout : Nat) :
    service.IsOnCourse (Lookups.endpoint? service.resolve) (service.batchRequestTimeout timeout)
      servers (service.openBatch kind servers timeout).1
      (service.openBatch kind servers timeout).2 := by
  let lead := Lookups.endpoint? service.resolve
  let limit := service.batchRequestTimeout timeout
  let distinct := Lookups.distinct servers
  let started :=
    Lookups.started service.resolve (max service.config.resolveConcurrency 1) distinct
  let lookedUp := { service with lookups := service.lookups + started.length }
  have hprefix : distinct.take started.length = started :=
    (List.prefix_iff_eq_take.mp (Lookups.started_prefix ..)).symm
  have hstart : service.Shows lookedUp (Batch.start kind servers)
      { BatchRun.start kind servers service.timed with lookups := started } :=
    ⟨rfl, rfl, rfl, rfl⟩
  simp only [openBatch]
  split_ifs with hcomplete
  · have hall : started = distinct := by
      obtain ⟨room, hroom⟩ := Nat.exists_eq_succ_of_ne_zero
        (Nat.ne_of_gt (Nat.le_max_right service.config.resolveConcurrency 1))
      have hroomy := Lookups.started_of_complete hcomplete room
      rw [← Nat.succ_eq_add_one, ← hroom] at hroomy
      exact hroomy
    apply isOnCourse_sendUpTo _ (List.replicate started.length .lookUp ++ [.resolve])
    · rw [BatchRun.course_concat, BatchRun.course_lookUp, hprefix, hall, BatchRun.after, if_pos]
      · exact ⟨rfl, rfl, congrArg (service.lookups + List.length ·) hall, rfl⟩
      · exact beq_self_eq_true distinct
    · rw [BatchRun.course_concat, BatchRun.course_lookUp, hprefix, hall, BatchRun.after, if_pos]
      · exact ⟨Batch.placed_emitAll .., rfl⟩
      · exact beq_self_eq_true distinct
  · refine ⟨List.replicate started.length .lookUp, ?_⟩
    rw [BatchRun.course_lookUp, hprefix]
    exact hstart

/-! ## Whole batches -/

/-- The service has closed a batch where the course of the batch is cut.  It has looked up and asked
what the batch has, and it has let go of the requests of the batch. -/
structure Concludes (began service : QueryService) (results : List (ProbeResult kind))
    (run : BatchRun kind) : Prop where
  results_eq : results = run.close.batch.results
  exchange_eq : service.exchange = run.close.batch.release run.close.timed.exchange
  lookups_eq : service.lookups = began.lookups + run.lookups.length
  network_eq : service.network = { began.network.asked kind run.probed with now := service.now }

/-- A batch that is closed has a course that ends there. -/
theorem concludes_closeBatch (hcourse : began.IsOnCourse lead timeout servers service batch) :
    ∃ events,
      let run := BatchRun.course lead timeout kind servers began.timed events
      began.Concludes (service.closeBatch batch).1 (service.closeBatch batch).2 run ∧
        (service.closeBatch batch).1.now = run.timed.now := by
  obtain ⟨events, hshows⟩ := isOnCourse_collectBatch hcourse
  have hnow := now_of_shows hshows
  refine ⟨events, ?_, hnow⟩
  simp only [closeBatch]
  rw [exchange_of_shows hshows, hnow, hshows.batch_eq]
  exact ⟨rfl, rfl, hshows.lookups_eq, hshows.network_eq⟩

/-- Asking many servers is a batch that is closed somewhere in its course, and at that time. -/
theorem concludes_probeMany_now (service : QueryService) (kind : ProbeKind)
    (servers : List HostPort) (timeout : Nat) (patience : Patience) :
    ∃ events,
      let run := BatchRun.course (Lookups.endpoint? service.resolve)
        (service.batchRequestTimeout timeout) kind servers service.timed events
      service.Concludes (service.probeMany kind servers timeout patience).1
          (service.probeMany kind servers timeout patience).2 run ∧
        (service.probeMany kind servers timeout patience).1.now = run.timed.now := by
  have hopened := isOnCourse_openBatch service kind servers timeout
  have hsettled := settleWith_induction
    (service.IsOnCourse (Lookups.endpoint? service.resolve) (service.batchRequestTimeout timeout)
      servers)
    (fun _ _ hcourse => isOnCourse_collectBatch hcourse)
    (fun _ _ reply hcourse => isOnCourse_receive hcourse reply)
    (fun _ _ ⟨events, hshows⟩ => ⟨events, hshows.timed_eq, hshows.batch_eq, hshows.lookups_eq,
      hshows.network_eq⟩) hopened
  simp only [probeMany]
  split_ifs
  · exact concludes_closeBatch (isOnCourse_advance hsettled _)
  · exact concludes_closeBatch hsettled

theorem concludes_probeMany (service : QueryService) (kind : ProbeKind) (servers : List HostPort)
    (timeout : Nat) (patience : Patience) :
    ∃ events, service.Concludes (service.probeMany kind servers timeout patience).1
      (service.probeMany kind servers timeout patience).2
      (BatchRun.course (Lookups.endpoint? service.resolve) (service.batchRequestTimeout timeout)
        kind servers service.timed events) := by
  obtain ⟨events, hconcludes, -⟩ := concludes_probeMany_now service kind servers timeout patience
  exact ⟨events, hconcludes⟩

end QueryService

end Muster
