import Muster.Proofs.Query.Single

/-!
# Requests of one's own and of others

A batch, and one who makes a single request, leave nothing behind: their own requests have ended and
are not indexed in the end.  What they do in between has no effect on the requests of others, but
for indexing a request, which displaces those with the same key and message.
-/

namespace Muster

open Exchange

namespace BatchRun

variable {kind : ProbeKind} {lead : HostPort → Option Endpoint} {timeout : Nat}
  {servers : List HostPort} {run : BatchRun kind} {event : BatchEvent} {call : Call}
  {request : Request}

def indexed? (run : BatchRun kind) : BatchEvent → Option RequestId
  | .place =>
    match run.batch.placed, run.batch.waiting with
    | none, target :: _ => some target.request
    | _, _ => none
  | .lookUp | .resolve | .send | .launch _ | .collect | .other _ => none

/-- What a batch does with its requests names them. -/
theorem mem_requests (hlined : run.IsLinedUp) {target : BatchTarget}
    (htarget : target ∈ run.batch.placed.toList ++ run.batch.waiting) :
    target.request ∈ run.batch.requests := by
  obtain ⟨sent, htargets, -⟩ := hlined
  rw [Batch.requests, htargets]
  exact List.mem_map_of_mem (List.mem_append_right sent htarget)

/-- A batch names requests of its own only, and indexes one just when it places it. -/
theorem subject_of_mem_calls (hlined : run.IsLinedUp) (hresolve : event ≠ .resolve)
    (hevent : ∀ call, event ≠ .other call) (hcall : call ∈ run.calls lead timeout event) :
    ∃ id ∈ run.batch.requests, call.subject? = some id ∧ (call = .insert id → event = .place) := by
  have hplaced : ∀ target ∈ run.batch.placed.toList, target.request ∈ run.batch.requests :=
    fun target htarget => mem_requests hlined (List.mem_append_left _ htarget)
  cases event with
  | lookUp => exact absurd hcall List.not_mem_nil
  | resolve => exact absurd rfl hresolve
  | place =>
      rw [calls] at hcall
      split at hcall
      next target rest _ hwaiting =>
        rw [List.mem_singleton.mp hcall]
        refine ⟨target.request, mem_requests hlined ?_, rfl, fun _ => rfl⟩
        rw [hwaiting]
        exact List.mem_append_right _ List.mem_cons_self
      · exact absurd hcall List.not_mem_nil
  | send =>
      rw [calls] at hcall
      split_ifs at hcall
      · exact absurd hcall List.not_mem_nil
      · obtain ⟨target, htarget, rfl⟩ := List.mem_map.mp hcall
        exact ⟨target.request, hplaced target htarget, rfl, by simp⟩
  | launch isSent =>
      obtain ⟨target, htarget, hstep⟩ := List.mem_flatMap.mp hcall
      rw [List.mem_pair] at hstep
      rcases hstep with rfl | rfl
      · exact ⟨target.request, hplaced target htarget, rfl, by simp⟩
      · cases isSent <;> exact ⟨target.request, hplaced target htarget, rfl, by simp⟩
  | collect =>
      obtain ⟨delivery, hdelivery, rfl⟩ := List.mem_map.mp hcall
      obtain ⟨-, target, htarget, hid, -⟩ :=
        Batch.nextDelivery?_eq_some (Option.mem_toList.mp hdelivery)
      refine ⟨delivery.request, ?_, rfl, by simp⟩
      rw [← hid]
      exact List.mem_map_of_mem htarget
  | other call => exact absurd rfl (hevent call)

/-- Nothing that a batch does but indexing a request has an effect on others. -/
theorem respects_after (hsteady : run.IsSteady lead servers)
    (hevent : ∀ call, event ≠ .other call)
    (hget : run.timed.exchange.get? request.id = some request)
    (hother : request.id ∉ run.batch.requests) :
    Respects run.timed.exchange (run.after lead timeout event).timed.exchange
      (run.indexed? event) request := by
  have horderly := hsteady.isOrderly
  have hswept := hsteady.isSwept
  by_cases hresolve : event = .resolve
  · -- The requests that are made now are new.
    subst hresolve
    rw [timed_after]
    apply Timed.spares_afterAll horderly hswept hget
    intro call hcall between hbetween hbetweenSwept hknown
    rw [calls] at hcall
    split_ifs at hcall
    · obtain ⟨endpoint, -, rfl⟩ := List.mem_map.mp hcall
      exact Timed.spares_create hbetween hbetweenSwept hknown ..
    · exact absurd hcall List.not_mem_nil
  by_cases hplace : event = .place
  · subst hplace
    rw [timed_after, calls, indexed?]
    cases run.batch.placed with
    | some target => exact Spares.refl hget
    | none =>
        cases hwaiting : run.batch.waiting with
        | nil => exact Spares.refl hget
        | cons target rest =>
            have hown : target.request ∈ run.batch.requests := by
              apply mem_requests hsteady.isLinedUp
              rw [hwaiting]
              exact List.mem_append_right _ List.mem_cons_self
            exact Timed.respects_insert horderly hswept hget (ne_of_mem_of_not_mem hown hother)
  · have hnone : run.indexed? event = none := by
      cases event with
      | place => exact absurd rfl hplace
      | _ => rfl
    rw [hnone, timed_after]
    apply Timed.spares_of_subjects horderly hswept hget
    intro call hcall
    obtain ⟨id, hid, hsubject, hinsert⟩ :=
      subject_of_mem_calls hsteady.isLinedUp hresolve hevent hcall
    exact ⟨id, hsubject, ne_of_mem_of_not_mem hid hother, fun hcall => hplace (hinsert hcall)⟩

/-- The calls that let go of requests. -/
theorem timed_release (run : BatchRun kind) :
    (⟨run.close.batch.release run.close.timed.exchange, run.timed.now⟩ : Timed) =
      run.close.timed.afterAll (run.batch.requests.map .release) := by
  have htargets : run.close.batch.targets = run.batch.targets := Batch.targets_emitAll ..
  have hrequests : run.close.batch.requests = run.batch.requests := by
    rw [Batch.requests, htargets, Batch.requests]
  have hall : ∀ (ids : List RequestId) (timed : Timed),
      (⟨ids.foldl Exchange.release timed.exchange, timed.now⟩ : Timed) =
        timed.afterAll (ids.map .release) := by
    intro ids
    induction ids with
    | nil => exact fun _ => rfl
    | cons id rest ih => exact fun timed => ih (timed.after (.release id))
  rw [Batch.release, hrequests]
  exact hall run.batch.requests run.close.timed

/-- What becomes of the requests of a batch, and of those of others. -/
structure IsTidy (lead : HostPort → Option Endpoint) (timeout : Nat) (run : BatchRun kind) :
    Prop where
  /-- Nothing that the batch does has an effect on others, except that indexing a request displaces
  those with the same key and message. -/
  respects : ∀ event, (∀ call, event ≠ .other call) → ∀ request,
    run.timed.exchange.get? request.id = some request → request.id ∉ run.batch.requests →
      Respects run.timed.exchange (run.after lead timeout event).timed.exchange
        (run.indexed? event) request
  /-- Closing the batch has none. -/
  spares : ∀ request, run.timed.exchange.get? request.id = some request →
    request.id ∉ run.batch.requests →
      Spares run.timed.exchange run.close.timed.exchange request ∧
      Spares run.timed.exchange (run.close.batch.release run.close.timed.exchange) request
  /-- The requests of a batch that has been closed have ended and are not indexed. -/
  isOver : ∀ id ∈ run.batch.requests, run.close.timed.exchange.IsOver id ∧
    run.close.timed.exchange.pending.contains id = false
  /-- They do not come back. -/
  hasLeft : ∀ id ∈ run.batch.requests, ∀ calls, Call.insert id ∉ calls →
    (run.close.timed.afterAll calls).exchange.HasLeft id

theorem isTidy_of_isSteady (hsteady : run.IsSteady lead servers) : run.IsTidy lead timeout := by
  have horderly := hsteady.isOrderly
  have hswept := hsteady.isSwept
  obtain ⟨hclosedOrderly, hclosedSwept⟩ :=
    Timed.isOrderly_afterAll horderly hswept (withdrawal run.batch.requests)
  rw [← timed_close] at hclosedOrderly hclosedSwept
  have hover : ∀ id ∈ run.batch.requests, run.close.timed.exchange.IsOver id ∧
      run.close.timed.exchange.pending.contains id = false := by
    intro id hid
    obtain ⟨target, htarget, rfl⟩ := List.mem_map.mp hid
    obtain ⟨request, hget, hheld, -⟩ := (hsteady.kept target htarget).known
    rw [timed_close]
    exact Timed.isOver_withdrawal horderly hswept hid ⟨request, hget, hheld⟩
  constructor
  case respects =>
    intro event hevent request hget hother
    exact respects_after hsteady hevent hget hother
  case spares =>
    intro request hget hother
    have hclose : Spares run.timed.exchange run.close.timed.exchange request := by
      rw [timed_close]
      apply Timed.spares_of_subjects horderly hswept hget
      intro call hcall
      obtain ⟨id, hid, rfl | rfl⟩ := mem_withdrawal hcall
      · exact ⟨id, rfl, ne_of_mem_of_not_mem hid hother, by simp⟩
      · exact ⟨id, rfl, ne_of_mem_of_not_mem hid hother, by simp⟩
    refine ⟨hclose, hclose.trans ?_⟩
    have hrelease : Spares run.close.timed.exchange
        (run.close.timed.afterAll (run.batch.requests.map .release)).exchange request := by
      apply Timed.spares_of_subjects hclosedOrderly hclosedSwept hclose.get?_eq
      intro call hcall
      obtain ⟨id, hid, rfl⟩ := List.mem_map.mp hcall
      exact ⟨id, rfl, ne_of_mem_of_not_mem hid hother, by simp⟩
    rwa [← timed_release] at hrelease
  case isOver => exact hover
  case hasLeft =>
    intro id hid calls hcalls
    obtain ⟨hended, hcontains⟩ := hover id hid
    exact Timed.keeps_afterAll hclosedOrderly hclosedSwept (·.HasLeft id) Timed.hasLeft_after
      (hended.hasLeft hclosedOrderly hcontains) hcalls

theorem IsTidy.hasLeft_release (htidy : run.IsTidy lead timeout) {id : RequestId}
    (hid : id ∈ run.batch.requests) :
    (run.close.batch.release run.close.timed.exchange).HasLeft id := by
  have hcalls : Call.insert id ∉ run.batch.requests.map Call.release := by simp
  have hleft := htidy.hasLeft id hid _ hcalls
  rwa [← timed_release] at hleft

end BatchRun

namespace RequestRun

variable {run : RequestRun}

/-- What becomes of a single request, and of the requests of others. -/
structure IsTidy (run : RequestRun) : Prop where
  /-- Nothing that is done with the request has an effect on others, except that indexing it
  displaces those with the same key and message. -/
  respects : ∀ event, (∀ call, event ≠ .other call) → ∀ request,
    run.timed.exchange.get? request.id = some request → run.id ≠ request.id →
      Respects run.timed.exchange (run.after event).timed.exchange (run.indexed? event) request
  /-- A request that has been withdrawn has ended and is not indexed. -/
  isOver : run.stage = .withdrawn → run.timed.exchange.IsOver run.id ∧
    run.timed.exchange.pending.contains run.id = false
  /-- It does not come back. -/
  hasLeft : run.stage = .withdrawn → ∀ calls, Call.insert run.id ∉ calls →
    (run.timed.afterAll calls).exchange.HasLeft run.id

theorem isTidy_of_isSteady (hsteady : run.IsSteady) : run.IsTidy := by
  obtain ⟨horderly, hswept⟩ := hsteady.isOrderly
  constructor
  case respects =>
    intro event hevent request hget hid
    exact respects_after hsteady hevent hget hid
  case isOver =>
    exact fun hstage => ⟨hsteady.isOver (Or.inr hstage), hsteady.contains_eq hstage⟩
  case hasLeft =>
    intro hstage calls hcalls
    have hleft := (hsteady.isOver (Or.inr hstage)).hasLeft horderly (hsteady.contains_eq hstage)
    exact Timed.keeps_afterAll horderly hswept (·.HasLeft run.id) Timed.hasLeft_after hleft hcalls

end RequestRun

namespace Timed

/-- Whoever asks one server or many, and whatever others do meanwhile, cleans up his own requests
and leaves those of others alone; so does the query service. -/
theorem leaves_nothing_behind (calls : List Call) :
    (∀ (kind : ProbeKind) (servers : List HostPort) (lead : HostPort → Option Endpoint)
      (timeout : Nat) (events : List BatchEvent),
        (BatchRun.course lead timeout kind servers (run calls) events).IsTidy lead timeout) ∧
    (∀ (target : Endpoint) (message : Message) (responseCommand : String) (timeout : Nat)
      (events : List RequestEvent),
        ((RequestRun.start target message responseCommand timeout (run calls)).afterAll
          events).IsTidy) ∧
    ∀ service : QueryService, service.timed = run calls →
      (∀ (kind : ProbeKind) (servers : List HostPort) (timeout : Nat) (patience : Patience),
        ∃ events,
          let batch := BatchRun.course (Lookups.endpoint? service.resolve)
            (service.batchRequestTimeout timeout) kind servers (run calls) events
          let asked := service.probeMany kind servers timeout patience
          service.Concludes asked.1 asked.2 batch ∧
            ∀ id ∈ batch.batch.requests, asked.1.exchange.HasLeft id) ∧
      ∀ (target : Endpoint) (message : Message) (responseCommand : String) (timeout : Nat)
        (patience : Patience),
        (service.roundTrip target message responseCommand timeout patience).1.exchange.HasLeft
          service.exchange.nextId := by
  obtain ⟨horderly, hswept⟩ := isOrderly_run calls
  have hbatch : ∀ (kind : ProbeKind) (servers : List HostPort)
      (lead : HostPort → Option Endpoint) (timeout : Nat) (events : List BatchEvent),
      (BatchRun.course lead timeout kind servers (run calls) events).IsTidy lead timeout :=
    fun _ servers _ _ events =>
      BatchRun.isTidy_of_isSteady (BatchRun.isSteady_course horderly hswept servers events)
  have hsingle : ∀ (target : Endpoint) (message : Message) (responseCommand : String)
      (timeout : Nat) (events : List RequestEvent),
      ((RequestRun.start target message responseCommand timeout (run calls)).afterAll
        events).IsTidy :=
    fun target message responseCommand timeout events =>
      RequestRun.isTidy_of_isSteady (RequestRun.isSteady_afterAll
        (RequestRun.isSteady_start calls target message responseCommand timeout) events)
  refine ⟨hbatch, hsingle, ?_⟩
  intro service htimed
  constructor
  · intro kind servers timeout patience
    obtain ⟨events, hconcludes⟩ := service.concludes_probeMany kind servers timeout patience
    rw [htimed] at hconcludes
    refine ⟨events, hconcludes, ?_⟩
    intro id hid
    rw [hconcludes.exchange_eq]
    exact (hbatch kind servers _ _ events).hasLeft_release hid
  · intro target message responseCommand timeout patience
    obtain ⟨events, more, hstage, hmore, hround⟩ :=
      service.roundTrip_eq ⟨calls, htimed⟩ target message responseCommand timeout patience
    let ended := (RequestRun.start target message responseCommand timeout service.timed).afterAll
      events
    have hid : ended.id = service.exchange.nextId := by
      simp only [ended]
      rw [RequestRun.afterAll_eq]
      rfl
    have htidy : ended.IsTidy := by
      have hrun := hsingle target message responseCommand timeout events
      rwa [← htimed] at hrun
    have hcalls : Call.insert ended.id ∉ Call.release ended.id :: more := by
      rw [List.mem_cons, not_or]
      refine ⟨by simp, fun hinsert => ?_⟩
      exact absurd (hmore _ hinsert) (by simp [Call.subject?])
    have hleft := htidy.hasLeft hstage _ hcalls
    rw [hid] at hleft
    have hexchange := congrArg Timed.exchange hround
    simp only [QueryService.timed] at hexchange
    rw [hexchange]
    exact hid ▸ hleft

/-- Two requests of somebody else to one endpoint, the first of which is what a batch would ask. -/
def askedEarlier : List Call :=
  [.create (.loopback 28960) ProbeKind.info.request "infoResponse" 100 .caller, .insert 0,
    .create (.loopback 28960) ⟨"getinfo", "again", ' '⟩ "infoResponse" 100 .caller, .insert 1]

def askingLater : QueryService where
  config := {}
  exchange := (run askedEarlier).exchange
  network := .start [] true
  resolve := fun _ => .found (.loopback 28960)
  lookups := 0
  isOpen := true
  arriving := []

/-- The batch gives up the request of somebody else that it displaced, and leaves the other one
indexed. -/
theorem leaves_nothing_behind_askingLater :
    askingLater.timed = run askedEarlier ∧
    ((askingLater.probeMany .info [⟨"alpha", 1⟩] 1000 .none).1.exchange.requests.map
      fun request => (request.id, request.state)) = [(0, .canceled), (1, .created)] ∧
    (askingLater.probeMany .info [⟨"alpha", 1⟩] 1000 .none).1.exchange.pending.ids = [1] ∧
    (askingLater.roundTrip (.loopback 28960) ProbeKind.info.request "infoResponse" 100
      .none).1.exchange.HasLeft 2 := by
  have htimed : askingLater.timed = run askedEarlier := rfl
  obtain ⟨-, -, hservice⟩ := leaves_nothing_behind askedEarlier
  obtain ⟨-, hround⟩ := hservice askingLater htimed
  exact ⟨htimed, by decide +kernel, by decide +kernel, hround (.loopback 28960)
    ProbeKind.info.request "infoResponse" 100 .none⟩

end Timed

end Muster
