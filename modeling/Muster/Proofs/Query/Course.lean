import Muster.Proofs.Exchange.Leaving
import Muster.Query.Batch
import Muster.Query.Lookups

/-!
# The course of a batch

A batch does what it does while others use the same exchange.  It looks up the servers that it was
asked for, makes its requests, sends them one after the other and takes the outcomes that are there.
Between any two of these steps anything else may be done with the exchange, and the batch may be
closed after any of them.
-/

namespace Muster

open Exchange

/-- A batch among everything else that is done with the exchange. -/
structure BatchRun (kind : ProbeKind) where
  timed : Timed
  batch : Batch kind
  /-- Servers that have been looked up, in their order. -/
  lookups : List HostPort
  isResolved : Bool
  /-- The datagram of the request that is indexed has been sent. -/
  isOut : Bool
  /-- Endpoints to which datagrams have been sent, in their order. -/
  probed : List Endpoint
  /-- Messages that have been handed out, in their order. -/
  heard : List Inbound

/-- What happens in the course of a batch. -/
inductive BatchEvent where
  /-- The next server is looked up. -/
  | lookUp
  /-- The last lookup has come to its end. -/
  | resolve
  /-- The next request is indexed. -/
  | place
  /-- The datagram of the request that is indexed is sent. -/
  | send
  /-- It turns out whether the datagram could be sent. -/
  | launch (isSent : Bool)
  /-- The next outcome is taken. -/
  | collect
  /-- Somebody else does something with the exchange. -/
  | other (call : Call)

def Exchange.Call.heard? : Call → Option Inbound
  | .dispatch inbound => some inbound
  | _ => none

def Exchange.Call.isStep : Call → Bool
  | .create .. | .markSent _ | .activate _ | .fail .. | .insert _ | .remove _ => true
  | .complete .. | .cancel _ | .dispatch _ | .release _ | .advance _ => false

theorem Exchange.Call.heard?_of_isStep {call : Call} (hstep : call.isStep) :
    call.heard? = none := by
  cases call with
  | dispatch inbound => exact absurd hstep Bool.false_ne_true
  | _ => rfl

theorem Exchange.Call.filterMap_heard?_cons (call : Call) (rest : List Call) :
    (call :: rest).filterMap heard? = call.heard?.toList ++ rest.filterMap heard? := by
  rw [List.filterMap_cons]
  cases call.heard? <;> rfl

namespace Batch

variable {kind : ProbeKind} {batch : Batch kind} {exchange : Exchange}

def creation (kind : ProbeKind) (timeout : Nat) (endpoint : Endpoint) : Call :=
  .create endpoint kind.request kind.responseCommand timeout .batch

theorem createAll_fst (kind : ProbeKind) (timeout : Nat) (endpoints : List Endpoint)
    (timed : Timed) :
    (⟨(createAll kind timeout timed.now endpoints timed.exchange).1, timed.now⟩ : Timed) =
      timed.afterAll (endpoints.map (creation kind timeout)) := by
  induction endpoints generalizing timed with
  | nil => rfl
  | cons endpoint rest ih => exact ih (timed.after (creation kind timeout endpoint))

theorem endpoints_createAll (timeout now : Nat) (endpoints : List Endpoint)
    (exchange : Exchange) :
    (createAll kind timeout now endpoints exchange).2.map (·.endpoint) = endpoints := by
  induction endpoints generalizing exchange with
  | nil => rfl
  | cons endpoint rest ih => exact congrArg (endpoint :: ·) (ih _)

/-- The next delivery that concerns a batch is one to the first target with that request. -/
theorem nextDelivery?_eq_some {delivery : Delivery}
    (hdelivery : batch.nextDelivery? exchange = some delivery) :
    delivery ∈ exchange.delivered ∧ ∃ target ∈ batch.targets, target.request = delivery.request ∧
      batch.targets.find? (fun target => target.request == delivery.request) = some target := by
  have hown := List.find?_some hdelivery
  refine ⟨List.mem_of_find?_eq_some hdelivery, ?_⟩
  rw [Bool.and_eq_true] at hown
  have hsome := List.find?_isSome.mpr (List.any_eq_true.mp hown.1)
  obtain ⟨target, htarget⟩ := Option.isSome_iff_exists.mp hsome
  have hid := List.find?_some htarget
  exact ⟨target, List.mem_of_find?_eq_some htarget, beq_iff_eq.mp hid, htarget⟩

/-- Closing withdraws the requests. -/
theorem close_snd (batch : Batch kind) (timed : Timed) :
    (⟨(batch.close timed.exchange timed.now).2, timed.now⟩ : Timed) =
      timed.afterAll (withdrawal batch.requests) := by
  rw [close]
  generalize batch.requests = requests
  induction requests generalizing timed with
  | nil => rfl
  | cons id rest ih => exact ih (timed.afterAll [.cancel id, .remove id])

end Batch

namespace BatchRun

variable {kind : ProbeKind}

def start (kind : ProbeKind) (servers : List HostPort) (timed : Timed) : BatchRun kind :=
  ⟨timed, .start kind servers, [], false, false, [], []⟩

def act (run : BatchRun kind) (next : Batch kind × Exchange) : BatchRun kind :=
  { run with batch := next.1, timed := ⟨next.2, run.timed.now⟩ }

def isOwn (run : BatchRun kind) (call : Call) : Bool :=
  call.subject?.any run.batch.requests.contains

section Course

variable (lead : HostPort → Option Endpoint) (timeout : Nat)

/-- What happens next.  The names lead where `lead` says, and requests have `timeout` for their
answers.  Nobody but the batch does anything with its requests. -/
def after (run : BatchRun kind) : BatchEvent → BatchRun kind
  | .lookUp =>
    { run with lookups := (Lookups.distinct run.batch.servers).take (run.lookups.length + 1) }
  | .resolve =>
    if !run.isResolved && run.lookups == Lookups.distinct run.batch.servers then
      { run.act (run.batch.resolved run.timed.exchange (run.batch.servers.map lead) timeout
          run.timed.now) with isResolved := true }
    else run
  | .place => run.act (run.batch.place run.timed.exchange)
  | .send =>
    match run.batch.placed with
    | none => run
    | some target =>
      if run.isOut then run
      else
        { run with
          timed := run.timed.after (.markSent target.request)
          isOut := true
          probed := run.probed ++ [target.endpoint] }
  | .launch isSent =>
    { run.act (run.batch.launch run.timed.exchange isSent run.timed.now) with isOut := false }
  | .collect =>
    match run.batch.nextDelivery? run.timed.exchange with
    | none => run
    | some delivery =>
      run.act (run.batch.collect run.timed.exchange delivery run.timed.now)
  | .other call =>
    if run.isOwn call then run
    else { run with timed := run.timed.after call, heard := run.heard ++ call.heard?.toList }

def course (kind : ProbeKind) (servers : List HostPort) (timed : Timed)
    (events : List BatchEvent) : BatchRun kind :=
  events.foldl (after lead timeout) (start kind servers timed)

def close (run : BatchRun kind) : BatchRun kind :=
  run.act (run.batch.close run.timed.exchange run.timed.now)

def calls (run : BatchRun kind) : BatchEvent → List Call
  | .lookUp => []
  | .resolve =>
    if !run.isResolved && run.lookups == Lookups.distinct run.batch.servers then
      ((run.batch.servers.map lead).filterMap id).eraseDups.map (Batch.creation kind timeout)
    else []
  | .place =>
    match run.batch.placed, run.batch.waiting with
    | none, target :: _ => [.insert target.request]
    | _, _ => []
  | .send => if run.isOut then [] else run.batch.placed.toList.map fun target =>
      .markSent target.request
  | .launch isSent =>
    run.batch.placed.toList.flatMap fun target =>
      [.markSent target.request, if isSent then .activate target.request
        else .fail target.request (.sendFailed target.endpoint)]
  | .collect =>
    (run.batch.nextDelivery? run.timed.exchange).toList.map fun delivery =>
      .remove delivery.request
  | .other call => if run.isOwn call then [] else [call]

variable {lead timeout} {run : BatchRun kind} {servers : List HostPort} {timed : Timed}
  {event : BatchEvent} {events : List BatchEvent} {call : Call}

theorem course_concat (kind : ProbeKind) (servers : List HostPort) (timed : Timed)
    (events : List BatchEvent) (event : BatchEvent) :
    course lead timeout kind servers timed (events ++ [event]) =
      (course lead timeout kind servers timed events).after lead timeout event :=
  List.foldl_concat ..

/-- What holds of a batch when it begins and is kept by every event holds all along. -/
theorem course_induction {holds : BatchRun kind → Prop} (hstart : holds (start kind servers timed))
    (hafter : ∀ run event, holds run → holds (run.after lead timeout event))
    (events : List BatchEvent) : holds (course lead timeout kind servers timed events) := by
  induction events using List.reverseRecOn with
  | nil => exact hstart
  | append_singleton events event ih =>
      rw [course_concat]
      exact hafter _ event ih

/-! ## What a batch does with the exchange -/

theorem timed_after (run : BatchRun kind) (event : BatchEvent) :
    (run.after lead timeout event).timed = run.timed.afterAll (run.calls lead timeout event) := by
  cases event with
  | lookUp => rfl
  | resolve =>
      rw [after, calls]
      split_ifs
      · exact Batch.createAll_fst kind timeout _ run.timed
      · rfl
  | place =>
      rw [after, calls, Batch.place]
      cases run.batch.placed with
      | none => cases run.batch.waiting <;> rfl
      | some target => rfl
  | send =>
      rw [after, calls]
      cases run.batch.placed with
      | none => split_ifs <;> rfl
      | some target => split_ifs <;> rfl
  | launch isSent =>
      rw [after, calls, Batch.launch]
      cases run.batch.placed with
      | none => rfl
      | some target => cases isSent <;> rfl
  | collect =>
      rw [after, calls]
      cases hnext : run.batch.nextDelivery? run.timed.exchange with
      | none => rfl
      | some delivery =>
          obtain ⟨-, target, -, hid, hfound⟩ := Batch.nextDelivery?_eq_some hnext
          simp only [Batch.collect, hfound, hid]
          rfl
  | other call =>
      rw [after, calls]
      split_ifs <;> rfl

theorem timed_close (run : BatchRun kind) :
    run.close.timed = run.timed.afterAll (withdrawal run.batch.requests) :=
  Batch.close_snd run.batch run.timed

/-- A batch takes its own steps, and others do not name its requests. -/
theorem mem_calls (hcall : call ∈ run.calls lead timeout event) :
    call.isStep ∨ (event = .other call ∧ run.isOwn call = false) := by
  cases event with
  | lookUp => exact absurd hcall List.not_mem_nil
  | resolve =>
      rw [calls] at hcall
      split_ifs at hcall
      · obtain ⟨endpoint, -, rfl⟩ := List.mem_map.mp hcall
        exact Or.inl rfl
      · exact absurd hcall List.not_mem_nil
  | place =>
      rw [calls] at hcall
      split at hcall
      · rw [List.mem_singleton.mp hcall]
        exact Or.inl rfl
      · exact absurd hcall List.not_mem_nil
  | send =>
      rw [calls] at hcall
      split_ifs at hcall
      · exact absurd hcall List.not_mem_nil
      · obtain ⟨target, -, rfl⟩ := List.mem_map.mp hcall
        exact Or.inl rfl
  | launch isSent =>
      obtain ⟨target, -, hstep⟩ := List.mem_flatMap.mp hcall
      rw [List.mem_pair] at hstep
      rcases hstep with rfl | rfl
      · exact Or.inl rfl
      · cases isSent <;> exact Or.inl rfl
  | collect =>
      obtain ⟨delivery, -, rfl⟩ := List.mem_map.mp hcall
      exact Or.inl rfl
  | other call =>
      rw [calls] at hcall
      split_ifs at hcall with hown
      · exact absurd hcall List.not_mem_nil
      · rw [List.mem_singleton.mp hcall]
        exact Or.inr ⟨rfl, Bool.eq_false_iff.mpr hown⟩

/-- All that a batch hears is handed out by a call. -/
theorem heard_after (run : BatchRun kind) (event : BatchEvent) :
    (run.after lead timeout event).heard =
      run.heard ++ (run.calls lead timeout event).filterMap Call.heard? := by
  by_cases hother : ∃ call, event = .other call
  · obtain ⟨call, rfl⟩ := hother
    rw [after, calls]
    split_ifs
    · exact (List.append_nil _).symm
    · cases call <;> rfl
  · have hsilent : (run.calls lead timeout event).filterMap Call.heard? = [] := by
      rw [List.filterMap_eq_nil_iff]
      intro call hcall
      rcases mem_calls hcall with hstep | ⟨rfl, -⟩
      · exact Call.heard?_of_isStep hstep
      · exact absurd ⟨call, rfl⟩ hother
    rw [hsilent, List.append_nil]
    cases event with
    | resolve =>
        rw [after]
        split_ifs <;> rfl
    | send =>
        rw [after]
        cases run.batch.placed with
        | none => rfl
        | some target => split_ifs <;> rfl
    | collect =>
        rw [after]
        cases run.batch.nextDelivery? run.timed.exchange <;> rfl
    | other call => exact absurd ⟨call, rfl⟩ hother
    | _ => rfl

end Course

end BatchRun

end Muster
