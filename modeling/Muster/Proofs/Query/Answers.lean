import Mathlib.Data.List.Nodup
import Muster.Proofs.Exchange.Keeping
import Muster.Query.Service

/-!
# Answers of a batch

Every input of a batch has at most one result, and a report is about the endpoint to which the name
of its input leads.  The second holds although inputs share requests and requests of several batches
are under way at the same time, for the endpoint of a request does not change.
-/

namespace Muster

variable {kind : ProbeKind} {now : Nat}

def ProbeKind.subject : (kind : ProbeKind) → kind.Report → Endpoint
  | .info, report => ServerInfo.address report
  | .status, report => Scoreboard.address report

/-- Each report is about the server that was asked for it. -/
theorem ProbeKind.subject_of_report? {endpoint : Endpoint} {body : String} {ping : UInt32}
    {report : kind.Report} (hreport : kind.report? endpoint body ping = some report) :
    kind.subject report = endpoint := by
  cases kind with
  | info =>
      simp only [report?, ServerInfo.ofReport] at hreport
      split_ifs at hreport <;>
        simp only [Except.toOption, reduceCtorEq, Option.some.injEq] at hreport <;>
        exact hreport ▸ rfl
  | status =>
      rw [← Option.some.inj hreport]
      rfl

theorem Request.subject_of_report? {request : Request} {outcome : Outcome} {report : kind.Report}
    (hreport : request.report? kind outcome = some report) :
    kind.subject report = request.endpoint := by
  cases outcome with
  | ok inbound => exact ProbeKind.subject_of_report? hreport
  | error error => simp [Request.report?] at hreport

namespace Batch

variable {batch : Batch kind} {exchange after : Exchange} {asked : List (Option Endpoint)}

/-- The batch has asked these endpoints.  No input has two results, no report is about another
endpoint than that of its input, and no request of the batch goes anywhere else than it should. -/
structure IsSound (asked : List (Option Endpoint)) (batch : Batch kind) (exchange : Exchange) :
    Prop where
  indices : (batch.results.map (·.index)).Nodup
  reports : ∀ result ∈ batch.results, ∀ report ∈ result.report,
    asked[result.index]? = some (some (kind.subject report))
  endpoints : ∀ (index : Nat) (endpoint : Endpoint),
    batch.endpoints[index]? = some (some endpoint) → asked[index]? = some (some endpoint)
  targets : ∀ target ∈ batch.targets, target.request < exchange.nextId ∧
    ∀ request ∈ exchange.requests, request.id = target.request →
      request.endpoint = target.endpoint

theorem IsSound.keeps (hsound : batch.IsSound asked exchange) (hkeeps : exchange.Keeps after) :
    batch.IsSound asked after := by
  refine ⟨hsound.indices, hsound.reports, hsound.endpoints, ?_⟩
  intro target htarget
  obtain ⟨hid, hendpoint⟩ := hsound.targets target htarget
  refine ⟨Nat.lt_of_lt_of_le hid hkeeps.nextId_le, ?_⟩
  intro request hrequest hsame
  obtain ⟨earlier, hearlier, hearlierId, hsameEndpoint⟩ :=
    hkeeps.endpoint_eq request hrequest (hsame ▸ hid)
  rw [← hsameEndpoint]
  exact hendpoint earlier hearlier (hearlierId.trans hsame)

/-! ## Results -/

/-- Giving an input its result leaves no input with two. -/
theorem nodup_indices_emit (hindices : (batch.results.map (·.index)).Nodup) (now : Nat)
    (report : Option kind.Report) (index : Nat) :
    ((batch.emit now report index).results.map (·.index)).Nodup := by
  rw [emit]
  cases batch.servers[index]? with
  | none => exact hindices
  | some server =>
      simp only
      split_ifs with hresult
      · exact hindices
      · rw [List.map_append, List.nodup_append]
        refine ⟨hindices, List.nodup_singleton _, ?_⟩
        rintro other hother _ hindex rfl
        obtain ⟨result, hmember, hsame⟩ := List.mem_map.mp hother
        apply hresult
        rw [hasResult, List.any_eq_true]
        exact ⟨result, hmember, beq_iff_eq.mpr (hsame.trans (List.mem_singleton.mp hindex))⟩

/-- A report about the server of an input may become its result. -/
theorem isSound_emit (hsound : batch.IsSound asked exchange) {report : Option kind.Report}
    {index : Nat} (hreport : ∀ value ∈ report, asked[index]? = some (some (kind.subject value)))
    (now : Nat) : (batch.emit now report index).IsSound asked exchange := by
  have hindices := nodup_indices_emit hsound.indices now report index
  rw [emit] at hindices ⊢
  cases hserver : batch.servers[index]? with
  | none => exact hsound
  | some server =>
      rw [hserver] at hindices
      simp only at hindices ⊢
      split_ifs with hresult
      · exact hsound
      · rw [if_neg hresult] at hindices
        refine ⟨hindices, ?_, hsound.endpoints, hsound.targets⟩
        intro result hresult
        rcases List.mem_append.mp hresult with hearlier | hnew
        · exact hsound.reports result hearlier
        · rw [List.mem_singleton.mp hnew]
          exact hreport

theorem isSound_emitAll (hsound : batch.IsSound asked exchange) {report : Option kind.Report}
    {indices : List Nat} (hreport : ∀ index ∈ indices, ∀ value ∈ report,
      asked[index]? = some (some (kind.subject value)))
    (now : Nat) : (batch.emitAll now report indices).IsSound asked exchange := by
  rw [emitAll]
  induction indices generalizing batch with
  | nil => exact hsound
  | cons index rest ih =>
      rw [List.forall_mem_cons] at hreport
      exact ih (isSound_emit hsound hreport.1 now) hreport.2

theorem mem_indicesOf {endpoint : Option Endpoint} {index : Nat}
    (hindex : index ∈ batch.indicesOf endpoint) : batch.endpoints[index]? = some endpoint :=
  beq_iff_eq.mp (List.mem_filter.mp hindex).2

/-- What a delivery adds to the results is about the server whose request was answered. -/
theorem isSound_collect (hsound : batch.IsSound asked exchange) (delivery : Delivery) (now : Nat) :
    (batch.collect exchange delivery now).1.IsSound asked
      (batch.collect exchange delivery now).2 := by
  have hcollected : ∀ collected, { batch with collected }.IsSound asked exchange := fun _ =>
    ⟨hsound.indices, hsound.reports, hsound.endpoints, hsound.targets⟩
  simp only [collect]
  split
  · exact hcollected _
  next target htarget =>
    have hmember := List.mem_of_find?_eq_some htarget
    apply IsSound.keeps _ (Exchange.keeps_remove exchange target.request)
    apply isSound_emitAll (hcollected _)
    intro index hindex report hreport
    obtain ⟨request, hrequest, hsome⟩ := Option.bind_eq_some_iff.mp hreport
    have hid := List.find?_some hrequest
    have hknown : request ∈ exchange.requests := List.mem_of_find?_eq_some hrequest
    rw [Request.subject_of_report? hsome,
      (hsound.targets target hmember).2 request hknown (beq_iff_eq.mp hid)]
    exact hsound.endpoints index target.endpoint (mem_indicesOf hindex)

theorem isSound_collectUpTo (now limit : Nat) (hsound : batch.IsSound asked exchange) :
    (collectUpTo now limit batch exchange).1.IsSound asked
      (collectUpTo now limit batch exchange).2 := by
  induction limit generalizing batch exchange with
  | zero => exact hsound
  | succ limit ih =>
      rw [collectUpTo]
      cases batch.nextDelivery? exchange with
      | none => exact hsound
      | some delivery => exact ih (isSound_collect hsound delivery now)

theorem keeps_collectUpTo (now limit : Nat) (batch : Batch kind) (exchange : Exchange) :
    exchange.Keeps (collectUpTo now limit batch exchange).2 := by
  induction limit generalizing batch exchange with
  | zero => exact Exchange.Keeps.refl exchange
  | succ limit ih =>
      rw [collectUpTo]
      cases batch.nextDelivery? exchange with
      | none => exact Exchange.Keeps.refl exchange
      | some delivery =>
          have hcollect : exchange.Keeps (batch.collect exchange delivery now).2 := by
            simp only [collect]
            split
            · exact Exchange.Keeps.refl exchange
            · exact Exchange.keeps_remove exchange _
          exact hcollect.trans (ih _ _)

/-! ## Requests -/

theorem keeps_createAll (kind : ProbeKind) (timeout now : Nat) (endpoints : List Endpoint)
    (exchange : Exchange) : exchange.Keeps (createAll kind timeout now endpoints exchange).1 := by
  induction endpoints generalizing exchange with
  | nil => exact Exchange.Keeps.refl exchange
  | cons endpoint rest ih => exact (Exchange.keeps_create exchange endpoint _ _ _ _ _).trans (ih _)

/-- The requests that are made go to the endpoints for which they are made. -/
theorem targets_createAll (hnumbered : exchange.IsNumbered) (timeout now : Nat)
    (endpoints : List Endpoint) :
    ∀ target ∈ (createAll kind timeout now endpoints exchange).2,
      target.request < (createAll kind timeout now endpoints exchange).1.nextId ∧
      ∀ request ∈ (createAll kind timeout now endpoints exchange).1.requests,
        request.id = target.request → request.endpoint = target.endpoint := by
  induction endpoints generalizing exchange with
  | nil =>
      intro target htarget
      exact absurd htarget List.not_mem_nil
  | cons endpoint rest ih =>
      let created := exchange.create endpoint kind.request kind.responseCommand timeout .batch now
      have hcreated : exchange.Keeps created := Exchange.keeps_create exchange endpoint _ _ _ _ _
      have hrest : created.Keeps (createAll kind timeout now rest created).1 :=
        keeps_createAll kind timeout now rest created
      simp only [createAll]
      rw [List.forall_mem_cons]
      constructor
      · refine ⟨Nat.lt_of_lt_of_le (Nat.lt_succ_self _) hrest.nextId_le, ?_⟩
        intro request hrequest hid
        obtain ⟨earlier, hearlier, hearlierId, hendpoint⟩ :=
          hrest.endpoint_eq request hrequest (hid ▸ Nat.lt_succ_self _)
        rw [← hendpoint]
        rcases List.mem_append.mp hearlier with hknown | hnew
        · have hlt := hnumbered earlier hknown
          rw [hearlierId.trans hid] at hlt
          exact absurd hlt (Nat.lt_irrefl _)
        · rw [List.mem_singleton.mp hnew]
      · exact ih (hcreated.isNumbered hnumbered)

theorem isSound_start (servers : List HostPort) (exchange : Exchange) :
    (start kind servers).IsSound asked exchange := by
  refine ⟨List.nodup_nil, by simp [start], ?_, by simp [start]⟩
  intro index endpoint hendpoint
  rw [start, List.getElem?_map, Option.map_eq_some_iff] at hendpoint
  obtain ⟨server, -, hnone⟩ := hendpoint
  exact absurd hnone (by simp)

theorem isSound_resolved (hnumbered : exchange.IsNumbered) (batch : Batch kind)
    (hresults : batch.results = []) (timeout now : Nat) :
    (batch.resolved exchange asked timeout now).1.IsSound asked
      (batch.resolved exchange asked timeout now).2 := by
  apply isSound_emitAll
  · refine ⟨?_, ?_, fun _ _ hendpoint => hendpoint, targets_createAll hnumbered timeout now _⟩
    · simp [hresults]
    · simp [hresults]
  · simp

theorem keeps_resolved (batch : Batch kind) (exchange : Exchange)
    (endpoints : List (Option Endpoint)) (timeout now : Nat) :
    exchange.Keeps (batch.resolved exchange endpoints timeout now).2 :=
  keeps_createAll kind timeout now _ exchange

theorem keeps_place (batch : Batch kind) (exchange : Exchange) :
    exchange.Keeps (batch.place exchange).2 := by
  rw [place]
  split
  · exact Exchange.keeps_insert exchange _
  · exact Exchange.Keeps.refl exchange

theorem isSound_place (hsound : batch.IsSound asked exchange) :
    (batch.place exchange).1.IsSound asked (batch.place exchange).2 := by
  refine IsSound.keeps ?_ (keeps_place batch exchange)
  rw [place]
  split
  · exact ⟨hsound.indices, hsound.reports, hsound.endpoints, hsound.targets⟩
  · exact hsound

theorem keeps_launch (batch : Batch kind) (exchange : Exchange) (isSent : Bool) (now : Nat) :
    exchange.Keeps (batch.launch exchange isSent now).2 := by
  rw [launch]
  cases batch.placed with
  | none => exact Exchange.Keeps.refl exchange
  | some target =>
      have hmark := Exchange.keeps_markSent exchange target.request now
      cases isSent with
      | true => exact hmark.trans (Exchange.keeps_activate _ target.request now)
      | false => exact hmark.trans (Exchange.keeps_resolve _ target.request _ _)

theorem isSound_launch (hsound : batch.IsSound asked exchange) (isSent : Bool) (now : Nat) :
    (batch.launch exchange isSent now).1.IsSound asked (batch.launch exchange isSent now).2 := by
  refine IsSound.keeps ?_ (keeps_launch batch exchange isSent now)
  rw [launch]
  cases batch.placed with
  | none => exact hsound
  | some target => exact ⟨hsound.indices, hsound.reports, hsound.endpoints, hsound.targets⟩

end Batch

namespace QueryService

variable {service : QueryService} {batch : Batch kind} {asked : List (Option Endpoint)}

theorem keeps_advance (service : QueryService) (milliseconds : Nat) :
    service.exchange.Keeps (service.advance milliseconds).exchange :=
  Exchange.keeps_expire service.exchange _

theorem keeps_receive (service : QueryService) (reply : Reply) :
    service.exchange.Keeps (service.receive reply).exchange := by
  have hadvance := keeps_advance service reply.delay
  simp only [receive]
  split
  · exact hadvance
  · split_ifs
    · exact hadvance.trans (Exchange.keeps_dispatch _ _)
    · exact hadvance

theorem exchange_transmit (service : QueryService) (target : Endpoint) (message : Message) :
    (service.transmit target message).exchange = service.exchange := by
  simp only [transmit]
  split_ifs <;> rfl

theorem keeps_sendUpTo (limit : Nat) (service : QueryService) (batch : Batch kind) :
    service.exchange.Keeps (sendUpTo limit service batch).1.exchange := by
  induction limit generalizing service batch with
  | zero => exact Exchange.Keeps.refl _
  | succ limit ih =>
      rw [sendUpTo]
      cases batch.waiting with
      | nil => exact Exchange.Keeps.refl _
      | cons target rest =>
          refine Exchange.Keeps.trans ?_ (ih _ _)
          rw [exchange_transmit]
          exact (Batch.keeps_place batch _).trans (Batch.keeps_launch _ _ _ _)

theorem isSound_sendUpTo (limit : Nat) (hsound : batch.IsSound asked service.exchange) :
    (sendUpTo limit service batch).2.IsSound asked
      (sendUpTo limit service batch).1.exchange := by
  induction limit generalizing service batch with
  | zero => exact hsound
  | succ limit ih =>
      rw [sendUpTo]
      cases batch.waiting with
      | nil => exact hsound
      | cons target rest =>
          apply ih
          rw [exchange_transmit]
          exact Batch.isSound_launch (Batch.isSound_place hsound) _ _

/-- Opening a batch leaves the requests of others as they were. -/
theorem keeps_openBatch (service : QueryService) (kind : ProbeKind) (servers : List HostPort)
    (timeout : Nat) :
    service.exchange.Keeps (service.openBatch kind servers timeout).1.exchange := by
  simp only [openBatch]
  split_ifs
  · refine Exchange.Keeps.trans ?_ (keeps_sendUpTo _ _ _)
    exact Batch.keeps_resolved (Batch.start kind servers) service.exchange _ _ _
  · exact Exchange.Keeps.refl _

theorem isSound_openBatch (hnumbered : service.exchange.IsNumbered) (kind : ProbeKind)
    (servers : List HostPort) (timeout : Nat) :
    (service.openBatch kind servers timeout).2.IsSound
      (servers.map (Lookups.endpoint? service.resolve))
      (service.openBatch kind servers timeout).1.exchange := by
  simp only [openBatch]
  split_ifs
  · apply isSound_sendUpTo
    exact Batch.isSound_resolved hnumbered (Batch.start kind servers) rfl _ _
  · exact Batch.isSound_start servers _

/-! ## Waiting for the answers -/

theorem keeps_collectBatch (service : QueryService) (batch : Batch kind) :
    service.exchange.Keeps (service.collectBatch batch).1.exchange :=
  Batch.keeps_collectUpTo service.now _ batch service.exchange

theorem isSound_collectBatch (hsound : batch.IsSound asked service.exchange) :
    (service.collectBatch batch).2.IsSound asked (service.collectBatch batch).1.exchange :=
  Batch.isSound_collectUpTo service.now _ hsound

theorem isSound_collectBoth {first second : ProbeKind} {one : Batch first}
    (hsound : one.IsSound asked service.exchange) (other : Batch second) :
    (service.collectBoth (one, other)).2.1.IsSound asked
      (service.collectBoth (one, other)).1.exchange :=
  (isSound_collectBatch hsound).keeps (keeps_collectBatch _ other)

/-- What holds when waiting begins and survives answers and what is done after each of them holds
in the end. -/
theorem settleWith_induction {State : Type} (holds : QueryService → State → Prop)
    {after : QueryService → State → QueryService × State}
    (hafter : ∀ service state, holds service state →
      holds (after service state).1 (after service state).2)
    (hreceive : ∀ service state reply, holds service state → holds (service.receive reply) state)
    (hstart : ∀ service state, holds service state → holds { service with arriving := [] } state)
    {state : State} (hholds : holds service state) :
    holds (settleWith after service state).1 (settleWith after service state).2 := by
  let step (outcome : QueryService × State) (reply : Reply) : QueryService × State :=
    after (outcome.1.receive reply) outcome.2
  have hfold : ∀ (replies : List Reply) (outcome : QueryService × State),
      holds outcome.1 outcome.2 →
      holds (replies.foldl step outcome).1 (replies.foldl step outcome).2 := by
    intro replies
    induction replies with
    | nil => exact fun outcome houtcome => houtcome
    | cons reply rest ih =>
        intro outcome houtcome
        exact ih _ (hafter _ _ (hreceive _ _ reply houtcome))
  exact hfold service.arriving _ (hafter _ _ (hstart _ _ hholds))

/-- A batch that is closed has a result for each input at most, about the server that was asked. -/
theorem isSound_closeBatch (hsound : batch.IsSound asked service.exchange) :
    ((service.closeBatch batch).2.map (·.index)).Nodup ∧
      ∀ result ∈ (service.closeBatch batch).2, ∀ report ∈ result.report,
        asked[result.index]? = some (some (kind.subject report)) := by
  have hcollected := isSound_collectBatch hsound
  have hclosed : ((service.collectBatch batch).2.close (service.collectBatch batch).1.exchange
      (service.collectBatch batch).1.now).1.IsSound asked
        (service.collectBatch batch).1.exchange := by
    apply Batch.isSound_emitAll
    · exact ⟨hcollected.indices, hcollected.reports, hcollected.endpoints, hcollected.targets⟩
    · simp
  exact ⟨hclosed.indices, hclosed.reports⟩

/-- Each server that is asked for its info answers once, and with an info about the endpoint to
which its name leads. -/
theorem infos_probeBoth (hnumbered : service.exchange.IsNumbered) (servers : List HostPort)
    (timeout : Nat) :
    ((service.probeBoth servers timeout).2.1.map (·.index)).Nodup ∧
      ∀ result ∈ (service.probeBoth servers timeout).2.1, ∀ report ∈ result.report,
        (servers.map (Lookups.endpoint? service.resolve))[result.index]? =
          some (some (ServerInfo.address report)) := by
  let asked := servers.map (Lookups.endpoint? service.resolve)
  let holds (service : QueryService) (batches : Batch .info × Batch .status) : Prop :=
    batches.1.IsSound asked service.exchange
  let opened := service.openBatch .info servers timeout
  let both := opened.1.openBatch .status servers timeout
  have hboth : holds both.1 (opened.2, both.2) :=
    (isSound_openBatch hnumbered .info servers timeout).keeps
      (keeps_openBatch opened.1 .status servers timeout)
  let settled := both.1.settleWith collectBoth (opened.2, both.2)
  have hsettled : holds settled.1 settled.2 := by
    apply settleWith_induction holds _ _ _ hboth
    · intro service batches hbatches
      exact isSound_collectBoth hbatches batches.2
    · intro service batches reply hbatches
      exact hbatches.keeps (keeps_receive service reply)
    · intro service batches hbatches
      exact hbatches
  exact isSound_closeBatch (hsettled.keeps (keeps_advance settled.1 _))

end QueryService

end Muster
