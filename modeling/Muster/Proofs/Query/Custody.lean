import Muster.Proofs.Exchange.Attribution
import Muster.Proofs.Query.Course

/-!
# Requests of a batch

A batch has one request for each endpoint to which its inputs lead, and sends them in their order,
each at most once.  As long as the batch is not closed its requests are known and held, whatever
others do with the exchange, and a message that answers one of them came from its endpoint, has the
command that it waits for and was handed out in the course of the batch.
-/

namespace Muster

open Exchange

/-- A request of a batch is known and held, and what answered it was heard and is an answer to
it. -/
structure BatchTarget.IsKept (kind : ProbeKind) (exchange : Exchange) (heard : List Inbound)
    (target : BatchTarget) : Prop where
  known : ∃ request, exchange.get? target.request = some request ∧ request.isHeld ∧
    request.key = (target.endpoint, Message.lookupName kind.responseCommand)
  answers : ∀ delivery ∈ exchange.deliveriesTo target.request, ∀ inbound,
    delivery.outcome = .ok inbound → inbound ∈ heard ∧ inbound.sender = target.endpoint ∧
      inbound.message.key = Message.lookupName kind.responseCommand

variable {kind : ProbeKind} {target : BatchTarget} {heard : List Inbound}

/-! ## Keeping a request -/

section Kept

variable {timed : Timed} (horderly : timed.exchange.IsOrderly) (hswept : timed.exchange.IsSwept)

include horderly hswept

/-- A request is kept until it is released, and only messages that are handed out answer it. -/
theorem BatchTarget.isKept_after {call : Call} (hkept : target.IsKept kind timed.exchange heard)
    (hrelease : call ≠ .release target.request)
    (hcomplete : ∀ inbound, call ≠ .complete target.request inbound) :
    target.IsKept kind (timed.after call).exchange (heard ++ call.heard?.toList) := by
  obtain ⟨request, hget, hheld, hkey⟩ := hkept.known
  obtain ⟨-, hid⟩ := mem_of_get? hget
  rw [← hid] at hget hrelease hcomplete
  have hstays := timed.isHeld_changed hrelease
  rw [hheld] at hstays
  have hknown : (timed.after call).exchange.get? request.id =
      some (timed.changed request call) := by
    rw [Timed.get?_after horderly hswept hget, hstays, Bool.true_or, if_pos rfl]
  refine ⟨⟨timed.changed request call, hid ▸ hknown, hstays, ?_⟩, ?_⟩
  · rw [(timed.changed_continues request call).key_eq, hkey]
  · intro delivery hdelivery inbound houtcome
    have hnotNone : (timed.after call).exchange.get? request.id ≠ none := by simp [hknown]
    rw [← hid, Timed.deliveriesTo_after horderly hswept hget (Or.inl hnotNone)] at hdelivery
    rcases List.mem_append.mp hdelivery with hearlier | hnews
    · rw [hid] at hearlier
      obtain ⟨hheard, hanswer⟩ := hkept.answers delivery hearlier inbound houtcome
      exact ⟨List.mem_append_left _ hheard, hanswer⟩
    · rcases Timed.verdict?_eq_answered (Timed.verdict?_of_mem_news hnews houtcome) with
        rfl | ⟨rfl, hawaits⟩
      · exact absurd rfl (hcomplete inbound)
      · rw [awaits, Bool.and_eq_true, Bool.and_eq_true, Bool.and_eq_true, beq_iff_eq,
          beq_iff_eq] at hawaits
        obtain ⟨⟨⟨-, hendpoint⟩, hcommand⟩, -⟩ := hawaits
        obtain ⟨htarget, hname⟩ := Prod.mk.inj hkey
        exact ⟨List.mem_append_right _ (by simp [Call.heard?]), hendpoint ▸ htarget,
          hcommand ▸ hname⟩

/-- A target stays known and held as long as its request is not released or completed by name. -/
theorem BatchTarget.isKept_afterAll {calls : List Call}
    (hkept : target.IsKept kind timed.exchange heard)
    (hcalls : ∀ call ∈ calls, call ≠ .release target.request ∧
      ∀ inbound, call ≠ .complete target.request inbound) :
    target.IsKept kind (timed.afterAll calls).exchange (heard ++ calls.filterMap Call.heard?) := by
  induction calls generalizing timed heard with
  | nil => rwa [List.filterMap_nil, List.append_nil]
  | cons call rest ih =>
      rw [List.forall_mem_cons] at hcalls
      obtain ⟨hnextOrderly, hnextSwept⟩ := Timed.isOrderly_after horderly hswept call
      have hnext := ih hnextOrderly hnextSwept
        (isKept_after horderly hswept hkept hcalls.1.1 hcalls.1.2) hcalls.2
      rwa [List.append_assoc, ← Call.filterMap_heard?_cons] at hnext

/-- A request that a batch makes is kept. -/
theorem Batch.isKept_creation (timeout : Nat) (endpoint : Endpoint) (heard : List Inbound) :
    (BatchTarget.mk timed.exchange.nextId endpoint).IsKept kind
      (timed.after (creation kind timeout endpoint)).exchange heard := by
  have hmade : timed.made? (creation kind timeout endpoint) = some (timed.exchange.made endpoint
      kind.request kind.responseCommand timeout .batch timed.now) := rfl
  have hknown := Timed.made_after horderly hswept hmade
  refine ⟨⟨_, hknown, rfl, rfl⟩, ?_⟩
  intro delivery hdelivery
  have hsilent := horderly.deliveriesTo_eq_nil timed.exchange.nextId (Nat.le_refl _)
  have hnone : delivery ∈ timed.exchange.deliveriesTo timed.exchange.nextId := hdelivery
  rw [hsilent] at hnone
  exact absurd hnone List.not_mem_nil

/-- All requests that a batch makes are kept. -/
theorem Batch.isKept_createAll (timeout : Nat) (endpoints : List Endpoint)
    (heard : List Inbound) :
    ∀ target ∈ (createAll kind timeout timed.now endpoints timed.exchange).2,
      target.IsKept kind (timed.afterAll (endpoints.map (creation kind timeout))).exchange
        heard := by
  induction endpoints generalizing timed with
  | nil => exact fun target htarget => absurd htarget List.not_mem_nil
  | cons endpoint rest ih =>
      let created := timed.after (creation kind timeout endpoint)
      obtain ⟨hnextOrderly, hnextSwept⟩ :=
        Timed.isOrderly_after horderly hswept (creation kind timeout endpoint)
      have hfirst : (BatchTarget.mk timed.exchange.nextId endpoint).IsKept kind created.exchange
          heard := isKept_creation horderly hswept timeout endpoint heard
      have hlater : ∀ call ∈ rest.map (creation kind timeout),
          call.heard? = none ∧ call ≠ .release timed.exchange.nextId ∧
            ∀ inbound, call ≠ .complete timed.exchange.nextId inbound := by
        intro call hcall
        obtain ⟨other, -, rfl⟩ := List.mem_map.mp hcall
        exact ⟨rfl, by simp [creation], by simp [creation]⟩
      have hsilent : (rest.map (creation kind timeout)).filterMap Call.heard? = [] :=
        List.filterMap_eq_nil_iff.mpr fun call hcall => (hlater call hcall).1
      have hkept := BatchTarget.isKept_afterAll hnextOrderly hnextSwept hfirst
        fun call hcall => (hlater call hcall).2
      rw [hsilent, List.append_nil] at hkept
      simp only [createAll]
      rw [List.forall_mem_cons]
      exact ⟨hkept, ih hnextOrderly hnextSwept⟩

end Kept

namespace Batch

variable {batch : Batch kind} {exchange : Exchange} {now : Nat} {report : Option kind.Report}

/-! ## What results leave alone -/

/-- Giving inputs their results changes nothing but the results. -/
theorem emitAll_eq (batch : Batch kind) (now : Nat) (report : Option kind.Report)
    (indices : List Nat) :
    batch.emitAll now report indices =
      { batch with results := (batch.emitAll now report indices).results } := by
  induction indices generalizing batch with
  | nil => rfl
  | cons index rest ih =>
      have hfirst : batch.emit now report index =
          { batch with results := (batch.emit now report index).results } := by
        rw [emit]
        cases batch.servers[index]? with
        | none => rfl
        | some server =>
            simp only
            split_ifs <;> rfl
      have hrest := ih (batch.emit now report index)
      rw [hfirst] at hrest
      rw [emitAll, List.foldl_cons, ← emitAll, hfirst]
      exact hrest

section Emit

variable (batch : Batch kind) (now : Nat) (report : Option kind.Report) (indices : List Nat)

@[simp]
theorem servers_emitAll : (batch.emitAll now report indices).servers = batch.servers := by
  rw [emitAll_eq]

@[simp]
theorem endpoints_emitAll : (batch.emitAll now report indices).endpoints = batch.endpoints := by
  rw [emitAll_eq]

@[simp]
theorem targets_emitAll : (batch.emitAll now report indices).targets = batch.targets := by
  rw [emitAll_eq]

@[simp]
theorem waiting_emitAll : (batch.emitAll now report indices).waiting = batch.waiting := by
  rw [emitAll_eq]

@[simp]
theorem placed_emitAll : (batch.emitAll now report indices).placed = batch.placed := by
  rw [emitAll_eq]

end Emit

theorem launch_fst (batch : Batch kind) (exchange : Exchange) (isSent : Bool) (now : Nat) :
    (batch.launch exchange isSent now).1 = { batch with placed := none } := by
  obtain ⟨servers, endpoints, targets, waiting, placed, collected, results⟩ := batch
  cases placed <;> rfl

theorem collect_fst {delivery : Delivery}
    (hfound : batch.targets.find? (fun target => target.request == delivery.request) =
      some target) :
    (batch.collect exchange delivery now).1 =
      { batch with collected := batch.collected ++ [delivery.request] }.emitAll now
        ((exchange.get? target.request).bind fun request =>
          request.report? kind delivery.outcome)
        (batch.indicesOf (some target.endpoint)) := by
  simp only [collect, hfound]
  rfl

end Batch

namespace BatchRun

variable {lead : HostPort → Option Endpoint} {timeout : Nat} {run : BatchRun kind}
  {servers : List HostPort} {timed : Timed} {event : BatchEvent} {call : Call}

/-! ## The order in which requests are sent -/

/-- The requests of a batch are its targets in their order.  Those at the front have been sent or
have failed, the next one may be indexed, and the others wait; only the datagrams of the first
ones, and of the next one if it is out, have been sent. -/
def IsLinedUp (run : BatchRun kind) : Prop :=
  ∃ sent, run.batch.targets = sent ++ (run.batch.placed.toList ++ run.batch.waiting) ∧
    run.probed.Sublist
      ((sent ++ if run.isOut then run.batch.placed.toList else []).map (·.endpoint))

/-- A batch that has not come to the end of its lookups has done nothing but lookups. -/
def IsFresh (servers : List HostPort) (run : BatchRun kind) : Prop :=
  run.batch = .start kind servers ∧ run.probed = []

theorem isFresh_after (hfresh : run.IsFresh servers) (hevent : event ≠ .resolve) :
    (run.after lead timeout event).IsFresh servers := by
  obtain ⟨hbatch, hprobed⟩ := hfresh
  have hplaced : run.batch.placed = none := by rw [hbatch]; rfl
  have hwaiting : run.batch.waiting = [] := by rw [hbatch]; rfl
  have htargets : run.batch.targets = [] := by rw [hbatch]; rfl
  cases event with
  | lookUp => exact ⟨hbatch, hprobed⟩
  | resolve => exact absurd rfl hevent
  | place =>
      refine ⟨?_, hprobed⟩
      rw [after, act, Batch.place, hplaced, hwaiting]
      exact hbatch
  | send =>
      rw [after, hplaced]
      exact ⟨hbatch, hprobed⟩
  | launch isSent =>
      refine ⟨?_, hprobed⟩
      rw [after, act, Batch.launch, hplaced]
      exact hbatch
  | collect =>
      have hnone : run.batch.nextDelivery? run.timed.exchange = none := by
        simp [Batch.nextDelivery?, Batch.isTarget, htargets]
      rw [after, hnone]
      exact ⟨hbatch, hprobed⟩
  | other call =>
      rw [after]
      split_ifs <;> exact ⟨hbatch, hprobed⟩

theorem isResolved_after (hevent : event ≠ .resolve) :
    (run.after lead timeout event).isResolved = run.isResolved := by
  cases event with
  | resolve => exact absurd rfl hevent
  | send =>
      rw [after]
      cases run.batch.placed with
      | none => rfl
      | some target => split_ifs <;> rfl
  | collect =>
      rw [after]
      cases run.batch.nextDelivery? run.timed.exchange <;> rfl
  | other call =>
      rw [after]
      split_ifs <;> rfl
  | _ => rfl

/-- What a batch knows of its inputs and its requests once it has come to the end of its lookups
does not change any more. -/
theorem batch_after (hevent : event ≠ .resolve) :
    (run.after lead timeout event).batch.servers = run.batch.servers ∧
      (run.after lead timeout event).batch.endpoints = run.batch.endpoints ∧
      (run.after lead timeout event).batch.targets = run.batch.targets := by
  cases event with
  | lookUp => exact ⟨rfl, rfl, rfl⟩
  | resolve => exact absurd rfl hevent
  | place =>
      rw [after, act, Batch.place]
      split <;> exact ⟨rfl, rfl, rfl⟩
  | send =>
      rw [after]
      cases run.batch.placed with
      | none => exact ⟨rfl, rfl, rfl⟩
      | some target => split_ifs <;> exact ⟨rfl, rfl, rfl⟩
  | launch isSent =>
      rw [after, act, Batch.launch_fst]
      exact ⟨rfl, rfl, rfl⟩
  | collect =>
      rw [after]
      cases hnext : run.batch.nextDelivery? run.timed.exchange with
      | none => exact ⟨rfl, rfl, rfl⟩
      | some delivery =>
          obtain ⟨-, target, -, -, hfound⟩ := Batch.nextDelivery?_eq_some hnext
          simp only [act, Batch.collect_fst hfound, Batch.servers_emitAll,
            Batch.endpoints_emitAll, Batch.targets_emitAll, and_self]
  | other call =>
      rw [after]
      split_ifs <;> exact ⟨rfl, rfl, rfl⟩

theorem isLinedUp_after (hlined : run.IsLinedUp) (hevent : event ≠ .resolve) :
    (run.after lead timeout event).IsLinedUp := by
  obtain ⟨sent, htargets, hprobed⟩ := hlined
  cases event with
  | lookUp => exact ⟨sent, htargets, hprobed⟩
  | resolve => exact absurd rfl hevent
  | place =>
      rw [after, act, Batch.place]
      cases hplaced : run.batch.placed with
      | some target =>
          refine ⟨sent, ?_, hprobed⟩
          exact htargets
      | none =>
          cases hwaiting : run.batch.waiting with
          | nil => exact ⟨sent, htargets, hprobed⟩
          | cons target rest =>
              refine ⟨sent, ?_, ?_⟩
              · rw [htargets, hplaced, hwaiting]
                rfl
              · rw [hplaced, Option.toList_none, ite_self, List.append_nil] at hprobed
                refine hprobed.trans ?_
                rw [List.map_append]
                exact List.sublist_append_left _ _
  | send =>
      rw [after]
      cases hplaced : run.batch.placed with
      | none => exact ⟨sent, htargets, hprobed⟩
      | some target =>
          simp only
          split_ifs with hout
          · exact ⟨sent, htargets, hprobed⟩
          · refine ⟨sent, htargets, ?_⟩
            rw [if_neg hout, List.append_nil] at hprobed
            rw [if_pos rfl, hplaced, List.map_append]
            exact hprobed.append_right _
  | launch isSent =>
      have hsent : (sent ++ if run.isOut then run.batch.placed.toList else []).Sublist
          (sent ++ run.batch.placed.toList) := by
        split_ifs
        · exact List.Sublist.refl _
        · rw [List.append_nil]
          exact List.sublist_append_left _ _
      rw [after, act, Batch.launch_fst]
      refine ⟨sent ++ run.batch.placed.toList, ?_, ?_⟩
      · rw [htargets, List.append_assoc]
        rfl
      · rw [if_neg Bool.false_ne_true, List.append_nil]
        exact hprobed.trans (hsent.map _)
  | collect =>
      rw [after]
      cases hnext : run.batch.nextDelivery? run.timed.exchange with
      | none => exact ⟨sent, htargets, hprobed⟩
      | some delivery =>
          obtain ⟨-, target, -, -, hfound⟩ := Batch.nextDelivery?_eq_some hnext
          refine ⟨sent, ?_, ?_⟩
          · simp only [act, Batch.collect_fst hfound, Batch.targets_emitAll,
              Batch.placed_emitAll, Batch.waiting_emitAll]
            exact htargets
          · simp only [act, Batch.collect_fst hfound, Batch.placed_emitAll]
            exact hprobed
  | other call =>
      rw [after]
      split_ifs <;> exact ⟨sent, htargets, hprobed⟩

/-- Lookups are started in their order, each once. -/
theorem lookups_after (hservers : run.batch.servers = servers)
    (hlooked : run.lookups <+: Lookups.distinct servers) :
    (run.after lead timeout event).lookups <+: Lookups.distinct servers := by
  cases event with
  | lookUp =>
      rw [after, hservers]
      exact List.take_prefix _ _
  | resolve =>
      rw [after]
      split_ifs <;> exact hlooked
  | send =>
      rw [after]
      cases run.batch.placed with
      | none => exact hlooked
      | some target => split_ifs <;> exact hlooked
  | collect =>
      rw [after]
      cases run.batch.nextDelivery? run.timed.exchange <;> exact hlooked
  | other call =>
      rw [after]
      split_ifs <;> exact hlooked
  | _ => exact hlooked

/-! ## Where a batch stands -/

/-- Where a batch stands with its inputs, its requests and the exchange. -/
structure IsSteady (lead : HostPort → Option Endpoint) (servers : List HostPort)
    (run : BatchRun kind) : Prop where
  isOrderly : run.timed.exchange.IsOrderly
  isSwept : run.timed.exchange.IsSwept
  servers_eq : run.batch.servers = servers
  fresh : run.isResolved = false → run.IsFresh servers
  endpoints_eq : run.isResolved → run.batch.endpoints = servers.map lead
  targets_eq : run.isResolved → run.batch.targets.map (·.endpoint) =
    ((servers.map lead).filterMap id).eraseDups
  isLinedUp : run.IsLinedUp
  kept : ∀ target ∈ run.batch.targets, target.IsKept kind run.timed.exchange run.heard
  looked : run.lookups <+: Lookups.distinct servers

/-- Before its first event a batch has asked nothing and has no results. -/
theorem isSteady_start (horderly : timed.exchange.IsOrderly) (hswept : timed.exchange.IsSwept)
    (servers : List HostPort) : (start kind servers timed).IsSteady lead servers where
  isOrderly := horderly
  isSwept := hswept
  servers_eq := rfl
  fresh := fun _ => ⟨rfl, rfl⟩
  endpoints_eq := fun hresolved => absurd hresolved Bool.false_ne_true
  targets_eq := fun hresolved => absurd hresolved Bool.false_ne_true
  isLinedUp := ⟨[], rfl, List.nil_sublist _⟩
  kept := fun _ htarget => absurd htarget List.not_mem_nil
  looked := List.nil_prefix

/-- Others do not name requests of the batch. -/
theorem subject?_ne (hown : run.isOwn call = false) (htarget : target ∈ run.batch.targets) :
    call.subject? ≠ some target.request := by
  intro hsubject
  have hrequest : target.request ∈ run.batch.requests := List.mem_map_of_mem htarget
  rw [isOwn, hsubject, Option.any_some, List.contains_iff_mem.mpr hrequest] at hown
  exact absurd hown (by decide)

theorem kept_after (hsteady : run.IsSteady lead servers) (htarget : target ∈ run.batch.targets) :
    target.IsKept kind (run.after lead timeout event).timed.exchange
      (run.after lead timeout event).heard := by
  rw [timed_after, heard_after]
  apply BatchTarget.isKept_afterAll hsteady.isOrderly hsteady.isSwept
    (hsteady.kept target htarget)
  intro call hcall
  rcases mem_calls hcall with hstep | ⟨-, hown⟩
  · constructor
    · rintro rfl
      exact absurd hstep Bool.false_ne_true
    · rintro inbound rfl
      exact absurd hstep Bool.false_ne_true
  · have hsubject := subject?_ne hown htarget
    constructor
    · rintro rfl
      exact hsubject rfl
    · rintro inbound rfl
      exact hsubject rfl

/-- The names have led to their endpoints. -/
theorem isSteady_resolve (hsteady : run.IsSteady lead servers) :
    (run.after lead timeout .resolve).IsSteady lead servers := by
  by_cases hcomplete : (!run.isResolved && run.lookups == Lookups.distinct run.batch.servers)
  · rw [Bool.and_eq_true, Bool.not_eq_true'] at hcomplete
    obtain ⟨hbatch, hprobed⟩ := hsteady.fresh hcomplete.1
    let asked := ((servers.map lead).filterMap id).eraseDups
    let created := Batch.createAll kind timeout run.timed.now asked run.timed.exchange
    have hafter : run.after lead timeout .resolve =
        { run.act (run.batch.resolved run.timed.exchange (servers.map lead) timeout
            run.timed.now) with isResolved := true } := by
      rw [after, hsteady.servers_eq, ← hsteady.servers_eq]
      exact if_pos (by simpa using hcomplete)
    have htimed : (run.after lead timeout .resolve).timed =
        run.timed.afterAll (asked.map (Batch.creation kind timeout)) := by
      rw [hafter]
      exact Batch.createAll_fst kind timeout asked run.timed
    have htargets : (run.after lead timeout .resolve).batch.targets = created.2 := by
      rw [hafter]
      exact Batch.targets_emitAll ..
    obtain ⟨hnextOrderly, hnextSwept⟩ := Timed.isOrderly_afterAll hsteady.isOrderly
      hsteady.isSwept (asked.map (Batch.creation kind timeout))
    rw [← htimed] at hnextOrderly hnextSwept
    constructor
    case isOrderly => exact hnextOrderly
    case isSwept => exact hnextSwept
    case servers_eq =>
      rw [hafter]
      exact (Batch.servers_emitAll ..).trans hsteady.servers_eq
    case fresh =>
      intro hfresh
      rw [hafter] at hfresh
      exact absurd hfresh (by simp)
    case endpoints_eq =>
      intro _
      rw [hafter]
      exact Batch.endpoints_emitAll ..
    case targets_eq =>
      intro _
      rw [htargets]
      exact Batch.endpoints_createAll timeout run.timed.now asked run.timed.exchange
    case isLinedUp =>
      -- No request has been indexed yet, so all of them wait.
      have hplaced : (run.after lead timeout .resolve).batch.placed = none := by
        rw [hafter]
        refine (Batch.placed_emitAll ..).trans ?_
        rw [hbatch]
        rfl
      have hwaiting : (run.after lead timeout .resolve).batch.waiting = created.2 := by
        rw [hafter]
        exact Batch.waiting_emitAll ..
      refine ⟨[], ?_, ?_⟩
      · rw [htargets, hplaced, hwaiting]
        rfl
      · rw [hafter]
        exact hprobed ▸ List.nil_sublist _
    case kept =>
      rw [htargets, htimed]
      exact Batch.isKept_createAll hsteady.isOrderly hsteady.isSwept timeout asked _
    case looked =>
      rw [hafter]
      exact hsteady.looked
  · rw [after, if_neg hcomplete]
    exact hsteady

/-- By cases on the event: each step of a batch keeps inputs, requests and exchange in agreement.
-/
theorem isSteady_after (run : BatchRun kind) (event : BatchEvent)
    (hsteady : run.IsSteady lead servers) :
    (run.after lead timeout event).IsSteady lead servers := by
  by_cases hevent : event = .resolve
  · rw [hevent]
    exact isSteady_resolve hsteady
  · have hresolved : (run.after lead timeout event).isResolved = run.isResolved :=
      isResolved_after hevent
    obtain ⟨hservers, hendpoints, htargets⟩ := batch_after hevent
    obtain ⟨hnextOrderly, hnextSwept⟩ := Timed.isOrderly_afterAll hsteady.isOrderly
      hsteady.isSwept (run.calls lead timeout event)
    rw [← timed_after] at hnextOrderly hnextSwept
    constructor
    case isOrderly => exact hnextOrderly
    case isSwept => exact hnextSwept
    case servers_eq => exact hservers.trans hsteady.servers_eq
    case fresh =>
      intro hfresh
      exact isFresh_after (hsteady.fresh (hresolved ▸ hfresh)) hevent
    case endpoints_eq =>
      intro hcomplete
      exact hendpoints.trans (hsteady.endpoints_eq (hresolved ▸ hcomplete))
    case targets_eq =>
      intro hcomplete
      rw [htargets]
      exact hsteady.targets_eq (hresolved ▸ hcomplete)
    case isLinedUp => exact isLinedUp_after hsteady.isLinedUp hevent
    case kept =>
      rw [htargets]
      exact fun target htarget => kept_after hsteady htarget
    case looked => exact lookups_after hsteady.servers_eq hsteady.looked

theorem isSteady_course (horderly : timed.exchange.IsOrderly) (hswept : timed.exchange.IsSwept)
    (servers : List HostPort) (events : List BatchEvent) :
    (course lead timeout kind servers timed events).IsSteady lead servers :=
  course_induction (isSteady_start horderly hswept servers) isSteady_after events

end BatchRun

end Muster
