import Muster.Proofs.Exchange.Resolution

/-!
# Responses and their requests

A message that is handed out answers the requests that wait for it and no others: those that were
sent to its sender, wait for its command and are still open.  Hence, where requests are answered
through the index alone, whatever was answered was answered by its own endpoint, with the command
that it waited for, and after it had been sent.
-/

namespace Muster

open Exchange

namespace Exchange

/-- What becomes of an exchange when a message is handed out to it. -/
structure Answers (before : Exchange) (inbound : Inbound) (after : Exchange) (count : Nat)
    (answered : List Request) : Prop where
  nodup : answered.Nodup
  /-- The message answers the open requests that await it. -/
  mem_iff : ∀ request, request ∈ answered ↔ request ∈ before.requests ∧
    before.pending.contains request.id ∧ request.endpoint = inbound.sender ∧
    request.responseCommand = Message.lookupName inbound.message.command ∧
    request.sentAt.isSome ∧ request.state.isFinal = false
  count_eq : count = answered.length
  delivered_eq : after.delivered =
    before.delivered ++ answered.map fun request => ⟨request.id, request.recipient, .ok inbound⟩
  /-- No other request changes; those that nobody knows of any more are dropped. -/
  get?_eq : ∀ request ∈ before.requests, after.get? request.id =
    if request.isHeld || after.pending.contains request.id then
      some (if request ∈ answered then request.finish .completed else request)
    else none
  ids_subset : ∀ id ∈ after.ids, id ∈ before.ids
  /-- Of the requests under the key of the message those stay that have not been sent. -/
  get_eq : ∀ key, after.pending.get key =
    if key = (inbound.sender, Message.lookupName inbound.message.command) then
      (before.pending.get key).filter fun id => !before.isSent id
    else before.pending.get key

/-- The open requests that a message answers, in the order in which they were indexed. -/
def openUnder (exchange : Exchange) (inbound : Inbound) : List Request :=
  ((exchange.sentUnder inbound).filterMap exchange.get?).filter fun request =>
    !request.state.isFinal

end Exchange

namespace Timed

/-- A request was handed a message from its own endpoint, with the command that it waited for, after
it had been sent. -/
structure Attributed (calls : List Call) (id : RequestId) (inbound : Inbound)
    (earlier : List Call) (request : Request) : Prop where
  within : earlier ++ [.dispatch inbound] <+: calls
  get?_eq : (run earlier).exchange.get? id = some request
  endpoint_eq : request.endpoint = inbound.sender
  responseCommand_eq : request.responseCommand = Message.lookupName inbound.message.command
  isSent : request.sentAt.isSome
  sent : .markSent id ∈ earlier ∨ .activate id ∈ earlier

variable {timed : Timed} {call : Call} {calls earlier : List Call} {id : RequestId}
  {request : Request} {inbound : Inbound}

/-! ## Handing out one message -/

theorem nodup_sentUnder (horderly : timed.exchange.IsOrderly) (inbound : Inbound) :
    (timed.exchange.sentUnder inbound).Nodup :=
  (horderly.nodup_get _).filter _

theorem mem_openUnder (horderly : timed.exchange.IsOrderly) :
    request ∈ timed.exchange.openUnder inbound ↔ request ∈ timed.exchange.requests ∧
      timed.exchange.awaits inbound request ∧ request.state.isFinal = false := by
  rw [openUnder, List.mem_filter, List.mem_filterMap, Bool.not_eq_true', ← and_assoc]
  refine and_congr_left fun _ => ?_
  constructor
  · rintro ⟨id, hid, hget⟩
    obtain ⟨hrequest, rfl⟩ := mem_of_get? hget
    exact ⟨hrequest, (awaits_iff horderly inbound hget).mpr hid⟩
  · rintro ⟨hrequest, hawaits⟩
    have hget := get?_of_mem horderly.nodup_ids hrequest
    exact ⟨request.id, (awaits_iff horderly inbound hget).mp hawaits, hget⟩

theorem nodup_openUnder (horderly : timed.exchange.IsOrderly) (inbound : Inbound) :
    (timed.exchange.openUnder inbound).Nodup := by
  refine ((nodup_sentUnder horderly inbound).filterMap ?_).filter _
  intro first second request hfirst hsecond
  exact (mem_of_get? hfirst).2.symm.trans (mem_of_get? hsecond).2

/-- Dispatching a message delivers it to every open request that was sent and waits for it. -/
theorem delivered_answerSent (horderly : timed.exchange.IsOrderly) (inbound : Inbound) :
    (timed.exchange.answerSent inbound).delivered = timed.exchange.delivered ++
      (timed.exchange.openUnder inbound).map fun request =>
        ⟨request.id, request.recipient, .ok inbound⟩ := by
  rw [answerSent, delivered_resolveAll _ _ _ (nodup_sentUnder horderly inbound), openUnder]
  congr 1
  have hsame : (timed.exchange.reindex (timed.exchange.pending.set
      (inbound.sender, inbound.message.key) (timed.exchange.unsentUnder inbound))).get? =
        timed.exchange.get? := rfl
  rw [hsame]
  induction (timed.exchange.sentUnder inbound).filterMap timed.exchange.get? with
  | nil => rfl
  | cons request rest ih =>
      rw [List.flatMap_cons, ih]
      cases hfinal : request.state.isFinal with
      | true =>
          rw [Request.told_of_isFinal hfinal, List.nil_append,
            List.filter_cons_of_neg (by simp [hfinal])]
      | false =>
          rw [Request.told_of_isOpen hfinal, List.filter_cons_of_pos (by simp [hfinal]),
            List.map_cons, List.singleton_append]

theorem changed_dispatch (horderly : timed.exchange.IsOrderly)
    (hrequest : request ∈ timed.exchange.requests) (inbound : Inbound) :
    timed.changed request (.dispatch inbound) =
      if request ∈ timed.exchange.openUnder inbound then request.finish .completed
      else request := by
  rw [changed, verdict?]
  by_cases hawaits : timed.exchange.awaits inbound request
  · rw [if_pos hawaits]
    cases hfinal : request.state.isFinal with
    | true =>
        have hnot : request ∉ timed.exchange.openUnder inbound := fun hmember =>
          absurd ((mem_openUnder horderly).mp hmember).2.2 (by simp [hfinal])
        rw [if_neg hnot]
        exact Request.settle_of_isFinal hfinal
    | false =>
        rw [if_pos ((mem_openUnder horderly).mpr ⟨hrequest, hawaits, hfinal⟩)]
        exact Request.settle_of_isOpen hfinal
  · rw [if_neg hawaits, if_neg fun hmember => hawaits ((mem_openUnder horderly).mp hmember).2.1]
    rfl

theorem pending_answerSent (exchange : Exchange) (inbound : Inbound) :
    (exchange.answerSent inbound).pending =
      exchange.pending.set (inbound.sender, inbound.message.key) (exchange.unsentUnder inbound) :=
  (sameRoll_resolveAll ..).pending_eq

/-- A request that the message does not answer keeps its place in the index. -/
theorem contains_answerSent (horderly : timed.exchange.IsOrderly)
    (hget : timed.exchange.get? request.id = some request)
    (hcontains : timed.exchange.pending.contains request.id)
    (hawaits : timed.exchange.awaits inbound request = false) :
    (timed.exchange.answerSent inbound).pending.contains request.id := by
  rw [pending_answerSent, Pending.contains_iff (horderly.isKeyed.set _ _)]
  have hid := (horderly.contains_iff hget).mp hcontains
  refine ⟨request.key, ?_⟩
  rw [Pending.get_set]
  split_ifs with hkey
  · rw [hkey] at hid
    rw [unsentUnder, List.mem_filter, Bool.not_eq_true']
    refine ⟨hid, ?_⟩
    rw [Bool.eq_false_iff] at hawaits ⊢
    intro hsent
    exact hawaits ((awaits_iff horderly inbound hget).mpr (List.mem_filter.mpr ⟨hid, hsent⟩))
  · exact hid

/-- No open request is dropped when a message has been handed out. -/
theorem isFinal_of_unreachable (horderly : timed.exchange.IsOrderly)
    (hswept : timed.exchange.IsSwept) :
    ∀ request ∈ (timed.exchange.answerSent inbound).requests,
      (timed.exchange.answerSent inbound).isReachable request = false → request.state.isFinal := by
  have hyields := yields_dispatch horderly inbound
  intro later hlater hunreachable
  have hget := get?_of_mem hyields.isOrderly.nodup_ids hlater
  cases hbefore : timed.exchange.get? later.id with
  | none =>
      rw [hyields.get?_of_none later.id hbefore] at hget
      exact absurd hget (by simp [made?])
  | some request =>
      obtain ⟨hrequest, hid⟩ := mem_of_get? hbefore
      rw [hyields.get?_of_some later.id request hbefore] at hget
      obtain rfl := Option.some.inj hget
      rw [isReachable, isHeld_changed (by simp), id_changed, Bool.or_eq_false_iff] at hunreachable
      -- Nobody holds the request, so it was indexed; it lost its place because it was answered.
      have hreachable := hswept request hrequest
      rw [isReachable, hunreachable.1, Bool.false_or] at hreachable
      by_contra hopen
      have hawaits : timed.exchange.awaits inbound request := by
        by_contra hnot
        rw [← hid] at hbefore
        rw [contains_answerSent horderly hbefore hreachable (Bool.eq_false_iff.mpr hnot)]
          at hunreachable
        exact absurd hunreachable.2 (by decide)
      have hverdict : timed.verdict? request (.dispatch inbound) = some (.answered inbound) :=
        if_pos hawaits
      rw [(changed_of_verdict? hverdict).1] at hopen
      exact hopen (request.isFinal_settle rfl)

/-- Handing out a message answers exactly the open requests that await it. -/
theorem answers_dispatch (horderly : timed.exchange.IsOrderly) (hswept : timed.exchange.IsSwept)
    (inbound : Inbound) :
    Answers timed.exchange inbound (timed.exchange.dispatch inbound).1
      (timed.exchange.dispatch inbound).2 (timed.exchange.openUnder inbound) := by
  have hyields := yields_dispatch horderly inbound
  have hafter : (timed.exchange.dispatch inbound).1 =
      (timed.exchange.answerSent inbound).collect := congrArg collect (completeAll_fst ..)
  have hdelivered := delivered_answerSent horderly inbound
  constructor
  case nodup => exact nodup_openUnder horderly inbound
  case mem_iff =>
    intro request
    rw [mem_openUnder horderly, awaits]
    simp only [Bool.and_eq_true, beq_iff_eq, and_assoc]
    rfl
  case count_eq =>
    have hlength := length_delivered_completeAll (timed.exchange.reindex (timed.exchange.pending.set
      (inbound.sender, inbound.message.key) (timed.exchange.unsentUnder inbound))) inbound
      (timed.exchange.sentUnder inbound)
    rw [completeAll_fst] at hlength
    have hboth := hlength.symm.trans (congrArg List.length hdelivered)
    rw [List.length_append, List.length_map] at hboth
    exact Nat.add_left_cancel hboth
  case delivered_eq =>
    rw [hafter, delivered_collect (isFinal_of_unreachable horderly hswept), hdelivered]
  case get?_eq =>
    intro request hrequest
    have hget := get?_of_mem horderly.nodup_ids hrequest
    rw [hafter, get?_collect hyields.isOrderly.nodup_ids, hyields.get?_of_some _ request hget,
      ← changed_dispatch horderly hrequest, Option.filter_some, isReachable, id_changed,
      isHeld_changed (by simp)]
    rfl
  case ids_subset =>
    intro id hid
    rw [hafter] at hid
    have hkept : id ∈ (timed.exchange.answerSent inbound).ids :=
      (List.filter_sublist.map _).subset hid
    rw [answerSent, (sameRoll_resolveAll ..).ids_eq] at hkept
    exact hkept
  case get_eq =>
    intro key
    have hset := congrArg (·.get key) (pending_answerSent timed.exchange inbound)
    rw [Pending.get_set] at hset
    rw [hafter]
    refine hset.trans (ite_congr rfl ?_ fun _ => rfl)
    rintro rfl
    rfl

/-! ## Handing out messages in the course of a run -/

/-- A request is answered in two ways: by name, or through the index. -/
theorem verdict?_eq_answered
    (hverdict : timed.verdict? request call = some (.answered inbound)) :
    call = .complete request.id inbound ∨
      (call = .dispatch inbound ∧ timed.exchange.awaits inbound request) := by
  cases call with
  | complete id other =>
      obtain ⟨rfl, heq⟩ := Option.ite_none_right_eq_some.mp hverdict
      cases heq
      exact Or.inl rfl
  | dispatch other =>
      obtain ⟨hawaits, heq⟩ := Option.ite_none_right_eq_some.mp hverdict
      cases heq
      exact Or.inr ⟨rfl, hawaits⟩
  | cancel id => exact absurd (Option.ite_none_right_eq_some.mp hverdict).2 (by simp)
  | fail id error => exact absurd (Option.ite_none_right_eq_some.mp hverdict).2 (by simp)
  | insert id => exact absurd (Option.ite_none_right_eq_some.mp hverdict).2 (by simp)
  | advance elapsed => exact absurd (Option.ite_none_right_eq_some.mp hverdict).2 (by simp)
  | _ => exact absurd hverdict (by simp [verdict?])

/-- What is delivered with a message was answered by it. -/
theorem verdict?_of_mem_news {delivery : Delivery} (hdelivery : delivery ∈ timed.news request call)
    (houtcome : delivery.outcome = .ok inbound) :
    timed.verdict? request call = some (.answered inbound) := by
  rw [news] at hdelivery
  cases hverdict : timed.verdict? request call with
  | none =>
      rw [hverdict] at hdelivery
      exact absurd hdelivery List.not_mem_nil
  | some verdict =>
      rw [hverdict] at hdelivery
      have houtcome : verdict.outcome = .ok inbound :=
        (Request.outcome_of_mem_told hdelivery).symm.trans houtcome
      cases verdict with
      | answered other => rw [Except.ok.inj houtcome]
      | _ => exact absurd houtcome (by simp [Verdict.outcome])

/-- The time at which a request was sent is set by the two calls that send it off, and by no other.
-/
theorem sentAt_changed (timed : Timed) (request : Request) (call : Call) :
    (timed.changed request call).sentAt = request.sentAt ∨
      call = .markSent request.id ∨ call = .activate request.id := by
  rw [changed]
  cases timed.verdict? request call with
  | some verdict => exact Or.inl (request.sentAt_settle _)
  | none =>
      cases call with
      | markSent id =>
          by_cases hid : id = request.id
          · exact Or.inr (Or.inl (congrArg Call.markSent hid))
          · exact Or.inl (congrArg Request.sentAt (if_neg hid))
      | activate id =>
          by_cases hid : id = request.id
          · exact Or.inr (Or.inr (congrArg Call.activate hid))
          · exact Or.inl (congrArg Request.sentAt (if_neg fun hboth => hid hboth.1))
      | release id =>
          rw [touched]
          split_ifs <;> exact Or.inl rfl
      | _ => exact Or.inl rfl

/-- A request was sent by one of the calls on it. -/
theorem sent_of_isSome (hget : (run calls).exchange.get? id = some request)
    (hsent : request.sentAt.isSome) :
    .markSent request.id ∈ calls ∨ .activate request.id ∈ calls := by
  refine known_induction (motive := fun calls request => request.sentAt.isSome →
    .markSent request.id ∈ calls ∨ .activate request.id ∈ calls) ?_ ?_ calls hget hsent
  · intro calls call request hmade _ _ hsome
    obtain ⟨-, -, -, -, hnone, -⟩ := made?_eq_some hmade
    rw [hnone] at hsome
    exact absurd hsome (by decide)
  · intro calls call request _ _ _ ih hsome
    rw [id_changed, List.mem_append, List.mem_append, List.mem_singleton, List.mem_singleton]
    rcases (run calls).sentAt_changed request call with hsame | rfl | rfl
    · rw [hsame] at hsome
      exact (ih hsome).imp Or.inl Or.inl
    · exact Or.inl (Or.inr rfl)
    · exact Or.inr (Or.inr rfl)

theorem Attributed.mono {later : List Call}
    (hattributed : Attributed calls id inbound earlier request) (hpart : calls <+: later) :
    Attributed later id inbound earlier request :=
  { hattributed with within := hattributed.within.trans hpart }

/-- A request that a call answers is handed the message, unless the call is meant for it alone. -/
theorem attributed_of_verdict? (hwithin : earlier ++ [call] <+: calls)
    (hget : (run earlier).exchange.get? id = some request)
    (hverdict : (run earlier).verdict? request call = some (.answered inbound))
    (honly : ∀ id inbound, Call.complete id inbound ∉ calls) :
    Attributed calls id inbound earlier request := by
  rcases verdict?_eq_answered hverdict with rfl | ⟨rfl, hawaits⟩
  · have hmember : Call.complete request.id inbound ∈ calls :=
      hwithin.subset (List.mem_append_right _ (List.mem_singleton_self _))
    exact absurd hmember (honly _ _)
  · simp only [awaits, Bool.and_eq_true, beq_iff_eq] at hawaits
    obtain ⟨⟨⟨-, hendpoint⟩, hcommand⟩, hsent⟩ := hawaits
    obtain ⟨-, rfl⟩ := mem_of_get? hget
    exact ⟨hwithin, hget, hendpoint, hcommand, hsent, sent_of_isSome hget hsent⟩

/-- By induction on the calls: a delivery of the last call has its message from a dispatch that
found the request open, and any other was made before. -/
theorem attributed_of_delivered (honly : ∀ id inbound, Call.complete id inbound ∉ calls)
    {delivery : Delivery} (hdelivery : delivery ∈ (run calls).exchange.delivered)
    (houtcome : delivery.outcome = .ok inbound) :
    ∃ earlier request, Attributed calls delivery.request inbound earlier request := by
  induction calls using List.reverseRecOn with
  | nil => exact absurd hdelivery List.not_mem_nil
  | append_singleton calls call ih =>
      have hbefore : delivery ∈ (run calls).exchange.delivered →
          ∃ earlier request, Attributed (calls ++ [call]) delivery.request inbound earlier
            request := by
        intro hearlier
        obtain ⟨earlier, request, hattributed⟩ := ih (fun id inbound hmember =>
          honly id inbound (List.mem_append_left _ hmember)) hearlier
        exact ⟨earlier, request, hattributed.mono (List.prefix_append calls [call])⟩
      obtain ⟨horderly, hswept⟩ := isOrderly_run calls
      obtain ⟨next, hyields, hafter⟩ := proceeds horderly hswept call
      rw [run_concat, hafter, collect] at hdelivery
      rcases List.mem_append.mp hdelivery with hnext | hfarewell
      · have hown : delivery ∈ next.deliveriesTo delivery.request :=
          List.mem_filter.mpr ⟨hnext, beq_self_eq_true _⟩
        cases hget : (run calls).exchange.get? delivery.request with
        | none =>
            rw [hyields.deliveriesTo_of_none _ hget] at hown
            exact hbefore (List.mem_filter.mp hown).1
        | some request =>
            rw [hyields.deliveriesTo_eq _ request hget] at hown
            rcases List.mem_append.mp hown with hearlier | hnews
            · exact hbefore (List.mem_filter.mp hearlier).1
            · refine ⟨calls, request, attributed_of_verdict? List.prefix_rfl hget ?_ honly⟩
              exact verdict?_of_mem_news hnews houtcome
      · obtain ⟨dropped, -, hof⟩ := List.mem_filterMap.mp hfarewell
        rw [farewell?_eq_some hof] at houtcome
        exact absurd houtcome (by simp)

theorem attributed_of_completed (honly : ∀ id inbound, Call.complete id inbound ∉ calls)
    (hget : (run calls).exchange.get? request.id = some request)
    (hcompleted : request.state = .completed) :
    ∃ inbound earlier sent, Attributed calls request.id inbound earlier sent ∧
      request.key = sent.key ∧ (run calls).exchange.deliveriesTo request.id =
        [⟨request.id, request.recipient, .ok inbound⟩] := by
  cases account_run hget with
  | created hstate => exact absurd (hcompleted.symm.trans hstate) (by decide)
  | waiting hstate => exact absurd (hcompleted.symm.trans hstate) (by decide)
  | ended earlier call before verdict hends hbefore hverdict hstate _ hdeliveries =>
      cases verdict with
      | answered inbound =>
          have hearlier : earlier <+: calls := (List.prefix_append earlier _).trans hends.within
          have hkey := (continues_lasting hbefore hearlier hget).key_eq
          exact ⟨inbound, earlier, before,
            attributed_of_verdict? hends.within hbefore hverdict honly, hkey, hdeliveries⟩
      | _ => exact absurd (hcompleted.symm.trans hstate) (by simp [Verdict.state])

/-- Whatever was done before, a message that is handed out answers exactly the open requests that
await it; and where no request is answered in any other way, whatever was answered was answered by a
message of its own. -/
theorem answers_exactly (calls : List Call) :
    (∀ inbound, ∃ answered, Answers (run calls).exchange inbound
      ((run calls).exchange.dispatch inbound).1 ((run calls).exchange.dispatch inbound).2
      answered) ∧
    ((∀ id inbound, Call.complete id inbound ∉ calls) →
      (∀ delivery ∈ (run calls).exchange.delivered, ∀ inbound, delivery.outcome = .ok inbound →
        ∃ earlier request, Attributed calls delivery.request inbound earlier request) ∧
      ∀ request ∈ (run calls).exchange.requests, request.state = .completed →
        ∃ inbound earlier sent, Attributed calls request.id inbound earlier sent ∧
          request.key = sent.key ∧ (run calls).exchange.deliveriesTo request.id =
            [⟨request.id, request.recipient, .ok inbound⟩]) := by
  obtain ⟨horderly, hswept⟩ := isOrderly_run calls
  constructor
  · intro inbound
    exact ⟨_, answers_dispatch horderly hswept inbound⟩
  intro honly
  constructor
  · intro delivery hdelivery inbound houtcome
    exact attributed_of_delivered honly hdelivery houtcome
  · intro request hrequest hcompleted
    exact attributed_of_completed honly (get?_of_mem horderly.nodup_ids hrequest) hcompleted

/-- Three requests to one endpoint: one was sent for the message that arrives, one for the same
command has not been sent, and one was sent for another command. -/
def askedThree : List Call :=
  [.create (.loopback 28960) ProbeKind.info.request "infoResponse" 100 .caller, .insert 0,
    .markSent 0,
    .create (.loopback 28960) ⟨"getinfo", "again", ' '⟩ "infoResponse" 100 .caller, .insert 1,
    .create (.loopback 28960) ProbeKind.status.request "statusResponse" 100 .batch, .insert 2,
    .markSent 2, .dispatch ⟨.loopback 28960, ⟨"INFOresponse", "", '\n'⟩, 40⟩]

/-- Of three requests to one endpoint, only the one that was sent and waits for the command is
answered. -/
theorem answers_exactly_askedThree :
    (∀ id inbound, Call.complete id inbound ∉ askedThree) ∧
    (run askedThree).exchange.requests.map (·.state) = [.completed, .created, .created] ∧
    ∃ request ∈ (run askedThree).exchange.requests, request.state = .completed ∧
      ∃ inbound earlier sent, Attributed askedThree request.id inbound earlier sent ∧
        request.key = sent.key ∧ (run askedThree).exchange.deliveriesTo request.id =
          [⟨request.id, request.recipient, .ok inbound⟩] := by
  have honly : ∀ id inbound, Call.complete id inbound ∉ askedThree := by simp [askedThree]
  have hstates : (run askedThree).exchange.requests.map (·.state) =
      [.completed, .created, .created] := by rfl
  have hmember : RequestState.completed ∈ (run askedThree).exchange.requests.map (·.state) := by
    rw [hstates]
    exact List.mem_cons_self
  obtain ⟨request, hrequest, hcompleted⟩ := List.mem_map.mp hmember
  obtain ⟨-, hattributed⟩ := answers_exactly askedThree
  exact ⟨honly, hstates, request, hrequest, hcompleted,
    (hattributed honly).2 request hrequest hcompleted⟩

end Timed

end Muster
