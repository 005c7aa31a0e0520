import Muster.Proofs.Exchange.Orderly
import Muster.Proofs.Order

/-!
# Calls on an exchange

Everything that can be done with an exchange as time passes, and what each call makes of each
request.  Whether a call ends an open request depends on the request, on the index and on the time
alone.  Every call does what it does to the requests one by one, and then the requests that nobody
knows of are dropped.
-/

namespace Muster

/-- What is done with an exchange. -/
inductive Exchange.Call where
  | create (endpoint : Endpoint) (message : Message) (responseCommand : String) (timeout : Nat)
    (recipient : Recipient)
  | markSent (id : RequestId)
  | activate (id : RequestId)
  | complete (id : RequestId) (inbound : Inbound)
  | cancel (id : RequestId)
  | fail (id : RequestId) (error : ExchangeError)
  | insert (id : RequestId)
  | remove (id : RequestId)
  | dispatch (inbound : Inbound)
  | release (id : RequestId)
  /-- Time passes, in milliseconds. -/
  | advance (elapsed : Nat)

/-- How a request ends. -/
inductive Verdict where
  | answered (inbound : Inbound)
  | givenUp
  | timedOut
  | failed (error : ExchangeError)

def Verdict.state : Verdict → RequestState
  | answered _ => .completed
  | givenUp => .canceled
  | timedOut => .canceled
  | failed _ => .failed

def Verdict.outcome : Verdict → Outcome
  | answered inbound => .ok inbound
  | givenUp => .error .canceled
  | timedOut => .error .timeout
  | failed error => .error error

theorem Verdict.isFinal_state (verdict : Verdict) : verdict.state.isFinal := by
  cases verdict <;> rfl

/-- A message answers a request: the request is indexed, it was sent to the endpoint that the
message comes from, and the message has the command that it waits for. -/
def Exchange.awaits (exchange : Exchange) (inbound : Inbound) (request : Request) : Bool :=
  exchange.pending.contains request.id && request.endpoint == inbound.sender &&
    request.responseCommand == inbound.message.key && request.sentAt.isSome

def Exchange.displaces (exchange : Exchange) (id : RequestId) (request : Request) : Bool :=
  (exchange.get? id).any fun later =>
    exchange.pending.contains request.id && request.key == later.key &&
      request.message == later.message

def Exchange.sentUnder (exchange : Exchange) (inbound : Inbound) : List RequestId :=
  (exchange.pending.get (inbound.sender, inbound.message.key)).filter exchange.isSent

def Exchange.unsentUnder (exchange : Exchange) (inbound : Inbound) : List RequestId :=
  (exchange.pending.get (inbound.sender, inbound.message.key)).filter fun id => !exchange.isSent id

/-- The exchange in which a message has answered what was sent and left what was not. -/
def Exchange.answerSent (exchange : Exchange) (inbound : Inbound) : Exchange :=
  (exchange.reindex (exchange.pending.set (inbound.sender, inbound.message.key)
    (exchange.unsentUnder inbound))).resolveAll .completed (.ok inbound)
      (exchange.sentUnder inbound)

/-- An exchange and the time. -/
structure Timed where
  exchange : Exchange
  now : Nat

namespace Timed

open Exchange

def after (timed : Timed) : Call → Timed
  | .create endpoint message responseCommand timeout recipient =>
    { timed with
      exchange := timed.exchange.create endpoint message responseCommand timeout recipient
        timed.now }
  | .markSent id => { timed with exchange := timed.exchange.markSent id timed.now }
  | .activate id => { timed with exchange := (timed.exchange.activate id timed.now).1 }
  | .complete id inbound => { timed with exchange := (timed.exchange.complete id inbound).1 }
  | .cancel id => { timed with exchange := (timed.exchange.cancel id).1 }
  | .fail id error => { timed with exchange := (timed.exchange.fail id error).1 }
  | .insert id => { timed with exchange := (timed.exchange.insert id).1 }
  | .remove id => { timed with exchange := timed.exchange.remove id }
  | .dispatch inbound => { timed with exchange := (timed.exchange.dispatch inbound).1 }
  | .release id => { timed with exchange := timed.exchange.release id }
  | .advance elapsed => ⟨timed.exchange.expire (timed.now + elapsed), timed.now + elapsed⟩

/-- How a call ends a request if the request is still open. -/
def verdict? (timed : Timed) (request : Request) : Call → Option Verdict
  | .complete id inbound => if id = request.id then some (.answered inbound) else none
  | .cancel id => if id = request.id then some .givenUp else none
  | .fail id error => if id = request.id then some (.failed error) else none
  | .insert id => if timed.exchange.displaces id request then some .givenUp else none
  | .dispatch inbound =>
    if timed.exchange.awaits inbound request then some (.answered inbound) else none
  | .advance elapsed => if request.isDue (timed.now + elapsed) then some .timedOut else none
  | .create .. | .markSent _ | .activate _ | .remove _ | .release _ => none

def touched (timed : Timed) (request : Request) : Call → Request
  | .markSent id => if id = request.id then request.markSent timed.now else request
  | .activate id =>
    if id = request.id ∧ request.state = .created then
      request.activate timed.exchange.nextTurn timed.now
    else request
  | .release id => if id = request.id then { request with isHeld := false } else request
  | .create .. | .complete .. | .cancel _ | .fail .. | .insert _ | .remove _ | .dispatch _
  | .advance _ => request

def changed (timed : Timed) (request : Request) (call : Call) : Request :=
  match timed.verdict? request call with
  | some verdict => request.settle verdict.state
  | none => timed.touched request call

def news (timed : Timed) (request : Request) (call : Call) : List Delivery :=
  match timed.verdict? request call with
  | some verdict => request.told verdict.outcome
  | none => []

def made? (timed : Timed) : Call → Option Request
  | .create endpoint message responseCommand timeout recipient =>
    some (timed.exchange.made endpoint message responseCommand timeout recipient timed.now)
  | _ => none

variable {timed : Timed} {call : Call} {next : Exchange} {id : RequestId}
  {request : Request}

/-- An exchange in which a call has been carried out, before requests that nobody knows of are
dropped. -/
structure Yields (timed : Timed) (call : Call) (next : Exchange) : Prop where
  isOrderly : next.IsOrderly
  nextId_eq : next.nextId = timed.exchange.nextId + (timed.made? call).toList.length
  get?_of_some : ∀ id request, timed.exchange.get? id = some request →
    next.get? id = some (timed.changed request call)
  get?_of_none : ∀ id, timed.exchange.get? id = none →
    next.get? id = (timed.made? call).filter (·.id == id)
  deliveriesTo_eq : ∀ id request, timed.exchange.get? id = some request →
    next.deliveriesTo id = timed.exchange.deliveriesTo id ++ timed.news request call
  deliveriesTo_of_none : ∀ id, timed.exchange.get? id = none →
    next.deliveriesTo id = timed.exchange.deliveriesTo id

/-- A call does what it does to the requests one by one, and then those that nobody knows of are
dropped. -/
def Proceeds (timed : Timed) (call : Call) : Prop :=
  ∃ next, timed.Yields call next ∧ (timed.after call).exchange = next.collect

theorem changed_of_verdict? {verdict : Verdict}
    (hverdict : timed.verdict? request call = some verdict) :
    timed.changed request call = request.settle verdict.state ∧
      timed.news request call = request.told verdict.outcome := by
  rw [changed, news, hverdict]
  exact ⟨rfl, rfl⟩

theorem changed_of_verdict?_eq_none (hverdict : timed.verdict? request call = none) :
    timed.changed request call = timed.touched request call ∧ timed.news request call = [] := by
  rw [changed, news, hverdict]
  exact ⟨rfl, rfl⟩

theorem touched_continues (timed : Timed) (request : Request) (call : Call) :
    request.Continues (timed.touched request call) := by
  cases call with
  | markSent id =>
      rw [touched]
      split_ifs <;> exact ⟨rfl, rfl, rfl, rfl⟩
  | activate id =>
      rw [touched]
      split_ifs <;> exact ⟨rfl, rfl, rfl, rfl⟩
  | release id =>
      rw [touched]
      split_ifs <;> exact ⟨rfl, rfl, rfl, rfl⟩
  | _ => exact .refl request

theorem changed_continues (timed : Timed) (request : Request) (call : Call) :
    request.Continues (timed.changed request call) := by
  rw [changed]
  cases timed.verdict? request call with
  | none => exact timed.touched_continues request call
  | some verdict => exact request.continues_settle verdict.state

theorem id_changed (timed : Timed) (request : Request) (call : Call) :
    (timed.changed request call).id = request.id :=
  (timed.changed_continues request call).id_eq

/-- A request is held until it is released. -/
theorem isHeld_changed (hcall : call ≠ .release request.id) :
    (timed.changed request call).isHeld = request.isHeld := by
  rw [changed]
  cases timed.verdict? request call with
  | some verdict => exact request.isHeld_settle verdict.state
  | none =>
      cases call with
      | markSent id =>
          rw [touched]
          split_ifs <;> rfl
      | activate id =>
          rw [touched]
          split_ifs <;> rfl
      | release id =>
          have hid : id ≠ request.id := fun hid => hcall (congrArg Call.release hid)
          exact congrArg Request.isHeld (if_neg hid)
      | _ => rfl

/-! ## Single calls -/

/-- Whoever is listed ends with the verdict, if still open, and nobody else is touched. -/
theorem yields_resolveAll (pending : Pending) (listed : List RequestId)
    (hpending : (timed.exchange.reindex pending).IsOrderly)
    (verdict : Verdict) (hmade : timed.made? call = none)
    (htouched : ∀ id request, timed.exchange.get? id = some request →
      timed.touched request call = request)
    (hverdict : ∀ id request, timed.exchange.get? id = some request →
      timed.verdict? request call = if id ∈ listed then some verdict else none) :
    timed.Yields call
      ((timed.exchange.reindex pending).resolveAll verdict.state verdict.outcome listed) where
  isOrderly := hpending.resolveAll verdict.isFinal_state _ _
  nextId_eq := by
    rw [hmade, (sameRoll_resolveAll ..).nextId_eq]
    rfl
  get?_of_some := by
    intro id request hget
    rw [get?_resolveAll verdict.isFinal_state, get?_reindex, hget, changed,
      hverdict id request hget]
    split_ifs
    · rfl
    · rw [htouched id request hget]
  get?_of_none := by
    intro id hget
    rw [get?_resolveAll verdict.isFinal_state, get?_reindex, hget, hmade]
    split_ifs <;> rfl
  deliveriesTo_eq := by
    intro id request hget
    rw [deliveriesTo_resolveAll verdict.isFinal_state, deliveriesTo_reindex, get?_reindex, hget,
      news, hverdict id request hget, Option.toList_some, List.flatMap_singleton]
    split_ifs <;> rfl
  deliveriesTo_of_none := by
    intro id hget
    rw [deliveriesTo_resolveAll verdict.isFinal_state, deliveriesTo_reindex, get?_reindex, hget]
    split_ifs <;> exact List.append_nil _

/-- A call that resolves nothing and leaves the requests alone. -/
theorem yields_reindex (pending : Pending) (hpending : (timed.exchange.reindex pending).IsOrderly)
    (hmade : timed.made? call = none)
    (htouched : ∀ id request, timed.exchange.get? id = some request →
      timed.touched request call = request)
    (hverdict : ∀ request, timed.verdict? request call = none) :
    timed.Yields call (timed.exchange.reindex pending) :=
  yields_resolveAll pending [] hpending .givenUp hmade htouched fun _ request _ =>
    (hverdict request).trans (if_neg List.not_mem_nil).symm

theorem yields_resolve (horderly : timed.exchange.IsOrderly) (verdict : Verdict)
    (hmade : timed.made? call = none) (htouched : ∀ request, timed.touched request call = request)
    (hverdict : ∀ request, timed.verdict? request call =
      if id = request.id then some verdict else none) :
    timed.Yields call (timed.exchange.resolve id verdict.state verdict.outcome).1 := by
  refine yields_resolveAll timed.exchange.pending [id] horderly verdict hmade
    (fun _ request _ => htouched request) ?_
  intro other request hget
  obtain ⟨-, rfl⟩ := mem_of_get? hget
  rw [hverdict]
  simp only [List.mem_singleton, eq_comm]

/-- A call that changes a request without ending it. -/
theorem yields_modify (horderly : timed.exchange.IsOrderly) (id : RequestId)
    (change : Request → Request) (hid : ∀ request, (change request).id = request.id)
    (hkey : ∀ request, (change request).key = request.key) (turn : Nat)
    (hmade : timed.made? call = none) (hverdict : ∀ request, timed.verdict? request call = none)
    (htouched : ∀ request, timed.exchange.get? request.id = some request →
      timed.touched request call = if request.id = id then change request else request) :
    timed.Yields call { timed.exchange.modify id change with nextTurn := turn } where
  isOrderly := by
    have hmodify := horderly.modify id hid hkey
    exact ⟨hmodify.nodup_ids, hmodify.isNumbered, hmodify.deliveriesTo_eq_nil, hmodify.isKeyed,
      hmodify.nodup_get, hmodify.indexed⟩
  nextId_eq := by
    rw [hmade]
    rfl
  get?_of_some := by
    intro other request hget
    obtain ⟨-, rfl⟩ := mem_of_get? hget
    have hmodify := timed.exchange.get?_modify id request.id hid
    rw [changed, hverdict, htouched request hget]
    refine hmodify.trans ?_
    split_ifs with hother
    · rw [← hother, hget]
      rfl
    · exact hget
  get?_of_none := by
    intro other hget
    have hmodify := timed.exchange.get?_modify id other hid
    rw [hmade]
    refine hmodify.trans ?_
    split_ifs with hother
    · rw [← hother, hget]
      rfl
    · exact hget
  deliveriesTo_eq := by
    intro other request _
    rw [news, hverdict, List.append_nil]
    rfl
  deliveriesTo_of_none := fun _ _ => rfl

theorem yields_create (horderly : timed.exchange.IsOrderly) (endpoint : Endpoint)
    (message : Message) (responseCommand : String) (timeout : Nat) (recipient : Recipient) :
    timed.Yields (.create endpoint message responseCommand timeout recipient)
      (timed.exchange.create endpoint message responseCommand timeout recipient timed.now) where
  isOrderly := horderly.create ..
  nextId_eq := rfl
  get?_of_some := by
    intro id request hget
    have hlt := lt_nextId_of_get? horderly.isNumbered hget
    rw [get?_create _ _ _ _ _ _ horderly.isNumbered, if_neg (Nat.ne_of_lt hlt)]
    exact hget
  get?_of_none := by
    intro id hget
    rw [get?_create _ _ _ _ _ _ horderly.isNumbered, made?, Option.filter_some]
    split_ifs with hid hmade hmade
    · rfl
    · exact absurd (beq_iff_eq.mpr hid.symm) hmade
    · exact absurd (beq_iff_eq.mp hmade).symm hid
    · exact hget
  deliveriesTo_eq := fun _ _ _ => (List.append_nil _).symm
  deliveriesTo_of_none := fun _ _ => rfl

/-! ## All calls -/

/-- A call that lets go of no request and leaves the index alone drops nothing. -/
theorem Yields.isSwept (hyields : timed.Yields call next) (hswept : timed.exchange.IsSwept)
    (hcall : ∀ id, call ≠ .release id) (hpending : next.pending = timed.exchange.pending) :
    next.IsSwept := by
  intro request hrequest
  have hget := get?_of_mem hyields.isOrderly.nodup_ids hrequest
  rw [isReachable, hpending]
  cases hbefore : timed.exchange.get? request.id with
  | none =>
      rw [hyields.get?_of_none request.id hbefore, Option.filter_eq_some_iff] at hget
      cases call with
      | create => rw [← Option.some.inj hget.1, made, Bool.true_or]
      | _ => exact absurd hget.1 (by simp [made?])
  | some earlier =>
      rw [hyields.get?_of_some request.id earlier hbefore] at hget
      rw [← Option.some.inj hget, id_changed, isHeld_changed (hcall _)]
      exact hswept earlier (mem_of_get? hbefore).1

/-- Under the key of a request stand those with other messages, and the request after them. -/
theorem isOrderly_reindex_insert (horderly : timed.exchange.IsOrderly)
    (hget : timed.exchange.get? id = some request) :
    (timed.exchange.reindex (timed.exchange.pending.set request.key
      (((timed.exchange.pending.get request.key).filter fun other =>
        !timed.exchange.hasMessage request.message other) ++ [id]))).IsOrderly := by
  apply horderly.setPending
  · rw [List.nodup_append]
    refine ⟨(horderly.nodup_get _).filter _, List.nodup_singleton _, ?_⟩
    intro other hother _ hid heq
    rw [heq, List.mem_singleton.mp hid, List.mem_filter, hasMessage, hget] at hother
    simp at hother
  · intro other hother
    rcases List.mem_append.mp hother with hkept | hnew
    · exact horderly.indexed _ other (List.mem_filter.mp hkept).1
    · rw [List.mem_singleton.mp hnew]
      exact ⟨request, hget, rfl⟩

/-- A request with the same key and message as the one that is indexed loses its place. -/
theorem displaces_iff (horderly : timed.exchange.IsOrderly) {later : Request}
    (hlater : timed.exchange.get? id = some later)
    (hget : timed.exchange.get? request.id = some request) :
    timed.exchange.displaces id request ↔
      request.id ∈ (timed.exchange.pending.get later.key).filter
        (timed.exchange.hasMessage later.message) := by
  rw [List.mem_filter, displaces, hlater, Option.any_some, hasMessage, hget, Option.any_some,
    Bool.and_eq_true, Bool.and_eq_true, horderly.contains_iff hget, beq_iff_eq]
  constructor
  · rintro ⟨⟨hid, hkey⟩, hmessage⟩
    exact ⟨hkey ▸ hid, hmessage⟩
  · rintro ⟨hid, hmessage⟩
    obtain ⟨found, hfound, hkey⟩ := horderly.indexed _ _ hid
    obtain rfl := Option.some.inj (hget.symm.trans hfound)
    exact ⟨⟨hkey ▸ hid, hkey⟩, hmessage⟩

/-- The dispatcher finds by key what the message answers. -/
theorem awaits_iff (horderly : timed.exchange.IsOrderly) (inbound : Inbound)
    (hget : timed.exchange.get? request.id = some request) :
    timed.exchange.awaits inbound request ↔
      request.id ∈ timed.exchange.sentUnder inbound := by
  rw [sentUnder, List.mem_filter, awaits, isSent, hget, Option.any_some, Bool.and_eq_true,
    Bool.and_eq_true, Bool.and_eq_true, horderly.contains_iff hget, beq_iff_eq, beq_iff_eq]
  constructor
  · rintro ⟨⟨⟨hid, hendpoint⟩, hcommand⟩, hsent⟩
    rw [Request.key, hendpoint, hcommand] at hid
    exact ⟨hid, hsent⟩
  · rintro ⟨hid, hsent⟩
    obtain ⟨found, hfound, hkey⟩ := horderly.indexed _ _ hid
    obtain rfl := Option.some.inj (hget.symm.trans hfound)
    obtain ⟨hendpoint, hcommand⟩ := Prod.mk.inj hkey
    exact ⟨⟨⟨hkey ▸ hid, hendpoint⟩, hcommand⟩, hsent⟩

/-- A timeout reaches just those who are due. -/
theorem isDue_iff (horderly : timed.exchange.IsOrderly) (now : Nat)
    (hget : timed.exchange.get? request.id = some request) :
    request.isDue now ↔ request.id ∈ (timed.exchange.due now).map (·.id) := by
  rw [List.mem_map]
  constructor
  · intro hdue
    have hmember : request ∈ timed.exchange.requests.filter fun request => request.isDue now :=
      List.mem_filter.mpr ⟨(mem_of_get? hget).1, hdue⟩
    exact ⟨request, (Order.mem_arrange _).mpr hmember, rfl⟩
  · rintro ⟨found, hfound, hid⟩
    obtain ⟨hmember, hdue⟩ := List.mem_filter.mp ((Order.mem_arrange _).mp hfound)
    have hown := get?_of_mem horderly.nodup_ids hmember
    rw [hid, hget] at hown
    rwa [Option.some.inj hown]

/-- A call that drops nothing: there is nothing that nobody knows of. -/
theorem proceeds_of_kept (hswept : timed.exchange.IsSwept) (hyields : timed.Yields call next)
    (hcall : ∀ id, call ≠ .release id) (hpending : next.pending = timed.exchange.pending)
    (hafter : (timed.after call).exchange = next) : timed.Proceeds call := by
  have hcollect := collect_of_isSwept (hyields.isSwept hswept hcall hpending)
  exact ⟨next, hyields, hafter.trans hcollect.symm⟩

theorem proceeds_activate (horderly : timed.exchange.IsOrderly)
    (hswept : timed.exchange.IsSwept) (id : RequestId) : timed.Proceeds (.activate id) := by
  by_cases hcreated : ∃ request, timed.exchange.get? id = some request ∧ request.state = .created
  · obtain ⟨request, hget, hstate⟩ := hcreated
    refine proceeds_of_kept hswept (yields_modify horderly id
      (fun request => request.activate timed.exchange.nextTurn timed.now)
      (fun _ => rfl) (fun _ => rfl) (timed.exchange.nextTurn + 1) rfl (fun _ => rfl) ?_)
      (by simp) rfl ?_
    · intro other hother
      rw [touched]
      by_cases hid : id = other.id
      · rw [← hid, hget] at hother
        rw [if_pos ⟨hid, Option.some.inj hother ▸ hstate⟩, if_pos hid.symm]
      · rw [if_neg fun hboth => hid hboth.1, if_neg (Ne.symm hid)]
    · simp [after, activate, hget, hstate]
  · -- Nothing is done to a request that waits already, has ended or is not known.
    refine proceeds_of_kept hswept
      (yields_reindex timed.exchange.pending horderly rfl ?_ fun _ => rfl) (by simp) rfl ?_
    · intro other request hget
      obtain ⟨-, rfl⟩ := mem_of_get? hget
      rw [touched, if_neg]
      rintro ⟨rfl, hstate⟩
      exact hcreated ⟨request, hget, hstate⟩
    · have hnothing : timed.exchange.activate id timed.now = (timed.exchange, false) := by
        rw [activate]
        cases hget : timed.exchange.get? id with
        | none => rfl
        | some request => exact if_neg fun hstate => hcreated ⟨request, hget, hstate⟩
      rw [after, hnothing]
      rfl

theorem proceeds_insert (horderly : timed.exchange.IsOrderly)
    (hswept : timed.exchange.IsSwept) (id : RequestId) : timed.Proceeds (.insert id) := by
  cases hget : timed.exchange.get? id with
  | none =>
      refine proceeds_of_kept hswept
        (yields_reindex timed.exchange.pending horderly rfl (fun _ _ _ => rfl) ?_) (by simp) rfl ?_
      · intro request
        rw [verdict?, displaces, hget]
        rfl
      · rw [after, Exchange.insert, hget]
        rfl
  | some later =>
      let displaced := (timed.exchange.pending.get later.key).filter
        (timed.exchange.hasMessage later.message)
      refine ⟨_, yields_resolveAll _ displaced (isOrderly_reindex_insert horderly hget) .givenUp rfl
        (fun _ _ _ => rfl) ?_, ?_⟩
      · intro other request hother
        obtain ⟨-, rfl⟩ := mem_of_get? hother
        simp only [verdict?, displaces_iff horderly hget hother, displaced]
      · rw [after, Exchange.insert, hget]
        rfl

theorem proceeds_remove (horderly : timed.exchange.IsOrderly)
    (hswept : timed.exchange.IsSwept) (id : RequestId) : timed.Proceeds (.remove id) := by
  cases hget : timed.exchange.get? id with
  | none =>
      refine proceeds_of_kept hswept (yields_reindex timed.exchange.pending horderly rfl
        (fun _ _ _ => rfl) fun _ => rfl) (by simp) rfl ?_
      rw [after, remove, hget]
      rfl
  | some request =>
      let kept := (timed.exchange.pending.get request.key).filter (· != id)
      have hkept : kept.Sublist (timed.exchange.pending.get request.key) := List.filter_sublist
      refine ⟨_, yields_reindex _ (horderly.setPart hkept) rfl (fun _ _ _ => rfl) fun _ => rfl, ?_⟩
      rw [after, remove, hget]
      rfl

theorem yields_dispatch (horderly : timed.exchange.IsOrderly) (inbound : Inbound) :
    timed.Yields (.dispatch inbound) (timed.exchange.answerSent inbound) := by
  refine yields_resolveAll _ _ (horderly.setPart List.filter_sublist) (.answered inbound)
    rfl (fun _ _ _ => rfl) ?_
  intro other request hother
  obtain ⟨-, rfl⟩ := mem_of_get? hother
  simp only [verdict?, awaits_iff horderly inbound hother]

theorem proceeds (horderly : timed.exchange.IsOrderly) (hswept : timed.exchange.IsSwept)
    (call : Call) : timed.Proceeds call := by
  cases call with
  | create endpoint message responseCommand timeout recipient =>
      exact proceeds_of_kept hswept (yields_create horderly ..) (by simp) rfl rfl
  | markSent id =>
      refine proceeds_of_kept hswept (yields_modify horderly id
        (fun request => request.markSent timed.now) (fun _ => rfl) (fun _ => rfl)
        timed.exchange.nextTurn rfl (fun _ => rfl) ?_) (by simp) rfl rfl
      intro request _
      simp only [touched, eq_comm]
  | activate id => exact proceeds_activate horderly hswept id
  | complete id inbound =>
      exact proceeds_of_kept hswept (yields_resolve horderly (.answered inbound) rfl
        (fun _ => rfl) fun _ => rfl) (by simp) (sameRoll_resolve ..).pending_eq rfl
  | cancel id =>
      exact proceeds_of_kept hswept (yields_resolve horderly .givenUp rfl
        (fun _ => rfl) fun _ => rfl) (by simp) (sameRoll_resolve ..).pending_eq rfl
  | fail id error =>
      exact proceeds_of_kept hswept (yields_resolve horderly (.failed error) rfl
        (fun _ => rfl) fun _ => rfl) (by simp) (sameRoll_resolve ..).pending_eq rfl
  | insert id => exact proceeds_insert horderly hswept id
  | remove id => exact proceeds_remove horderly hswept id
  | dispatch inbound =>
      exact ⟨_, yields_dispatch horderly inbound, congrArg collect (completeAll_fst ..)⟩
  | release id =>
      refine ⟨_, yields_modify horderly id (fun request => { request with isHeld := false })
        (fun _ => rfl) (fun _ => rfl) timed.exchange.nextTurn rfl (fun _ => rfl) ?_, rfl⟩
      intro request _
      simp only [touched, eq_comm]
  | advance elapsed =>
      let due := (timed.exchange.due (timed.now + elapsed)).map (·.id)
      refine proceeds_of_kept hswept (yields_resolveAll timed.exchange.pending due horderly
        .timedOut rfl (fun _ _ _ => rfl) ?_) (by simp) (sameRoll_resolveAll ..).pending_eq
        (expire_eq ..)
      intro other request hother
      obtain ⟨-, rfl⟩ := mem_of_get? hother
      simp only [verdict?, isDue_iff horderly _ hother, due]

end Timed

end Muster
