import Muster.Proofs.Exchange.Index
import Muster.Proofs.Exchange.Keeping

/-!
# Requests of an exchange

What the operations of an exchange make of each request that it knows, and what they deliver of it.
Resolving a list of requests ends those of them that are still open, delivers the outcome of each of
these once, and leaves all other requests alone.
-/

namespace Muster

variable {id other : RequestId} {state : RequestState} {outcome : Outcome}

namespace Request

variable {request : Request}

/-- Ends a request in a state, unless it has ended already. -/
def settle (request : Request) (state : RequestState) : Request :=
  if request.state.isFinal then request else request.finish state

def told (request : Request) (outcome : Outcome) : List Delivery :=
  if request.state.isFinal then [] else [⟨request.id, request.recipient, outcome⟩]

theorem settle_of_isFinal (hfinal : request.state.isFinal) : request.settle state = request :=
  if_pos hfinal

theorem settle_of_isOpen (hopen : request.state.isFinal = false) :
    request.settle state = request.finish state :=
  if_neg (ne_true_of_eq_false hopen)

theorem told_of_isOpen (hopen : request.state.isFinal = false) :
    request.told outcome = [⟨request.id, request.recipient, outcome⟩] :=
  if_neg (ne_true_of_eq_false hopen)

theorem told_of_isFinal (hfinal : request.state.isFinal) : request.told outcome = [] :=
  if_pos hfinal

theorem settle_settle (hstate : state.isFinal) (request : Request) :
    (request.settle state).settle state = request.settle state := by
  cases hfinal : request.state.isFinal with
  | false => rw [settle_of_isOpen hfinal, settle_of_isFinal hstate]
  | true => rw [settle_of_isFinal hfinal, settle_of_isFinal hfinal]

theorem isFinal_settle (hstate : state.isFinal) (request : Request) :
    (request.settle state).state.isFinal := by
  cases hfinal : request.state.isFinal with
  | false => rwa [settle_of_isOpen hfinal]
  | true => rwa [settle_of_isFinal hfinal]

theorem told_settle (hstate : state.isFinal) (request : Request) :
    (request.settle state).told outcome = [] :=
  told_of_isFinal (isFinal_settle hstate request)

/-- What never changes of a request. -/
structure Continues (request later : Request) : Prop where
  id_eq : later.id = request.id
  key_eq : later.key = request.key
  recipient_eq : later.recipient = request.recipient
  timeout_eq : later.timeout = request.timeout

theorem Continues.refl (request : Request) : request.Continues request :=
  ⟨rfl, rfl, rfl, rfl⟩

theorem Continues.trans {later last : Request} (hlater : request.Continues later)
    (hlast : later.Continues last) : request.Continues last :=
  ⟨hlast.id_eq.trans hlater.id_eq, hlast.key_eq.trans hlater.key_eq,
    hlast.recipient_eq.trans hlater.recipient_eq, hlast.timeout_eq.trans hlater.timeout_eq⟩

theorem continues_settle (request : Request) (state : RequestState) :
    request.Continues (request.settle state) := by
  rw [settle]
  split_ifs <;> exact ⟨rfl, rfl, rfl, rfl⟩

theorem isHeld_settle (request : Request) (state : RequestState) :
    (request.settle state).isHeld = request.isHeld := by
  rw [settle]
  split_ifs <;> rfl

theorem message_settle (request : Request) (state : RequestState) :
    (request.settle state).message = request.message := by
  rw [settle]
  split_ifs <;> rfl

theorem sentAt_settle (request : Request) (state : RequestState) :
    (request.settle state).sentAt = request.sentAt := by
  rw [settle]
  split_ifs <;> rfl

theorem outcome_of_mem_told {delivery : Delivery} (hdelivery : delivery ∈ request.told outcome) :
    delivery.outcome = outcome := by
  rw [told] at hdelivery
  split_ifs at hdelivery
  · exact absurd hdelivery List.not_mem_nil
  · rw [List.mem_singleton.mp hdelivery]

theorem request_of_mem_told {delivery : Delivery} (hdelivery : delivery ∈ request.told outcome) :
    delivery.request = request.id := by
  rw [told] at hdelivery
  split_ifs at hdelivery
  · exact absurd hdelivery List.not_mem_nil
  · rw [List.mem_singleton.mp hdelivery]

end Request

namespace Exchange

variable {exchange : Exchange} {request : Request} {listed : List RequestId}

def ids (exchange : Exchange) : List RequestId :=
  exchange.requests.map (·.id)

def deliveriesTo (exchange : Exchange) (id : RequestId) : List Delivery :=
  exchange.delivered.filter fun delivery => delivery.request == id

/-! ## Looking up -/

theorem mem_of_get? (hget : exchange.get? id = some request) :
    request ∈ exchange.requests ∧ request.id = id :=
  ⟨List.mem_of_find?_eq_some hget, by simpa using List.find?_some hget⟩

theorem get?_of_mem (hids : exchange.ids.Nodup) (hrequest : request ∈ exchange.requests) :
    exchange.get? request.id = some request :=
  Parts.find?_key hids hrequest

theorem get?_eq_none_iff : exchange.get? id = none ↔ id ∉ exchange.ids := by
  simp [get?, ids]

theorem lt_nextId_of_get? (hnumbered : exchange.IsNumbered)
    (hget : exchange.get? id = some request) : id < exchange.nextId := by
  obtain ⟨hrequest, rfl⟩ := mem_of_get? hget
  exact hnumbered request hrequest

/-! ## Changing one request -/

theorem ids_modify (exchange : Exchange) {change : Request → Request}
    (hchange : ∀ request, (change request).id = request.id) :
    (exchange.modify id change).ids = exchange.ids := by
  rw [ids, modify, List.map_map]
  apply List.map_congr_left
  intro request _
  simp only [Function.comp_apply]
  split_ifs
  · exact hchange request
  · rfl

theorem get?_modify (exchange : Exchange) (id other : RequestId) {change : Request → Request}
    (hchange : ∀ request, (change request).id = request.id) :
    (exchange.modify id change).get? other =
      if other = id then (exchange.get? id).map change else exchange.get? other := by
  have hbeq : ((fun request : Request => request.id == other) ∘ fun request : Request =>
      if request.id = id then change request else request) =
        fun request => request.id == other := by
    funext request
    simp only [Function.comp_apply]
    split_ifs
    · rw [hchange]
    · rfl
  rw [get?, modify, List.find?_map, hbeq, ← get?]
  cases hget : exchange.get? other with
  | none =>
      split_ifs with hother
      · rw [← hother, hget]
        rfl
      · rfl
  | some request =>
      obtain ⟨-, rfl⟩ := mem_of_get? hget
      rw [Option.map_some]
      split_ifs with hid
      · rw [← hid, hget, Option.map_some]
      · rfl

/-! ## Making a request -/

def made (exchange : Exchange) (endpoint : Endpoint) (message : Message)
    (responseCommand : String) (timeout : Nat) (recipient : Recipient) (now : Nat) : Request where
  id := exchange.nextId
  endpoint
  message
  responseCommand := Message.lookupName responseCommand
  createdAt := now
  timeout
  recipient
  state := .created
  sentAt := none
  deadline := none
  turn := 0
  isHeld := true

section Create

variable (endpoint : Endpoint) (message : Message) (responseCommand : String) (timeout : Nat)
  (recipient : Recipient) (now : Nat)

theorem get?_nextId (hnumbered : exchange.IsNumbered) : exchange.get? exchange.nextId = none := by
  rw [Option.eq_none_iff_forall_ne_some]
  intro request hget
  exact absurd (lt_nextId_of_get? hnumbered hget) (Nat.lt_irrefl _)

theorem ids_create : (exchange.create endpoint message responseCommand timeout recipient now).ids =
    exchange.ids ++ [exchange.nextId] := by
  simp [ids, create]

/-- Nobody but the new request has the new identifier. -/
theorem get?_create (hnumbered : exchange.IsNumbered) (id : RequestId) :
    (exchange.create endpoint message responseCommand timeout recipient now).get? id =
      if id = exchange.nextId then
        some (exchange.made endpoint message responseCommand timeout recipient now)
      else exchange.get? id := by
  rw [get?, create, List.find?_append, ← get?]
  split_ifs with hid
  · rw [hid, get?_nextId hnumbered, Option.none_or]
    exact List.find?_cons_of_pos (beq_self_eq_true exchange.nextId)
  · rw [List.find?_cons_of_neg (by simpa using Ne.symm hid), List.find?_nil, Option.or_none]

end Create

/-! ## Resolving -/

theorem resolve_of_isFinal (hfinal : ∀ request, exchange.get? id = some request →
    request.state.isFinal) : exchange.resolve id state outcome = (exchange, false) := by
  rw [resolve]
  cases hget : exchange.get? id with
  | none => rfl
  | some request => exact if_pos (hfinal request hget)

theorem resolve_of_isOpen (hget : exchange.get? id = some request)
    (hopen : request.state.isFinal = false) :
    exchange.resolve id state outcome =
      ({ exchange.modify id (fun request => request.finish state) with
        delivered := exchange.delivered ++ [⟨id, request.recipient, outcome⟩] }, true) := by
  simp only [resolve, hget, hopen]
  rfl

/-- A request that is known is open, and then the first thing to resolve it succeeds, or there is
nothing left to resolve. -/
theorem resolve_cases (exchange : Exchange) (id : RequestId) (state : RequestState)
    (outcome : Outcome) :
    (∃ request, exchange.get? id = some request ∧ request.state.isFinal = false ∧
      exchange.resolve id state outcome =
        ({ exchange.modify id (fun request => request.finish state) with
          delivered := exchange.delivered ++ [⟨id, request.recipient, outcome⟩] }, true)) ∨
    ((∀ request, exchange.get? id = some request → request.state.isFinal) ∧
      exchange.resolve id state outcome = (exchange, false)) := by
  cases hget : exchange.get? id with
  | none =>
      exact Or.inr ⟨by simp, resolve_of_isFinal (by simp [hget])⟩
  | some request =>
      cases hfinal : request.state.isFinal with
      | false => exact Or.inl ⟨request, rfl, hfinal, resolve_of_isOpen hget hfinal⟩
      | true =>
          have hall : ∀ other, exchange.get? id = some other → other.state.isFinal := by
            intro other hother
            rwa [← Option.some.inj (hget.symm.trans hother)]
          exact Or.inr ⟨by simpa [hget] using hall, resolve_of_isFinal hall⟩

theorem get?_resolve (exchange : Exchange) (id other : RequestId) (state : RequestState)
    (outcome : Outcome) :
    (exchange.resolve id state outcome).1.get? other =
      if other = id then (exchange.get? id).map (·.settle state) else exchange.get? other := by
  rcases exchange.resolve_cases id state outcome with ⟨request, hget, hopen, heq⟩ | ⟨hfinal, heq⟩
  · rw [heq, hget, Option.map_some, Request.settle_of_isOpen hopen]
    have hfinish : ∀ request : Request, (request.finish state).id = request.id := fun _ => rfl
    have hmodify := exchange.get?_modify id other hfinish
    rw [hget, Option.map_some] at hmodify
    exact hmodify
  · rw [heq]
    split_ifs with hother
    · rw [hother]
      cases hget : exchange.get? id with
      | none => rfl
      | some request => rw [Option.map_some, Request.settle_of_isFinal (hfinal request hget)]
    · rfl

theorem delivered_resolve (exchange : Exchange) (id : RequestId) (state : RequestState)
    (outcome : Outcome) :
    (exchange.resolve id state outcome).1.delivered =
      exchange.delivered ++ (exchange.get? id).toList.flatMap (·.told outcome) := by
  rcases exchange.resolve_cases id state outcome with ⟨request, hget, hopen, heq⟩ | ⟨hfinal, heq⟩
  · obtain ⟨-, hid⟩ := mem_of_get? hget
    rw [heq, hget, Option.toList_some, List.flatMap_singleton, Request.told_of_isOpen hopen, hid]
  · rw [heq]
    cases hget : exchange.get? id with
    | none => simp
    | some request => simp [Request.told_of_isFinal (hfinal request hget)]

/-- Of a request only its own resolution delivers. -/
theorem deliveriesTo_resolve (exchange : Exchange) (id other : RequestId) (state : RequestState)
    (outcome : Outcome) :
    (exchange.resolve id state outcome).1.deliveriesTo other =
      exchange.deliveriesTo other ++
        if other = id then (exchange.get? other).toList.flatMap (·.told outcome) else [] := by
  rw [deliveriesTo, delivered_resolve, List.filter_append, ← deliveriesTo]
  congr 1
  have hown : ∀ delivery ∈ (exchange.get? id).toList.flatMap (·.told outcome),
      delivery.request = id := by
    intro delivery hdelivery
    obtain ⟨request, hrequest, htold⟩ := List.mem_flatMap.mp hdelivery
    rw [Request.request_of_mem_told htold, (mem_of_get? (Option.mem_toList.mp hrequest)).2]
  split_ifs with hother
  · rw [hother, List.filter_eq_self]
    intro delivery hdelivery
    exact beq_iff_eq.mpr (hown delivery hdelivery)
  · rw [List.filter_eq_nil_iff]
    intro delivery hdelivery
    rw [hown delivery hdelivery, beq_iff_eq]
    exact Ne.symm hother

/-! ## The same requests -/

/-- The same requests are known and indexed. -/
structure SameRoll (before after : Exchange) : Prop where
  ids_eq : after.ids = before.ids
  pending_eq : after.pending = before.pending
  nextId_eq : after.nextId = before.nextId

theorem SameRoll.refl (exchange : Exchange) : SameRoll exchange exchange :=
  ⟨rfl, rfl, rfl⟩

theorem SameRoll.trans {before between after : Exchange} (hfirst : SameRoll before between)
    (hsecond : SameRoll between after) : SameRoll before after :=
  ⟨hsecond.ids_eq.trans hfirst.ids_eq, hsecond.pending_eq.trans hfirst.pending_eq,
    hsecond.nextId_eq.trans hfirst.nextId_eq⟩

theorem sameRoll_modify (exchange : Exchange) (id : RequestId) {change : Request → Request}
    (hchange : ∀ request, (change request).id = request.id) :
    SameRoll exchange (exchange.modify id change) :=
  ⟨exchange.ids_modify hchange, rfl, rfl⟩

theorem sameRoll_resolve (exchange : Exchange) (id : RequestId) (state : RequestState)
    (outcome : Outcome) : SameRoll exchange (exchange.resolve id state outcome).1 := by
  rcases exchange.resolve_cases id state outcome with ⟨request, -, -, heq⟩ | ⟨-, heq⟩
  · rw [heq]
    exact ⟨exchange.ids_modify fun _ => rfl, rfl, rfl⟩
  · rw [heq]
    exact .refl exchange

/-! ## Resolving several requests -/

def resolveAll (exchange : Exchange) (state : RequestState) (outcome : Outcome)
    (listed : List RequestId) : Exchange :=
  listed.foldl (fun exchange id => (exchange.resolve id state outcome).1) exchange

theorem completeAll_fst (exchange : Exchange) (inbound : Inbound) (listed : List RequestId) :
    (exchange.completeAll inbound listed).1 =
      exchange.resolveAll .completed (.ok inbound) listed := by
  induction listed generalizing exchange with
  | nil => rfl
  | cons id rest ih => exact ih _

theorem expire_eq (exchange : Exchange) (now : Nat) :
    exchange.expire now =
      exchange.resolveAll .canceled (.error .timeout) ((exchange.due now).map (·.id)) := by
  rw [resolveAll, List.foldl_map]
  rfl

theorem sameRoll_resolveAll (exchange : Exchange) (state : RequestState) (outcome : Outcome)
    (listed : List RequestId) : SameRoll exchange (exchange.resolveAll state outcome listed) := by
  induction listed generalizing exchange with
  | nil => exact .refl exchange
  | cons id rest ih => exact (exchange.sameRoll_resolve id state outcome).trans (ih _)

/-- Those on the list are settled, and nobody else is. -/
theorem get?_resolveAll (hstate : state.isFinal) (exchange : Exchange) (outcome : Outcome)
    (listed : List RequestId) (id : RequestId) :
    (exchange.resolveAll state outcome listed).get? id =
      if id ∈ listed then (exchange.get? id).map (·.settle state) else exchange.get? id := by
  induction listed generalizing exchange with
  | nil => rfl
  | cons first rest ih =>
      have hnext := ih (exchange.resolve first state outcome).1
      rw [get?_resolve] at hnext
      rw [resolveAll, List.foldl_cons, ← resolveAll, hnext]
      by_cases hfirst : id = first
      · have hsettle : (Request.settle · state) ∘ (Request.settle · state) =
            (Request.settle · state) := funext (Request.settle_settle hstate)
        rw [if_pos hfirst, hfirst, if_pos List.mem_cons_self, Option.map_map, hsettle, ite_self]
      · simp only [hfirst, if_false, List.mem_cons, false_or]

/-- A request that is listed twice is told once, since it has ended the second time. -/
theorem deliveriesTo_resolveAll (hstate : state.isFinal) (exchange : Exchange) (outcome : Outcome)
    (listed : List RequestId) (id : RequestId) :
    (exchange.resolveAll state outcome listed).deliveriesTo id =
      exchange.deliveriesTo id ++
        if id ∈ listed then (exchange.get? id).toList.flatMap (·.told outcome) else [] := by
  induction listed generalizing exchange with
  | nil => exact (List.append_nil _).symm
  | cons first rest ih =>
      have hnext := ih (exchange.resolve first state outcome).1
      rw [deliveriesTo_resolve, get?_resolve] at hnext
      rw [resolveAll, List.foldl_cons, ← resolveAll, hnext]
      by_cases hfirst : id = first
      · -- The first time settles the request, so nothing more is heard of it.
        have hsilent : ((exchange.get? first).map (Request.settle · state)).toList.flatMap
            (·.told outcome) = [] := by
          cases exchange.get? first with
          | none => rfl
          | some request => simp [Request.told_settle hstate]
        rw [if_pos hfirst, if_pos hfirst, hsilent, ite_self, List.append_nil, hfirst,
          if_pos List.mem_cons_self]
      · simp only [hfirst, if_false, List.append_nil, List.mem_cons, false_or]

theorem delivered_resolveAll (exchange : Exchange) (state : RequestState) (outcome : Outcome)
    (hlisted : listed.Nodup) :
    (exchange.resolveAll state outcome listed).delivered =
      exchange.delivered ++ (listed.filterMap exchange.get?).flatMap (·.told outcome) := by
  induction listed generalizing exchange with
  | nil => exact (List.append_nil _).symm
  | cons first rest ih =>
      obtain ⟨hfirst, hrest⟩ := List.nodup_cons.mp hlisted
      have hsame : rest.filterMap (exchange.resolve first state outcome).1.get? =
          rest.filterMap exchange.get? := by
        apply List.filterMap_congr
        intro id hid
        rw [get?_resolve, if_neg (ne_of_mem_of_not_mem hid hfirst)]
      have hnext := ih (exchange.resolve first state outcome).1 hrest
      rw [delivered_resolve, hsame, List.append_assoc, ← List.flatMap_append] at hnext
      rw [resolveAll, List.foldl_cons, ← resolveAll, hnext]
      cases hget : exchange.get? first with
      | none => rw [List.filterMap_cons_none hget, Option.toList_none, List.nil_append]
      | some request =>
          rw [List.filterMap_cons_some hget, Option.toList_some, List.singleton_append]

/-- As many requests are resolved as outcomes are delivered. -/
theorem length_delivered_completeAll (exchange : Exchange) (inbound : Inbound)
    (listed : List RequestId) :
    (exchange.completeAll inbound listed).1.delivered.length =
      exchange.delivered.length + (exchange.completeAll inbound listed).2 := by
  induction listed generalizing exchange with
  | nil => rfl
  | cons id rest ih =>
      have hfirst : (exchange.complete id inbound).1.delivered.length =
          exchange.delivered.length + if (exchange.complete id inbound).2 then 1 else 0 := by
        rcases exchange.resolve_cases id .completed (.ok inbound) with
          ⟨request, -, -, heq⟩ | ⟨-, heq⟩
        · rw [complete, heq, List.length_append]
          rfl
        · rw [complete, heq]
          rfl
      have hrest := ih (exchange.complete id inbound).1
      rw [hfirst, Nat.add_assoc] at hrest
      exact hrest

/-! ## Dropping requests -/

theorem get?_collect (hids : exchange.ids.Nodup) (id : RequestId) :
    exchange.collect.get? id = (exchange.get? id).filter exchange.isReachable := by
  cases hget : exchange.collect.get? id with
  | none =>
      cases hbefore : exchange.get? id with
      | none => rfl
      | some request =>
          obtain ⟨hrequest, rfl⟩ := mem_of_get? hbefore
          rw [Option.filter_some, if_neg]
          intro hreachable
          have hkept : request ∈ exchange.collect.requests :=
            List.mem_filter.mpr ⟨hrequest, hreachable⟩
          exact get?_eq_none_iff.mp hget (List.mem_map_of_mem hkept)
  | some request =>
      obtain ⟨hkept, rfl⟩ := mem_of_get? hget
      obtain ⟨hrequest, hreachable⟩ := List.mem_filter.mp hkept
      rw [get?_of_mem hids hrequest, Option.filter_some, if_pos hreachable]

/-- A caller hears that a request that is dropped was given up. -/
theorem farewell?_eq_some {delivery : Delivery} (hfarewell : farewell? request = some delivery) :
    delivery = ⟨request.id, .caller, .error .canceled⟩ := by
  rw [farewell?] at hfarewell
  split_ifs at hfarewell
  cases hrecipient : request.recipient with
  | caller =>
      rw [hrecipient] at hfarewell
      exact (Option.some.inj hfarewell).symm
  | batch =>
      rw [hrecipient] at hfarewell
      exact absurd hfarewell (by simp)

/-- Nothing is said of a request that is kept. -/
theorem deliveriesTo_collect (hids : exchange.ids.Nodup) (hget : exchange.get? id = some request)
    (hreachable : exchange.isReachable request) :
    exchange.collect.deliveriesTo id = exchange.deliveriesTo id := by
  rw [deliveriesTo, collect, List.filter_append, ← deliveriesTo, List.append_right_eq_self,
    List.filter_eq_nil_iff]
  intro delivery hdelivery hid
  obtain ⟨dropped, hdropped, hfarewell⟩ := List.mem_filterMap.mp hdelivery
  obtain ⟨hmember, hunreachable⟩ := List.mem_filter.mp hdropped
  have hsame : dropped = request := by
    rw [farewell?_eq_some hfarewell] at hid
    have hown : dropped.id = id := beq_iff_eq.mp hid
    have hfound := get?_of_mem hids hmember
    rw [hown, hget] at hfound
    exact (Option.some.inj hfound).symm
  rw [hsame, hreachable] at hunreachable
  exact absurd hunreachable (by decide)

/-- Nothing is said of a request that has ended. -/
theorem deliveriesTo_collect_of_isFinal (hids : exchange.ids.Nodup)
    (hget : exchange.get? id = some request) (hfinal : request.state.isFinal) :
    exchange.collect.deliveriesTo id = exchange.deliveriesTo id := by
  rw [deliveriesTo, collect, List.filter_append, ← deliveriesTo, List.append_right_eq_self,
    List.filter_eq_nil_iff]
  intro delivery hdelivery hid
  obtain ⟨dropped, hdropped, hfarewell⟩ := List.mem_filterMap.mp hdelivery
  have hfound := get?_of_mem hids (List.mem_filter.mp hdropped).1
  have hown : dropped.id = id := by
    rw [farewell?_eq_some hfarewell] at hid
    exact beq_iff_eq.mp hid
  rw [hown, hget] at hfound
  rw [← Option.some.inj hfound, farewell?, if_pos hfinal] at hfarewell
  exact absurd hfarewell (by simp)

/-- Requests that have ended are dropped in silence. -/
theorem delivered_collect (hfinal : ∀ request ∈ exchange.requests,
    exchange.isReachable request = false → request.state.isFinal) :
    exchange.collect.delivered = exchange.delivered := by
  rw [collect, List.append_right_eq_self, List.filterMap_eq_nil_iff]
  intro request hrequest
  obtain ⟨hmember, hunreachable⟩ := List.mem_filter.mp hrequest
  rw [Bool.not_eq_true'] at hunreachable
  rw [farewell?, if_pos (hfinal request hmember hunreachable)]

end Exchange

end Muster
