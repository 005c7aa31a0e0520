import Muster.Proofs.Exchange.Requests

/-!
# Orderly exchanges

An exchange is orderly if its requests have different identifiers that were given away, nothing has
been delivered of any other identifier, and each identifier in the index stands once under the key
of its request.  In a swept exchange somebody knows of every request.
-/

namespace Muster.Exchange

variable {exchange before after : Exchange} {id : RequestId} {request : Request}
  {key : Request.Key} {listed : List RequestId}

/-- Requests, deliveries and index agree with each other. -/
structure IsOrderly (exchange : Exchange) : Prop where
  nodup_ids : exchange.ids.Nodup
  isNumbered : exchange.IsNumbered
  deliveriesTo_eq_nil : ∀ id, exchange.nextId ≤ id → exchange.deliveriesTo id = []
  isKeyed : exchange.pending.IsKeyed
  nodup_get : ∀ key, (exchange.pending.get key).Nodup
  indexed : ∀ key, ∀ id ∈ exchange.pending.get key,
    ∃ request, exchange.get? id = some request ∧ request.key = key

def IsSwept (exchange : Exchange) : Prop :=
  ∀ request ∈ exchange.requests, exchange.isReachable request

def reindex (exchange : Exchange) (pending : Pending) : Exchange :=
  { exchange with pending }

@[simp]
theorem get?_reindex (exchange : Exchange) (pending : Pending) (id : RequestId) :
    (exchange.reindex pending).get? id = exchange.get? id := rfl

@[simp]
theorem deliveriesTo_reindex (exchange : Exchange) (pending : Pending) (id : RequestId) :
    (exchange.reindex pending).deliveriesTo id = exchange.deliveriesTo id := rfl

theorem isOrderly_empty : empty.IsOrderly where
  nodup_ids := List.nodup_nil
  isNumbered := isNumbered_empty
  deliveriesTo_eq_nil := fun _ _ => rfl
  isKeyed := Pending.isKeyed_empty
  nodup_get := fun _ => List.nodup_nil
  indexed := by
    intro key id hid
    exact absurd hid List.not_mem_nil

theorem isSwept_empty : empty.IsSwept := by
  intro request hrequest
  exact absurd hrequest List.not_mem_nil

theorem isSwept_collect (exchange : Exchange) : exchange.collect.IsSwept := by
  intro request hrequest
  exact (List.mem_filter.mp hrequest).2

theorem collect_of_isSwept (hswept : exchange.IsSwept) : exchange.collect = exchange := by
  have hkept : exchange.requests.filter exchange.isReachable = exchange.requests :=
    List.filter_eq_self.mpr hswept
  have hdropped : exchange.requests.filter (fun request => !exchange.isReachable request) = [] := by
    rw [List.filter_eq_nil_iff]
    intro request hrequest
    simp [hswept request hrequest]
  rw [collect, hkept, hdropped, List.filterMap_nil, List.append_nil]

/-- An indexed request stands under its own key. -/
theorem IsOrderly.contains_iff (horderly : exchange.IsOrderly)
    (hget : exchange.get? id = some request) :
    exchange.pending.contains id ↔ id ∈ exchange.pending.get request.key := by
  rw [Pending.contains_iff horderly.isKeyed]
  constructor
  · rintro ⟨key, hid⟩
    obtain ⟨found, hfound, rfl⟩ := horderly.indexed key id hid
    rw [Option.some.inj (hget.symm.trans hfound)]
    exact hid
  · intro hid
    exact ⟨request.key, hid⟩

/-- Changes within the requests that keep their keys keep an exchange orderly. -/
theorem IsOrderly.sameRoll (hbefore : before.IsOrderly) (hsame : SameRoll before after)
    (hkey : ∀ id request, before.get? id = some request →
      ∃ changed, after.get? id = some changed ∧ changed.key = request.key)
    (hdeliveries : ∀ id, before.get? id = none → after.deliveriesTo id = before.deliveriesTo id) :
    after.IsOrderly where
  nodup_ids := by
    rw [hsame.ids_eq]
    exact hbefore.nodup_ids
  isNumbered := by
    intro request hrequest
    have hid : request.id ∈ before.ids := hsame.ids_eq ▸ List.mem_map_of_mem hrequest
    obtain ⟨earlier, hearlier, heq⟩ := List.mem_map.mp hid
    rw [hsame.nextId_eq, ← heq]
    exact hbefore.isNumbered earlier hearlier
  deliveriesTo_eq_nil := by
    intro id hid
    rw [hsame.nextId_eq] at hid
    have hnone : before.get? id = none := by
      rw [Option.eq_none_iff_forall_ne_some]
      intro request hget
      exact absurd (lt_nextId_of_get? hbefore.isNumbered hget) (Nat.not_lt.mpr hid)
    rw [hdeliveries id hnone]
    exact hbefore.deliveriesTo_eq_nil id hid
  isKeyed := by
    rw [hsame.pending_eq]
    exact hbefore.isKeyed
  nodup_get := by
    rw [hsame.pending_eq]
    exact hbefore.nodup_get
  indexed := by
    intro key id hid
    rw [hsame.pending_eq] at hid
    obtain ⟨request, hget, rfl⟩ := hbefore.indexed key id hid
    exact hkey id request hget

/-- Another list of requests with that key keeps the index in order. -/
theorem IsOrderly.setPending (horderly : exchange.IsOrderly) (hlisted : listed.Nodup)
    (hkey : ∀ id ∈ listed, ∃ request, exchange.get? id = some request ∧ request.key = key) :
    (exchange.reindex (exchange.pending.set key listed)).IsOrderly where
  nodup_ids := horderly.nodup_ids
  isNumbered := horderly.isNumbered
  deliveriesTo_eq_nil := horderly.deliveriesTo_eq_nil
  isKeyed := horderly.isKeyed.set key listed
  nodup_get := by
    intro other
    rw [reindex, Pending.get_set]
    split_ifs
    · exact hlisted
    · exact horderly.nodup_get other
  indexed := by
    intro other id hid
    rw [reindex, Pending.get_set] at hid
    split_ifs at hid with hother
    · rw [hother]
      exact hkey id hid
    · exact horderly.indexed other id hid

/-- A part of the requests under a key may stay there alone. -/
theorem IsOrderly.setPart (horderly : exchange.IsOrderly)
    (hlisted : listed.Sublist (exchange.pending.get key)) :
    (exchange.reindex (exchange.pending.set key listed)).IsOrderly :=
  horderly.setPending ((horderly.nodup_get key).sublist hlisted) fun id hid =>
    horderly.indexed key id (hlisted.subset hid)

theorem IsOrderly.modify (horderly : exchange.IsOrderly) (id : RequestId)
    {change : Request → Request} (hid : ∀ request, (change request).id = request.id)
    (hkey : ∀ request, (change request).key = request.key) :
    (exchange.modify id change).IsOrderly := by
  apply horderly.sameRoll (exchange.sameRoll_modify id hid)
  · intro other request hget
    rw [get?_modify exchange id other hid]
    split_ifs with hother
    · rw [← hother, hget]
      exact ⟨change request, rfl, hkey request⟩
    · exact ⟨request, hget, rfl⟩
  · intro other _
    rfl

theorem IsOrderly.resolveAll (horderly : exchange.IsOrderly) {state : RequestState}
    (hstate : state.isFinal) (outcome : Outcome) (listed : List RequestId) :
    (exchange.resolveAll state outcome listed).IsOrderly := by
  apply horderly.sameRoll (exchange.sameRoll_resolveAll state outcome listed)
  · intro id request hget
    rw [get?_resolveAll hstate, hget]
    split_ifs
    · exact ⟨request.settle state, rfl, (request.continues_settle state).key_eq⟩
    · exact ⟨request, rfl, rfl⟩
  · intro id hnone
    rw [deliveriesTo_resolveAll hstate, hnone]
    split_ifs
    · exact List.append_nil _
    · exact List.append_nil _

/-- A new request has an identifier that is not in use. -/
theorem IsOrderly.create (horderly : exchange.IsOrderly) (endpoint : Endpoint) (message : Message)
    (responseCommand : String) (timeout : Nat) (recipient : Recipient) (now : Nat) :
    (exchange.create endpoint message responseCommand timeout recipient now).IsOrderly where
  nodup_ids := by
    rw [ids_create, List.nodup_append]
    refine ⟨horderly.nodup_ids, List.nodup_singleton _, ?_⟩
    intro id hid other hother
    obtain ⟨request, hrequest, rfl⟩ := List.mem_map.mp hid
    rw [List.mem_singleton.mp hother]
    exact Nat.ne_of_lt (horderly.isNumbered request hrequest)
  isNumbered := (keeps_create ..).isNumbered horderly.isNumbered
  deliveriesTo_eq_nil := fun id hid =>
    horderly.deliveriesTo_eq_nil id (Nat.le_of_succ_le hid)
  isKeyed := horderly.isKeyed
  nodup_get := horderly.nodup_get
  indexed := by
    intro key id hid
    obtain ⟨request, hget, hkey⟩ := horderly.indexed key id hid
    refine ⟨request, ?_, hkey⟩
    have hlt := lt_nextId_of_get? horderly.isNumbered hget
    rw [get?_create _ _ _ _ _ _ horderly.isNumbered, if_neg (Nat.ne_of_lt hlt)]
    exact hget

theorem IsOrderly.collect (horderly : exchange.IsOrderly) : exchange.collect.IsOrderly where
  nodup_ids := horderly.nodup_ids.sublist (List.filter_sublist.map _)
  isNumbered := exchange.keeps_collect.isNumbered horderly.isNumbered
  deliveriesTo_eq_nil := by
    intro id hid
    rw [deliveriesTo, List.filter_eq_nil_iff]
    intro delivery hdelivery hown
    obtain rfl := beq_iff_eq.mp hown
    rcases List.mem_append.mp hdelivery with hearlier | hfarewell
    · have hnil := horderly.deliveriesTo_eq_nil delivery.request hid
      exact List.filter_eq_nil_iff.mp hnil delivery hearlier (beq_self_eq_true _)
    · obtain ⟨request, hrequest, hof⟩ := List.mem_filterMap.mp hfarewell
      rw [farewell?_eq_some hof] at hid
      have hlt := horderly.isNumbered request (List.mem_filter.mp hrequest).1
      exact absurd hlt (Nat.not_lt.mpr hid)
  isKeyed := horderly.isKeyed
  nodup_get := horderly.nodup_get
  indexed := by
    intro key id hid
    obtain ⟨request, hget, rfl⟩ := horderly.indexed key id hid
    refine ⟨request, ?_, rfl⟩
    have hcontains := (horderly.contains_iff hget).mpr hid
    rw [get?_collect horderly.nodup_ids, hget, Option.filter_some, if_pos]
    rw [isReachable, (mem_of_get? hget).2, hcontains, Bool.or_true]

end Muster.Exchange
