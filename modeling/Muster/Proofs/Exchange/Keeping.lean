import Mathlib.Tactic.SplitIfs
import Muster.Exchange.Basic

/-!
# Requests and their endpoints

A request keeps its endpoint as long as it is known, and an identifier is never given to a second
request.  Whatever is done with an exchange, a request that it knows by an earlier identifier is the
one that it knew by it before.
-/

namespace Muster.Exchange

variable {exchange before next after : Exchange} {id : RequestId} {now : Nat}

/-- All identifiers in use have been given away. -/
def IsNumbered (exchange : Exchange) : Prop :=
  ∀ request ∈ exchange.requests, request.id < exchange.nextId

theorem isNumbered_empty : empty.IsNumbered := by
  intro request hrequest
  exact absurd hrequest List.not_mem_nil

/-- Requests with identifiers from before are requests from before. -/
structure Keeps (before after : Exchange) : Prop where
  nextId_le : before.nextId ≤ after.nextId
  isNumbered : before.IsNumbered → after.IsNumbered
  endpoint_eq : ∀ request ∈ after.requests, request.id < before.nextId →
    ∃ earlier ∈ before.requests, earlier.id = request.id ∧ earlier.endpoint = request.endpoint

theorem Keeps.trans (hfirst : Keeps before next) (hsecond : Keeps next after) :
    Keeps before after := by
  constructor
  · exact Nat.le_trans hfirst.nextId_le hsecond.nextId_le
  · intro hbefore
    exact hsecond.isNumbered (hfirst.isNumbered hbefore)
  · intro request hrequest hid
    obtain ⟨middle, hmiddle, hsame, hendpoint⟩ :=
      hsecond.endpoint_eq request hrequest (Nat.lt_of_lt_of_le hid hfirst.nextId_le)
    rw [← hsame] at hid ⊢
    rw [← hendpoint]
    exact hfirst.endpoint_eq middle hmiddle hid

/-- No request is new. -/
theorem keeps_of_requests (hnextId : after.nextId = before.nextId)
    (hrequests : ∀ request ∈ after.requests, ∃ earlier ∈ before.requests,
      earlier.id = request.id ∧ earlier.endpoint = request.endpoint) : Keeps before after := by
  constructor
  · exact Nat.le_of_eq hnextId.symm
  · intro hbefore request hrequest
    obtain ⟨earlier, hearlier, hid, -⟩ := hrequests request hrequest
    rw [hnextId, ← hid]
    exact hbefore earlier hearlier
  · intro request hrequest _
    exact hrequests request hrequest

theorem Keeps.refl (exchange : Exchange) : Keeps exchange exchange :=
  keeps_of_requests rfl fun request hrequest => ⟨request, hrequest, rfl, rfl⟩

/-- The requests stay as they are, whatever else changes. -/
theorem keeps_of_eq (hnextId : after.nextId = before.nextId)
    (hrequests : after.requests = before.requests) : Keeps before after := by
  apply keeps_of_requests hnextId
  intro request hrequest
  exact ⟨request, hrequests ▸ hrequest, rfl, rfl⟩

theorem Keeps.foldl {α : Type} {step : Exchange → α → Exchange}
    (hstep : ∀ exchange value, Keeps exchange (step exchange value)) (values : List α)
    (exchange : Exchange) : Keeps exchange (values.foldl step exchange) := by
  induction values generalizing exchange with
  | nil => exact Keeps.refl exchange
  | cons value rest ih => exact (hstep exchange value).trans (ih _)

/-! ## Operations -/

theorem keeps_modify (exchange : Exchange) (id : RequestId) (change : Request → Request)
    (hchange : ∀ request, (change request).id = request.id ∧
      (change request).endpoint = request.endpoint) :
    Keeps exchange (exchange.modify id change) := by
  apply keeps_of_requests
  · rfl
  · intro request hrequest
    obtain ⟨earlier, hearlier, rfl⟩ := List.mem_map.mp hrequest
    refine ⟨earlier, hearlier, ?_⟩
    split_ifs
    · exact ⟨(hchange earlier).1.symm, (hchange earlier).2.symm⟩
    · exact ⟨rfl, rfl⟩

theorem keeps_create (exchange : Exchange) (endpoint : Endpoint) (message : Message)
    (responseCommand : String) (timeout : Nat) (recipient : Recipient) (now : Nat) :
    Keeps exchange (exchange.create endpoint message responseCommand timeout recipient now) := by
  constructor
  · exact Nat.le_succ _
  · intro hnumbered request hrequest
    rcases List.mem_append.mp hrequest with hearlier | hnew
    · exact Nat.lt_succ_of_lt (hnumbered request hearlier)
    · rw [List.mem_singleton.mp hnew]
      exact Nat.lt_succ_self _
  · intro request hrequest hid
    rcases List.mem_append.mp hrequest with hearlier | hnew
    · exact ⟨request, hearlier, rfl, rfl⟩
    · rw [List.mem_singleton.mp hnew] at hid
      exact absurd hid (Nat.lt_irrefl _)

theorem keeps_markSent (exchange : Exchange) (id : RequestId) (now : Nat) :
    Keeps exchange (exchange.markSent id now) :=
  keeps_modify exchange id _ fun _ => ⟨rfl, rfl⟩

theorem keeps_activate (exchange : Exchange) (id : RequestId) (now : Nat) :
    Keeps exchange (exchange.activate id now).1 := by
  rw [activate]
  cases exchange.get? id with
  | none => exact Keeps.refl exchange
  | some request =>
      simp only
      split_ifs
      · have hmodify := keeps_modify exchange id
          (fun request => request.activate exchange.nextTurn now) fun _ => ⟨rfl, rfl⟩
        exact hmodify.trans (keeps_of_eq rfl rfl)
      · exact Keeps.refl exchange

theorem keeps_resolve (exchange : Exchange) (id : RequestId) (state : RequestState)
    (outcome : Outcome) : Keeps exchange (exchange.resolve id state outcome).1 := by
  rw [resolve]
  cases exchange.get? id with
  | none => exact Keeps.refl exchange
  | some request =>
      simp only
      split_ifs
      · exact Keeps.refl exchange
      · have hmodify := keeps_modify exchange id
          (fun request => request.finish state) fun _ => ⟨rfl, rfl⟩
        exact hmodify.trans (keeps_of_eq rfl rfl)

theorem keeps_collect (exchange : Exchange) : Keeps exchange exchange.collect := by
  apply keeps_of_requests
  · rfl
  · intro request hrequest
    exact ⟨request, (List.mem_filter.mp hrequest).1, rfl, rfl⟩

theorem keeps_insert (exchange : Exchange) (id : RequestId) :
    Keeps exchange (exchange.insert id).1 := by
  rw [insert]
  cases exchange.get? id with
  | none => exact Keeps.refl exchange
  | some request =>
      have hindexed : ∀ pending, Keeps exchange { exchange with pending } := fun _ =>
        keeps_of_eq rfl rfl
      have hcancel : ∀ exchange ids, Keeps exchange (cancelAll exchange ids) := fun exchange ids =>
        Keeps.foldl (fun exchange id => keeps_resolve exchange id _ _) ids exchange
      exact ((hindexed _).trans (hcancel _ _)).trans (keeps_collect _)

theorem keeps_completeAll (inbound : Inbound) (ids : List RequestId) (exchange : Exchange) :
    Keeps exchange (exchange.completeAll inbound ids).1 := by
  induction ids generalizing exchange with
  | nil => exact Keeps.refl exchange
  | cons id rest ih =>
      exact (keeps_resolve exchange id .completed (.ok inbound)).trans (ih _)

theorem keeps_dispatch (exchange : Exchange) (inbound : Inbound) :
    Keeps exchange (exchange.dispatch inbound).1 := by
  have hindexed : ∀ pending, Keeps exchange { exchange with pending } := fun _ =>
    keeps_of_eq rfl rfl
  exact ((hindexed _).trans (keeps_completeAll inbound _ _)).trans (keeps_collect _)

theorem keeps_remove (exchange : Exchange) (id : RequestId) :
    Keeps exchange (exchange.remove id) := by
  rw [remove]
  cases exchange.get? id with
  | none => exact Keeps.refl exchange
  | some request =>
      have hindexed : ∀ pending, Keeps exchange { exchange with pending } := fun _ =>
        keeps_of_eq rfl rfl
      exact (hindexed _).trans (keeps_collect _)

theorem keeps_expire (exchange : Exchange) (now : Nat) :
    Keeps exchange (exchange.expire now) := by
  apply Keeps.foldl
  intro exchange request
  exact keeps_resolve exchange request.id _ _

end Muster.Exchange
