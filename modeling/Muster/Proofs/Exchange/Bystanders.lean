import Muster.Proofs.Exchange.Resolution

/-!
# Bystanders

What a call does to requests that it does not name.  Only indexing a request, taking it out of the
index and handing out a message change who is indexed, and each of them concerns few requests: those
with the same key and message, the request itself, and those that await the message.
-/

namespace Muster

open Exchange

namespace Exchange

def Call.subject? : Call → Option RequestId
  | .markSent id | .activate id | .complete id _ | .cancel id | .fail id _ | .insert id
  | .remove id | .release id => some id
  | .create .. | .dispatch _ | .advance _ => none

/-- Nothing has been done to a request. -/
structure Spares (before after : Exchange) (request : Request) : Prop where
  get?_eq : after.get? request.id = some request
  contains_eq : after.pending.contains request.id = before.pending.contains request.id
  deliveriesTo_eq : after.deliveriesTo request.id = before.deliveriesTo request.id

/-- A request has lost its place, and it has been given up if it was open.  It is dropped if nobody
holds it. -/
structure Displaces (before after : Exchange) (request : Request) : Prop where
  get?_eq : after.get? request.id =
    if request.isHeld then some (request.settle .canceled) else none
  contains_eq : after.pending.contains request.id = false
  deliveriesTo_eq : after.deliveriesTo request.id =
    before.deliveriesTo request.id ++ request.told (.error .canceled)

/-- What somebody else, who may have indexed a request of his own, has done to a request: at most he
has displaced it by one with the same key and message. -/
def Respects (before after : Exchange) (indexed? : Option RequestId) (request : Request) : Prop :=
  match indexed? with
  | none => Spares before after request
  | some id =>
    if before.displaces id request then Displaces before after request
    else Spares before after request

variable {exchange before between after : Exchange} {id : RequestId} {request : Request}
  {key : Request.Key} {listed : List RequestId}

theorem Spares.refl (hget : exchange.get? request.id = some request) :
    Spares exchange exchange request :=
  ⟨hget, rfl, rfl⟩

theorem Spares.trans (hfirst : Spares before between request)
    (hsecond : Spares between after request) : Spares before after request :=
  ⟨hsecond.get?_eq, hsecond.contains_eq.trans hfirst.contains_eq,
    hsecond.deliveriesTo_eq.trans hfirst.deliveriesTo_eq⟩

/-- Nobody is indexed whom nobody knows. -/
theorem IsOrderly.contains_eq_false (horderly : exchange.IsOrderly)
    (hnone : exchange.get? id = none) : exchange.pending.contains id = false := by
  rw [Bool.eq_false_iff]
  intro hcontains
  obtain ⟨key, hid⟩ := (Pending.contains_iff horderly.isKeyed).mp hcontains
  obtain ⟨request, hget, -⟩ := horderly.indexed key id hid
  rw [hnone] at hget
  exact absurd hget (by simp)

/-- Who is indexed once the requests under one key have been replaced. -/
theorem IsOrderly.contains_set
    (hset : (exchange.reindex (exchange.pending.set key listed)).IsOrderly)
    (hget : exchange.get? id = some request) :
    (exchange.pending.set key listed).contains id ↔
      id ∈ if request.key = key then listed else exchange.pending.get request.key := by
  have hcontains := hset.contains_iff ((exchange.get?_reindex _ id).trans hget)
  rwa [reindex, Pending.get_set] at hcontains

/-! ## How the index changes -/

theorem pending_insert (hget : exchange.get? id = some request) :
    (exchange.insert id).1.pending = exchange.pending.set request.key
      (((exchange.pending.get request.key).filter fun other =>
        !exchange.hasMessage request.message other) ++ [id]) := by
  rw [insert, hget]
  exact (sameRoll_resolveAll ..).pending_eq

theorem pending_remove (hget : exchange.get? id = some request) :
    (exchange.remove id).pending = exchange.pending.set request.key
      ((exchange.pending.get request.key).filter (· != id)) := by
  rw [remove, hget]
  rfl

/-- After a dispatch only those requests stay under the key that were not sent. -/
theorem pending_dispatch (exchange : Exchange) (inbound : Inbound) :
    (exchange.dispatch inbound).1.pending = exchange.pending.set
      (inbound.sender, inbound.message.key) (exchange.unsentUnder inbound) := by
  have hcollected : (exchange.dispatch inbound).1 = (exchange.answerSent inbound).collect :=
    congrArg collect (completeAll_fst ..)
  rw [hcollected]
  exact (sameRoll_resolveAll ..).pending_eq

def Call.changesIndex : Call → Bool
  | .insert _ | .remove _ | .dispatch _ => true
  | _ => false

end Exchange

namespace Timed

def afterAll (timed : Timed) (calls : List Call) : Timed :=
  calls.foldl after timed

def evicts (timed : Timed) (request : Request) : Call → Bool
  | .insert id => timed.exchange.displaces id request
  | .remove id => id == request.id
  | .dispatch inbound => timed.exchange.awaits inbound request
  | _ => false

variable {timed : Timed} {call : Call} {calls : List Call} {id : RequestId} {request : Request}

theorem afterAll_append (timed : Timed) (calls more : List Call) :
    timed.afterAll (calls ++ more) = (timed.afterAll calls).afterAll more :=
  List.foldl_append

theorem pending_after (hcall : call.changesIndex = false) :
    (timed.after call).exchange.pending = timed.exchange.pending := by
  cases call with
  | activate id =>
      rw [after, activate]
      split
      · rfl
      · split_ifs <;> rfl
  | advance elapsed =>
      rw [after, expire_eq]
      exact (sameRoll_resolveAll ..).pending_eq
  | complete id inbound => exact (sameRoll_resolve ..).pending_eq
  | cancel id => exact (sameRoll_resolve ..).pending_eq
  | fail id error => exact (sameRoll_resolve ..).pending_eq
  | insert id => exact absurd hcall (by simp [Call.changesIndex])
  | remove id => exact absurd hcall (by simp [Call.changesIndex])
  | dispatch inbound => exact absurd hcall (by simp [Call.changesIndex])
  | _ => rfl

section Orderly

variable (horderly : timed.exchange.IsOrderly)
  (hget : timed.exchange.get? request.id = some request)

include horderly hget

/-! ## Who is indexed -/

/-- Indexing a request takes out of the index only what it displaces. -/
theorem contains_insert (id : RequestId) :
    (timed.exchange.insert id).1.pending.contains request.id ↔
      (timed.exchange.pending.contains request.id ∧
        timed.exchange.displaces id request = false) ∨ id = request.id := by
  cases hlater : timed.exchange.get? id with
  | none =>
      have hunknown : id ≠ request.id := by
        rintro rfl
        rw [hget] at hlater
        exact absurd hlater (by simp)
      rw [Exchange.insert, displaces, hlater]
      simp [hunknown]
  | some later =>
      have hset := isOrderly_reindex_insert horderly hlater
      obtain ⟨-, rfl⟩ := mem_of_get? hlater
      have hdisplaces : timed.exchange.displaces later.id request = true ↔
          timed.exchange.pending.contains request.id ∧ request.key = later.key ∧
            request.message = later.message := by
        rw [displaces, hlater, Option.any_some, Bool.and_eq_true, Bool.and_eq_true, beq_iff_eq,
          beq_iff_eq, and_assoc]
      rw [pending_insert hlater, hset.contains_set hget, ← Bool.not_eq_true, hdisplaces,
        horderly.contains_iff hget]
      split_ifs with hkey
      · rw [List.mem_append, List.mem_filter, List.mem_singleton, hkey, hasMessage, hget,
          Option.any_some, Bool.not_eq_true', beq_eq_false_iff_ne, eq_comm (a := later.id)]
        tauto
      · have hother : later.id ≠ request.id := by
          intro hid
          rw [hid, hget] at hlater
          exact hkey (congrArg Request.key (Option.some.inj hlater))
        tauto

theorem contains_remove (id : RequestId) :
    (timed.exchange.remove id).pending.contains request.id ↔
      timed.exchange.pending.contains request.id ∧ id ≠ request.id := by
  cases hnamed : timed.exchange.get? id with
  | none =>
      have hunknown : id ≠ request.id := by
        rintro rfl
        rw [hget] at hnamed
        exact absurd hnamed (by simp)
      rw [remove, hnamed]
      exact (and_iff_left hunknown).symm
  | some named =>
      have hpart : ((timed.exchange.pending.get named.key).filter (· != id)).Sublist
          (timed.exchange.pending.get named.key) := List.filter_sublist
      have hset := horderly.setPart hpart
      rw [pending_remove hnamed, hset.contains_set hget, horderly.contains_iff hget]
      split_ifs with hkey
      · rw [List.mem_filter, hkey, bne_iff_ne, ne_comm]
      · have hother : id ≠ request.id := by
          rintro rfl
          rw [hget] at hnamed
          exact hkey (congrArg Request.key (Option.some.inj hnamed))
        exact (and_iff_left hother).symm

theorem contains_dispatch (inbound : Inbound) :
    (timed.exchange.dispatch inbound).1.pending.contains request.id ↔
      timed.exchange.pending.contains request.id ∧
        timed.exchange.awaits inbound request = false := by
  have hpart : (timed.exchange.unsentUnder inbound).Sublist
      (timed.exchange.pending.get (inbound.sender, inbound.message.key)) := List.filter_sublist
  have hset := horderly.setPart hpart
  rw [pending_dispatch, hset.contains_set hget, ← Bool.not_eq_true,
    awaits_iff horderly inbound hget, horderly.contains_iff hget, sentUnder, unsentUnder]
  split_ifs with hkey
  · rw [List.mem_filter, List.mem_filter, ← hkey, Bool.not_eq_true']
    cases timed.exchange.isSent request.id <;> simp
  · refine (and_iff_left ?_).symm
    intro hmember
    obtain ⟨found, hfound, hunder⟩ := horderly.indexed _ _ (List.mem_filter.mp hmember).1
    rw [Option.some.inj (hget.symm.trans hfound)] at hkey
    exact hkey hunder

/-- Who is indexed after a call. -/
theorem contains_after (call : Call) :
    (timed.after call).exchange.pending.contains request.id ↔
      (timed.exchange.pending.contains request.id ∧ timed.evicts request call = false) ∨
        call = .insert request.id := by
  cases call with
  | insert id =>
      rw [after, contains_insert horderly hget, Call.insert.injEq]
      rfl
  | remove id =>
      rw [after, contains_remove horderly hget, evicts, beq_eq_false_iff_ne]
      simp
  | dispatch inbound =>
      rw [after, contains_dispatch horderly hget, evicts]
      simp
  | _ =>
      rw [pending_after rfl]
      simp [evicts]

end Orderly

section Swept

variable (horderly : timed.exchange.IsOrderly) (hswept : timed.exchange.IsSwept)

include horderly hswept

/-- What is known of a request after a call. -/
theorem get?_after (hget : timed.exchange.get? request.id = some request) (call : Call) :
    (timed.after call).exchange.get? request.id =
      if (timed.changed request call).isHeld ||
        (timed.after call).exchange.pending.contains request.id
      then some (timed.changed request call) else none := by
  obtain ⟨next, hyields, hafter⟩ := proceeds horderly hswept call
  rw [hafter, get?_collect hyields.isOrderly.nodup_ids, hyields.get?_of_some _ request hget,
    Option.filter_some, isReachable, id_changed]
  rfl

/-- What is delivered of a request by a call that keeps it or finds that it has ended. -/
theorem deliveriesTo_after (hget : timed.exchange.get? request.id = some request)
    (hknown : (timed.after call).exchange.get? request.id ≠ none ∨
      (timed.changed request call).state.isFinal) :
    (timed.after call).exchange.deliveriesTo request.id =
      timed.exchange.deliveriesTo request.id ++ timed.news request call := by
  obtain ⟨next, hyields, hafter⟩ := proceeds horderly hswept call
  have hnext := hyields.get?_of_some _ request hget
  rw [← hyields.deliveriesTo_eq _ request hget, hafter]
  rcases hknown with hsome | hfinal
  · rw [hafter, get?_collect hyields.isOrderly.nodup_ids, hnext, Option.filter_some] at hsome
    have hreachable : next.isReachable (timed.changed request call) := by
      by_contra hunreachable
      exact hsome (if_neg hunreachable)
    exact deliveriesTo_collect hyields.isOrderly.nodup_ids hnext hreachable
  · exact deliveriesTo_collect_of_isFinal hyields.isOrderly.nodup_ids hnext hfinal

/-- A call that neither ends nor touches a request and leaves its place alone. -/
theorem spares_after (hget : timed.exchange.get? request.id = some request)
    (hverdict : timed.verdict? request call = none)
    (htouched : timed.touched request call = request)
    (hevicts : timed.evicts request call = false) (hcall : call ≠ .insert request.id) :
    Spares timed.exchange (timed.after call).exchange request := by
  obtain ⟨hchanged, hnews⟩ := changed_of_verdict?_eq_none hverdict
  rw [htouched] at hchanged
  have hcontains : (timed.after call).exchange.pending.contains request.id =
      timed.exchange.pending.contains request.id := by
    rw [Bool.eq_iff_iff, contains_after horderly hget, or_iff_left hcall, and_iff_left hevicts]
  have hknown : (timed.after call).exchange.get? request.id = some request := by
    rw [get?_after horderly hswept hget, hchanged, hcontains, if_pos]
    have hreachable := hswept request (mem_of_get? hget).1
    rwa [isReachable] at hreachable
  refine ⟨hknown, hcontains, ?_⟩
  rw [deliveriesTo_after horderly hswept hget (Or.inl (by simp [hknown])), hnews,
    List.append_nil]

/-- A call that names another request does nothing to a request, unless it indexes the other one. -/
theorem spares_of_subject? (hget : timed.exchange.get? request.id = some request)
    (hsubject : call.subject? = some id) (hid : id ≠ request.id) (hcall : call ≠ .insert id) :
    Spares timed.exchange (timed.after call).exchange request := by
  cases call with
  | insert other => exact absurd (congrArg Call.insert (Option.some.inj hsubject)) hcall
  | create => exact absurd hsubject (by simp [Call.subject?])
  | dispatch => exact absurd hsubject (by simp [Call.subject?])
  | advance => exact absurd hsubject (by simp [Call.subject?])
  | _ =>
      obtain rfl := Option.some.inj hsubject
      apply spares_after horderly hswept hget <;> simp [verdict?, touched, evicts, hid]

theorem spares_create (hget : timed.exchange.get? request.id = some request) (endpoint : Endpoint)
    (message : Message) (responseCommand : String) (timeout : Nat) (recipient : Recipient) :
    Spares timed.exchange
      (timed.after (.create endpoint message responseCommand timeout recipient)).exchange
        request :=
  spares_after horderly hswept hget rfl rfl rfl (by simp)

/-- Indexing a request displaces those that are indexed under the same key with the same message,
and does nothing to others. -/
theorem respects_insert (hget : timed.exchange.get? request.id = some request)
    (hid : id ≠ request.id) :
    Respects timed.exchange (timed.after (.insert id)).exchange (some id) request := by
  rw [Respects]
  split_ifs with hdisplaces
  · have hverdict : timed.verdict? request (.insert id) = some .givenUp := if_pos hdisplaces
    obtain ⟨hchanged, hnews⟩ := changed_of_verdict? hverdict
    have hcontains : (timed.after (.insert id)).exchange.pending.contains request.id = false := by
      rw [← Bool.not_eq_true, contains_after horderly hget, evicts, hdisplaces]
      simp [hid]
    have hfinal : (timed.changed request (.insert id)).state.isFinal := by
      rw [hchanged]
      exact request.isFinal_settle rfl
    refine ⟨?_, hcontains, ?_⟩
    · rw [get?_after horderly hswept hget, hcontains, hchanged, Request.isHeld_settle,
        Bool.or_false]
      rfl
    · rw [deliveriesTo_after horderly hswept hget (Or.inr hfinal), hnews]
      rfl
  · have hkept : timed.exchange.displaces id request = false := Bool.eq_false_iff.mpr hdisplaces
    exact spares_after horderly hswept hget (if_neg hdisplaces) rfl hkept (by simp [hid])

/-! ## Calls one after the other -/

theorem isOrderly_afterAll (calls : List Call) :
    (timed.afterAll calls).exchange.IsOrderly ∧ (timed.afterAll calls).exchange.IsSwept := by
  induction calls generalizing timed with
  | nil => exact ⟨horderly, hswept⟩
  | cons call rest ih =>
      obtain ⟨hnextOrderly, hnextSwept⟩ := isOrderly_after horderly hswept call
      exact ih hnextOrderly hnextSwept

/-- Calls none of which does anything to a request do nothing to it. -/
theorem spares_afterAll (hget : timed.exchange.get? request.id = some request)
    (hcalls : ∀ call ∈ calls, ∀ between : Timed, between.exchange.IsOrderly →
      between.exchange.IsSwept → between.exchange.get? request.id = some request →
        Spares between.exchange (between.after call).exchange request) :
    Spares timed.exchange (timed.afterAll calls).exchange request := by
  induction calls generalizing timed with
  | nil => exact .refl hget
  | cons call rest ih =>
      rw [List.forall_mem_cons] at hcalls
      have hfirst := hcalls.1 timed horderly hswept hget
      obtain ⟨hnextOrderly, hnextSwept⟩ := isOrderly_after horderly hswept call
      exact hfirst.trans (ih hnextOrderly hnextSwept hfirst.get?_eq hcalls.2)

/-- Calls that name other requests, and index none of them, do nothing to a request. -/
theorem spares_of_subjects (hget : timed.exchange.get? request.id = some request)
    (hcalls : ∀ call ∈ calls, ∃ id, call.subject? = some id ∧ id ≠ request.id ∧
      call ≠ .insert id) :
    Spares timed.exchange (timed.afterAll calls).exchange request := by
  apply spares_afterAll horderly hswept hget
  intro call hcall between hbetween hbetweenSwept hknown
  obtain ⟨id, hsubject, hid, hinsert⟩ := hcalls call hcall
  exact spares_of_subject? hbetween hbetweenSwept hknown hsubject hid hinsert

end Swept

end Timed

end Muster
