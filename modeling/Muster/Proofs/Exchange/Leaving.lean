import Muster.Proofs.Exchange.Bystanders

/-!
# Leaving an exchange

A request that is held is known until it is released.  The one who holds it can end it and take it
out of the index at any time, and then it has left: it does not come back unless it is indexed
again, whatever others do.
-/

namespace Muster

open Exchange

namespace Exchange

def IsHeld (exchange : Exchange) (id : RequestId) : Prop :=
  ∃ request, exchange.get? id = some request ∧ request.isHeld

def IsOver (exchange : Exchange) (id : RequestId) : Prop :=
  ∃ request, exchange.get? id = some request ∧ request.isHeld ∧ request.state.isFinal

/-- A request that was made has ended, or nobody knows of it any more, and it is not indexed. -/
structure HasLeft (exchange : Exchange) (id : RequestId) : Prop where
  isMade : id < exchange.nextId
  contains_eq : exchange.pending.contains id = false
  isFinal : ∀ request, exchange.get? id = some request → request.state.isFinal

def withdrawal (ids : List RequestId) : List Call :=
  ids.flatMap fun id => [.cancel id, .remove id]

variable {exchange : Exchange} {id : RequestId}

theorem IsOver.isHeld (hover : exchange.IsOver id) : exchange.IsHeld id := by
  obtain ⟨request, hget, hheld, -⟩ := hover
  exact ⟨request, hget, hheld⟩

theorem IsOver.hasLeft (horderly : exchange.IsOrderly) (hover : exchange.IsOver id)
    (hcontains : exchange.pending.contains id = false) : exchange.HasLeft id := by
  obtain ⟨request, hget, -, hfinal⟩ := hover
  refine ⟨lt_nextId_of_get? horderly.isNumbered hget, hcontains, ?_⟩
  intro other hother
  rwa [← Option.some.inj (hget.symm.trans hother)]

/-- What is done to withdraw requests. -/
theorem mem_withdrawal {ids : List RequestId} {call : Call} (hcall : call ∈ withdrawal ids) :
    ∃ id ∈ ids, call = .cancel id ∨ call = .remove id := by
  obtain ⟨id, hid, hpair⟩ := List.mem_flatMap.mp hcall
  exact ⟨id, hid, by simpa using hpair⟩

end Exchange

namespace Timed

variable {timed : Timed} {call : Call} {calls : List Call} {ids : List RequestId} {id : RequestId}
  (horderly : timed.exchange.IsOrderly) (hswept : timed.exchange.IsSwept)

include horderly hswept

/-! ## Holding -/

/-- Whoever holds a request finds it again after any call but the release of it. -/
theorem get?_after_of_isHeld {request : Request} (hget : timed.exchange.get? id = some request)
    (hheld : request.isHeld) (hcall : call ≠ .release id) :
    (timed.after call).exchange.get? id = some (timed.changed request call) ∧
      (timed.changed request call).isHeld := by
  obtain ⟨-, rfl⟩ := mem_of_get? hget
  rw [← isHeld_changed hcall] at hheld
  rw [get?_after horderly hswept hget, hheld, Bool.true_or, if_pos rfl]
  exact ⟨rfl, rfl⟩

theorem isHeld_after (hheld : timed.exchange.IsHeld id) (hcall : call ≠ .release id) :
    (timed.after call).exchange.IsHeld id := by
  obtain ⟨request, hget, hrequest⟩ := hheld
  exact ⟨_, get?_after_of_isHeld horderly hswept hget hrequest hcall⟩

theorem isOver_after (hover : timed.exchange.IsOver id) (hcall : call ≠ .release id) :
    (timed.after call).exchange.IsOver id := by
  obtain ⟨request, hget, hheld, hfinal⟩ := hover
  obtain ⟨hknown, hstays⟩ := get?_after_of_isHeld horderly hswept hget hheld hcall
  refine ⟨_, hknown, hstays, ?_⟩
  rw [(timed.changed_of_isFinal call hfinal).1]
  exact hfinal

/-- The one who holds a request can end it. -/
theorem isOver_of_target? (hheld : timed.exchange.IsHeld id) (htarget : call.target? = some id) :
    (timed.after call).exchange.IsOver id := by
  obtain ⟨request, hget, hrequest⟩ := hheld
  obtain ⟨-, hid⟩ := mem_of_get? hget
  have hcall : call ≠ .release id := by
    rintro rfl
    exact absurd htarget (by simp [Call.target?])
  have hverdict : ∃ verdict, timed.verdict? request call = some verdict := by
    rw [← hid] at htarget
    cases call with
    | complete other inbound => exact ⟨_, if_pos (Option.some.inj htarget)⟩
    | cancel other => exact ⟨_, if_pos (Option.some.inj htarget)⟩
    | fail other error => exact ⟨_, if_pos (Option.some.inj htarget)⟩
    | _ => exact absurd htarget (by simp [Call.target?])
  obtain ⟨verdict, hverdict⟩ := hverdict
  obtain ⟨hknown, hstays⟩ := get?_after_of_isHeld horderly hswept hget hrequest hcall
  refine ⟨_, hknown, hstays, ?_⟩
  rw [(changed_of_verdict? hverdict).1]
  exact request.isFinal_settle verdict.isFinal_state

omit hswept in
/-- The one who holds a request can take it out of the index. -/
theorem contains_after_remove (hheld : timed.exchange.IsHeld id) :
    (timed.after (.remove id)).exchange.pending.contains id = false := by
  obtain ⟨request, hget, -⟩ := hheld
  obtain ⟨-, rfl⟩ := mem_of_get? hget
  rw [← Bool.not_eq_true, contains_after horderly hget, evicts, beq_self_eq_true]
  simp

/-! ## Being gone -/

/-- A request that has left stays away until it is indexed again. -/
theorem hasLeft_after (hleft : timed.exchange.HasLeft id) (hcall : call ≠ .insert id) :
    (timed.after call).exchange.HasLeft id := by
  obtain ⟨hnext, -⟩ := isOrderly_after horderly hswept call
  have hmade : id < (timed.after call).exchange.nextId := by
    rw [nextId_after horderly hswept]
    exact Nat.lt_add_right _ hleft.isMade
  cases hafter : (timed.after call).exchange.get? id with
  | none => exact ⟨hmade, hnext.contains_eq_false hafter, by simp [hafter]⟩
  | some later =>
      rcases known_after horderly hswept hafter with ⟨request, hget, rfl, -⟩ | ⟨-, rfl, -⟩
      · obtain ⟨-, rfl⟩ := mem_of_get? hget
        have hfinal := hleft.isFinal request hget
        refine ⟨hmade, ?_, ?_⟩
        · rw [← Bool.not_eq_true, contains_after horderly hget, hleft.contains_eq]
          simp [hcall]
        · rintro later hlater
          rw [← Option.some.inj (hafter.symm.trans hlater),
            (timed.changed_of_isFinal call hfinal).1]
          exact hfinal
      · exact absurd hleft.isMade (Nat.lt_irrefl _)

/-! ## Calls one after the other -/

/-- What every call keeps but one, any calls keep among which that one is not. -/
theorem keeps_afterAll (holds : Exchange → Prop) {spared : Call}
    (hstep : ∀ {timed : Timed} {call : Call}, timed.exchange.IsOrderly → timed.exchange.IsSwept →
      holds timed.exchange → call ≠ spared → holds (timed.after call).exchange)
    (hholds : holds timed.exchange) (hcalls : spared ∉ calls) :
    holds (timed.afterAll calls).exchange := by
  induction calls generalizing timed with
  | nil => exact hholds
  | cons call rest ih =>
      rw [List.mem_cons, not_or] at hcalls
      obtain ⟨hnextOrderly, hnextSwept⟩ := isOrderly_after horderly hswept call
      exact ih hnextOrderly hnextSwept (hstep horderly hswept hholds (Ne.symm hcalls.1)) hcalls.2

/-- Requests that are withdrawn have ended and are not indexed. -/
theorem isOver_withdrawal (hid : id ∈ ids) (hheld : timed.exchange.IsHeld id) :
    (timed.afterAll (withdrawal ids)).exchange.IsOver id ∧
      (timed.afterAll (withdrawal ids)).exchange.pending.contains id = false := by
  induction ids generalizing timed with
  | nil => exact absurd hid List.not_mem_nil
  | cons first rest ih =>
      obtain ⟨horderlyOnce, hsweptOnce⟩ := isOrderly_after horderly hswept (.cancel first)
      obtain ⟨horderlyTwice, hsweptTwice⟩ := isOrderly_after horderlyOnce hsweptOnce (.remove first)
      by_cases hfirst : id = first
      · subst hfirst
        have hall : timed.afterAll (withdrawal (id :: rest)) =
            ((timed.after (.cancel id)).after (.remove id)).afterAll (withdrawal rest) := rfl
        have hended := isOver_of_target? horderly hswept hheld
          (show (Call.cancel id).target? = some id from rfl)
        have hremoved := isOver_after horderlyOnce hsweptOnce hended
          (show Call.remove id ≠ .release id by simp)
        have hgone := contains_after_remove horderlyOnce hended.isHeld
        have hlater : ∀ call ∈ withdrawal rest, call ≠ .release id ∧ call ≠ .insert id := by
          intro call hcall
          obtain ⟨other, -, rfl | rfl⟩ := mem_withdrawal hcall <;> simp
        rw [hall]
        refine ⟨keeps_afterAll horderlyTwice hsweptTwice (·.IsOver id) isOver_after hremoved
          fun hcall => (hlater _ hcall).1 rfl, ?_⟩
        exact (keeps_afterAll horderlyTwice hsweptTwice (·.HasLeft id) hasLeft_after
          (hremoved.hasLeft horderlyTwice hgone) fun hcall => (hlater _ hcall).2 rfl).contains_eq
      · have hstays := isHeld_after horderlyOnce hsweptOnce
          (isHeld_after horderly hswept hheld (show Call.cancel first ≠ .release id by simp))
          (show Call.remove first ≠ .release id by simp)
        exact ih horderlyTwice hsweptTwice (List.mem_of_ne_of_mem hfirst hid) hstays

omit horderly hswept

/-! ## Running out of time -/

theorem now_le_after (timed : Timed) (call : Call) : timed.now ≤ (timed.after call).now := by
  cases call with
  | advance elapsed => exact Nat.le_add_right timed.now elapsed
  | _ => exact Nat.le_refl timed.now

theorem now_mono {earlier : List Call} (hearlier : earlier <+: calls) :
    (run earlier).now ≤ (run calls).now := by
  obtain ⟨more, rfl⟩ := hearlier
  induction more using List.reverseRecOn with
  | nil => exact Nat.le_of_eq (by rw [List.append_nil])
  | append_singleton more call ih =>
      rw [← List.append_assoc, run_concat]
      exact Nat.le_trans ih (now_le_after _ call)

/-- A request that has begun to wait, or has ended before it could, does not go back. -/
theorem state_ne_created {earlier : List Call} {first request : Request}
    (hearlier : (run earlier).exchange.get? id = some first) (hstate : first.state ≠ .created)
    (hpart : earlier <+: calls) (hget : (run calls).exchange.get? id = some request) :
    request.state ≠ .created := by
  refine lasting_induction (motive := fun _ request => request.state ≠ .created) hearlier hstate ?_
    hpart hget
  intro calls call request _ _ _ _ hstate
  cases hverdict : (run calls).verdict? request call with
  | some verdict =>
      rw [(changed_of_verdict? hverdict).1]
      intro hcreated
      have hfinal := request.isFinal_settle verdict.isFinal_state
      rw [hcreated] at hfinal
      exact absurd hfinal Bool.false_ne_true
  | none =>
      rw [(changed_of_verdict?_eq_none hverdict).1]
      rcases (run calls).touched_cases request call with ⟨-, hcreated, -⟩ | ⟨hsame, -⟩
      · exact absurd hcreated hstate
      · rwa [hsame]

/-- A request has begun to wait, or has ended, once its time has been started. -/
theorem state_ne_created_of_activate {request : Request}
    (hget : ((run calls).after (.activate id)).exchange.get? id = some request) :
    request.state ≠ .created := by
  obtain ⟨horderly, hswept⟩ := isOrderly_run calls
  rcases known_after horderly hswept hget with ⟨earlier, hearlier, rfl, -⟩ | ⟨hmade, -⟩
  · obtain ⟨-, rfl⟩ := mem_of_get? hearlier
    rw [(changed_of_verdict?_eq_none rfl).1, touched]
    split_ifs with hcreated
    · simp [Request.activate]
    · exact fun hstate => hcreated ⟨rfl, hstate⟩
  · exact absurd hmade (by simp [made?])

/-- A request that has begun to wait is over once its time has passed. -/
theorem isOver_of_advance {request : Request} {elapsed : Nat}
    (hget : (run calls).exchange.get? id = some request) (hheld : request.isHeld)
    (hstate : request.state ≠ .created) (helapsed : request.timeout ≤ elapsed) :
    ((run calls).after (.advance elapsed)).exchange.IsOver id := by
  obtain ⟨horderly, hswept⟩ := isOrderly_run calls
  cases account_run hget with
  | created hcreated => exact absurd hcreated hstate
  | waiting _ begun hactivates hdeadline =>
      have hbegun := now_mono ((List.prefix_append begun _).trans hactivates.within)
      have hdue : request.isDue ((run calls).now + elapsed) := by
        rw [Request.isDue, hdeadline, Option.any_some]
        exact decide_eq_true (Nat.add_le_add hbegun helapsed)
      have hverdict : (run calls).verdict? request (.advance elapsed) = some .timedOut :=
        if_pos hdue
      have hcall : Call.advance elapsed ≠ .release id := by simp
      obtain ⟨hknown, hstays⟩ := get?_after_of_isHeld horderly hswept hget hheld hcall
      refine ⟨_, hknown, hstays, ?_⟩
      rw [(changed_of_verdict? hverdict).1]
      exact request.isFinal_settle rfl
  | ended _ _ _ verdict _ _ _ hended =>
      have hfinal : request.state.isFinal := hended ▸ verdict.isFinal_state
      exact isOver_after horderly hswept ⟨request, hget, hheld, hfinal⟩ (by simp)

/-- The one who holds a request has heard how it ended once it is over. -/
theorem deliveriesTo_ne_nil (hover : (run calls).exchange.IsOver id) :
    (run calls).exchange.deliveriesTo id ≠ [] := by
  obtain ⟨request, hget, -, hfinal⟩ := hover
  obtain ⟨-, rfl⟩ := mem_of_get? hget
  cases account_run hget with
  | created hstate =>
      rw [hstate] at hfinal
      exact absurd hfinal Bool.false_ne_true
  | waiting hstate =>
      rw [hstate] at hfinal
      exact absurd hfinal Bool.false_ne_true
  | ended _ _ _ _ _ _ _ _ _ hdeliveries =>
      rw [hdeliveries]
      exact List.cons_ne_nil _ _

end Timed

end Muster
