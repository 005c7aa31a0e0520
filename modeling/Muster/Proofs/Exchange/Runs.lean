import Mathlib.Data.List.Induction
import Muster.Proofs.Exchange.Calls

/-!
# Runs of an exchange

What is done with an exchange from its beginning.  Every request that is known after a run was made
by one of its calls, and has been changed since by each later call in turn; two induction principles
say so, one from the making of a request and one from any time at which it was known.
-/

namespace Muster.Timed

open Exchange

def start : Timed :=
  ⟨.empty, 0⟩

def run (calls : List Call) : Timed :=
  calls.foldl after start

variable {timed : Timed} {call : Call} {calls earlier : List Call} {id : RequestId}
  {request : Request}

theorem run_concat (calls : List Call) (call : Call) :
    run (calls ++ [call]) = (run calls).after call :=
  List.foldl_concat ..

/-! ## One call -/

theorem isOrderly_after (horderly : timed.exchange.IsOrderly) (hswept : timed.exchange.IsSwept)
    (call : Call) :
    (timed.after call).exchange.IsOrderly ∧ (timed.after call).exchange.IsSwept := by
  obtain ⟨next, hyields, hafter⟩ := proceeds horderly hswept call
  rw [hafter]
  exact ⟨hyields.isOrderly.collect, next.isSwept_collect⟩

theorem nextId_after (horderly : timed.exchange.IsOrderly) (hswept : timed.exchange.IsSwept)
    (call : Call) :
    (timed.after call).exchange.nextId =
      timed.exchange.nextId + (timed.made? call).toList.length := by
  obtain ⟨next, hyields, hafter⟩ := proceeds horderly hswept call
  rw [hafter]
  exact hyields.nextId_eq

/-- A new request is held, and has neither been sent nor a deadline. -/
theorem made?_eq_some (hmade : timed.made? call = some request) :
    request.id = timed.exchange.nextId ∧ request.isHeld ∧ request.state = .created ∧
      request.deadline = none ∧ request.sentAt = none ∧
      (timed.after call).exchange.delivered = timed.exchange.delivered := by
  cases call with
  | create endpoint message responseCommand timeout recipient =>
      obtain rfl := Option.some.inj hmade
      exact ⟨rfl, rfl, rfl, rfl, rfl, rfl⟩
  | _ => exact absurd hmade (by simp [made?])

/-- A request that is known after a call was known before or has just been made. -/
theorem known_after (horderly : timed.exchange.IsOrderly) (hswept : timed.exchange.IsSwept)
    (hget : (timed.after call).exchange.get? id = some request) :
    (∃ earlier, timed.exchange.get? id = some earlier ∧ timed.changed earlier call = request ∧
      (timed.after call).exchange.deliveriesTo id =
        timed.exchange.deliveriesTo id ++ timed.news earlier call) ∨
    (timed.made? call = some request ∧ id = timed.exchange.nextId ∧
      (timed.after call).exchange.deliveriesTo id = []) := by
  obtain ⟨next, hyields, hafter⟩ := proceeds horderly hswept call
  rw [hafter, get?_collect hyields.isOrderly.nodup_ids, Option.filter_eq_some_iff] at hget
  obtain ⟨hnext, hreachable⟩ := hget
  cases hbefore : timed.exchange.get? id with
  | none =>
      rw [hyields.get?_of_none id hbefore, Option.filter_eq_some_iff, beq_iff_eq] at hnext
      obtain ⟨hmade, rfl⟩ := hnext
      obtain ⟨hid, -, -, -, -, hdelivered⟩ := made?_eq_some hmade
      refine Or.inr ⟨hmade, hid, ?_⟩
      rw [deliveriesTo, hdelivered]
      exact horderly.deliveriesTo_eq_nil request.id (Nat.le_of_eq hid.symm)
  | some earlier =>
      have hchanged := hyields.get?_of_some id earlier hbefore
      refine Or.inl ⟨earlier, rfl, Option.some.inj (hchanged.symm.trans hnext), ?_⟩
      rw [hafter, deliveriesTo_collect hyields.isOrderly.nodup_ids hnext hreachable]
      exact hyields.deliveriesTo_eq id earlier hbefore

/-- A request that is held stays until it is released. -/
theorem held_after (horderly : timed.exchange.IsOrderly) (hswept : timed.exchange.IsSwept)
    (hget : timed.exchange.get? id = some request) (hheld : request.isHeld)
    (hcall : call ≠ .release id) :
    ∃ later, (timed.after call).exchange.get? id = some later ∧ later.isHeld := by
  obtain ⟨-, rfl⟩ := mem_of_get? hget
  obtain ⟨next, hyields, hafter⟩ := proceeds horderly hswept call
  rw [← isHeld_changed hcall] at hheld
  refine ⟨timed.changed request call, ?_, hheld⟩
  rw [hafter, get?_collect hyields.isOrderly.nodup_ids, hyields.get?_of_some _ request hget,
    Option.filter_some, if_pos]
  rw [isReachable, hheld, Bool.true_or]

/-- A request that is made is known under the next identifier. -/
theorem made_after (horderly : timed.exchange.IsOrderly) (hswept : timed.exchange.IsSwept)
    (hmade : timed.made? call = some request) :
    (timed.after call).exchange.get? timed.exchange.nextId = some request := by
  obtain ⟨hid, hheld, -⟩ := made?_eq_some hmade
  obtain ⟨next, hyields, hafter⟩ := proceeds horderly hswept call
  have hnone := get?_nextId horderly.isNumbered
  rw [hafter, get?_collect hyields.isOrderly.nodup_ids, hyields.get?_of_none _ hnone, hmade,
    Option.filter_some, if_pos (beq_iff_eq.mpr hid), Option.filter_some, if_pos]
  rw [isReachable, hheld, Bool.true_or]

/-! ## All calls -/

theorem isOrderly_run (calls : List Call) :
    (run calls).exchange.IsOrderly ∧ (run calls).exchange.IsSwept := by
  induction calls using List.reverseRecOn with
  | nil => exact ⟨isOrderly_empty, isSwept_empty⟩
  | append_singleton calls call ih =>
      rw [run_concat]
      exact isOrderly_after ih.1 ih.2 call

theorem nextId_mono (hearlier : earlier <+: calls) :
    (run earlier).exchange.nextId ≤ (run calls).exchange.nextId := by
  obtain ⟨more, rfl⟩ := hearlier
  induction more using List.reverseRecOn with
  | nil => exact Nat.le_of_eq (by rw [List.append_nil])
  | append_singleton more call ih =>
      obtain ⟨horderly, hswept⟩ := isOrderly_run (earlier ++ more)
      rw [← List.append_assoc, run_concat, nextId_after horderly hswept]
      exact Nat.le_trans ih (Nat.le_add_right _ _)

/-- A request that was made and never released is known. -/
theorem exists_of_not_released (hid : id < (run calls).exchange.nextId)
    (hheld : Call.release id ∉ calls) :
    ∃ request, (run calls).exchange.get? id = some request ∧ request.isHeld := by
  induction calls using List.reverseRecOn with
  | nil => exact absurd hid (Nat.not_lt_zero id)
  | append_singleton calls call ih =>
      obtain ⟨horderly, hswept⟩ := isOrderly_run calls
      rw [List.mem_append, List.mem_singleton, not_or] at hheld
      rw [run_concat] at hid ⊢
      by_cases hknown : id < (run calls).exchange.nextId
      · obtain ⟨request, hget, hrequest⟩ := ih hknown hheld.1
        exact held_after horderly hswept hget hrequest (Ne.symm hheld.2)
      · rw [nextId_after horderly hswept] at hid
        cases hmade : (run calls).made? call with
        | none =>
            rw [hmade] at hid
            exact absurd hid hknown
        | some request =>
            rw [hmade, Option.toList_some, List.length_singleton] at hid
            rw [Nat.le_antisymm (Nat.le_of_lt_succ hid) (Nat.not_lt.mp hknown)]
            obtain ⟨-, hrequest, -⟩ := made?_eq_some hmade
            exact ⟨request, made_after horderly hswept hmade, hrequest⟩

theorem changed_eq (hget : (run calls).exchange.get? id = some request)
    {later : Request} (hlater : (run (calls ++ [call])).exchange.get? id = some later) :
    (run calls).changed request call = later := by
  obtain ⟨horderly, hswept⟩ := isOrderly_run calls
  rw [run_concat] at hlater
  rcases known_after horderly hswept hlater with ⟨earlier, hearlier, hchanged, -⟩ | ⟨-, rfl, -⟩
  · rwa [Option.some.inj (hget.symm.trans hearlier)]
  · rw [get?_nextId horderly.isNumbered] at hget
    exact absurd hget (by simp)

/-- What holds of a request when it is made, and is kept by each call on a request that stays known,
holds of every request that is known. -/
theorem known_induction {motive : List Call → Request → Prop}
    (hmade : ∀ calls call request, (run calls).made? call = some request →
      (run (calls ++ [call])).exchange.get? request.id = some request →
      (run (calls ++ [call])).exchange.deliveriesTo request.id = [] →
      motive (calls ++ [call]) request)
    (hchanged : ∀ calls call request, (run calls).exchange.get? request.id = some request →
      (run (calls ++ [call])).exchange.get? request.id =
        some ((run calls).changed request call) →
      (run (calls ++ [call])).exchange.deliveriesTo request.id =
        (run calls).exchange.deliveriesTo request.id ++ (run calls).news request call →
      motive calls request → motive (calls ++ [call]) ((run calls).changed request call))
    (calls : List Call) {id : RequestId} {request : Request}
    (hget : (run calls).exchange.get? id = some request) : motive calls request := by
  induction calls using List.reverseRecOn generalizing id request with
  | nil => exact absurd hget (by simp [run, start, Exchange.get?, Exchange.empty])
  | append_singleton calls call ih =>
      obtain ⟨horderly, hswept⟩ := isOrderly_run calls
      obtain ⟨-, rfl⟩ := mem_of_get? hget
      have hafter := hget
      rw [run_concat] at hafter
      rcases known_after horderly hswept hafter with
        ⟨earlier, hearlier, rfl, hdeliveries⟩ | ⟨hnew, -, hdeliveries⟩
      · rw [id_changed] at hget hearlier hdeliveries
        rw [← run_concat] at hdeliveries
        exact hchanged calls call earlier hearlier hget hdeliveries (ih hearlier)
      · rw [← run_concat] at hdeliveries
        exact hmade calls call request hnew hget hdeliveries

/-- What holds of a request at some time, and is kept by each later call for as long as the request
stays known, holds of it at every later time at which it is known. -/
theorem lasting_induction {motive : List Call → Request → Prop} {earlier : List Call}
    {first : Request} (hearlier : (run earlier).exchange.get? id = some first)
    (hfirst : motive earlier first)
    (hchanged : ∀ calls call request, earlier <+: calls →
      (run calls).exchange.get? id = some request →
      (run (calls ++ [call])).exchange.get? id = some ((run calls).changed request call) →
      (run (calls ++ [call])).exchange.deliveriesTo id =
        (run calls).exchange.deliveriesTo id ++ (run calls).news request call →
      motive calls request → motive (calls ++ [call]) ((run calls).changed request call))
    (hpart : earlier <+: calls) (hget : (run calls).exchange.get? id = some request) :
    motive calls request := by
  have hstart : ∀ later request, earlier = later →
      (run later).exchange.get? id = some request → motive later request := by
    rintro later request rfl hlater
    rw [← Option.some.inj (hearlier.symm.trans hlater)]
    exact hfirst
  have hall : earlier <+: calls → request.id = id → motive calls request := by
    refine known_induction (motive := fun calls request =>
      earlier <+: calls → request.id = id → motive calls request) ?_ ?_ calls hget
    · rintro calls call made hmade hknown - hpart rfl
      rcases List.prefix_concat_iff.mp hpart with heq | hbefore
      · exact hstart _ made heq hknown
      · -- The identifier was given away before, so it is not given to the request that is made.
        have hlt := lt_nextId_of_get? (isOrderly_run earlier).1.isNumbered hearlier
        rw [(made?_eq_some hmade).1] at hlt
        exact absurd hlt (Nat.not_lt.mpr (nextId_mono hbefore))
    · intro calls call between hbetween hknown hdeliveries ih hpart hid
      rw [id_changed] at hid
      rw [hid] at hbetween hknown hdeliveries
      rcases List.prefix_concat_iff.mp hpart with heq | hbefore
      · exact hstart _ _ heq hknown
      · exact hchanged calls call between hbefore hbetween hknown hdeliveries (ih hbefore hid)
  exact hall hpart (mem_of_get? hget).2

end Muster.Timed
