import Muster.Proofs.Exchange.Runs

/-!
# Requests are resolved once

Whatever is done with an exchange, at most one call ends a request, and what was delivered of it by
then is the one outcome that this call determines, or nothing if there was no such call.  A request
runs out of time only after it began to wait and at the first moment at which its time is up.
-/

namespace Muster

open Exchange

namespace Exchange

def isOpen (exchange : Exchange) (id : RequestId) : Bool :=
  (exchange.get? id).any fun request => !request.state.isFinal

def hasEnded (exchange : Exchange) (id : RequestId) : Bool :=
  (exchange.get? id).any fun request => request.state.isFinal

def Call.target? : Call → Option RequestId
  | .complete id _ => some id
  | .cancel id => some id
  | .fail id _ => some id
  | _ => none

theorem isOpen_iff {exchange : Exchange} {id : RequestId} :
    exchange.isOpen id ↔
      ∃ request, exchange.get? id = some request ∧ request.state.isFinal = false := by
  cases hget : exchange.get? id <;> simp [isOpen, hget]

theorem hasEnded_iff {exchange : Exchange} {id : RequestId} :
    exchange.hasEnded id ↔
      ∃ request, exchange.get? id = some request ∧ request.state.isFinal := by
  cases hget : exchange.get? id <;> simp [hasEnded, hget]

end Exchange

namespace Timed

/-- What a call that concerns a single request answers: whether it did anything. -/
def succeeds (timed : Timed) : Call → Bool
  | .activate id => (timed.exchange.activate id timed.now).2
  | .complete id inbound => (timed.exchange.complete id inbound).2
  | .cancel id => (timed.exchange.cancel id).2
  | .fail id error => (timed.exchange.fail id error).2
  | _ => false

/-- In the course of `calls`, the call that comes after `earlier` ends the request. -/
structure Ends (calls : List Call) (id : RequestId) (earlier : List Call) (call : Call) :
    Prop where
  within : earlier ++ [call] <+: calls
  isOpen : (run earlier).exchange.isOpen id
  hasEnded : (run (earlier ++ [call])).exchange.hasEnded id

/-- In the course of `calls`, the request begins to wait after `earlier`. -/
structure Activates (calls : List Call) (id : RequestId) (earlier : List Call) : Prop where
  within : earlier ++ [.activate id] <+: calls
  succeeds : (run earlier).succeeds (.activate id)

/-- How a request came to the state that it has after `calls`. -/
structure Resolution (calls : List Call) (request : Request) : Prop where
  /-- No second call ends the request. -/
  unique : ∀ {earlier other call another}, Ends calls request.id earlier call →
    Ends calls request.id other another → earlier = other ∧ call = another
  /-- As long as no call ends it, it is open and nothing is delivered of it. -/
  unresolved : (∀ earlier call, ¬ Ends calls request.id earlier call) →
    request.state.isFinal = false ∧ (run calls).exchange.deliveriesTo request.id = []
  /-- The call that ends it determines its state and the one outcome that is delivered. -/
  resolved : ∀ {earlier call}, Ends calls request.id earlier call →
    ∃ before verdict, (run earlier).exchange.get? request.id = some before ∧
      (run earlier).verdict? before call = some verdict ∧ request.state = verdict.state ∧
      (run calls).exchange.deliveriesTo request.id =
        [⟨request.id, request.recipient, verdict.outcome⟩]
  /-- A call that is meant to end it tells whether it did. -/
  succeeds_iff : ∀ {earlier call}, earlier ++ [call] <+: calls →
    call.target? = some request.id →
      ((run earlier).succeeds call ↔ Ends calls request.id earlier call)
  /-- Once it has ended, neither its state nor what was delivered of it changes. -/
  lasting : ∀ {more later}, request.state.isFinal →
    (run (calls ++ more)).exchange.get? request.id = some later →
      later.state = request.state ∧ (run (calls ++ more)).exchange.deliveriesTo request.id =
        (run calls).exchange.deliveriesTo request.id
  /-- It runs out of time only if it began to wait, and not before its time was up. -/
  not_early : ∀ {earlier elapsed}, Ends calls request.id earlier (.advance elapsed) →
    ∃ begun, Activates earlier request.id begun ∧
      (run begun).now + request.timeout ≤ (run earlier).now + elapsed
  /-- It has run out of time once its time is up, if nothing else ended it until then. -/
  not_late : ∀ {begun earlier elapsed}, Activates earlier request.id begun →
    earlier ++ [.advance elapsed] <+: calls → (run earlier).exchange.isOpen request.id →
      (run begun).now + request.timeout ≤ (run earlier).now + elapsed →
        Ends calls request.id earlier (.advance elapsed)
  /-- If it ended before it began to wait, it never has a deadline and never begins to wait. -/
  unarmed : ∀ {earlier call}, Ends calls request.id earlier call →
    (∀ begun, ¬ Activates earlier request.id begun) →
      request.deadline = none ∧ ∀ begun, ¬ Activates calls request.id begun

variable {timed : Timed} {call another : Call} {calls earlier later other begun : List Call}
  {id : RequestId} {request first : Request} {verdict : Verdict}

theorem Ends.mono (hends : Ends earlier id other call) (hpart : earlier <+: later) :
    Ends later id other call :=
  ⟨hends.within.trans hpart, hends.isOpen, hends.hasEnded⟩

theorem Activates.mono (hactivates : Activates earlier id begun) (hpart : earlier <+: later) :
    Activates later id begun :=
  ⟨hactivates.within.trans hpart, hactivates.succeeds⟩

/-! ## Single calls -/

/-- Only its activation sets the deadline of a request. -/
theorem touched_cases (timed : Timed) (request : Request) (call : Call) :
    (call = .activate request.id ∧ request.state = .created ∧
      timed.touched request call = request.activate timed.exchange.nextTurn timed.now) ∨
    ((timed.touched request call).state = request.state ∧
      (timed.touched request call).deadline = request.deadline) := by
  cases call with
  | markSent id =>
      rw [touched]
      split_ifs <;> exact Or.inr ⟨rfl, rfl⟩
  | activate id =>
      rw [touched]
      split_ifs with hactivate
      · obtain ⟨rfl, hstate⟩ := hactivate
        exact Or.inl ⟨rfl, hstate, rfl⟩
      · exact Or.inr ⟨rfl, rfl⟩
  | release id =>
      rw [touched]
      split_ifs <;> exact Or.inr ⟨rfl, rfl⟩
  | _ => exact Or.inr ⟨rfl, rfl⟩

/-- A request that has ended stays as it is, and nothing more is delivered of it. -/
theorem changed_of_isFinal (timed : Timed) (call : Call) (hfinal : request.state.isFinal) :
    (timed.changed request call).state = request.state ∧
      (timed.changed request call).deadline = request.deadline ∧
      timed.news request call = [] := by
  cases hverdict : timed.verdict? request call with
  | some verdict =>
      obtain ⟨hchanged, hnews⟩ := changed_of_verdict? hverdict
      rw [hchanged, hnews, Request.settle_of_isFinal hfinal, Request.told_of_isFinal hfinal]
      exact ⟨rfl, rfl, rfl⟩
  | none =>
      obtain ⟨hchanged, hnews⟩ := changed_of_verdict?_eq_none hverdict
      rw [hchanged, hnews]
      rcases timed.touched_cases request call with ⟨-, hstate, -⟩ | ⟨hstate, hdeadline⟩
      · rw [hstate] at hfinal
        exact absurd hfinal (by decide)
      · exact ⟨hstate, hdeadline, rfl⟩

theorem activate_succeeds_iff :
    timed.succeeds (.activate id) ↔
      ∃ request, timed.exchange.get? id = some request ∧ request.state = .created := by
  rw [succeeds, activate]
  cases hget : timed.exchange.get? id with
  | none => simp
  | some request =>
      simp only [Option.some.injEq, exists_eq_left']
      split_ifs with hstate <;> simp [hstate]

/-- A call that is meant to end a request ends it if it is open. -/
theorem succeeds_of_target? (timed : Timed) (htarget : call.target? = some id) :
    (timed.succeeds call ↔ timed.exchange.isOpen id) ∧
      (timed.exchange.isOpen id → (timed.after call).exchange.hasEnded id) := by
  have hresolve : ∀ state outcome, state.isFinal →
      (((timed.exchange.resolve id state outcome).2 = true ↔ timed.exchange.isOpen id) ∧
        (timed.exchange.isOpen id →
          (timed.exchange.resolve id state outcome).1.hasEnded id)) := by
    intro state outcome hstate
    constructor
    · rcases timed.exchange.resolve_cases id state outcome with
        ⟨request, hget, hopen, heq⟩ | ⟨hfinal, heq⟩
      · rw [heq, isOpen_iff]
        exact iff_of_true rfl ⟨request, hget, hopen⟩
      · rw [heq, isOpen_iff]
        refine iff_of_false Bool.false_ne_true ?_
        rintro ⟨request, hget, hopen⟩
        rw [hfinal request hget] at hopen
        exact absurd hopen (by decide)
    · intro hopen
      obtain ⟨request, hget, -⟩ := isOpen_iff.mp hopen
      rw [hasEnded_iff, get?_resolve, if_pos rfl, hget]
      exact ⟨_, rfl, request.isFinal_settle hstate⟩
  cases call with
  | complete target inbound =>
      obtain rfl := Option.some.inj htarget
      exact hresolve .completed (.ok inbound) rfl
  | cancel target =>
      obtain rfl := Option.some.inj htarget
      exact hresolve .canceled (.error .canceled) rfl
  | fail target error =>
      obtain rfl := Option.some.inj htarget
      exact hresolve .failed (.error error) rfl
  | _ => exact absurd htarget (by simp [Call.target?])

/-! ## All calls -/

/-- What is known of a request at two times is known of it at all times between them. -/
theorem exists_between (hearlier : (run earlier).exchange.get? id = some first)
    (hget : (run calls).exchange.get? id = some request) (hbefore : earlier <+: later)
    (hafter : later <+: calls) : ∃ between, (run later).exchange.get? id = some between := by
  refine lasting_induction (motive := fun calls _ => ∀ later, earlier <+: later → later <+: calls →
    ∃ between, (run later).exchange.get? id = some between) hearlier ?_ ?_
    (hbefore.trans hafter) hget later hbefore hafter
  · intro later hbefore hafter
    obtain rfl := hafter.eq_of_length (Nat.le_antisymm hafter.length_le hbefore.length_le)
    exact ⟨first, hearlier⟩
  · intro calls call request _ _ hknown _ ih later hbefore hafter
    rcases List.prefix_concat_iff.mp hafter with rfl | hafter
    · exact ⟨_, hknown⟩
    · exact ih later hbefore hafter

theorem continues_lasting (hearlier : (run earlier).exchange.get? id = some first)
    (hpart : earlier <+: calls) (hget : (run calls).exchange.get? id = some request) :
    first.Continues request := by
  refine lasting_induction (motive := fun _ request => first.Continues request) hearlier
    (.refl first) ?_ hpart hget
  intro calls call request _ _ _ _ ih
  exact ih.trans ((run calls).changed_continues request call)

/-- Nothing more is delivered of a request that has ended. -/
theorem ended_lasting (hearlier : (run earlier).exchange.get? id = some first)
    (hfinal : first.state.isFinal) (hpart : earlier <+: calls)
    (hget : (run calls).exchange.get? id = some request) :
    request.state = first.state ∧
      (run calls).exchange.deliveriesTo id = (run earlier).exchange.deliveriesTo id := by
  refine lasting_induction (motive := fun calls request => request.state = first.state ∧
    (run calls).exchange.deliveriesTo id = (run earlier).exchange.deliveriesTo id) hearlier
    ⟨rfl, rfl⟩ ?_ hpart hget
  rintro calls call request _ _ _ hdeliveries ⟨hstate, hsame⟩
  obtain ⟨hkept, -, hnews⟩ := (run calls).changed_of_isFinal call (hstate ▸ hfinal)
  rw [hkept, hdeliveries, hnews, List.append_nil]
  exact ⟨hstate, hsame⟩

/-- A request that waits keeps its deadline for as long as it is open. -/
theorem waiting_lasting (hearlier : (run earlier).exchange.get? id = some first)
    (hwaiting : first.state = .waiting) (hpart : earlier <+: calls)
    (hget : (run calls).exchange.get? id = some request) (hopen : request.state.isFinal = false) :
    request.state = .waiting ∧ request.deadline = first.deadline := by
  refine lasting_induction (motive := fun _ request => request.state.isFinal = false →
    request.state = .waiting ∧ request.deadline = first.deadline) hearlier
    (fun _ => ⟨hwaiting, rfl⟩) ?_ hpart hget hopen
  intro calls call request _ _ _ _ ih hopen
  cases hverdict : (run calls).verdict? request call with
  | some verdict =>
      rw [(changed_of_verdict? hverdict).1, Request.isFinal_settle verdict.isFinal_state] at hopen
      exact absurd hopen (by decide)
  | none =>
      rw [(changed_of_verdict?_eq_none hverdict).1] at hopen ⊢
      rcases (run calls).touched_cases request call with
        ⟨-, hcreated, -⟩ | ⟨hstate, hdeadline⟩
      · have hsame := (ih (by rw [hcreated]; rfl)).1
        rw [hcreated] at hsame
        exact absurd hsame (by decide)
      · rw [hstate] at hopen ⊢
        rw [hdeadline]
        exact ih hopen

/-- After the call that ends a request it is never open again. -/
theorem Ends.not_isOpen (hends : Ends calls id earlier call) (hpart : earlier ++ [call] <+: later) :
    (run later).exchange.isOpen id = false := by
  rw [Bool.eq_false_iff]
  intro hopen
  obtain ⟨request, hget, hrequest⟩ := isOpen_iff.mp hopen
  obtain ⟨first, hfirst, hfinal⟩ := hasEnded_iff.mp hends.hasEnded
  rw [(ended_lasting hfirst hfinal hpart hget).1, hfinal] at hrequest
  exact absurd hrequest (by decide)

theorem Ends.unique (hends : Ends calls id earlier call) (hother : Ends calls id other another) :
    earlier = other ∧ call = another := by
  rcases Parts.concat_prefix_cases hends.within hother.within with hbefore | hafter | heq
  · have hopen := hother.isOpen
    rw [hends.not_isOpen hbefore] at hopen
    exact absurd hopen (by decide)
  · have hopen := hends.isOpen
    rw [hother.not_isOpen hafter] at hopen
    exact absurd hopen (by decide)
  · exact heq

/-- How far a request has come, and what brought it there. -/
inductive Account (calls : List Call) (request : Request) : Prop
  | created (hstate : request.state = .created) (hdeadline : request.deadline = none)
    (hdeliveries : (run calls).exchange.deliveriesTo request.id = [])
  | waiting (hstate : request.state = .waiting) (begun : List Call)
    (hactivates : Activates calls request.id begun)
    (hdeadline : request.deadline = some ((run begun).now + request.timeout))
    (hdeliveries : (run calls).exchange.deliveriesTo request.id = [])
  | ended (earlier : List Call) (call : Call) (before : Request) (verdict : Verdict)
    (hends : Ends calls request.id earlier call)
    (hbefore : (run earlier).exchange.get? request.id = some before)
    (hverdict : (run earlier).verdict? before call = some verdict)
    (hstate : request.state = verdict.state) (hdeadline : request.deadline = none)
    (hdeliveries : (run calls).exchange.deliveriesTo request.id =
      [⟨request.id, request.recipient, verdict.outcome⟩])

section Account

variable (hget : (run calls).exchange.get? request.id = some request)
  (hknown : (run (calls ++ [call])).exchange.get? request.id =
    some ((run calls).changed request call))
  (hdeliveries : (run (calls ++ [call])).exchange.deliveriesTo request.id =
    (run calls).exchange.deliveriesTo request.id ++ (run calls).news request call)

theorem Account.silent (haccount : Account calls request) (hopen : request.state.isFinal = false) :
    (run calls).exchange.deliveriesTo request.id = [] := by
  cases haccount with
  | created _ _ hsilent => exact hsilent
  | waiting _ _ _ _ hsilent => exact hsilent
  | ended _ _ _ verdict _ _ _ hstate =>
      rw [hstate, verdict.isFinal_state] at hopen
      exact absurd hopen (by decide)

include hget hknown hdeliveries

/-- The verdict on a request that was open is the last word on it. -/
theorem Account.conclude (haccount : Account calls request) (hopen : request.state.isFinal = false)
    (hverdict : (run calls).verdict? request call = some verdict) :
    Account (calls ++ [call]) ((run calls).changed request call) := by
  obtain ⟨hid, -, hrecipient, -⟩ := (run calls).changed_continues request call
  obtain ⟨hchanged, hnews⟩ := changed_of_verdict? hverdict
  rw [Request.settle_of_isOpen hopen] at hchanged
  rw [Request.told_of_isOpen hopen] at hnews
  have hends : Ends (calls ++ [call]) request.id calls call := by
    refine ⟨List.prefix_rfl, isOpen_iff.mpr ⟨request, hget, hopen⟩,
      hasEnded_iff.mpr ⟨_, hknown, ?_⟩⟩
    rw [hchanged]
    exact verdict.isFinal_state
  rw [haccount.silent hopen, hnews, List.nil_append] at hdeliveries
  refine .ended calls call request verdict ?_ ?_ hverdict ?_ ?_ ?_
  · rwa [hid]
  · rwa [hid]
  · rw [hchanged]
    rfl
  · rw [hchanged]
    rfl
  · rw [hid, hrecipient, hdeliveries]

omit hknown

theorem Account.touch (haccount : Account calls request) (hopen : request.state.isFinal = false)
    (hverdict : (run calls).verdict? request call = none) :
    Account (calls ++ [call]) ((run calls).changed request call) := by
  obtain ⟨hid, -, -, htimeout⟩ := (run calls).changed_continues request call
  obtain ⟨hchanged, hnews⟩ := changed_of_verdict?_eq_none hverdict
  rw [haccount.silent hopen, hnews, List.nil_append, ← hid] at hdeliveries
  rcases (run calls).touched_cases request call with ⟨rfl, hstate, htouched⟩ | ⟨hkept, hsame⟩
  · have hactivates : Activates (calls ++ [.activate request.id]) request.id calls :=
      ⟨List.prefix_rfl, activate_succeeds_iff.mpr ⟨request, hget, hstate⟩⟩
    refine .waiting ?_ calls ?_ ?_ hdeliveries
    · rw [hchanged, htouched]
      rfl
    · rwa [hid]
    · rw [htimeout, hchanged, htouched]
      rfl
  · rw [← hchanged] at hkept hsame
    cases haccount with
    | created hstate hdeadline =>
        exact .created (hkept.trans hstate) (hsame.trans hdeadline) hdeliveries
    | waiting hstate begun hactivates hdeadline =>
        refine .waiting (hkept.trans hstate) begun ?_ ?_ hdeliveries
        · rw [hid]
          exact hactivates.mono (List.prefix_append calls [call])
        · rw [htimeout, hsame, hdeadline]
    | ended _ _ _ verdict _ _ _ hstate =>
        rw [hstate, verdict.isFinal_state] at hopen
        exact absurd hopen (by decide)

omit hget

theorem Account.keep (haccount : Account calls request) (hfinal : request.state.isFinal) :
    Account (calls ++ [call]) ((run calls).changed request call) := by
  obtain ⟨hid, -, hrecipient, -⟩ := (run calls).changed_continues request call
  obtain ⟨hkept, hsame, hnews⟩ := (run calls).changed_of_isFinal call hfinal
  cases haccount with
  | created hstate =>
      rw [hstate] at hfinal
      exact absurd hfinal (by decide)
  | waiting hstate =>
      rw [hstate] at hfinal
      exact absurd hfinal (by decide)
  | ended earlier other before verdict hends hbefore hverdict hstate hdeadline hheard =>
      rw [hnews, List.append_nil, hheard] at hdeliveries
      refine .ended earlier other before verdict ?_ ?_ hverdict (hkept.trans hstate)
        (hsame.trans hdeadline) ?_
      · rw [hid]
        exact hends.mono (List.prefix_append calls [call])
      · rwa [hid]
      · rw [hid, hrecipient, hdeliveries]

end Account

theorem account_run (hget : (run calls).exchange.get? id = some request) :
    Account calls request := by
  refine known_induction (motive := Account) ?_ ?_ calls hget
  · intro calls call request hmade _ hdeliveries
    obtain ⟨-, -, hstate, hdeadline, -⟩ := made?_eq_some hmade
    exact .created hstate hdeadline hdeliveries
  · intro calls call request hget hknown hdeliveries ih
    cases hfinal : request.state.isFinal with
    | true => exact ih.keep hdeliveries hfinal
    | false =>
        cases hverdict : (run calls).verdict? request call with
        | some verdict => exact ih.conclude hget hknown hdeliveries hfinal hverdict
        | none => exact ih.touch hget hdeliveries hfinal hverdict

/-! ## Running out of time -/

theorem Activates.isCreated (hactivates : Activates calls id begun) :
    ∃ request, (run begun).exchange.get? id = some request ∧ request.state = .created :=
  activate_succeeds_iff.mp hactivates.succeeds

theorem changed_activate (hget : (run begun).exchange.get? id = some request)
    (hstate : request.state = .created) :
    (run begun).changed request (.activate id) =
      request.activate (run begun).exchange.nextTurn (run begun).now := by
  obtain ⟨-, rfl⟩ := mem_of_get? hget
  exact if_pos ⟨rfl, hstate⟩

/-- A request begins to wait before it ends. -/
theorem Activates.before_ends (hactivates : Activates calls id begun)
    (hends : Ends calls id earlier call) : begun ++ [.activate id] <+: earlier := by
  obtain ⟨request, hget, hstate⟩ := hactivates.isCreated
  rcases Parts.concat_prefix_cases hactivates.within hends.within with hbefore | hafter | heq
  · exact hbefore
  · have hopen : (run begun).exchange.isOpen id :=
      isOpen_iff.mpr ⟨request, hget, by rw [hstate]; rfl⟩
    rw [hends.not_isOpen hafter] at hopen
    exact absurd hopen (by decide)
  · obtain ⟨rfl, rfl⟩ := heq
    obtain ⟨later, hlater, hfinal⟩ := hasEnded_iff.mp hends.hasEnded
    rw [← changed_eq hget hlater, changed_activate hget hstate] at hfinal
    exact absurd hfinal Bool.false_ne_true

/-- Only a request that began to wait runs out of time, and not before its time is up. -/
theorem Ends.activated {elapsed : Nat} (hends : Ends calls id earlier (.advance elapsed)) :
    ∃ before begun, (run earlier).exchange.get? id = some before ∧ Activates earlier id begun ∧
      (run begun).now + before.timeout ≤ (run earlier).now + elapsed := by
  obtain ⟨before, hbefore, hopen⟩ := isOpen_iff.mp hends.isOpen
  obtain ⟨later, hlater, hfinal⟩ := hasEnded_iff.mp hends.hasEnded
  obtain ⟨-, rfl⟩ := mem_of_get? hbefore
  have hdue : before.isDue ((run earlier).now + elapsed) := by
    by_contra hnot
    have hnone : (run earlier).verdict? before (.advance elapsed) = none := if_neg hnot
    rw [← changed_eq hbefore hlater, (changed_of_verdict?_eq_none hnone).1] at hfinal
    rw [touched, hopen] at hfinal
    exact absurd hfinal (by decide)
  cases account_run hbefore with
  | created _ hdeadline => simp [Request.isDue, hdeadline] at hdue
  | waiting _ begun hactivates hdeadline =>
      refine ⟨before, begun, hbefore, hactivates, ?_⟩
      simpa [Request.isDue, hdeadline] using hdue
  | ended _ _ _ _ _ _ _ _ hdeadline => simp [Request.isDue, hdeadline] at hdue

/-- A request that waits and is still open when its time is up runs out of time. -/
theorem Activates.ends {elapsed : Nat} (hactivates : Activates earlier id begun)
    (hget : (run calls).exchange.get? id = some request)
    (hwithin : earlier ++ [.advance elapsed] <+: calls) (hopen : (run earlier).exchange.isOpen id)
    (htime : (run begun).now + request.timeout ≤ (run earlier).now + elapsed) :
    Ends calls id earlier (.advance elapsed) := by
  -- The deadline is set when the request begins to wait and stays until the request ends.
  have hearlier : earlier <+: calls := (List.prefix_append earlier _).trans hwithin
  obtain ⟨before, hbefore, hbeforeOpen⟩ := isOpen_iff.mp hopen
  obtain ⟨created, hcreated, hstate⟩ := hactivates.isCreated
  obtain ⟨first, hfirst⟩ := exists_between hcreated hbefore (List.prefix_append begun _)
    hactivates.within
  obtain ⟨later, hlater⟩ := exists_between hbefore hget (List.prefix_append earlier _) hwithin
  have hwaits : first.state = .waiting ∧
      first.deadline = some ((run begun).now + created.timeout) := by
    rw [← changed_eq hcreated hfirst, changed_activate hcreated hstate]
    exact ⟨rfl, rfl⟩
  have hbegun : begun <+: earlier := (List.prefix_append begun _).trans hactivates.within
  have htimeout := (continues_lasting hcreated (hbegun.trans hearlier) hget).timeout_eq
  obtain ⟨-, hdeadline⟩ := waiting_lasting hfirst hwaits.1 hactivates.within hbefore hbeforeOpen
  have hdue : before.isDue ((run earlier).now + elapsed) := by
    rw [Request.isDue, hdeadline, hwaits.2, ← htimeout, Option.any_some]
    exact decide_eq_true htime
  have hverdict : (run earlier).verdict? before (.advance elapsed) = some .timedOut := if_pos hdue
  refine ⟨hwithin, hopen, hasEnded_iff.mpr ⟨later, hlater, ?_⟩⟩
  rw [← changed_eq hbefore hlater, (changed_of_verdict? hverdict).1]
  exact before.isFinal_settle rfl

/-! ## Resolutions -/

/-- A request is open as long as no call has ended it. -/
theorem Account.open_of_not_ends (haccount : Account calls request)
    (hnone : ∀ earlier call, ¬ Ends calls request.id earlier call) :
    request.state.isFinal = false := by
  cases haccount with
  | created hstate => rw [hstate]; rfl
  | waiting hstate => rw [hstate]; rfl
  | ended earlier call _ _ hends => exact absurd hends (hnone earlier call)

/-- The call that ended a request decided its state and its only delivery. -/
theorem Ends.resolved (hget : (run calls).exchange.get? request.id = some request)
    (hends : Ends calls request.id earlier call) :
    ∃ before verdict, (run earlier).exchange.get? request.id = some before ∧
      (run earlier).verdict? before call = some verdict ∧ request.state = verdict.state ∧
      (run calls).exchange.deliveriesTo request.id =
        [⟨request.id, request.recipient, verdict.outcome⟩] := by
  have hfinal : request.state.isFinal ≠ false := by
    intro hopen
    have hisOpen := isOpen_iff.mpr ⟨request, hget, hopen⟩
    rw [hends.not_isOpen hends.within] at hisOpen
    exact absurd hisOpen (by decide)
  cases account_run hget with
  | created hstate => exact absurd (by rw [hstate]; rfl) hfinal
  | waiting hstate => exact absurd (by rw [hstate]; rfl) hfinal
  | ended other another before verdict hother hbefore hverdict hstate _ hdeliveries =>
      obtain ⟨rfl, rfl⟩ := hends.unique hother
      exact ⟨before, verdict, hbefore, hverdict, hstate, hdeliveries⟩

/-- A request that ended before it was activated never had a deadline. -/
theorem Ends.unarmed (hget : (run calls).exchange.get? request.id = some request)
    (hends : Ends calls request.id earlier call)
    (hnever : ∀ begun, ¬ Activates earlier request.id begun) :
    request.deadline = none ∧ ∀ begun, ¬ Activates calls request.id begun := by
  have hnone : ∀ begun, ¬ Activates calls request.id begun := fun begun hactivates =>
    hnever begun ⟨hactivates.before_ends hends, hactivates.succeeds⟩
  refine ⟨?_, hnone⟩
  cases account_run hget with
  | created _ hdeadline => exact hdeadline
  | waiting _ begun hactivates => exact absurd hactivates (hnone begun)
  | ended _ _ _ _ _ _ _ _ hdeadline => exact hdeadline

/-- Every request that is known came to its state in the one way that the calls on it allow, and a
request that was made is known for as long as it has not been released. -/
theorem resolves_once (calls : List Call) :
    (∀ id < (run calls).exchange.nextId, Call.release id ∉ calls →
      ∃ request, (run calls).exchange.get? id = some request) ∧
    ∀ id request, (run calls).exchange.get? id = some request → Resolution calls request := by
  constructor
  · intro id hid hheld
    obtain ⟨request, hget, -⟩ := exists_of_not_released hid hheld
    exact ⟨request, hget⟩
  intro id request hget
  obtain ⟨-, rfl⟩ := mem_of_get? hget
  have haccount := account_run hget
  constructor
  case unique => exact fun hends hother => hends.unique hother
  case unresolved =>
    intro hnone
    have hopen := haccount.open_of_not_ends hnone
    exact ⟨hopen, haccount.silent hopen⟩
  case resolved => exact fun hends => hends.resolved hget
  case succeeds_iff =>
    intro earlier call hwithin htarget
    obtain ⟨hsucceeds, hended⟩ := succeeds_of_target? (run earlier) htarget
    rw [hsucceeds]
    refine ⟨fun hopen => ⟨hwithin, hopen, ?_⟩, fun hends => hends.isOpen⟩
    rw [run_concat]
    exact hended hopen
  case lasting =>
    intro more later hfinal hlater
    exact ended_lasting hget hfinal (List.prefix_append calls more) hlater
  case not_early =>
    intro earlier elapsed hends
    obtain ⟨before, begun, hbefore, hactivates, htime⟩ := hends.activated
    have hearlier : earlier <+: calls := (List.prefix_append earlier _).trans hends.within
    have htimeout := (continues_lasting hbefore hearlier hget).timeout_eq
    exact ⟨begun, hactivates, htimeout ▸ htime⟩
  case not_late =>
    intro begun earlier elapsed hactivates hwithin hopen htime
    exact hactivates.ends hget hwithin hopen htime
  case unarmed => exact fun hends hnever => hends.unarmed hget hnever

/-- Two requests for the same; the first is answered in time, the second is never sent off and runs
out of time. -/
def raced : List Call :=
  [.create (.loopback 28960) ProbeKind.info.request "infoResponse" 100 .caller, .insert 0,
    .markSent 0, .activate 0,
    .create (.loopback 28960) ProbeKind.info.request "infoResponse" 50 .batch, .activate 1,
    .advance 40, .dispatch ⟨.loopback 28960, ⟨"INFOresponse", "", ' '⟩, 40⟩, .cancel 0,
    .advance 20, .complete 1 ⟨.loopback 28960, ⟨"infoResponse", "", ' '⟩, 60⟩]

/-- Both requests come to an end: one by its answer, the other by running out of time unsent. -/
theorem resolves_once_raced :
    0 < (run raced).exchange.nextId ∧ Call.release 0 ∉ raced ∧
    (run raced).exchange.requests.map (·.state) = [.completed, .canceled] ∧
    ∃ request, (run raced).exchange.get? 0 = some request ∧ Resolution raced request := by
  have hid : 0 < (run raced).exchange.nextId := by decide
  have hheld : Call.release 0 ∉ raced := by simp [raced]
  obtain ⟨hknown, hresolution⟩ := resolves_once raced
  obtain ⟨request, hget⟩ := hknown 0 hid hheld
  exact ⟨hid, hheld, by rfl, request, hget, hresolution 0 request hget⟩

end Timed

end Muster
