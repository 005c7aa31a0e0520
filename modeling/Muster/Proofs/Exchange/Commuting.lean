import Muster.Proofs.Exchange.Filing

/-!
# Commuting

Calls under different keys do not meet.  A call does nothing to requests under other keys and leaves
their places in the index alone, and what it does under its own key depends on nothing else; so it
makes no difference which of two comes first, but for the turns in which requests begin to wait.
-/

namespace Muster

open Exchange

namespace Request

/-- The request as if it had begun to wait in another turn. -/
def inTurn (request : Request) (turn : Nat) : Request :=
  { request with turn }

@[simp]
theorem id_inTurn (request : Request) (turn : Nat) : (request.inTurn turn).id = request.id := rfl

@[simp]
theorem key_inTurn (request : Request) (turn : Nat) : (request.inTurn turn).key = request.key :=
  rfl

@[simp]
theorem message_inTurn (request : Request) (turn : Nat) :
    (request.inTurn turn).message = request.message := rfl

theorem settle_inTurn (request : Request) (turn : Nat) (state : RequestState) :
    (request.inTurn turn).settle state = (request.settle state).inTurn turn := by
  rw [settle, settle, apply_ite (inTurn · turn)]
  rfl

end Request

namespace Exchange

variable {exchange left between right : Exchange} {call : Call} {key : Request.Key}
  {id : RequestId} {request : Request}

/-- A call concerns requests under one key at most. -/
def Call.IsUnder (exchange : Exchange) (key : Request.Key) (call : Call) : Prop :=
  match call with
  | .dispatch inbound => (inbound.sender, inbound.message.key) = key
  | _ => ∃ id, call.subject? = some id ∧
    ∀ request, exchange.get? id = some request → request.key = key

theorem Call.isUnder_iff (hsubject : call.subject? = some id) :
    call.IsUnder exchange key ↔ ∀ request, exchange.get? id = some request → request.key = key := by
  cases call with
  | dispatch => exact absurd hsubject (by simp [subject?])
  | _ =>
      constructor
      · rintro ⟨_, hown, hkey⟩
        rwa [Option.some.inj (hsubject.symm.trans hown)]
      · intro hkey
        exact ⟨id, hsubject, hkey⟩

theorem Call.IsUnder.key_eq (hunder : call.IsUnder exchange key)
    (hsubject : call.subject? = some id) (hget : exchange.get? id = some request) :
    request.key = key :=
  (isUnder_iff hsubject).mp hunder request hget

/-- What one exchange knows of the requests under a key is known to another one as well, but for the
turns in which they began to wait. -/
def KnownTo (key : Request.Key) (left right : Exchange) : Prop :=
  ∀ id request, left.get? id = some request → request.key = key →
    ∃ turn, right.get? id = some (request.inTurn turn)

theorem KnownTo.refl (key : Request.Key) (exchange : Exchange) : KnownTo key exchange exchange :=
  fun _ request hget _ => ⟨request.turn, hget⟩

theorem KnownTo.trans (hfirst : KnownTo key left between) (hsecond : KnownTo key between right) :
    KnownTo key left right := by
  intro id request hget hkey
  obtain ⟨turn, hbetween⟩ := hfirst id request hget hkey
  exact hsecond id (request.inTurn turn) hbetween hkey

end Exchange

namespace Timed

/-- At one time the same requests under a key are in the same states, and they stand in the index in
the same order.  Only their turns may differ, which tell those apart that run out of time
together. -/
structure AgreeOn (key : Request.Key) (left right : Timed) : Prop where
  now_eq : left.now = right.now
  get_eq : left.exchange.pending.get key = right.exchange.pending.get key
  known : KnownTo key left.exchange right.exchange
  known_symm : KnownTo key right.exchange left.exchange

variable {timed left between right : Timed} {call : Call} {calls others : List Call}
  {key other : Request.Key} {id : RequestId} {request : Request}

theorem AgreeOn.refl (key : Request.Key) (timed : Timed) : AgreeOn key timed timed :=
  ⟨rfl, rfl, .refl key _, .refl key _⟩

theorem AgreeOn.symm (hagree : AgreeOn key left right) : AgreeOn key right left :=
  ⟨hagree.now_eq.symm, hagree.get_eq.symm, hagree.known_symm, hagree.known⟩

theorem AgreeOn.trans (hfirst : AgreeOn key left between) (hsecond : AgreeOn key between right) :
    AgreeOn key left right :=
  ⟨hfirst.now_eq.trans hsecond.now_eq, hfirst.get_eq.trans hsecond.get_eq,
    hfirst.known.trans hsecond.known, hsecond.known_symm.trans hfirst.known_symm⟩

/-! ## Calls under one key -/

theorem now_after (hunder : call.IsUnder timed.exchange key) :
    (timed.after call).now = timed.now := by
  cases call with
  | advance elapsed =>
      obtain ⟨_, hsubject, -⟩ := hunder
      exact absurd hsubject (by simp [Call.subject?])
  | _ => rfl

theorem get_after_of_ne (hunder : call.IsUnder timed.exchange key) (hother : other ≠ key) :
    (timed.after call).exchange.pending.get other = timed.exchange.pending.get other := by
  cases call with
  | insert id =>
      cases hget : timed.exchange.get? id with
      | none => rw [after, Exchange.insert, hget]
      | some request =>
          rw [after, pending_insert hget, Pending.get_set, hunder.key_eq rfl hget, if_neg hother]
  | remove id =>
      cases hget : timed.exchange.get? id with
      | none => rw [after, remove, hget]
      | some request =>
          rw [after, pending_remove hget, Pending.get_set, hunder.key_eq rfl hget, if_neg hother]
  | dispatch inbound => rw [after, pending_dispatch, Pending.get_set, hunder, if_neg hother]
  | _ => rw [pending_after rfl]

section Swept

variable (horderly : timed.exchange.IsOrderly) (hswept : timed.exchange.IsSwept)

include horderly hswept

/-- A call under a key makes no requests. -/
theorem known_before (hunder : call.IsUnder timed.exchange key)
    (hget : (timed.after call).exchange.get? id = some request) :
    ∃ earlier, timed.exchange.get? id = some earlier ∧ timed.changed earlier call = request := by
  rcases known_after horderly hswept hget with ⟨earlier, hearlier, hchanged, -⟩ | ⟨hmade, -⟩
  · exact ⟨earlier, hearlier, hchanged⟩
  · cases call with
    | create =>
        obtain ⟨_, hsubject, -⟩ := hunder
        exact absurd hsubject (by simp [Call.subject?])
    | _ => exact absurd hmade (by simp [made?])

/-- A call stays under its key. -/
theorem isUnder_after (hunder : call.IsUnder timed.exchange key) {next : Call}
    (hnext : next.IsUnder timed.exchange other) : call.IsUnder (timed.after next).exchange key := by
  cases hsubject : call.subject? with
  | some id =>
      rw [Call.isUnder_iff hsubject] at hunder ⊢
      intro request hget
      obtain ⟨earlier, hearlier, rfl⟩ := known_before horderly hswept hnext hget
      rw [(timed.changed_continues earlier next).key_eq]
      exact hunder earlier hearlier
  | none =>
      cases call with
      | dispatch inbound => exact hunder
      | _ =>
          obtain ⟨_, hid, -⟩ := hunder
          exact absurd (hsubject.symm.trans hid) (by simp)

/-- A call does nothing to a request under another key. -/
theorem spares_of_isUnder (hunder : call.IsUnder timed.exchange key)
    (hget : timed.exchange.get? request.id = some request) (hkey : request.key ≠ key) :
    Spares timed.exchange (timed.after call).exchange request := by
  have hother : ∀ id, call.subject? = some id → id ≠ request.id := by
    rintro id hsubject rfl
    exact hkey (hunder.key_eq hsubject hget)
  cases call with
  | dispatch inbound =>
      have hawaits : timed.exchange.awaits inbound request = false := by
        rw [Bool.eq_false_iff]
        intro hawaits
        rw [awaits, Bool.and_eq_true, Bool.and_eq_true, Bool.and_eq_true, beq_iff_eq,
          beq_iff_eq] at hawaits
        exact hkey ((Prod.ext hawaits.1.1.2 hawaits.1.2).trans hunder)
      exact spares_after horderly hswept hget (if_neg (Bool.eq_false_iff.mp hawaits)) rfl hawaits
        (by simp)
  | insert id =>
      have hdisplaces : timed.exchange.displaces id request = false := by
        rw [displaces]
        cases hlater : timed.exchange.get? id with
        | none => rfl
        | some later =>
            have hkeys : (request.key == later.key) = false :=
              beq_eq_false_iff_ne.mpr fun hsame => hkey (hsame.trans (hunder.key_eq rfl hlater))
            rw [Option.any_some, hkeys, Bool.and_false, Bool.false_and]
      have hrespects := respects_insert horderly hswept hget (hother id rfl)
      rwa [Respects, hdisplaces] at hrespects
  | _ =>
      obtain ⟨id, hsubject, -⟩ := hunder
      exact spares_of_subject? horderly hswept hget hsubject (hother id hsubject) (by simp)

/-- A call changes nothing under another key. -/
theorem agreeOn_after (hunder : call.IsUnder timed.exchange key) (hother : other ≠ key) :
    AgreeOn other (timed.after call) timed where
  now_eq := now_after hunder
  get_eq := get_after_of_ne hunder hother
  known := by
    rintro id request hget rfl
    obtain ⟨earlier, hearlier, rfl⟩ := known_before horderly hswept hunder hget
    obtain ⟨-, rfl⟩ := mem_of_get? hearlier
    rw [(timed.changed_continues earlier call).key_eq] at hother
    have hspares := spares_of_isUnder horderly hswept hunder hearlier hother
    rw [← Option.some.inj (hspares.get?_eq.symm.trans hget)]
    exact ⟨earlier.turn, hearlier⟩
  known_symm := by
    rintro id request hget rfl
    obtain ⟨-, rfl⟩ := mem_of_get? hget
    exact ⟨request.turn, (spares_of_isUnder horderly hswept hunder hget hother).get?_eq⟩

end Swept

/-! ## What a call depends on -/

theorem touched_inTurn (hnow : left.now = right.now) (request : Request) (turn : Nat)
    (call : Call) : ∃ next,
      right.touched (request.inTurn turn) call = (left.touched request call).inTurn next := by
  cases call with
  | markSent id =>
      refine ⟨turn, ?_⟩
      rw [touched, touched, apply_ite (Request.inTurn · turn), hnow]
      rfl
  | activate id =>
      by_cases hcreated : id = request.id ∧ request.state = .created
      · refine ⟨right.exchange.nextTurn, ?_⟩
        rw [touched, touched, if_pos hcreated, hnow]
        exact if_pos hcreated
      · refine ⟨turn, ?_⟩
        rw [touched, touched, if_neg hcreated]
        exact if_neg hcreated
  | release id =>
      refine ⟨turn, ?_⟩
      rw [touched, touched, apply_ite (Request.inTurn · turn)]
      rfl
  | _ => exact ⟨turn, rfl⟩

section Agreeing

variable (hagree : AgreeOn key left right) (hleft : left.exchange.IsOrderly)

include hagree hleft

theorem AgreeOn.hasMessage_eq (message : Message) (hid : id ∈ left.exchange.pending.get key) :
    left.exchange.hasMessage message id = right.exchange.hasMessage message id := by
  obtain ⟨request, hget, hkey⟩ := hleft.indexed key id hid
  obtain ⟨turn, hother⟩ := hagree.known id request hget hkey
  rw [hasMessage, hasMessage, hget, hother]
  rfl

theorem AgreeOn.isSent_eq (hid : id ∈ left.exchange.pending.get key) :
    left.exchange.isSent id = right.exchange.isSent id := by
  obtain ⟨request, hget, hkey⟩ := hleft.indexed key id hid
  obtain ⟨turn, hother⟩ := hagree.known id request hget hkey
  rw [isSent, isSent, hget, hother]
  rfl

omit hleft in
/-- A request under the key is unknown to both. -/
theorem AgreeOn.get?_eq_none (hother : call.IsUnder right.exchange key)
    (hsubject : call.subject? = some id) (hnone : left.exchange.get? id = none) :
    right.exchange.get? id = none := by
  rw [Option.eq_none_iff_forall_ne_some]
  intro request hget
  obtain ⟨turn, hknown⟩ := hagree.known_symm id request hget (hother.key_eq hsubject hget)
  rw [hnone] at hknown
  exact absurd hknown (by simp)

/-- What stands under the key after a call under it. -/
theorem AgreeOn.get_after (hunder : call.IsUnder left.exchange key)
    (hother : call.IsUnder right.exchange key) :
    (left.after call).exchange.pending.get key = (right.after call).exchange.pending.get key := by
  cases call with
  | insert id =>
      cases hget : left.exchange.get? id with
      | none =>
          have hunknown := hagree.get?_eq_none hother rfl hget
          rw [after, after, Exchange.insert, Exchange.insert, hget, hunknown]
          exact hagree.get_eq
      | some later =>
          obtain rfl := hunder.key_eq rfl hget
          obtain ⟨turn, hknown⟩ := hagree.known id later hget rfl
          rw [after, after, pending_insert hget, pending_insert hknown, Request.key_inTurn,
            Pending.get_set, Pending.get_set, if_pos rfl, if_pos rfl, ← hagree.get_eq,
            Request.message_inTurn]
          refine congrArg (· ++ [id]) (List.filter_congr fun other hid => ?_)
          rw [hagree.hasMessage_eq hleft later.message hid]
  | remove id =>
      cases hget : left.exchange.get? id with
      | none =>
          have hunknown := hagree.get?_eq_none hother rfl hget
          rw [after, after, remove, remove, hget, hunknown]
          exact hagree.get_eq
      | some named =>
          obtain rfl := hunder.key_eq rfl hget
          obtain ⟨turn, hknown⟩ := hagree.known id named hget rfl
          rw [after, after, pending_remove hget, pending_remove hknown, Request.key_inTurn,
            Pending.get_set, Pending.get_set, if_pos rfl, if_pos rfl, ← hagree.get_eq]
  | dispatch inbound =>
      obtain rfl := hunder
      rw [after, after, pending_dispatch, pending_dispatch, Pending.get_set, Pending.get_set,
        if_pos rfl, if_pos rfl, unsentUnder, unsentUnder, ← hagree.get_eq]
      refine List.filter_congr fun id hid => ?_
      rw [hagree.isSent_eq hleft hid]
  | _ =>
      rw [pending_after rfl, pending_after rfl]
      exact hagree.get_eq

section Request

variable (hright : right.exchange.IsOrderly)
  (hget : left.exchange.get? request.id = some request) (hkey : request.key = key)

include hright hget hkey

/-- A request stands in both indexes or in neither. -/
theorem AgreeOn.contains_eq :
    left.exchange.pending.contains request.id = right.exchange.pending.contains request.id := by
  obtain ⟨turn, hknown⟩ := hagree.known _ request hget hkey
  rw [Bool.eq_iff_iff, hleft.contains_iff hget, hright.contains_iff hknown, Request.key_inTurn,
    hkey, hagree.get_eq]

/-- Who is displaced depends only on what is indexed under the key. -/
theorem AgreeOn.displaces_eq (hunder : Call.IsUnder left.exchange key (.insert id))
    (hother : Call.IsUnder right.exchange key (.insert id)) :
    left.exchange.displaces id request = right.exchange.displaces id request := by
  rw [displaces, displaces, hagree.contains_eq hleft hright hget hkey]
  cases hlater : left.exchange.get? id with
  | none => rw [hagree.get?_eq_none hother rfl hlater]
  | some later =>
      obtain ⟨turn, hknown⟩ := hagree.known id later hlater (hunder.key_eq rfl hlater)
      rw [hknown]
      rfl

theorem AgreeOn.awaits_eq (inbound : Inbound) :
    left.exchange.awaits inbound request = right.exchange.awaits inbound request := by
  rw [awaits, awaits, hagree.contains_eq hleft hright hget hkey]

variable (hunder : call.IsUnder left.exchange key) (hother : call.IsUnder right.exchange key)

include hunder hother

theorem AgreeOn.verdict?_eq : left.verdict? request call = right.verdict? request call := by
  cases call with
  | insert id => rw [verdict?, verdict?, hagree.displaces_eq hleft hright hget hkey hunder hother]
  | dispatch inbound => rw [verdict?, verdict?, hagree.awaits_eq hleft hright hget hkey]
  | advance elapsed => rw [verdict?, verdict?, hagree.now_eq]
  | _ => rfl

theorem AgreeOn.evicts_eq : left.evicts request call = right.evicts request call := by
  cases call with
  | insert id => exact hagree.displaces_eq hleft hright hget hkey hunder hother
  | dispatch inbound => exact hagree.awaits_eq hleft hright hget hkey inbound
  | _ => rfl

/-- A call makes the same of a request, whatever its turn. -/
theorem AgreeOn.exists_changed (turn : Nat) : ∃ next,
    right.changed (request.inTurn turn) call = (left.changed request call).inTurn next := by
  have hverdict : right.verdict? (request.inTurn turn) call = left.verdict? request call := by
    rw [hagree.verdict?_eq hleft hright hget hkey hunder hother]
    cases call <;> rfl
  rw [changed, changed, hverdict]
  cases left.verdict? request call with
  | some verdict => exact ⟨turn, request.settle_inTurn turn verdict.state⟩
  | none => exact touched_inTurn hagree.now_eq request turn call

end Request

end Agreeing

section Swept

variable (hagree : AgreeOn key left right)
  (hleft : left.exchange.IsOrderly) (hleftSwept : left.exchange.IsSwept)
  (hright : right.exchange.IsOrderly) (hrightSwept : right.exchange.IsSwept)

include hagree hleft hleftSwept hright hrightSwept

/-- What is known of the requests under a key after a call depends only on what was known of them.
-/
theorem AgreeOn.known_after (hunder : call.IsUnder left.exchange key)
    (hother : call.IsUnder right.exchange key) :
    KnownTo key (left.after call).exchange (right.after call).exchange := by
  intro id request hget hkey
  obtain ⟨earlier, hearlier, rfl⟩ := known_before hleft hleftSwept hunder hget
  obtain ⟨-, rfl⟩ := mem_of_get? hearlier
  rw [(left.changed_continues earlier call).key_eq] at hkey
  obtain ⟨turn, hknown⟩ := hagree.known _ earlier hearlier hkey
  rw [← earlier.id_inTurn turn] at hknown
  obtain ⟨next, hchanged⟩ :=
    hagree.exists_changed hleft hright hearlier hkey hunder hother turn
  have hevicts : right.evicts (earlier.inTurn turn) call = left.evicts earlier call := by
    rw [hagree.evicts_eq hleft hright hearlier hkey hunder hother]
    cases call <;> rfl
  have hcontains : (right.after call).exchange.pending.contains earlier.id =
      (left.after call).exchange.pending.contains earlier.id := by
    have hbefore := hagree.contains_eq hleft hright hearlier hkey
    have hown := contains_after hright hknown call
    rw [hevicts, Request.id_inTurn, ← hbefore] at hown
    rw [Bool.eq_iff_iff, hown, contains_after hleft hearlier]
  have hafter := get?_after hright hrightSwept hknown call
  rw [hchanged, Request.id_inTurn, hcontains] at hafter
  rw [get?_after hleft hleftSwept hearlier] at hget
  refine ⟨next, hafter.trans ?_⟩
  split_ifs at hget with hreachable
  exact if_pos hreachable

/-- What a call does under its key depends on nothing else. -/
theorem AgreeOn.after (hunder : call.IsUnder left.exchange key)
    (hother : call.IsUnder right.exchange key) :
    AgreeOn key (left.after call) (right.after call) where
  now_eq := by
    rw [now_after hunder, now_after hother, hagree.now_eq]
  get_eq := hagree.get_after hleft hunder hother
  known := hagree.known_after hleft hleftSwept hright hrightSwept hunder hother
  known_symm := hagree.symm.known_after hright hrightSwept hleft hleftSwept hother hunder

theorem AgreeOn.afterAll (hunder : ∀ call ∈ calls, call.IsUnder left.exchange key)
    (hother : ∀ call ∈ calls, call.IsUnder right.exchange key) :
    AgreeOn key (left.afterAll calls) (right.afterAll calls) := by
  induction calls generalizing left right with
  | nil => exact hagree
  | cons call rest ih =>
      rw [List.forall_mem_cons] at hunder hother
      obtain ⟨hnext, hnextSwept⟩ := isOrderly_after hleft hleftSwept call
      obtain ⟨hthen, hthenSwept⟩ := isOrderly_after hright hrightSwept call
      exact ih (hagree.after hleft hleftSwept hright hrightSwept hunder.1 hother.1)
        hnext hnextSwept hthen hthenSwept
        (fun later hlater => isUnder_after hleft hleftSwept (hunder.2 later hlater) hunder.1)
        fun later hlater => isUnder_after hright hrightSwept (hother.2 later hlater) hother.1

end Swept

/-! ## Calls under different keys -/

section Swept

variable (horderly : timed.exchange.IsOrderly) (hswept : timed.exchange.IsSwept)

include horderly hswept

/-- Calls under one key leave what stands under another one. -/
theorem isUnder_afterAll (hunder : call.IsUnder timed.exchange key)
    (hcalls : ∀ next ∈ calls, next.IsUnder timed.exchange other) :
    call.IsUnder (timed.afterAll calls).exchange key := by
  induction calls generalizing timed with
  | nil => exact hunder
  | cons next rest ih =>
      rw [List.forall_mem_cons] at hcalls
      obtain ⟨hnext, hnextSwept⟩ := isOrderly_after horderly hswept next
      exact ih hnext hnextSwept (isUnder_after horderly hswept hunder hcalls.1)
        fun later hlater => isUnder_after horderly hswept (hcalls.2 later hlater) hcalls.1

/-- Calls under one key change nothing under another one. -/
theorem agreeOn_afterAll (hcalls : ∀ call ∈ calls, call.IsUnder timed.exchange key)
    (hother : other ≠ key) : AgreeOn other (timed.afterAll calls) timed := by
  induction calls generalizing timed with
  | nil => exact .refl other timed
  | cons call rest ih =>
      rw [List.forall_mem_cons] at hcalls
      obtain ⟨hnext, hnextSwept⟩ := isOrderly_after horderly hswept call
      have hrest : ∀ later ∈ rest, later.IsUnder (timed.after call).exchange key :=
        fun later hlater => isUnder_after horderly hswept (hcalls.2 later hlater) hcalls.1
      exact (ih hnext hnextSwept hrest).trans (agreeOn_after horderly hswept hcalls.1 hother)

variable (hcalls : ∀ call ∈ calls, call.IsUnder timed.exchange key)
  (hothers : ∀ call ∈ others, call.IsUnder timed.exchange other)

include hcalls hothers

/-- Calls under two keys commute as far as any third one can tell. -/
theorem agreeOn_swap_of_ne {shared : Request.Key} (hshared : shared ≠ other) :
    AgreeOn shared ((timed.afterAll calls).afterAll others)
      ((timed.afterAll others).afterAll calls) := by
  obtain ⟨hnext, hnextSwept⟩ := isOrderly_afterAll horderly hswept calls
  obtain ⟨hthen, hthenSwept⟩ := isOrderly_afterAll horderly hswept others
  have hstill : ∀ call ∈ others, call.IsUnder (timed.afterAll calls).exchange other :=
    fun call hcall => isUnder_afterAll horderly hswept (hothers call hcall) hcalls
  have hlater : ∀ call ∈ calls, call.IsUnder (timed.afterAll others).exchange key :=
    fun call hcall => isUnder_afterAll horderly hswept (hcalls call hcall) hothers
  have hlast := agreeOn_afterAll hnext hnextSwept hstill hshared
  have hfirst := agreeOn_afterAll horderly hswept hothers hshared
  refine hlast.trans ?_
  by_cases hown : shared = key
  · obtain rfl := hown
    exact hfirst.symm.afterAll horderly hswept hthen hthenSwept hcalls hlater
  · have hcallsAlone := agreeOn_afterAll horderly hswept hcalls hown
    have hcallsAfter := agreeOn_afterAll hthen hthenSwept hlater hown
    exact hcallsAlone.trans (hcallsAfter.trans hfirst).symm

/-- It makes no difference which calls come first. -/
theorem agreeOn_swap (hkeys : key ≠ other) (shared : Request.Key) :
    AgreeOn shared ((timed.afterAll calls).afterAll others)
      ((timed.afterAll others).afterAll calls) := by
  by_cases hshared : shared = other
  · have hne : shared ≠ key := fun hkey => hkeys (hkey.symm.trans hshared)
    exact (agreeOn_swap_of_ne horderly hswept hothers hcalls hne).symm
  · exact agreeOn_swap_of_ne horderly hswept hcalls hothers hshared

end Swept

/-- Whatever has been done with an exchange, each request in its index stands once and under its own
key, no two under one key carry the same message, and no key is kept without requests; whoever is
indexed then displaces those with its key and message, which have ended, and takes their place; and
calls under different keys may be exchanged for each other. -/
theorem run_files_requests (calls : List Call) :
    (run calls).exchange.IsFiled ∧ (∀ id, (run calls).Files id) ∧
      ∀ key other, key ≠ other → ∀ ours theirs,
        (∀ call ∈ ours, call.IsUnder (run calls).exchange key) →
        (∀ call ∈ theirs, call.IsUnder (run calls).exchange other) → ∀ shared,
          AgreeOn shared (((run calls).afterAll ours).afterAll theirs)
            (((run calls).afterAll theirs).afterAll ours) := by
  obtain ⟨horderly, hswept⟩ := isOrderly_run calls
  refine ⟨isFiled_run calls, files horderly hswept, ?_⟩
  intro key other hkeys ours theirs hours htheirs shared
  exact agreeOn_swap horderly hswept hours htheirs hkeys shared

def serverKey (command : String) : Request.Key :=
  (.loopback 28960, command)

/-- Of two requests with one message the later one is indexed twice; another one stands under a key
of its own. -/
def repeatedProbes : List Call :=
  [.create (.loopback 28960) ProbeKind.info.request "infoResponse" 100 .caller, .insert 0,
    .create (.loopback 28960) ⟨"getinfo", "again", ' '⟩ "infoResponse" 100 .caller, .insert 1,
    .create (.loopback 28960) ProbeKind.info.request "InfoResponse" 100 .caller, .insert 2,
    .insert 2, .create (.loopback 28960) ProbeKind.status.request "statusResponse" 100 .batch,
    .insert 3, .activate 1]

/-- The later of two requests with one message takes the place of the first; calls about either
pair can change places. -/
theorem run_files_requests_repeatedProbes :
    (run repeatedProbes).exchange.pending.buckets =
        [(serverKey "inforesponse", [1, 2]), (serverKey "statusresponse", [3])] ∧
      (run repeatedProbes).Files 2 ∧
      ((run repeatedProbes).exchange.insert 2).2 = 1 ∧
      AgreeOn (serverKey "inforesponse")
        (((run repeatedProbes).afterAll [.remove 2, .cancel 1]).afterAll [.activate 3, .insert 3])
        (((run repeatedProbes).afterAll [.activate 3, .insert 3]).afterAll
          [.remove 2, .cancel 1]) := by
  have hknown : ∀ id key, ((run repeatedProbes).exchange.get? id).map (·.key) = some key →
      ∀ request, (run repeatedProbes).exchange.get? id = some request → request.key = key := by
    intro id key hkey request hget
    rw [hget] at hkey
    exact Option.some.inj hkey
  have hours : ∀ call ∈ [Call.remove 2, .cancel 1],
      call.IsUnder (run repeatedProbes).exchange (serverKey "inforesponse") := by
    rw [List.forall_mem_cons, List.forall_mem_singleton]
    exact ⟨(Call.isUnder_iff rfl).mpr (hknown 2 _ (by decide +kernel)),
      (Call.isUnder_iff rfl).mpr (hknown 1 _ (by decide +kernel))⟩
  have htheirs : ∀ call ∈ [Call.activate 3, .insert 3],
      call.IsUnder (run repeatedProbes).exchange (serverKey "statusresponse") := by
    rw [List.forall_mem_cons, List.forall_mem_singleton]
    exact ⟨(Call.isUnder_iff rfl).mpr (hknown 3 _ (by decide +kernel)),
      (Call.isUnder_iff rfl).mpr (hknown 3 _ (by decide +kernel))⟩
  obtain ⟨-, hfiles, hswap⟩ := run_files_requests repeatedProbes
  exact ⟨by decide +kernel, hfiles 2, by decide +kernel,
    hswap _ _ (by decide) _ _ hours htheirs _⟩

end Timed

end Muster
