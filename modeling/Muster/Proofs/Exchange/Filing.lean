import Muster.Proofs.Exchange.Bystanders

/-!
# Filing

How requests are filed in the index.  Whatever is done with an exchange, each indexed request stands
once, and under its own key; no two requests under one key carry the same message; and no key is
kept without requests.  A request that is indexed takes the place of all that have its key and carry
its message, itself among them, and these have ended then.
-/

namespace Muster

open Exchange

namespace Exchange

variable {exchange : Exchange} {id : RequestId} {request : Request}

/-- No two requests that are indexed under one key carry the same message. -/
def IsDistinct (exchange : Exchange) : Prop :=
  ∀ first second, exchange.get? first.id = some first → exchange.get? second.id = some second →
    exchange.pending.contains first.id → exchange.pending.contains second.id →
    first.key = second.key → first.message = second.message → first.id = second.id

/-- How requests are filed in the index. -/
structure IsFiled (exchange : Exchange) : Prop where
  /-- Each request that is indexed stands under its own key. -/
  own_key : ∀ bucket ∈ exchange.pending.buckets, ∀ id ∈ bucket.2,
    ∃ request, exchange.get? id = some request ∧ request.key = bucket.1
  isKeyed : exchange.pending.IsKeyed
  nodup_ids : exchange.pending.ids.Nodup
  /-- No two requests under one key carry the same message. -/
  id_eq_of_message_eq : ∀ bucket ∈ exchange.pending.buckets, ∀ first ∈ bucket.2,
    ∀ second ∈ bucket.2, ∀ request other, exchange.get? first = some request →
      exchange.get? second = some other → request.message = other.message → first = second
  isPruned : exchange.pending.IsPruned
  isEmpty_iff : exchange.pending.isEmpty ↔ exchange.pending.size = 0

theorem isDistinct_empty : empty.IsDistinct := by
  intro first _ hfirst
  exact absurd hfirst (by simp [get?, empty])

/-- An orderly index is filed by the keys of its requests. -/
theorem IsOrderly.isFiled (horderly : exchange.IsOrderly) (hdistinct : exchange.IsDistinct)
    (hpruned : exchange.pending.IsPruned) : exchange.IsFiled where
  own_key := by
    intro bucket hbucket id hid
    rw [← Pending.get_of_mem horderly.isKeyed hbucket] at hid
    exact horderly.indexed bucket.1 id hid
  isKeyed := horderly.isKeyed
  nodup_ids := by
    refine Pending.nodup_ids horderly.isKeyed horderly.nodup_get ?_
    intro key other id hkey hother
    obtain ⟨request, hget, rfl⟩ := horderly.indexed key id hkey
    obtain ⟨found, hfound, rfl⟩ := horderly.indexed other id hother
    rw [Option.some.inj (hget.symm.trans hfound)]
  id_eq_of_message_eq := by
    intro bucket hbucket first hfirst second hsecond request other hrequest hother hmessage
    rw [← Pending.get_of_mem horderly.isKeyed hbucket] at hfirst hsecond
    have hfirstIn := (Pending.contains_iff horderly.isKeyed).mpr ⟨_, hfirst⟩
    have hsecondIn := (Pending.contains_iff horderly.isKeyed).mpr ⟨_, hsecond⟩
    obtain ⟨found, hfound, hkey⟩ := horderly.indexed _ first hfirst
    obtain rfl := Option.some.inj (hrequest.symm.trans hfound)
    obtain ⟨found, hfound, hotherKey⟩ := horderly.indexed _ second hsecond
    obtain rfl := Option.some.inj (hother.symm.trans hfound)
    obtain ⟨-, rfl⟩ := mem_of_get? hrequest
    obtain ⟨-, rfl⟩ := mem_of_get? hother
    exact hdistinct request other hrequest hother hfirstIn hsecondIn (hkey.trans hotherKey.symm)
      hmessage
  isPruned := hpruned
  isEmpty_iff := Pending.isEmpty_iff hpruned

/-- One request takes the places of all that it displaces. -/
theorem size_insert (horderly : exchange.IsOrderly) (hget : exchange.get? id = some request) :
    (exchange.insert id).1.pending.size + (exchange.insert id).2 = exchange.pending.size + 1 := by
  have hdisplaced : (exchange.insert id).2 =
      ((exchange.pending.get request.key).filter (exchange.hasMessage request.message)).length := by
    rw [insert, hget]
  have hpresent := List.length_eq_length_filter_add (l := exchange.pending.get request.key)
    (exchange.hasMessage request.message)
  have hsize := Pending.size_set horderly.isKeyed request.key
    (((exchange.pending.get request.key).filter fun other =>
      !exchange.hasMessage request.message other) ++ [id])
  rw [List.length_append, List.length_singleton] at hsize
  rw [pending_insert hget, hdisplaced]
  omega

end Exchange

namespace Timed

variable {timed : Timed} {call : Call} {id : RequestId} {request : Request}

/-- What comes of a request that another one, or itself, displaces. -/
structure Displaced (timed : Timed) (id : RequestId) (request : Request) : Prop where
  isFinal : (request.settle .canceled).state.isFinal
  /-- It stays known if it is held or if it is the one that is indexed. -/
  get?_eq : (timed.after (.insert id)).exchange.get? request.id =
    if request.isHeld || id == request.id then some (request.settle .canceled) else none
  deliveriesTo_eq : (timed.after (.insert id)).exchange.deliveriesTo request.id =
    timed.exchange.deliveriesTo request.id ++ request.told (.error .canceled)

/-- What comes of indexing a request. -/
structure Files (timed : Timed) (id : RequestId) : Prop where
  count_eq : (timed.exchange.insert id).2 =
    (timed.exchange.requests.filter (timed.exchange.displaces id)).length
  size_eq : ∀ request, timed.exchange.get? id = some request →
    (timed.after (.insert id)).exchange.pending.size + (timed.exchange.insert id).2 =
      timed.exchange.pending.size + 1
  contains : ∀ request, timed.exchange.get? id = some request →
    (timed.after (.insert id)).exchange.pending.contains id
  displaced : ∀ request, timed.exchange.get? request.id = some request →
    timed.exchange.displaces id request → timed.Displaced id request

theorem message_changed (timed : Timed) (request : Request) (call : Call) :
    (timed.changed request call).message = request.message := by
  rw [changed]
  cases timed.verdict? request call with
  | some verdict => exact request.message_settle verdict.state
  | none =>
      cases call with
      | markSent id =>
          rw [touched]
          split_ifs <;> rfl
      | activate id =>
          rw [touched]
          split_ifs <;> rfl
      | release id =>
          rw [touched]
          split_ifs <;> rfl
      | _ => rfl

section Swept

variable (horderly : timed.exchange.IsOrderly) (hswept : timed.exchange.IsSwept)

include horderly hswept

/-- Whoever is indexed after a call was known before, and either was indexed and was not taken out
or has just been indexed. -/
theorem exists_of_contains_after (hget : (timed.after call).exchange.get? id = some request)
    (hcontains : (timed.after call).exchange.pending.contains id) :
    ∃ earlier, timed.exchange.get? earlier.id = some earlier ∧ earlier.id = id ∧
      earlier.key = request.key ∧ earlier.message = request.message ∧
      ((timed.exchange.pending.contains earlier.id ∧ timed.evicts earlier call = false) ∨
        call = .insert earlier.id) := by
  rcases known_after horderly hswept hget with ⟨earlier, hearlier, rfl, -⟩ | ⟨hmade, rfl, -⟩
  · obtain ⟨-, rfl⟩ := mem_of_get? hearlier
    have hkey := (timed.changed_continues earlier call).key_eq
    have hmessage := timed.message_changed earlier call
    exact ⟨earlier, hearlier, rfl, hkey.symm, hmessage.symm,
      (contains_after horderly hearlier call).mp hcontains⟩
  · -- A request that has just been made is not indexed.
    have hpending : (timed.after call).exchange.pending = timed.exchange.pending := by
      cases call with
      | create => rfl
      | _ => exact absurd hmade (by simp [made?])
    have hunknown := get?_nextId horderly.isNumbered
    rw [hpending, horderly.contains_eq_false hunknown] at hcontains
    exact absurd hcontains Bool.false_ne_true

theorem isDistinct_after (hdistinct : timed.exchange.IsDistinct) (call : Call) :
    (timed.after call).exchange.IsDistinct := by
  -- A request displaces those with its key and message that are indexed when it is.
  have hnew : ∀ earlier other : Request, timed.exchange.get? earlier.id = some earlier →
      earlier.key = other.key → earlier.message = other.message →
      timed.exchange.pending.contains other.id → timed.exchange.displaces earlier.id other := by
    intro earlier other hearlier hkey hmessage hcontains
    rw [displaces, hearlier, Option.any_some, hcontains, hkey, hmessage, beq_self_eq_true,
      beq_self_eq_true]
    rfl
  intro first second hfirst hsecond hfirstIn hsecondIn hkey hmessage
  obtain ⟨one, hone, honeId, honeKey, honeMessage, honeIn⟩ :=
    exists_of_contains_after horderly hswept hfirst hfirstIn
  obtain ⟨two, htwo, htwoId, htwoKey, htwoMessage, htwoIn⟩ :=
    exists_of_contains_after horderly hswept hsecond hsecondIn
  rw [← honeKey, ← htwoKey] at hkey
  rw [← honeMessage, ← htwoMessage] at hmessage
  rw [← honeId, ← htwoId]
  rcases honeIn with ⟨honeIn, honeStays⟩ | hcall
  · rcases htwoIn with ⟨htwoIn, -⟩ | hcall
    · exact hdistinct one two hone htwo honeIn htwoIn hkey hmessage
    · have hdisplaces := hnew two one htwo hkey.symm hmessage.symm honeIn
      rw [hcall, evicts, hdisplaces] at honeStays
      exact absurd honeStays (by decide)
  · rcases htwoIn with ⟨htwoIn, htwoStays⟩ | hagain
    · have hdisplaces := hnew one two hone hkey hmessage htwoIn
      rw [hcall, evicts, hdisplaces] at htwoStays
      exact absurd htwoStays (by decide)
    · exact Call.insert.inj (hcall.symm.trans hagain)

end Swept

theorem isPruned_after (hpruned : timed.exchange.pending.IsPruned) (call : Call) :
    (timed.after call).exchange.pending.IsPruned := by
  cases call with
  | insert id =>
      cases hget : timed.exchange.get? id with
      | none =>
          rw [after, Exchange.insert, hget]
          exact hpruned
      | some request =>
          rw [after, pending_insert hget]
          exact hpruned.set _ _
  | remove id =>
      cases hget : timed.exchange.get? id with
      | none =>
          rw [after, remove, hget]
          exact hpruned
      | some request =>
          rw [after, pending_remove hget]
          exact hpruned.set _ _
  | dispatch inbound =>
      rw [after, pending_dispatch]
      exact hpruned.set _ _
  | _ =>
      rw [pending_after rfl]
      exact hpruned

/-! ## Displacing -/

section Swept

variable (horderly : timed.exchange.IsOrderly) (hswept : timed.exchange.IsSwept)

include horderly

theorem count_insert (id : RequestId) : (timed.exchange.insert id).2 =
    (timed.exchange.requests.filter (timed.exchange.displaces id)).length := by
  cases hlater : timed.exchange.get? id with
  | none =>
      have hnobody : timed.exchange.requests.filter (timed.exchange.displaces id) = [] := by
        rw [List.filter_eq_nil_iff]
        intro request _
        simp [displaces, hlater]
      rw [hnobody, Exchange.insert, hlater]
      rfl
  | some later =>
      let displaced := (timed.exchange.pending.get later.key).filter
        (timed.exchange.hasMessage later.message)
      have hcount : (timed.exchange.insert id).2 = displaced.length := by
        rw [Exchange.insert, hlater]
      let found := timed.exchange.requests.filter (timed.exchange.displaces id)
      have hids : (found.map (·.id)).Nodup :=
        horderly.nodup_ids.sublist (List.filter_sublist.map _)
      have hperm : (found.map (·.id)).Perm displaced := by
        rw [List.perm_ext_iff_of_nodup hids ((horderly.nodup_get _).filter _)]
        intro other
        rw [List.mem_map]
        constructor
        · rintro ⟨request, hrequest, rfl⟩
          obtain ⟨hmember, hdisplaces⟩ := List.mem_filter.mp hrequest
          have hget := get?_of_mem horderly.nodup_ids hmember
          exact (displaces_iff horderly hlater hget).mp hdisplaces
        · intro hother
          obtain ⟨request, hget, -⟩ := horderly.indexed _ other (List.mem_filter.mp hother).1
          obtain ⟨hmember, rfl⟩ := mem_of_get? hget
          have hdisplaces := (displaces_iff horderly hlater hget).mpr hother
          exact ⟨request, List.mem_filter.mpr ⟨hmember, hdisplaces⟩, rfl⟩
      rw [hcount, ← hperm.length_eq, List.length_map]

include hswept

theorem displaced_insert (hget : timed.exchange.get? request.id = some request)
    (hdisplaces : timed.exchange.displaces id request) : timed.Displaced id request := by
  have hverdict : timed.verdict? request (.insert id) = some .givenUp := if_pos hdisplaces
  obtain ⟨hchanged, hnews⟩ := changed_of_verdict? hverdict
  have hfinal : (request.settle .canceled).state.isFinal := request.isFinal_settle rfl
  refine ⟨hfinal, ?_, ?_⟩
  · have hcontains : (timed.after (.insert id)).exchange.pending.contains request.id =
        (id == request.id) := by
      rw [Bool.eq_iff_iff, contains_after horderly hget, evicts, hdisplaces, beq_iff_eq]
      simp
    rw [get?_after horderly hswept hget, hchanged, hcontains, Request.isHeld_settle]
    rfl
  · rw [deliveriesTo_after horderly hswept hget (Or.inr (hchanged ▸ hfinal)), hnews]
    rfl

theorem files (id : RequestId) : timed.Files id where
  count_eq := count_insert horderly id
  size_eq := fun _ hget => size_insert horderly hget
  contains := by
    intro request hget
    obtain ⟨-, rfl⟩ := mem_of_get? hget
    exact (contains_after horderly hget _).mpr (Or.inr rfl)
  displaced := fun _ hget hdisplaces => displaced_insert horderly hswept hget hdisplaces

end Swept

/-! ## All calls -/

theorem isFiled_run (calls : List Call) : (run calls).exchange.IsFiled := by
  have hboth : (run calls).exchange.IsDistinct ∧ (run calls).exchange.pending.IsPruned := by
    induction calls using List.reverseRecOn with
    | nil => exact ⟨isDistinct_empty, Pending.isPruned_empty⟩
    | append_singleton calls call ih =>
        obtain ⟨horderly, hswept⟩ := isOrderly_run calls
        rw [run_concat]
        exact ⟨isDistinct_after horderly hswept ih.1 call, isPruned_after ih.2 call⟩
  exact (isOrderly_run calls).1.isFiled hboth.1 hboth.2

end Timed

end Muster
