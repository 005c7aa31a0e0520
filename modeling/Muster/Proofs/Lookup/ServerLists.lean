import Mathlib.Data.List.Forall2
import Mathlib.Data.List.Perm.Basic
import Muster.Lookup.ServerList
import Muster.Proofs.Net.EndpointOrder
import Muster.Proofs.Order

/-!
# Calls for a server list

Whatever the order in which its lookups end, a list is looked up to the same endpoints, which are
those of its entries, in their order and each once.  A call finds those of the latest call that
looked the list up, and it is that call itself if there was none, if the endpoints have been kept
for their whole time, or if there were no endpoints.
-/

namespace Muster

namespace ServerList

variable {list : ServerList} {endpoints others : List Endpoint} {now : Nat}

/-! ## Endpoints in their order, each once -/

@[simp]
theorem mem_dropRepeats {endpoint : Endpoint} :
    endpoint ∈ dropRepeats endpoints ↔ endpoint ∈ endpoints := by
  induction endpoints using dropRepeats.induct with
  | case1 => rfl
  | case2 only => rfl
  | case3 second rest ih =>
      rw [dropRepeats, if_pos rfl, ih]
      simp only [List.mem_cons, or_self_left]
  | case4 first second rest hne ih =>
      rw [dropRepeats, if_neg hne, List.mem_cons, ih]
      exact List.mem_cons.symm

/-- Of endpoints in their order those remain that differ from all before them. -/
theorem pairwise_dropRepeats
    (hsorted : endpoints.Pairwise fun left right => left.precedesOrEq right) :
    (dropRepeats endpoints).Pairwise fun left right => left.precedes right := by
  induction endpoints using dropRepeats.induct with
  | case1 => exact .nil
  | case2 only => exact List.pairwise_singleton _ only
  | case3 second rest ih =>
      rw [dropRepeats, if_pos rfl]
      exact ih hsorted.tail
  | case4 first second rest hne ih =>
      obtain ⟨hfirst, hrest⟩ := List.pairwise_cons.mp hsorted
      rw [dropRepeats, if_neg hne]
      refine .cons (fun other hother => ?_) (ih hrest)
      rw [mem_dropRepeats] at hother
      refine Endpoint.precedes_of_ne (hfirst other hother) fun hsame => hne ?_
      -- an endpoint that comes again stands right behind the first one
      have hsecond := hfirst second List.mem_cons_self
      rcases List.mem_cons.mp hother with rfl | hlater
      · exact hsame
      · refine Endpoint.precedesOrEq_antisymm hsecond ?_
        rw [hsame]
        exact (List.pairwise_cons.mp hrest).1 other hlater

theorem mem_sortedOnce {endpoint : Endpoint} :
    endpoint ∈ sortedOnce endpoints ↔ endpoint ∈ endpoints := by
  rw [sortedOnce, mem_dropRepeats, Order.mem_arrange]

theorem pairwise_sortedOnce (endpoints : List Endpoint) :
    (sortedOnce endpoints).Pairwise fun left right => left.precedes right :=
  pairwise_dropRepeats (Order.pairwise_arrange Endpoint.precedesOrEq_trans
    Endpoint.precedesOrEq_total endpoints)

theorem sortedOnce_eq_of_perm (hperm : endpoints.Perm others) :
    sortedOnce endpoints = sortedOnce others := by
  have harranged : Order.arrange Endpoint.precedesOrEq endpoints =
      Order.arrange Endpoint.precedesOrEq others :=
    Order.arrange_eq_of_perm Endpoint.precedesOrEq_trans Endpoint.precedesOrEq_total hperm
      fun _ _ _ _ hle hge => Endpoint.precedesOrEq_antisymm hle hge
  rw [sortedOnce, harranged, sortedOnce]

/-! ## Lookups -/

/-- One turn, in which some lookup is under way. -/
theorem endings_succ {room turns : Nat} {next : Nat → Nat} {underWay waiting begun : List HostPort}
    (hbegun : underWay ++ waiting.take (room - underWay.length) = begun)
    (hplace : next turns % begun.length < begun.length) :
    endings room next (turns + 1) underWay waiting =
      begun[next turns % begun.length] ::
        endings room next turns (begun.eraseIdx (next turns % begun.length))
          (waiting.drop (room - underWay.length)) := by
  simp only [endings, hbegun, List.getElem?_eq_getElem hplace]

/-- Each lookup that is under way or waits ends once. -/
theorem endings_perm {room : Nat} (hroom : 0 < room) (next : Nat → Nat) {turns : Nat}
    {underWay waiting : List HostPort} (hturns : underWay.length + waiting.length = turns) :
    (endings room next turns underWay waiting).Perm (underWay ++ waiting) := by
  induction turns generalizing underWay waiting with
  | zero =>
      obtain ⟨hunderWay, hwaiting⟩ := Nat.add_eq_zero_iff.mp hturns
      rw [List.length_eq_zero_iff.mp hunderWay, List.length_eq_zero_iff.mp hwaiting]
      exact .nil
  | succ turns ih =>
      obtain ⟨begun, hbegun⟩ :
          ∃ begun, underWay ++ waiting.take (room - underWay.length) = begun := ⟨_, rfl⟩
      have hsplit : begun ++ waiting.drop (room - underWay.length) = underWay ++ waiting := by
        rw [← hbegun, List.append_assoc, List.take_append_drop]
      have hlength : begun.length + (waiting.drop (room - underWay.length)).length =
          turns + 1 := by
        rw [← List.length_append, hsplit, List.length_append, hturns]
      -- something is under way, as there is room where nothing has been begun yet
      have hpos : 0 < begun.length := by
        rw [← hbegun, List.length_append, List.length_take]
        omega
      have hplace : next turns % begun.length < begun.length := Nat.mod_lt _ hpos
      have hrest := @ih (begun.eraseIdx (next turns % begun.length))
        (waiting.drop (room - underWay.length)) (by rw [List.length_eraseIdx_of_lt hplace]; omega)
      rw [endings_succ hbegun hplace, ← hsplit]
      exact (hrest.cons _).trans ((List.getElem_cons_eraseIdx_perm hplace).append_right _)

/-- The lookups of the entries of a list all end, in some order. -/
theorem ended_perm (list : ServerList) (next : Nat → Nat) :
    (endings list.concurrency next list.entries.length [] list.entries).Perm list.entries :=
  endings_perm list.concurrency_pos next (Nat.zero_add _)

/-! ## A call -/

/-- The endpoints of the entries, in their order and each once. -/
def located (entries : List HostPort) (resolve : HostPort → Option Endpoint) : List Endpoint :=
  sortedOnce (entries.filterMap resolve)

/-- A list is fresh during its lifetime, unless it found nothing. -/
theorem fresh?_eq_some_iff : list.fresh? now = some endpoints ↔
    ∃ fetchedAt, list.fetched = some ⟨endpoints, fetchedAt⟩ ∧ now - fetchedAt < list.lifetime ∧
      endpoints ≠ [] := by
  simp only [fresh?, Option.map_eq_some_iff, Option.filter_eq_some_iff, Bool.and_eq_true,
    decide_eq_true_eq, Bool.not_eq_true', List.isEmpty_eq_false_iff]
  constructor
  · rintro ⟨⟨servers, fetchedAt⟩, ⟨hfetched, hage, hsome⟩, rfl⟩
    exact ⟨fetchedAt, hfetched, hage, hsome⟩
  · rintro ⟨fetchedAt, hfetched, hage, hsome⟩
    exact ⟨⟨endpoints, fetchedAt⟩, ⟨hfetched, hage, hsome⟩, rfl⟩

/-- Where endpoints are kept, they are the answer. -/
theorem get_of_fresh (hfresh : list.fresh? now = some endpoints)
    (resolve : HostPort → Option Endpoint) (course : LookupCourse) :
    list.get resolve course now = (list, endpoints) := by
  rw [get, hfresh]

/-- Where none are kept, every entry is looked up once. -/
theorem get_of_not_fresh (hfresh : list.fresh? now = none)
    (resolve : HostPort → Option Endpoint) (course : LookupCourse) :
    list.get resolve course now =
      ({ list with
          lookups := list.lookups + list.entries.length
          fetched := some ⟨located list.entries resolve, now + course.duration⟩ },
        located list.entries resolve) := by
  have hended := ended_perm list course.next
  have hservers : sortedOnce ((endings list.concurrency course.next list.entries.length []
      list.entries).filterMap resolve) = located list.entries resolve :=
    sortedOnce_eq_of_perm (hended.filterMap resolve)
  rw [get, hfresh]
  simp only [fetch, hservers, hended.length_eq]

/-- The order in which lookups end makes no difference. -/
theorem get_eq_of_duration_eq (list : ServerList) (resolve : HostPort → Option Endpoint)
    {course other : LookupCourse} (hduration : course.duration = other.duration) (now : Nat) :
    list.get resolve course now = list.get resolve other now := by
  cases hfresh : list.fresh? now with
  | some endpoints => rw [get_of_fresh hfresh, get_of_fresh hfresh]
  | none => rw [get_of_not_fresh hfresh, get_of_not_fresh hfresh, hduration]

end ServerList

/-! ## Runs -/

structure ListingCall where
  beganAt : Nat
  endedAt : Nat
  /-- What names led to at that time. -/
  resolve : HostPort → Option Endpoint
  /-- Whether the entries were looked up. -/
  isFetch : Bool
  /-- How many lookups that took. -/
  lookups : Nat
  servers : List Endpoint

structure ListingRun where
  list : ServerList
  /-- What names lead to. -/
  resolve : HostPort → Option Endpoint
  now : Nat
  /-- The calls so far, in their order. -/
  calls : List ListingCall

inductive ListingEvent where
  | wait (milliseconds : Nat)
  /-- Names lead somewhere else from now on. -/
  | rename (resolve : HostPort → Option Endpoint)
  | call (course : LookupCourse)

/-- The same happens, but lookups may end in another order. -/
def ListingEvent.IsLike : ListingEvent → ListingEvent → Prop
  | .wait milliseconds, .wait others => milliseconds = others
  | .rename resolve, .rename other => resolve = other
  | .call course, .call other => course.duration = other.duration
  | _, _ => False

namespace ListingCall

/-- The latest of some calls that looked the entries up. -/
def latestFetch? (calls : List ListingCall) : Option ListingCall :=
  (calls.filter (·.isFetch)).getLast?

theorem latestFetch?_concat (calls : List ListingCall) (call : ListingCall) :
    latestFetch? (calls ++ [call]) = if call.isFetch then some call else latestFetch? calls := by
  rw [latestFetch?, List.filter_append, List.getLast?_append]
  cases hfetch : call.isFetch with
  | true =>
      rw [List.filter_cons_of_pos hfetch, List.filter_nil, List.getLast?_singleton]
      rfl
  | false =>
      rw [List.filter_cons_of_neg (Bool.not_eq_true _ ▸ hfetch), List.filter_nil,
        List.getLast?_nil]
      rfl

/-- What a call has to find that is made after some others, for the list of some texts. -/
structure IsExact (texts : List String) (lifetime : Nat) (earlier : List ListingCall)
    (call : ListingCall) : Prop where
  ascending : call.servers.Pairwise fun left right => left.precedes right
  /-- The endpoints are those to which the texts that name a host and a port led when they were last
  looked up. -/
  servers_exact : ∃ fetch, latestFetch? (earlier ++ [call]) = some fetch ∧
    ∀ endpoint, endpoint ∈ call.servers ↔ ∃ text ∈ texts, ∃ address,
      HostPort.ofText? text = some address ∧ fetch.resolve address = some endpoint
  /-- They are looked up if they have never been, if that is long ago, or if there were none. -/
  isFetch_iff : call.isFetch ↔ latestFetch? earlier = none ∨
    ∃ fetch, latestFetch? earlier = some fetch ∧
      (fetch.endedAt + lifetime ≤ call.beganAt ∨ fetch.servers = [])
  lookups_eq : call.lookups =
    if call.isFetch then (texts.filterMap HostPort.ofText?).length else 0
  /-- Endpoints that are not looked up are those of the call before. -/
  servers_eq_of_kept : call.isFetch = false →
    (earlier.getLast?).map (·.servers) = some call.servers

end ListingCall

namespace ListingRun

def start (list : ServerList) (resolve : HostPort → Option Endpoint) (now : Nat) : ListingRun :=
  ⟨list, resolve, now, []⟩

/-- What a call finds that is made now. -/
def nextCall (run : ListingRun) (course : LookupCourse) : ListingCall :=
  let isFetch := (run.list.fresh? run.now).isNone
  let (list, servers) := run.list.get run.resolve course run.now
  { beganAt := run.now
    endedAt := if isFetch then run.now + course.duration else run.now
    resolve := run.resolve
    isFetch
    lookups := list.lookups - run.list.lookups
    servers }

def after (run : ListingRun) : ListingEvent → ListingRun
  | .wait milliseconds => { run with now := run.now + milliseconds }
  | .rename resolve => { run with resolve }
  | .call course =>
    { run with
      list := (run.list.get run.resolve course run.now).1
      now := (run.nextCall course).endedAt
      calls := run.calls ++ [run.nextCall course] }

def afterAll (run : ListingRun) (events : List ListingEvent) : ListingRun :=
  events.foldl after run

/-! ## Each call is exact -/

open ListingCall ServerList

variable {entries : List HostPort} {lifetime : Nat} {run : ListingRun} {endpoints : List Endpoint}

/-- What the list keeps is what the latest fetch has found, and that is what the latest call has
found. -/
structure IsSound (entries : List HostPort) (lifetime : Nat) (run : ListingRun) : Prop where
  entries_eq : run.list.entries = entries
  lifetime_eq : run.list.lifetime = lifetime
  fetched_eq : run.list.fetched =
    (latestFetch? run.calls).map fun fetch => ⟨fetch.servers, fetch.endedAt⟩
  located_eq : ∀ fetch, latestFetch? run.calls = some fetch →
    fetch.servers = located entries fetch.resolve
  last_eq : (run.calls.getLast?).map (·.servers) = (latestFetch? run.calls).map (·.servers)
  past : ∀ fetch, latestFetch? run.calls = some fetch → fetch.endedAt ≤ run.now

theorem isSound_start {list : ServerList} (hlist : list.fetched = none)
    (resolve : HostPort → Option Endpoint) (now : Nat) :
    (start list resolve now).IsSound list.entries list.lifetime where
  entries_eq := rfl
  lifetime_eq := rfl
  fetched_eq := hlist
  located_eq := fun _ hnone => absurd hnone (Option.some_ne_none _).symm
  last_eq := rfl
  past := fun _ hnone => absurd hnone (Option.some_ne_none _).symm

/-- A call for endpoints that are kept. -/
theorem nextCall_of_fresh (hfresh : run.list.fresh? run.now = some endpoints)
    (course : LookupCourse) :
    run.nextCall course = ⟨run.now, run.now, run.resolve, false, 0, endpoints⟩ := by
  simp only [nextCall, get_of_fresh hfresh, hfresh, Option.isNone_some, Bool.false_eq_true,
    if_false, Nat.sub_self]

/-- A call for endpoints that have to be looked up. -/
theorem nextCall_of_not_fresh (hfresh : run.list.fresh? run.now = none) (course : LookupCourse) :
    run.nextCall course = ⟨run.now, run.now + course.duration, run.resolve, true,
      run.list.entries.length, located run.list.entries run.resolve⟩ := by
  simp only [nextCall, get_of_not_fresh hfresh, hfresh, Option.isNone_none, if_true,
    Nat.add_sub_cancel_left]

/-- Endpoints that are kept are those of the latest fetch. -/
theorem IsSound.exists_fetch_of_fresh (hsound : run.IsSound entries lifetime)
    (hfresh : run.list.fresh? run.now = some endpoints) :
    ∃ fetch, latestFetch? run.calls = some fetch ∧ fetch.servers = endpoints ∧
      run.now < fetch.endedAt + lifetime ∧ endpoints ≠ [] := by
  obtain ⟨fetchedAt, hfetched, hage, hsome⟩ := fresh?_eq_some_iff.mp hfresh
  rw [hsound.fetched_eq, Option.map_eq_some_iff] at hfetched
  obtain ⟨fetch, hfetch, hkept⟩ := hfetched
  obtain ⟨rfl, rfl⟩ := FetchedList.mk.inj hkept
  rw [hsound.lifetime_eq] at hage
  have hpast := hsound.past fetch hfetch
  exact ⟨fetch, hfetch, rfl, by omega, hsome⟩

/-- Where endpoints have to be looked up, those of the latest fetch are old or there are none. -/
theorem IsSound.old_of_not_fresh (hsound : run.IsSound entries lifetime)
    (hfresh : run.list.fresh? run.now = none) {fetch : ListingCall}
    (hfetch : latestFetch? run.calls = some fetch) :
    fetch.endedAt + lifetime ≤ run.now ∨ fetch.servers = [] := by
  by_contra hnot
  obtain ⟨hage, hsome⟩ := not_or.mp hnot
  have hkept : run.list.fetched = some ⟨fetch.servers, fetch.endedAt⟩ := by
    rw [hsound.fetched_eq, hfetch]
    rfl
  have hyoung : run.now - fetch.endedAt < run.list.lifetime := by
    rw [hsound.lifetime_eq]
    have hpast := hsound.past fetch hfetch
    omega
  exact Option.some_ne_none _
    ((fresh?_eq_some_iff.mpr ⟨fetch.endedAt, hkept, hyoung, hsome⟩).symm.trans hfresh)

/-- Endpoints that are kept are given again, and nothing else changes. -/
theorem after_call_of_fresh (hfresh : run.list.fresh? run.now = some endpoints)
    (course : LookupCourse) :
    run.after (.call course) = { run with calls := run.calls ++ [run.nextCall course] } := by
  simp only [after, get_of_fresh hfresh, nextCall_of_fresh hfresh]

/-- Endpoints that have to be looked up are kept from then on. -/
theorem after_call_of_not_fresh (hfresh : run.list.fresh? run.now = none)
    (course : LookupCourse) :
    run.after (.call course) =
      { run with
        list :=
          { run.list with
            lookups := run.list.lookups + run.list.entries.length
            fetched := some ⟨(run.nextCall course).servers, (run.nextCall course).endedAt⟩ }
        now := (run.nextCall course).endedAt
        calls := run.calls ++ [run.nextCall course] } := by
  simp only [after, get_of_not_fresh hfresh, nextCall_of_not_fresh hfresh]

/-- A call that finds the list fresh looks nothing up and finds what the latest one found. -/
theorem isSound_call_of_fresh (hsound : run.IsSound entries lifetime)
    (hfresh : run.list.fresh? run.now = some endpoints) (course : LookupCourse) :
    (run.after (.call course)).IsSound entries lifetime := by
  obtain ⟨fetch, hfetch, rfl, -⟩ := hsound.exists_fetch_of_fresh hfresh
  have hlatest : latestFetch? (run.calls ++ [run.nextCall course]) = latestFetch? run.calls := by
    rw [latestFetch?_concat, nextCall_of_fresh hfresh]
    rfl
  rw [after_call_of_fresh hfresh]
  constructor
  case entries_eq => exact hsound.entries_eq
  case lifetime_eq => exact hsound.lifetime_eq
  case fetched_eq =>
    rw [hlatest]
    exact hsound.fetched_eq
  case located_eq =>
    rw [hlatest]
    exact hsound.located_eq
  case last_eq =>
    rw [hlatest, hfetch, List.getLast?_concat, nextCall_of_fresh hfresh]
    rfl
  case past =>
    rw [hlatest]
    exact hsound.past

/-- A call that finds no fresh list looks every entry up. -/
theorem isSound_call_of_not_fresh (hsound : run.IsSound entries lifetime)
    (hfresh : run.list.fresh? run.now = none) (course : LookupCourse) :
    (run.after (.call course)).IsSound entries lifetime := by
  have hlatest : latestFetch? (run.calls ++ [run.nextCall course]) =
      some (run.nextCall course) := by
    rw [latestFetch?_concat, nextCall_of_not_fresh hfresh]
    rfl
  rw [after_call_of_not_fresh hfresh]
  constructor
  case entries_eq => exact hsound.entries_eq
  case lifetime_eq => exact hsound.lifetime_eq
  case fetched_eq =>
    rw [hlatest]
    rfl
  case located_eq =>
    intro fetch hfetch
    obtain rfl := Option.some.inj (hlatest.symm.trans hfetch)
    rw [nextCall_of_not_fresh hfresh, ← hsound.entries_eq]
  case last_eq => rw [hlatest, List.getLast?_concat]
  case past =>
    intro fetch hfetch
    obtain rfl := Option.some.inj (hlatest.symm.trans hfetch)
    exact Nat.le_refl _

theorem isSound_call (hsound : run.IsSound entries lifetime) (course : LookupCourse) :
    (run.after (.call course)).IsSound entries lifetime := by
  cases hfresh : run.list.fresh? run.now with
  | some endpoints => exact isSound_call_of_fresh hsound hfresh course
  | none => exact isSound_call_of_not_fresh hsound hfresh course

theorem isSound_after (hsound : run.IsSound entries lifetime) (event : ListingEvent) :
    (run.after event).IsSound entries lifetime := by
  cases event with
  | wait milliseconds =>
      exact { hsound with
        past := fun fetch hfetch => Nat.le_add_right_of_le (hsound.past fetch hfetch) }
  | rename resolve => exact { hsound with }
  | call course => exact isSound_call hsound course

theorem isSound_afterAll (hsound : run.IsSound entries lifetime) (events : List ListingEvent) :
    (run.afterAll events).IsSound entries lifetime :=
  List.foldlRecOn (motive := fun run => IsSound entries lifetime run) events _ hsound
    fun _ hsound event _ => isSound_after hsound event

/-- An endpoint is found exactly if one of the texts names an address that leads there. -/
theorem mem_located_filterMap {texts : List String} {resolve : HostPort → Option Endpoint}
    {endpoint : Endpoint} :
    endpoint ∈ located (texts.filterMap HostPort.ofText?) resolve ↔ ∃ text ∈ texts, ∃ address,
      HostPort.ofText? text = some address ∧ resolve address = some endpoint := by
  simp only [located, mem_sortedOnce, List.mem_filterMap]
  constructor
  · rintro ⟨address, ⟨text, htext, haddress⟩, hendpoint⟩
    exact ⟨text, htext, address, haddress, hendpoint⟩
  · rintro ⟨text, htext, address, haddress, hendpoint⟩
    exact ⟨address, ⟨text, htext, haddress⟩, hendpoint⟩

/-- In a sound run the next call is exact. -/
theorem IsSound.isExact {texts : List String}
    (hsound : run.IsSound (texts.filterMap HostPort.ofText?) lifetime) (course : LookupCourse) :
    (run.nextCall course).IsExact texts lifetime run.calls := by
  have hnext := isSound_call hsound course
  obtain ⟨fetch, hfetch, hservers⟩ : ∃ fetch,
      latestFetch? (run.calls ++ [run.nextCall course]) = some fetch ∧
        fetch.servers = (run.nextCall course).servers := by
    have hlast := hnext.last_eq
    simp only [after, List.getLast?_concat, Option.map_some] at hlast
    exact Option.map_eq_some_iff.mp hlast.symm
  have hlocated := hnext.located_eq fetch hfetch
  rw [hservers] at hlocated
  constructor
  case ascending =>
    rw [hlocated]
    exact pairwise_sortedOnce _
  case servers_exact =>
    refine ⟨fetch, hfetch, fun endpoint => ?_⟩
    rw [hlocated]
    exact mem_located_filterMap
  case isFetch_iff =>
    cases hfresh : run.list.fresh? run.now with
    | some endpoints =>
        obtain ⟨kept, hkept, rfl, hage, hsome⟩ := hsound.exists_fetch_of_fresh hfresh
        rw [nextCall_of_fresh hfresh, hkept]
        simp only [Bool.false_eq_true, reduceCtorEq, Option.some.injEq, exists_eq_left', false_or,
          false_iff, not_or]
        exact ⟨Nat.not_le.mpr hage, hsome⟩
    | none =>
        rw [nextCall_of_not_fresh hfresh]
        refine iff_of_true rfl ?_
        cases hkept : latestFetch? run.calls with
        | none => exact .inl rfl
        | some kept => exact .inr ⟨kept, rfl, hsound.old_of_not_fresh hfresh hkept⟩
  case lookups_eq =>
    cases hfresh : run.list.fresh? run.now with
    | some endpoints =>
        rw [nextCall_of_fresh hfresh]
        rfl
    | none =>
        rw [nextCall_of_not_fresh hfresh, hsound.entries_eq]
        rfl
  case servers_eq_of_kept =>
    intro hkept
    rw [latestFetch?_concat, hkept, if_neg Bool.false_ne_true] at hfetch
    rw [hsound.last_eq, hfetch, ← hservers]
    rfl

/-! ## The order of the lookups -/

theorem nextCall_eq_of_duration_eq (run : ListingRun) {course other : LookupCourse}
    (hduration : course.duration = other.duration) : run.nextCall course = run.nextCall other := by
  rw [nextCall, nextCall, get_eq_of_duration_eq run.list run.resolve hduration, hduration]

theorem after_eq_of_isLike (run : ListingRun) {event other : ListingEvent}
    (hlike : event.IsLike other) : run.after event = run.after other := by
  cases event <;> cases other
  case wait.wait => exact congrArg (fun time => run.after (.wait time)) hlike
  case rename.rename => exact congrArg (fun resolve => run.after (.rename resolve)) hlike
  case call.call =>
    rw [after, after, nextCall_eq_of_duration_eq run hlike,
      get_eq_of_duration_eq run.list run.resolve hlike]
  all_goals exact hlike.elim

/-- The order in which lookups end does not matter to the calls. -/
theorem afterAll_eq_of_isLike (run : ListingRun) {events others : List ListingEvent}
    (hlike : List.Forall₂ ListingEvent.IsLike events others) :
    run.afterAll events = run.afterAll others := by
  induction hlike generalizing run with
  | nil => rfl
  | cons hevent hrest ih =>
      rw [afterAll, List.foldl_cons, after_eq_of_isLike run hevent]
      exact ih _

/-- In the course of any run around the list of some texts each call is exact, whatever the order in
which lookups end. -/
theorem nextCall_isExact (texts : List String) (lifetime concurrency : Nat)
    (resolve : HostPort → Option Endpoint) (now : Nat) (events : List ListingEvent)
    (course : LookupCourse) :
    let run := start (.ofTexts texts lifetime concurrency) resolve now
    ((run.afterAll events).nextCall course).IsExact texts lifetime (run.afterAll events).calls ∧
      ∀ others other, List.Forall₂ ListingEvent.IsLike events others →
        course.duration = other.duration →
        (run.afterAll others).calls = (run.afterAll events).calls ∧
          (run.afterAll others).nextCall other = (run.afterAll events).nextCall course := by
  intro run
  have hstart : run.IsSound (texts.filterMap HostPort.ofText?) lifetime :=
    @isSound_start (.ofTexts texts lifetime concurrency) rfl resolve now
  refine ⟨(isSound_afterAll hstart events).isExact course, fun others other hlike hduration => ?_⟩
  rw [afterAll_eq_of_isLike run hlike, nextCall_eq_of_duration_eq _ hduration]
  exact ⟨rfl, rfl⟩

/-- A list of two servers, which may be looked up at the same time, and of a text without a port. -/
def twoServers : ListingRun :=
  start (.ofTexts ["10.0.0.2:1", "nowhere", "10.0.0.1:1"] 200 2)
    (fun address => (Ip.ofText? address.host).map (.ofIp · address.port)) 0

/-- The second call finds what the first one has found, whichever server was found first. -/
theorem nextCall_isExact_twoServers :
    ((twoServers.afterAll [.call ⟨fun _ => 0, 5⟩, .wait 100]).nextCall .immediate).servers =
        [.ofIp (.v4 10 0 0 1) 1, .ofIp (.v4 10 0 0 2) 1] ∧
      (twoServers.afterAll [.call ⟨fun _ => 1, 5⟩, .wait 100]).nextCall .immediate =
        (twoServers.afterAll [.call ⟨fun _ => 0, 5⟩, .wait 100]).nextCall .immediate := by
  have hlike : List.Forall₂ ListingEvent.IsLike [.call ⟨fun _ => 0, 5⟩, .wait 100]
      [.call ⟨fun _ => 1, 5⟩, .wait 100] := .cons rfl (.cons rfl .nil)
  exact ⟨by decide +kernel, ((nextCall_isExact _ _ _ _ _ _ _).2 _ .immediate hlike rfl).2⟩

end ListingRun

end Muster
