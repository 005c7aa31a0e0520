import Muster.Proofs.Query.Given
import Muster.Proofs.Query.Withdrawal

/-!
# How the query service goes on

Whatever the query service does, it does to its exchange by one call after the other.  So its
exchange keeps a history, and time does not run back; the results of a batch come in the order of
time.  Names lead where they led before.
-/

namespace Muster

open Exchange

variable {kind : ProbeKind} {lead : HostPort → Option Endpoint} {timeout : Nat}

namespace Timed

variable {first second third : Timed}

/-- Calls after calls are calls. -/
theorem exists_afterAll_trans (hsecond : ∃ calls, second = first.afterAll calls)
    (hthird : ∃ calls, third = second.afterAll calls) : ∃ calls, third = first.afterAll calls := by
  obtain ⟨calls, rfl⟩ := hsecond
  obtain ⟨more, rfl⟩ := hthird
  exact ⟨calls ++ more, (afterAll_append first calls more).symm⟩

theorem now_le_afterAll (timed : Timed) (calls : List Call) :
    timed.now ≤ (timed.afterAll calls).now := by
  induction calls generalizing timed with
  | nil => exact Nat.le_refl _
  | cons call rest ih => exact Nat.le_trans (now_le_after timed call) (ih _)

end Timed

/-- What happens in the course of a batch is done by calls. -/
theorem BatchRun.exists_timed_course (servers : List HostPort) (timed : Timed)
    (events : List BatchEvent) :
    ∃ calls, (course lead timeout kind servers timed events).timed = timed.afterAll calls := by
  have hafter : ∀ (run : BatchRun kind) (event : BatchEvent),
      (∃ calls, run.timed = timed.afterAll calls) →
        ∃ calls, (run.after lead timeout event).timed = timed.afterAll calls :=
    fun run event hrun => Timed.exists_afterAll_trans hrun ⟨_, timed_after run event⟩
  exact course_induction ⟨[], rfl⟩ hafter events

/-- What happens in the course of a single request is done by calls. -/
theorem RequestRun.exists_timed_afterAll (run : RequestRun) (events : List RequestEvent) :
    ∃ calls, (run.afterAll events).timed = run.timed.afterAll calls := by
  induction events generalizing run with
  | nil => exact ⟨[], rfl⟩
  | cons event rest ih =>
      have hfirst : ∃ calls, (run.after event).timed = run.timed.afterAll calls := by
        cases hnext : run.next? event with
        | none => exact ⟨[], by rw [after_of_none hnext]; rfl⟩
        | some next => exact ⟨next.1, by rw [after_of_next? hnext]⟩
      exact Timed.exists_afterAll_trans hfirst (ih (run.after event))

/-! ## Times of results -/

namespace BatchRun

variable {run next : BatchRun kind} {began : Nat}

/-- Results come in the order of time, none before the batch began and none in the future. -/
structure IsTimely (began : Nat) (run : BatchRun kind) : Prop where
  began_le : began ≤ run.timed.now
  ordered : run.batch.results.Pairwise (·.time ≤ ·.time)
  within : ∀ result ∈ run.batch.results, began ≤ result.time ∧ result.time ≤ run.timed.now

theorem isTimely_start (servers : List HostPort) (timed : Timed) :
    (start kind servers timed).IsTimely timed.now where
  began_le := Nat.le_refl _
  ordered := List.Pairwise.nil
  within := fun _ hresult => absurd hresult List.not_mem_nil

/-- More results come behind the others, and now. -/
theorem IsTimely.of_results (htimely : run.IsTimely began)
    (hnow : run.timed.now ≤ next.timed.now)
    (hresults : ∃ more, next.batch.results = run.batch.results ++ more ∧
      ∀ result ∈ more, result.time = next.timed.now) : next.IsTimely began := by
  obtain ⟨more, hmore, htimes⟩ := hresults
  have hbegan := Nat.le_trans htimely.began_le hnow
  constructor
  case began_le => exact hbegan
  case ordered =>
    rw [hmore, List.pairwise_append]
    refine ⟨htimely.ordered, ?_, ?_⟩
    · apply List.pairwise_of_forall_mem_list
      intro first hfirst second hsecond
      exact Nat.le_of_eq ((htimes first hfirst).trans (htimes second hsecond).symm)
    · intro first hfirst second hsecond
      rw [htimes second hsecond]
      exact Nat.le_trans (htimely.within first hfirst).2 hnow
  case within =>
    rw [hmore, List.forall_mem_append]
    constructor
    · intro result hresult
      obtain ⟨hafter, hbefore⟩ := htimely.within result hresult
      exact ⟨hafter, Nat.le_trans hbefore hnow⟩
    · intro result hresult
      rw [htimes result hresult]
      exact ⟨hbegan, Nat.le_refl _⟩

theorem isTimely_close (servers : List HostPort) (timed : Timed) (events : List BatchEvent) :
    (course lead timeout kind servers timed events).close.IsTimely timed.now := by
  have hafter : ∀ (run : BatchRun kind) (event : BatchEvent), run.IsTimely timed.now →
      (run.after lead timeout event).IsTimely timed.now := by
    intro run event htimely
    refine htimely.of_results ?_ (run.exists_results_after event)
    rw [timed_after]
    exact Timed.now_le_afterAll run.timed _
  refine (course_induction (isTimely_start servers timed) hafter events).of_results ?_
    (exists_results_close _)
  exact Nat.le_refl _

end BatchRun

namespace QueryService

variable {service next last : QueryService}

/-! ## Names -/

/-- Names lead where they led, and no more of them have been looked up. -/
structure KeepsNames (service next : QueryService) : Prop where
  resolve_eq : next.resolve = service.resolve
  lookups_eq : next.lookups = service.lookups

theorem KeepsNames.trans (hnext : service.KeepsNames next) (hlast : next.KeepsNames last) :
    service.KeepsNames last :=
  ⟨hlast.resolve_eq.trans hnext.resolve_eq, hlast.lookups_eq.trans hnext.lookups_eq⟩

theorem keepsNames_transmit (service : QueryService) (target : Endpoint) (message : Message) :
    service.KeepsNames (service.transmit target message) := by
  rw [transmit]
  split_ifs <;> exact ⟨rfl, rfl⟩

theorem keepsNames_receive (service : QueryService) (reply : Reply) :
    service.KeepsNames (service.receive reply) := by
  rw [receive]
  cases Message.decode reply.datagram with
  | error error => exact ⟨rfl, rfl⟩
  | ok message =>
      simp only
      split_ifs <;> exact ⟨rfl, rfl⟩

theorem keepsNames_settle (service : QueryService) : service.KeepsNames service.settle :=
  List.foldlRecOn (motive := fun next => service.KeepsNames next) service.arriving receive
    ⟨rfl, rfl⟩ fun next hnext reply _ => hnext.trans (keepsNames_receive next reply)

theorem keepsNames_await (service : QueryService) (id : RequestId) (timeout : Nat)
    (patience : Patience) : service.KeepsNames (service.await id timeout patience).1 := by
  obtain ⟨settled, hsettled, hkeeps⟩ : ∃ settled,
      (if patience = .none then service else service.settle) = settled ∧
        service.KeepsNames settled := by
    refine ⟨_, rfl, ?_⟩
    split_ifs
    · exact ⟨rfl, rfl⟩
    · exact keepsNames_settle service
  simp only [await, hsettled]
  cases settled.outcomeOf? id with
  | some outcome => exact hkeeps
  | none =>
      simp only
      split_ifs
      · exact ⟨hkeeps.resolve_eq, hkeeps.lookups_eq⟩
      · exact ⟨hkeeps.resolve_eq, hkeeps.lookups_eq⟩

/-- A request and its answer do not change where names lead. -/
theorem keepsNames_roundTrip (service : QueryService) (target : Endpoint) (message : Message)
    (responseCommand : String) (timeout : Nat) (patience : Patience) :
    service.KeepsNames
      (service.roundTrip target message responseCommand timeout patience).1 := by
  have hexchange : ∀ exchange, service.KeepsNames { service with exchange } := fun _ => ⟨rfl, rfl⟩
  have hretire : ∀ (next : QueryService) (id : RequestId), next.KeepsNames (next.retire id) :=
    fun _ _ => ⟨rfl, rfl⟩
  simp only [roundTrip]
  split_ifs
  · refine KeepsNames.trans ?_ (keepsNames_settle _)
    refine KeepsNames.trans ?_ (hretire _ _)
    refine KeepsNames.trans ?_ (keepsNames_await _ _ _ _)
    exact (hexchange _).trans (keepsNames_transmit _ _ _)
  · exact (hexchange _).trans (hretire _ _)

/-- Whoever asks one server looks up one name. -/
theorem lookups_probe (service : QueryService) (kind : ProbeKind) (server : HostPort)
    (patience : Patience) :
    (service.probe kind server patience).1.resolve = service.resolve ∧
      (service.probe kind server patience).1.lookups = service.lookups + 1 := by
  simp only [probe]
  cases Lookups.endpoint? service.resolve server with
  | none => exact ⟨rfl, rfl⟩
  | some endpoint =>
      obtain ⟨hresolve, hlookups⟩ := keepsNames_roundTrip
        { service with lookups := service.lookups + 1 } endpoint kind.request kind.responseCommand
        service.config.requestTimeout patience
      simp only
      split <;> exact ⟨hresolve, hlookups⟩

theorem resolve_sendUpTo (limit : Nat) (service : QueryService) (batch : Batch kind) :
    (sendUpTo limit service batch).1.resolve = service.resolve := by
  induction limit generalizing service batch with
  | zero => rfl
  | succ limit ih =>
      rw [sendUpTo]
      cases batch.waiting with
      | nil => rfl
      | cons target rest => exact (ih _ _).trans (keepsNames_transmit _ _ _).resolve_eq

theorem resolve_openBatch (service : QueryService) (kind : ProbeKind) (servers : List HostPort)
    (timeout : Nat) : (service.openBatch kind servers timeout).1.resolve = service.resolve := by
  simp only [openBatch]
  split_ifs
  · exact resolve_sendUpTo _ _ _
  · rfl

theorem resolve_probeMany (service : QueryService) (kind : ProbeKind) (servers : List HostPort)
    (timeout : Nat) (patience : Patience) :
    (service.probeMany kind servers timeout patience).1.resolve = service.resolve := by
  let opened := service.openBatch kind servers timeout
  have hopened : opened.1.resolve = service.resolve := resolve_openBatch ..
  have hsettled : (opened.1.settleWith collectBatch opened.2).1.resolve = service.resolve := by
    apply settleWith_induction (fun next _ => next.resolve = service.resolve) _ _ _ hopened
    · exact fun _ _ hnext => hnext
    · exact fun next _ reply hnext => (keepsNames_receive next reply).resolve_eq.trans hnext
    · exact fun _ _ hnext => hnext
  simp only [probeMany]
  split_ifs <;> exact hsettled

/-! ## Time -/

/-- The service has gone on: calls have been made to its exchange, and names lead where they
led. -/
structure GoesOn (service next : QueryService) : Prop where
  timed_eq : ∃ calls, next.timed = service.timed.afterAll calls
  resolve_eq : next.resolve = service.resolve

theorem GoesOn.refl (service : QueryService) : service.GoesOn service :=
  ⟨⟨[], rfl⟩, rfl⟩

theorem GoesOn.now_le (hnext : service.GoesOn next) : service.now ≤ next.now := by
  obtain ⟨calls, htimed⟩ := hnext.timed_eq
  have hnow := Timed.now_le_afterAll service.timed calls
  rw [← htimed] at hnow
  exact hnow

/-- Whatever goes on after some calls has come about by calls as well. -/
theorem GoesOn.history (hnext : service.GoesOn next)
    (hservice : ∃ calls, service.timed = Timed.run calls) :
    ∃ calls, next.timed = Timed.run calls := by
  obtain ⟨calls, htimed⟩ := hservice
  obtain ⟨more, hmore⟩ := hnext.timed_eq
  refine ⟨calls ++ more, ?_⟩
  rw [hmore, htimed]
  exact List.foldl_append.symm

theorem goesOn_advance (service : QueryService) (milliseconds : Nat) :
    service.GoesOn (service.advance milliseconds) :=
  ⟨⟨[.advance milliseconds], rfl⟩, rfl⟩

theorem goesOn_roundTrip (hservice : ∃ calls, service.timed = Timed.run calls)
    (target : Endpoint) (message : Message) (responseCommand : String) (timeout : Nat)
    (patience : Patience) :
    service.GoesOn (service.roundTrip target message responseCommand timeout patience).1 := by
  obtain ⟨events, later, -, -, htimed⟩ :=
    roundTrip_eq hservice target message responseCommand timeout patience
  let began := RequestRun.start target message responseCommand timeout service.timed
  have hended : ∃ calls, (began.afterAll events).timed = service.timed.afterAll calls :=
    Timed.exists_afterAll_trans ⟨[.create target message responseCommand timeout .caller], rfl⟩
      (began.exists_timed_afterAll events)
  have hreleased : ∃ calls, ((began.afterAll events).timed.after
      (.release (began.afterAll events).id)) = service.timed.afterAll calls :=
    Timed.exists_afterAll_trans hended ⟨[.release _], rfl⟩
  exact ⟨Timed.exists_afterAll_trans hreleased ⟨later, htimed⟩,
    (keepsNames_roundTrip ..).resolve_eq⟩

theorem goesOn_probe (hservice : ∃ calls, service.timed = Timed.run calls) (kind : ProbeKind)
    (server : HostPort) (patience : Patience) :
    service.GoesOn (service.probe kind server patience).1 := by
  have hasked : ∀ lookups, service.GoesOn { service with lookups } := fun _ => ⟨⟨[], rfl⟩, rfl⟩
  simp only [probe]
  cases Lookups.endpoint? service.resolve server with
  | none => exact hasked _
  | some endpoint =>
      have hhistory : ∃ calls,
          { service with lookups := service.lookups + 1 }.timed = Timed.run calls := hservice
      have hround := goesOn_roundTrip hhistory endpoint kind.request kind.responseCommand
        service.config.requestTimeout patience
      simp only
      split <;> exact ⟨hround.timed_eq, hround.resolve_eq⟩

/-- A batch makes calls to the exchange, and leads no name elsewhere. -/
theorem goesOn_probeMany (service : QueryService) (kind : ProbeKind) (servers : List HostPort)
    (timeout : Nat) (patience : Patience) :
    service.GoesOn (service.probeMany kind servers timeout patience).1 := by
  obtain ⟨events, hconcludes, hnow⟩ :=
    concludes_probeMany_now service kind servers timeout patience
  refine ⟨?_, resolve_probeMany service kind servers timeout patience⟩
  let run := BatchRun.course (Lookups.endpoint? service.resolve)
    (service.batchRequestTimeout timeout) kind servers service.timed events
  have hclosed : ∃ calls, run.close.timed = service.timed.afterAll calls :=
    Timed.exists_afterAll_trans (BatchRun.exists_timed_course ..) ⟨_, run.timed_close⟩
  have hreleased : (service.probeMany kind servers timeout patience).1.timed =
      ⟨run.close.batch.release run.close.timed.exchange, run.timed.now⟩ := by
    rw [timed, hconcludes.exchange_eq, hnow]
  rw [hreleased, BatchRun.timed_release]
  exact Timed.exists_afterAll_trans hclosed ⟨_, rfl⟩

end QueryService

end Muster
