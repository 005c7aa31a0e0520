import Muster.Proofs.Registry.Refreshing

/-!
# Refreshes of the query service

The query service takes the results of a batch when the batch is closed, each as of the time at
which it was given.  This comes to the same as taking each result at once, and so what the service
does is the course of a refresh to its end.
-/

namespace Muster

open Exchange

namespace RefreshRun

variable {kind : ProbeKind} {lead : HostPort → Option Endpoint} {timeout : Nat}
  {run : RefreshRun kind} {recent : List Refreshed} {registry : Registry}

/-! ## Taking all results -/

/-- Results that have just come are taken one after the other. -/
theorem afterAll_takes (lead : HostPort → Option Endpoint) (timeout : Nat) (run : RefreshRun kind)
    {done more : List (ProbeResult kind)} (hresults : run.batch.batch.results = done ++ more)
    (htaken : run.taken = done.length) (htimes : ∀ result ∈ more, result.time = run.now) :
    run.afterAll lead timeout (List.replicate more.length .take) =
      { run with
        registry := (Registry.takeResults run.asked more run.registry).1
        taken := run.taken + more.length
        told := run.told ++ (Registry.takeResults run.asked more run.registry).2 } := by
  induction more generalizing run done with
  | nil =>
      rw [Registry.takeResults, List.append_nil]
      rfl
  | cons result rest ih =>
      rw [List.forall_mem_cons] at htimes
      have hnext : run.batch.batch.results[run.taken]? = some result := by
        rw [hresults, htaken, List.getElem?_append_right (Nat.le_refl _), Nat.sub_self]
        rfl
      have htake : run.after lead timeout .take =
          { run with
            registry := (Registry.takeResult run.asked run.registry result).1
            taken := run.taken + 1
            told := run.told ++
              (Registry.takeResult run.asked run.registry result).2.toList } := by
        rw [after, hnext]
        simp only [← htimes.1]
      have hdone : run.batch.batch.results = (done ++ [result]) ++ rest := by
        rw [hresults, List.append_assoc, List.singleton_append]
      have hcount : run.taken + 1 = (done ++ [result]).length := by
        rw [htaken, List.length_append, List.length_singleton]
      have hrest := @ih (run.after lead timeout .take) (done ++ [result])
      rw [htake] at hrest
      rw [List.length_cons, List.replicate_succ, afterAll, List.foldl_cons, ← afterAll, htake,
        hrest hdone hcount htimes.2]
      simp only [Registry.takeResults, List.append_assoc, Nat.add_assoc, Nat.add_comm 1]

/-- Every result is taken as soon as it is there, and nobody else changes the registry. -/
structure KeepsUp (registry : Registry) (recent : List Refreshed) (run : RefreshRun kind) :
    Prop where
  taken_eq : run.taken = run.batch.batch.results.length
  late_eq : run.late = 0
  registry_eq : run.registry =
    (Registry.takeResults run.asked run.batch.batch.results registry).1
  told_eq : run.told =
    recent ++ (Registry.takeResults run.asked run.batch.batch.results registry).2

/-- Whoever has kept up can take what the batch has given since. -/
theorem KeepsUp.exists_takes (lead : HostPort → Option Endpoint) (timeout : Nat)
    (hkeeps : run.KeepsUp registry recent) (next : RefreshRun kind)
    (hnext : next = { run with
      batch := next.batch, given := next.given, isClosed := next.isClosed })
    (hresults : ∃ more, next.batch.batch.results = run.batch.batch.results ++ more ∧
      ∀ result ∈ more, result.time = next.batch.timed.now) :
    ∃ count,
      let last := next.afterAll lead timeout (List.replicate count .take)
      last.KeepsUp registry recent ∧ last.batch = next.batch ∧ last.isClosed = next.isClosed ∧
        last.asked = next.asked := by
  obtain ⟨more, hmore, htimes⟩ := hresults
  have htaken : next.taken = run.batch.batch.results.length := by
    rw [hnext]
    exact hkeeps.taken_eq
  have hlate : next.late = 0 := by
    rw [hnext]
    exact hkeeps.late_eq
  have hnow : next.now = next.batch.timed.now := by
    rw [now, hlate, Nat.add_zero]
  have hasked : next.asked = run.asked := by rw [hnext]
  have hregistry : next.registry = run.registry := by rw [hnext]
  have htold : next.told = run.told := by rw [hnext]
  refine ⟨more.length, ?_⟩
  rw [afterAll_takes lead timeout next hmore htaken (hnow ▸ htimes)]
  refine ⟨?_, rfl, rfl, rfl⟩
  constructor
  case taken_eq =>
    rw [htaken, hmore, List.length_append]
  case late_eq => exact hlate
  case registry_eq =>
    simp only [hmore, Registry.takeResults_append, hasked, hregistry, hkeeps.registry_eq]
  case told_eq =>
    simp only [hmore, Registry.takeResults_append, hasked, hregistry, htold, hkeeps.registry_eq,
      hkeeps.told_eq, List.append_assoc]

theorem afterAll_append (run : RefreshRun kind) (events more : List RefreshEvent) :
    run.afterAll lead timeout (events ++ more) =
      (run.afterAll lead timeout events).afterAll lead timeout more :=
  List.foldl_append

/-- A refresh can keep up with the course of a batch. -/
theorem exists_keepsUp (lead : HostPort → Option Endpoint) (timeout : Nat) (kind : ProbeKind)
    (registry : Registry) (addresses : List Endpoint) (maxAge : Option Nat) (timed : Timed)
    (course : List BatchEvent) :
    ∃ events,
      let run := (start kind registry addresses maxAge timed).afterAll lead timeout events
      run.KeepsUp registry (registry.fresh kind addresses maxAge timed.now) ∧
        run.batch = BatchRun.course lead timeout kind
          ((registry.stale kind addresses maxAge timed.now).map HostPort.ofEndpoint) timed course ∧
        run.isClosed = false ∧ run.asked = registry.stale kind addresses maxAge timed.now := by
  induction course using List.reverseRecOn with
  | nil => exact ⟨[], ⟨rfl, rfl, rfl, (List.append_nil _).symm⟩, rfl, rfl, rfl⟩
  | append_singleton course event ih =>
      obtain ⟨events, hkeeps, hbatch, hclosed, hasked⟩ := ih
      obtain ⟨run, hrun⟩ : ∃ run, (start kind registry addresses maxAge timed).afterAll lead
          timeout events = run := ⟨_, rfl⟩
      rw [hrun] at hkeeps hbatch hclosed hasked
      have hproceed : run.after lead timeout (.proceed event) =
          { run with
            batch := run.batch.after lead timeout event
            given := run.given ++ (run.batch.gives? event).toList } := by
        rw [after, hclosed, if_neg Bool.false_ne_true]
      obtain ⟨count, hlast, hlastBatch, hlastClosed, hlastAsked⟩ :=
        hkeeps.exists_takes lead timeout (run.after lead timeout (.proceed event))
          (by rw [hproceed]) (by rw [hproceed]; exact run.batch.exists_results_after event)
      refine ⟨events ++ (.proceed event :: List.replicate count .take), ?_⟩
      rw [afterAll_append, hrun, BatchRun.course_concat, ← hbatch]
      refine ⟨hlast, hlastBatch.trans ?_, hlastClosed.trans ?_, hlastAsked.trans ?_⟩
      · rw [hproceed]
      · rw [hproceed]
        exact hclosed
      · rw [hproceed]
        exact hasked

/-- A refresh can keep up with a batch until the batch is closed. -/
theorem exists_keepsUp_close (lead : HostPort → Option Endpoint) (timeout : Nat) (kind : ProbeKind)
    (registry : Registry) (addresses : List Endpoint) (maxAge : Option Nat) (timed : Timed)
    (course : List BatchEvent) :
    ∃ events,
      let run := (start kind registry addresses maxAge timed).afterAll lead timeout events
      run.KeepsUp registry (registry.fresh kind addresses maxAge timed.now) ∧
        run.batch = (BatchRun.course lead timeout kind
          ((registry.stale kind addresses maxAge timed.now).map HostPort.ofEndpoint) timed
          course).close ∧
        run.isClosed = true ∧ run.asked = registry.stale kind addresses maxAge timed.now := by
  obtain ⟨events, hkeeps, hbatch, hclosed, hasked⟩ :=
    exists_keepsUp lead timeout kind registry addresses maxAge timed course
  obtain ⟨run, hrun⟩ : ∃ run, (start kind registry addresses maxAge timed).afterAll lead timeout
      events = run := ⟨_, rfl⟩
  rw [hrun] at hkeeps hbatch hclosed hasked
  have hclose : run.after lead timeout .close =
      { run with batch := run.batch.close, isClosed := true } := by
    rw [after, hclosed, if_neg Bool.false_ne_true]
  obtain ⟨count, hlast, hlastBatch, hlastClosed, hlastAsked⟩ :=
    hkeeps.exists_takes lead timeout (run.after lead timeout .close) (by rw [hclose])
      (by rw [hclose]; exact run.batch.exists_results_close)
  refine ⟨events ++ (.close :: List.replicate count .take), ?_⟩
  rw [afterAll_append, hrun, ← hbatch]
  refine ⟨hlast, hlastBatch.trans ?_, hlastClosed.trans ?_, hlastAsked.trans ?_⟩
  · rw [hclose]
  · rw [hclose]
  · rw [hclose]
    exact hasked

theorem KeepsUp.isFinished (hkeeps : run.KeepsUp registry recent) (hclosed : run.isClosed = true) :
    run.IsFinished :=
  ⟨hclosed, hkeeps.taken_eq⟩

/-- To refresh many servers is to ask those without a recent report and to take the results.  Where
nobody has to be asked, this is as if a batch without inputs had been asked for. -/
theorem exists_batch_refresh (registry : Registry) (service : QueryService) (kind : ProbeKind)
    (addresses : List Endpoint) (maxAge : Option Nat) (timeout : Nat) (patience : Patience) :
    ∃ results course,
      let stale := registry.stale kind addresses maxAge service.now
      let batch := BatchRun.course (Lookups.endpoint? service.resolve)
        (service.batchRequestTimeout timeout) kind (stale.map HostPort.ofEndpoint) service.timed
        course
      let outcome := registry.refresh service kind addresses maxAge timeout patience
      (stale ≠ [] → results =
        (service.probeMany kind (stale.map HostPort.ofEndpoint) timeout patience).2) ∧
        service.Concludes outcome.2.1 results batch ∧ outcome.2.1.now = batch.timed.now ∧
        outcome.1 = (Registry.takeResults stale results registry).1 ∧
        outcome.2.2 = registry.fresh kind addresses maxAge service.now ++
          (Registry.takeResults stale results registry).2 := by
  simp only [Registry.refresh]
  split_ifs with hempty
  · rw [List.isEmpty_iff] at hempty
    rw [hempty]
    exact ⟨[], [], fun hstale => absurd rfl hstale, ⟨rfl, rfl, rfl, rfl⟩, rfl, rfl,
      (List.append_nil _).symm⟩
  · obtain ⟨course, hconcludes, hnow⟩ :=
      service.concludes_probeMany_now kind _ timeout patience
    exact ⟨_, course, fun _ => rfl, hconcludes, hnow, rfl, rfl⟩

/-- The query service refreshes many servers in the course of a refresh, to its end.  It has asked
nobody but those that the batch has asked. -/
theorem exists_refresh (registry : Registry) (service : QueryService) (kind : ProbeKind)
    (addresses : List Endpoint) (maxAge : Option Nat) (timeout : Nat) (patience : Patience) :
    ∃ events,
      let run := (start kind registry addresses maxAge service.timed).afterAll
        (Lookups.endpoint? service.resolve) (service.batchRequestTimeout timeout) events
      let outcome := registry.refresh service kind addresses maxAge timeout patience
      run.IsFinished ∧ outcome.1 = run.registry ∧ outcome.2.2 = run.told ∧
        outcome.2.1.network =
          { service.network.asked kind run.batch.probed with now := outcome.2.1.now } ∧
        outcome.2.1.now = run.now := by
  obtain ⟨results, course, -, hconcludes, hnow, hregistry, htold⟩ :=
    exists_batch_refresh registry service kind addresses maxAge timeout patience
  obtain ⟨events, hkeeps, hbatch, hclosed, hasked⟩ := exists_keepsUp_close
    (Lookups.endpoint? service.resolve) (service.batchRequestTimeout timeout) kind registry
    addresses maxAge service.timed course
  have hnowTimed : service.timed.now = service.now := rfl
  rw [hnowTimed] at hbatch hasked
  refine ⟨events, hkeeps.isFinished hclosed, ?_, ?_, ?_, ?_⟩
  · rw [hregistry, hkeeps.registry_eq, hasked, hbatch, hconcludes.results_eq]
  · rw [htold, hkeeps.told_eq, hasked, hbatch, hconcludes.results_eq, hnowTimed]
  · rw [hbatch]
    exact hconcludes.network_eq
  · rw [hnow, now, hkeeps.late_eq, hbatch]
    rfl

/-! ## Exactness -/

/-- A refresh tells of every server once, as having a recent report or as its request has answered,
and keeps the reports that it cannot replace; and it does so whatever requests are made and
whatever others do meanwhile, wherever the batch is cut.  So does the query service. -/
theorem tells_each_once (kind : ProbeKind) (registry : Registry) (addresses : List Endpoint)
    (maxAge : Option Nat) (calls : List Call) :
    (∀ address, (registry.cached? kind address maxAge (Timed.run calls).now).isSome ↔
      registry.IsRecent kind address maxAge (Timed.run calls).now) ∧
    (∀ (lead : HostPort → Option Endpoint) (timeout : Nat) (events : List RefreshEvent),
      let run := (start kind registry addresses maxAge (Timed.run calls)).afterAll lead timeout
        events
      run.IsExact lead timeout registry addresses maxAge (Timed.run calls).now ∧
        ∃ more, (run.afterAll lead timeout more).IsFinished) ∧
    ∀ (service : QueryService) (timeout : Nat) (patience : Patience),
      service.timed = Timed.run calls →
        ∃ events,
          let run := (start kind registry addresses maxAge service.timed).afterAll
            (Lookups.endpoint? service.resolve) (service.batchRequestTimeout timeout) events
          let outcome := registry.refresh service kind addresses maxAge timeout patience
          run.IsFinished ∧
            run.IsExact (Lookups.endpoint? service.resolve) (service.batchRequestTimeout timeout)
              registry addresses maxAge service.now ∧
            outcome.1 = run.registry ∧ outcome.2.2 = run.told ∧
            outcome.2.1.network =
              { service.network.asked kind run.batch.probed with now := outcome.2.1.now } ∧
            outcome.2.1.now = run.now := by
  have hsteady : ∀ (lead : HostPort → Option Endpoint) (timeout : Nat)
      (events : List RefreshEvent),
      ((start kind registry addresses maxAge (Timed.run calls)).afterAll lead timeout
        events).IsSteady lead (registry.fresh kind addresses maxAge (Timed.run calls).now) :=
    fun _ _ events => isSteady_afterAll (isSteady_start calls registry addresses maxAge) events
  have hexact : ∀ (lead : HostPort → Option Endpoint) (timeout : Nat)
      (events : List RefreshEvent),
      ((start kind registry addresses maxAge (Timed.run calls)).afterAll lead timeout
        events).IsExact lead timeout registry addresses maxAge (Timed.run calls).now :=
    fun lead timeout events => (hsteady lead timeout events).isExact (asked_afterAll _ events)
      (fun _ haddress => serial?_afterAll _ events (asked_afterAll _ events ▸ haddress)) rfl
  refine ⟨fun _ => Registry.isSome_cached?_iff, fun lead timeout events =>
    ⟨hexact lead timeout events, (hsteady lead timeout events).exists_finished timeout⟩, ?_⟩
  intro service timeout patience htimed
  obtain ⟨events, hfinished, houtcome⟩ :=
    exists_refresh registry service kind addresses maxAge timeout patience
  have hnow : service.now = (Timed.run calls).now := congrArg Timed.now htimed
  refine ⟨events, hfinished, ?_, houtcome⟩
  rw [htimed, hnow]
  exact hexact _ _ events

def threeKnown : Registry :=
  ((Registry.empty {}).getOrCreateAll [.loopback 1, .loopback 2, .loopback 3] 0).store .status
    (.loopback 1) ⟨.loopback 1, []⟩ 0

def askingSecond : QueryService :=
  .start {} (.start [⟨.loopback 2, .fixed none (some (HostBehavior.report .status "")), 20, 0⟩]
    true) fun server => .found (.loopback server.port)

/-- The server with a recent report is told first, and the others as their results come. -/
theorem tells_each_once_threeKnown :
    askingSecond.timed = Timed.run [] ∧
    (threeKnown.refresh askingSecond .status
        [.loopback 2, .loopback 1, .loopback 3, .loopback 2] (some 0) 1000 .untilTimeout).2.2 =
      [⟨.loopback 1, .cached⟩, ⟨.loopback 2, .fetched⟩, ⟨.loopback 2, .fetched⟩,
        ⟨.loopback 3, .failed⟩] ∧
    ((threeKnown.refresh askingSecond .status
        [.loopback 2, .loopback 1, .loopback 3, .loopback 2] (some 0) 1000
        .untilTimeout).2.2.map (·.address)).Perm
      [.loopback 2, .loopback 1, .loopback 3, .loopback 2] := by
  have htimed : askingSecond.timed = Timed.run [] := rfl
  obtain ⟨-, -, hservice⟩ := tells_each_once .status threeKnown
    [.loopback 2, .loopback 1, .loopback 3, .loopback 2] (some 0) []
  obtain ⟨events, hfinished, hexact, -, htold, -⟩ :=
    hservice askingSecond 1000 .untilTimeout htimed
  refine ⟨htimed, by decide +kernel, ?_⟩
  rw [htold]
  exact hexact.told_perm hfinished

end RefreshRun

end Muster
