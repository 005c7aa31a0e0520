import Muster.Proofs.Query.Continuity
import Muster.Proofs.Registry.Memory
import Muster.Proofs.Registry.Service

/-!
# Calls for reports

Whoever gets one report or refreshes many does so in the course of what the registry remembers: some
servers are asked, and each probe comes to its end at its time.  So what is stored after any calls
is what the last valid answers reported.
-/

namespace Muster

open Exchange

variable {kind : ProbeKind} {address : Endpoint} {maxAge : Option Nat}

namespace Registry

variable {registry : Registry}

theorem takeResult_fst {asked : List Endpoint} {result : ProbeResult kind}
    (hasked : asked[result.index]? = some address) (registry : Registry) :
    (takeResult asked registry result).1 =
      (registry.conclude kind address result.report result.time).1 := by
  rw [takeResult, hasked]
  cases result.report <;> rfl

end Registry

/-! ## Reports that probes bring -/

/-- A report that a probe has brought. -/
structure FetchedReport where
  kind : ProbeKind
  address : Endpoint
  report : kind.Report
  time : Nat

def EndedProbe.fetched? (lead : HostPort → Option Endpoint) (probe : EndedProbe) :
    Option FetchedReport :=
  (probe.answer.bind (·.report? lead probe.kind probe.address)).map
    (⟨probe.kind, probe.address, ·, probe.time⟩)

/-- The report of a result of a batch that asked the given servers. -/
def ProbeResult.fetched? (asked : List Endpoint) (result : ProbeResult kind) :
    Option FetchedReport :=
  asked[result.index]?.bind fun address =>
    result.report.map (⟨kind, address, ·, result.time⟩)

namespace ReportRun

variable {lead : HostPort → Option Endpoint} {run : ReportRun}

/-- The reports that probes have brought, in the order in which they came. -/
def fetched (lead : HostPort → Option Endpoint) (run : ReportRun) : List FetchedReport :=
  run.ended.filterMap (·.fetched? lead)

theorem afterAll_append (run : ReportRun) (events more : List ReportEvent) :
    run.afterAll lead (events ++ more) = (run.afterAll lead events).afterAll lead more :=
  List.foldl_append

/-- The probes of these servers have been begun. -/
def HasProbed (run : ReportRun) (kind : ProbeKind) (addresses : List Endpoint) : Prop :=
  ∀ address ∈ addresses, (kind, address) ∈ run.probed

/-- The probes of servers without a recent report have been begun once reports are asked for. -/
theorem hasProbed_ask (lead : HostPort → Option Endpoint) (run : ReportRun) (kind : ProbeKind)
    (maxAge : Option Nat) {addresses : List Endpoint}
    (hknown : ∀ address ∈ addresses, (run.registry.get? address).isSome) :
    (run.after lead (.ask kind addresses maxAge)).HasProbed kind
      (run.registry.stale kind addresses maxAge run.now) := by
  intro address haddress
  apply List.mem_append_right
  have hmember := (List.mem_filter.mp haddress).1
  exact List.mem_map_of_mem (List.mem_filter.mpr ⟨haddress, hknown address hmember⟩)

/-- A probe comes to its end at some time. -/
theorem exists_finish (lead : HostPort → Option Endpoint) (hprobed : (kind, address) ∈ run.probed)
    (answer : Option ProbeAnswer) {time : Nat} (htime : run.now ≤ time) :
    ∃ events,
      let report := answer.bind (·.report? lead kind address)
      let last := run.afterAll lead events
      last.registry = (run.registry.conclude kind address report time).1 ∧ last.now = time ∧
        last.probed = run.probed ∧
        last.fetched lead = run.fetched lead ++
          (report.map (FetchedReport.mk kind address · time)).toList := by
  have hwait : run.after lead (.wait (time - run.now)) = { run with now := time } := by
    rw [after, Nat.add_sub_of_le htime]
  refine ⟨[.wait (time - run.now), .finish kind address answer], ?_⟩
  rw [afterAll, List.foldl_cons, hwait, List.foldl_cons, List.foldl_nil, after, if_pos hprobed]
  refine ⟨rfl, rfl, rfl, ?_⟩
  rw [fetched, List.filterMap_append, ← fetched]
  rfl

/-- A result of a batch is taken at its time. -/
theorem exists_takeResult (lead : HostPort → Option Endpoint) {asked : List Endpoint}
    {result : ProbeResult kind} (hprobed : run.HasProbed kind asked)
    (htime : run.now ≤ result.time)
    (hanswers : ∀ address, asked[result.index]? = some address →
      ∃ answer : Option ProbeAnswer, result.report = answer.bind (·.report? lead kind address)) :
    ∃ events,
      (run.afterAll lead events).registry = (Registry.takeResult asked run.registry result).1 ∧
        (run.afterAll lead events).now = result.time ∧
        (run.afterAll lead events).probed = run.probed ∧
        (run.afterAll lead events).fetched lead =
          run.fetched lead ++ (result.fetched? asked).toList := by
  cases hasked : asked[result.index]? with
  | none =>
      refine ⟨[.wait (result.time - run.now)], ?_, ?_, rfl, ?_⟩
      · rw [Registry.takeResult, hasked]
        rfl
      · exact Nat.add_sub_of_le htime
      · rw [ProbeResult.fetched?, hasked]
        exact (List.append_nil _).symm
  | some address =>
      obtain ⟨answer, hanswer⟩ := hanswers address hasked
      rw [Registry.takeResult_fst hasked, ProbeResult.fetched?, hasked, Option.bind_some, hanswer]
      exact exists_finish lead (hprobed address (List.mem_of_getElem? hasked)) answer htime

/-- Results of a batch are taken one after the other, each at its time. -/
theorem exists_takeResults (lead : HostPort → Option Endpoint) {asked : List Endpoint}
    {results : List (ProbeResult kind)} {last : Nat} (hprobed : run.HasProbed kind asked)
    (hordered : results.Pairwise (·.time ≤ ·.time))
    (hwithin : ∀ result ∈ results, run.now ≤ result.time ∧ result.time ≤ last)
    (hlast : run.now ≤ last)
    (hanswers : ∀ result ∈ results, ∀ address, asked[result.index]? = some address →
      ∃ answer : Option ProbeAnswer, result.report = answer.bind (·.report? lead kind address)) :
    ∃ events,
      (run.afterAll lead events).registry = (Registry.takeResults asked results run.registry).1 ∧
        (run.afterAll lead events).now = last ∧
        (run.afterAll lead events).fetched lead =
          run.fetched lead ++ results.filterMap (·.fetched? asked) := by
  induction results generalizing run with
  | nil =>
      refine ⟨[.wait (last - run.now)], rfl, Nat.add_sub_of_le hlast, ?_⟩
      exact (List.append_nil _).symm
  | cons result rest ih =>
      rw [List.forall_mem_cons] at hwithin hanswers
      rw [List.pairwise_cons] at hordered
      obtain ⟨first, hregistry, hnow, hkept, hfetched⟩ :=
        exists_takeResult lead hprobed hwithin.1.1 hanswers.1
      obtain ⟨next, hnext⟩ : ∃ next, run.afterAll lead first = next := ⟨_, rfl⟩
      rw [hnext] at hregistry hnow hkept hfetched
      have hstill : next.HasProbed kind asked := by
        rw [HasProbed, hkept]
        exact hprobed
      have hlater : ∀ other ∈ rest, next.now ≤ other.time ∧ other.time ≤ last := by
        intro other hother
        rw [hnow]
        exact ⟨hordered.1 other hother, (hwithin.2 other hother).2⟩
      obtain ⟨more, hmore, hmoreNow, hmoreFetched⟩ :=
        ih hstill hordered.2 hlater (hnow ▸ hwithin.1.2) hanswers.2
      rw [hregistry] at hmore
      refine ⟨first ++ more, ?_⟩
      rw [afterAll_append, hnext]
      refine ⟨hmore, hmoreNow, ?_⟩
      rw [hmoreFetched, hfetched, List.append_assoc, List.filterMap_cons]
      cases result.fetched? asked <;> rfl

end ReportRun

/-! ## Answers -/

namespace QueryService

variable {service : QueryService}

/-- The report of a probe is that of an answer, if there is one. -/
theorem exists_answer_probe (service : QueryService) (kind : ProbeKind) (address : Endpoint)
    (patience : Patience) :
    ∃ answer : Option ProbeAnswer, (service.probe kind (.ofEndpoint address) patience).2 =
      answer.bind (·.report? (Lookups.endpoint? service.resolve) kind address) := by
  simp only [probe]
  cases hlead : Lookups.endpoint? service.resolve (.ofEndpoint address) with
  | none => exact ⟨none, rfl⟩
  | some endpoint =>
      obtain ⟨⟨next, outcome, ping⟩, htrip⟩ : ∃ trip,
          { service with lookups := service.lookups + 1 }.roundTrip endpoint kind.request
            kind.responseCommand service.config.requestTimeout patience = trip := ⟨_, rfl⟩
      simp only [htrip]
      cases outcome with
      | error error => exact ⟨none, rfl⟩
      | ok inbound =>
          refine ⟨some ⟨inbound.message.data, ping⟩, ?_⟩
          rw [Option.bind_some, ProbeAnswer.report?, hlead, Option.bind_some]

end QueryService

/-- The reports of a batch are those of answers. -/
theorem BatchRun.exists_answer_close {lead : HostPort → Option Endpoint} {asked : List Endpoint}
    {run : BatchRun kind} (hsteady : run.IsSteady lead (asked.map HostPort.ofEndpoint))
    (htruthful : run.IsTruthful) {result : ProbeResult kind}
    (hresult : result ∈ run.close.batch.results) (hasked : asked[result.index]? = some address) :
    ∃ answer : Option ProbeAnswer,
      result.report = answer.bind (·.report? lead kind address) := by
  have hfaithful := isFaithful_close hsteady htruthful
  cases hreport : result.report with
  | none => exact ⟨none, rfl⟩
  | some report =>
      obtain ⟨inbound, -, ping, hsender, -, hmade⟩ := hfaithful.heard result hresult report hreport
      have hserver := hfaithful.server_eq result hresult
      rw [List.getElem?_map, hasked, Option.map_some, Option.some.injEq] at hserver
      have hlead : lead (.ofEndpoint address) = some inbound.sender := by
        have hendpoint := hfaithful.endpoint_eq result hresult
        rw [hsender, ← hserver] at hendpoint
        split_ifs at hendpoint
        exact hendpoint.symm
      refine ⟨some ⟨inbound.message.data, ping⟩, ?_⟩
      rw [Option.bind_some, ProbeAnswer.report?, hlead, Option.bind_some, hmade]

/-! ## Calls -/

/-- What is done with the registry, and with the query service that it has. -/
inductive ReportCall where
  | register (mention : Endpoint) (nameHint : String)
  | fetch (kind : ProbeKind) (address : Endpoint) (maxAge : Option Nat)
  | refresh (kind : ProbeKind) (addresses : List Endpoint) (maxAge : Option Nat) (timeout : Nat)
      (patience : Patience)
  | wait (milliseconds : Nat)

namespace ReportCall

/-- The registry and the query service after a call.  Only servers that are known are asked. -/
def perform (state : Registry × QueryService) : ReportCall → Registry × QueryService
  | .register mention nameHint => (state.1.getOrCreate mention nameHint state.2.now, state.2)
  | .fetch kind address maxAge =>
    if (state.1.get? address).isSome then
      let (registry, service, _) := state.1.fetch state.2 kind address maxAge
      (registry, service)
    else state
  | .refresh kind addresses maxAge timeout patience =>
    let known := addresses.filter fun address => (state.1.get? address).isSome
    let (registry, service, _) := state.1.refresh state.2 kind known maxAge timeout patience
    (registry, service)
  | .wait milliseconds => (state.1, state.2.advance milliseconds)

def fetched (state : Registry × QueryService) : ReportCall → List FetchedReport
  | .register .. | .wait _ => []
  | .fetch kind address maxAge =>
    if (state.1.get? address).isSome ∧
        (state.1.cached? kind address maxAge state.2.now).isNone then
      let (service, report) := state.2.probe kind (.ofEndpoint address) .untilTimeout
      (report.map (⟨kind, address, ·, service.now⟩)).toList
    else []
  | .refresh kind addresses maxAge timeout patience =>
    let known := addresses.filter fun address => (state.1.get? address).isSome
    let stale := state.1.stale kind known maxAge state.2.now
    let (_, results) :=
      state.2.probeMany kind (stale.map HostPort.ofEndpoint) timeout patience
    results.filterMap (·.fetched? stale)

/-- The registry and the query service after calls one after the other, and the reports that their
probes have brought. -/
def performAll : List ReportCall → Registry × QueryService →
    (Registry × QueryService) × List FetchedReport
  | [], state => (state, [])
  | call :: rest, state =>
    let (last, more) := performAll rest (call.perform state)
    (last, call.fetched state ++ more)

end ReportCall

namespace Registry

variable {registry : Registry} {service : QueryService}

/-- A report that is recent enough is the one that is stored. -/
theorem latest?_of_cached? {report : kind.Report}
    (hcached : registry.cached? kind address maxAge service.now = some report) :
    (registry.latest? kind address).map (·.value) = some report := by
  obtain ⟨server, hget, hserver⟩ := Option.bind_eq_some_iff.mp hcached
  obtain ⟨age, -, hfresh⟩ := Option.bind_eq_some_iff.mp hserver
  obtain ⟨stamped, hstamped, rfl⟩ := Option.map_eq_some_iff.mp hfresh
  rw [latest?, hget, Option.bind_some, (Option.filter_eq_some_iff.mp hstamped).1, Option.map_some]

/-- Where no report is recent enough the server is asked. -/
theorem fetch_of_stale
    (hstale : registry.cached? kind address maxAge service.now = none)
    {probed : QueryService × Option kind.Report}
    (hprobed : service.probe kind (.ofEndpoint address) .untilTimeout = probed) :
    registry.fetch service kind address maxAge =
      ((registry.conclude kind address probed.2 probed.1.now).1, probed.1,
        (registry.conclude kind address probed.2 probed.1.now).2) := by
  rw [fetch, hstale, ← hprobed]

theorem goesOn_fetch (hservice : ∃ calls, service.timed = Timed.run calls) (registry : Registry)
    (kind : ProbeKind) (address : Endpoint) (maxAge : Option Nat) :
    service.GoesOn (registry.fetch service kind address maxAge).2.1 := by
  cases hcached : registry.cached? kind address maxAge service.now with
  | some report =>
      rw [fetch, hcached]
      exact .refl service
  | none =>
      rw [fetch_of_stale hcached rfl]
      exact QueryService.goesOn_probe hservice kind _ .untilTimeout

/-- What becomes of the wish for one report. -/
structure Fetches (registry : Registry) (service : QueryService) (kind : ProbeKind)
    (address : Endpoint) (maxAge : Option Nat) : Prop where
  /-- Nobody is asked exactly if the stored report is recent enough. -/
  unasked_iff : (registry.fetch service kind address maxAge).2.1 = service ↔
    registry.IsRecent kind address maxAge service.now
  /-- Then that report is told. -/
  recent : registry.IsRecent kind address maxAge service.now →
    ∃ stamped, registry.latest? kind address = some stamped ∧
      registry.fetch service kind address maxAge = (registry, service, some stamped.value)
  /-- A report that comes is stored with the present time, and told. -/
  answered : ¬ registry.IsRecent kind address maxAge service.now →
    ∀ report, (service.probe kind (.ofEndpoint address) .untilTimeout).2 = some report →
      (registry.fetch service kind address maxAge).2.2 = some report ∧
      registry.Replaces (registry.fetch service kind address maxAge).1 kind address
        ⟨report, (registry.fetch service kind address maxAge).2.1.now⟩
  /-- Where none comes nothing changes, and the stored report is told, whatever its age. -/
  failed : ¬ registry.IsRecent kind address maxAge service.now →
    (service.probe kind (.ofEndpoint address) .untilTimeout).2 = none →
      (registry.fetch service kind address maxAge).1 = registry ∧
      (registry.fetch service kind address maxAge).2.2 =
        (registry.latest? kind address).map (·.value)

theorem fetches (registry : Registry) (service : QueryService) (kind : ProbeKind)
    (address : Endpoint) (maxAge : Option Nat) :
    registry.Fetches service kind address maxAge := by
  cases hcached : registry.cached? kind address maxAge service.now with
  | some report =>
      have hrecent : registry.IsRecent kind address maxAge service.now :=
        isSome_cached?_iff.mp (hcached ▸ rfl)
      have hfetch : registry.fetch service kind address maxAge =
          (registry, service, some report) := by
        rw [fetch, hcached]
      constructor
      case unasked_iff =>
        rw [hfetch]
        exact ⟨fun _ => hrecent, fun _ => rfl⟩
      case recent =>
        intro _
        obtain ⟨stamped, hlatest, rfl⟩ := Option.map_eq_some_iff.mp (latest?_of_cached? hcached)
        exact ⟨stamped, hlatest, hfetch⟩
      case answered => exact fun hstale => absurd hrecent hstale
      case failed => exact fun hstale => absurd hrecent hstale
  | none =>
      have hstale : ¬ registry.IsRecent kind address maxAge service.now := by
        rw [← isSome_cached?_iff, hcached]
        exact Bool.false_ne_true
      have hfetch := fetch_of_stale hcached rfl
      constructor
      case unasked_iff =>
        refine iff_of_false ?_ hstale
        intro hsame
        have hlookups := (service.lookups_probe kind (.ofEndpoint address) .untilTimeout).2
        rw [hfetch] at hsame
        rw [hsame] at hlookups
        exact absurd hlookups (Nat.ne_of_lt (Nat.lt_succ_self _))
      case recent => exact fun hrecent => absurd hrecent hstale
      case answered =>
        intro _ report hreport
        rw [hfetch, hreport]
        exact ⟨rfl, replaces_store ..⟩
      case failed =>
        intro _ hnone
        rw [hfetch, hnone]
        exact ⟨rfl, rfl⟩

theorem goesOn_refresh (service : QueryService) (registry : Registry) (kind : ProbeKind)
    (addresses : List Endpoint) (maxAge : Option Nat) (timeout : Nat) (patience : Patience) :
    service.GoesOn (registry.refresh service kind addresses maxAge timeout patience).2.1 := by
  simp only [refresh]
  split_ifs
  · exact .refl service
  · exact service.goesOn_probeMany ..

/-- The results that a refresh takes come one after the other between its beginning and its end, and
their reports are those of answers. -/
theorem exists_results_refresh (hservice : ∃ calls, service.timed = Timed.run calls)
    (registry : Registry) (kind : ProbeKind) (addresses : List Endpoint) (maxAge : Option Nat)
    (timeout : Nat) (patience : Patience) :
    ∃ results : List (ProbeResult kind),
      let stale := registry.stale kind addresses maxAge service.now
      let outcome := registry.refresh service kind addresses maxAge timeout patience
      outcome.1 = (takeResults stale results registry).1 ∧
        results.filterMap (·.fetched? stale) =
          (service.probeMany kind (stale.map HostPort.ofEndpoint) timeout patience).2.filterMap
            (·.fetched? stale) ∧
        results.Pairwise (·.time ≤ ·.time) ∧
        (∀ result ∈ results, service.now ≤ result.time ∧ result.time ≤ outcome.2.1.now) ∧
        ∀ result ∈ results, ∀ address, stale[result.index]? = some address →
          ∃ answer : Option ProbeAnswer,
            result.report = answer.bind (·.report? (Lookups.endpoint? service.resolve) kind
              address) := by
  obtain ⟨calls, htimed⟩ := hservice
  obtain ⟨horderly, hswept⟩ := Timed.isOrderly_run calls
  obtain ⟨results, course, hresults, hconcludes, hended, hrefreshed, -⟩ :=
    RefreshRun.exists_batch_refresh registry service kind addresses maxAge timeout patience
  obtain ⟨stale, hstale⟩ : ∃ stale, registry.stale kind addresses maxAge service.now = stale :=
    ⟨_, rfl⟩
  rw [hstale] at hresults hconcludes hended hrefreshed
  let batch := BatchRun.course (Lookups.endpoint? service.resolve)
    (service.batchRequestTimeout timeout) kind (stale.map HostPort.ofEndpoint) service.timed course
  have hsteady : batch.IsSteady (Lookups.endpoint? service.resolve)
      (stale.map HostPort.ofEndpoint) := by
    simp only [batch, htimed]
    exact BatchRun.isSteady_course horderly hswept _ course
  have htruthful : batch.IsTruthful := by
    simp only [batch, htimed]
    exact BatchRun.isTruthful_course horderly hswept _ course
  have htimely : batch.close.IsTimely service.now := BatchRun.isTimely_close _ service.timed course
  have hclosed : batch.close.batch.results = results := hconcludes.results_eq.symm
  obtain ⟨-, hordered, hwithin⟩ := htimely
  rw [hclosed] at hordered hwithin
  refine ⟨results, ?_⟩
  rw [hstale]
  refine ⟨hrefreshed, ?_, hordered, ?_, ?_⟩
  · by_cases hempty : stale = []
    · have hnone : ∀ result : ProbeResult kind, result.fetched? stale = none := by
        intro result
        rw [ProbeResult.fetched?, hempty]
        rfl
      rw [List.filterMap_eq_nil_iff.mpr fun result _ => hnone result,
        List.filterMap_eq_nil_iff.mpr fun result _ => hnone result]
    · rw [hresults hempty]
  · rw [hended]
    exact hwithin
  · intro result hresult address haddress
    rw [← hclosed] at hresult
    exact BatchRun.exists_answer_close hsteady htruthful hresult haddress

end Registry

namespace ReportRun

variable {run : ReportRun} {state : Registry × QueryService} {fetched : List FetchedReport}

/-- The registry and the time are those of the run, and so are the reports that probes have
brought. -/
structure Shows (lead : HostPort → Option Endpoint) (run : ReportRun)
    (state : Registry × QueryService) (fetched : List FetchedReport) : Prop where
  registry_eq : state.1 = run.registry
  now_eq : state.2.now = run.now
  fetched_eq : run.fetched lead = fetched

theorem goesOn_perform (hservice : ∃ calls, state.2.timed = Timed.run calls) (call : ReportCall) :
    state.2.GoesOn (call.perform state).2 := by
  cases call with
  | register mention nameHint => exact .refl state.2
  | fetch kind address maxAge =>
      rw [ReportCall.perform]
      split_ifs
      · exact Registry.goesOn_fetch hservice ..
      · exact .refl state.2
  | refresh kind addresses maxAge timeout patience => exact Registry.goesOn_refresh ..
  | wait milliseconds => exact state.2.goesOn_advance milliseconds

/-- To get one report is to ask one server and to wait for the end of the probe. -/
theorem exists_fetch (hshows : run.Shows (Lookups.endpoint? state.2.resolve) state fetched)
    (hservice : ∃ calls, state.2.timed = Timed.run calls) (kind : ProbeKind) (address : Endpoint)
    (maxAge : Option Nat) :
    ∃ events, (run.afterAll (Lookups.endpoint? state.2.resolve) events).Shows
      (Lookups.endpoint? state.2.resolve) ((ReportCall.fetch kind address maxAge).perform state)
      (fetched ++ (ReportCall.fetch kind address maxAge).fetched state) := by
  obtain ⟨hregistry, hnow, hfetched⟩ := hshows
  have hgoes := Registry.goesOn_fetch hservice state.1 kind address maxAge
  rw [ReportCall.perform, ReportCall.fetched]
  by_cases hknown : (state.1.get? address).isSome
  case neg =>
    rw [if_neg hknown, if_neg fun hboth => hknown hboth.1]
    exact ⟨[], hregistry, hnow, hfetched.trans (List.append_nil _).symm⟩
  case pos =>
    rw [if_pos hknown]
    cases hcached : state.1.cached? kind address maxAge state.2.now with
    | some report =>
        rw [Registry.fetch, hcached, if_neg (by simp)]
        exact ⟨[], hregistry, hnow, hfetched.trans (List.append_nil _).symm⟩
    | none =>
        have hfetch := Registry.fetch_of_stale hcached rfl
        rw [hfetch] at hgoes
        obtain ⟨answer, hanswer⟩ := state.2.exists_answer_probe kind address .untilTimeout
        have hprobed : (kind, address) ∈ (run.after (Lookups.endpoint? state.2.resolve)
            (.ask kind [address] maxAge)).probed := by
          have hall := hasProbed_ask (Lookups.endpoint? state.2.resolve) run kind maxAge
            (List.forall_mem_singleton.mpr (hregistry ▸ hknown))
          rw [← hregistry, ← hnow, Registry.stale, List.filter_singleton, hcached,
            Option.isNone_none, cond_true] at hall
          exact hall address (List.mem_singleton_self _)
        have hlater : run.now ≤ (state.2.probe kind (.ofEndpoint address) .untilTimeout).1.now :=
          hnow ▸ hgoes.now_le
        obtain ⟨events, hlast, hlastNow, -, hlastFetched⟩ :=
          exists_finish (Lookups.endpoint? state.2.resolve) hprobed answer hlater
        rw [hfetch, if_pos ⟨hknown, rfl⟩]
        simp only [hanswer, hregistry]
        refine ⟨.ask kind [address] maxAge :: events, hlast.symm, hlastNow.symm, ?_⟩
        rw [← hfetched]
        exact hlastFetched

/-- To refresh many servers is to ask those without a recent report and to wait for the ends of the
probes. -/
theorem exists_refresh (hshows : run.Shows (Lookups.endpoint? state.2.resolve) state fetched)
    (hservice : ∃ calls, state.2.timed = Timed.run calls) (kind : ProbeKind)
    (addresses : List Endpoint) (maxAge : Option Nat) (timeout : Nat) (patience : Patience) :
    ∃ events, (run.afterAll (Lookups.endpoint? state.2.resolve) events).Shows
      (Lookups.endpoint? state.2.resolve)
      ((ReportCall.refresh kind addresses maxAge timeout patience).perform state)
      (fetched ++ (ReportCall.refresh kind addresses maxAge timeout patience).fetched state) := by
  obtain ⟨hregistry, hnow, hfetched⟩ := hshows
  let known := addresses.filter fun address => (state.1.get? address).isSome
  obtain ⟨results, hrefreshed, hsame, hordered, hwithin, hanswers⟩ :=
    Registry.exists_results_refresh hservice state.1 kind known maxAge timeout patience
  have hgoes := Registry.goesOn_refresh state.2 state.1 kind known maxAge timeout patience
  have hknown : ∀ address ∈ known, (run.registry.get? address).isSome := by
    intro address haddress
    rw [← hregistry]
    exact (List.mem_filter.mp haddress).2
  have hprobed := hasProbed_ask (Lookups.endpoint? state.2.resolve) run kind maxAge hknown
  rw [← hregistry, ← hnow] at hprobed
  obtain ⟨events, hlast, hlastNow, hlastFetched⟩ := exists_takeResults
    (Lookups.endpoint? state.2.resolve) hprobed hordered (hnow ▸ hwithin) (hnow ▸ hgoes.now_le)
    hanswers
  refine ⟨.ask kind known maxAge :: events, ?_, hlastNow.symm, ?_⟩
  · have hasked : (run.after (Lookups.endpoint? state.2.resolve)
        (.ask kind known maxAge)).registry = state.1 := hregistry.symm
    rw [hasked, ← hrefreshed] at hlast
    exact hlast.symm
  · rw [← hfetched]
    rw [hsame] at hlastFetched
    exact hlastFetched

/-- Every call is made in the course of what the registry remembers. -/
theorem exists_perform (hshows : run.Shows (Lookups.endpoint? state.2.resolve) state fetched)
    (hservice : ∃ calls, state.2.timed = Timed.run calls) (call : ReportCall) :
    ∃ events, (run.afterAll (Lookups.endpoint? state.2.resolve) events).Shows
      (Lookups.endpoint? state.2.resolve) (call.perform state)
      (fetched ++ call.fetched state) := by
  cases call with
  | fetch kind address maxAge => exact exists_fetch hshows hservice kind address maxAge
  | refresh kind addresses maxAge timeout patience =>
      exact exists_refresh hshows hservice kind addresses maxAge timeout patience
  | register mention nameHint =>
      refine ⟨[.register mention nameHint], ?_, hshows.now_eq, ?_⟩
      · rw [ReportCall.perform, hshows.registry_eq, hshows.now_eq]
        rfl
      · exact hshows.fetched_eq.trans (List.append_nil _).symm
  | wait milliseconds =>
      refine ⟨[.wait milliseconds], hshows.registry_eq, ?_, ?_⟩
      · exact congrArg (· + milliseconds) hshows.now_eq
      · exact hshows.fetched_eq.trans (List.append_nil _).symm

/-- Each call for reports is a sequence of events of the registry that asks. -/
theorem exists_performAll (hshows : run.Shows (Lookups.endpoint? state.2.resolve) state fetched)
    (hservice : ∃ calls, state.2.timed = Timed.run calls) (calls : List ReportCall) :
    ∃ events, (run.afterAll (Lookups.endpoint? state.2.resolve) events).Shows
      (Lookups.endpoint? state.2.resolve) (ReportCall.performAll calls state).1
      (fetched ++ (ReportCall.performAll calls state).2) := by
  induction calls generalizing run state fetched with
  | nil =>
      rw [ReportCall.performAll, List.append_nil]
      exact ⟨[], hshows⟩
  | cons call rest ih =>
      have hgoes := goesOn_perform hservice call
      obtain ⟨first, hfirst⟩ := exists_perform hshows hservice call
      rw [← hgoes.resolve_eq] at hfirst
      obtain ⟨more, hmore⟩ := ih hfirst (hgoes.history hservice)
      rw [hgoes.resolve_eq, List.append_assoc] at hmore
      refine ⟨first ++ more, ?_⟩
      rw [afterAll_append]
      exact hmore

/-! ## What is remembered -/

/-- What is right about the reports that are stored. -/
structure Remembers (lead : HostPort → Option Endpoint) (run : ReportRun) : Prop where
  /-- The stored report is that of the last valid answer, with the time at which the answer came;
  there is none as long as none came. -/
  latest_eq : ∀ kind address, run.registry.latest? kind address =
    EndedProbe.lastValid? lead kind address run.ended
  storedAt_le : ∀ kind address stamped, run.registry.latest? kind address = some stamped →
    stamped.storedAt ≤ run.now
  /-- It stays, or gives way to a later one. -/
  lasting : ∀ events kind address stamped, run.registry.latest? kind address = some stamped →
    ∃ later, (run.afterAll lead events).registry.latest? kind address = some later ∧
      stamped.storedAt ≤ later.storedAt
  /-- Who wants a report has the server asked, unless the stored report is recent enough. -/
  unasked_iff : ∀ kind address maxAge, (run.registry.get? address).isSome →
    ((run.after lead (.ask kind [address] maxAge)).probed = run.probed ↔
      run.registry.IsRecent kind address maxAge run.now)
  /-- A probe without a valid answer changes no report. -/
  failed : ∀ kind address answer, answer.bind (·.report? lead kind address) = none →
    (run.after lead (.finish kind address answer)).registry = run.registry

theorem IsSteady.remembers {lead : HostPort → Option Endpoint} (hsteady : run.IsSteady lead) :
    run.Remembers lead := by
  constructor
  case latest_eq => exact hsteady.latest_eq
  case storedAt_le => exact fun _ _ _ hlatest => hsteady.storedAt_le hlatest
  case lasting => exact fun events _ _ _ hlatest => hsteady.exists_later_afterAll events hlatest
  case unasked_iff =>
    intro kind address maxAge hknown
    rw [← Registry.isSome_cached?_iff, after, Registry.stale, List.filter_singleton]
    cases run.registry.cached? kind address maxAge run.now with
    | some report => simp
    | none => simp [hknown]
  case failed =>
    intro kind address answer hnone
    rw [after]
    split_ifs
    · simp only [hnone]
      rfl
    · rfl

/-- Whatever reports are asked for, and whatever comes of the probes, the stored report of a server
is that of its last valid answer, and no other outcome changes it.  All calls are made in the course
of this, and one who gets a report has the server asked only if no report is recent enough. -/
theorem remembers_last_answer (config : QueueConfig) :
    (∀ (lead : HostPort → Option Endpoint) (now : Nat) (events : List ReportEvent),
      ((start config now).afterAll lead events).Remembers lead) ∧
    (∀ (registry : Registry) (service : QueryService) (kind : ProbeKind) (address : Endpoint)
      (maxAge : Option Nat), registry.Fetches service kind address maxAge) ∧
    ∀ (service : QueryService) (earlier : List Call), service.timed = Timed.run earlier →
      ∀ calls : List ReportCall, ∃ events,
        let lead := Lookups.endpoint? service.resolve
        let run := (start config service.now).afterAll lead events
        let outcome := ReportCall.performAll calls (Registry.empty config, service)
        run.Remembers lead ∧ run.Shows lead outcome.1 outcome.2 := by
  have hremembers : ∀ (lead : HostPort → Option Endpoint) (now : Nat)
      (events : List ReportEvent), ((start config now).afterAll lead events).Remembers lead :=
    fun _ now events => (isSteady_afterAll (isSteady_start config now) events).remembers
  refine ⟨hremembers, Registry.fetches, ?_⟩
  intro service earlier htimed calls
  have hstart : (start config service.now).Shows (Lookups.endpoint? service.resolve)
      (Registry.empty config, service) [] := ⟨rfl, rfl, rfl⟩
  have hservice : ∃ calls, (Registry.empty config, service).2.timed = Timed.run calls :=
    ⟨earlier, htimed⟩
  obtain ⟨events, hshows⟩ := exists_performAll hstart hservice calls
  exact ⟨events, hremembers _ _ events, hshows⟩

/-- One server answers, another does not. -/
def callsForTwo : List ReportCall :=
  [.register (.loopback 2) "", .fetch .status (.loopback 2) none, .wait 5000,
    .register (.loopback 3) "", .fetch .status (.loopback 3) none,
    .refresh .status [.loopback 3, .loopback 2] (some 60000) 1000 .untilTimeout]

/-- The report of the one server that answered is remembered, and none of the other. -/
theorem remembers_last_answer_callsForTwo :
    RefreshRun.askingSecond.timed = Timed.run [] ∧
    (ReportCall.performAll callsForTwo (Registry.empty {}, RefreshRun.askingSecond)).1.1.latest?
      .status (.loopback 2) = some ⟨⟨.loopback 2, []⟩, 20⟩ ∧
    ∃ run : ReportRun, run.Remembers (Lookups.endpoint? RefreshRun.askingSecond.resolve) ∧
      run.registry.latest? .status (.loopback 3) = none := by
  have htimed : RefreshRun.askingSecond.timed = Timed.run [] := rfl
  obtain ⟨-, -, hcalls⟩ := remembers_last_answer {}
  obtain ⟨events, hremembers, hshows⟩ := hcalls RefreshRun.askingSecond [] htimed callsForTwo
  refine ⟨htimed, by decide +kernel, _, hremembers, ?_⟩
  rw [← hshows.registry_eq]
  decide +kernel

end ReportRun

end Muster
