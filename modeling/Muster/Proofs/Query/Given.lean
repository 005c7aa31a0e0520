import Muster.Proofs.Query.Results

/-!
# What requests give

When a batch takes the outcome of a request it gives all inputs with the endpoint of that request
their results, and it takes no second outcome for that endpoint.  So the results can be read off
what the requests have given: an input has a report exactly if its request has given one.
-/

namespace Muster

open Exchange

variable {kind : ProbeKind}

/-- What the requests of a batch have given: endpoints that were asked, each with the report that
was made of the outcome, if one could be made of it. -/
abbrev Given (kind : ProbeKind) : Type :=
  List (Endpoint × Option kind.Report)

namespace Given

variable {given : Given kind} {endpoint : Endpoint} {report : Option kind.Report}

def report? (given : Given kind) (endpoint : Endpoint) : Option kind.Report :=
  (given.find? fun pair => pair.1 == endpoint).bind (·.2)

theorem report?_of_mem (hnodup : (given.map (·.1)).Nodup) (hpair : (endpoint, report) ∈ given) :
    given.report? endpoint = report := by
  have hfound := Parts.find?_key hnodup hpair
  rw [report?, hfound, Option.bind_some]

theorem report?_eq_none (hendpoint : endpoint ∉ given.map (·.1)) :
    given.report? endpoint = none := by
  have hnone : given.find? (fun pair => pair.1 == endpoint) = none := by
    rw [List.find?_eq_none]
    intro pair hpair hsame
    exact hendpoint (beq_iff_eq.mp hsame ▸ List.mem_map_of_mem hpair)
  rw [report?, hnone, Option.bind_none]

theorem mem_of_report?_eq_some {value : kind.Report}
    (hreport : given.report? endpoint = some value) :
    (endpoint, some value) ∈ given := by
  obtain ⟨⟨other, report⟩, hfound, rfl⟩ := Option.bind_eq_some_iff.mp hreport
  have hsame := List.find?_some hfound
  rw [beq_iff_eq] at hsame
  rw [← hsame]
  exact List.mem_of_find?_eq_some hfound

end Given

namespace Batch

variable {batch : Batch kind} {now : Nat} {report : Option kind.Report} {indices : List Nat}

@[simp]
theorem collected_emitAll :
    (batch.emitAll now report indices).collected = batch.collected := by
  rw [emitAll_eq]

/-- Results are given behind the others. -/
theorem exists_results_emit (batch : Batch kind) (now : Nat) (report : Option kind.Report)
    (index : Nat) : ∃ more, (batch.emit now report index).results = batch.results ++ more ∧
      ∀ result ∈ more, result.time = now := by
  rw [emit]
  cases batch.servers[index]? with
  | none => exact ⟨[], (List.append_nil _).symm, by simp⟩
  | some server =>
      simp only
      split_ifs
      · exact ⟨[], (List.append_nil _).symm, by simp⟩
      · exact ⟨_, rfl, by simp⟩

/-- New results are of the time at which they are added. -/
theorem exists_results_emitAll (batch : Batch kind) (now : Nat) (report : Option kind.Report)
    (indices : List Nat) :
    ∃ more, (batch.emitAll now report indices).results = batch.results ++ more ∧
      ∀ result ∈ more, result.time = now := by
  induction indices generalizing batch with
  | nil => exact ⟨[], (List.append_nil _).symm, by simp⟩
  | cons first rest ih =>
      obtain ⟨some, hsome, htimes⟩ := exists_results_emit batch now report first
      obtain ⟨more, hmore, hmoreTimes⟩ := ih (batch.emit now report first)
      refine ⟨some ++ more, ?_, ?_⟩
      · rw [emitAll, List.foldl_cons, ← emitAll, hmore, hsome, List.append_assoc]
      · rw [List.forall_mem_append]
        exact ⟨htimes, hmoreTimes⟩

end Batch

namespace BatchRun

variable {lead : HostPort → Option Endpoint} {timeout : Nat} {servers : List HostPort}
  {timed : Timed} {run : BatchRun kind} {event : BatchEvent} {given : Given kind}

/-- What the request gives whose outcome is taken. -/
def gives? (run : BatchRun kind) : BatchEvent → Option (Endpoint × Option kind.Report)
  | .collect => (run.batch.nextDelivery? run.timed.exchange).bind fun delivery =>
    (run.batch.targets.find? fun target => target.request == delivery.request).map fun target =>
      (target.endpoint, (run.timed.exchange.get? target.request).bind fun request =>
        request.report? kind delivery.outcome)
  | _ => none

/-- The results are those that the requests have given. -/
structure IsAccounted (run : BatchRun kind) (given : Given kind) : Prop where
  /-- No endpoint gives twice. -/
  nodup : (given.map (·.1)).Nodup
  collected : ∀ pair ∈ given, ∃ target ∈ run.batch.targets, target.endpoint = pair.1 ∧
    target.request ∈ run.batch.collected
  mem_of_result : ∀ result ∈ run.batch.results, ∀ endpoint, result.endpoint = some endpoint →
    (endpoint, result.report) ∈ given
  hasResult : ∀ pair ∈ given, ∀ index, run.batch.endpoints[index]? = some (some pair.1) →
    run.batch.hasResult index

theorem isAccounted_start (servers : List HostPort) (timed : Timed) :
    (start kind servers timed).IsAccounted [] where
  nodup := List.nodup_nil
  collected := fun _ hpair => absurd hpair List.not_mem_nil
  mem_of_result := fun _ hresult => absurd hresult List.not_mem_nil
  hasResult := fun _ hpair => absurd hpair List.not_mem_nil

theorem collected_after (hcollect : event ≠ .collect) :
    (run.after lead timeout event).batch.collected = run.batch.collected := by
  cases event with
  | collect => exact absurd rfl hcollect
  | lookUp => rfl
  | resolve =>
      rw [after]
      split_ifs
      · exact Batch.collected_emitAll
      · rfl
  | place =>
      rw [after, act, Batch.place]
      split <;> rfl
  | send =>
      rw [after]
      cases run.batch.placed with
      | none => rfl
      | some target => split_ifs <;> rfl
  | launch isSent =>
      rw [after, act, Batch.launch_fst]
  | other call =>
      rw [after]
      split_ifs <;> rfl

theorem gives?_eq_none (hcollect : event ≠ .collect) : run.gives? event = none := by
  cases event with
  | collect => exact absurd rfl hcollect
  | _ => rfl

/-- Before the lookups have come to their end nothing has been given. -/
theorem IsAccounted.eq_nil (haccounted : run.IsAccounted given) (hfresh : run.IsFresh servers) :
    given = [] := by
  rw [List.eq_nil_iff_forall_not_mem]
  intro pair hpair
  obtain ⟨target, htarget, -⟩ := haccounted.collected pair hpair
  rw [hfresh.1] at htarget
  exact absurd htarget List.not_mem_nil

theorem isAccounted_resolve (haccounted : run.IsAccounted given)
    (hsteady : run.IsSteady lead servers) :
    (run.after lead timeout .resolve).IsAccounted given := by
  rw [after]
  split_ifs with hcomplete
  · rw [Bool.and_eq_true, Bool.not_eq_true'] at hcomplete
    have hfresh := hsteady.fresh hcomplete.1
    have hresults : run.batch.results = [] := by
      rw [hfresh.1]
      rfl
    rw [haccounted.eq_nil hfresh]
    refine ⟨List.nodup_nil, by simp, ?_, by simp⟩
    intro result hresult endpoint hendpoint
    rcases Batch.mem_results_emitAll hresult with hearlier | hnew
    · have hearly : result ∈ run.batch.results := hearlier
      rw [hresults] at hearly
      exact absurd hearly List.not_mem_nil
    · have hled := hnew.endpoint_eq
      rw [Batch.mem_indicesOf hnew.index_mem, Option.join_some, hendpoint] at hled
      exact absurd hled (by simp)
  · exact haccounted

/-- An endpoint whose request has not been taken has given nothing. -/
theorem IsAccounted.not_mem (haccounted : run.IsAccounted given)
    (hsteady : run.IsSteady lead servers) {target : BatchTarget}
    (htarget : target ∈ run.batch.targets) (htaken : target.request ∉ run.batch.collected) :
    target.endpoint ∉ given.map (·.1) := by
  intro hgiven
  obtain ⟨pair, hpair, hendpoint⟩ := List.mem_map.mp hgiven
  obtain ⟨other, hother, hsame, hcollected⟩ := haccounted.collected pair hpair
  have hresolved : run.isResolved = true := by
    by_contra hfresh
    rw [(hsteady.fresh (Bool.eq_false_iff.mpr hfresh)).1] at htarget
    exact absurd htarget List.not_mem_nil
  have hdistinct : (run.batch.targets.map (·.endpoint)).Nodup := by
    rw [hsteady.targets_eq hresolved]
    exact Parts.nodup_eraseDups _
  have hone := List.inj_on_of_nodup_map hdistinct hother htarget (hsame.trans hendpoint)
  rw [hone] at hcollected
  exact htaken hcollected

/-- Collecting a delivery adds to the results what the request has given. -/
theorem isAccounted_collect (haccounted : run.IsAccounted given)
    (hsteady : run.IsSteady lead servers) (htruthful : run.IsTruthful) :
    (run.after lead timeout .collect).IsAccounted
      (given ++ (run.gives? .collect).toList) := by
  rw [after, gives?]
  cases hdelivery : run.batch.nextDelivery? run.timed.exchange with
  | none =>
      rw [Option.bind_none, Option.toList_none, List.append_nil]
      exact haccounted
  | some delivery =>
      obtain ⟨-, target, htarget, hid, hfound⟩ := Batch.nextDelivery?_eq_some hdelivery
      have htaken : target.request ∉ run.batch.collected := by
        have hopen := List.find?_some hdelivery
        rw [Bool.and_eq_true, Bool.not_eq_true', ← hid] at hopen
        intro hcollected
        rw [List.contains_iff_mem.mpr hcollected] at hopen
        exact absurd hopen.2 (by decide)
      have hcollected : { run.batch with
          collected := run.batch.collected ++ [delivery.request] }.IsTallied :=
        htruthful.tallied.congr rfl rfl rfl
      simp only [act, Batch.collect_fst hfound, Option.bind_some, hfound, Option.map_some,
        Option.toList_some]
      constructor
      case nodup =>
        rw [List.map_append, List.nodup_append]
        refine ⟨haccounted.nodup, List.nodup_singleton _, ?_⟩
        rintro endpoint hendpoint _ hnew rfl
        rw [List.map_singleton, List.mem_singleton] at hnew
        rw [hnew] at hendpoint
        exact haccounted.not_mem hsteady htarget htaken hendpoint
      case collected =>
        rw [List.forall_mem_append, List.forall_mem_singleton]
        simp only [Batch.targets_emitAll, Batch.collected_emitAll]
        constructor
        · intro pair hpair
          obtain ⟨other, hother, hendpoint, hearlier⟩ := haccounted.collected pair hpair
          exact ⟨other, hother, hendpoint, List.mem_append_left _ hearlier⟩
        · exact ⟨target, htarget, rfl, List.mem_append_right _ (by simp [hid])⟩
      case mem_of_result =>
        intro result hresult endpoint hendpoint
        rw [List.mem_append, List.mem_singleton]
        rcases Batch.mem_results_emitAll hresult with hearlier | hnew
        · exact Or.inl (haccounted.mem_of_result result hearlier endpoint hendpoint)
        · have hindex := Batch.mem_indicesOf hnew.index_mem
          rw [hnew.endpoints_eq hcollected, hendpoint] at hindex
          rw [hnew.report_eq, Option.some.inj (Option.some.inj hindex)]
          exact Or.inr rfl
      case hasResult =>
        intro pair hpair index hindex
        rw [Batch.endpoints_emitAll] at hindex
        rw [Batch.hasResult_emitAll]
        rcases List.mem_append.mp hpair with hearlier | hnew
        · exact Or.inl (haccounted.hasResult pair hearlier index hindex)
        · rw [List.mem_singleton.mp hnew] at hindex
          have hbound := (List.getElem?_eq_some_iff.mp hindex).1
          rw [hcollected.length_eq] at hbound
          exact Or.inr ⟨Batch.mem_indicesOf_iff.mpr hindex, hbound⟩

theorem isAccounted_after (haccounted : run.IsAccounted given)
    (hsteady : run.IsSteady lead servers) (htruthful : run.IsTruthful) (event : BatchEvent) :
    (run.after lead timeout event).IsAccounted (given ++ (run.gives? event).toList) := by
  by_cases hcollect : event = .collect
  · rw [hcollect]
    exact isAccounted_collect haccounted hsteady htruthful
  rw [gives?_eq_none hcollect, Option.toList_none, List.append_nil]
  by_cases hresolve : event = .resolve
  · rw [hresolve]
    exact isAccounted_resolve haccounted hsteady
  · obtain ⟨-, hendpoints, htargets⟩ : (run.after lead timeout event).batch.servers = _ ∧
        (run.after lead timeout event).batch.endpoints = run.batch.endpoints ∧
        (run.after lead timeout event).batch.targets = run.batch.targets := batch_after hresolve
    have hresults : (run.after lead timeout event).batch.results = run.batch.results :=
      results_after hresolve hcollect
    have hcollected : (run.after lead timeout event).batch.collected = run.batch.collected :=
      collected_after hcollect
    constructor
    case nodup => exact haccounted.nodup
    case collected =>
      rw [htargets, hcollected]
      exact haccounted.collected
    case mem_of_result =>
      rw [hresults]
      exact haccounted.mem_of_result
    case hasResult =>
      rw [hendpoints]
      simp only [Batch.hasResult, hresults]
      exact haccounted.hasResult

/-! ## Reading the results off what was given -/

/-- A result has the report that the request to its endpoint has given. -/
def IsToldBy (given : Given kind) (result : ProbeResult kind) : Prop :=
  result.report = result.endpoint.bind given.report?

theorem IsAccounted.isToldBy (haccounted : run.IsAccounted given) (htruthful : run.IsTruthful) :
    ∀ result ∈ run.batch.results, IsToldBy given result := by
  intro result hresult
  rw [IsToldBy]
  cases hendpoint : result.endpoint with
  | none => exact htruthful.tallied.unreported result hresult hendpoint
  | some endpoint =>
      have hpair := haccounted.mem_of_result result hresult endpoint hendpoint
      exact (Given.report?_of_mem haccounted.nodup hpair).symm

/-- What is still open when a batch is closed has been given nothing. -/
theorem IsAccounted.isToldBy_close (haccounted : run.IsAccounted given)
    (htruthful : run.IsTruthful) :
    ∀ result ∈ run.close.batch.results, IsToldBy given result := by
  intro result hresult
  have hidle : { run.batch with waiting := [], placed := none }.IsTallied :=
    htruthful.tallied.congr rfl rfl rfl
  rcases Batch.mem_results_emitAll hresult with hearlier | hnew
  · exact haccounted.isToldBy htruthful result hearlier
  · rw [IsToldBy, hnew.report_eq]
    cases hendpoint : result.endpoint with
    | none => rfl
    | some endpoint =>
        refine (Given.report?_eq_none ?_).symm
        intro hgiven
        obtain ⟨pair, hpair, hsame⟩ := List.mem_map.mp hgiven
        have hindex : run.batch.endpoints[result.index]? = some (some pair.1) := by
          rw [hsame, ← hendpoint]
          exact hnew.endpoints_eq hidle
        have hhas := haccounted.hasResult pair hpair result.index hindex
        exact absurd hhas (Bool.eq_false_iff.mp hnew.hasResult_eq)

/-- A report that was given was made of an answer from the endpoint that was asked. -/
theorem IsAccounted.exists_heard (haccounted : run.IsAccounted given)
    (hsteady : run.IsSteady lead servers) (htruthful : run.IsTruthful) {endpoint : Endpoint}
    {report : kind.Report} (hreport : given.report? endpoint = some report) :
    ∃ inbound ∈ run.heard, inbound.sender = endpoint ∧
      inbound.message.key = Message.lookupName kind.responseCommand ∧
      ∃ ping, kind.report? inbound.sender inbound.message.data ping = some report := by
  have hpair := Given.mem_of_report?_eq_some hreport
  obtain ⟨target, htarget, hendpoint, -⟩ := haccounted.collected _ hpair
  have hresolved : run.isResolved = true := by
    by_contra hfresh
    rw [haccounted.eq_nil (hsteady.fresh (Bool.eq_false_iff.mpr hfresh))] at hpair
    exact absurd hpair List.not_mem_nil
  -- Some input leads to the endpoint, and so it has a result.
  have hled : some endpoint ∈ run.batch.endpoints := by
    have hasked : target.endpoint ∈ run.batch.targets.map (·.endpoint) :=
      List.mem_map_of_mem htarget
    rw [hsteady.targets_eq hresolved, List.mem_eraseDups, List.mem_filterMap] at hasked
    obtain ⟨led, hmember, hsome⟩ := hasked
    have hsame : led = some endpoint := hsome.trans (congrArg some hendpoint)
    rw [hsteady.endpoints_eq hresolved, ← hsame]
    exact hmember
  obtain ⟨index, hindex⟩ := List.mem_iff_getElem?.mp hled
  obtain ⟨result, hresult, rfl⟩ :=
    Batch.hasResult_iff.mp (haccounted.hasResult _ hpair index hindex)
  have hthere := htruthful.tallied.endpoint_eq result hresult
  rw [hindex] at hthere
  have htold := haccounted.isToldBy htruthful result hresult
  rw [IsToldBy, ← Option.some.inj hthere, Option.bind_some, hreport] at htold
  obtain ⟨inbound, hheard, ping, hsender, hkey, hmade⟩ :=
    htruthful.heard result hresult report htold
  rw [← Option.some.inj hthere, Option.some.injEq] at hsender
  exact ⟨inbound, hheard, hsender.symm, hkey, ping, hmade⟩

/-- Results are given behind the others, and at the time at which they become known. -/
theorem exists_results_after (run : BatchRun kind) (event : BatchEvent) :
    ∃ more, (run.after lead timeout event).batch.results = run.batch.results ++ more ∧
      ∀ result ∈ more, result.time = (run.after lead timeout event).timed.now := by
  by_cases hcollect : event = .collect
  · rw [hcollect, after]
    cases hdelivery : run.batch.nextDelivery? run.timed.exchange with
    | none => exact ⟨[], (List.append_nil _).symm, by simp⟩
    | some delivery =>
        obtain ⟨-, target, -, -, hfound⟩ := Batch.nextDelivery?_eq_some hdelivery
        simp only [act, Batch.collect_fst hfound]
        exact Batch.exists_results_emitAll ..
  by_cases hresolve : event = .resolve
  · rw [hresolve, after]
    split_ifs
    · exact Batch.exists_results_emitAll ..
    · exact ⟨[], (List.append_nil _).symm, by simp⟩
  · exact ⟨[], by rw [results_after hresolve hcollect, List.append_nil], by simp⟩

theorem exists_results_close (run : BatchRun kind) :
    ∃ more, run.close.batch.results = run.batch.results ++ more ∧
      ∀ result ∈ more, result.time = run.close.timed.now :=
  Batch.exists_results_emitAll ..

end BatchRun

end Muster
