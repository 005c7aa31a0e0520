import Muster.Proofs.Query.Service

/-!
# Results of a batch

Every input of a batch has exactly one result once the batch is closed, wherever its course was cut.
Inputs that lead to one endpoint have their results together, since they are given out by endpoint;
that is why they agree.  A result with a report was made of an answer that was heard.
-/

namespace Muster

open Exchange

variable {kind : ProbeKind}

/-- The report of a result was made of a message that was heard from the endpoint of its input and
has the command of an answer. -/
def ProbeResult.IsHeard (heard : List Inbound) (result : ProbeResult kind) : Prop :=
  ∀ report ∈ result.report, ∃ inbound ∈ heard, ∃ ping, result.endpoint = some inbound.sender ∧
    inbound.message.key = Message.lookupName kind.responseCommand ∧
    kind.report? inbound.sender inbound.message.data ping = some report

namespace Batch

variable {batch other : Batch kind} {now : Nat} {report : Option kind.Report} {indices : List Nat}
  {index : Nat}

/-! ## Giving inputs their results -/

theorem hasResult_iff :
    batch.hasResult index ↔ ∃ result ∈ batch.results, result.index = index := by
  simp [hasResult]

/-- After a result has been added the input has one, unless there is no such input. -/
theorem hasResult_emit (batch : Batch kind) (now : Nat) (report : Option kind.Report)
    (first index : Nat) :
    (batch.emit now report first).hasResult index ↔
      batch.hasResult index ∨ (index = first ∧ index < batch.servers.length) := by
  rw [emit]
  cases hserver : batch.servers[first]? with
  | none =>
      have hout := List.getElem?_eq_none_iff.mp hserver
      refine (or_iff_left ?_).symm
      rintro ⟨rfl, hin⟩
      exact absurd hin (Nat.not_lt.mpr hout)
  | some server =>
      obtain ⟨hin, -⟩ := List.getElem?_eq_some_iff.mp hserver
      simp only
      split_ifs with hresult
      · refine (or_iff_left_of_imp ?_).symm
        rintro ⟨rfl, -⟩
        exact hresult
      · rw [hasResult_iff, hasResult_iff]
        simp only [List.mem_append, List.mem_singleton]
        constructor
        · rintro ⟨result, hearlier | rfl, rfl⟩
          · exact Or.inl ⟨result, hearlier, rfl⟩
          · exact Or.inr ⟨rfl, hin⟩
        · rintro (⟨result, hearlier, hindex⟩ | ⟨rfl, -⟩)
          · exact ⟨result, Or.inl hearlier, hindex⟩
          · exact ⟨_, Or.inr rfl, rfl⟩

theorem servers_emit (batch : Batch kind) (now : Nat) (report : Option kind.Report)
    (index : Nat) : (batch.emit now report index).servers = batch.servers :=
  batch.servers_emitAll now report [index]

theorem endpoints_emit (batch : Batch kind) (now : Nat) (report : Option kind.Report)
    (index : Nat) : (batch.emit now report index).endpoints = batch.endpoints :=
  batch.endpoints_emitAll now report [index]

/-- Which inputs have a result once several inputs have been given theirs. -/
theorem hasResult_emitAll (batch : Batch kind) (now : Nat) (report : Option kind.Report)
    (indices : List Nat) (index : Nat) :
    (batch.emitAll now report indices).hasResult index ↔
      batch.hasResult index ∨ (index ∈ indices ∧ index < batch.servers.length) := by
  induction indices generalizing batch with
  | nil => simp [emitAll]
  | cons first rest ih =>
      have hrest := ih (batch.emit now report first)
      rw [hasResult_emit, servers_emit, or_assoc] at hrest
      rw [emitAll, List.foldl_cons, ← emitAll, hrest, List.mem_cons, or_and_right]

/-- A result that is new belongs to one of the inputs that are given theirs, and says of it what is
known. -/
structure IsNew (batch : Batch kind) (report : Option kind.Report) (indices : List Nat)
    (result : ProbeResult kind) : Prop where
  index_mem : result.index ∈ indices
  hasResult_eq : batch.hasResult result.index = false
  server_eq : batch.servers[result.index]? = some result.server
  endpoint_eq : result.endpoint = (batch.endpoints[result.index]?).join
  report_eq : result.report = report

theorem mem_results_emit {result : ProbeResult kind}
    (hresult : result ∈ (batch.emit now report index).results) :
    result ∈ batch.results ∨ batch.IsNew report [index] result := by
  rw [emit] at hresult
  cases hserver : batch.servers[index]? with
  | none =>
      rw [hserver] at hresult
      exact Or.inl hresult
  | some server =>
      rw [hserver] at hresult
      simp only at hresult
      split_ifs at hresult with hhas
      · exact Or.inl hresult
      · rcases List.mem_append.mp hresult with hearlier | hnew
        · exact Or.inl hearlier
        · rw [List.mem_singleton.mp hnew]
          exact Or.inr ⟨List.mem_singleton_self _, Bool.eq_false_iff.mpr hhas, hserver, rfl, rfl⟩

/-- Adding a report gives results to those inputs that it is about and have none. -/
theorem mem_results_emitAll {result : ProbeResult kind}
    (hresult : result ∈ (batch.emitAll now report indices).results) :
    result ∈ batch.results ∨ batch.IsNew report indices result := by
  induction indices generalizing batch with
  | nil => exact Or.inl hresult
  | cons first rest ih =>
      rcases ih hresult with hearlier | hnew
      · refine (mem_results_emit hearlier).imp_right fun hnew => ⟨?_, hnew.hasResult_eq,
          hnew.server_eq, hnew.endpoint_eq, hnew.report_eq⟩
        rw [List.mem_singleton.mp hnew.index_mem]
        exact List.mem_cons_self
      · obtain ⟨hmember, hhas, hserver, hendpoint, hreport⟩ := hnew
        rw [Bool.eq_false_iff, ne_eq, hasResult_emit, not_or, ← ne_eq, ← Bool.eq_false_iff] at hhas
        rw [servers_emit] at hserver
        rw [endpoints_emit] at hendpoint
        exact Or.inr ⟨List.mem_cons_of_mem _ hmember, hhas.1, hserver, hendpoint, hreport⟩

theorem nodup_indices_emitAll (hindices : (batch.results.map (·.index)).Nodup) (now : Nat)
    (report : Option kind.Report) (indices : List Nat) :
    ((batch.emitAll now report indices).results.map (·.index)).Nodup := by
  induction indices generalizing batch with
  | nil => exact hindices
  | cons first rest ih => exact ih (nodup_indices_emit hindices now report first)

/-! ## Results that agree -/

/-- No input has two results, results say of their inputs what is known, and inputs with the same
endpoint have theirs together and with the same report. -/
structure IsTallied (batch : Batch kind) : Prop where
  length_eq : batch.endpoints.length = batch.servers.length
  nodup_indices : (batch.results.map (·.index)).Nodup
  server_eq : ∀ result ∈ batch.results, batch.servers[result.index]? = some result.server
  endpoint_eq : ∀ result ∈ batch.results, batch.endpoints[result.index]? = some result.endpoint
  together : ∀ first second, batch.endpoints[first]? = batch.endpoints[second]? →
    batch.hasResult first = batch.hasResult second
  agree : ∀ first ∈ batch.results, ∀ second ∈ batch.results,
    first.endpoint = second.endpoint → first.report = second.report
  unreported : ∀ result ∈ batch.results, result.endpoint = none → result.report = none

theorem IsTallied.congr (htallied : batch.IsTallied) (hservers : other.servers = batch.servers)
    (hendpoints : other.endpoints = batch.endpoints) (hresults : other.results = batch.results) :
    other.IsTallied := by
  have hhas : ∀ index, other.hasResult index = batch.hasResult index := by
    intro index
    rw [hasResult, hresults, hasResult]
  constructor
  case length_eq => rw [hendpoints, hservers, htallied.length_eq]
  case nodup_indices => rw [hresults]; exact htallied.nodup_indices
  case server_eq => rw [hresults, hservers]; exact htallied.server_eq
  case endpoint_eq => rw [hresults, hendpoints]; exact htallied.endpoint_eq
  case together =>
    intro first second hsame
    rw [hendpoints] at hsame
    rw [hhas, hhas, htallied.together first second hsame]
  case agree => rw [hresults]; exact htallied.agree
  case unreported => rw [hresults]; exact htallied.unreported

theorem IsNew.endpoints_eq {result : ProbeResult kind} (hnew : batch.IsNew report indices result)
    (htallied : batch.IsTallied) : batch.endpoints[result.index]? = some result.endpoint := by
  obtain ⟨hin, -⟩ := List.getElem?_eq_some_iff.mp hnew.server_eq
  rw [← htallied.length_eq] at hin
  rw [hnew.endpoint_eq, List.getElem?_eq_getElem hin, Option.join_some]

/-- Inputs are given the same result if all inputs with the same endpoint are among them, and it is
none where an input has no endpoint. -/
theorem IsTallied.emitAll (htallied : batch.IsTallied) (now : Nat)
    (hindices : ∀ first second, batch.endpoints[first]? = batch.endpoints[second]? →
      (first ∈ indices ↔ second ∈ indices))
    (hreport : ∀ index ∈ indices, batch.endpoints[index]? = some none → report = none) :
    (batch.emitAll now report indices).IsTallied := by
  -- Of two inputs with the same endpoint, either both or none had a result before.
  have hapart : ∀ first ∈ batch.results, ∀ second, batch.IsNew report indices second →
      first.endpoint ≠ second.endpoint := by
    intro first hfirst second hsecond hsame
    have hboth : batch.endpoints[first.index]? = batch.endpoints[second.index]? := by
      rw [htallied.endpoint_eq first hfirst, hsecond.endpoints_eq htallied, hsame]
    have hhas : batch.hasResult first.index := hasResult_iff.mpr ⟨first, hfirst, rfl⟩
    rw [htallied.together _ _ hboth, hsecond.hasResult_eq] at hhas
    exact absurd hhas (by decide)
  constructor
  case length_eq => rw [endpoints_emitAll, servers_emitAll, htallied.length_eq]
  case nodup_indices => exact nodup_indices_emitAll htallied.nodup_indices now report indices
  case server_eq =>
    intro result hresult
    rw [servers_emitAll]
    rcases mem_results_emitAll hresult with hearlier | hnew
    · exact htallied.server_eq result hearlier
    · exact hnew.server_eq
  case endpoint_eq =>
    intro result hresult
    rw [endpoints_emitAll]
    rcases mem_results_emitAll hresult with hearlier | hnew
    · exact htallied.endpoint_eq result hearlier
    · exact hnew.endpoints_eq htallied
  case together =>
    intro first second hsame
    rw [endpoints_emitAll] at hsame
    have hbound : first < batch.servers.length ↔ second < batch.servers.length := by
      rw [← htallied.length_eq, ← not_iff_not, Nat.not_lt, Nat.not_lt,
        ← List.getElem?_eq_none_iff, ← List.getElem?_eq_none_iff, hsame]
    rw [Bool.eq_iff_iff, hasResult_emitAll, hasResult_emitAll, htallied.together _ _ hsame,
      hindices _ _ hsame, hbound]
  case agree =>
    intro first hfirst second hsecond hsame
    rcases mem_results_emitAll hfirst with hfirst | hfirst
    · rcases mem_results_emitAll hsecond with hsecond | hsecond
      · exact htallied.agree first hfirst second hsecond hsame
      · exact absurd hsame (hapart first hfirst second hsecond)
    · rcases mem_results_emitAll hsecond with hsecond | hsecond
      · exact absurd hsame.symm (hapart second hsecond first hfirst)
      · rw [hfirst.report_eq, hsecond.report_eq]
  case unreported =>
    intro result hresult hnone
    rcases mem_results_emitAll hresult with hearlier | hnew
    · exact htallied.unreported result hearlier hnone
    · rw [hnew.report_eq]
      apply hreport result.index hnew.index_mem
      rw [hnew.endpoints_eq htallied, hnone]

theorem mem_indicesOf_iff {endpoint : Option Endpoint} :
    index ∈ batch.indicesOf endpoint ↔ batch.endpoints[index]? = some endpoint := by
  refine ⟨mem_indicesOf, fun hendpoint => ?_⟩
  obtain ⟨hin, -⟩ := List.getElem?_eq_some_iff.mp hendpoint
  exact List.mem_filter.mpr ⟨List.mem_range.mpr hin, beq_iff_eq.mpr hendpoint⟩

/-- Inputs are given their results by endpoint. -/
theorem IsTallied.emitAll_indicesOf (htallied : batch.IsTallied) (now : Nat)
    {endpoint : Option Endpoint} (hreport : endpoint = none → report = none) :
    (batch.emitAll now report (batch.indicesOf endpoint)).IsTallied := by
  apply htallied.emitAll
  · intro first second hsame
    rw [mem_indicesOf_iff, mem_indicesOf_iff, hsame]
  · intro index hindex hnone
    rw [mem_indicesOf_iff, hnone] at hindex
    exact hreport (Option.some.inj hindex).symm

/-- Inputs without a result are given none. -/
theorem IsTallied.emitAll_range (htallied : batch.IsTallied) (now : Nat) :
    (batch.emitAll now none (List.range batch.servers.length)).IsTallied := by
  apply htallied.emitAll
  · intro first second hsame
    rw [List.mem_range, List.mem_range, ← htallied.length_eq, ← not_iff_not, Nat.not_lt,
      Nat.not_lt, ← List.getElem?_eq_none_iff, ← List.getElem?_eq_none_iff, hsame]
  · exact fun _ _ _ => rfl

/-- Before any result is given, all is well. -/
theorem isTallied_of_results (hlength : batch.endpoints.length = batch.servers.length)
    (hresults : batch.results = []) : batch.IsTallied := by
  have hhas : ∀ index, batch.hasResult index = false := by
    intro index
    rw [hasResult, hresults]
    rfl
  refine ⟨hlength, ?_, ?_, ?_, ?_, ?_, ?_⟩
  · rw [hresults]
    exact List.nodup_nil
  · simp [hresults]
  · simp [hresults]
  · intro first second _
    rw [hhas, hhas]
  · simp [hresults]
  · simp [hresults]

/-- The results in order are those of the inputs one after the other. -/
theorem sorted_indices {results : List (ProbeResult kind)} {count : Nat}
    (hindices : (results.map (·.index)).Perm (List.range count)) :
    (sorted results).map (·.index) = List.range count := by
  have hperm := ((Order.arrange_perm (fun left right : ProbeResult kind =>
    left.index ≤ right.index) results).map (·.index)).trans hindices
  refine hperm.eq_of_pairwise (fun _ _ _ _ => Nat.le_antisymm) ?_ List.pairwise_le_range
  have hordered : (sorted results).Pairwise fun left right => decide (left.index ≤ right.index) :=
    Order.pairwise_arrange (by simpa using fun _ _ _ => Nat.le_trans)
      (by simpa using fun _ _ => Nat.le_total _ _) results
  exact List.pairwise_map.mpr (hordered.imp of_decide_eq_true)

end Batch

namespace BatchRun

variable {lead : HostPort → Option Endpoint} {timeout : Nat} {servers : List HostPort}
  {timed : Timed} {run : BatchRun kind} {event : BatchEvent} {heard more : List Inbound}

/-! ## Results in the course of a batch -/

/-- The results so far agree with each other, and their reports were made of what was heard. -/
structure IsTruthful (run : BatchRun kind) : Prop where
  tallied : run.batch.IsTallied
  heard : ∀ result ∈ run.batch.results, result.IsHeard run.heard

theorem isTruthful_start (servers : List HostPort) (timed : Timed) :
    (start kind servers timed).IsTruthful where
  tallied := Batch.isTallied_of_results (List.length_map _) rfl
  heard := fun _ hresult => absurd hresult List.not_mem_nil

/-- What an event does to the results if it gives none. -/
theorem results_after (hresolve : event ≠ .resolve) (hcollect : event ≠ .collect) :
    (run.after lead timeout event).batch.results = run.batch.results := by
  cases event with
  | resolve => exact absurd rfl hresolve
  | collect => exact absurd rfl hcollect
  | lookUp => rfl
  | place =>
      rw [after, act, Batch.place]
      split <;> rfl
  | send =>
      rw [after]
      cases run.batch.placed with
      | none => rfl
      | some target => split_ifs <;> rfl
  | launch isSent =>
      rw [after, act, Batch.launch_fst]
  | other call =>
      rw [after]
      split_ifs <;> rfl

theorem isTruthful_resolve (htruthful : run.IsTruthful) (hsteady : run.IsSteady lead servers) :
    (run.after lead timeout .resolve).IsTruthful := by
  rw [after]
  split_ifs with hcomplete
  · rw [Bool.and_eq_true, Bool.not_eq_true'] at hcomplete
    have hresults : run.batch.results = [] := by
      rw [(hsteady.fresh hcomplete.1).1]
      rfl
    constructor
    · apply Batch.IsTallied.emitAll_indicesOf
      · exact Batch.isTallied_of_results (List.length_map _) hresults
      · exact fun _ => rfl
    · intro result hresult report hreport
      rcases Batch.mem_results_emitAll hresult with hearlier | hnew
      · have hnone : result ∈ run.batch.results := hearlier
        rw [hresults] at hnone
        exact absurd hnone List.not_mem_nil
      · rw [hnew.report_eq] at hreport
        exact absurd hreport (Option.not_mem_none report)
  · exact htruthful

/-- The report of an outcome that is taken was made of a message that was heard. -/
theorem isTruthful_collect (htruthful : run.IsTruthful) (hsteady : run.IsSteady lead servers) :
    (run.after lead timeout .collect).IsTruthful := by
  rw [after]
  cases hdelivery : run.batch.nextDelivery? run.timed.exchange with
  | none => exact htruthful
  | some delivery =>
      obtain ⟨hdelivered, target, htarget, hid, hfound⟩ := Batch.nextDelivery?_eq_some hdelivery
      have hkept := hsteady.kept target htarget
      have hcollected : { run.batch with
          collected := run.batch.collected ++ [delivery.request] }.IsTallied :=
        htruthful.tallied.congr rfl rfl rfl
      simp only [act, Batch.collect_fst hfound]
      constructor
      · exact hcollected.emitAll_indicesOf _ (by simp)
      · intro result hresult report hreport
        rcases Batch.mem_results_emitAll hresult with hearlier | hnew
        · exact htruthful.heard result hearlier report hreport
        · have hendpoint : result.endpoint = some target.endpoint := by
            have hindex := Batch.mem_indicesOf hnew.index_mem
            rw [hnew.endpoints_eq hcollected] at hindex
            exact Option.some.inj hindex
          obtain ⟨known, hget, -, hkey⟩ := hkept.known
          rw [hnew.report_eq, hget, Option.bind_some] at hreport
          cases houtcome : delivery.outcome with
          | error error =>
              rw [houtcome] at hreport
              exact absurd hreport (Option.not_mem_none report)
          | ok inbound =>
              have hown : delivery ∈ run.timed.exchange.deliveriesTo target.request :=
                List.mem_filter.mpr ⟨hdelivered, beq_iff_eq.mpr hid.symm⟩
              obtain ⟨hheard, hsender, hcommand⟩ := hkept.answers delivery hown inbound houtcome
              rw [houtcome] at hreport
              have hasked : known.endpoint = inbound.sender := by
                rw [hsender]
                exact (Prod.mk.inj hkey).1
              refine ⟨inbound, hheard, known.ping inbound, ?_, hcommand, ?_⟩
              · rw [hendpoint, hsender]
              · rw [← hasked]
                exact hreport

theorem isTruthful_after (htruthful : run.IsTruthful) (hsteady : run.IsSteady lead servers)
    (event : BatchEvent) : (run.after lead timeout event).IsTruthful := by
  by_cases hresolve : event = .resolve
  · rw [hresolve]
    exact isTruthful_resolve htruthful hsteady
  by_cases hcollect : event = .collect
  · rw [hcollect]
    exact isTruthful_collect htruthful hsteady
  · have hresults : (run.after lead timeout event).batch.results = run.batch.results :=
      results_after hresolve hcollect
    obtain ⟨hservers, hendpoints, -⟩ := batch_after hresolve
    refine ⟨htruthful.tallied.congr hservers hendpoints hresults, ?_⟩
    rw [hresults, heard_after]
    intro result hresult report hreport
    obtain ⟨inbound, hheard, hmade⟩ := htruthful.heard result hresult report hreport
    exact ⟨inbound, List.mem_append_left _ hheard, hmade⟩

/-- All results in the course of a batch are right. -/
theorem isTruthful_course (horderly : timed.exchange.IsOrderly) (hswept : timed.exchange.IsSwept)
    (servers : List HostPort) (events : List BatchEvent) :
    (course lead timeout kind servers timed events).IsTruthful := by
  have hboth : ∀ run : BatchRun kind, ∀ event, run.IsSteady lead servers ∧ run.IsTruthful →
      (run.after lead timeout event).IsSteady lead servers ∧
        (run.after lead timeout event).IsTruthful :=
    fun run event hrun =>
      ⟨isSteady_after run event hrun.1, isTruthful_after hrun.2 hrun.1 event⟩
  exact (course_induction
    ⟨isSteady_start horderly hswept servers, isTruthful_start servers timed⟩ hboth events).2

/-! ## Closing -/

theorem isTruthful_close (htruthful : run.IsTruthful) : run.close.IsTruthful := by
  have hidle : { run.batch with waiting := [], placed := none }.IsTallied :=
    htruthful.tallied.congr rfl rfl rfl
  constructor
  · exact hidle.emitAll_range run.timed.now
  · intro result hresult report hreport
    rcases Batch.mem_results_emitAll hresult with hearlier | hnew
    · exact htruthful.heard result hearlier report hreport
    · rw [hnew.report_eq] at hreport
      exact absurd hreport (Option.not_mem_none report)

theorem servers_close (run : BatchRun kind) : run.close.batch.servers = run.batch.servers :=
  Batch.servers_emitAll ..

theorem endpoints_close (run : BatchRun kind) :
    run.close.batch.endpoints = run.batch.endpoints :=
  Batch.endpoints_emitAll ..

/-- Every input of a batch that is closed has one result. -/
theorem indices_close (htruthful : run.IsTruthful) :
    (run.close.batch.results.map (·.index)).Perm (List.range run.batch.servers.length) := by
  have hclosed := (isTruthful_close htruthful).tallied
  rw [List.perm_ext_iff_of_nodup hclosed.nodup_indices List.nodup_range]
  intro index
  rw [List.mem_map, ← Batch.hasResult_iff, List.mem_range]
  constructor
  · intro hhas
    obtain ⟨result, hresult, rfl⟩ := Batch.hasResult_iff.mp hhas
    obtain ⟨hin, -⟩ := List.getElem?_eq_some_iff.mp (hclosed.server_eq result hresult)
    rwa [servers_close] at hin
  · intro hin
    exact (Batch.hasResult_emitAll ..).mpr (Or.inr ⟨List.mem_range.mpr hin, hin⟩)

/-! ## One result for each input -/

/-- The results of a batch are right. -/
structure IsFaithful (lead : HostPort → Option Endpoint) (servers : List HostPort)
    (run : BatchRun kind) (results : List (ProbeResult kind)) : Prop where
  /-- Every input has exactly one result. -/
  indices_perm : (results.map (·.index)).Perm (List.range servers.length)
  /-- In order, the results are those of the inputs one after the other. -/
  indices_sorted : (Batch.sorted results).map (·.index) = List.range servers.length
  sorted_perm : (Batch.sorted results).Perm results
  server_eq : ∀ result ∈ results, servers[result.index]? = some result.server
  /-- No server is looked up twice. -/
  lookups_nodup : run.lookups.Nodup
  lookups_subset : run.lookups ⊆ servers
  /-- No endpoint is sent two datagrams. -/
  probed_nodup : run.probed.Nodup
  probed_lead : ∀ endpoint ∈ run.probed, ∃ server ∈ servers, lead server = some endpoint
  /-- Once the lookups have come to their end, the endpoints are those to which the names lead. -/
  endpoint_eq : ∀ result ∈ results,
    result.endpoint = if run.isResolved then lead result.server else none
  /-- Inputs whose names lead to one endpoint have the same report. -/
  agree : ∀ first ∈ results, ∀ second ∈ results, lead first.server = lead second.server →
    first.endpoint = second.endpoint ∧ first.report = second.report
  /-- Nothing is told of an input whose name leads nowhere. -/
  unresolved : ∀ result ∈ results, lead result.server = none →
    result.endpoint = none ∧ result.report = none
  /-- A report was made of an answer that came from the endpoint of its input. -/
  heard : ∀ result ∈ results, result.IsHeard run.heard

/-- Only endpoints of requests are asked, in their order. -/
theorem probed_sublist (hlined : run.IsLinedUp) :
    run.probed.Sublist (run.batch.targets.map (·.endpoint)) := by
  obtain ⟨sent, htargets, hprobed⟩ := hlined
  refine hprobed.trans (List.Sublist.map _ ?_)
  rw [htargets]
  refine List.Sublist.append_left ?_ sent
  split_ifs
  · exact List.sublist_append_left _ _
  · exact List.nil_sublist _

/-- Each endpoint is asked once, however many inputs lead there. -/
theorem nodup_probed (hsteady : run.IsSteady lead servers) :
    run.probed.Nodup ∧
      ∀ endpoint ∈ run.probed, ∃ server ∈ servers, lead server = some endpoint := by
  cases hresolved : run.isResolved with
  | false =>
      rw [(hsteady.fresh hresolved).2]
      exact ⟨List.nodup_nil, fun _ hendpoint => absurd hendpoint List.not_mem_nil⟩
  | true =>
      have hprobed := probed_sublist hsteady.isLinedUp
      rw [hsteady.targets_eq hresolved] at hprobed
      refine ⟨(Parts.nodup_eraseDups _).sublist hprobed, ?_⟩
      intro endpoint hendpoint
      have hled := List.mem_eraseDups.mp (hprobed.subset hendpoint)
      rw [List.mem_filterMap] at hled
      obtain ⟨led, hmember, rfl⟩ := hled
      exact List.mem_map.mp hmember

theorem nodup_lookups (hlooked : run.lookups <+: Lookups.distinct servers) :
    run.lookups.Nodup ∧ run.lookups ⊆ servers := by
  refine ⟨(Parts.nodup_eraseDups _).sublist hlooked.sublist, ?_⟩
  intro server hserver
  exact (Order.mem_arrange _).mp (List.mem_eraseDups.mp (hlooked.subset hserver))

/-- A result names the endpoint to which its input leads, if the batch has looked that up. -/
theorem endpoint_close (hsteady : run.IsSteady lead servers) (htruthful : run.IsTruthful) :
    ∀ result ∈ run.close.batch.results,
      result.endpoint = if run.isResolved then lead result.server else none := by
  intro result hresult
  have hclosed := (isTruthful_close htruthful).tallied
  have hserver := hclosed.server_eq result hresult
  have hendpoint := hclosed.endpoint_eq result hresult
  rw [servers_close, hsteady.servers_eq] at hserver
  rw [endpoints_close] at hendpoint
  cases hresolved : run.isResolved with
  | true =>
      rw [hsteady.endpoints_eq hresolved, List.getElem?_map, hserver] at hendpoint
      exact (Option.some.inj hendpoint).symm
  | false =>
      rw [(hsteady.fresh hresolved).1, Batch.start, List.getElem?_map, hserver] at hendpoint
      exact (Option.some.inj hendpoint).symm

theorem isFaithful_close (hsteady : run.IsSteady lead servers) (htruthful : run.IsTruthful) :
    run.IsFaithful lead servers run.close.batch.results := by
  have hclosed := isTruthful_close htruthful
  have hindices := indices_close htruthful
  have hendpoints := endpoint_close hsteady htruthful
  rw [hsteady.servers_eq] at hindices
  obtain ⟨hlookups, hsubset⟩ := nodup_lookups hsteady.looked
  obtain ⟨hprobed, hlead⟩ := nodup_probed hsteady
  constructor
  case indices_perm => exact hindices
  case indices_sorted => exact Batch.sorted_indices hindices
  case sorted_perm => exact Order.arrange_perm _ _
  case server_eq =>
    rw [← hsteady.servers_eq, ← servers_close]
    exact hclosed.tallied.server_eq
  case lookups_nodup => exact hlookups
  case lookups_subset => exact hsubset
  case probed_nodup => exact hprobed
  case probed_lead => exact hlead
  case endpoint_eq => exact hendpoints
  case agree =>
    intro first hfirst second hsecond hsame
    have hboth : first.endpoint = second.endpoint := by
      rw [hendpoints first hfirst, hendpoints second hsecond, hsame]
    exact ⟨hboth, hclosed.tallied.agree first hfirst second hsecond hboth⟩
  case unresolved =>
    intro result hresult hnone
    have hendpoint : result.endpoint = none := by
      rw [hendpoints result hresult, hnone, ite_self]
    exact ⟨hendpoint, hclosed.tallied.unreported result hresult hendpoint⟩
  case heard => exact hclosed.heard

/-- A batch gives every input its one right result, whatever others do with the exchange before and
meanwhile, and wherever its course is cut; so does the query service when it asks many servers. -/
theorem answers_each_once (kind : ProbeKind) (calls : List Call) (servers : List HostPort) :
    (∀ (lead : HostPort → Option Endpoint) (timeout : Nat) (events : List BatchEvent),
      let run := course lead timeout kind servers (Timed.run calls) events
      run.IsFaithful lead servers run.close.batch.results) ∧
    ∀ (service : QueryService) (timeout : Nat) (patience : Patience),
      service.timed = Timed.run calls →
        ∃ events,
          let run := course (Lookups.endpoint? service.resolve)
            (service.batchRequestTimeout timeout) kind servers service.timed events
          service.Concludes (service.probeMany kind servers timeout patience).1
            (service.probeMany kind servers timeout patience).2 run ∧
          run.IsFaithful (Lookups.endpoint? service.resolve) servers
            (service.probeMany kind servers timeout patience).2 := by
  obtain ⟨horderly, hswept⟩ := Timed.isOrderly_run calls
  have hfaithful : ∀ (lead : HostPort → Option Endpoint) (timeout : Nat)
      (events : List BatchEvent),
      (course lead timeout kind servers (Timed.run calls) events).IsFaithful lead servers
        (course lead timeout kind servers (Timed.run calls) events).close.batch.results :=
    fun _ _ events => isFaithful_close (isSteady_course horderly hswept servers events)
      (isTruthful_course horderly hswept servers events)
  refine ⟨hfaithful, ?_⟩
  intro service timeout patience htimed
  obtain ⟨events, hconcludes⟩ :=
    QueryService.concludes_probeMany service kind servers timeout patience
  refine ⟨events, hconcludes, ?_⟩
  rw [hconcludes.results_eq, htimed]
  exact hfaithful _ _ events

/-- Two names lead to a server that answers, one to an endpoint where none is. -/
def leadThree (server : HostPort) : Resolution :=
  if server.host = "alpha" ∨ server.host = "beta" then .found (.loopback 28960)
  else if server.host = "gamma" then .found (.loopback 28961)
  else .notFound

/-- One input is named twice, two more share its endpoint or lead nowhere. -/
def askedFive : List HostPort :=
  [⟨"alpha", 1⟩, ⟨"beta", 1⟩, ⟨"delta", 1⟩, ⟨"gamma", 1⟩, ⟨"alpha", 1⟩]

def askingFive : QueryService :=
  .start {} (.start [⟨.loopback 28960, .fixed none (some (HostBehavior.report .status "")), 20, 0⟩]
    true) leadThree

/-- Inputs that share an endpoint share its report, and an input that leads nowhere has no
endpoint. -/
theorem answers_each_once_askedFive :
    askingFive.timed = Timed.run [] ∧
    (askingFive.probeMany .status askedFive 1000 .untilTimeout).2.map
        (fun result => (result.index, result.endpoint, result.report.isSome)) =
      [(2, none, false), (0, some (.loopback 28960), true), (1, some (.loopback 28960), true),
        (4, some (.loopback 28960), true), (3, some (.loopback 28961), false)] ∧
    (Batch.sorted (askingFive.probeMany .status askedFive 1000 .untilTimeout).2).map (·.index) =
      List.range askedFive.length := by
  have htimed : askingFive.timed = Timed.run [] := rfl
  obtain ⟨-, hprobes⟩ := answers_each_once .status [] askedFive
  obtain ⟨events, -, hfaithful⟩ := hprobes askingFive 1000 .untilTimeout htimed
  exact ⟨htimed, by decide +kernel, hfaithful.indices_sorted⟩

end BatchRun

end Muster
