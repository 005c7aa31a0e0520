import Muster.Proofs.Query.Given
import Muster.Proofs.Registry.Reports

/-!
# Refreshing many servers

A refresh tells of every server that it is given once.  Those whose report is recent enough come
first, in their order, and are not asked.  The others follow as the results of a batch come: a
server whose request has given a report has it from then on, and where none was given the registry
stays as it is.
-/

namespace Muster

open Exchange

/-! ## What a report changes -/

namespace Registry

variable {registry : Registry} {kind : ProbeKind} {address : Endpoint} {maxAge : Option Nat}
  {now : Nat}

/-- The server has a report of the kind that is at most so old. -/
def IsRecent (registry : Registry) (kind : ProbeKind) (address : Endpoint) (maxAge : Option Nat)
    (now : Nat) : Prop :=
  ∃ server stamped age, registry.get? address = some server ∧
    server.latest? kind = some stamped ∧ maxAge = some age ∧ now - stamped.storedAt ≤ age

/-- A report is cached exactly if it is recent enough. -/
theorem isSome_cached?_iff :
    (registry.cached? kind address maxAge now).isSome ↔
      registry.IsRecent kind address maxAge now := by
  rw [cached?, IsRecent]
  cases hget : registry.get? address with
  | none => simp
  | some server =>
      cases maxAge with
      | none => simp [GameServer.cached?]
      | some age =>
          cases hlatest : server.latest? kind with
          | none => simp [GameServer.cached?, hlatest]
          | some stamped =>
              simp [GameServer.cached?, hlatest, Option.filter, Stamped.isFresh]

/-- A report with its time has taken the place of the one of its kind, and nothing else is
changed. -/
structure Replaces (before after : Registry) (kind : ProbeKind) (address : Endpoint)
    (stamped : Stamped kind.Report) : Prop where
  stored : ∀ server, before.get? address = some server →
    ∃ changed, after.get? address = some changed ∧ changed.latest? kind = some stamped ∧
      (∀ other ≠ kind, changed.latest? other = server.latest? other) ∧
      changed.withoutReports = server.withoutReports
  others : ∀ other ≠ address, after.get? other = before.get? other

theorem replaces_store (registry : Registry) (kind : ProbeKind) (address : Endpoint)
    (report : kind.Report) (now : Nat) :
    registry.Replaces (registry.store kind address report now) kind address ⟨report, now⟩ := by
  constructor
  case stored =>
    intro server hget
    have hthere := (mem_of_get? hget).2
    refine ⟨server.store now kind report, ?_, ?_, ?_, ?_⟩
    · rw [get?_store, hget, Option.map_some, if_pos hthere]
    · cases kind <;> rfl
    · intro other hother
      cases kind <;> cases other <;> first | rfl | exact absurd rfl hother
    · exact GameServer.withoutReports_store server now kind report
  case others =>
    intro other hother
    rw [get?_store]
    cases hget : registry.get? other with
    | none => rfl
    | some server =>
        have hthere := (mem_of_get? hget).2
        rw [Option.map_some, if_neg (hthere ▸ hother)]

def serial? (registry : Registry) (address : Endpoint) : Option Nat :=
  (registry.get? address).map (·.serial)

/-- A report that comes does not make another server of the one that it is about. -/
theorem serial?_takeResult (asked : List Endpoint) (registry : Registry)
    (result : ProbeResult kind) (address : Endpoint) :
    (takeResult asked registry result).1.serial? address = registry.serial? address := by
  rcases takeResult_cases asked registry result with
    ⟨reporter, -, report, -, htaken⟩ | ⟨hsame, -⟩
  · have hserial : ∀ server : GameServer,
        (server.store result.time kind report).serial = server.serial := by
      intro server
      cases kind <;> rfl
    rw [htaken, serial?, serial?, get?_store, Option.map_map]
    congr 1
    funext server
    rw [Function.comp_apply]
    split_ifs
    · exact hserial server
    · rfl
  · rw [hsame]

/-- What is told of a result. -/
theorem takeResult_snd (asked : List Endpoint) (registry : Registry) (result : ProbeResult kind) :
    (takeResult asked registry result).2 = asked[result.index]?.map fun address =>
      ⟨address, if result.report.isSome then .fetched else .failed⟩ := by
  rw [takeResult]
  cases asked[result.index]? with
  | none => rfl
  | some address => cases result.report <;> rfl

/-- Results can be taken in several parts. -/
theorem takeResults_append (asked : List Endpoint) (results more : List (ProbeResult kind))
    (registry : Registry) :
    takeResults asked (results ++ more) registry =
      ((takeResults asked more (takeResults asked results registry).1).1,
        (takeResults asked results registry).2 ++
          (takeResults asked more (takeResults asked results registry).1).2) := by
  induction results generalizing registry with
  | nil => rfl
  | cons result rest ih =>
      simp only [List.cons_append, takeResults, ih, List.append_assoc]

end Registry

/-! ## A refresh as it goes on -/

/-- A refresh of many servers among everything else that is done with the registry. -/
structure RefreshRun (kind : ProbeKind) where
  registry : Registry
  /-- The servers that are asked. -/
  asked : List Endpoint
  batch : BatchRun kind
  /-- What the requests of the batch have given. -/
  given : Given kind
  isClosed : Bool
  /-- The time that has passed since the batch was closed. -/
  late : Nat
  /-- How many results have been taken. -/
  taken : Nat
  told : List Refreshed

/-- What happens in the course of a refresh. -/
inductive RefreshEvent where
  /-- The batch goes on, as long as it is not closed. -/
  | proceed (event : BatchEvent)
  | close
  /-- Time passes after the batch has been closed. -/
  | wait (milliseconds : Nat)
  /-- The next result is taken. -/
  | take
  /-- Somebody else changes the registry, but forgets none of the servers that are asked. -/
  | change (registry : Registry)

namespace RefreshRun

variable {kind : ProbeKind}

def start (kind : ProbeKind) (registry : Registry) (addresses : List Endpoint)
    (maxAge : Option Nat) (timed : Timed) : RefreshRun kind :=
  let asked := registry.stale kind addresses maxAge timed.now
  { registry, asked
    batch := .start kind (asked.map HostPort.ofEndpoint) timed
    given := []
    isClosed := false
    late := 0
    taken := 0
    told := registry.fresh kind addresses maxAge timed.now }

def now (run : RefreshRun kind) : Nat :=
  run.batch.timed.now + run.late

/-- Every result has been taken, and no other will come. -/
def IsFinished (run : RefreshRun kind) : Prop :=
  run.isClosed ∧ run.taken = run.batch.batch.results.length

section

variable (lead : HostPort → Option Endpoint) (timeout : Nat)

def after (run : RefreshRun kind) : RefreshEvent → RefreshRun kind
  | .proceed event =>
    if run.isClosed then run
    else
      { run with
        batch := run.batch.after lead timeout event
        given := run.given ++ (run.batch.gives? event).toList }
  | .close => if run.isClosed then run else { run with batch := run.batch.close, isClosed := true }
  | .wait milliseconds =>
    if run.isClosed then { run with late := run.late + milliseconds } else run
  | .take =>
    match run.batch.batch.results[run.taken]? with
    | none => run
    | some result =>
      let (registry, refreshed) :=
        Registry.takeResult run.asked run.registry { result with time := run.now }
      { run with registry, taken := run.taken + 1, told := run.told ++ refreshed.toList }
  | .change registry =>
    if run.asked.all fun address => registry.serial? address == run.registry.serial? address then
      { run with registry }
    else run

def afterAll (run : RefreshRun kind) (events : List RefreshEvent) : RefreshRun kind :=
  events.foldl (after lead timeout) run

/-- The report that the request to a server has given. -/
def gave? (run : RefreshRun kind) (address : Endpoint) : Option kind.Report :=
  (lead (.ofEndpoint address)).bind run.given.report?

/-- What there is to tell of the server at a place among those that are asked. -/
def tell? (run : RefreshRun kind) (place : Nat) : Option Refreshed :=
  run.asked[place]?.map fun address =>
    ⟨address, if (run.gave? lead address).isSome then .fetched else .failed⟩

end

variable {lead : HostPort → Option Endpoint} {timeout : Nat} {run : RefreshRun kind}
  {recent : List Refreshed} {event : RefreshEvent}

/-! ## Where a refresh stands -/

/-- The batch is somewhere in its course, or has been closed there. -/
def IsOnCourse (lead : HostPort → Option Endpoint) (run : RefreshRun kind)
    (before : BatchRun kind) : Prop :=
  before.IsSteady lead (run.asked.map HostPort.ofEndpoint) ∧ before.IsTruthful ∧
    before.IsAccounted run.given ∧ run.batch = if run.isClosed then before.close else before

/-- What has been told are the servers with recent reports, and the results that have been
taken. -/
structure IsSteady (lead : HostPort → Option Endpoint) (recent : List Refreshed)
    (run : RefreshRun kind) : Prop where
  course : ∃ before, run.IsOnCourse lead before
  taken_le : run.taken ≤ run.batch.batch.results.length
  told_eq : run.told = recent ++ (run.batch.batch.results.take run.taken).filterMap fun result =>
    run.asked[result.index]?.map fun address =>
      ⟨address, if result.report.isSome then .fetched else .failed⟩

theorem isSteady_start (calls : List Call) (registry : Registry) (addresses : List Endpoint)
    (maxAge : Option Nat) :
    (start kind registry addresses maxAge (Timed.run calls)).IsSteady lead
      (registry.fresh kind addresses maxAge (Timed.run calls).now) := by
  obtain ⟨horderly, hswept⟩ := Timed.isOrderly_run calls
  constructor
  case course =>
    exact ⟨_, BatchRun.isSteady_start horderly hswept _, BatchRun.isTruthful_start _ _,
      BatchRun.isAccounted_start _ _, rfl⟩
  case taken_le => exact Nat.zero_le _
  case told_eq => exact (List.append_nil _).symm

/-- More results change nothing about those that have been taken. -/
theorem IsSteady.of_results (hsteady : run.IsSteady lead recent) {next : RefreshRun kind}
    (hcourse : ∃ before, next.IsOnCourse lead before) (hasked : next.asked = run.asked)
    (htaken : next.taken = run.taken) (htold : next.told = run.told)
    (hresults : ∃ more, next.batch.batch.results = run.batch.batch.results ++ more ∧
      ∀ result ∈ more, result.time = next.batch.timed.now) :
    next.IsSteady lead recent := by
  obtain ⟨more, hmore, -⟩ := hresults
  constructor
  case course => exact hcourse
  case taken_le =>
    rw [htaken, hmore, List.length_append]
    exact Nat.le_add_right_of_le hsteady.taken_le
  case told_eq =>
    rw [htold, hasked, htaken, hmore, List.take_append_of_le_length hsteady.taken_le]
    exact hsteady.told_eq

theorem isSteady_take (hsteady : run.IsSteady lead recent) :
    (run.after lead timeout .take).IsSteady lead recent := by
  rw [after]
  cases hresult : run.batch.batch.results[run.taken]? with
  | none => exact hsteady
  | some result =>
      constructor
      case course => exact hsteady.course
      case taken_le => exact (List.getElem?_eq_some_iff.mp hresult).1
      case told_eq =>
        simp only
        rw [Registry.takeResult_snd, hsteady.told_eq, List.take_add_one, hresult,
          Option.toList_some, List.filterMap_append, List.append_assoc, List.filterMap_cons,
          List.filterMap_nil]
        cases run.asked[result.index]? <;> rfl

theorem isSteady_after (hsteady : run.IsSteady lead recent) (event : RefreshEvent) :
    (run.after lead timeout event).IsSteady lead recent := by
  obtain ⟨before, hbatch, htruthful, haccounted, hbefore⟩ := hsteady.course
  cases event with
  | take => exact isSteady_take hsteady
  | change registry =>
      rw [after]
      split_ifs <;> exact ⟨hsteady.course, hsteady.taken_le, hsteady.told_eq⟩
  | wait milliseconds =>
      rw [after]
      split_ifs <;> exact ⟨hsteady.course, hsteady.taken_le, hsteady.told_eq⟩
  | close =>
      rw [after]
      split_ifs with hclosed
      · exact hsteady
      · rw [if_neg hclosed] at hbefore
        refine hsteady.of_results ⟨before, hbatch, htruthful, haccounted, ?_⟩ rfl rfl rfl ?_
        · rw [if_pos rfl, hbefore]
        · exact BatchRun.exists_results_close run.batch
  | proceed event =>
      rw [after]
      split_ifs with hclosed
      · exact hsteady
      · rw [if_neg hclosed] at hbefore
        refine hsteady.of_results ⟨before.after lead timeout event, ?_, ?_, ?_, ?_⟩ rfl rfl rfl ?_
        · exact BatchRun.isSteady_after before event hbatch
        · exact BatchRun.isTruthful_after htruthful hbatch event
        · rw [hbefore]
          exact BatchRun.isAccounted_after haccounted hbatch htruthful event
        · rw [if_neg hclosed, hbefore]
        · exact BatchRun.exists_results_after run.batch event

theorem isSteady_afterAll (hsteady : run.IsSteady lead recent) (events : List RefreshEvent) :
    (run.afterAll lead timeout events).IsSteady lead recent :=
  List.foldlRecOn (motive := fun run => IsSteady lead recent run) events _ hsteady
    fun _ hsteady event _ => isSteady_after hsteady event

/-! ## What is told -/

/-- The results so far are among those that the batch ends with. -/
theorem IsOnCourse.mem_close {before : BatchRun kind} (hcourse : run.IsOnCourse lead before)
    {result : ProbeResult kind} (hresult : result ∈ run.batch.batch.results) :
    result ∈ before.close.batch.results := by
  obtain ⟨-, -, -, hbefore⟩ := hcourse
  rw [hbefore] at hresult
  split_ifs at hresult
  · exact hresult
  · obtain ⟨more, hmore, -⟩ := before.exists_results_close
    rw [hmore]
    exact List.mem_append_left _ hresult

/-- A result has the report that the request to its server has given. -/
theorem IsOnCourse.report_eq {before : BatchRun kind} (hcourse : run.IsOnCourse lead before)
    {result : ProbeResult kind} (hresult : result ∈ run.batch.batch.results) :
    ∃ address, run.asked[result.index]? = some address ∧
      result.report = run.gave? lead address := by
  have hclosed := hcourse.mem_close hresult
  obtain ⟨hbatch, htruthful, haccounted, -⟩ := hcourse
  have hfaithful := BatchRun.isFaithful_close hbatch htruthful
  have hserver := hfaithful.server_eq result hclosed
  rw [List.getElem?_map, Option.map_eq_some_iff] at hserver
  obtain ⟨address, haddress, hnamed⟩ := hserver
  refine ⟨address, haddress, ?_⟩
  have htold : result.report = result.endpoint.bind run.given.report? :=
    haccounted.isToldBy_close htruthful result hclosed
  rw [htold, hfaithful.endpoint_eq result hclosed, gave?, hnamed]
  split_ifs with hresolved
  · rfl
  · have hnothing := haccounted.eq_nil (hbatch.fresh (Bool.eq_false_iff.mpr hresolved))
    rw [hnothing]
    cases lead result.server <;> rfl

theorem IsSteady.told_eq_places (hsteady : run.IsSteady lead recent) :
    run.told = recent ++
      ((run.batch.batch.results.take run.taken).map (·.index)).filterMap (run.tell? lead) := by
  obtain ⟨before, hcourse⟩ := hsteady.course
  rw [hsteady.told_eq, List.filterMap_map]
  congr 1
  apply List.filterMap_congr
  intro result hresult
  obtain ⟨address, haddress, hreport⟩ := hcourse.report_eq (List.mem_of_mem_take hresult)
  rw [Function.comp_apply, tell?, haddress, Option.map_some, Option.map_some, hreport]

/-- The places of the results are places of servers that are asked, each once, and all of them once
the batch is closed. -/
theorem IsOnCourse.places {before : BatchRun kind} (hcourse : run.IsOnCourse lead before) :
    (run.batch.batch.results.map (·.index)).Nodup ∧
      (∀ place ∈ run.batch.batch.results.map (·.index), place < run.asked.length) ∧
      (run.isClosed → (run.batch.batch.results.map (·.index)).Perm
        (List.range run.asked.length)) := by
  have hmember : ∀ result ∈ run.batch.batch.results, result ∈ before.close.batch.results :=
    fun _ hresult => hcourse.mem_close hresult
  obtain ⟨hbatch, htruthful, haccounted, hbefore⟩ := hcourse
  have hindices := (BatchRun.isFaithful_close hbatch htruthful).indices_perm
  rw [List.length_map] at hindices
  refine ⟨?_, ?_, ?_⟩
  · rw [hbefore]
    split_ifs
    · exact hindices.nodup_iff.mpr List.nodup_range
    · exact htruthful.tallied.nodup_indices
  · intro place hplace
    obtain ⟨result, hresult, rfl⟩ := List.mem_map.mp hplace
    have hin := hindices.subset (List.mem_map_of_mem (hmember result hresult))
    exact List.mem_range.mp hin
  · intro hclosed
    rw [hbefore, if_pos hclosed]
    exact hindices

/-- What is right about a refresh of some servers, of which those that have a recent report when it
begins are known. -/
structure IsExact (lead : HostPort → Option Endpoint) (timeout : Nat) (registry : Registry)
    (addresses : List Endpoint) (maxAge : Option Nat) (began : Nat) (run : RefreshRun kind) :
    Prop where
  /-- The servers without a recent report are asked. -/
  asked_eq : run.asked = addresses.filter fun address =>
    (registry.cached? kind address maxAge began).isNone
  /-- They are still those that were to be asked. -/
  serial?_eq : ∀ address ∈ run.asked, run.registry.serial? address = registry.serial? address
  /-- Those with a recent one are told of first, in their order, then the others, each once and as
  having answered exactly if their requests have given reports. -/
  told_eq : ∃ places : List Nat, places.Nodup ∧ (∀ place ∈ places, place < run.asked.length) ∧
    run.told = (addresses.filter fun address =>
      (registry.cached? kind address maxAge began).isSome).map (⟨·, .cached⟩) ++
        places.filterMap (run.tell? lead) ∧
    (run.IsFinished → places.Perm (List.range run.asked.length))
  /-- In the end everybody has been told of, as often as they were given. -/
  told_perm : run.IsFinished → (run.told.map (·.address)).Perm addresses
  /-- Without an age nothing is recent enough. -/
  uncached : maxAge = none → ∀ refreshed ∈ run.told, refreshed.source ≠ .cached
  probed_nodup : run.batch.probed.Nodup
  probed_lead : ∀ endpoint ∈ run.batch.probed,
    ∃ address ∈ run.asked, lead (.ofEndpoint address) = some endpoint
  /-- Nobody is asked who has a recent report, as long as addresses lead to themselves. -/
  spared : (∀ address ∈ addresses, lead (.ofEndpoint address) = some address) →
    ∀ address, (registry.cached? kind address maxAge began).isSome → address ∉ run.batch.probed
  /-- A report that was given was made of an answer from the endpoint that was asked. -/
  given_heard : ∀ address report, run.gave? lead address = some report →
    ∃ inbound ∈ run.batch.heard, lead (.ofEndpoint address) = some inbound.sender ∧
      inbound.message.key = Message.lookupName kind.responseCommand ∧
      ∃ ping, kind.report? inbound.sender inbound.message.data ping = some report
  /-- A report that was given is stored with the present time when its result is taken; where none
  was given the registry stays as it is. -/
  takes : ∀ result ∈ run.batch.batch.results[run.taken]?, ∃ address,
    run.asked[result.index]? = some address ∧
    (∀ report, run.gave? lead address = some report →
      (run.after lead timeout .take).told = run.told ++ [⟨address, .fetched⟩] ∧
      run.registry.Replaces (run.after lead timeout .take).registry kind address
        ⟨report, run.now⟩) ∧
    (run.gave? lead address = none →
      (run.after lead timeout .take).told = run.told ++ [⟨address, .failed⟩] ∧
      (run.after lead timeout .take).registry = run.registry)

theorem asked_after (run : RefreshRun kind) (event : RefreshEvent) :
    (run.after lead timeout event).asked = run.asked := by
  cases event with
  | proceed event =>
      rw [after]
      split_ifs <;> rfl
  | close =>
      rw [after]
      split_ifs <;> rfl
  | wait milliseconds =>
      rw [after]
      split_ifs <;> rfl
  | take =>
      rw [after]
      cases run.batch.batch.results[run.taken]? <;> rfl
  | change registry =>
      rw [after]
      split_ifs <;> rfl

theorem asked_afterAll (run : RefreshRun kind) (events : List RefreshEvent) :
    (run.afterAll lead timeout events).asked = run.asked :=
  List.foldlRecOn (motive := fun other : RefreshRun kind => other.asked = run.asked) events _ rfl
    fun _ hother event _ => (asked_after _ event).trans hother

/-- Nobody forgets a server that is asked. -/
theorem serial?_after (run : RefreshRun kind) (event : RefreshEvent) {address : Endpoint}
    (haddress : address ∈ run.asked) :
    (run.after lead timeout event).registry.serial? address = run.registry.serial? address := by
  cases event with
  | proceed event =>
      rw [after]
      split_ifs <;> rfl
  | close =>
      rw [after]
      split_ifs <;> rfl
  | wait milliseconds =>
      rw [after]
      split_ifs <;> rfl
  | take =>
      rw [after]
      cases run.batch.batch.results[run.taken]? with
      | none => rfl
      | some result => exact Registry.serial?_takeResult ..
  | change registry =>
      rw [after]
      split_ifs with hkept
      · exact beq_iff_eq.mp (List.all_eq_true.mp hkept address haddress)
      · rfl

/-- A refresh replaces reports and leaves registrations alone. -/
theorem serial?_afterAll (run : RefreshRun kind) (events : List RefreshEvent) {address : Endpoint}
    (haddress : address ∈ run.asked) :
    (run.afterAll lead timeout events).registry.serial? address =
      run.registry.serial? address := by
  induction events using List.reverseRecOn with
  | nil => rfl
  | append_singleton events event ih =>
      have hconcat : run.afterAll lead timeout (events ++ [event]) =
          (run.afterAll lead timeout events).after lead timeout event := List.foldl_concat ..
      have hasked : address ∈ (run.afterAll lead timeout events).asked := by
        rw [asked_afterAll]
        exact haddress
      rw [hconcat, serial?_after _ event hasked, ih]

theorem map_address_tell? (run : RefreshRun kind) (places : List Nat) :
    (places.filterMap (run.tell? lead)).map (·.address) = places.filterMap (run.asked[·]?) := by
  rw [List.map_filterMap]
  apply List.filterMap_congr
  intro place _
  rw [tell?, Option.map_map]
  exact Option.map_id' ..

/-- The servers with recent reports and the others are all that were given. -/
theorem fresh_append_stale_perm (registry : Registry) (kind : ProbeKind)
    (addresses : List Endpoint) (maxAge : Option Nat) (now : Nat) :
    ((registry.fresh kind addresses maxAge now).map (·.address) ++
      registry.stale kind addresses maxAge now).Perm addresses := by
  rw [Registry.fresh, List.map_map, Registry.stale]
  simp only [← Option.not_isSome]
  exact (List.map_id' _).symm ▸ List.filter_append_perm _ addresses

theorem IsSteady.told_perm (hsteady : run.IsSteady lead recent) (hfinished : run.IsFinished) :
    (run.told.map (·.address)).Perm (recent.map (·.address) ++ run.asked) := by
  obtain ⟨before, hcourse⟩ := hsteady.course
  obtain ⟨hclosed, htaken⟩ := hfinished
  obtain ⟨-, -, hperm⟩ := hcourse.places
  rw [hsteady.told_eq_places, List.map_append, map_address_tell?, htaken, List.take_length]
  apply List.Perm.append_left
  exact ((hperm hclosed).filterMap _).trans
    (List.Perm.of_eq (Parts.filterMap_getElem?_range run.asked))

/-- Only endpoints are asked to which asked servers lead, each once. -/
theorem IsOnCourse.probed {before : BatchRun kind} (hcourse : run.IsOnCourse lead before) :
    run.batch.probed.Nodup ∧ ∀ endpoint ∈ run.batch.probed,
      ∃ address ∈ run.asked, lead (.ofEndpoint address) = some endpoint := by
  obtain ⟨hbatch, -, -, hbefore⟩ := hcourse
  obtain ⟨hnodup, hlead⟩ := BatchRun.nodup_probed hbatch
  have hprobed : run.batch.probed = before.probed := by
    rw [hbefore]
    split_ifs <;> rfl
  rw [hprobed]
  refine ⟨hnodup, ?_⟩
  intro endpoint hendpoint
  obtain ⟨server, hserver, hled⟩ := hlead endpoint hendpoint
  obtain ⟨address, haddress, rfl⟩ := List.mem_map.mp hserver
  exact ⟨address, haddress, hled⟩

/-- A report that was given is made of a message that the server sent. -/
theorem IsOnCourse.given_heard {before : BatchRun kind} (hcourse : run.IsOnCourse lead before)
    {address : Endpoint} {report : kind.Report} (hgave : run.gave? lead address = some report) :
    ∃ inbound ∈ run.batch.heard, lead (.ofEndpoint address) = some inbound.sender ∧
      inbound.message.key = Message.lookupName kind.responseCommand ∧
      ∃ ping, kind.report? inbound.sender inbound.message.data ping = some report := by
  obtain ⟨hbatch, htruthful, haccounted, hbefore⟩ := hcourse
  have hheardEq : run.batch.heard = before.heard := by
    rw [hbefore]
    split_ifs <;> rfl
  obtain ⟨endpoint, hlead, hreport⟩ := Option.bind_eq_some_iff.mp hgave
  obtain ⟨inbound, hheard, rfl, hkey, hmade⟩ := haccounted.exists_heard hbatch htruthful hreport
  exact ⟨inbound, hheardEq ▸ hheard, hlead, hkey, hmade⟩

/-- A server is told of as recent only if it has a recent report. -/
theorem IsSteady.mem_of_cached (hsteady : run.IsSteady lead recent) {refreshed : Refreshed}
    (hrefreshed : refreshed ∈ run.told) (hcached : refreshed.source = .cached) :
    refreshed ∈ recent := by
  rw [hsteady.told_eq_places, List.mem_append] at hrefreshed
  rcases hrefreshed with hfresh | hother
  · exact hfresh
  · obtain ⟨place, -, htell⟩ := List.mem_filterMap.mp hother
    obtain ⟨address, -, rfl⟩ := Option.map_eq_some_iff.mp htell
    simp only at hcached
    split_ifs at hcached

/-- A steady refresh has told of each server what there is to tell. -/
theorem IsSteady.isExact (hsteady : run.IsSteady lead recent) {registry : Registry}
    {addresses : List Endpoint} {maxAge : Option Nat} {began : Nat}
    (hasked : run.asked = registry.stale kind addresses maxAge began)
    (hserials : ∀ address ∈ run.asked, run.registry.serial? address = registry.serial? address)
    (hrecent : recent = registry.fresh kind addresses maxAge began) :
    run.IsExact lead timeout registry addresses maxAge began := by
  obtain ⟨before, hcourse⟩ := hsteady.course
  obtain ⟨hnodup, hplaces, hperm⟩ := hcourse.places
  obtain ⟨hprobed, hlead⟩ := hcourse.probed
  have hsublist : ((run.batch.batch.results.take run.taken).map (·.index)).Sublist
      (run.batch.batch.results.map (·.index)) := (List.take_sublist _ _).map _
  constructor
  case asked_eq => exact hasked
  case serial?_eq => exact hserials
  case told_eq =>
    refine ⟨_, hnodup.sublist hsublist, fun place hplace => hplaces place (hsublist.subset hplace),
      ?_, ?_⟩
    · rw [hsteady.told_eq_places, hrecent]
      rfl
    · rintro ⟨hclosed, htaken⟩
      rw [htaken, List.take_length]
      exact hperm hclosed
  case told_perm =>
    intro hfinished
    have htold := hsteady.told_perm hfinished
    rw [hrecent, hasked] at htold
    exact htold.trans (fresh_append_stale_perm registry kind addresses maxAge began)
  case uncached =>
    rintro rfl refreshed hrefreshed hcached
    have hfresh := hsteady.mem_of_cached hrefreshed hcached
    rw [hrecent] at hfresh
    obtain ⟨address, haddress, -⟩ := List.mem_map.mp hfresh
    obtain ⟨server, stamped, age, -, -, hage, -⟩ :=
      Registry.isSome_cached?_iff.mp (List.mem_filter.mp haddress).2
    exact absurd hage (Option.some_ne_none age).symm
  case probed_nodup => exact hprobed
  case probed_lead => exact hlead
  case spared =>
    intro hself address hcached hendpoint
    obtain ⟨other, hother, hled⟩ := hlead address hendpoint
    rw [hasked] at hother
    obtain ⟨hmember, hstale⟩ := List.mem_filter.mp hother
    obtain rfl := Option.some.inj ((hself other hmember).symm.trans hled)
    rw [Option.isNone_iff_eq_none.mp hstale] at hcached
    exact absurd hcached Bool.false_ne_true
  case given_heard => exact fun address report hgave => hcourse.given_heard hgave
  case takes =>
    intro result hresult
    obtain ⟨address, haddress, hreport⟩ := hcourse.report_eq (List.mem_of_getElem? hresult)
    refine ⟨address, haddress, ?_, ?_⟩
    · intro report hgave
      rw [hgave] at hreport
      simp only [after, Option.mem_def.mp hresult, Registry.takeResult, haddress, hreport]
      exact ⟨rfl, Registry.replaces_store ..⟩
    · intro hgave
      rw [hgave] at hreport
      simp only [after, Option.mem_def.mp hresult, Registry.takeResult, haddress, hreport]
      exact ⟨rfl, trivial⟩

/-! ## Coming to an end -/

/-- Once the batch is closed the results can be taken to the last. -/
theorem exists_finished_of_closed (lead : HostPort → Option Endpoint) (timeout : Nat)
    (run : RefreshRun kind) (hclosed : run.isClosed)
    (htaken : run.taken ≤ run.batch.batch.results.length) :
    ∃ more, (run.afterAll lead timeout more).IsFinished := by
  induction hleft : run.batch.batch.results.length - run.taken generalizing run with
  | zero => exact ⟨[], hclosed, Nat.le_antisymm htaken (Nat.sub_eq_zero_iff_le.mp hleft)⟩
  | succ left ih =>
      have hopen : run.taken < run.batch.batch.results.length := by omega
      have hnext := List.getElem?_eq_getElem hopen
      obtain ⟨next, htake, hcount, hbatch, hstill⟩ :
          ∃ next, run.after lead timeout .take = next ∧ next.taken = run.taken + 1 ∧
            next.batch = run.batch ∧ next.isClosed = run.isClosed := by
        rw [after, hnext]
        exact ⟨_, rfl, rfl, rfl, rfl⟩
      obtain ⟨more, hmore⟩ := ih next (hstill ▸ hclosed) (by rw [hcount, hbatch]; exact hopen)
        (by rw [hcount, hbatch]; omega)
      refine ⟨.take :: more, ?_⟩
      rw [afterAll, List.foldl_cons, ← afterAll, htake]
      exact hmore

/-- A refresh can be brought to its end from wherever it stands. -/
theorem IsSteady.exists_finished (hsteady : run.IsSteady lead recent) (timeout : Nat) :
    ∃ more, (run.afterAll lead timeout more).IsFinished := by
  have hnext : (run.after lead timeout .close).IsSteady lead recent :=
    isSteady_after hsteady .close
  have hclosed : (run.after lead timeout .close).isClosed := by
    rw [after]
    split_ifs with hclosed
    · exact hclosed
    · rfl
  obtain ⟨more, hmore⟩ := exists_finished_of_closed lead timeout _ hclosed hnext.taken_le
  exact ⟨.close :: more, hmore⟩

end RefreshRun

end Muster
