import Muster.Proofs.Matchmaker.Hearing
import Muster.Proofs.Matchmaker.Ticks
import Muster.Proofs.Registry.Freshness

/-!
# Ticks and older reports

A tick looks at no report that was stored before it.  Whatever else is stored, the second half does
the same as long as the infos of the servers that get groups are seen, and those are servers that
reported their info in the first half.
-/

namespace Muster

/-- The services tell the same when they are asked for both reports, apart from the time that each
answer took; they agree on the time before and after. -/
structure QueryService.AnswersLike (one other : QueryService) (asked : List Endpoint)
    (timeout : Nat) : Prop where
  now : one.now = other.now
  later : (one.probeBoth (asked.map HostPort.ofEndpoint) timeout).1.now =
    (other.probeBoth (asked.map HostPort.ofEndpoint) timeout).1.now
  infos : List.Forall₂ ProbeResult.IsLike
    (one.probeBoth (asked.map HostPort.ofEndpoint) timeout).2.1
    (other.probeBoth (asked.map HostPort.ofEndpoint) timeout).2.1
  statuses : List.Forall₂ ProbeResult.IsLike
    (one.probeBoth (asked.map HostPort.ofEndpoint) timeout).2.2
    (other.probeBoth (asked.map HostPort.ofEndpoint) timeout).2.2

theorem QueryService.AnswersLike.refl (service : QueryService) (asked : List Endpoint)
    (timeout : Nat) : service.AnswersLike service asked timeout where
  now := rfl
  later := rfl
  infos := List.forall₂_same.mpr fun result _ => .refl result
  statuses := List.forall₂_same.mpr fun result _ => .refl result

namespace Matchmaker

variable {sight : Sight} {matchmaker left right : Matchmaker} {now : Nat}

def withoutReports (matchmaker : Matchmaker) : Matchmaker :=
  { matchmaker with registry := matchmaker.registry.withoutReports }

/-- The matchmaker with those reports only that are looked at. -/
def limitedTo (sight : Sight) (matchmaker : Matchmaker) : Matchmaker :=
  { matchmaker with registry := matchmaker.registry.limitedTo sight }

theorem withoutReports_limitedTo (sight : Sight) (matchmaker : Matchmaker) :
    (matchmaker.limitedTo sight).withoutReports = matchmaker.withoutReports := by
  rw [withoutReports, limitedTo, Registry.withoutReports_limitedTo]
  rfl

/-! ## Handing over -/

theorem startProcessor_limitedTo (sight : Sight) (matchmaker : Matchmaker) (server : GameServer)
    (now : Nat) :
    (matchmaker.limitedTo sight).startProcessor (server.limitedTo sight) now =
      (matchmaker.startProcessor server now).limitedTo sight := by
  have hruns : ((server.limitedTo sight).queue.processing ||
      !(matchmaker.limitedTo sight).hasProcessors) =
        (server.queue.processing || !matchmaker.hasProcessors) := rfl
  rw [startProcessor, startProcessor, hruns]
  split_ifs <;> rfl

theorem replaceServer_limitedTo (sight : Sight) (matchmaker : Matchmaker) (server : GameServer)
    (events : List QueueEvent) :
    (matchmaker.limitedTo sight).replaceServer (server.limitedTo sight) events =
      ((matchmaker.replaceServer server events).1.limitedTo sight,
        (matchmaker.replaceServer server events).2) := by
  have hmodify := Registry.modify_limitedTo sight matchmaker.registry server.address server
  exact Prod.ext (congrArg (fun registry => { matchmaker with registry }) hmodify) rfl

/-- Of the reports, joining a queue looks at the info of its server only. -/
theorem enqueue_limitedTo {address : Endpoint} (hsight : sight .info address)
    (matchmaker : Matchmaker) (player : PlayerId) (now : Nat) :
    (matchmaker.limitedTo sight).enqueue address player now =
      (matchmaker.enqueue address player now).map fun changed =>
        (changed.1.limitedTo sight, changed.2) := by
  have hget : (matchmaker.limitedTo sight).registry.get? address = _ :=
    Registry.get?_limitedTo sight matchmaker.registry address
  rw [enqueue, enqueue, hget]
  cases hserver : matchmaker.registry.get? address with
  | none => rfl
  | some server =>
      have hinfo : sight .info server.address := (Registry.mem_of_get? hserver).2.symm ▸ hsight
      simp only [Option.map_some, GameServer.enqueue_limitedTo hinfo]
      cases server.enqueue player now with
      | error => rfl
      | ok changed =>
          simp only [Except.map, startProcessor_limitedTo, replaceServer_limitedTo]

theorem handOver_limitedTo {address : Endpoint} (hsight : sight .info address)
    (matchmaker : Matchmaker) (group : List PlayerId) (searcher : Searcher) (now : Nat) :
    (matchmaker.limitedTo sight).handOver address group searcher now =
      ((matchmaker.handOver address group searcher now).1.limitedTo sight,
        (matchmaker.handOver address group searcher now).2) := by
  simp only [handOver, enqueue_limitedTo hsight]
  cases matchmaker.enqueue address searcher.id now <;> rfl

theorem handOverAll_limitedTo {address : Endpoint} (hsight : sight .info address)
    (group : List PlayerId) (now : Nat) (present : List Searcher) (matchmaker : Matchmaker) :
    handOverAll address group now present (matchmaker.limitedTo sight) =
      ((handOverAll address group now present matchmaker).1.limitedTo sight,
        (handOverAll address group now present matchmaker).2) := by
  induction present generalizing matchmaker with
  | nil => rfl
  | cons searcher rest ih => simp only [handOverAll, handOver_limitedTo hsight, ih]

theorem foldl_removeSearcher_limitedTo (sight : Sight) (players : List PlayerId)
    (matchmaker : Matchmaker) :
    players.foldl removeSearcher (matchmaker.limitedTo sight) =
      (players.foldl removeSearcher matchmaker).limitedTo sight := by
  induction players generalizing matchmaker with
  | nil => rfl
  | cons player rest ih => exact ih (matchmaker.removeSearcher player)

theorem commitGroup_limitedTo {candidate : Candidate} (hsight : sight .info candidate.server)
    (matchmaker : Matchmaker) (now : Nat) :
    (matchmaker.limitedTo sight).commitGroup candidate now =
      ((matchmaker.commitGroup candidate now).1.limitedTo sight,
        (matchmaker.commitGroup candidate now).2) := by
  have hget : (matchmaker.limitedTo sight).registry.get? candidate.server = _ :=
    Registry.get?_limitedTo sight matchmaker.registry candidate.server
  have hsearcher : (matchmaker.limitedTo sight).searcher? = matchmaker.searcher? := rfl
  simp only [commitGroup, hget, hsearcher, Option.isNone_map, foldl_removeSearcher_limitedTo,
    handOverAll_limitedTo hsight]
  split_ifs <;> rfl

theorem commit_limitedTo {candidates : List Candidate}
    (hsight : ∀ candidate ∈ candidates, sight .info candidate.server)
    (now : Nat) (matchmaker : Matchmaker) :
    commit now candidates (matchmaker.limitedTo sight) =
      ((commit now candidates matchmaker).1.limitedTo sight,
        (commit now candidates matchmaker).2) := by
  induction candidates generalizing matchmaker with
  | nil => rfl
  | cons candidate rest ih =>
      rw [List.forall_mem_cons] at hsight
      simp only [commit, commitGroup_limitedTo hsight.1, ih hsight.2]

/-! ## Reporting -/

theorem reportTo_limitedTo (sight : Sight) (matchmaker : Matchmaker) (evaluation : Evaluation)
    (player : PlayerId) :
    (matchmaker.limitedTo sight).reportTo evaluation player =
      ((matchmaker.reportTo evaluation player).1.limitedTo sight,
        (matchmaker.reportTo evaluation player).2) := by
  have hsearcher : (matchmaker.limitedTo sight).searcher? player = matchmaker.searcher? player :=
    rfl
  rw [reportTo, reportTo, hsearcher]
  cases matchmaker.searcher? player <;> rfl

theorem report_limitedTo (sight : Sight) (evaluation : Evaluation) (players : List PlayerId)
    (matchmaker : Matchmaker) :
    report evaluation players (matchmaker.limitedTo sight) =
      ((report evaluation players matchmaker).1.limitedTo sight,
        (report evaluation players matchmaker).2) := by
  induction players generalizing matchmaker with
  | nil => rfl
  | cons player rest ih => simp only [report, reportTo_limitedTo, ih]

theorem unreported_limitedTo (sight : Sight) (matchmaker : Matchmaker) (evaluation : Evaluation)
    (players : List PlayerId) :
    (matchmaker.limitedTo sight).unreported evaluation players =
      matchmaker.unreported evaluation players :=
  rfl

/-- The second half of a tick does the same whatever else is stored, as long as the infos of the
servers that get groups are seen. -/
theorem finishTick_limitedTo {views : List ServerView}
    (hsight : ∀ view ∈ views, sight .info view.address) (matchmaker : Matchmaker) (now : Nat)
    (snapshot : List Searcher) :
    (matchmaker.limitedTo sight).finishTick snapshot views now =
      ((matchmaker.finishTick snapshot views now).1.limitedTo sight,
        (matchmaker.finishTick snapshot views now).2) := by
  have hmatched : ∀ candidate ∈ (evaluate snapshot views now).matched,
      sight .info candidate.server := by
    intro candidate hcandidate
    obtain ⟨view, hview, hfor, -⟩ := Evaluation.exists_isFor_of_mem_matched hcandidate
    exact hfor.server ▸ hsight view hview
  simp only [finishTick, commit_limitedTo hmatched, unreported_limitedTo, report_limitedTo]

/-- The second half of a tick looks at the infos of servers that have a view, and at no other
report. -/
theorem finishTick_like {views : List ServerView}
    (hsame : left.limitedTo sight = right.limitedTo sight)
    (hsight : ∀ view ∈ views, sight .info view.address) (now : Nat)
    (snapshot : List Searcher) :
    (left.finishTick snapshot views now).1.withoutReports =
        (right.finishTick snapshot views now).1.withoutReports ∧
      (left.finishTick snapshot views now).2 = (right.finishTick snapshot views now).2 := by
  have hleft := finishTick_limitedTo hsight left now snapshot
  have hright := finishTick_limitedTo hsight right now snapshot
  rw [hsame, hright] at hleft
  obtain ⟨hnext, hrest⟩ := Prod.mk.inj hleft
  have hbare := congrArg withoutReports hnext
  rw [withoutReports_limitedTo, withoutReports_limitedTo] at hbare
  exact ⟨hbare.symm, hrest.symm⟩

/-! ## Asking -/

theorem freshStatus?_limitedTo {statuses : List Refreshed} {server : GameServer}
    (hstatus : (statuses.any fun status =>
      status.responded && status.address == server.address) → sight .status server.address) :
    freshStatus? statuses (server.limitedTo sight) = freshStatus? statuses server := by
  have haddress : (server.limitedTo sight).address = server.address := rfl
  rw [freshStatus?, freshStatus?, haddress]
  split
  next hreported =>
    have hboard : (server.limitedTo sight).status = server.status.map fun stamped =>
        ⟨ProbeKind.unmeasured .status stamped.value, 0⟩ :=
      if_pos (hstatus hreported)
    rw [hboard]
    cases server.status <;> rfl
  next => rfl

section Seen

variable {registry : Registry} {statuses : List Refreshed}
  (hstatuses : ∀ address, (statuses.any fun status =>
    status.responded && status.address == address) → sight .status address)

include hstatuses

/-- A view is made of the reports that are seen. -/
theorem view?_limitedTo {refreshed : Refreshed}
    (hinfo : refreshed.responded → sight .info refreshed.address) :
    view? (registry.limitedTo sight) statuses refreshed = view? registry statuses refreshed := by
  rw [view?, view?, Registry.get?_limitedTo]
  cases hget : registry.get? refreshed.address with
  | none => rfl
  | some server =>
      cases hresponded : refreshed.responded with
      | false => rfl
      | true =>
          have haddress := (Registry.mem_of_get? hget).2
          have hseen : (server.limitedTo sight).info = server.info.map fun stamped =>
              ⟨ProbeKind.unmeasured .info stamped.value, 0⟩ :=
            if_pos (haddress.symm ▸ hinfo hresponded)
          have hreserved : (server.limitedTo sight).reservedSlots? = server.reservedSlots? := rfl
          have hfresh := freshStatus?_limitedTo (hstatuses server.address)
          simp only [Option.map_some, Option.filter_some, if_true, hseen, hreserved, hfresh]
          cases server.info <;> cases server.reservedSlots? <;> rfl

/-- The views of servers are made of the reports that have just come. -/
theorem views_limitedTo {infos : List Refreshed}
    (hinfos : ∀ refreshed ∈ infos, refreshed.responded → sight .info refreshed.address) :
    views (registry.limitedTo sight) statuses infos = views registry statuses infos := by
  induction infos with
  | nil => rfl
  | cons refreshed rest ih =>
      rw [List.forall_mem_cons] at hinfos
      rw [views, views, view?_limitedTo hstatuses hinfos.1, ih hinfos.2]

end Seen

/-- The last report of a server that comes when those are asked whom players of the pool named. -/
def answer? (matchmaker : Matchmaker) (service : QueryService) (timeout : Nat)
    (address : Endpoint) : (kind : ProbeKind) → Option kind.Report
  | .info =>
    Registry.lastReport? (namedServers matchmaker.pool) address
      (service.probeBoth ((namedServers matchmaker.pool).map HostPort.ofEndpoint) timeout).2.1
  | .status =>
    Registry.lastReport? (namedServers matchmaker.pool) address
      (service.probeBoth ((namedServers matchmaker.pool).map HostPort.ofEndpoint) timeout).2.2

/-- The reports that come in the first half of a tick. -/
def answered (matchmaker : Matchmaker) (service : QueryService) (timeout : Nat) : Sight :=
  fun kind address => (matchmaker.answer? service timeout address kind).isSome

variable {service one other : QueryService} {timeout : Nat}

theorem probeNamed_fst (matchmaker : Matchmaker) (service : QueryService) (timeout : Nat) :
    (matchmaker.probeNamed service timeout).1 =
      { matchmaker with registry := (matchmaker.probed service timeout).1 } := by
  simp only [probeNamed, Registry.refreshBoth, probed, informed]

theorem service_probeNamed (matchmaker : Matchmaker) (service : QueryService) (timeout : Nat) :
    (matchmaker.probeNamed service timeout).2.1 =
      (service.probeBoth ((namedServers matchmaker.pool).map HostPort.ofEndpoint) timeout).1 := by
  simp only [probeNamed, Registry.refreshBoth]

/-- Two matchmakers that differ in older reports look the same after the first half of a tick, with
the reports that came. -/
theorem probed_like (hsame : left.withoutReports = right.withoutReports)
    (hanswers : one.AnswersLike other (namedServers left.pool) timeout) :
    (left.probed one timeout).1.limitedTo (left.answered one timeout) =
        (right.probed other timeout).1.limitedTo (left.answered one timeout) ∧
      (left.informed one timeout).2 = (right.informed other timeout).2 ∧
      (left.probed one timeout).2 = (right.probed other timeout).2 := by
  have hpool : left.pool = right.pool := congrArg (fun matchmaker => matchmaker.pool) hsame
  have hregistry : left.registry.limitedTo (fun _ _ => false) =
      right.registry.limitedTo (fun _ _ => false) := by
    rw [Registry.limitedTo_nothing, Registry.limitedTo_nothing]
    exact congrArg (fun matchmaker => matchmaker.registry) hsame
  have hcreated : (left.registry.getOrCreateAll (namedServers left.pool) one.now).limitedTo
      (fun _ _ => false) = (right.registry.getOrCreateAll (namedServers left.pool)
        other.now).limitedTo (fun _ _ => false) := by
    rw [← Registry.getOrCreateAll_limitedTo, ← Registry.getOrCreateAll_limitedTo, hregistry,
      hanswers.now]
  obtain ⟨hinformed, hinfos⟩ :=
    Registry.takeResults_like (namedServers left.pool) hcreated hanswers.infos
  obtain ⟨hprobed, hstatuses⟩ :=
    Registry.takeResults_like (namedServers left.pool) hinformed hanswers.statuses
  have hsight : left.answered one timeout =
      (Sight.add (fun _ _ => false) .info (Registry.reported (namedServers left.pool)
        (one.probeBoth ((namedServers left.pool).map HostPort.ofEndpoint) timeout).2.1)).add
          .status (Registry.reported (namedServers left.pool)
            (one.probeBoth ((namedServers left.pool).map HostPort.ofEndpoint) timeout).2.2) := by
    funext kind address
    cases kind <;> simp [answered, answer?, Sight.add, Registry.reported]
  rw [hsight, probed, probed, informed, informed, ← hpool]
  exact ⟨hprobed, hinfos, hstatuses⟩

/-- A server that has a fresh info is one of those whose info came. -/
theorem answered_of_responded {refreshed : Refreshed}
    (hrefreshed : refreshed ∈ (matchmaker.informed service timeout).2)
    (hresponded : refreshed.responded) :
    matchmaker.answered service timeout .info refreshed.address := by
  have hreported := Registry.any_responded_takeResults (namedServers matchmaker.pool)
    (service.probeBoth ((namedServers matchmaker.pool).map HostPort.ofEndpoint) timeout).2.1
    (matchmaker.registry.getOrCreateAll (namedServers matchmaker.pool) service.now)
    refreshed.address
  change _ = true
  rw [answered, answer?, ← Registry.reported, ← hreported, List.any_eq_true]
  exact ⟨refreshed, hrefreshed, Bool.and_eq_true_iff.mpr ⟨hresponded, beq_self_eq_true _⟩⟩

theorem any_responded_probed (matchmaker : Matchmaker) (service : QueryService) (timeout : Nat)
    (address : Endpoint) :
    ((matchmaker.probed service timeout).2.any fun status =>
      status.responded && status.address == address) =
        matchmaker.answered service timeout .status address :=
  Registry.any_responded_takeResults _ _ _ address

/-- The views that a tick takes are seen by the reports that came. -/
theorem views_limitedTo_answered (matchmaker : Matchmaker) (service : QueryService) (timeout : Nat)
    (registry : Registry) :
    views (registry.limitedTo (matchmaker.answered service timeout))
        (matchmaker.probed service timeout).2 (matchmaker.informed service timeout).2 =
      views registry (matchmaker.probed service timeout).2
        (matchmaker.informed service timeout).2 := by
  apply views_limitedTo
  · intro address hany
    rwa [any_responded_probed] at hany
  · intro refreshed hrefreshed hresponded
    exact answered_of_responded hrefreshed hresponded

theorem views_like (hsame : left.withoutReports = right.withoutReports)
    (hanswers : one.AnswersLike other (namedServers left.pool) timeout) :
    (left.probeNamed one timeout).2.2 = (right.probeNamed other timeout).2.2 := by
  obtain ⟨hprobed, hinfos, hstatuses⟩ := probed_like hsame hanswers
  rw [probeNamed_views, probeNamed_views, ← hinfos, ← hstatuses, ← views_limitedTo_answered,
    hprobed, views_limitedTo_answered]

/-- Two networks that answer alike leave two matchmakers alike, as far as these answers tell. -/
theorem probeNamed_like (hsame : left.withoutReports = right.withoutReports)
    (hanswers : one.AnswersLike other (namedServers left.pool) timeout) :
    (left.probeNamed one timeout).1.limitedTo (left.answered one timeout) =
      (right.probeNamed other timeout).1.limitedTo (left.answered one timeout) := by
  rw [probeNamed_fst, probeNamed_fst, limitedTo, limitedTo]
  simp only [(probed_like hsame hanswers).1]
  exact congrArg (fun matchmaker : Matchmaker => { matchmaker with
    registry := (right.probed other timeout).1.limitedTo (left.answered one timeout) }) hsame

/-- What is known of a server after the first half of a tick is what it answered, where it did. -/
theorem latest?_probed {kind : ProbeKind} {address : Endpoint} {report : kind.Report}
    (hknown : ((matchmaker.probed service timeout).1.get? address).isSome)
    (hreport : matchmaker.answer? service timeout address kind = some report) :
    ((matchmaker.probed service timeout).1.latest? kind address).map (·.value) = some report := by
  rw [probed, Registry.isSome_get?_takeResults] at hknown
  cases kind with
  | status => exact Registry.latest?_takeResults hreport hknown
  | info =>
      rw [informed, Registry.isSome_get?_takeResults] at hknown
      have hother : ProbeKind.info ≠ .status := by decide
      rw [probed, Registry.latest?_takeResults_of_silent (Or.inl hother)]
      exact Registry.latest?_takeResults hreport hknown

theorem value_of_answer? {kind : ProbeKind} {address : Endpoint} {server : GameServer}
    {report : kind.Report} (hget : (matchmaker.probed service timeout).1.get? address = some server)
    (hreport : matchmaker.answer? service timeout address kind = some report) :
    (server.latest? kind).map (·.value) = some report := by
  have hlatest := latest?_probed (Option.isSome_of_eq_some hget) hreport
  rwa [Registry.latest?, hget, Option.bind_some] at hlatest

/-- The status that counts in a view is the one that was answered. -/
theorem freshStatus?_of_get? {address : Endpoint} {server : GameServer}
    (hget : (matchmaker.probed service timeout).1.get? address = some server) :
    freshStatus? (matchmaker.probed service timeout).2 server =
      matchmaker.answer? service timeout address .status := by
  rw [freshStatus?, any_responded_probed, (Registry.mem_of_get? hget).2]
  cases hanswer : matchmaker.answer? service timeout address .status with
  | none =>
      rw [answered, hanswer]
      rfl
  | some board =>
      rw [answered, hanswer]
      exact value_of_answer? hget hanswer

/-- A view is made of what its server answered in the same tick: an info, and a status if one
came. -/
theorem eq_ofReports_of_mem_views {seen : List ServerView} {view : ServerView}
    (htrue : service.IsTrueTo (namedServers matchmaker.pool))
    (hseen : (matchmaker.probeNamed service timeout).2.2 = .ok seen) (hview : view ∈ seen) :
    ∃ info reserved, matchmaker.answer? service timeout view.address .info = some info ∧
      view = .ofReports info (matchmaker.answer? service timeout view.address .status)
        reserved := by
  rw [probeNamed_views] at hseen
  obtain ⟨refreshed, hrefreshed, hresponded, haddress, server, stored, reserved, hget, hstored, -,
    hequal⟩ := mem_views (haveOwnInfos_probed htrue) hseen hview
  rw [← haddress] at hget ⊢
  obtain ⟨info, hinfo⟩ :=
    Option.isSome_iff_exists.mp (answered_of_responded hrefreshed hresponded)
  have hvalue : some stored.value = some info := by
    have hanswer := value_of_answer? hget hinfo
    rwa [show server.latest? .info = some stored from hstored, Option.map_some] at hanswer
  rw [freshStatus?_of_get? hget, Option.some.inj hvalue] at hequal
  exact ⟨info, reserved, hinfo, hequal⟩

/-! ## Servers without groups -/

section Aside

variable {address aside : Endpoint}

/-- Joining a queue leaves the servers at other addresses as they are. -/
theorem get?_enqueue_of_ne {next : Matchmaker} {player : PlayerId} {effects : List Effect}
    (hother : aside ≠ address)
    (henqueue : matchmaker.enqueue address player now = .ok (next, effects)) :
    next.registry.get? aside = matchmaker.registry.get? aside := by
  obtain ⟨server, changed, events, hget, hchanged, rfl, -⟩ := enqueue_eq_ok henqueue
  have haddress : changed.address = address :=
    (GameServer.address_enqueue hchanged).trans (Registry.mem_of_get? hget).2
  change (matchmaker.registry.modify changed.address fun _ => changed).get? aside = _
  rw [Registry.get?_modify _ (fun _ _ => rfl)]
  cases haside : matchmaker.registry.get? aside with
  | none => rfl
  | some other =>
      have hdistinct : other.address ≠ changed.address := by
        rw [haddress, (Registry.mem_of_get? haside).2]
        exact hother
      rw [Option.map_some, if_neg hdistinct]

theorem get?_handOver_of_ne (hother : aside ≠ address) (matchmaker : Matchmaker)
    (group : List PlayerId) (searcher : Searcher) (now : Nat) :
    (matchmaker.handOver address group searcher now).1.registry.get? aside =
      matchmaker.registry.get? aside := by
  rw [handOver]
  cases henqueue : matchmaker.enqueue address searcher.id now with
  | error => rfl
  | ok changed => exact get?_enqueue_of_ne hother henqueue

theorem get?_handOverAll_of_ne (hother : aside ≠ address) (group : List PlayerId) (now : Nat)
    (present : List Searcher) (matchmaker : Matchmaker) :
    (handOverAll address group now present matchmaker).1.registry.get? aside =
      matchmaker.registry.get? aside := by
  induction present generalizing matchmaker with
  | nil => rfl
  | cons searcher rest ih =>
      exact (ih _).trans (get?_handOver_of_ne hother matchmaker group searcher now)

theorem get?_commitGroup_of_ne {candidate : Candidate} (hother : aside ≠ candidate.server)
    (matchmaker : Matchmaker) (now : Nat) :
    (matchmaker.commitGroup candidate now).1.registry.get? aside =
      matchmaker.registry.get? aside := by
  simp only [commitGroup]
  split_ifs
  · rfl
  · rw [get?_handOverAll_of_ne hother, registry_foldl_removeSearcher]

/-- A commitment leaves servers alone to which no group goes. -/
theorem get?_commit_of_forall_ne {candidates : List Candidate}
    (hothers : ∀ candidate ∈ candidates, aside ≠ candidate.server) (now : Nat)
    (matchmaker : Matchmaker) :
    (commit now candidates matchmaker).1.registry.get? aside =
      matchmaker.registry.get? aside := by
  induction candidates generalizing matchmaker with
  | nil => rfl
  | cons candidate rest ih =>
      rw [List.forall_mem_cons] at hothers
      exact (ih hothers.2 _).trans (get?_commitGroup_of_ne hothers.1 matchmaker now)

end Aside

/-- Groups are committed to the servers for which they were found. -/
theorem servers_commit (now : Nat) (candidates : List Candidate) (matchmaker : Matchmaker) :
    (commit now candidates matchmaker).2.1.map (·.server) = candidates.map (·.server) := by
  induction candidates generalizing matchmaker with
  | nil => rfl
  | cons candidate rest ih =>
      have hserver : (matchmaker.commitGroup candidate now).2.1.server = candidate.server := by
        simp only [commitGroup]
        split_ifs <;> rfl
      simp only [commit, List.map_cons, ih, hserver]

/-- No group and no hint is for the server at the address, and nothing that is told names it. -/
structure Omits (address : Endpoint) (evaluation : Evaluation) (effects : List Effect) : Prop where
  matched : ∀ candidate ∈ evaluation.matched, candidate.server ≠ address
  hints : ∀ hint ∈ evaluation.hints, hint.possible.server ≠ address
  told : ∀ player event, .notify player event ∈ effects → address ∉ event.servers

/-- Views of other servers lead to groups and hints for others. -/
theorem omits_finishTick {views : List ServerView} {address : Endpoint}
    (hviews : ∀ view ∈ views, view.address ≠ address) (matchmaker : Matchmaker)
    (snapshot : List Searcher) (now : Nat) :
    Omits address (matchmaker.finishTick snapshot views now).2.1
      (matchmaker.finishTick snapshot views now).2.2 where
  matched := by
    intro candidate hcandidate
    obtain ⟨original, horiginal, hequal⟩ := List.mem_map.mp
      (servers_commit _ _ _ ▸ List.mem_map.mpr ⟨candidate, hcandidate, rfl⟩)
    obtain ⟨view, hview, hfor, -⟩ := Evaluation.exists_isFor_of_mem_matched horiginal
    exact hequal ▸ hfor.server ▸ hviews view hview
  hints := by
    intro hint hhint
    obtain ⟨player, -, view, hview, hfor⟩ :=
      Evaluation.exists_isFor_of_mem_hints (List.mem_of_mem_filter hhint)
    exact hfor.server ▸ hviews view hview
  told := by
    intro player event htold hserver
    have hfollows := follows_finishTick matchmaker snapshot views now player event htold
    have hnamed : ∀ server ∈ event.servers, server ≠ address := hfollows.forall_servers hviews
    exact hnamed address hserver rfl

/-- The server at the address has no part in a tick: no view is one of it, it is not what makes the
tick fail, no group and no hint names it, and it stays as it was, apart from reports. -/
structure LeavesOut (before after : Matchmaker) (seen : Except Overbooked (List ServerView))
    (outcome : Except Overbooked (Evaluation × List Effect)) (address : Endpoint) : Prop where
  views : ∀ views, seen = .ok views → ∀ view ∈ views, view.address ≠ address
  overbooked : outcome ≠ .error ⟨address⟩
  omits : ∀ evaluation effects, outcome = .ok (evaluation, effects) →
    Omits address evaluation effects
  server : ∀ server, before.registry.get? address = some server →
    (after.registry.get? address).map GameServer.withoutReports = some server.withoutReports

/-- Servers that were known are asked in a tick, and only their reports may be new. -/
theorem withoutReports_probeNamed {address : Endpoint} {server : GameServer}
    (hget : matchmaker.registry.get? address = some server) :
    ((matchmaker.probeNamed service timeout).1.registry.get? address).map
      GameServer.withoutReports = some server.withoutReports := by
  rw [registry_probeNamed, probed, Registry.withoutReports_takeResults, informed,
    Registry.withoutReports_takeResults, Registry.get?_getOrCreateAll_of_some _ _ hget,
    Option.map_some]

/-- A server on account of which a tick fails has answered. -/
theorem answered_of_overbooked {overbooked : Overbooked}
    (hseen : (matchmaker.probeNamed service timeout).2.2 = .error overbooked) :
    matchmaker.answered service timeout .info overbooked.server := by
  rw [probeNamed_views] at hseen
  obtain ⟨refreshed, hrefreshed, hresponded, haddress⟩ := exists_of_views_eq_error hseen
  rw [haddress]
  exact answered_of_responded hrefreshed hresponded

/-- A server that reports no info has no part in the tick. -/
theorem leavesOut_tick (htrue : service.IsTrueTo (namedServers matchmaker.pool))
    {address : Endpoint} (hsilent : matchmaker.answer? service timeout address .info = none) :
    LeavesOut matchmaker (matchmaker.tick service timeout).1
      (matchmaker.probeNamed service timeout).2.2 (matchmaker.tick service timeout).2.2
      address := by
  have hviews : ∀ views, (matchmaker.probeNamed service timeout).2.2 = .ok views →
      ∀ view ∈ views, view.address ≠ address := by
    rintro views hseen view hview rfl
    obtain ⟨info, -, hinfo, -⟩ := eq_ofReports_of_mem_views htrue hseen hview
    rw [hsilent] at hinfo
    cases hinfo
  have hknown : ∀ server, matchmaker.registry.get? address = some server →
      ((matchmaker.probeNamed service timeout).1.registry.get? address).map
        GameServer.withoutReports = some server.withoutReports :=
    fun _ hget => withoutReports_probeNamed hget
  by_cases hpool : matchmaker.pool = []
  · rw [tick_of_nil hpool]
    refine ⟨hviews, fun hfault => (by cases hfault), ?_, ?_⟩
    · rintro evaluation effects ⟨⟩
      exact ⟨List.forall_mem_nil _, List.forall_mem_nil _,
        fun _ _ htold => absurd htold List.not_mem_nil⟩
    · intro server hget
      rw [hget, Option.map_some]
  · rcases hprobe : matchmaker.probeNamed service timeout with ⟨probed, after, seen⟩
    have hasked : (matchmaker.probeNamed service timeout).2.2 = seen := by rw [hprobe]
    rw [hprobe] at hviews
    simp only [hprobe] at hknown
    cases seen with
    | error overbooked =>
        rw [tick_of_overbooked hpool hprobe]
        refine ⟨hviews, ?_, ?_, hknown⟩
        · intro hfault
          obtain rfl := Except.error.inj hfault
          have hanswered := answered_of_overbooked hasked
          rw [answered, hsilent] at hanswered
          cases hanswered
        · intro evaluation effects houtcome
          cases houtcome
    | ok views =>
        rw [tick_of_views hpool hprobe]
        have hothers := hviews views rfl
        refine ⟨hviews, fun hfault => (by cases hfault), ?_, ?_⟩
        · intro evaluation effects houtcome
          obtain ⟨rfl, rfl⟩ := Prod.mk.inj (Except.ok.inj houtcome)
          exact omits_finishTick hothers probed matchmaker.pool after.now
        · intro server hget
          have hgroups : ∀ candidate ∈ (evaluate matchmaker.pool views after.now).matched,
              address ≠ candidate.server := by
            intro candidate hcandidate
            obtain ⟨view, hview, hfor, -⟩ := Evaluation.exists_isFor_of_mem_matched hcandidate
            exact hfor.server ▸ (hothers view hview).symm
          simp only [finishTick]
          rw [registry_report, get?_commit_of_forall_ne hgroups]
          exact hknown server hget

/-- Ticks of two matchmakers that differ in older reports only come to the same. -/
theorem tick_like (hsame : left.withoutReports = right.withoutReports)
    (hanswers : one.AnswersLike other (namedServers left.pool) timeout)
    (htrue : one.IsTrueTo (namedServers left.pool)) :
    (left.tick one timeout).1.withoutReports = (right.tick other timeout).1.withoutReports ∧
      (left.tick one timeout).2.2 = (right.tick other timeout).2.2 := by
  have hpool : left.pool = right.pool := congrArg (fun matchmaker => matchmaker.pool) hsame
  by_cases hempty : left.pool = []
  · rw [tick_of_nil hempty, tick_of_nil (hpool ▸ hempty)]
    exact ⟨hsame, rfl⟩
  · have hsearching : right.pool ≠ [] := hpool ▸ hempty
    have hviews := views_like hsame hanswers
    have hprobed := probeNamed_like hsame hanswers
    have hlater := hanswers.later
    rw [← service_probeNamed, hpool, ← service_probeNamed] at hlater
    rcases hleft : left.probeNamed one timeout with ⟨leftProbed, oneAfter, seen⟩
    rcases hright : right.probeNamed other timeout with ⟨rightProbed, otherAfter, others⟩
    have hseen : (left.probeNamed one timeout).2.2 = seen := by rw [hleft]
    simp only [hleft, hright] at hviews hprobed hlater
    subst hviews
    cases seen with
    | error overbooked =>
        rw [tick_of_overbooked hempty hleft, tick_of_overbooked hsearching hright]
        have hbare := congrArg withoutReports hprobed
        rw [withoutReports_limitedTo, withoutReports_limitedTo] at hbare
        exact ⟨hbare, rfl⟩
    | ok views =>
        rw [tick_of_views hempty hleft, tick_of_views hsearching hright]
        have hsight : ∀ view ∈ views, left.answered one timeout .info view.address := by
          intro view hview
          obtain ⟨info, -, hinfo, -⟩ := eq_ofReports_of_mem_views htrue hseen hview
          exact Option.isSome_of_eq_some hinfo
        obtain ⟨hnext, houtcome⟩ := finishTick_like hprobed hsight oneAfter.now left.pool
        rw [← hlater, ← hpool]
        exact ⟨hnext, congrArg Except.ok houtcome⟩

/-- Ticks of two matchmakers that differ in older reports only, with services that tell them the
same, come to the same: the same groups, hints and effects, the same pool and the same queues.  What
a tick knows of a server is what that server answered in this tick: an info, and a status if one
came.  A server that did not answer with its info has no part in the tick. -/
theorem tick_uses_answers_alone (hsame : left.withoutReports = right.withoutReports)
    (hanswers : one.AnswersLike other (namedServers left.pool) timeout)
    (htrue : one.IsTrueTo (namedServers left.pool)) :
    ((left.tick one timeout).1.withoutReports = (right.tick other timeout).1.withoutReports ∧
      (left.tick one timeout).2.2 = (right.tick other timeout).2.2) ∧
    (∀ views, (left.probeNamed one timeout).2.2 = .ok views → ∀ view ∈ views,
      ∃ info reserved, left.answer? one timeout view.address .info = some info ∧
        view = .ofReports info (left.answer? one timeout view.address .status) reserved) ∧
    ∀ address, left.answer? one timeout address .info = none →
      LeavesOut left (left.tick one timeout).1 (left.probeNamed one timeout).2.2
        (left.tick one timeout).2.2 address := by
  exact ⟨tick_like hsame hanswers htrue,
    fun views hseen view hview => eq_ofReports_of_mem_views htrue hseen hview,
    fun address hsilent => leavesOut_tick htrue hsilent⟩

/-- A player who takes any company, in search of two servers of which something may be stored: the
status of one, and the info of the other, on which all is free. -/
def remembering (status : Option (Stamped Scoreboard)) (info : Option (Stamped ServerInfo)) :
    Matchmaker where
  pool := [⟨7, { minPlayers := 0 }, [⟨.loopback 28960, 40⟩, ⟨.loopback 28961, 10⟩], 0, 0, []⟩]
  registry := {
    servers := [
      { GameServer.register 0 (.loopback 28960) "" {} 0 with status },
      { GameServer.register 1 (.loopback 28961) "" {} 0 with info }]
    queueConfig := {}
    nextSerial := 2 }
  processors := []
  isShutdown := false

/-- Asks a network in which one server answers with its info alone, and the other not at all. -/
def halfSilent : QueryService :=
  let info := HostBehavior.report .info
    "\\dedicated\\1\\sv_running\\1\\sv_maxclients\\4\\clients\\1"
  .start {} (.start [⟨.loopback 28960, .fixed (some info) none, 0, 0⟩,
    ⟨.loopback 28961, .fixed none none, 0, 0⟩] true) Lookups.literal

theorem tick_uses_answers_alone_remembering :
    let status : Stamped Scoreboard := ⟨⟨.loopback 28960, [⟨9000, 50, "early"⟩]⟩, 0⟩
    let info : Stamped ServerInfo := ⟨⟨.loopback 28961, "", "", "", "", "", 0, 0, 18, 5, false⟩, 0⟩
    let full := remembering (some status) (some info)
    let bare := remembering none none
    (full.withoutReports = bare.withoutReports ∧
      halfSilent.AnswersLike halfSilent (namedServers full.pool) 1000 ∧
      halfSilent.IsTrueTo (namedServers full.pool)) ∧
    (full.tick halfSilent 1000).1.registry.queued = [7] ∧
    (full.tick halfSilent 1000).2.2 = (bare.tick halfSilent 1000).2.2 ∧
    (∀ views, (full.probeNamed halfSilent 1000).2.2 = .ok views → ∀ view ∈ views,
      ∃ info reserved, full.answer? halfSilent 1000 view.address .info = some info ∧
        view = .ofReports info (full.answer? halfSilent 1000 view.address .status) reserved) ∧
    LeavesOut full (full.tick halfSilent 1000).1 (full.probeNamed halfSilent 1000).2.2
      (full.tick halfSilent 1000).2.2 (.loopback 28961) := by
  intro status info full bare
  have hsame : full.withoutReports = bare.withoutReports := rfl
  have hnamed : namedServers full.pool = [.loopback 28960, .loopback 28961] := by decide
  have hanswers := QueryService.AnswersLike.refl halfSilent (namedServers full.pool) 1000
  have hhome : ∀ address ∈ [Endpoint.loopback 28960, Endpoint.loopback 28961],
      Lookups.endpoint? halfSilent.resolve (.ofEndpoint address) = some address := by
    decide +kernel
  have htrue : halfSilent.IsTrueTo (namedServers full.pool) := by
    refine ⟨Exchange.isNumbered_empty, ?_⟩
    rw [hnamed]
    intro address haddress endpoint hendpoint
    exact (Option.some.inj ((hhome address haddress).symm.trans hendpoint)).symm
  obtain ⟨⟨-, houtcome⟩, hviews, hsilent⟩ := tick_uses_answers_alone hsame hanswers htrue
  have hnone : full.answer? halfSilent 1000 (.loopback 28961) .info = none := by
    decide +kernel
  exact ⟨⟨hsame, hanswers, htrue⟩, by decide +kernel, houtcome, hviews, hsilent _ hnone⟩

end Matchmaker

end Muster
