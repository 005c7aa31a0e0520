import Mathlib.Data.List.Forall2
import Muster.Matchmaker.Admission
import Muster.Proofs.Registry.Reports

/-!
# Reports that have just come

A registry is looked at with some of its reports only, each without the time at which it was stored
and without the round trip that was measured.  Two registries that look the same do so as well with
the reports that a batch of probes adds, and the queue of a server whose info is looked at is
worked on in the same way, whatever else is stored.
-/

namespace Muster

def ProbeKind.unmeasured : (kind : ProbeKind) → kind.Report → kind.Report
  | .info, report => { (report : ServerInfo) with ping := 0 }
  | .status, report => report

/-- Which reports of which servers are looked at. -/
abbrev Sight := ProbeKind → Endpoint → Bool

def Sight.add (sight : Sight) (kind : ProbeKind) (added : Endpoint → Bool) : Sight :=
  fun other address => sight other address || (other == kind && added address)

variable {sight : Sight} {kind : ProbeKind}

namespace Sight

theorem add_self {added : Endpoint → Bool} {address : Endpoint} (hadded : added address) :
    sight.add kind added kind address = true := by
  rw [add, hadded, beq_self_eq_true, Bool.and_self, Bool.or_true]

theorem add_of_ne {added : Endpoint → Bool} {other : ProbeKind} {address : Endpoint}
    (hother : other ≠ kind ∨ added address = false) :
    sight.add kind added other address = sight other address := by
  have hnot : (other == kind && added address) = false := by
    rcases hother with hkind | hadded
    · rw [beq_false_of_ne hkind, Bool.false_and]
    · rw [hadded, Bool.and_false]
  rw [add, hnot, Bool.or_false]

theorem add_nothing (sight : Sight) (kind : ProbeKind) :
    sight.add kind (fun _ => false) = sight := by
  funext other address
  exact add_of_ne (Or.inr rfl)

theorem add_add (sight : Sight) (kind : ProbeKind) (first second : Endpoint → Bool) :
    (sight.add kind first).add kind second =
      sight.add kind fun address => first address || second address := by
  funext other address
  simp only [add, Bool.and_or_distrib_left, Bool.or_assoc]

end Sight

/-- The results tell the same, up to the time that it took. -/
structure ProbeResult.IsLike (one other : ProbeResult kind) : Prop where
  index : one.index = other.index
  report : one.report.map kind.unmeasured = other.report.map kind.unmeasured

theorem ProbeResult.IsLike.refl (result : ProbeResult kind) : result.IsLike result :=
  ⟨rfl, rfl⟩

namespace GameServer

variable {server : GameServer}

/-- What is seen of the latest report. -/
def seen? (sight : Sight) (server : GameServer) (kind : ProbeKind) :
    Option (Stamped kind.Report) :=
  if sight kind server.address then
    (server.latest? kind).map fun stamped => ⟨kind.unmeasured stamped.value, 0⟩
  else none

def limitedTo (sight : Sight) (server : GameServer) : GameServer :=
  { server with info := server.seen? sight .info, status := server.seen? sight .status }

/-- Two servers are alike in sight of the same reports exactly if these reports are the same. -/
theorem limitedTo_eq_iff {other : GameServer} :
    server.limitedTo sight = other.limitedTo sight ↔
      server.withoutReports = other.withoutReports ∧
        ∀ kind, server.seen? sight kind = other.seen? sight kind := by
  constructor
  · intro hequal
    refine ⟨congrArg (fun server => server.withoutReports) hequal, fun kind => ?_⟩
    cases kind with
    | info => exact congrArg GameServer.info hequal
    | status => exact congrArg GameServer.status hequal
  · rintro ⟨hrest, hseen⟩
    calc server.limitedTo sight
        = { server.withoutReports with
            info := server.seen? sight .info, status := server.seen? sight .status } := rfl
      _ = other.limitedTo sight := by
          rw [hrest, hseen .info, hseen .status]
          rfl

/-- A server without reports stays one. -/
theorem limitedTo_register (sight : Sight) (serial : Nat) (address : Endpoint)
    (nameHint : String) (config : QueueConfig) (now : Nat) :
    (register serial address nameHint config now).limitedTo sight =
      register serial address nameHint config now := by
  have hnone : ∀ kind, (register serial address nameHint config now).seen? sight kind = none := by
    intro kind
    cases kind <;> exact ite_self none
  rw [limitedTo, hnone, hnone]
  rfl

/-! ## A report that comes -/

theorem seen?_store_of_ne (server : GameServer) (now : Nat) (report : kind.Report)
    (sight : Sight) {other : ProbeKind} (hother : other ≠ kind) :
    (server.store now kind report).seen? sight other = server.seen? sight other := by
  cases kind <;> cases other <;> first | rfl | exact absurd rfl hother

theorem seen?_store_self (server : GameServer) (now : Nat) (report : kind.Report)
    (hsight : sight kind server.address) :
    (server.store now kind report).seen? sight kind = some ⟨kind.unmeasured report, 0⟩ := by
  cases kind <;> exact if_pos hsight

theorem seen?_congr {other : Sight}
    (hsight : other kind server.address = sight kind server.address) :
    server.seen? other kind = server.seen? sight kind := by
  rw [seen?, seen?, hsight]

/-- Servers that look the same do so with a report that comes to both. -/
theorem limitedTo_store {one other : GameServer} {address : Endpoint} {first second : kind.Report}
    (hsame : one.limitedTo sight = other.limitedTo sight)
    (hreports : kind.unmeasured first = kind.unmeasured second) (haddress : one.address = address)
    (now later : Nat) :
    (one.store now kind first).limitedTo (sight.add kind (· == address)) =
      (other.store later kind second).limitedTo (sight.add kind (· == address)) := by
  obtain ⟨hrest, hseen⟩ := limitedTo_eq_iff.mp hsame
  have haddresses : one.address = other.address :=
    congrArg (fun server => server.address) hrest
  refine limitedTo_eq_iff.mpr ⟨?_, fun shown => ?_⟩
  · rw [withoutReports_store, withoutReports_store, hrest]
  · by_cases hshown : shown = kind
    · subst hshown
      rw [seen?_store_self, seen?_store_self, hreports]
      · exact Sight.add_self (haddresses ▸ beq_iff_eq.mpr haddress)
      · exact Sight.add_self (beq_iff_eq.mpr haddress)
    · rw [seen?_store_of_ne _ _ _ _ hshown, seen?_store_of_ne _ _ _ _ hshown,
        seen?_congr (Sight.add_of_ne (Or.inl hshown)),
        seen?_congr (Sight.add_of_ne (Or.inl hshown)), hseen]

/-- The report of another server changes nothing. -/
theorem limitedTo_add_of_ne {address : Endpoint} (haddress : server.address ≠ address) :
    server.limitedTo (sight.add kind (· == address)) = server.limitedTo sight := by
  have hadded : (server.address == address) = false := beq_false_of_ne haddress
  rw [limitedTo, limitedTo, seen?_congr (Sight.add_of_ne (Or.inr hadded)),
    seen?_congr (Sight.add_of_ne (Or.inr hadded))]

/-! ## The queue -/

/-- The queue is worked on by the info that is seen. -/
theorem process_limitedTo (hsight : sight .info server.address) (now : Nat) :
    (server.limitedTo sight).process now =
      ((server.process now).1.limitedTo sight, (server.process now).2) := by
  have hslots : (server.limitedTo sight).joinableSlots? = server.joinableSlots? := by
    change (server.seen? sight .info).map _ = server.info.map _
    rw [seen?, if_pos hsight, Option.map_map]
    rfl
  rw [process, hslots]
  rfl

theorem enqueue_limitedTo (hsight : sight .info server.address) (player : PlayerId) (now : Nat) :
    (server.limitedTo sight).enqueue player now =
      (server.enqueue player now).map fun changed => (changed.1.limitedTo sight, changed.2) := by
  have hqueue : (server.limitedTo sight).queue = server.queue := rfl
  rw [enqueue, enqueue, hqueue]
  match server.queue.enqueue player now with
  | (_, .error error) => rfl
  | (queue, .ok ()) =>
      let queued : GameServer := { server with queue }
      have hinfo : sight .info queued.address := hsight
      have hprocess := process_limitedTo hinfo now
      change { server.limitedTo sight with queue }.process now = _ at hprocess
      simp only [hprocess]
      rfl

end GameServer

namespace Registry

variable {registry left right : Registry} {asked : List Endpoint}

def withoutReports (registry : Registry) : Registry :=
  { registry with servers := registry.servers.map GameServer.withoutReports }

def limitedTo (sight : Sight) (registry : Registry) : Registry :=
  { registry with servers := registry.servers.map (GameServer.limitedTo sight) }

theorem limitedTo_nothing (registry : Registry) :
    registry.limitedTo (fun _ _ => false) = registry.withoutReports := rfl

theorem withoutReports_limitedTo (sight : Sight) (registry : Registry) :
    (registry.limitedTo sight).withoutReports = registry.withoutReports := by
  rw [limitedTo, withoutReports, List.map_map]
  rfl

theorem limitedTo_eq_iff : left.limitedTo sight = right.limitedTo sight ↔
    List.Forall₂ (fun one other => one.limitedTo sight = other.limitedTo sight)
      left.servers right.servers ∧
    left.queueConfig = right.queueConfig ∧ left.nextSerial = right.nextSerial := by
  rw [← List.forall₂_map_right_iff, ← List.forall₂_map_left_iff, List.forall₂_eq_eq_eq]
  cases left
  cases right
  simp only [limitedTo, mk.injEq]

theorem get?_limitedTo (sight : Sight) (registry : Registry) (address : Endpoint) :
    (registry.limitedTo sight).get? address =
      (registry.get? address).map (GameServer.limitedTo sight) :=
  List.find?_map

/-- What is not in sight of a server does not matter to the registry. -/
theorem modify_limitedTo (sight : Sight) (registry : Registry) (address : Endpoint)
    (server : GameServer) :
    (registry.limitedTo sight).modify address (fun _ => server.limitedTo sight) =
      (registry.modify address fun _ => server).limitedTo sight := by
  rw [modify, limitedTo, limitedTo, modify, List.map_map, List.map_map]
  congr 1
  apply List.map_congr_left
  intro other _
  exact (apply_ite (GameServer.limitedTo sight) _ _ _).symm

theorem getOrCreate_limitedTo (sight : Sight) (registry : Registry) (mention : Endpoint)
    (nameHint : String) (now : Nat) :
    (registry.limitedTo sight).getOrCreate mention nameHint now =
      (registry.getOrCreate mention nameHint now).limitedTo sight := by
  simp only [getOrCreate, get?_limitedTo, Option.isSome_map]
  split_ifs with hknown
  · rfl
  · simp only [limitedTo, List.map_append, List.map_singleton, GameServer.limitedTo_register]

theorem getOrCreateAll_limitedTo (sight : Sight) (registry : Registry) (mentions : List Endpoint)
    (now : Nat) :
    (registry.limitedTo sight).getOrCreateAll mentions now =
      (registry.getOrCreateAll mentions now).limitedTo sight := by
  induction mentions generalizing registry with
  | nil => rfl
  | cons mention rest ih =>
      change ((registry.limitedTo sight).getOrCreate mention "" now).getOrCreateAll rest now = _
      rw [getOrCreate_limitedTo, ih]
      rfl

theorem get?_getOrCreateAll_of_some {address : Endpoint} {server : GameServer}
    (mentions : List Endpoint) (now : Nat) (hget : registry.get? address = some server) :
    (registry.getOrCreateAll mentions now).get? address = some server := by
  induction mentions generalizing registry with
  | nil => exact hget
  | cons mention rest ih => exact ih (get?_getOrCreate_of_some mention "" now hget)

/-! ## A batch of probes -/

/-- Registries that look the same do so with a report that comes to both. -/
theorem limitedTo_store (hsame : left.limitedTo sight = right.limitedTo sight)
    (address : Endpoint) {first second : kind.Report}
    (hreports : kind.unmeasured first = kind.unmeasured second) (now later : Nat) :
    (left.store kind address first now).limitedTo (sight.add kind (· == address)) =
      (right.store kind address second later).limitedTo (sight.add kind (· == address)) := by
  obtain ⟨hservers, hrest⟩ := limitedTo_eq_iff.mp hsame
  refine limitedTo_eq_iff.mpr ⟨?_, hrest⟩
  rw [store, store, modify, modify, List.forall₂_map_left_iff, List.forall₂_map_right_iff]
  apply hservers.imp
  intro one other hequal
  have haddresses : one.address = other.address :=
    congrArg (fun server => server.address) hequal
  by_cases haddress : one.address = address
  · rw [if_pos haddress, if_pos (haddresses ▸ haddress)]
    exact GameServer.limitedTo_store hequal hreports haddress now later
  · rw [if_neg haddress, if_neg (haddresses ▸ haddress), GameServer.limitedTo_add_of_ne haddress,
      GameServer.limitedTo_add_of_ne (haddresses ▸ haddress), hequal]

/-- The last report of a server among the results of a batch. -/
def lastReport? (asked : List Endpoint) (address : Endpoint) :
    List (ProbeResult kind) → Option kind.Report
  | [] => none
  | result :: rest =>
    (lastReport? asked address rest).or
      (if asked[result.index]? = some address then result.report else none)

def reported (asked : List Endpoint) (results : List (ProbeResult kind)) (address : Endpoint) :
    Bool :=
  (lastReport? asked address results).isSome

theorem reported_cons (asked : List Endpoint) (result : ProbeResult kind)
    (rest : List (ProbeResult kind)) :
    reported asked (result :: rest) = fun address =>
      reported asked [result] address || reported asked rest address := by
  funext address
  simp only [reported, lastReport?, Option.isSome_or, Option.none_or, Bool.or_comm]

/-- A result without a report, or about a server that was not asked, adds nothing. -/
theorem reported_singleton_of_none {result : ProbeResult kind}
    (hnone : asked[result.index]? = none ∨ result.report = none) :
    reported asked [result] = fun _ => false := by
  funext address
  rcases hnone with hindex | hreport
  · rw [reported, lastReport?, lastReport?, hindex]
    rfl
  · rw [reported, lastReport?, lastReport?, hreport, ite_self]
    rfl

theorem reported_singleton {result : ProbeResult kind} {address : Endpoint} {report : kind.Report}
    (hasked : asked[result.index]? = some address) (hreport : result.report = some report) :
    reported asked [result] = (· == address) := by
  funext other
  rw [reported, lastReport?, lastReport?, hasked, hreport, Option.none_or]
  by_cases hother : other = address
  · rw [if_pos (congrArg some hother.symm), hother, beq_self_eq_true]
    rfl
  · rw [if_neg (fun hsome => hother (Option.some.inj hsome).symm), beq_false_of_ne hother]
    rfl

/-- Taking results that tell the same brings the same reports into sight. -/
theorem takeResult_like (asked : List Endpoint)
    (hsame : left.limitedTo sight = right.limitedTo sight) {one other : ProbeResult kind}
    (hlike : one.IsLike other) :
    (takeResult asked left one).1.limitedTo (sight.add kind (reported asked [one])) =
        (takeResult asked right other).1.limitedTo (sight.add kind (reported asked [one])) ∧
      (takeResult asked left one).2 = (takeResult asked right other).2 := by
  have hreports := hlike.report
  rw [takeResult, takeResult, ← hlike.index]
  cases hasked : asked[one.index]? with
  | none =>
      rw [reported_singleton_of_none (Or.inl hasked), Sight.add_nothing]
      exact ⟨hsame, rfl⟩
  | some address =>
      cases hone : one.report with
      | none =>
          rw [hone, Option.map_none, eq_comm, Option.map_eq_none_iff] at hreports
          rw [reported_singleton_of_none (Or.inr hone), Sight.add_nothing, hreports]
          exact ⟨hsame, rfl⟩
      | some first =>
          rw [hone, Option.map_some, eq_comm, Option.map_eq_some_iff] at hreports
          obtain ⟨second, hother, hequal⟩ := hreports
          rw [reported_singleton hasked hone, hother]
          exact ⟨limitedTo_store hsame address hequal.symm one.time other.time, rfl⟩

/-- Results that tell the same leave registries that look the same, with the reports that came. -/
theorem takeResults_like (asked : List Endpoint) {ones others : List (ProbeResult kind)}
    (hsame : left.limitedTo sight = right.limitedTo sight)
    (hlike : List.Forall₂ ProbeResult.IsLike ones others) :
    (takeResults asked ones left).1.limitedTo (sight.add kind (reported asked ones)) =
        (takeResults asked others right).1.limitedTo (sight.add kind (reported asked ones)) ∧
      (takeResults asked ones left).2 = (takeResults asked others right).2 := by
  induction hlike generalizing left right sight with
  | nil =>
      have hnothing : reported asked ([] : List (ProbeResult kind)) = fun _ => false := rfl
      rw [hnothing, Sight.add_nothing]
      exact ⟨hsame, rfl⟩
  | cons hfirst _ ih =>
      obtain ⟨hregistry, hrefreshed⟩ := takeResult_like asked hsame hfirst
      obtain ⟨hregistries, hothers⟩ := ih hregistry
      rw [reported_cons, ← Sight.add_add]
      exact ⟨hregistries,
        congrArg₂ (fun refreshed others => refreshed.toList ++ others) hrefreshed hothers⟩

/-! ## Reports that came -/

/-- Those who responded are those who reported. -/
theorem any_responded_takeResults (asked : List Endpoint) (results : List (ProbeResult kind))
    (registry : Registry) (address : Endpoint) :
    ((takeResults asked results registry).2.any fun refreshed =>
      refreshed.responded && refreshed.address == address) = reported asked results address := by
  induction results generalizing registry with
  | nil => rfl
  | cons result rest ih =>
      have hfirst : ((takeResult asked registry result).2.toList.any fun refreshed =>
          refreshed.responded && refreshed.address == address) =
            reported asked [result] address := by
        rw [takeResult]
        cases hasked : asked[result.index]? with
        | none =>
            rw [reported_singleton_of_none (Or.inl hasked)]
            rfl
        | some other =>
            cases hreport : result.report with
            | none =>
                rw [reported_singleton_of_none (Or.inr hreport)]
                rfl
            | some report =>
                rw [reported_singleton hasked hreport]
                exact (Bool.or_false _).trans Bool.beq_comm
      rw [reported_cons]
      change _ = (reported asked [result] address || reported asked rest address)
      rw [← hfirst, ← ih, ← List.any_append]
      rfl

/-- A server has no last report exactly if none of its probes brought any. -/
theorem lastReport?_eq_none_iff {address : Endpoint} {results : List (ProbeResult kind)} :
    lastReport? asked address results = none ↔
      ∀ result ∈ results, asked[result.index]? = some address → result.report = none := by
  induction results with
  | nil => exact ⟨fun _ _ hresult => absurd hresult List.not_mem_nil, fun _ => rfl⟩
  | cons result rest ih =>
      rw [lastReport?, Option.or_eq_none_iff, ih, List.forall_mem_cons, and_comm, ite_eq_right_iff]

def latest? (registry : Registry) (kind : ProbeKind) (address : Endpoint) :
    Option (Stamped kind.Report) :=
  (registry.get? address).bind fun server => server.latest? kind

/-- A report takes the place of none but the one of its kind and server. -/
theorem latest?_store_of_ne (registry : Registry) (address : Endpoint) (report : kind.Report)
    (now : Nat) {shown : ProbeKind} {other : Endpoint} (hother : shown ≠ kind ∨ other ≠ address) :
    (registry.store kind address report now).latest? shown other =
      registry.latest? shown other := by
  rw [latest?, latest?, get?_store]
  cases hget : registry.get? other with
  | none => rfl
  | some server =>
      rw [Option.map_some, Option.bind_some, Option.bind_some]
      split_ifs with haddress
      · have hkind : shown ≠ kind :=
          hother.resolve_right (not_not.mpr ((mem_of_get? hget).2.symm.trans haddress))
        cases kind <;> cases shown <;> first | rfl | exact absurd rfl hkind
      · rfl

/-- A server that is not heard of keeps the report that it has. -/
theorem latest?_takeResults_of_silent {results : List (ProbeResult kind)} {shown : ProbeKind}
    {address : Endpoint} (hsilent : shown ≠ kind ∨ lastReport? asked address results = none)
    (registry : Registry) :
    (takeResults asked results registry).1.latest? shown address =
      registry.latest? shown address := by
  apply takeResults_induction (fun other =>
    other.latest? shown address = registry.latest? shown address) _ rfl
  intro other result hresult reporter hreporter report hreport hsame
  rw [latest?_store_of_ne, hsame]
  rcases hsilent with hkind | hnone
  · exact Or.inl hkind
  · right
    rintro rfl
    have hsilence := lastReport?_eq_none_iff.mp hnone result hresult hreporter
    rw [hsilence] at hreport
    cases hreport

theorem isSome_get?_takeResult (asked : List Endpoint) (registry : Registry)
    (result : ProbeResult kind) (address : Endpoint) :
    ((takeResult asked registry result).1.get? address).isSome =
      (registry.get? address).isSome := by
  rcases takeResult_cases asked registry result with
    ⟨reporter, -, report, -, htaken⟩ | ⟨hsame, -⟩
  · rw [htaken, get?_store, Option.isSome_map]
  · rw [hsame]

theorem isSome_get?_takeResults (asked : List Endpoint) (results : List (ProbeResult kind))
    (registry : Registry) (address : Endpoint) :
    ((takeResults asked results registry).1.get? address).isSome =
      (registry.get? address).isSome := by
  have hsame := congrArg Option.isSome (withoutReports_takeResults asked results registry address)
  rwa [Option.isSome_map, Option.isSome_map] at hsame

theorem latest?_store_self {address : Endpoint} (hknown : (registry.get? address).isSome)
    (report : kind.Report) (now : Nat) :
    (registry.store kind address report now).latest? kind address = some ⟨report, now⟩ := by
  obtain ⟨server, hget⟩ := Option.isSome_iff_exists.mp hknown
  rw [latest?, get?_store, hget, Option.map_some, Option.bind_some,
    if_pos (mem_of_get? hget).2]
  cases kind <;> rfl

/-- The last report that came is the latest one. -/
theorem latest?_takeResults {address : Endpoint} {results : List (ProbeResult kind)}
    {report : kind.Report} (hreport : lastReport? asked address results = some report)
    (hknown : (registry.get? address).isSome) :
    ((takeResults asked results registry).1.latest? kind address).map (·.value) =
      some report := by
  induction results generalizing registry with
  | nil => cases hreport
  | cons result rest ih =>
      change ((takeResults asked rest (takeResult asked registry result).1).1.latest?
        kind address).map (·.value) = _
      rw [lastReport?] at hreport
      cases hrest : lastReport? asked address rest with
      | some later =>
          rw [hrest, Option.some_or] at hreport
          rw [← isSome_get?_takeResult asked registry result] at hknown
          exact ih (hrest.trans hreport) hknown
      | none =>
          rw [hrest, Option.none_or, Option.ite_none_right_eq_some] at hreport
          obtain ⟨hasked, hresult⟩ := hreport
          rw [latest?_takeResults_of_silent (Or.inr hrest), takeResult, hasked, hresult]
          change ((registry.store kind address report result.time).latest? kind address).map _ = _
          rw [latest?_store_self hknown, Option.map_some]

end Registry

end Muster
