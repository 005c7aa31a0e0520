import Muster.Proofs.Admission.Admitted
import Muster.Proofs.Matchmaker.Roll
import Muster.Proofs.Parts
import Muster.Proofs.Query.Answers
import Muster.Proofs.Registry.Reports

/-!
# Probing

The first half of a tick registers servers and takes their reports.  It moves no player and keeps
the slots that are promised to players.  Where these can be counted it sees the servers that answer,
and as long as names lead home and no server is named in two zones, each of those servers has one
view, which tells the promised slots.
-/

namespace Muster

/-! ## Promised slots -/

/-- Slots of a server that are promised to queued and to privileged players. -/
def GameServer.promised (server : GameServer) : Nat :=
  server.queue.length + server.privilegedSlots.toNat

/-- Promised slots of the server at an address, none where no server is known. -/
def Registry.promised (registry : Registry) (address : Endpoint) : Nat :=
  ((registry.get? address).map GameServer.promised).getD 0

theorem Registry.promised_of_get? {registry : Registry} {address : Endpoint} {server : GameServer}
    (hget : registry.get? address = some server) :
    registry.promised address = server.promised := by
  rw [Registry.promised, hget]
  rfl

/-- Where the promised slots can be counted they are the reserved ones. -/
theorem GameServer.exists_reservedSlots? {server : GameServer}
    (hcount : server.promised ≤ Count.max) :
    ∃ reserved, server.reservedSlots? = some reserved ∧ reserved.toNat = server.promised := by
  have hlength : server.queue.length ≤ Count.max := Nat.le_trans (Nat.le_add_right _ _) hcount
  have hqueued : server.queuedCount.toNat = server.queue.length :=
    UInt32.toNat_ofNat_of_lt (Nat.lt_succ_of_le hlength)
  cases hreserved : server.reservedSlots? with
  | none =>
      have hover := (Count.sum?_eq_none_iff _ _).mp hreserved
      rw [hqueued] at hover
      exact absurd hcount (Nat.not_le_of_lt hover)
  | some reserved =>
      refine ⟨reserved, rfl, ?_⟩
      rw [(Count.sum?_eq_some_iff _ _ _).mp hreserved, hqueued, GameServer.promised]

/-! ## Probing -/

/-- The service gives no identifier twice, and the names of these addresses lead to no other
addresses. -/
structure QueryService.IsTrueTo (service : QueryService) (addresses : List Endpoint) : Prop where
  isNumbered : service.exchange.IsNumbered
  leadsHome : ∀ address ∈ addresses, ∀ endpoint,
    Lookups.endpoint? service.resolve (.ofEndpoint address) = some endpoint → endpoint = address

/-- Servers report about themselves to such a service. -/
theorem QueryService.IsTrueTo.areOwn {service : QueryService} {addresses : List Endpoint}
    (htrue : service.IsTrueTo addresses) (timeout : Nat) :
    Registry.AreOwn addresses
      (service.probeBoth (addresses.map HostPort.ofEndpoint) timeout).2.1 := by
  obtain ⟨-, hreports⟩ :=
    infos_probeBoth htrue.isNumbered (addresses.map HostPort.ofEndpoint) timeout
  intro result hresult address haddress report hreport
  have hendpoint := hreports result hresult report hreport
  rw [Option.mem_def] at haddress
  rw [List.getElem?_map, List.getElem?_map, haddress, Option.map_some, Option.map_some,
    Option.some.injEq] at hendpoint
  exact htrue.leadsHome address (List.mem_of_getElem? haddress) _ hendpoint

namespace Matchmaker

variable {matchmaker next : Matchmaker} {service : QueryService}

/-- The registry with the named servers and with the infos that they report, and those servers. -/
def informed (matchmaker : Matchmaker) (service : QueryService) (timeout : Nat) :
    Registry × List Refreshed :=
  Registry.takeResults (namedServers matchmaker.pool)
    (service.probeBoth ((namedServers matchmaker.pool).map HostPort.ofEndpoint) timeout).2.1
    (matchmaker.registry.getOrCreateAll (namedServers matchmaker.pool) service.now)

/-- The same with the status reports as well. -/
def probed (matchmaker : Matchmaker) (service : QueryService) (timeout : Nat) :
    Registry × List Refreshed :=
  Registry.takeResults (namedServers matchmaker.pool)
    (service.probeBoth ((namedServers matchmaker.pool).map HostPort.ofEndpoint) timeout).2.2
    (matchmaker.informed service timeout).1

@[simp]
theorem pool_probeNamed (matchmaker : Matchmaker) (service : QueryService) (timeout : Nat) :
    (matchmaker.probeNamed service timeout).1.pool = matchmaker.pool := by
  simp only [probeNamed]

theorem registry_probeNamed (matchmaker : Matchmaker) (service : QueryService) (timeout : Nat) :
    (matchmaker.probeNamed service timeout).1.registry =
      (matchmaker.probed service timeout).1 := by
  simp only [probeNamed, Registry.refreshBoth, probed, informed]

theorem probeNamed_views (matchmaker : Matchmaker) (service : QueryService) (timeout : Nat) :
    (matchmaker.probeNamed service timeout).2.2 =
      views (matchmaker.probed service timeout).1 (matchmaker.probed service timeout).2
        (matchmaker.informed service timeout).2 := by
  simp only [probeNamed, Registry.refreshBoth, probed, informed]

theorem moves_probeNamed (hkeyed : matchmaker.registry.IsKeyed) (service : QueryService)
    (timeout : Nat) : Moves [] matchmaker (matchmaker.probeNamed service timeout).1 := by
  apply moves_of_eq
  · rw [registry_probeNamed]
    apply Registry.isKeyed_takeResults
    apply Registry.isKeyed_takeResults
    exact Registry.isKeyed_getOrCreateAll hkeyed _ service.now
  · rw [pool_probeNamed]
  · rw [registry_probeNamed, probed, Registry.queued_takeResults, informed,
      Registry.queued_takeResults, Registry.queued_getOrCreateAll]

/-- What probing makes of a server: its reports may be new, or the server is new altogether. -/
theorem get?_probeNamed {address : Endpoint} {server : GameServer} {timeout : Nat}
    (hget : (matchmaker.probeNamed service timeout).1.registry.get? address = some server) :
    (∃ earlier, matchmaker.registry.get? address = some earlier ∧
      server.queue = earlier.queue ∧ server.privilegedSlots = earlier.privilegedSlots) ∨
    matchmaker.registry.get? address = none ∧
      server.queue = .empty matchmaker.registry.queueConfig service.now ∧
      server.privilegedSlots = 0 := by
  have hsame : ((matchmaker.probed service timeout).1.get? address).map
      GameServer.withoutReports =
        ((matchmaker.registry.getOrCreateAll (namedServers matchmaker.pool) service.now).get?
          address).map GameServer.withoutReports := by
    rw [probed, Registry.withoutReports_takeResults, informed,
      Registry.withoutReports_takeResults]
  rw [registry_probeNamed] at hget
  rw [hget, Option.map_some] at hsame
  obtain ⟨before, hbefore, hequal⟩ := Option.map_eq_some_iff.mp hsame.symm
  have hqueue : server.queue = before.queue := (congrArg GameServer.queue hequal).symm
  have hslots : server.privilegedSlots = before.privilegedSlots :=
    (congrArg GameServer.privilegedSlots hequal).symm
  rcases Registry.get?_getOrCreateAll hbefore with hearlier | ⟨hunknown, serial, name, hnew⟩
  · exact Or.inl ⟨before, hearlier, hqueue, hslots⟩
  · rw [hnew] at hqueue hslots
    exact Or.inr ⟨hunknown, hqueue, hslots⟩

theorem hasTime_probeNamed (hconfig : matchmaker.registry.queueConfig.HasTime)
    (htime : matchmaker.registry.HasTime) (service : QueryService) (timeout : Nat) :
    (matchmaker.probeNamed service timeout).1.registry.HasTime := by
  intro address server hget
  rcases get?_probeNamed hget with ⟨earlier, hearlier, hqueue, -⟩ | ⟨-, hqueue, -⟩
  · rw [hqueue]
    exact htime address earlier hearlier
  · rw [hqueue]
    exact hconfig

/-- Probing promises nobody a slot. -/
theorem promised_probeNamed_le (matchmaker : Matchmaker) (service : QueryService) (timeout : Nat)
    (address : Endpoint) :
    (matchmaker.probeNamed service timeout).1.registry.promised address ≤
      matchmaker.registry.promised address := by
  cases hget : (matchmaker.probeNamed service timeout).1.registry.get? address with
  | none =>
      rw [Registry.promised, hget]
      exact Nat.zero_le _
  | some server =>
      rw [Registry.promised_of_get? hget, GameServer.promised]
      rcases get?_probeNamed hget with
        ⟨earlier, hearlier, hqueue, hslots⟩ | ⟨-, hqueue, hslots⟩
      · rw [Registry.promised_of_get? hearlier, hqueue, hslots]
        exact Nat.le_refl _
      · rw [hqueue, hslots]
        exact Nat.zero_le _

/-- No server that reports its info in a tick has more slots promised than a count holds. -/
def OverbooksNone (matchmaker : Matchmaker) (service : QueryService) (timeout : Nat) : Prop :=
  ∀ refreshed ∈ (matchmaker.informed service timeout).2, refreshed.responded →
    matchmaker.registry.promised refreshed.address ≤ Count.max

section Counted

variable {timeout : Nat} (hcount : matchmaker.OverbooksNone service timeout)

include hcount

/-- A server that is not overbooked has a count of reserved slots, which is what it promised. -/
theorem OverbooksNone.exists_reservedSlots? {refreshed : Refreshed}
    (hrefreshed : refreshed ∈ (matchmaker.informed service timeout).2)
    (hresponded : refreshed.responded) {server : GameServer}
    (hget : (matchmaker.probed service timeout).1.get? refreshed.address = some server) :
    ∃ reserved, server.reservedSlots? = some reserved ∧ reserved.toNat = server.promised := by
  apply GameServer.exists_reservedSlots?
  rw [← registry_probeNamed] at hget
  rw [← Registry.promised_of_get? hget]
  exact Nat.le_trans (promised_probeNamed_le matchmaker service timeout refreshed.address)
    (hcount refreshed hrefreshed hresponded)

/-- A tick sees the servers that answer, unless one of them is overbooked. -/
theorem OverbooksNone.exists_views :
    ∃ views, (matchmaker.probeNamed service timeout).2.2 = .ok views := by
  rw [probeNamed_views]
  apply Matchmaker.exists_views
  intro refreshed hrefreshed hresponded server hget hnone
  obtain ⟨reserved, hreserved, -⟩ := hcount.exists_reservedSlots? hrefreshed hresponded hget
  rw [hnone] at hreserved
  cases hreserved

end Counted

/-- No server is named in two zones. -/
def NamesInOneZone (pool : List Searcher) : Prop :=
  ∀ first ∈ pool.flatMap Searcher.addresses, ∀ second ∈ pool.flatMap Searcher.addresses,
    first.withoutZone = second.withoutZone → first = second

theorem nodup_namedServers {pool : List Searcher} (hpool : NamesInOneZone pool) :
    (namedServers pool).Nodup := by
  apply List.Nodup.map_on _ (Parts.nodup_eraseDups _)
  intro first hfirst second hsecond
  exact hpool first (List.mem_eraseDups.mp hfirst) second (List.mem_eraseDups.mp hsecond)

section Views

variable {timeout : Nat} {views : List ServerView}
variable (htrue : service.IsTrueTo (namedServers matchmaker.pool))
  (hviews : (matchmaker.probeNamed service timeout).2.2 = .ok views)

include htrue

theorem haveOwnInfos_probed : HaveOwnInfos (matchmaker.probed service timeout).1
    (matchmaker.informed service timeout).2 := by
  intro refreshed hrefreshed hresponded
  apply Registry.HasOwnInfo.takeResults_status
  exact Registry.hasOwnInfo_takeResults (htrue.areOwn timeout) hrefreshed hresponded

include hviews

/-- Each server that answers has one view. -/
theorem nodup_views_probeNamed (hzones : NamesInOneZone matchmaker.pool) :
    (views.map (·.address)).Nodup := by
  rw [probeNamed_views] at hviews
  apply List.Nodup.sublist (addresses_views_sublist (haveOwnInfos_probed htrue) hviews)
  apply Registry.nodup_addresses_takeResults (nodup_namedServers hzones)
  exact (QueryService.infos_probeBoth htrue.isNumbered _ timeout).1

/-- The slots reserved in a view are those that are promised. -/
theorem reservedSlots_probeNamed (hcount : matchmaker.OverbooksNone service timeout) :
    ∀ view ∈ views, ∃ server,
      (matchmaker.probeNamed service timeout).1.registry.get? view.address = some server ∧
      view.reservedSlots.toNat = server.promised := by
  intro view hview
  rw [probeNamed_views] at hviews
  obtain ⟨refreshed, hrefreshed, hresponded, haddress, server, info, reserved, hget, -, hreserved,
    hequal⟩ := mem_views (haveOwnInfos_probed htrue) hviews hview
  rw [← haddress] at hget ⊢
  obtain ⟨promised, hpromised, hequals⟩ :=
    hcount.exists_reservedSlots? hrefreshed hresponded hget
  obtain rfl := Option.some.inj (hreserved.symm.trans hpromised)
  have hslots : view.reservedSlots = reserved := congrArg ServerView.reservedSlots hequal
  rw [registry_probeNamed]
  exact ⟨server, hget, hslots ▸ hequals⟩

end Views

end Matchmaker

end Muster
