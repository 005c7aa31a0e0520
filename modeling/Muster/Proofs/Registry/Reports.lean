import Mathlib.Data.List.Nodup
import Muster.Matchmaker.Tick
import Muster.Proofs.Registry.Servers

/-!
# Reports in the registry

What the results of a batch of probes change.  A report that arrives replaces an earlier one and
nothing else of its server.  If every server reports about itself, then each server that answered
has an info of its own, and the views of the servers that answered are views of different servers.
-/

namespace Muster

variable {now : Nat}

def GameServer.withoutReports (server : GameServer) : GameServer :=
  { server with info := none, status := none }

@[simp]
theorem GameServer.withoutReports_store (server : GameServer) (now : Nat) (kind : ProbeKind)
    (report : kind.Report) :
    (server.store now kind report).withoutReports = server.withoutReports := by
  cases kind <;> rfl

theorem GameServer.address_store (server : GameServer) (now : Nat) (kind : ProbeKind)
    (report : kind.Report) : (server.store now kind report).address = server.address := by
  cases kind <;> rfl

namespace Registry

variable {registry : Registry} {address : Endpoint} {server : GameServer} {kind : ProbeKind}
  {asked : List Endpoint}

theorem get?_store (registry : Registry) (kind : ProbeKind) (address : Endpoint)
    (report : kind.Report) (now : Nat) (other : Endpoint) :
    (registry.store kind address report now).get? other =
      (registry.get? other).map fun server =>
        if server.address = address then server.store now kind report else server := by
  apply get?_modify
  intro server haddress
  rw [GameServer.address_store, haddress]

theorem isKeyed_store (hkeyed : registry.IsKeyed) (kind : ProbeKind) (address : Endpoint)
    (report : kind.Report) (now : Nat) : (registry.store kind address report now).IsKeyed := by
  apply isKeyed_modify hkeyed
  intro server _ _
  exact GameServer.address_store server now kind report

theorem queued_store (registry : Registry) (kind : ProbeKind) (address : Endpoint)
    (report : kind.Report) (now : Nat) :
    (registry.store kind address report now).queued = registry.queued := by
  apply queued_modify
  intro server
  cases kind <;> rfl

/-! ## Results of a batch -/

/-- A result stores the report that came, if one came, and tells which server it is about. -/
theorem takeResult_cases (asked : List Endpoint) (registry : Registry)
    (result : ProbeResult kind) :
    (∃ address ∈ asked[result.index]?, ∃ report ∈ result.report,
      takeResult asked registry result =
        (registry.store kind address report result.time, some ⟨address, .fetched⟩)) ∨
    (takeResult asked registry result).1 = registry ∧
      ∀ refreshed ∈ (takeResult asked registry result).2, ¬ refreshed.responded := by
  rw [takeResult]
  cases asked[result.index]? with
  | none => exact Or.inr ⟨rfl, by simp⟩
  | some address =>
      cases result.report with
      | none => exact Or.inr ⟨rfl, by simp [Refreshed.responded]⟩
      | some report => exact Or.inl ⟨address, rfl, report, rfl, rfl⟩

/-- Every result of a server that was asked tells of that server. -/
theorem address_takeResult (asked : List Endpoint) (registry : Registry)
    (result : ProbeResult kind) :
    (takeResult asked registry result).2.map (·.address) = asked[result.index]? := by
  rw [takeResult]
  cases asked[result.index]? with
  | none => rfl
  | some address => cases result.report <;> rfl

/-- What no report changes, the results of a batch do not change. -/
theorem takeResults_induction (holds : Registry → Prop) {results : List (ProbeResult kind)}
    (hstore : ∀ registry, ∀ result ∈ results, ∀ address ∈ asked[result.index]?,
      ∀ report ∈ result.report, holds registry →
      holds (registry.store kind address report result.time))
    (hregistry : holds registry) : holds (takeResults asked results registry).1 := by
  induction results generalizing registry with
  | nil => exact hregistry
  | cons result rest ih =>
      have hfirst : holds (takeResult asked registry result).1 := by
        rcases takeResult_cases asked registry result with
          ⟨address, hasked, report, hreport, htaken⟩ | ⟨hsame, -⟩
        · rw [htaken]
          exact hstore registry result List.mem_cons_self address hasked report hreport hregistry
        · rw [hsame]
          exact hregistry
      apply ih _ hfirst
      intro registry other hother
      exact hstore registry other (List.mem_cons_of_mem _ hother)

theorem isKeyed_takeResults (hkeyed : registry.IsKeyed) (asked : List Endpoint)
    (results : List (ProbeResult kind)) : (takeResults asked results registry).1.IsKeyed := by
  apply takeResults_induction IsKeyed _ hkeyed
  intro registry result _ address _ report _ hkeyed
  exact isKeyed_store hkeyed kind address report result.time

theorem queued_takeResults (asked : List Endpoint) (results : List (ProbeResult kind))
    (registry : Registry) : (takeResults asked results registry).1.queued = registry.queued := by
  apply takeResults_induction (fun other => other.queued = registry.queued) _ rfl
  intro other result _ address _ report _ hqueued
  rw [queued_store, hqueued]

/-- Results change nothing of a server but its reports. -/
theorem withoutReports_takeResults (asked : List Endpoint) (results : List (ProbeResult kind))
    (registry : Registry) (address : Endpoint) :
    ((takeResults asked results registry).1.get? address).map GameServer.withoutReports =
      (registry.get? address).map GameServer.withoutReports := by
  apply takeResults_induction (fun other =>
    (other.get? address).map GameServer.withoutReports =
      (registry.get? address).map GameServer.withoutReports) _ rfl
  intro other result _ reported _ report _ hsame
  rw [get?_store, ← hsame]
  cases other.get? address with
  | none => rfl
  | some server =>
      simp only [Option.map_some]
      split_ifs
      · rw [GameServer.withoutReports_store]
      · rfl

theorem addresses_takeResults (asked : List Endpoint) (results : List (ProbeResult kind))
    (registry : Registry) :
    (takeResults asked results registry).2.map (·.address) =
      results.filterMap fun result => asked[result.index]? := by
  induction results generalizing registry with
  | nil => rfl
  | cons result rest ih =>
      rw [takeResults, List.map_append, ih, List.filterMap_cons,
        ← address_takeResult asked registry result]
      cases (takeResult asked registry result).2 <;> rfl

/-- Different servers that are asked once each and answer once each. -/
theorem nodup_addresses_takeResults (hasked : asked.Nodup) {results : List (ProbeResult kind)}
    (hresults : (results.map (·.index)).Nodup) (registry : Registry) :
    ((takeResults asked results registry).2.map (·.address)).Nodup := by
  have hindices : results.filterMap (fun result => asked[result.index]?) =
      (results.map (·.index)).filterMap fun index => asked[index]? := by
    rw [List.filterMap_map]
    rfl
  rw [addresses_takeResults, hindices]
  apply hresults.filterMap
  intro first second address hfirst hsecond
  have hlength : first < asked.length := (List.getElem?_eq_some_iff.mp hfirst).1
  exact (List.getElem?_inj hlength hasked).mp (hfirst.trans hsecond.symm)

/-! ## Reports about oneself -/

/-- The server at the address has an info, and the info is about the server itself. -/
def HasOwnInfo (registry : Registry) (address : Endpoint) : Prop :=
  ∀ server, registry.get? address = some server →
    ∃ info, server.info = some info ∧ info.value.address = address

/-- Every report is about the server that was asked. -/
def AreOwn (asked : List Endpoint) (results : List (ProbeResult .info)) : Prop :=
  ∀ result ∈ results, ∀ address ∈ asked[result.index]?, ∀ report ∈ result.report,
    ServerInfo.address report = address

theorem hasOwnInfo_store (registry : Registry) {report : ServerInfo}
    (hreport : report.address = address) (now : Nat) :
    (registry.store .info address report now).HasOwnInfo address := by
  intro server hget
  rw [get?_store] at hget
  obtain ⟨earlier, hearlier, rfl⟩ := Option.map_eq_some_iff.mp hget
  rw [if_pos (mem_of_get? hearlier).2]
  exact ⟨⟨report, now⟩, rfl, hreport⟩

/-- An own info stays one, whichever server the next info is about. -/
theorem HasOwnInfo.store_info {other : Endpoint} (hown : registry.HasOwnInfo other)
    {report : ServerInfo} (hreport : report.address = address) (now : Nat) :
    (registry.store .info address report now).HasOwnInfo other := by
  by_cases hother : other = address
  · rw [hother]
    exact hasOwnInfo_store registry hreport now
  · intro server hget
    rw [get?_store] at hget
    obtain ⟨earlier, hearlier, rfl⟩ := Option.map_eq_some_iff.mp hget
    rw [if_neg ((mem_of_get? hearlier).2 ▸ hother)]
    exact hown earlier hearlier

theorem HasOwnInfo.store_status {other : Endpoint} (hown : registry.HasOwnInfo other)
    (address : Endpoint) (report : Scoreboard) (now : Nat) :
    (registry.store .status address report now).HasOwnInfo other := by
  intro server hget
  rw [get?_store] at hget
  obtain ⟨earlier, hearlier, rfl⟩ := Option.map_eq_some_iff.mp hget
  split_ifs <;> exact hown earlier hearlier

/-- Whoever answered has an info of its own afterwards. -/
theorem hasOwnInfo_takeResults {results : List (ProbeResult .info)} (hown : AreOwn asked results)
    {refreshed : Refreshed} (hrefreshed : refreshed ∈ (takeResults asked results registry).2)
    (hresponded : refreshed.responded) :
    (takeResults asked results registry).1.HasOwnInfo refreshed.address := by
  induction results generalizing registry with
  | nil => exact absurd hrefreshed List.not_mem_nil
  | cons result rest ih =>
      have hrest : AreOwn asked rest := fun other hother =>
        hown other (List.mem_cons_of_mem _ hother)
      rw [takeResults, List.mem_append, Option.mem_toList] at hrefreshed
      rcases hrefreshed with hfirst | hlater
      · have hstored : (takeResult asked registry result).1.HasOwnInfo refreshed.address := by
          rcases takeResult_cases asked registry result with
            ⟨address, hasked, report, hreport, htaken⟩ | ⟨-, hsilent⟩
          · rw [htaken] at hfirst ⊢
            obtain rfl := Option.some.inj hfirst
            exact hasOwnInfo_store registry
              (hown result List.mem_cons_self address hasked report hreport) result.time
          · exact absurd hresponded (hsilent refreshed hfirst)
        apply takeResults_induction (fun other => other.HasOwnInfo refreshed.address) _ hstored
        intro other later hmember address hasked report hreport hown
        exact hown.store_info (hrest later hmember address hasked report hreport) later.time
      · exact ih hrest hlater

theorem HasOwnInfo.takeResults_status (hown : registry.HasOwnInfo address)
    (asked : List Endpoint) (results : List (ProbeResult .status)) :
    (takeResults asked results registry).1.HasOwnInfo address := by
  apply takeResults_induction (fun other => other.HasOwnInfo address) _ hown
  intro other result _ reported _ report _ hown
  exact hown.store_status reported report result.time

end Registry

/-! ## Views -/

namespace Matchmaker

variable {registry : Registry} {infos statuses : List Refreshed} {refreshed : Refreshed}
  {view : ServerView} {seen : List ServerView}

/-- A server has a view exactly when it responded, is known and is not overbooked. -/
theorem view?_eq_ok (hview : view? registry statuses refreshed = .ok (some view)) :
    refreshed.responded ∧ ∃ server info reserved,
      registry.get? refreshed.address = some server ∧ server.info = some info ∧
      server.reservedSlots? = some reserved ∧
      view = .ofReports info.value (freshStatus? statuses server) reserved := by
  rw [view?] at hview
  split at hview
  case h_1 => cases hview
  case h_2 server hanswer =>
    obtain ⟨hget, hresponded⟩ := Option.filter_eq_some_iff.mp hanswer
    split at hview
    case h_1 => cases hview
    case h_2 => cases hview
    case h_3 info reserved hinfo hreserved =>
      exact ⟨hresponded, server, info, reserved, hget, hinfo, hreserved,
        (Option.some.inj (Except.ok.inj hview)).symm⟩

/-- Only a server that has responded can make a tick fail. -/
theorem view?_eq_error {overbooked : Overbooked}
    (hview : view? registry statuses refreshed = .error overbooked) :
    refreshed.responded ∧ overbooked.server = refreshed.address := by
  rw [view?] at hview
  split at hview
  case h_1 => cases hview
  case h_2 server hanswer =>
    obtain ⟨hget, hresponded⟩ := Option.filter_eq_some_iff.mp hanswer
    split at hview
    case h_1 => cases hview
    case h_2 =>
      obtain rfl := Except.error.inj hview
      exact ⟨hresponded, (Registry.mem_of_get? hget).2⟩
    case h_3 => cases hview

/-- There is nothing to keep a tick from seeing a server whose reserved slots can be counted. -/
theorem exists_view? (hcounted : refreshed.responded →
    ∀ server, registry.get? refreshed.address = some server → server.reservedSlots? ≠ none) :
    ∃ view, view? registry statuses refreshed = .ok view := by
  rw [view?]
  split
  case h_1 => exact ⟨none, rfl⟩
  case h_2 server hanswer =>
    obtain ⟨hget, hresponded⟩ := Option.filter_eq_some_iff.mp hanswer
    split
    case h_1 => exact ⟨none, rfl⟩
    case h_2 hreserved => exact absurd hreserved (hcounted hresponded server hget)
    case h_3 => exact ⟨_, rfl⟩

theorem views_cons_eq_ok_iff :
    views registry statuses (refreshed :: infos) = .ok seen ↔
      ∃ view others, view? registry statuses refreshed = .ok view ∧
        views registry statuses infos = .ok others ∧ seen = view.toList ++ others := by
  rw [views]
  cases view? registry statuses refreshed with
  | error overbooked => simp [bind, Except.bind]
  | ok view =>
      cases views registry statuses infos with
      | error overbooked => simp [bind, Except.bind]
      | ok others => simp [bind, Except.bind, pure, Except.pure, eq_comm]

/-- Servers that can count their reserved slots have views. -/
theorem exists_views (hcounted : ∀ refreshed ∈ infos, refreshed.responded →
    ∀ server, registry.get? refreshed.address = some server → server.reservedSlots? ≠ none) :
    ∃ seen, views registry statuses infos = .ok seen := by
  induction infos with
  | nil => exact ⟨[], rfl⟩
  | cons refreshed rest ih =>
      obtain ⟨others, hothers⟩ := ih fun other hother =>
        hcounted other (List.mem_cons_of_mem _ hother)
      obtain ⟨view, hview⟩ := exists_view? (hcounted refreshed List.mem_cons_self)
      exact ⟨_, views_cons_eq_ok_iff.mpr ⟨view, others, hview, hothers, rfl⟩⟩

/-- Only a server that answered is found to be overbooked. -/
theorem exists_of_views_eq_error {overbooked : Overbooked}
    (hseen : views registry statuses infos = .error overbooked) :
    ∃ refreshed ∈ infos, refreshed.responded ∧ overbooked.server = refreshed.address := by
  induction infos with
  | nil => cases hseen
  | cons refreshed rest ih =>
      rw [views] at hseen
      cases hview : view? registry statuses refreshed with
      | error fault =>
          rw [hview] at hseen
          obtain rfl := Except.error.inj hseen
          exact ⟨refreshed, List.mem_cons_self, view?_eq_error hview⟩
      | ok view =>
          cases hothers : views registry statuses rest with
          | ok others =>
              rw [hview, hothers] at hseen
              cases hseen
          | error fault =>
              rw [hview, hothers] at hseen
              obtain rfl := Except.error.inj hseen
              obtain ⟨other, hother, hresult⟩ := ih hothers
              exact ⟨other, List.mem_cons_of_mem _ hother, hresult⟩

/-- Every view comes from an answer. -/
theorem exists_of_mem_views (hseen : views registry statuses infos = .ok seen)
    (hview : view ∈ seen) :
    ∃ refreshed ∈ infos, view? registry statuses refreshed = .ok (some view) := by
  induction infos generalizing seen with
  | nil =>
      rw [← Except.ok.inj hseen] at hview
      exact absurd hview List.not_mem_nil
  | cons refreshed rest ih =>
      obtain ⟨first, others, hfirst, hothers, rfl⟩ := views_cons_eq_ok_iff.mp hseen
      rcases List.mem_append.mp hview with hhere | hthere
      · rw [Option.mem_toList] at hhere
        obtain rfl := Option.mem_def.mp hhere
        exact ⟨refreshed, List.mem_cons_self, hfirst⟩
      · obtain ⟨other, hother, hsource⟩ := ih hothers hthere
        exact ⟨other, List.mem_cons_of_mem _ hother, hsource⟩

/-- The view of a server with an info of its own is a view of that server. -/
theorem address_of_view?
    (hown : refreshed.responded → registry.HasOwnInfo refreshed.address)
    (hview : view? registry statuses refreshed = .ok (some view)) :
    view.address = refreshed.address := by
  obtain ⟨hresponded, server, info, reserved, hget, hinfo, -, rfl⟩ := view?_eq_ok hview
  obtain ⟨own, hsome, haddress⟩ := hown hresponded server hget
  obtain rfl := Option.some.inj (hinfo.symm.trans hsome)
  exact haddress

/-- Those who answered have infos of their own. -/
def HaveOwnInfos (registry : Registry) (infos : List Refreshed) : Prop :=
  ∀ refreshed ∈ infos, refreshed.responded → registry.HasOwnInfo refreshed.address

/-- Every view is made of what is known of a server that answered. -/
theorem mem_views (hown : HaveOwnInfos registry infos)
    (hseen : views registry statuses infos = .ok seen) (hview : view ∈ seen) :
    ∃ refreshed ∈ infos, refreshed.responded ∧ refreshed.address = view.address ∧
      ∃ server info reserved, registry.get? view.address = some server ∧
        server.info = some info ∧ server.reservedSlots? = some reserved ∧
        view = .ofReports info.value (freshStatus? statuses server) reserved := by
  obtain ⟨refreshed, hmember, hsource⟩ := exists_of_mem_views hseen hview
  rw [address_of_view? (hown refreshed hmember) hsource]
  obtain ⟨hresponded, hserver⟩ := view?_eq_ok hsource
  exact ⟨refreshed, hmember, hresponded, rfl, hserver⟩

/-- Each server is seen once at most, in the order in which they were asked. -/
theorem addresses_views_sublist (hown : HaveOwnInfos registry infos)
    (hseen : views registry statuses infos = .ok seen) :
    (seen.map (·.address)).Sublist (infos.map (·.address)) := by
  induction infos generalizing seen with
  | nil =>
      rw [← Except.ok.inj hseen]
      exact List.Sublist.refl _
  | cons refreshed rest ih =>
      obtain ⟨first, others, hfirst, hothers, rfl⟩ := views_cons_eq_ok_iff.mp hseen
      have hrest := ih (fun other hother => hown other (List.mem_cons_of_mem _ hother)) hothers
      cases first with
      | none => exact hrest.cons _
      | some view =>
          rw [Option.toList_some, List.singleton_append, List.map_cons, List.map_cons,
            address_of_view? (hown refreshed List.mem_cons_self) hfirst]
          exact hrest.cons_cons _

end Matchmaker

end Muster
