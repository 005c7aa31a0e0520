import Mathlib.Data.List.Induction
import Muster.Proofs.Admission.WellFormed
import Muster.Proofs.Matchmaker.Places
import Muster.Proofs.Matchmaker.Reporting

/-!
# While a tick waits

While a tick waits for the answers of servers, players go on to enter, to leave and to change what
they ask for.  A call concerns the entry of its player alone.  As long as a player does not leave,
the entry keeps its time and its attempts, and only a player who is out comes in anew.
-/

namespace Muster

/-- A call about the search of a player, at any time. -/
inductive SearchCall where
  | enter (player : PlayerId) (criteria : Criteria) (servers : List PreferredServer) (now : Nat)
  | leave (player : PlayerId)
  | withdraw (player : PlayerId) (thoughtAt : Option Endpoint) (reason : DequeueReason) (now : Nat)
  | updatePreferences (player : PlayerId) (criteria : Criteria) (servers : List PreferredServer)
      (now : Nat)

namespace SearchCall

def player : SearchCall → PlayerId
  | enter player .. | leave player | withdraw player .. | updatePreferences player .. => player

def isEntry : SearchCall → Bool
  | enter .. => true
  | leave .. | withdraw .. | updatePreferences .. => false

def isDeparture : SearchCall → Bool
  | leave .. | withdraw .. => true
  | enter .. | updatePreferences .. => false

def isDisturbance : SearchCall → Bool
  | leave .. | withdraw .. | updatePreferences .. => true
  | enter .. => false

end SearchCall

/-- A player who is taken from a queue leaves its settings as they are. -/
theorem GameServer.dequeue?_config {server changed : GameServer} {player : PlayerId}
    {reason : DequeueReason} {now : Nat} {events : List QueueEvent}
    (hdequeue : server.dequeue? player reason now = some (changed, events)) :
    changed.queue.config = server.queue.config := by
  obtain ⟨⟨queue, event⟩, hremove, hchanged⟩ := Option.map_eq_some_iff.mp hdequeue
  have hconfig : queue.config = server.queue.config := Queue.remove_config hremove
  obtain ⟨rfl, -⟩ := Prod.mk.inj hchanged
  exact hconfig

namespace Matchmaker

variable {matchmaker : Matchmaker} {player : PlayerId} {searcher : Searcher} {call : SearchCall}
  {calls : List SearchCall}

def heed (matchmaker : Matchmaker) : SearchCall → Matchmaker
  | .enter player criteria servers now => (matchmaker.enter player criteria servers now).1
  | .leave player => (matchmaker.leave player).1
  | .withdraw player thoughtAt reason now =>
      (matchmaker.withdraw player thoughtAt reason now).1
  | .updatePreferences player criteria servers now =>
      (matchmaker.updatePreferences player criteria servers now).1

def heedAll (matchmaker : Matchmaker) (calls : List SearchCall) : Matchmaker :=
  calls.foldl heed matchmaker

/-! ## The entry of one player -/

@[simp]
theorem searcher?_registerAll (matchmaker : Matchmaker) (servers : List PreferredServer)
    (now : Nat) (player : PlayerId) :
    (matchmaker.registerAll servers now).searcher? player = matchmaker.searcher? player := rfl

theorem searcher?_removeSearcher_self (matchmaker : Matchmaker) (player : PlayerId) :
    (matchmaker.removeSearcher player).searcher? player = none := by
  rw [searcher?, List.find?_eq_none]
  intro searcher hsearcher
  simpa [removeSearcher] using (List.mem_filter.mp hsearcher).2

theorem searcher?_modifySearcher_update (matchmaker : Matchmaker) (player other : PlayerId)
    (criteria : Criteria) (servers : List PreferredServer) :
    (matchmaker.modifySearcher other fun searcher =>
        searcher.update criteria servers).searcher? player =
      (matchmaker.searcher? player).map fun searcher =>
        if searcher.id = other then searcher.update criteria servers else searcher :=
  searcher?_modifySearcher matchmaker player other fun _ => rfl

/-- Who is withdrawn leaves the pool.  Who is withdrawn from a queue is not in the pool. -/
theorem pool_withdraw (matchmaker : Matchmaker) (player : PlayerId) (thoughtAt : Option Endpoint)
    (reason : DequeueReason) (now : Nat) :
    (matchmaker.withdraw player thoughtAt reason now).1.pool =
      (matchmaker.removeSearcher player).pool := by
  rw [withdraw]
  split_ifs with hsearching
  · rfl
  · have hout : (matchmaker.removeSearcher player).pool = matchmaker.pool := by
      apply List.filter_eq_self.mpr
      intro searcher hsearcher
      rw [bne_iff_ne]
      rintro rfl
      exact hsearching (isSearching_iff.mpr (List.mem_map_of_mem hsearcher))
    rw [hout]
    cases matchmaker.queueToLeave? player thoughtAt with
    | none => rfl
    | some server =>
        cases hdequeue : matchmaker.dequeue? server.address player reason now with
        | none => simp only [hdequeue]
        | some outcome =>
            obtain ⟨_, changed, events, -, -, hnext⟩ := dequeue?_eq_some hdequeue
            simp only [hdequeue]
            exact congrArg (fun next => next.1.pool) hnext.symm

theorem searcher?_withdraw (matchmaker : Matchmaker) (other : PlayerId)
    (thoughtAt : Option Endpoint) (reason : DequeueReason) (now : Nat) (player : PlayerId) :
    (matchmaker.withdraw other thoughtAt reason now).1.searcher? player =
      (matchmaker.removeSearcher other).searcher? player := by
  rw [searcher?, pool_withdraw, searcher?]

theorem searcher?_heed_other (matchmaker : Matchmaker) (hother : call.player ≠ player) :
    (matchmaker.heed call).searcher? player = matchmaker.searcher? player := by
  cases call with
  | enter other criteria servers now =>
      rw [heed, enter]
      split_ifs
      · rfl
      · rfl
      · exact searcher?_addSearcher_other matchmaker hother.symm
  | leave other => exact searcher?_removeSearcher_other matchmaker hother.symm
  | withdraw other thoughtAt reason now =>
      rw [heed, searcher?_withdraw]
      exact searcher?_removeSearcher_other matchmaker hother.symm
  | updatePreferences other criteria servers now =>
      rw [heed, updatePreferences]
      split_ifs
      · rw [searcher?_registerAll, searcher?_modifySearcher_update]
        cases hsearcher : matchmaker.searcher? player with
        | none => rfl
        | some searcher =>
            rw [Option.map_some, if_neg ((searcher?_eq_some hsearcher).2 ▸ hother.symm)]
      · rfl

theorem searcher?_heed_departure (matchmaker : Matchmaker) (hdeparture : call.isDeparture) :
    (matchmaker.heed call).searcher? call.player = none := by
  cases call with
  | leave player => exact searcher?_removeSearcher_self matchmaker player
  | withdraw player thoughtAt reason now =>
      rw [heed, searcher?_withdraw]
      exact searcher?_removeSearcher_self matchmaker player
  | enter | updatePreferences => cases hdeparture

/-- A player who searches already cannot enter, and a change of preferences changes nothing
else. -/
theorem searcher?_heed_stay (hsearcher : matchmaker.searcher? player = some searcher)
    (hplayer : call.player = player) (hstays : call.isDeparture = false) :
    (matchmaker.heed call).searcher? player = some searcher ∨
      call.isDisturbance ∧ ∃ criteria servers,
        (matchmaker.heed call).searcher? player = some (searcher.update criteria servers) := by
  have hsearching : matchmaker.isSearching player :=
    isSearching_iff_exists.mpr ⟨searcher, hsearcher⟩
  cases call with
  | enter other criteria servers now =>
      obtain rfl : other = player := hplayer
      left
      rw [heed, enter, if_pos hsearching]
      split_ifs <;> exact hsearcher
  | updatePreferences other criteria servers now =>
      obtain rfl : other = player := hplayer
      refine Or.inr ⟨rfl, criteria, servers, ?_⟩
      rw [heed, updatePreferences, if_pos hsearching, searcher?_registerAll,
        searcher?_modifySearcher_update, hsearcher, Option.map_some,
        if_pos (searcher?_eq_some hsearcher).2]
  | leave | withdraw => cases hstays

/-- Whoever is out of the pool stays out until entering again. -/
theorem searcher?_heed_of_out (hout : matchmaker.searcher? player = none)
    (hentry : call.player = player → call.isEntry = false) :
    (matchmaker.heed call).searcher? player = none := by
  by_cases hplayer : call.player = player
  · cases call with
    | enter => cases hentry hplayer
    | leave | withdraw => exact hplayer ▸ searcher?_heed_departure matchmaker rfl
    | updatePreferences other criteria servers now =>
        obtain rfl : other = player := hplayer
        have hidle : ¬ matchmaker.isSearching other := by
          rw [isSearching, hout]
          exact Bool.false_ne_true
        rw [heed, updatePreferences, if_neg hidle]
        exact hout
  · rw [searcher?_heed_other matchmaker hplayer]
    exact hout

/-! ## Several calls -/

/-- Who neither leaves nor asks for something else keeps the entry. -/
theorem searcher?_heedAll_of_undisturbed (hsearcher : matchmaker.searcher? player = some searcher)
    (hcalls : ∀ call ∈ calls, call.player = player → call.isDisturbance = false) :
    (matchmaker.heedAll calls).searcher? player = some searcher := by
  refine List.foldlRecOn (motive := fun next => next.searcher? player = some searcher) calls heed
    hsearcher fun next hnext call hcall => ?_
  by_cases hplayer : call.player = player
  · have hundisturbed := hcalls call hcall hplayer
    have hstays : call.isDeparture = false := by
      cases call <;> first | rfl | cases hundisturbed
    rcases searcher?_heed_stay hnext hplayer hstays with hkept | ⟨hdisturbs, -⟩
    · exact hkept
    · rw [hundisturbed] at hdisturbs
      cases hdisturbs
  · rw [searcher?_heed_other next hplayer]
    exact hnext

/-- Who does not leave searches on: the entry is the one from before, but for what it asks for. -/
theorem searcher?_heedAll_of_stay (hsearcher : matchmaker.searcher? player = some searcher)
    (hcalls : ∀ call ∈ calls, call.player = player → call.isDeparture = false) :
    ∃ criteria servers,
      (matchmaker.heedAll calls).searcher? player = some (searcher.update criteria servers) := by
  refine List.foldlRecOn (motive := fun next => ∃ criteria servers,
    next.searcher? player = some (searcher.update criteria servers)) calls heed
    ⟨searcher.criteria, searcher.servers, hsearcher⟩ fun next hnext call hcall => ?_
  obtain ⟨criteria, servers, hentry⟩ := hnext
  by_cases hplayer : call.player = player
  · rcases searcher?_heed_stay hentry hplayer (hcalls call hcall hplayer) with
      hkept | ⟨-, criteria, servers, hchanged⟩
    · exact ⟨criteria, servers, hkept⟩
    · exact ⟨criteria, servers, hchanged⟩
  · refine ⟨criteria, servers, ?_⟩
    rw [searcher?_heed_other next hplayer]
    exact hentry

/-- Who is no longer in the pool has left it. -/
theorem exists_departure (hsearcher : matchmaker.searcher? player = some searcher)
    (hout : (matchmaker.heedAll calls).isSearching player = false) :
    ∃ call ∈ calls, call.player = player ∧ call.isDeparture := by
  by_contra hnone
  have hstays : ∀ call ∈ calls, call.player = player → call.isDeparture = false := by
    intro call hcall hplayer
    rw [← Bool.not_eq_true]
    intro hdeparture
    exact hnone ⟨call, hcall, hplayer, hdeparture⟩
  obtain ⟨criteria, servers, hentry⟩ := searcher?_heedAll_of_stay hsearcher hstays
  rw [isSearching, hentry] at hout
  cases hout

/-- Who leaves and does not enter again is not in the pool. -/
theorem searcher?_heedAll_of_departure
    (hcalls : ∀ call ∈ calls, call.player = player → call.isEntry = false)
    (hdeparture : ∃ call ∈ calls, call.player = player ∧ call.isDeparture) :
    (matchmaker.heedAll calls).searcher? player = none := by
  induction calls generalizing matchmaker with
  | nil =>
      obtain ⟨call, hcall, -⟩ := hdeparture
      exact absurd hcall List.not_mem_nil
  | cons first rest ih =>
      rw [List.forall_mem_cons] at hcalls
      obtain ⟨call, hcall, rfl, hdeparts⟩ := hdeparture
      rcases List.mem_cons.mp hcall with rfl | hlater
      · exact List.foldlRecOn (motive := fun next => next.searcher? call.player = none) rest heed
          (searcher?_heed_departure matchmaker hdeparts)
          fun _ hout later hlater => searcher?_heed_of_out hout (hcalls.2 later hlater)
      · exact ih hcalls.2 ⟨call, hlater, rfl, hdeparts⟩

/-- Where players only leave, whoever is in the pool has been there all the time. -/
theorem searcher?_of_departures (hcalls : ∀ call ∈ calls, call.isDeparture)
    (hentry : (matchmaker.heedAll calls).searcher? player = some searcher) :
    matchmaker.searcher? player = some searcher := by
  induction calls generalizing matchmaker with
  | nil => exact hentry
  | cons call rest ih =>
      rw [List.forall_mem_cons] at hcalls
      have hnext := ih hcalls.2 hentry
      by_cases hplayer : call.player = player
      · rw [← hplayer, searcher?_heed_departure matchmaker hcalls.1] at hnext
        cases hnext
      · rwa [searcher?_heed_other matchmaker hplayer] at hnext

/-! ## Places and queues -/

/-- Each call is a step of a run. -/
theorem step_heed (matchmaker : Matchmaker) (call : SearchCall) :
    World.Step ⟨matchmaker, [], []⟩ ⟨matchmaker.heed call, [], []⟩ := by
  cases call with
  | enter player criteria servers now => exact .enter player criteria servers now
  | leave player => exact .leave player
  | withdraw player thoughtAt reason now => exact .withdraw player thoughtAt reason now
  | updatePreferences player criteria servers now =>
      exact .updatePreferences player criteria servers now

theorem IsConsistent.heed (hconsistent : matchmaker.IsConsistent) (call : SearchCall) :
    (matchmaker.heed call).IsConsistent := by
  have hworld : World.IsConsistent ⟨matchmaker, [], []⟩ := ⟨hconsistent, by simp, by simp⟩
  exact ((step_heed matchmaker call).isConsistent hworld).matchmaker

theorem IsConsistent.heedAll (hconsistent : matchmaker.IsConsistent) (calls : List SearchCall) :
    (matchmaker.heedAll calls).IsConsistent :=
  List.foldlRecOn (motive := IsConsistent) calls Matchmaker.heed hconsistent
    fun _ hnext call _ => hnext.heed call

theorem hasTime_dequeue? {address : Endpoint} {reason : DequeueReason} {now : Nat}
    {next : Matchmaker} {effects : List Effect} (htime : matchmaker.registry.HasTime)
    (hdequeue : matchmaker.dequeue? address player reason now = some (next, effects)) :
    next.registry.HasTime := by
  obtain ⟨server, changed, events, hget, hserver, hnext⟩ := dequeue?_eq_some hdequeue
  have hconfig := GameServer.dequeue?_config hserver
  obtain ⟨rfl, -⟩ := Prod.mk.inj hnext
  intro other found hfound
  rw [Registry.get?_modify _ fun _ _ => rfl, Option.map_eq_some_iff] at hfound
  obtain ⟨earlier, hearlier, rfl⟩ := hfound
  by_cases hsame : earlier.address = changed.address
  · rw [if_pos hsame, hconfig]
    exact htime address server hget
  · rw [if_neg hsame]
    exact htime other earlier hearlier

theorem hasTime_heed_departure (htime : matchmaker.registry.HasTime)
    (hdeparture : call.isDeparture) : (matchmaker.heed call).registry.HasTime := by
  cases call with
  | leave player => exact htime
  | withdraw player thoughtAt reason now =>
      rw [heed, withdraw]
      split_ifs
      · exact htime
      · cases matchmaker.queueToLeave? player thoughtAt with
        | none => exact htime
        | some server =>
            cases hdequeue : matchmaker.dequeue? server.address player reason now with
            | none => simpa only [hdequeue] using htime
            | some outcome =>
                simp only [hdequeue]
                exact hasTime_dequeue? htime hdequeue
  | enter | updatePreferences => cases hdeparture

theorem hasTime_heedAll_departures (htime : matchmaker.registry.HasTime)
    (hcalls : ∀ call ∈ calls, call.isDeparture) : (matchmaker.heedAll calls).registry.HasTime :=
  List.foldlRecOn (motive := fun next => next.registry.HasTime) calls heed htime
    fun _ hnext call hcall => hasTime_heed_departure hnext (hcalls call hcall)

end Matchmaker

end Muster
