import Muster.Matchmaker.Processor
import Muster.Matchmaker.Tick
import Muster.Proofs.Admission.Servers
import Muster.Proofs.Registry.Servers

/-!
# The roll

The roll lists everybody who is in the pool or in a queue, once for each place.  That no player has
two places means that nobody is on the roll twice.  No operation but the start of a search puts
anybody on the roll; the others move players from one place to another or take them away.
-/

namespace Muster.Matchmaker

variable {matchmaker next before after : Matchmaker} {player : PlayerId} {now : Nat}
  {joined : List PlayerId}

/-- Everybody in the pool or in a queue, once for each place. -/
def roll (matchmaker : Matchmaker) : List PlayerId :=
  matchmaker.pool.map (·.id) ++ matchmaker.registry.queued

/-- No server is known twice, and nobody has two places. -/
structure IsConsistent (matchmaker : Matchmaker) : Prop where
  isKeyed : matchmaker.registry.IsKeyed
  nodup_roll : matchmaker.roll.Nodup

theorem IsConsistent.nodup_pool (hconsistent : matchmaker.IsConsistent) :
    (matchmaker.pool.map (·.id)).Nodup :=
  hconsistent.nodup_roll.sublist (List.sublist_append_left _ _)

theorem isConsistent_empty (config : QueueConfig) : (empty config).IsConsistent :=
  ⟨Registry.isKeyed_empty config, List.nodup_nil⟩

/-- What an operation does to the places of players: on the roll are none but those who were there
and those who joined. -/
structure Moves (joined : List PlayerId) (before after : Matchmaker) : Prop where
  isKeyed : after.registry.IsKeyed
  roll_subperm : after.roll.Subperm (joined ++ before.roll)

theorem Moves.refl (hkeyed : matchmaker.registry.IsKeyed) : Moves [] matchmaker matchmaker :=
  ⟨hkeyed, List.Subperm.refl _⟩

theorem Moves.trans {earlier later : List PlayerId} (hfirst : Moves earlier before next)
    (hsecond : Moves later next after) : Moves (earlier ++ later) before after := by
  refine ⟨hsecond.isKeyed, ?_⟩
  have hboth : (later ++ next.roll).Subperm (later ++ (earlier ++ before.roll)) :=
    (List.Subperm.refl later).append hfirst.roll_subperm
  have hswap : (later ++ (earlier ++ before.roll)).Perm (earlier ++ later ++ before.roll) := by
    rw [List.append_assoc]
    exact List.perm_append_comm_assoc later earlier before.roll
  exact (hsecond.roll_subperm.trans hboth).trans hswap.subperm

theorem Moves.isConsistent (hmoves : Moves joined before after)
    (hjoined : (joined ++ before.roll).Nodup) : after.IsConsistent :=
  ⟨hmoves.isKeyed, Parts.nodup hmoves.roll_subperm hjoined⟩

/-- Nobody has a place who had none. -/
theorem Moves.mem_roll (hmoves : Moves [] before after) (hplayer : player ∈ after.roll) :
    player ∈ before.roll :=
  hmoves.roll_subperm.subset hplayer

/-! ## The pool -/

theorem searcher?_eq_some {searcher : Searcher}
    (hsearcher : matchmaker.searcher? player = some searcher) :
    searcher ∈ matchmaker.pool ∧ searcher.id = player := by
  have hid := List.find?_some hsearcher
  exact ⟨List.mem_of_find?_eq_some hsearcher, beq_iff_eq.mp hid⟩

theorem isSearching_iff :
    matchmaker.isSearching player ↔ player ∈ matchmaker.pool.map (·.id) := by
  simp [isSearching, searcher?]

/-- Any change that keeps the numbers of the players and the queues. -/
theorem moves_of_eq (hkeyed : after.registry.IsKeyed)
    (hpool : after.pool.map (·.id) = before.pool.map (·.id))
    (hqueued : after.registry.queued = before.registry.queued) : Moves [] before after := by
  refine ⟨hkeyed, ?_⟩
  rw [roll, hpool, hqueued]
  exact List.Subperm.refl _

theorem moves_removeSearcher (hkeyed : matchmaker.registry.IsKeyed) (player : PlayerId) :
    Moves [] matchmaker (matchmaker.removeSearcher player) := by
  refine ⟨hkeyed, ?_⟩
  exact ((List.filter_sublist.map _).append_right _).subperm

theorem moves_addSearcher (hkeyed : matchmaker.registry.IsKeyed) (searcher : Searcher) :
    Moves [searcher.id] matchmaker (matchmaker.addSearcher searcher) := by
  refine ⟨hkeyed, ?_⟩
  have hroll : (matchmaker.addSearcher searcher).roll =
      ((matchmaker.removeSearcher searcher.id).pool.map (·.id) ++ [searcher.id]) ++
        matchmaker.registry.queued := by
    simp [roll, addSearcher, removeSearcher]
  rw [hroll, List.append_assoc]
  have hmoved := List.perm_append_comm_assoc
    ((matchmaker.removeSearcher searcher.id).pool.map (·.id)) [searcher.id]
    matchmaker.registry.queued
  exact hmoved.subperm.trans ((List.Subperm.refl _).append
    (moves_removeSearcher hkeyed searcher.id).roll_subperm)

theorem moves_modifySearcher (hkeyed : matchmaker.registry.IsKeyed) (player : PlayerId)
    (change : Searcher → Searcher) (hchange : ∀ searcher, (change searcher).id = searcher.id) :
    Moves [] matchmaker (matchmaker.modifySearcher player change) := by
  refine moves_of_eq hkeyed ?_ rfl
  rw [modifySearcher, List.map_map]
  apply List.map_congr_left
  intro searcher hsearcher
  simp only [Function.comp_apply]
  split_ifs
  · exact hchange searcher
  · rfl

theorem moves_registerAll (hkeyed : matchmaker.registry.IsKeyed) (servers : List PreferredServer)
    (now : Nat) : Moves [] matchmaker (matchmaker.registerAll servers now) :=
  moves_of_eq (Registry.isKeyed_getOrCreateAll hkeyed _ now) rfl
    (Registry.queued_getOrCreateAll _ _ now)

theorem moves_pruneIdle (hkeyed : matchmaker.registry.IsKeyed) (now : Nat) :
    Moves [] matchmaker (matchmaker.pruneIdle now) := by
  refine ⟨Registry.isKeyed_pruneIdle hkeyed now, ?_⟩
  exact ((Registry.queued_pruneIdle_sublist matchmaker.registry now).append_left _).subperm

/-- A change of what is known of a server that does not concern its queue. -/
theorem moves_modify (hkeyed : matchmaker.registry.IsKeyed) (address : Endpoint)
    {change : GameServer → GameServer}
    (haddress : ∀ server, (change server).address = server.address)
    (hqueue : ∀ server, (change server).queue = server.queue) :
    Moves [] matchmaker
      { matchmaker with registry := matchmaker.registry.modify address change } := by
  apply moves_of_eq
  · apply Registry.isKeyed_modify hkeyed
    intro server _ _
    exact haddress server
  · rfl
  · exact Registry.queued_modify hqueue

/-! ## Queues -/

/-- What an operation on a queue does to the roll is what it does to the queue. -/
theorem moves_replaceServer (hkeyed : matchmaker.registry.IsKeyed) {server changed : GameServer}
    (hserver : server ∈ matchmaker.registry.servers) (hqueue : server.Requeued joined changed)
    (events : List QueueEvent) :
    Moves joined matchmaker (matchmaker.replaceServer changed events).1 := by
  have hget : matchmaker.registry.get? changed.address = some server := by
    rw [Registry.get?_eq_some_iff hkeyed]
    exact ⟨hserver, hqueue.address_eq.symm⟩
  constructor
  · apply Registry.isKeyed_modify hkeyed
    intro other _ hother
    exact hother.symm
  · have hqueued := Registry.queued_modify_subperm hkeyed hget (fun _ => changed)
      hqueue.players_subperm
    have hmoved := List.perm_append_comm_assoc (matchmaker.pool.map (·.id)) joined
      matchmaker.registry.queued
    exact ((List.Subperm.refl _).append hqueued).trans hmoved.subperm

theorem startProcessor_eq (matchmaker : Matchmaker) (server : GameServer) (now : Nat) :
    matchmaker.startProcessor server now =
      { matchmaker with processors := (matchmaker.startProcessor server now).processors } := by
  rw [startProcessor]
  split_ifs <;> rfl

theorem enqueue_eq_ok {address : Endpoint} {effects : List Effect}
    (henqueue : matchmaker.enqueue address player now = .ok (next, effects)) :
    ∃ server changed events, matchmaker.registry.get? address = some server ∧
      server.enqueue player now = .ok (changed, events) ∧
      next = { (matchmaker.replaceServer changed events).1 with
        processors := (matchmaker.startProcessor server now).processors } ∧
      effects = (matchmaker.replaceServer changed events).2 := by
  simp only [enqueue] at henqueue
  cases hget : matchmaker.registry.get? address with
  | none => simp [hget] at henqueue
  | some server =>
      cases hserver : server.enqueue player now with
      | error error => simp [hget, hserver] at henqueue
      | ok outcome =>
          obtain ⟨changed, events⟩ := outcome
          simp only [hget, hserver, Except.ok.injEq] at henqueue
          refine ⟨server, changed, events, rfl, hserver, ?_⟩
          -- A processor that is started changes neither the pool nor the registry.
          rw [startProcessor_eq] at henqueue
          obtain ⟨rfl, rfl⟩ := Prod.mk.inj henqueue
          exact ⟨rfl, rfl⟩

theorem acknowledge_eq_ok {address : Endpoint} {result : JoinResult} {effects : List Effect}
    (hacknowledge : matchmaker.acknowledge address player result now = .ok (next, effects)) :
    ∃ server changed events, matchmaker.registry.get? address = some server ∧
      server.acknowledge player result now = .ok (changed, events) ∧
      (next, effects) = matchmaker.replaceServer changed events := by
  simp only [acknowledge] at hacknowledge
  cases hget : matchmaker.registry.get? address with
  | none => simp [hget] at hacknowledge
  | some server =>
      cases hserver : server.acknowledge player result now with
      | error error => simp [hget, hserver] at hacknowledge
      | ok outcome =>
          obtain ⟨changed, events⟩ := outcome
          simp only [hget, hserver, Except.ok.injEq] at hacknowledge
          exact ⟨server, changed, events, rfl, hserver, hacknowledge.symm⟩

theorem dequeue?_eq_some {address : Endpoint} {reason : DequeueReason} {effects : List Effect}
    (hdequeue : matchmaker.dequeue? address player reason now = some (next, effects)) :
    ∃ server changed events, matchmaker.registry.get? address = some server ∧
      server.dequeue? player reason now = some (changed, events) ∧
      matchmaker.replaceServer changed events = (next, effects) := by
  obtain ⟨server, hget, hserver⟩ := Option.bind_eq_some_iff.mp hdequeue
  obtain ⟨⟨changed, events⟩, hchanged, hnext⟩ := Option.map_eq_some_iff.mp hserver
  exact ⟨server, changed, events, hget, hchanged, hnext⟩

theorem moves_enqueue (hkeyed : matchmaker.registry.IsKeyed) {address : Endpoint}
    {effects : List Effect}
    (henqueue : matchmaker.enqueue address player now = .ok (next, effects)) :
    Moves [player] matchmaker next := by
  obtain ⟨server, changed, events, hget, hserver, rfl, -⟩ := enqueue_eq_ok henqueue
  have hmoves := moves_replaceServer hkeyed (Registry.mem_of_get? hget).1
    (GameServer.requeued_enqueue hserver) events
  exact ⟨hmoves.isKeyed, hmoves.roll_subperm⟩

theorem moves_acknowledge (hkeyed : matchmaker.registry.IsKeyed) {address : Endpoint}
    {result : JoinResult} {effects : List Effect}
    (hacknowledge : matchmaker.acknowledge address player result now = .ok (next, effects)) :
    Moves [] matchmaker next := by
  obtain ⟨server, changed, events, hget, hserver, hnext⟩ := acknowledge_eq_ok hacknowledge
  obtain ⟨rfl, -⟩ := Prod.mk.inj hnext
  exact moves_replaceServer hkeyed (Registry.mem_of_get? hget).1
    (GameServer.requeued_acknowledge hserver) events

theorem moves_dequeue? (hkeyed : matchmaker.registry.IsKeyed) {address : Endpoint}
    {reason : DequeueReason} {effects : List Effect}
    (hdequeue : matchmaker.dequeue? address player reason now = some (next, effects)) :
    Moves [] matchmaker next := by
  obtain ⟨server, changed, events, hget, hserver, hnext⟩ := dequeue?_eq_some hdequeue
  obtain ⟨rfl, -⟩ := Prod.mk.inj hnext
  exact moves_replaceServer hkeyed (Registry.mem_of_get? hget).1
    (GameServer.requeued_dequeue? hserver) events

theorem moves_runProcessor (hkeyed : matchmaker.registry.IsKeyed) (processor : Processor)
    (now : Nat) : Moves [] matchmaker (matchmaker.runProcessor processor now).1 := by
  rw [runProcessor]
  cases hserver : matchmaker.serverOf? processor with
  | none => exact moves_of_eq hkeyed rfl rfl
  | some server =>
      have hmoves := moves_replaceServer hkeyed (List.mem_of_find?_eq_some hserver)
        (GameServer.requeued_processInBackground server now)
        (server.processInBackground now).2.1
      exact ⟨hmoves.isKeyed, hmoves.roll_subperm⟩

/-! ## Searches -/

/-- Only who has no place may start a search. -/
theorem moves_enter (hkeyed : matchmaker.registry.IsKeyed) (player : PlayerId)
    (criteria : Criteria) (servers : List PreferredServer) (now : Nat) :
    Moves [] matchmaker (matchmaker.enter player criteria servers now).1 ∨
      player ∉ matchmaker.roll ∧
        Moves [player] matchmaker (matchmaker.enter player criteria servers now).1 := by
  rw [enter]
  split_ifs with hqueued hsearching
  · exact Or.inl (Moves.refl hkeyed)
  · exact Or.inl (Moves.refl hkeyed)
  · right
    constructor
    · rw [roll, List.mem_append, not_or]
      exact ⟨mt isSearching_iff.mpr hsearching, mt Registry.isQueued_iff.mpr hqueued⟩
    · have hadded := moves_addSearcher hkeyed (.enter player criteria servers now)
      exact hadded.trans (moves_registerAll hadded.isKeyed servers now)

theorem moves_updatePreferences (hkeyed : matchmaker.registry.IsKeyed) (player : PlayerId)
    (criteria : Criteria) (servers : List PreferredServer) (now : Nat) :
    Moves [] matchmaker (matchmaker.updatePreferences player criteria servers now).1 := by
  rw [updatePreferences]
  split_ifs
  · have hchanged := moves_modifySearcher hkeyed player
      (fun searcher => searcher.update criteria servers) fun _ => rfl
    exact hchanged.trans (moves_registerAll hchanged.isKeyed servers now)
  · exact Moves.refl hkeyed

/-- Withdrawing takes a player off the roll, and puts nobody on it. -/
theorem moves_withdraw (hkeyed : matchmaker.registry.IsKeyed) (player : PlayerId)
    (thoughtAt : Option Endpoint) (reason : DequeueReason) (now : Nat) :
    Moves [] matchmaker (matchmaker.withdraw player thoughtAt reason now).1 := by
  rw [withdraw]
  split_ifs
  · exact moves_removeSearcher hkeyed player
  · cases matchmaker.queueToLeave? player thoughtAt with
    | none => exact Moves.refl hkeyed
    | some server =>
        cases hdequeue : matchmaker.dequeue? server.address player reason now with
        | none => simpa only [hdequeue] using Moves.refl hkeyed
        | some outcome =>
            obtain ⟨next, effects⟩ := outcome
            simpa only [hdequeue] using moves_dequeue? hkeyed hdequeue

end Muster.Matchmaker
