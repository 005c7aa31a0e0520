import Muster.Proofs.Matchmaker.Conveyance
import Muster.Proofs.Matchmaker.Departure
import Muster.Proofs.Matchmaker.Lines

/-!
# Conduct of the matchmaker

Every operation of the matchmaker makes known what it does to the lines.  Who is in the pool after
an operation was there before, or joined, and was told of no change.  This goes for operations on
one queue, for those that leave the lines alone, and so for whole ticks, which hand players over one
after the other.
-/

namespace Muster

variable {player : PlayerId} {now : Nat}

namespace Registry

variable {before next after registry : Registry}

/-- Queues come and go as long as nobody is in them, and new ones are orderly. -/
structure SameLines (before after : Registry) : Prop where
  mem_iff : ∀ line : Endpoint × Queue, line.2.players ≠ [] →
    (line ∈ after.queues ↔ line ∈ before.queues)
  isOrderly : ∀ line ∈ after.queues, line ∈ before.queues ∨ line.2.IsOrderly

theorem sameLines_of_queues_eq (hqueues : after.queues = before.queues) :
    before.SameLines after := by
  constructor
  · intro line _
    rw [hqueues]
  · intro line hline
    exact Or.inl (hqueues ▸ hline)

theorem SameLines.trans (hfirst : before.SameLines next) (hsecond : next.SameLines after) :
    before.SameLines after := by
  constructor
  · intro line hplayers
    exact (hsecond.mem_iff line hplayers).trans (hfirst.mem_iff line hplayers)
  · intro line hline
    rcases hsecond.isOrderly line hline with hnext | horderly
    · exact hfirst.isOrderly line hnext
    · exact Or.inr horderly

theorem sameLines_getOrCreate (registry : Registry) (mention : Endpoint) (nameHint : String)
    (now : Nat) : registry.SameLines (registry.getOrCreate mention nameHint now) := by
  rcases getOrCreate_cases registry mention nameHint now with hsame | ⟨-, hcreated⟩
  · rw [hsame]
    exact sameLines_of_queues_eq rfl
  · have hqueues : (registry.getOrCreate mention nameHint now).queues =
        registry.queues ++ [(mention.withoutZone, .empty registry.queueConfig now)] := by
      rw [hcreated, queues, List.map_append]
      rfl
    constructor
    · intro line hplayers
      have hnew : line ≠ (mention.withoutZone, .empty registry.queueConfig now) := by
        rintro rfl
        exact hplayers rfl
      rw [hqueues, List.mem_append, List.mem_singleton, or_iff_left hnew]
    · intro line hline
      rw [hqueues, List.mem_append, List.mem_singleton] at hline
      apply hline.imp_right
      rintro rfl
      exact Queue.isOrderly_empty registry.queueConfig now

theorem sameLines_getOrCreateAll (registry : Registry) (mentions : List Endpoint) (now : Nat) :
    registry.SameLines (registry.getOrCreateAll mentions now) := by
  induction mentions generalizing registry with
  | nil => exact sameLines_of_queues_eq rfl
  | cons mention rest ih => exact (sameLines_getOrCreate registry mention "" now).trans (ih _)

theorem sameLines_pruneIdle (registry : Registry) (now : Nat) :
    registry.SameLines (registry.pruneIdle now) := by
  have hsublist := (servers_pruneIdle_sublist registry now).map
    fun server => (server.address, server.queue)
  constructor
  · intro line hplayers
    constructor
    · exact fun hline => hsublist.mem hline
    · intro hline
      obtain ⟨server, hserver, rfl⟩ := List.mem_map.mp hline
      by_contra hgone
      apply hplayers
      apply players_of_forgotten hserver
      intro hkept
      exact hgone (List.mem_map_of_mem hkept)
  · intro line hline
    exact Or.inl (hsublist.mem hline)

end Registry

namespace Matchmaker

open AdmissionEvent (about)

variable {matchmaker before next after : Matchmaker} {joined others : List PlayerId}
  {changes later : List AdmissionEvent} {searcher : Searcher}

/-- An operation that lets those in who joined, and takes nobody out of the pool without a word. -/
structure Conducts (joined : List PlayerId) (before after : Matchmaker)
    (changes : List AdmissionEvent) : Prop where
  moves : Moves joined before after
  discloses : Discloses before after changes
  isSearching_iff : ∀ player, after.isSearching player ↔
    (before.isSearching player ∨ player ∈ joined) ∧ about player changes = []
  concerned : ∀ player, about player changes ≠ [] → player ∈ joined ∨ player ∈ before.roll

/-- An operation that makes nothing known, and after which those are in the pool who were there or
joined. -/
theorem conducts_nil (hmoves : Moves joined before after) (hdiscloses : Discloses before after [])
    (hsearching : ∀ player, after.isSearching player ↔
      before.isSearching player ∨ player ∈ joined) : Conducts joined before after [] := by
  refine ⟨hmoves, hdiscloses, ?_, ?_⟩
  · intro player
    rw [hsearching, AdmissionEvent.about_nil, eq_self, and_true]
  · intro player htold
    exact absurd rfl htold

theorem Conducts.refl (horderly : matchmaker.IsOrderly) : Conducts [] matchmaker matchmaker [] := by
  apply conducts_nil (Moves.refl horderly.isConsistent.isKeyed)
  · exact discloses_nil horderly fun _ => rfl
  · simp

/-- When nobody joins, those go on searching of whom no change of a queue tells. -/
theorem Conducts.isSearching_iff_of_nil (hconducts : Conducts [] before after changes)
    (player : PlayerId) :
    after.isSearching player ↔ before.isSearching player ∧ about player changes = [] := by
  rw [hconducts.isSearching_iff, or_iff_left List.not_mem_nil]

/-- Processors are of no account. -/
theorem Conducts.congr {other : Matchmaker} (hconducts : Conducts joined before after changes)
    (hpool : other.pool = after.pool) (hregistry : other.registry = after.registry) :
    Conducts joined before other changes := by
  obtain ⟨pool, registry, processors, isShutdown⟩ := other
  obtain ⟨rfl, rfl⟩ : pool = after.pool ∧ registry = after.registry := ⟨hpool, hregistry⟩
  obtain ⟨hmoves, ⟨horderly, hsilent, hlatest⟩, hsearching, hconcerned⟩ := hconducts
  have hconsistent := horderly.isConsistent
  exact ⟨⟨hmoves.isKeyed, hmoves.roll_subperm⟩,
    ⟨⟨⟨hconsistent.isKeyed, hconsistent.nodup_roll⟩, horderly.queues⟩, hsilent, hlatest⟩,
    hsearching, hconcerned⟩

/-- Those who join later are nowhere in the meantime. -/
theorem Conducts.trans (hfirst : Conducts joined before next changes)
    (hsecond : Conducts others next after later)
    (hout : ∀ player ∈ others, player ∉ joined ∧ player ∉ before.roll) :
    Conducts (joined ++ others) before after (changes ++ later) := by
  refine ⟨hfirst.moves.trans hsecond.moves, hfirst.discloses.trans hsecond.discloses, ?_, ?_⟩
  · intro player
    have hnews : player ∈ others → about player changes = [] := by
      intro hother
      by_contra htold
      obtain ⟨hnew, hbefore⟩ := hout player hother
      exact (hfirst.concerned player htold).elim hnew hbefore
    rw [hsecond.isSearching_iff, hfirst.isSearching_iff, AdmissionEvent.about_append,
      List.append_eq_nil_iff, List.mem_append]
    constructor
    · rintro ⟨⟨hplayer, hsilent⟩ | hother, hlater⟩
      · exact ⟨hplayer.imp_right Or.inl, hsilent, hlater⟩
      · exact ⟨Or.inr (Or.inr hother), hnews hother, hlater⟩
    · rintro ⟨hsearching | hjoined | hother, hsilent, hlater⟩
      · exact ⟨Or.inl ⟨Or.inl hsearching, hsilent⟩, hlater⟩
      · exact ⟨Or.inl ⟨Or.inr hjoined, hsilent⟩, hlater⟩
      · exact ⟨Or.inr hother, hlater⟩
  · intro player htold
    rw [AdmissionEvent.about_append, Ne, List.append_eq_nil_iff, not_and_or] at htold
    rw [List.mem_append]
    rcases htold with hchanges | hlater
    · exact (hfirst.concerned player hchanges).imp_left Or.inl
    · rcases hsecond.concerned player hlater with hother | hnext
      · exact Or.inl (Or.inr hother)
      · have hplayer := List.mem_append.mp (hfirst.moves.roll_subperm.subset hnext)
        exact hplayer.imp_left Or.inl

/-! ## Operations on one queue -/

theorem queue_isOrderly (horderly : matchmaker.IsOrderly) {server : GameServer}
    (hserver : server ∈ matchmaker.registry.servers) : server.queue.IsOrderly :=
  horderly.queues _ (List.mem_map_of_mem hserver)

theorem mem_roll_of_queue {server : GameServer} (hserver : server ∈ matchmaker.registry.servers)
    (hplayer : player ∈ server.queue.players) : player ∈ matchmaker.roll :=
  List.mem_append_right _ (Registry.mem_queued.mpr ⟨server, hserver, hplayer⟩)

/-- Whoever is in the queue of the changed server is in a queue afterwards. -/
theorem mem_queued_replaceServer {server changed : GameServer} {events : List QueueEvent}
    (hserver : server ∈ matchmaker.registry.servers) (haddress : changed.address = server.address)
    (hplayer : player ∈ changed.queue.players) :
    player ∈ (matchmaker.replaceServer changed events).1.registry.queued := by
  rw [Registry.mem_queued]
  refine ⟨changed, ?_, hplayer⟩
  rw [replaceServer, Registry.modify, List.mem_map]
  exact ⟨server, hserver, if_pos haddress.symm⟩

/-- An operation on the queue of one server.  Who joins had no place. -/
theorem conducts_replaceServer (horderly : matchmaker.IsOrderly) {server changed : GameServer}
    {events : List QueueEvent} (hserver : server ∈ matchmaker.registry.servers)
    (hqueue : server.Requeued joined changed) (htells : server.queue.Tells changed.queue events)
    (hjoined : (joined ++ matchmaker.roll).Nodup)
    (hseated : ∀ player ∈ joined, player ∈ changed.queue.players) :
    Conducts joined matchmaker (matchmaker.replaceServer changed events).1
      ((matchmaker.replaceServer changed events).2.filterMap Effect.admission?) := by
  have hchanges : (matchmaker.replaceServer changed events).2.filterMap Effect.admission? =
      events.map fun event => ⟨server.address, event⟩ := by
    rw [replaceServer, Effect.admissions_publish, hqueue.address_eq]
  have hmoves := moves_replaceServer horderly.isConsistent.isKeyed hserver hqueue events
  have hconsistent := hmoves.isConsistent hjoined
  rw [hchanges]
  refine ⟨hmoves,
    discloses_replaceServer horderly hserver hqueue.address_eq htells hconsistent, ?_, ?_⟩
  · intro player
    rw [AdmissionEvent.about_map, List.map_eq_nil_iff]
    change matchmaker.isSearching player ↔ _
    constructor
    · -- Who is told of a change is in the queue or was there, and so does not search.
      intro hsearching
      refine ⟨Or.inl hsearching, ?_⟩
      by_contra htold
      rcases htells.concerned player htold with hplayer | hplayer
      · exact horderly.isConsistent.not_mem_queued hsearching
          (Registry.mem_queued.mpr ⟨server, hserver, hplayer⟩)
      · exact hconsistent.not_mem_queued hsearching
          (mem_queued_replaceServer hserver hqueue.address_eq hplayer)
    · rintro ⟨hsearching | hnew, hsilent⟩
      · exact hsearching
      · -- Who joins is told so.
        have hdoing := htells.silent player hsilent
        have hout : player ∉ server.queue.players := fun hplayer =>
          (List.nodup_append.mp hjoined).2.2 player hnew player
            (mem_roll_of_queue hserver hplayer) rfl
        rw [Queue.doing?_eq_none_iff.mpr hout, Queue.doing?_eq_none_iff] at hdoing
        exact absurd (hseated player hnew) hdoing
  · intro player htold
    rw [AdmissionEvent.about_map, Ne, List.map_eq_nil_iff] at htold
    rcases htells.concerned player htold with hplayer | hplayer
    · exact Or.inr (mem_roll_of_queue hserver hplayer)
    · apply List.mem_append.mp
      apply hmoves.roll_subperm.subset
      exact List.mem_append_right _ (mem_queued_replaceServer hserver hqueue.address_eq hplayer)

/-- Whoever joins the queue of a server was in no place before. -/
theorem conducts_enqueue (horderly : matchmaker.IsOrderly) (hout : player ∉ matchmaker.roll)
    {address : Endpoint} {effects : List Effect}
    (henqueue : matchmaker.enqueue address player now = .ok (next, effects)) :
    Conducts [player] matchmaker next (effects.filterMap Effect.admission?) := by
  obtain ⟨server, changed, events, hget, hserver, rfl, rfl⟩ := enqueue_eq_ok henqueue
  have hknown := (Registry.mem_of_get? hget).1
  obtain ⟨htells, hplayer⟩ := GameServer.tells_enqueue (queue_isOrderly horderly hknown) hserver
  have hqueue := GameServer.requeued_enqueue hserver
  have hconducts := conducts_replaceServer horderly hknown hqueue htells
    (List.nodup_cons.mpr ⟨hout, horderly.isConsistent.nodup_roll⟩)
    (List.forall_mem_singleton.mpr hplayer)
  exact hconducts.congr rfl rfl

theorem conducts_acknowledge (horderly : matchmaker.IsOrderly) {address : Endpoint}
    {result : JoinResult} {effects : List Effect}
    (hacknowledge : matchmaker.acknowledge address player result now = .ok (next, effects)) :
    Conducts [] matchmaker next (effects.filterMap Effect.admission?) := by
  obtain ⟨server, changed, events, hget, hserver, hnext⟩ := acknowledge_eq_ok hacknowledge
  have hknown := (Registry.mem_of_get? hget).1
  have hconducts := conducts_replaceServer horderly hknown (GameServer.requeued_acknowledge hserver)
    ((GameServer.serves_acknowledge hserver).tells_self (queue_isOrderly horderly hknown))
    horderly.isConsistent.nodup_roll (List.forall_mem_nil _)
  rwa [← hnext] at hconducts

theorem conducts_dequeue? (horderly : matchmaker.IsOrderly) {address : Endpoint}
    {reason : DequeueReason} {effects : List Effect}
    (hdequeue : matchmaker.dequeue? address player reason now = some (next, effects)) :
    Conducts [] matchmaker next (effects.filterMap Effect.admission?) := by
  obtain ⟨server, changed, events, hget, hserver, hnext⟩ := dequeue?_eq_some hdequeue
  have hknown := (Registry.mem_of_get? hget).1
  have hconducts := conducts_replaceServer horderly hknown (GameServer.requeued_dequeue? hserver)
    ((GameServer.serves_dequeue? hserver).tells_self (queue_isOrderly horderly hknown))
    horderly.isConsistent.nodup_roll (List.forall_mem_nil _)
  rwa [hnext] at hconducts

/-- A pass of a processor changes one queue and discloses what it makes of it. -/
theorem conducts_runProcessor (horderly : matchmaker.IsOrderly) (processor : Processor)
    (now : Nat) :
    Conducts [] matchmaker (matchmaker.runProcessor processor now).1
      ((matchmaker.runProcessor processor now).2.filterMap Effect.admission?) := by
  rw [runProcessor]
  cases hserver : matchmaker.serverOf? processor with
  | none => exact (Conducts.refl horderly).congr rfl rfl
  | some server =>
      have hknown := List.mem_of_find?_eq_some hserver
      have hconducts := conducts_replaceServer horderly hknown
        (GameServer.requeued_processInBackground server now)
        ((server.serves_processInBackground now).tells_self (queue_isOrderly horderly hknown))
        horderly.isConsistent.nodup_roll (List.forall_mem_nil _)
      exact hconducts.congr rfl rfl

/-! ## Operations that leave the lines alone -/

/-- The pool holds the same players as before, and queues came and went with nobody in them. -/
theorem conducts_of_sameLines (horderly : matchmaker.IsOrderly)
    (hmoves : Moves [] matchmaker next)
    (hpool : next.pool.map (·.id) = matchmaker.pool.map (·.id))
    (hlines : matchmaker.registry.SameLines next.registry) : Conducts [] matchmaker next [] := by
  have hconsistent := hmoves.isConsistent horderly.isConsistent.nodup_roll
  apply conducts_nil hmoves
  · apply discloses_nil
    · refine ⟨hconsistent, ?_⟩
      intro line hline
      exact (hlines.isOrderly line hline).elim (horderly.queues line) id
    · intro player
      apply Registry.inLine?_congr horderly.isConsistent.nodup_queued hconsistent.nodup_queued
      intro address queue hplayer
      exact hlines.mem_iff (address, queue) (List.ne_nil_of_mem hplayer)
  · intro player
    rw [isSearching_iff, isSearching_iff, hpool, or_iff_left List.not_mem_nil]

/-- A server that becomes known has an empty queue. -/
theorem conducts_register (horderly : matchmaker.IsOrderly) (mention : Endpoint)
    (nameHint : String) (now : Nat) :
    Conducts [] matchmaker (matchmaker.register mention nameHint now) [] := by
  apply conducts_of_sameLines horderly
  · exact moves_of_eq (Registry.isKeyed_getOrCreate horderly.isConsistent.isKeyed mention nameHint
      now) rfl (Registry.queued_getOrCreate _ mention nameHint now)
  · rfl
  · exact Registry.sameLines_getOrCreate _ mention nameHint now

theorem conducts_getOrCreateAll (horderly : matchmaker.IsOrderly) (mentions : List Endpoint)
    (now : Nat) :
    Conducts [] matchmaker
      { matchmaker with registry := matchmaker.registry.getOrCreateAll mentions now } [] := by
  apply conducts_of_sameLines horderly
  · exact moves_of_eq (Registry.isKeyed_getOrCreateAll horderly.isConsistent.isKeyed mentions now)
      rfl (Registry.queued_getOrCreateAll _ mentions now)
  · rfl
  · exact Registry.sameLines_getOrCreateAll _ mentions now

/-- A change of what is known of servers that leaves their queues alone. -/
theorem conducts_of_queues_eq (horderly : matchmaker.IsOrderly) {registry : Registry}
    (hqueues : registry.queues = matchmaker.registry.queues) :
    Conducts [] matchmaker { matchmaker with registry } [] := by
  apply conducts_of_sameLines horderly
  · exact moves_of_eq (Registry.isKeyed_of_queues_eq hqueues horderly.isConsistent.isKeyed) rfl
      (Registry.queued_of_queues_eq hqueues)
  · rfl
  · exact Registry.sameLines_of_queues_eq hqueues

/-- Changing the entry of a player who searches takes nobody out of the pool. -/
theorem conducts_modifySearcher (horderly : matchmaker.IsOrderly) (player : PlayerId)
    (change : Searcher → Searcher) (hchange : ∀ searcher, (change searcher).id = searcher.id) :
    Conducts [] matchmaker (matchmaker.modifySearcher player change) [] := by
  apply conducts_of_sameLines horderly
  · exact moves_modifySearcher horderly.isConsistent.isKeyed player change hchange
  · rw [modifySearcher, List.map_map]
    apply List.map_congr_left
    intro searcher _
    rw [Function.comp_apply]
    split_ifs
    · exact hchange searcher
    · rfl
  · exact Registry.sameLines_of_queues_eq rfl

theorem conducts_updatePreferences (horderly : matchmaker.IsOrderly) (player : PlayerId)
    (criteria : Criteria) (servers : List PreferredServer) (now : Nat) :
    Conducts [] matchmaker (matchmaker.updatePreferences player criteria servers now).1 [] := by
  rw [updatePreferences]
  split_ifs
  · have hchanged := conducts_modifySearcher horderly player
      (fun searcher => searcher.update criteria servers) fun _ => rfl
    exact hchanged.trans (conducts_getOrCreateAll hchanged.discloses.isOrderly _ now)
      (List.forall_mem_nil _)
  · exact Conducts.refl horderly

theorem conducts_pruneIdle (horderly : matchmaker.IsOrderly) (now : Nat) :
    Conducts [] matchmaker (matchmaker.pruneIdle now) [] := by
  apply conducts_of_sameLines horderly
  · exact moves_pruneIdle horderly.isConsistent.isKeyed now
  · rfl
  · exact Registry.sameLines_pruneIdle _ now

/-- A search starts. -/
theorem conducts_addSearcher (horderly : matchmaker.IsOrderly) (searcher : Searcher)
    (hout : searcher.id ∉ matchmaker.roll) :
    Conducts [searcher.id] matchmaker (matchmaker.addSearcher searcher) [] := by
  have hmoves := moves_addSearcher horderly.isConsistent.isKeyed searcher
  apply conducts_nil hmoves
  · apply discloses_nil
    · exact ⟨hmoves.isConsistent (List.nodup_cons.mpr ⟨hout, horderly.isConsistent.nodup_roll⟩),
        horderly.queues⟩
    · intro player
      rfl
  · intro player
    rw [List.mem_singleton, isSearching, isSearching]
    by_cases hplayer : player = searcher.id
    · rw [hplayer, searcher?_addSearcher_self]
      simp
    · rw [searcher?_addSearcher_other matchmaker hplayer, or_iff_left hplayer]

/-! ## Ticks -/

/-- Handing a player over is joining a queue. -/
theorem conducts_handOver (horderly : matchmaker.IsOrderly)
    (hout : searcher.id ∉ matchmaker.roll) (server : Endpoint) (group : List PlayerId)
    (now : Nat) :
    Conducts [searcher.id] matchmaker (matchmaker.handOver server group searcher now).1
      ((matchmaker.handOver server group searcher now).2.filterMap Effect.admission?) := by
  rw [handOver]
  cases henqueue : matchmaker.enqueue server searcher.id now with
  | ok outcome =>
      obtain ⟨next, effects⟩ := outcome
      have hconducts := conducts_enqueue horderly hout henqueue
      exact hconducts
  | error error => exact conducts_addSearcher horderly searcher hout

theorem conducts_handOverAll (horderly : matchmaker.IsOrderly) {searchers : List Searcher}
    (hout : (searchers.map (·.id) ++ matchmaker.roll).Nodup) (server : Endpoint)
    (group : List PlayerId) (now : Nat) :
    Conducts (searchers.map (·.id)) matchmaker
      (handOverAll server group now searchers matchmaker).1
      ((handOverAll server group now searchers matchmaker).2.filterMap Effect.admission?) := by
  induction searchers generalizing matchmaker with
  | nil => exact Conducts.refl horderly
  | cons searcher rest ih =>
      rw [List.map_cons, List.cons_append, List.nodup_cons, List.mem_append, not_or] at hout
      obtain ⟨⟨hrest, hsearcher⟩, hnodup⟩ := hout
      have hfirst := conducts_handOver horderly hsearcher server group now
      have hnext : (rest.map (·.id) ++
          (matchmaker.handOver server group searcher now).1.roll).Nodup := by
        apply Parts.nodup ((List.Subperm.refl _).append hfirst.moves.roll_subperm)
        rw [List.singleton_append, List.perm_middle.nodup_iff, List.nodup_cons, List.mem_append,
          not_or]
        exact ⟨⟨hrest, hsearcher⟩, hnodup⟩
      have hothers := ih hfirst.discloses.isOrderly hnext
      simp only [handOverAll, List.filterMap_append]
      apply hfirst.trans hothers
      intro player hplayer
      constructor
      · rw [List.mem_singleton]
        rintro rfl
        exact hrest hplayer
      · intro hroll
        exact (List.nodup_append.mp hnodup).2.2 player hplayer player hroll rfl

/-- Those of a group who still search are taken out of the pool and handed over. -/
theorem conducts_commitGroup (horderly : matchmaker.IsOrderly) {candidate : Candidate}
    (hplayers : candidate.players.Nodup) (now : Nat) :
    Conducts [] matchmaker (matchmaker.commitGroup candidate now).1
      ((matchmaker.commitGroup candidate now).2.2.filterMap Effect.admission?) := by
  have hmoves := moves_commitGroup horderly.isConsistent.isKeyed hplayers now
  simp only [commitGroup] at hmoves ⊢
  split_ifs at hmoves ⊢
  · exact Conducts.refl horderly
  · let group := candidate.players.filter matchmaker.isSearching
    let without := group.foldl removeSearcher matchmaker
    have hids : (candidate.players.filterMap matchmaker.searcher?).map (·.id) = group :=
      ids_present matchmaker candidate.players
    rw [hids] at hmoves ⊢
    have hgroup : ∀ player ∈ group, matchmaker.isSearching player := by
      intro player hplayer
      exact List.of_mem_filter hplayer
    have hroll : (group ++ without.roll).Subperm matchmaker.roll :=
      roll_foldl_removeSearcher (hplayers.filter matchmaker.isSearching) hgroup
    have hnodup := Parts.nodup hroll horderly.isConsistent.nodup_roll
    have hregistry : without.registry = matchmaker.registry :=
      registry_foldl_removeSearcher matchmaker group
    have horderly' : without.IsOrderly := by
      refine ⟨⟨?_, (List.nodup_append.mp hnodup).2.1⟩, ?_⟩
      · rw [hregistry]
        exact horderly.isConsistent.isKeyed
      · rw [hregistry]
        exact horderly.queues
    have hhanded := conducts_handOverAll horderly' (hids ▸ hnodup) candidate.server group now
    rw [hids] at hhanded
    refine ⟨hmoves, ?_, ?_, ?_⟩
    · have hwithout : Discloses matchmaker without [] := by
        apply discloses_nil horderly'
        intro player
        rw [inLine?, hregistry]
        rfl
      exact hwithout.trans hhanded.discloses
    · intro player
      have hsearching : without.isSearching player ∨ player ∈ group ↔
          matchmaker.isSearching player := by
        by_cases hplayer : player ∈ group
        · exact iff_of_true (Or.inr hplayer) (hgroup player hplayer)
        · rw [or_iff_left hplayer, isSearching, searcher?_foldl_removeSearcher matchmaker hplayer]
          rfl
      rw [hhanded.isSearching_iff, hsearching, or_iff_left List.not_mem_nil]
    · intro player htold
      exact Or.inr (hroll.subset (List.mem_append.mpr (hhanded.concerned player htold)))

/-- A commitment takes out of the pool just those whom it hands over. -/
theorem conducts_commit (horderly : matchmaker.IsOrderly) {candidates : List Candidate}
    (hplayers : ∀ candidate ∈ candidates, candidate.players.Nodup) (now : Nat) :
    Conducts [] matchmaker (commit now candidates matchmaker).1
      ((commit now candidates matchmaker).2.2.filterMap Effect.admission?) := by
  induction candidates generalizing matchmaker with
  | nil => exact Conducts.refl horderly
  | cons candidate rest ih =>
      rw [List.forall_mem_cons] at hplayers
      have hfirst := conducts_commitGroup horderly hplayers.1 now
      simp only [commit, List.filterMap_append]
      exact hfirst.trans (ih hfirst.discloses.isOrderly hplayers.2) (List.forall_mem_nil _)

theorem conducts_reportTo (horderly : matchmaker.IsOrderly) (evaluation : Evaluation)
    (player : PlayerId) :
    Conducts [] matchmaker (matchmaker.reportTo evaluation player).1
      ((matchmaker.reportTo evaluation player).2.filterMap Effect.admission?) := by
  rw [reportTo]
  cases matchmaker.searcher? player with
  | none => exact Conducts.refl horderly
  | some searcher => exact conducts_modifySearcher horderly player _ fun _ => rfl

theorem conducts_report (horderly : matchmaker.IsOrderly) (evaluation : Evaluation)
    (players : List PlayerId) :
    Conducts [] matchmaker (report evaluation players matchmaker).1
      ((report evaluation players matchmaker).2.filterMap Effect.admission?) := by
  induction players generalizing matchmaker with
  | nil => exact Conducts.refl horderly
  | cons player rest ih =>
      have hfirst := conducts_reportTo horderly evaluation player
      simp only [report, List.filterMap_append]
      exact hfirst.trans (ih hfirst.discloses.isOrderly) (List.forall_mem_nil _)

/-- The second half of a tick, whatever has become of the players of the snapshot. -/
theorem conducts_finishTick (horderly : matchmaker.IsOrderly) {snapshot : List Searcher}
    (hsnapshot : (snapshot.map (·.id)).Nodup) (views : List ServerView) (now : Nat) :
    Conducts [] matchmaker (matchmaker.finishTick snapshot views now).1
      ((matchmaker.finishTick snapshot views now).2.2.filterMap Effect.admission?) := by
  have hplayers := Evaluation.nodup_players_matched hsnapshot views now
  have hcommit := conducts_commit horderly hplayers now
  simp only [finishTick, List.filterMap_append]
  exact hcommit.trans (conducts_report hcommit.discloses.isOrderly _ _) (List.forall_mem_nil _)

/-! ## Withdrawals -/

/-- A player who is taken out of the search is told of nothing, and nobody else is concerned. -/
theorem discloses_removeSearcher (horderly : matchmaker.IsOrderly) (player : PlayerId) :
    Discloses matchmaker (matchmaker.removeSearcher player) [] := by
  have hmoves := moves_removeSearcher horderly.isConsistent.isKeyed player
  apply discloses_nil
  · exact ⟨hmoves.isConsistent horderly.isConsistent.nodup_roll, horderly.queues⟩
  · intro other
    rfl

theorem isSearching_removeSearcher_other {other : PlayerId} (hother : player ≠ other) :
    (matchmaker.removeSearcher other).isSearching player = matchmaker.isSearching player := by
  rw [isSearching, searcher?_removeSearcher_other matchmaker hother, isSearching]

/-- Whoever withdraws leaves the one place there was, and nobody else is concerned. -/
theorem discloses_withdraw (horderly : matchmaker.IsOrderly) (player : PlayerId)
    (thoughtAt : Option Endpoint) (reason : DequeueReason) (now : Nat) :
    Discloses matchmaker (matchmaker.withdraw player thoughtAt reason now).1
        ((matchmaker.withdraw player thoughtAt reason now).2.2.filterMap Effect.admission?) ∧
      ∀ other ≠ player, (matchmaker.withdraw player thoughtAt reason now).1.isSearching other ↔
        matchmaker.isSearching other ∧ about other
          ((matchmaker.withdraw player thoughtAt reason now).2.2.filterMap
            Effect.admission?) = [] := by
  rcases matchmaker.withdraw_cases player thoughtAt reason now with
    ⟨-, hsearch⟩ | ⟨address, next, effects, hdequeue, hqueue⟩ | hnowhere
  · rw [hsearch]
    refine ⟨discloses_removeSearcher horderly player, ?_⟩
    intro other hother
    rw [isSearching_removeSearcher_other hother]
    exact (and_iff_left rfl).symm
  · rw [hqueue]
    have hconducts := conducts_dequeue? horderly hdequeue
    refine ⟨hconducts.discloses, ?_⟩
    intro other _
    exact hconducts.isSearching_iff_of_nil other
  · rw [hnowhere]
    refine ⟨discloses_nil horderly fun _ => rfl, ?_⟩
    intro other _
    exact (and_iff_left rfl).symm

end Matchmaker

end Muster
