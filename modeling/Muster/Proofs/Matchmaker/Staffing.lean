import Muster.Proofs.Matchmaker.Calls

/-!
# Processors of queues

A queue that is flagged as one that is looked after has one processor, and a queue that is not
flagged has none; a queue with a player in it is flagged.  The flag is set and a processor is
started when a player is let in, and both go in a pass that finds the queue idle.  Only where there
is no time between two passes are queues flagged and no processor runs.
-/

namespace Muster

namespace GameServer

variable {server changed : GameServer} {now : Nat}

/-- Whoever joins a queue finds it flagged. -/
theorem processing_enqueue {player : PlayerId} {events : List QueueEvent}
    (henqueue : server.enqueue player now = .ok (changed, events)) :
    changed.queue.processing = true := by
  obtain ⟨queue, -, rfl, -⟩ := enqueue_eq_ok henqueue
  rfl

theorem processing_acknowledge (server : GameServer) (now : Nat) (player : PlayerId)
    (result : JoinResult) :
    (server.operate now (.acknowledge player result)).1.queue.processing =
      server.queue.processing := by
  cases hacknowledge : server.acknowledge player result now with
  | error error => rw [operate, hacknowledge]
  | ok outcome =>
      obtain ⟨queue, told, hqueue, hchanged, -⟩ := acknowledge_eq_ok hacknowledge
      obtain ⟨-, -, rfl⟩ := Queue.acknowledge_eq_ok hqueue
      rw [operate, hacknowledge]
      exact congrArg (·.queue.processing) hchanged

theorem processing_remove (server : GameServer) (now : Nat) (player : PlayerId)
    (reason : DequeueReason) :
    (server.operate now (.remove player reason)).1.queue.processing =
      server.queue.processing := by
  simp only [operate, dequeue?]
  cases hqueue : server.queue.remove player reason now with
  | none => rfl
  | some outcome =>
      obtain ⟨-, -, hremoved⟩ := Queue.remove_eq_some hqueue
      have hkept : outcome.1.processing = server.queue.processing := by rw [hremoved]
      exact hkept

theorem processing_process (server : GameServer) (now : Nat) :
    (server.operate now .process).1.queue.processing =
      (server.queue.processing && !(server.operate now .process).1.queue.isIdle now) := rfl

/-- Nobody is in the queue afterwards if nobody was there and nobody came. -/
theorem players_operate_eq_nil {operation : Operation}
    (harriving : operation.arriving = []) (hempty : server.queue.players = []) :
    (server.operate now operation).1.queue.players = [] := by
  have hplayers := (server.requeued_operate now operation).players_subperm
  rw [harriving, hempty] at hplayers
  exact List.subperm_nil.mp hplayers

end GameServer

namespace Matchmaker

variable {matchmaker next : Matchmaker} {server changed : GameServer} {config : QueueConfig}
  {now : Nat}

/-! ## Processors and flags -/

/-- The queue is in order.  It has a processor where it is flagged and processors run at all, and it
is flagged where somebody is in it. -/
structure IsTended (server : GameServer) (config : QueueConfig) (staffed : List Nat) : Prop where
  isOrderly : server.queue.IsOrderly
  config_eq : server.queue.config = config
  mem_staffed_iff : server.serial ∈ staffed ↔
    server.queue.processing ∧ config.processInterval ≠ 0
  processing : server.queue.players ≠ [] → server.queue.processing

/-- Every known queue is tended, by one processor at most, and there are no other processors. -/
structure IsStaffed (matchmaker : Matchmaker) (config : QueueConfig) : Prop where
  isKeyed : matchmaker.registry.IsKeyed
  queueConfig_eq : matchmaker.registry.queueConfig = config
  isShutdown_eq : matchmaker.isShutdown = false
  nodup_serials : matchmaker.serials.Nodup
  serial_lt : ∀ serial ∈ matchmaker.serials, serial < matchmaker.registry.nextSerial
  nodup_staffed : matchmaker.staffed.Nodup
  mem_serials : ∀ serial ∈ matchmaker.staffed, serial ∈ matchmaker.serials
  isTended : ∀ server ∈ matchmaker.registry.servers, IsTended server config matchmaker.staffed

theorem isStaffed_empty (config : QueueConfig) : (empty config).IsStaffed config :=
  ⟨Registry.isKeyed_empty config, rfl, rfl, List.nodup_nil, by simp [serials, empty,
    Registry.empty], List.nodup_nil, by simp [staffed, empty], by simp [empty, Registry.empty]⟩

theorem IsStaffed.hasProcessors_eq (hstaffed : matchmaker.IsStaffed config) :
    matchmaker.hasProcessors = (config.processInterval != 0) := by
  rw [hasProcessors, hstaffed.isShutdown_eq, hstaffed.queueConfig_eq]
  rfl

theorem IsTended.congr {staffed others : List Nat} (htended : IsTended server config staffed)
    (hserial : changed.serial = server.serial) (hqueue : changed.queue = server.queue)
    (hothers : server.serial ∈ others ↔ server.serial ∈ staffed) :
    IsTended changed config others := by
  refine ⟨hqueue ▸ htended.isOrderly, hqueue ▸ htended.config_eq, ?_, hqueue ▸ htended.processing⟩
  rw [hserial, hqueue, hothers]
  exact htended.mem_staffed_iff

/-- In a keyed registry with distinct serials, one server is replaced among others that have other
serials. -/
theorem IsStaffed.exists_others (hstaffed : matchmaker.IsStaffed config)
    (hserver : server ∈ matchmaker.registry.servers) :
    ∃ before after, matchmaker.registry.servers = before ++ server :: after ∧
      (∀ other ∈ before ++ after, other.serial ≠ server.serial) ∧
      ∀ changed : GameServer,
        (matchmaker.registry.modify server.address fun _ => changed).servers =
          before ++ changed :: after := by
  have hget := (Registry.get?_eq_some_iff hstaffed.isKeyed).mpr ⟨hserver, rfl⟩
  obtain ⟨before, after, hservers, hmodify⟩ := Registry.exists_others hstaffed.isKeyed hget
  refine ⟨before, after, hservers, ?_, fun changed => hmodify fun _ => changed⟩
  have hserials := hstaffed.nodup_serials
  rw [serials, hservers, List.map_append, List.map_cons, List.nodup_middle, List.nodup_cons,
    ← List.map_append] at hserials
  intro other hother hsame
  exact hserials.1 (hsame ▸ List.mem_map_of_mem hother)

/-- One server is replaced together with its processor. -/
theorem IsStaffed.replace (hstaffed : matchmaker.IsStaffed config)
    (hserver : server ∈ matchmaker.registry.servers)
    (haddress : changed.address = server.address) (hserial : changed.serial = server.serial)
    {processors : List Processor} (hnodup : (processors.map (·.server)).Nodup)
    (hothers : ∀ serial, serial ≠ server.serial →
      (serial ∈ processors.map (·.server) ↔ serial ∈ matchmaker.staffed))
    (htended : IsTended changed config (processors.map (·.server))) :
    IsStaffed { matchmaker with
      processors
      registry := matchmaker.registry.modify server.address fun _ => changed } config := by
  obtain ⟨before, after, hservers, hdistinct, hmodify⟩ := hstaffed.exists_others hserver
  let next : Matchmaker := { matchmaker with
    processors
    registry := matchmaker.registry.modify server.address fun _ => changed }
  have hserials : next.serials = matchmaker.serials := by
    rw [serials, serials, hservers, hmodify]
    simp [hserial]
  have hmember : server.serial ∈ matchmaker.serials := List.mem_map_of_mem hserver
  refine ⟨?_, hstaffed.queueConfig_eq, hstaffed.isShutdown_eq, ?_, ?_, hnodup, ?_, ?_⟩
  · apply Registry.isKeyed_modify hstaffed.isKeyed
    rintro other _ hsame
    rw [haddress, hsame]
  · exact hserials ▸ hstaffed.nodup_serials
  · exact hserials ▸ hstaffed.serial_lt
  · intro serial hserial
    rw [hserials]
    by_cases hsame : serial = server.serial
    · rwa [hsame]
    · exact hstaffed.mem_serials serial ((hothers serial hsame).mp hserial)
  · have hkept : ∀ other ∈ before ++ after,
        IsTended other config (processors.map (·.server)) := by
      intro other hother
      have hknown : other ∈ matchmaker.registry.servers := by
        rw [hservers]
        exact List.perm_middle.symm.subset (List.mem_cons_of_mem server hother)
      exact (hstaffed.isTended other hknown).congr rfl rfl
        (hothers other.serial (hdistinct other hother))
    intro other hother
    have hcases : other ∈ changed :: (before ++ after) :=
      List.perm_middle.subset (hmodify changed ▸ hother)
    rcases List.mem_cons.mp hcases with rfl | hother
    · exact htended
    · exact hkept other hother

/-- The processors but that of one server. -/
theorem map_server_filter (matchmaker : Matchmaker) (gone : Nat) :
    (matchmaker.processors.filter fun other => other.server != gone).map (·.server) =
      matchmaker.staffed.filter (· != gone) := by
  rw [staffed, List.filter_map]
  rfl

/-- Where nothing but the flag and the processor of one queue changes, it is enough that these two
agree. -/
theorem IsStaffed.operate (hstaffed : matchmaker.IsStaffed config)
    (hserver : server ∈ matchmaker.registry.servers) {operation : GameServer.Operation}
    {processors : List Processor} (hnodup : (processors.map (·.server)).Nodup)
    (hothers : ∀ serial, serial ≠ server.serial →
      (serial ∈ processors.map (·.server) ↔ serial ∈ matchmaker.staffed))
    (hflag : server.serial ∈ processors.map (·.server) ↔
      (server.operate now operation).1.queue.processing ∧ config.processInterval ≠ 0)
    (hbusy : (server.operate now operation).1.queue.players ≠ [] →
      (server.operate now operation).1.queue.processing) :
    IsStaffed { matchmaker with
      processors
      registry := matchmaker.registry.modify server.address
        fun _ => (server.operate now operation).1 } config := by
  have hbefore := hstaffed.isTended server hserver
  have hrequeued := server.requeued_operate now operation
  have hserial : (server.operate now operation).1.serial = server.serial := by
    rw [hrequeued.eq_queue]
  have hconfig := GameServer.config_operate hbefore.isOrderly now operation
  exact hstaffed.replace hserver hrequeued.address_eq hserial hnodup hothers
    ⟨GameServer.isOrderly_operate hbefore.isOrderly now operation,
      hconfig.trans hbefore.config_eq, hserial ▸ hflag, hbusy⟩

/-- An operation that brings nobody in and leaves the flag alone needs no change of processors. -/
theorem IsStaffed.serve (hstaffed : matchmaker.IsStaffed config)
    (hserver : server ∈ matchmaker.registry.servers) {operation : GameServer.Operation}
    (harriving : operation.arriving = [])
    (hkept : (server.operate now operation).1.queue.processing = server.queue.processing) :
    IsStaffed { matchmaker with
      registry := matchmaker.registry.modify server.address
        fun _ => (server.operate now operation).1 } config := by
  have hbefore := hstaffed.isTended server hserver
  refine hstaffed.operate hserver hstaffed.nodup_staffed (fun _ _ => Iff.rfl) ?_ ?_
  · rw [hkept]
    exact hbefore.mem_staffed_iff
  · rw [hkept]
    exact fun hbusy => hbefore.processing (mt (GameServer.players_operate_eq_nil harriving) hbusy)

/-- The first player who is let in starts a processor. -/
theorem IsStaffed.start (hstaffed : matchmaker.IsStaffed config)
    (hserver : server ∈ matchmaker.registry.servers) {player : PlayerId}
    {events : List QueueEvent} (henqueue : server.enqueue player now = .ok (changed, events)) :
    IsStaffed { matchmaker with
      processors := (matchmaker.startProcessor server now).processors
      registry := matchmaker.registry.modify server.address
        fun _ => (server.operate now (.enqueue player)).1 } config := by
  have hbefore := hstaffed.isTended server hserver
  have hflagged : (server.operate now (.enqueue player)).1.queue.processing = true := by
    simp only [GameServer.operate, henqueue]
    exact GameServer.processing_enqueue henqueue
  rw [startProcessor, hstaffed.hasProcessors_eq]
  split_ifs with hneedless
  · refine hstaffed.operate hserver hstaffed.nodup_staffed (fun _ _ => Iff.rfl) ?_ fun _ => hflagged
    change server.serial ∈ matchmaker.staffed ↔ _
    rw [hbefore.mem_staffed_iff, hflagged]
    simp only [Bool.or_eq_true, Bool.not_eq_true', bne_eq_false_iff_eq] at hneedless
    simp only [true_and, and_iff_right_iff_imp]
    exact fun hinterval => hneedless.resolve_right hinterval
  · simp only [Bool.or_eq_true, Bool.not_eq_true', bne_eq_false_iff_eq, not_or] at hneedless
    have hunstaffed : server.serial ∉ matchmaker.staffed := fun hlive =>
      hneedless.1 (hbefore.mem_staffed_iff.mp hlive).1
    have hadded : (matchmaker.processors ++ [(⟨server.serial, now⟩ : Processor)]).map (·.server) =
        matchmaker.staffed ++ [server.serial] := List.map_append
    refine hstaffed.operate hserver ?_ ?_ ?_ fun _ => hflagged
    · rw [hadded]
      exact hstaffed.nodup_staffed.append (List.nodup_singleton _) (by simpa using hunstaffed)
    · intro serial hserial
      simp [hadded, hserial]
    · simp [hadded, hflagged, hneedless.2]

/-- A processor that finds its queue idle ends and takes the flag away. -/
theorem IsStaffed.rest (hstaffed : matchmaker.IsStaffed config)
    (hserver : server ∈ matchmaker.registry.servers)
    (hidle : (server.operate now .process).1.queue.isIdle now) :
    IsStaffed { matchmaker with
      processors := matchmaker.processors.filter fun other => other.server != server.serial
      registry := matchmaker.registry.modify server.address
        fun _ => (server.operate now .process).1 } config := by
  have hunflagged : (server.operate now .process).1.queue.processing = false := by
    rw [GameServer.processing_process, hidle, Bool.not_true, Bool.and_false]
  have hempty : (server.operate now .process).1.queue.players = [] := by
    rw [Queue.isIdle, Bool.and_eq_true] at hidle
    exact Queue.isEmpty_iff.mp hidle.1
  refine hstaffed.operate hserver ?_ ?_ ?_ fun hbusy => absurd hempty hbusy
  · rw [map_server_filter]
    exact hstaffed.nodup_staffed.filter _
  · intro serial hserial
    simp [map_server_filter, hserial]
  · simp [map_server_filter, hunflagged]

/-- A processor that does not find its queue idle goes on. -/
theorem IsStaffed.goOn (hstaffed : matchmaker.IsStaffed config)
    (hserver : server ∈ matchmaker.registry.servers) (hlive : server.serial ∈ matchmaker.staffed)
    (hbusy : ¬ (server.operate now .process).1.queue.isIdle now) (dueAt : Nat) :
    IsStaffed { matchmaker with
      processors := (matchmaker.processors.filter fun other => other.server != server.serial) ++
        [⟨server.serial, dueAt⟩]
      registry := matchmaker.registry.modify server.address
        fun _ => (server.operate now .process).1 } config := by
  obtain ⟨hflagged, hinterval⟩ := (hstaffed.isTended server hserver).mem_staffed_iff.mp hlive
  have hkept : (server.operate now .process).1.queue.processing = true := by
    rw [GameServer.processing_process, hflagged, Bool.eq_false_iff.mpr hbusy]
    rfl
  have hadded : ((matchmaker.processors.filter fun other => other.server != server.serial) ++
      [(⟨server.serial, dueAt⟩ : Processor)]).map (·.server) =
        matchmaker.staffed.filter (· != server.serial) ++ [server.serial] := by
    rw [List.map_append, map_server_filter]
    rfl
  refine hstaffed.operate hserver ?_ ?_ ?_ fun _ => hkept
  · rw [hadded]
    exact (hstaffed.nodup_staffed.filter _).append (List.nodup_singleton _) (by simp)
  · intro serial hserial
    simp [hadded, hserial]
  · simp [hadded, hkept, hinterval]

/-- An operation that starts a processor, stops one, or neither keeps queues staffed. -/
theorem IsStaffed.works (hstaffed : matchmaker.IsStaffed config)
    (hserver : server ∈ matchmaker.registry.servers) {call : Call}
    {operation : GameServer.Operation} {processors : List Processor}
    (hworks : matchmaker.Works now call server operation processors) :
    IsStaffed { matchmaker with
      processors
      registry := matchmaker.registry.modify server.address
        fun _ => (server.operate now operation).1 } config := by
  cases hworks with
  | enqueue henqueue => exact hstaffed.start hserver henqueue
  | acknowledge server player result =>
      exact hstaffed.serve hserver rfl (GameServer.processing_acknowledge server now player result)
  | dequeue server player reason =>
      exact hstaffed.serve hserver rfl (GameServer.processing_remove server now player reason)
  | rest hlive hserial hidle =>
      rw [← hserial]
      exact hstaffed.rest hserver hidle
  | goOn hlive hserial hbusy =>
      rw [← hserial]
      exact hstaffed.goOn hserver (hserial ▸ List.mem_map_of_mem hlive) hbusy _

/-- A new server has an empty queue, and a serial that no processor knows. -/
theorem IsStaffed.register (hstaffed : matchmaker.IsStaffed config) (mention : Endpoint)
    (nameHint : String) (now : Nat) :
    (matchmaker.register mention nameHint now).IsStaffed config := by
  have hkeyed := Registry.isKeyed_getOrCreate hstaffed.isKeyed mention nameHint now
  rw [Matchmaker.register]
  rcases Registry.getOrCreate_cases matchmaker.registry mention nameHint now with
    hsame | ⟨-, hcreated⟩
  · rwa [hsame]
  · rw [hcreated] at hkeyed ⊢
    have hnew : matchmaker.registry.nextSerial ∉ matchmaker.serials := fun hserial =>
      Nat.lt_irrefl _ (hstaffed.serial_lt _ hserial)
    have hserials : (matchmaker.registry.servers ++ [GameServer.register
        matchmaker.registry.nextSerial mention.withoutZone nameHint
        matchmaker.registry.queueConfig now]).map (·.serial) =
          matchmaker.serials ++ [matchmaker.registry.nextSerial] := List.map_append
    refine ⟨hkeyed, hstaffed.queueConfig_eq, hstaffed.isShutdown_eq, ?_, ?_,
      hstaffed.nodup_staffed, ?_, ?_⟩
    · rw [serials, hserials]
      exact hstaffed.nodup_serials.append (List.nodup_singleton _) (by simpa using hnew)
    · rw [serials, hserials, List.forall_mem_append, List.forall_mem_singleton]
      exact ⟨fun serial hserial => Nat.lt_succ_of_lt (hstaffed.serial_lt serial hserial),
        Nat.lt_succ_self _⟩
    · rw [serials, hserials]
      exact fun serial hserial => List.mem_append_left _ (hstaffed.mem_serials serial hserial)
    · rw [List.forall_mem_append, List.forall_mem_singleton]
      refine ⟨hstaffed.isTended, Queue.isOrderly_empty _ _, hstaffed.queueConfig_eq, ?_, ?_⟩
      · have hunstaffed : matchmaker.registry.nextSerial ∉ matchmaker.staffed :=
          fun hlive => hnew (hstaffed.mem_serials _ hlive)
        exact ⟨fun hlive => absurd hlive hunstaffed, fun hflag => absurd hflag.1 Bool.false_ne_true⟩
      · exact fun hbusy => absurd (Queue.players_empty _ _) hbusy

/-- What becomes known of a server has nothing to do with processors. -/
theorem IsStaffed.learn (hstaffed : matchmaker.IsStaffed config) (address : Endpoint)
    {change : GameServer → GameServer}
    (haddress : ∀ server, (change server).address = server.address)
    (hserial : ∀ server, (change server).serial = server.serial)
    (hqueue : ∀ server, (change server).queue = server.queue) :
    IsStaffed { matchmaker with registry := matchmaker.registry.modify address change }
      config := by
  let next : Matchmaker :=
    { matchmaker with registry := matchmaker.registry.modify address change }
  have hserials : next.serials = matchmaker.serials := by
    change (matchmaker.registry.modify address change).servers.map (·.serial) = _
    rw [Registry.modify, List.map_map]
    apply List.map_congr_left
    intro server _
    rw [Function.comp_apply]
    split_ifs
    · exact hserial server
    · rfl
  refine ⟨?_, hstaffed.queueConfig_eq, hstaffed.isShutdown_eq, ?_, ?_, hstaffed.nodup_staffed,
    ?_, ?_⟩
  · exact Registry.isKeyed_modify hstaffed.isKeyed fun server _ _ => haddress server
  · exact hserials ▸ hstaffed.nodup_serials
  · exact hserials ▸ hstaffed.serial_lt
  · exact hserials ▸ hstaffed.mem_serials
  · intro other hother
    obtain ⟨server, hserver, rfl⟩ := List.mem_map.mp hother
    have htended := hstaffed.isTended server hserver
    split_ifs
    · exact htended.congr (hserial server) (hqueue server) Iff.rfl
    · exact htended

/-- There are no processors of servers that are not known. -/
theorem IsStaffed.filter_of_unknown (hstaffed : matchmaker.IsStaffed config)
    {processor : Processor} (hunknown : matchmaker.serverOf? processor = none) :
    (matchmaker.processors.filter fun other => other.server != processor.server) =
      matchmaker.processors := by
  have hgone : processor.server ∉ matchmaker.serials := by
    intro hserial
    obtain ⟨server, hserver, hsame⟩ := List.mem_map.mp hserial
    exact absurd hsame (by simpa using List.find?_eq_none.mp hunknown server hserver)
  rw [List.filter_eq_self]
  intro other hother
  rw [bne_iff_ne]
  intro hsame
  exact hgone (hsame ▸ hstaffed.mem_serials _ (List.mem_map_of_mem hother))

theorem IsStaffed.takes (hstaffed : matchmaker.IsStaffed config) {call : Call}
    (htakes : matchmaker.Takes now call next) : next.IsStaffed config := by
  cases htakes with
  | nothing => exact hstaffed
  | registers mention nameHint => exact hstaffed.register mention nameHint now
  | learns address haddress hserial hqueue => exact hstaffed.learn address haddress hserial hqueue
  | works hserver hworks => exact hstaffed.works hserver hworks
  | abandons hunknown =>
      rw [hstaffed.filter_of_unknown hunknown]
      exact hstaffed

theorem IsStaffed.takeAll (hstaffed : matchmaker.IsStaffed config) (calls : List (Nat × Call)) :
    (matchmaker.takeAll calls).IsStaffed config :=
  List.foldlRecOn (motive := fun matchmaker => IsStaffed matchmaker config) calls _ hstaffed
    fun matchmaker hstaffed call _ => hstaffed.takes (matchmaker.takes_take call.1 call.2)

theorem isStaffed_run (config : QueueConfig) (calls : List (Nat × Call)) :
    (run config calls).IsStaffed config :=
  (isStaffed_empty config).takeAll calls

theorem IsStaffed.liveProcessors_eq (hstaffed : matchmaker.IsStaffed config)
    (hserver : server ∈ matchmaker.registry.servers) :
    matchmaker.liveProcessors server =
      if server.queue.processing ∧ config.processInterval ≠ 0 then 1 else 0 := by
  rw [liveProcessors, hstaffed.nodup_staffed.count]
  exact if_congr (hstaffed.isTended server hserver).mem_staffed_iff rfl rfl

end Matchmaker

end Muster
