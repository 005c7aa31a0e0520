import Muster.Proofs.Daemon.Handling
import Muster.Proofs.Matchmaker.Departure
import Muster.Proofs.Registry.Queues

/-!
# No ghosts

In the course of any run of the daemon, everybody who searches or is in a queue can be reached:
there is a session, or else the message that the session has ended is in the mailbox and will take
the player away.  A tick may hold such a player in its snapshot meanwhile and hand the player over.
-/

namespace Muster

variable {player : PlayerId} {now : Nat}

/-- The message says that a session of the player has ended. -/
def Mail.isEndFor (player : PlayerId) : Mail → Bool
  | .sessionTimeout session => session.id == player
  | _ => false

namespace Daemon

variable {daemon next : Daemon} {before after : Matchmaker}
  {states states' : PlayerId → Option PlayerState} {mail : Mail} {events : List AdmissionEvent}

/-! ## What handling does to the roll -/

theorem queues_hearing (hkeyed : before.registry.IsKeyed) {event : AdmissionEvent}
    {registry : Registry}
    (hregistry : registry = before.registry ∨
      registry = before.registry.trackJoin event.event.player event.server) :
    registry.queues = before.registry.queues := by
  rcases hregistry with rfl | rfl
  · rfl
  · exact Registry.queues_trackJoin hkeyed _ _

/-- Handling lets in nobody but one who has a session and had no place. -/
theorem Handling.moves (hkeyed : before.registry.IsKeyed)
    (hhandling : Handling before states now mail after states' events) :
    Matchmaker.Moves [] before after ∨
      ∃ player, player ∉ before.roll ∧ (states' player).isSome ∧
        Matchmaker.Moves [player] before after := by
  cases hhandling with
  | nothing | greeting => exact Or.inl (Matchmaker.Moves.refl hkeyed)
  | @entry packet sender player criteria servers hsession hout =>
      have hadded := Matchmaker.moves_addSearcher hkeyed (.enter player criteria servers now)
      refine Or.inr ⟨player, hout, ?_, ?_⟩
      · rw [Function.update_self]
        rfl
      · exact hadded.trans (Matchmaker.moves_registerAll hadded.isKeyed servers now)
  | preferences packet sender player criteria servers =>
      exact Or.inl (Matchmaker.moves_updatePreferences hkeyed player criteria servers now)
  | report packet sender hreport => exact Or.inl (Matchmaker.moves_acknowledge hkeyed hreport)
  | stop packet sender => exact Or.inl (Matchmaker.moves_removeSearcher hkeyed _)
  | departure packet sender hdequeue => exact Or.inl (Matchmaker.moves_dequeue? hkeyed hdequeue)
  | goodbye packet sender player thoughtAt reason =>
      exact Or.inl (Matchmaker.moves_withdraw hkeyed player thoughtAt reason now)
  | ending session thoughtAt reason =>
      exact Or.inl (Matchmaker.moves_withdraw hkeyed session.id thoughtAt reason now)
  | hearing event hregistry =>
      have hqueues := queues_hearing hkeyed hregistry
      exact Or.inl (Matchmaker.moves_of_eq (Registry.isKeyed_of_queues_eq hqueues hkeyed) rfl
        (Registry.queued_of_queues_eq hqueues))

/-- Who has a place afterwards has kept the session, and the message was not that it had ended. -/
theorem Handling.keeps (hconsistent : before.IsConsistent)
    (hhandling : Handling before states now mail after states' events)
    (hplayer : player ∈ after.roll) :
    ¬ mail.isEndFor player ∧ ((states player).isSome → (states' player).isSome) := by
  have hupdate : ∀ (other : PlayerId) (state : PlayerState), (states player).isSome →
      (Function.update states other (some state) player).isSome := by
    intro other state hsome
    by_cases hsame : player = other
    · rw [hsame, Function.update_self]
      rfl
    · rwa [Function.update_of_ne hsame]
  cases hhandling with
  | nothing | preferences | report | departure => exact ⟨Bool.false_ne_true, id⟩
  | greeting | entry | stop => exact ⟨Bool.false_ne_true, hupdate _ _⟩
  | goodbye packet sender other thoughtAt reason =>
      have hgone := Matchmaker.not_mem_roll_withdraw hconsistent other thoughtAt reason now
      have hdistinct : player ≠ other := fun hsame => hgone (hsame ▸ hplayer)
      rw [Function.update_of_ne hdistinct]
      exact ⟨Bool.false_ne_true, id⟩
  | ending session thoughtAt reason =>
      have hgone := Matchmaker.not_mem_roll_withdraw hconsistent session.id thoughtAt reason now
      refine ⟨?_, id⟩
      intro hend
      exact hgone (beq_iff_eq.mp hend ▸ hplayer)
  | hearing event hregistry =>
      refine ⟨Bool.false_ne_true, ?_⟩
      intro hsome
      by_cases hsame : player = event.event.player
      · rw [hsame, Function.update_self, Option.isSome_map]
        exact hsame ▸ hsome
      · rwa [Function.update_of_ne hsame]

/-! ## Attendance -/

/-- The player has a session, or it has ended and the message is still in the mailbox. -/
def IsAttended (daemon : Daemon) (player : PlayerId) : Prop :=
  (daemon.sessions.state? player).isSome ∨ ∃ mail ∈ daemon.mailbox, mail.isEndFor player

/-- Nobody has two places, and everybody who has one is attended. -/
structure HasNoGhosts (daemon : Daemon) : Prop where
  isConsistent : daemon.matchmaker.IsConsistent
  isAttended : ∀ player ∈ daemon.matchmaker.roll, daemon.IsAttended player

/-- A step that lets nobody in and keeps those attended who stay. -/
theorem HasNoGhosts.of_moves (hdaemon : daemon.HasNoGhosts)
    (hmoves : Matchmaker.Moves [] daemon.matchmaker next.matchmaker)
    (hattended : ∀ player ∈ next.matchmaker.roll,
      daemon.IsAttended player → next.IsAttended player) : next.HasNoGhosts := by
  refine ⟨hmoves.isConsistent hdaemon.isConsistent.nodup_roll, ?_⟩
  intro player hplayer
  exact hattended player hplayer (hdaemon.isAttended player (hmoves.mem_roll hplayer))

/-- Nobody has a place at the start. -/
theorem roll_start (config : DaemonConfig) : (start config).matchmaker.roll = [] :=
  Registry.queued_getOrCreateAll (Registry.empty config.queue) _ 0

theorem hasNoGhosts_start (config : DaemonConfig) : (start config).HasNoGhosts := by
  refine ⟨⟨?_, ?_⟩, ?_⟩
  · exact Registry.isKeyed_getOrCreateAll (Registry.isKeyed_empty config.queue) _ 0
  · rw [roll_start]
    exact List.nodup_nil
  · rw [roll_start]
    exact List.forall_mem_nil _

/-- Handling a message makes no ghosts. -/
theorem HasNoGhosts.handle (hdaemon : daemon.HasNoGhosts) {rest : List Mail}
    (hmailbox : daemon.mailbox = mail :: rest) (choice now : Nat) :
    ({ daemon with mailbox := rest }.handle mail choice now).HasNoGhosts := by
  obtain ⟨hrest, -, events, -, hhandling⟩ :=
    handles { daemon with mailbox := rest } mail choice now
  generalize { daemon with mailbox := rest }.handle mail choice now = next at hrest hhandling
  have hconsistent := hdaemon.isConsistent
  -- The message that was taken out matters to those only whose end it told.
  have hattended : ∀ player ∈ next.matchmaker.roll,
      daemon.IsAttended player → next.IsAttended player := by
    intro player hplayer hbefore
    obtain ⟨hother, hkept⟩ := hhandling.keeps hconsistent hplayer
    rcases hbefore with hsession | ⟨message, hmessage, hend⟩
    · exact Or.inl (hkept hsession)
    · rw [hmailbox, List.mem_cons] at hmessage
      rcases hmessage with rfl | hmessage
      · exact absurd hend hother
      · exact Or.inr ⟨message, hrest ▸ hmessage, hend⟩
  rcases hhandling.moves hconsistent.isKeyed with hmoves | ⟨entered, hout, hsession, hmoves⟩
  · exact hdaemon.of_moves hmoves hattended
  · refine ⟨hmoves.isConsistent (List.nodup_cons.mpr ⟨hout, hconsistent.nodup_roll⟩), ?_⟩
    intro player hplayer
    rcases List.mem_cons.mp (hmoves.roll_subperm.subset hplayer) with rfl | hbefore
    · exact Or.inl hsession
    · exact hattended player hplayer (hdaemon.isAttended player hbefore)

theorem HasNoGhosts.sweep (hdaemon : daemon.HasNoGhosts) (now : Nat) :
    (daemon.sweep now).HasNoGhosts := by
  apply hdaemon.of_moves (Matchmaker.moves_pruneIdle hdaemon.isConsistent.isKeyed now)
  rintro player - (hsession | ⟨message, hmessage, hend⟩)
  · obtain ⟨session, hmember, rfl⟩ := List.mem_map.mp (Sessions.state?_isSome_iff.mp hsession)
    by_cases hsilent : session.isTimedOut daemon.config.sessionTimeout now
    · refine Or.inr ⟨.sessionTimeout session, ?_, beq_self_eq_true session.id⟩
      apply List.mem_append_right
      apply List.mem_map_of_mem
      exact List.mem_filter.mpr ⟨hmember, hsilent⟩
    · refine Or.inl (Sessions.state?_isSome_iff.mpr ?_)
      apply List.mem_map_of_mem
      exact List.mem_filter.mpr ⟨hmember, by simpa using hsilent⟩
  · exact Or.inr ⟨message, List.mem_append_left _ hmessage, hend⟩

/-- A step that changes no session and takes nothing out of the mailbox. -/
theorem HasNoGhosts.of_background (hdaemon : daemon.HasNoGhosts)
    (hmoves : Matchmaker.Moves [] daemon.matchmaker next.matchmaker)
    (hsessions : next.sessions = daemon.sessions) (hmailbox : daemon.mailbox <+: next.mailbox) :
    next.HasNoGhosts := by
  apply hdaemon.of_moves hmoves
  rintro player - (hsession | ⟨message, hmessage, hend⟩)
  · exact Or.inl (hsessions ▸ hsession)
  · exact Or.inr ⟨message, hmailbox.subset hmessage, hend⟩

namespace World

variable {world other : World} {config : DaemonConfig}

/-- Nobody is a ghost, and nobody is twice in a snapshot. -/
structure HasNoGhosts (world : World) : Prop where
  daemon : world.daemon.HasNoGhosts
  snapshots : ∀ snapshot ∈ world.snapshots, (snapshot.map (·.id)).Nodup

theorem Step.hasNoGhosts (hstep : Step world other) (hworld : world.HasNoGhosts) :
    other.HasNoGhosts := by
  obtain ⟨hdaemon, hsnapshots⟩ := hworld
  have hkeyed := hdaemon.isConsistent.isKeyed
  -- Reports, registrations and the like are changes of the registry alone.
  have hbackground : ∀ matchmaker : Matchmaker,
      Matchmaker.Moves [] world.daemon.matchmaker matchmaker →
        (world.afterMatchmaker matchmaker).daemon.HasNoGhosts := by
    intro matchmaker hmoves
    exact hdaemon.of_background hmoves rfl (List.prefix_refl _)
  cases hstep with
  | receive datagram sender =>
      refine ⟨?_, hsnapshots⟩
      change (world.daemon.receive datagram sender).HasNoGhosts
      rw [Daemon.receive]
      split
      · exact hdaemon.of_background (Matchmaker.Moves.refl hkeyed) rfl (List.prefix_append _ _)
      · exact hdaemon
  | forward =>
      refine ⟨?_, hsnapshots⟩
      change world.daemon.forward.HasNoGhosts
      rw [Daemon.forward]
      split
      · exact hdaemon
      · exact hdaemon.of_background (Matchmaker.Moves.refl hkeyed) rfl (List.prefix_append _ _)
  | handleNext choice now =>
      refine ⟨?_, hsnapshots⟩
      change (world.daemon.handleNext choice now).HasNoGhosts
      rw [Daemon.handleNext]
      split
      · exact hdaemon
      case h_2 mail rest hmailbox => exact hdaemon.handle hmailbox choice now
  | sweep now => exact ⟨hdaemon.sweep now, hsnapshots⟩
  | beginTick now =>
      refine ⟨hbackground _ (Matchmaker.moves_of_eq (Registry.isKeyed_getOrCreateAll hkeyed _ now)
        rfl (Registry.queued_getOrCreateAll _ _ now)), ?_⟩
      rw [List.forall_mem_cons]
      exact ⟨hdaemon.isConsistent.nodup_pool, hsnapshots⟩
  | finishTick hsnapshot views now =>
      have hmoves := Matchmaker.moves_finishTick hkeyed (hsnapshots _ hsnapshot) views now
      refine ⟨hdaemon.of_background ?_ (sessions_become _ _ _) ?_, hsnapshots⟩
      · exact (matchmaker_become _ _ _).symm ▸ hmoves
      · exact (mailbox_become _ _ _).symm ▸ List.prefix_refl _
  | process processor now =>
      have hmoves := Matchmaker.moves_runProcessor hkeyed processor now
      refine ⟨hdaemon.of_background ?_ (sessions_become _ _ _) ?_, hsnapshots⟩
      · exact (matchmaker_become _ _ _).symm ▸ hmoves
      · exact (mailbox_become _ _ _).symm ▸ List.prefix_refl _
  | pruneIdle now => exact ⟨hbackground _ (Matchmaker.moves_pruneIdle hkeyed now), hsnapshots⟩
  | register mention nameHint now =>
      exact ⟨hbackground _ (Matchmaker.moves_of_eq (Registry.isKeyed_getOrCreate hkeyed _ _ now)
        rfl (Registry.queued_getOrCreate _ _ _ now)), hsnapshots⟩
  | store kind address report now =>
      have hqueues :=
        Registry.queues_store world.daemon.matchmaker.registry kind address report now
      exact ⟨hbackground _ (Matchmaker.moves_of_eq (Registry.isKeyed_of_queues_eq hqueues hkeyed)
        rfl (Registry.queued_of_queues_eq hqueues)), hsnapshots⟩
  | shutdown => exact ⟨hbackground _ (Matchmaker.moves_of_eq hkeyed rfl rfl), hsnapshots⟩
  | takeOutbound =>
      exact ⟨hdaemon.of_background (Matchmaker.Moves.refl hkeyed) rfl (List.prefix_refl _),
        hsnapshots⟩

theorem Reachable.hasNoGhosts (hreach : Reachable config world) : world.HasNoGhosts := by
  induction hreach with
  | start => exact ⟨hasNoGhosts_start config, by simp [World.start]⟩
  | step _ hstep ih => exact hstep.hasNoGhosts ih

/-- In the course of any run of the daemon, whoever searches or is in a queue has a session, or the
message that a session of the player has ended is still in the mailbox. -/
theorem session_or_end_in_mailbox (hreach : Reachable config world) (player : PlayerId)
    (hplace : world.daemon.matchmaker.isSearching player ∨
      world.daemon.matchmaker.registry.isQueued player) :
    (world.daemon.sessions.get? player).isSome ∨
      ∃ session, .sessionTimeout session ∈ world.daemon.mailbox ∧ session.id = player := by
  have hroll : player ∈ world.daemon.matchmaker.roll := by
    rw [Matchmaker.roll, List.mem_append]
    exact hplace.imp Matchmaker.isSearching_iff.mp Registry.isQueued_iff.mp
  rcases hreach.hasNoGhosts.daemon.isAttended player hroll with hsession | ⟨mail, hmail, hend⟩
  · rw [Sessions.state?, Option.isSome_map] at hsession
    exact Or.inl hsession
  · cases mail with
    | sessionTimeout session => exact Or.inr ⟨session, hmail, beq_iff_eq.mp hend⟩
    | packet | admission => exact absurd hend Bool.false_ne_true

/-- A player falls silent while a tick is under way.  The session is swept away, and then the tick
hands the player over to a queue. -/
theorem session_or_end_in_mailbox_handedOver :
    ∃ world, Reachable {} world ∧ world.daemon.sessions.players = [] ∧
      world.daemon.matchmaker.registry.isQueued 7 ∧
      ((world.daemon.sessions.get? 7).isSome ∨
        ∃ session, .sessionTimeout session ∈ world.daemon.mailbox ∧ session.id = 7) := by
  have hstart : Reachable {} (start {}) := .start
  have hcalled := hstart.arrival (.hello 1 7 "") (.loopback 9) (by decide) (by decide)
  have hgreeted := hcalled.step (.handleNext 0 0)
  have hasked := hgreeted.arrival (.enterMatchmaking { minPlayers := 0 } [⟨.loopback 28960, 40⟩])
    (.loopback 9) (by decide) (by decide)
  have hentered := hasked.step (.handleNext 0 1)
  have hbegun := hentered.step (.beginTick 2)
  have hswept := hbegun.step (.sweep 20000)
  have hfinished := hswept.step
    (.finishTick List.mem_cons_self [⟨.loopback 28960, "small", 0, 3, 1, none⟩] 20001)
  exact ⟨_, hfinished, by rfl, by rfl, session_or_end_in_mailbox hfinished 7 (Or.inr (by rfl))⟩

end World

end Daemon

end Muster
