import Muster.Proofs.Daemon.Turns

/-!
# Sessions and the matchmaker

When no message is under way, a session shows where its player is in line.  It shows the search as
well, unless a change of a queue or the end of a session was under way when the search started:
such a message speaks of what was before the search, and it is taken for news all the same.
-/

namespace Muster

variable {player : PlayerId} {now : Nat}

/-- A sweep takes away the sessions that it reports as ended, and no other one. -/
theorem Sessions.state?_sweep {store : Sessions} (hnodup : store.players.Nodup) (timeout now : Nat)
    (player : PlayerId) :
    (store.sweep timeout now).1.state? player =
      if (store.sweep timeout now).2.any (fun session => session.id == player) then none
      else store.state? player := by
  have hkept : (store.sweep timeout now).1.get? player =
      (store.get? player).filter fun session => !session.isTimedOut timeout now :=
    Parts.find?_filter_key hnodup _ player
  have hended : (store.sweep timeout now).2.any (fun session => session.id == player) =
      ((store.get? player).filter fun session => session.isTimedOut timeout now).isSome := by
    rw [← List.isSome_find?]
    exact congrArg Option.isSome (Parts.find?_filter_key hnodup _ player)
  rw [state?, hkept, hended, state?]
  cases store.get? player with
  | none => rfl
  | some session => cases hsilent : session.isTimedOut timeout now <;> simp [hsilent]

namespace Daemon

variable {daemon : Daemon}

theorem underWay_become (daemon : Daemon) (matchmaker : Matchmaker) (effects : List Effect) :
    (daemon.become matchmaker effects).underWay =
      daemon.underWay ++ (effects.filterMap Effect.admission?).map .admission := by
  rw [underWay, mailbox_become, admissions_become, List.map_append, ← List.append_assoc]
  rfl

namespace World

variable {world other : World} {config : DaemonConfig}

def situation (world : World) (player : PlayerId) : Situation :=
  .of player world.daemon.sessions.state? world.daemon.matchmaker world.daemon.underWay
    (.of player (world.amid player))

theorem situation_after (world : World) (daemon : Daemon) (player : PlayerId) :
    (world.after daemon).situation player =
      (world.situation player).become player daemon.sessions.state? daemon.matchmaker
        daemon.underWay := by
  rw [situation, Situation.become, situation, after]
  congr 1
  exact apply_ite (Tidings.of player) _ _ _

/-- Who has a place is attended. -/
theorem HasNoGhosts.isRegular (hworld : world.HasNoGhosts) (player : PlayerId) :
    (world.situation player).IsRegular where
  place?_eq_none hsearching :=
    Registry.inLine?_eq_none_iff.mpr (hworld.daemon.isConsistent.not_mem_queued hsearching)
  attended := by
    intro hplace
    have hroll : player ∈ world.daemon.matchmaker.roll := by
      rcases hplace with hsearching | hplaced
      · exact List.mem_append_left _ (Matchmaker.isSearching_iff.mp hsearching)
      · apply List.mem_append_right
        by_contra hout
        have hnone : (world.situation player).place? = none :=
          Registry.inLine?_eq_none_iff.mpr hout
        rw [hnone] at hplaced
        exact Bool.false_ne_true hplaced
    apply (hworld.daemon.isAttended player hroll).imp_right
    rintro ⟨mail, hmail, hend⟩
    exact List.any_eq_true.mpr ⟨mail, List.mem_append_left _ hmail, hend⟩

/-- Every queue is orderly, and nobody has two sessions. -/
structure IsOrderly (world : World) : Prop where
  matchmaker : world.daemon.matchmaker.IsOrderly
  nodup_players : world.daemon.sessions.players.Nodup

/-- What a step of the daemon comes to. -/
structure Turns (world other : World) : Prop where
  isOrderly : other.IsOrderly
  turn : ∀ player, (world.situation player).Turn (other.situation player)

/-- A step in which the matchmaker makes known what it does, and all sessions stay as they are. -/
theorem turns_told (horderly : world.IsOrderly) {changes : List AdmissionEvent}
    (hsessions : daemon.sessions = world.daemon.sessions)
    (hunderWay : ∀ player, Tidings.of player daemon.underWay =
      Tidings.of player (world.daemon.underWay ++ changes.map .admission))
    (hconducts : Matchmaker.Conducts [] world.daemon.matchmaker daemon.matchmaker changes) :
    world.Turns (world.after daemon) where
  isOrderly := ⟨hconducts.discloses.isOrderly, hsessions ▸ horderly.nodup_players⟩
  turn := by
    intro player
    have hsearching := hconducts.isSearching_iff_of_nil player
    have hmails := hunderWay player
    rw [Tidings.of_append_admissions] at hmails
    rw [situation_after]
    exact Situation.turn_told (by rw [hsessions]) hmails hconducts.discloses hsearching

/-- A step that is of no account to sessions and lines. -/
theorem turns_silent (horderly : world.IsOrderly)
    (hsessions : daemon.sessions = world.daemon.sessions)
    (hunderWay : daemon.underWay = world.daemon.underWay)
    (hconducts : Matchmaker.Conducts [] world.daemon.matchmaker daemon.matchmaker []) :
    world.Turns (world.after daemon) := by
  apply turns_told horderly hsessions _ hconducts
  intro player
  rw [hunderWay, List.map_nil, List.append_nil]

theorem turns_afterMatchmaker (horderly : world.IsOrderly) {matchmaker : Matchmaker}
    (hconducts : Matchmaker.Conducts [] world.daemon.matchmaker matchmaker []) :
    world.Turns (world.afterMatchmaker matchmaker) :=
  turns_silent horderly rfl rfl hconducts

/-- Taking over what the matchmaker conducted is a turn for every player. -/
theorem turns_become (horderly : world.IsOrderly) {matchmaker : Matchmaker}
    {effects : List Effect} (hconducts : Matchmaker.Conducts [] world.daemon.matchmaker matchmaker
      (effects.filterMap Effect.admission?)) :
    world.Turns (world.after (world.daemon.become matchmaker effects)) := by
  apply turns_told horderly (sessions_become _ _ _)
  · intro player
    rw [underWay_become]
  · rw [matchmaker_become]
    exact hconducts

theorem turns_handleNext (horderly : world.IsOrderly) (choice now : Nat) :
    world.Turns (world.after (world.daemon.handleNext choice now)) := by
  rw [handleNext]
  cases hmailbox : world.daemon.mailbox with
  | nil => exact turns_silent horderly rfl rfl (Matchmaker.Conducts.refl horderly.matchmaker)
  | cons mail rest =>
      let waiting : Daemon := { world.daemon with mailbox := rest }
      obtain ⟨hrest, hnodup, changes, hadmissions, hhandling⟩ := handles waiting mail choice now
      constructor
      · exact ⟨(hhandling.discloses horderly.matchmaker).isOrderly, hnodup horderly.nodup_players⟩
      · intro player
        have hbefore : world.daemon.underWay = mail :: waiting.underWay := by
          rw [underWay, hmailbox]
          rfl
        have hafter : (waiting.handle mail choice now).underWay =
            waiting.underWay ++ changes.map .admission := by
          rw [underWay, hrest, hadmissions, List.map_append, ← List.append_assoc]
          rfl
        rw [situation_after, situation, hbefore]
        change Situation.Turn _
          (Situation.become _ _ _ _ (waiting.handle mail choice now).underWay)
        rw [hafter]
        exact hhandling.turn horderly.matchmaker player waiting.underWay _

theorem turns_sweep (horderly : world.IsOrderly) (now : Nat) :
    world.Turns (world.after (world.daemon.sweep now)) := by
  let timeout := world.daemon.config.sessionTimeout
  let ended := (world.daemon.sessions.sweep timeout now).2
  have hconducts := Matchmaker.conducts_pruneIdle horderly.matchmaker now
  constructor
  · refine ⟨hconducts.discloses.isOrderly, ?_⟩
    exact horderly.nodup_players.sublist (List.filter_sublist.map _)
  · intro player
    have hstate := Sessions.state?_sweep horderly.nodup_players timeout now player
    have hmails : Tidings.of player (world.daemon.sweep now).underWay =
        ⟨(Tidings.of player world.daemon.underWay).changes,
          (Tidings.of player world.daemon.underWay).hasEnd ||
            ended.any fun session => session.id == player⟩ :=
      Tidings.of_insert_ends player ended world.daemon.mailbox _
    have hsearching := hconducts.isSearching_iff_of_nil player
    have hafter : (world.after (world.daemon.sweep now)).situation player =
        (world.situation player).become player
          (world.daemon.sessions.sweep timeout now).1.state?
          (world.daemon.matchmaker.pruneIdle now) (world.daemon.sweep now).underWay :=
      situation_after world _ player
    have hold : (world.daemon.matchmaker.pruneIdle now).isSearching player →
        (world.situation player).isSearching := fun hsearches => (hsearching.mp hsearches).1
    rw [hafter]
    by_cases hended : ended.any fun session => session.id == player
    · have hplace := hconducts.discloses.silent player rfl
      rw [if_pos hended] at hstate
      rw [hended, Bool.or_true] at hmails
      rw [Situation.become_eq hold, hmails, hstate, hplace]
      exact .ended
    · rw [if_neg hended] at hstate
      rw [Bool.not_eq_true] at hended
      rw [hended, Bool.or_false] at hmails
      apply Situation.turn_told hstate _ hconducts.discloses hsearching
      rw [hmails, AdmissionEvent.about_nil, List.append_nil]

/-- Every step of a run is a turn for each player. -/
theorem Step.turns (hstep : Step world other) (hghosts : world.HasNoGhosts)
    (horderly : world.IsOrderly) : world.Turns other := by
  have hmatchmaker := horderly.matchmaker
  cases hstep with
  | receive datagram sender =>
      rw [Daemon.receive]
      split
      case h_1 packet hread =>
        refine turns_told horderly rfl ?_ (Matchmaker.Conducts.refl hmatchmaker)
        intro player
        rw [underWay, Daemon.post, List.append_assoc, List.map_nil, List.append_nil]
        exact Tidings.of_insert_packet player packet sender world.daemon.mailbox _
      case h_2 => exact turns_silent horderly rfl rfl (Matchmaker.Conducts.refl hmatchmaker)
  | forward =>
      rw [Daemon.forward]
      split
      · exact turns_silent horderly rfl rfl (Matchmaker.Conducts.refl hmatchmaker)
      case h_2 change rest hadmissions =>
        refine turns_silent horderly rfl ?_ (Matchmaker.Conducts.refl hmatchmaker)
        rw [underWay, underWay, hadmissions, List.map_cons]
        exact List.append_assoc _ _ _
  | handleNext choice now => exact turns_handleNext horderly choice now
  | sweep now => exact turns_sweep horderly now
  | beginTick now =>
      have hconducts := Matchmaker.conducts_getOrCreateAll hmatchmaker
        (Matchmaker.namedServers world.daemon.matchmaker.pool) now
      obtain ⟨horderly', hturn⟩ := turns_afterMatchmaker horderly hconducts
      exact ⟨⟨horderly'.matchmaker, horderly'.nodup_players⟩, hturn⟩
  | finishTick hsnapshot views now =>
      have hnodup := hghosts.snapshots _ hsnapshot
      exact turns_become horderly (Matchmaker.conducts_finishTick hmatchmaker hnodup views now)
  | process processor now =>
      exact turns_become horderly (Matchmaker.conducts_runProcessor hmatchmaker processor now)
  | pruneIdle now =>
      exact turns_afterMatchmaker horderly (Matchmaker.conducts_pruneIdle hmatchmaker now)
  | register mention nameHint now =>
      exact turns_afterMatchmaker horderly
        (Matchmaker.conducts_register hmatchmaker mention nameHint now)
  | store kind address report now =>
      apply turns_afterMatchmaker horderly
      apply Matchmaker.conducts_of_queues_eq hmatchmaker
      exact Registry.queues_store _ kind address report now
  | shutdown =>
      exact turns_afterMatchmaker horderly ((Matchmaker.Conducts.refl hmatchmaker).congr rfl rfl)
  | takeOutbound => exact turns_silent horderly rfl rfl (Matchmaker.Conducts.refl hmatchmaker)

theorem isOrderly_start (config : DaemonConfig) : (start config).IsOrderly := by
  have hempty : (Matchmaker.empty config.queue).IsOrderly :=
    ⟨Matchmaker.isConsistent_empty config.queue, List.forall_mem_nil _⟩
  constructor
  · exact (Matchmaker.conducts_getOrCreateAll hempty _ 0).discloses.isOrderly
  · exact List.nodup_nil

theorem isSound_start (config : DaemonConfig) (player : PlayerId) :
    ((start config).situation player).IsSound := by
  have hplace : ((start config).situation player).place? = none := by
    apply Matchmaker.inLine?_eq_none
    change player ∉ (Daemon.start config).matchmaker.roll
    rw [roll_start]
    exact List.not_mem_nil
  constructor
  case latest => exact fun change hchange => absurd hchange.symm (Option.some_ne_none change)
  case place?_of_shown =>
    exact fun _ place hshown => absurd hshown (Option.some_ne_none place).symm
  case shown_of_place? =>
    intro _ _ place hshown
    exact absurd (hplace.symm.trans hshown) (Option.some_ne_none place).symm
  case matchmaking_of_isSearching => exact fun hsearches => absurd hsearches Bool.false_ne_true
  case isSearching_of_matchmaking =>
    exact fun hstate => absurd hstate (Option.some_ne_none _).symm
  case hasEnd_amid => exact fun hstate => absurd hstate (Option.some_ne_none _).symm

theorem Reachable.isOrderly (hreach : Reachable config world) : world.IsOrderly := by
  induction hreach with
  | start => exact isOrderly_start config
  | step hreach hstep ih => exact (hstep.turns hreach.hasNoGhosts ih).isOrderly

/-- In the course of any run of the daemon the situation of each player is sound. -/
theorem Reachable.isSound (hreach : Reachable config world) (player : PlayerId) :
    (world.situation player).IsSound := by
  induction hreach with
  | start => exact isSound_start config player
  | step hreach hstep ih =>
      have hghosts := hreach.hasNoGhosts
      have hturns := hstep.turns hghosts hreach.isOrderly
      exact (hturns.turn player).isSound ih (hghosts.isRegular player)

/-- What the state of a session has to do with the place of its player when no message is under
way. -/
structure Mirrors (world : World) (player : PlayerId) (state : PlayerState) : Prop where
  queued_iff : ∀ address, state = .queued address ↔
    ∃ server, world.daemon.matchmaker.registry.get? address = some server ∧
      server.queue.doing? player = some .waiting
  joining_iff : ∀ address, state = .joining address ↔
    ∃ server, world.daemon.matchmaker.registry.get? address = some server ∧
      server.queue.doing? player = some .joining
  /-- A search shows, unless a change of a queue that concerned the player was under way when it
  started. -/
  matchmaking_of_isSearching : world.daemon.matchmaker.isSearching player →
    state = .matchmaking ∨
      ∃ change, .admission change ∈ world.amid player ∧ change.event.player = player
  /-- What looks like a search is one, unless the end of a session of the player was under way when
  it started. -/
  isSearching_of_matchmaking : state = .matchmaking →
    world.daemon.matchmaker.isSearching player ∨
      ∃ session, .sessionTimeout session ∈ world.amid player ∧ session.id = player

/-- Whenever no message is under way in a run of the daemon, every session shows where its player is
in line, and it shows the search unless a message older than the search has been handled since. -/
theorem session_mirrors_place (hreach : Reachable config world)
    (hmailbox : world.daemon.mailbox = []) (hadmissions : world.daemon.admissions = [])
    {session : Session} (hsession : world.daemon.sessions.get? player = some session) :
    world.Mirrors player session.state := by
  have hsound := hreach.isSound player
  have hconsistent := hreach.isOrderly.matchmaker.isConsistent
  have hstate : world.daemon.sessions.state? player = some session.state := by
    rw [Sessions.state?, hsession]
    rfl
  have hpending : Tidings.of player world.daemon.underWay = ⟨[], false⟩ := by
    rw [underWay, hmailbox, hadmissions]
    rfl
  have hline : session.state.inLine? = world.daemon.matchmaker.inLine? player := by
    apply Option.ext
    intro place
    have hshown : (world.situation player).shown? = session.state.inLine? := by
      rw [Situation.shown?]
      change (world.daemon.sessions.state? player).bind _ = _
      rw [hstate]
      rfl
    rw [← hshown]
    constructor
    · exact hsound.place?_of_shown (congrArg Tidings.changes hpending) place
    · exact hsound.shown_of_place? (congrArg Tidings.changes hpending)
        (congrArg Tidings.hasEnd hpending) place
  constructor
  case queued_iff =>
    intro address
    rw [← PlayerState.inLine?_eq_waiting_iff, hline, Matchmaker.inLine?_eq_some_iff hconsistent]
  case joining_iff =>
    intro address
    rw [← PlayerState.inLine?_eq_joining_iff, hline, Matchmaker.inLine?_eq_some_iff hconsistent]
  case matchmaking_of_isSearching =>
    intro hsearching
    by_cases hamid : (Tidings.of player (world.amid player)).changes = []
    · left
      have hshown := (hsound.matchmaking_of_isSearching hsearching hamid).2
        (congrArg Tidings.hasEnd hpending)
      exact Option.some.inj (hstate.symm.trans hshown)
    · exact Or.inr (Tidings.exists_change hamid)
  case isSearching_of_matchmaking =>
    intro hmatchmaking
    rw [hmatchmaking] at hstate
    rcases hsound.isSearching_of_matchmaking hstate with hsearching | hchanges | hend
    · exact Or.inl hsearching
    · exact absurd (congrArg Tidings.changes hpending) hchanges
    · exact Or.inr (Tidings.exists_end hend)

/-- A player was handed over to a queue and told to join, and this has been heard of. -/
theorem session_mirrors_place_handedOver :
    ∃ world session, Reachable {} world ∧ world.daemon.mailbox = [] ∧
      world.daemon.admissions = [] ∧ world.daemon.sessions.get? 7 = some session ∧
      session.state = .joining (.loopback 28960) ∧ world.Mirrors 7 session.state := by
  have hstart : Reachable {} (start {}) := .start
  have hcalled := hstart.arrival (.hello 1 7 "") (.loopback 9) (by decide) (by decide)
  have hgreeted := hcalled.step (.handleNext 0 0)
  have hasked := hgreeted.arrival (.enterMatchmaking { minPlayers := 0 } [⟨.loopback 28960, 40⟩])
    (.loopback 9) (by decide) (by decide)
  have hentered := hasked.step (.handleNext 0 1)
  have hbegun := hentered.step (.beginTick 2)
  have hfinished := hbegun.step
    (.finishTick List.mem_cons_self [⟨.loopback 28960, "small", 0, 3, 1, none⟩] 3)
  have hheard := (hfinished.step .forward).step (.handleNext 0 4)
  exact ⟨_, ⟨7, "", .loopback 9, 1, .joining (.loopback 28960)⟩, hheard, by rfl, by rfl, by rfl,
    rfl, session_mirrors_place hheard (by rfl) (by rfl) (by rfl)⟩

/-- A player leaves a queue and starts to search before it is heard of that the player has left the
queue.  This makes the session idle, although the player searches.  Another player starts to search
before it is heard of that an earlier session has ended.  This stops the search, and the session
goes on to show it. -/
theorem not_mirrored_after_late_news :
    (∃ world session, Reachable {} world ∧ world.daemon.mailbox = [] ∧
      world.daemon.admissions = [] ∧ world.daemon.sessions.get? 7 = some session ∧
      session.state = .idle ∧ world.daemon.matchmaker.isSearching 7) ∧
    ∃ world session, Reachable {} world ∧ world.daemon.mailbox = [] ∧
      world.daemon.admissions = [] ∧ world.daemon.sessions.get? 7 = some session ∧
      session.state = .matchmaking ∧ ¬ world.daemon.matchmaker.isSearching 7 := by
  let search : Packet := .enterMatchmaking { minPlayers := 0 } [⟨.loopback 28960, 40⟩]
  have hstart : Reachable {} (start {}) := .start
  have hcalled := hstart.arrival (.hello 1 7 "") (.loopback 9) (by decide) (by decide)
  have hgreeted := hcalled.step (.handleNext 0 0)
  constructor
  · have hasked := hgreeted.arrival search (.loopback 9) (by decide) (by decide)
    have hbegun := (hasked.step (.handleNext 0 1)).step (.beginTick 2)
    have hfinished := hbegun.step
      (.finishTick List.mem_cons_self [⟨.loopback 28960, "small", 0, 3, 1, none⟩] 3)
    have hjoining := (hfinished.step .forward).step (.handleNext 0 4)
    have hleaving := hjoining.arrival .leaveMatchmaking (.loopback 9) (by decide) (by decide)
    have hasking := hleaving.arrival search (.loopback 9) (by decide) (by decide)
    have hsearching := (hasking.step (.handleNext 0 5)).step (.handleNext 0 6)
    have hlate := (hsearching.step .forward).step (.handleNext 0 7)
    exact ⟨_, ⟨7, "", .loopback 9, 6, .idle⟩, hlate, by decide +kernel, by decide +kernel,
      by decide +kernel, rfl, by decide +kernel⟩
  · have hcalling := hgreeted.arrival (.hello 1 7 "") (.loopback 9) (by decide) (by decide)
    have hasking := hcalling.arrival search (.loopback 9) (by decide) (by decide)
    have hswept := hasking.step (.sweep 20000)
    have hsearching := (hswept.step (.handleNext 0 20001)).step (.handleNext 0 20002)
    have hlate := hsearching.step (.handleNext 0 20003)
    exact ⟨_, ⟨7, "", .loopback 9, 20002, .matchmaking⟩, hlate, by decide +kernel,
      by decide +kernel, by decide +kernel, rfl, by decide +kernel⟩

end World

end Daemon

end Muster
