import Mathlib.Logic.Function.Basic
import Muster.Proofs.Daemon.Runs
import Muster.Proofs.Matchmaker.Departure

/-!
# Handling of messages

What taking one message out of the mailbox can come to, as far as the matchmaker, the states of the
players with sessions and the changes of queues are concerned.  Packets that go out, names,
addresses and times are left out of account.
-/

namespace Muster

namespace Sessions

variable {store next : Sessions} {id player : PlayerId} {now : Nat}

def state? (store : Sessions) (player : PlayerId) : Option PlayerState :=
  (store.get? player).map (·.state)

theorem state?_isSome_iff : (store.state? player).isSome ↔ player ∈ store.players := by
  rw [state?, Option.isSome_map, get?_isSome_iff]

/-- Changing a session changes what is known of its own player only. -/
theorem get?_modify (store : Sessions) (id : PlayerId) {change : Session → Session}
    (hchange : ∀ session, (change session).id = session.id) (player : PlayerId) :
    (store.modify id change).get? player =
      (store.get? player).map fun session =>
        if session.id = id then change session else session := by
  have hbeq : ((fun session : Session => session.id == player) ∘ fun session : Session =>
      if session.id = id then change session else session) =
        fun session => session.id == player := by
    funext session
    rw [Function.comp_apply]
    split_ifs
    · rw [hchange]
    · rfl
  rw [get?, modify, List.find?_map, hbeq]
  rfl

theorem id_of_get? {session : Session} (hget : store.get? player = some session) :
    session.id = player := by
  have hid := List.find?_some hget
  exact beq_iff_eq.mp hid

/-- A change of sessions that is none of their states. -/
theorem state?_modify (store : Sessions) (id : PlayerId) {change : Session → Session}
    (hid : ∀ session, (change session).id = session.id)
    (hstate : ∀ session, (change session).state = session.state) :
    (store.modify id change).state? = store.state? := by
  funext player
  rw [state?, get?_modify store id hid, Option.map_map, state?]
  congr 1
  funext session
  rw [Function.comp_apply]
  split_ifs
  · exact hstate session
  · rfl

@[simp]
theorem state?_touch (store : Sessions) (id : PlayerId) (now : Nat) :
    (store.touch id now).state? = store.state? :=
  state?_modify store id (fun _ => rfl) fun _ => rfl

theorem state?_setState (store : Sessions) (id : PlayerId) (state : PlayerState) :
    (store.setState id state).state? =
      Function.update store.state? id ((store.state? id).map fun _ => state) := by
  funext player
  rw [state?, setState, get?_modify]
  · by_cases hplayer : player = id
    · subst hplayer
      rw [Function.update_self, state?]
      cases hget : store.get? player with
      | none => rfl
      | some session => simp [id_of_get? hget]
    · rw [Function.update_of_ne hplayer, state?]
      cases hget : store.get? player with
      | none => rfl
      | some session =>
          have hother : session.id ≠ id := id_of_get? hget ▸ hplayer
          simp [hother]
  · intro session
    rfl

theorem state?_remove (store : Sessions) (id : PlayerId) :
    (store.remove id).state? = Function.update store.state? id none := by
  funext player
  rw [state?, get?, remove, List.find?_filter]
  by_cases hplayer : player = id
  · subst hplayer
    rw [Function.update_self, Option.map_eq_none_iff, List.find?_eq_none]
    simp
  · rw [Function.update_of_ne hplayer, state?, get?]
    congr 2
    funext session
    by_cases hid : session.id = player
    · simp [hid, hplayer]
    · simp [hid]

/-- Who says hello keeps the state, or is new. -/
theorem state?_hello {name : String} {address : Endpoint}
    (hhello : store.hello id name address now = some next) :
    next.state? = store.state? ∨
      store.state? id = none ∧ next.state? = Function.update store.state? id (some .idle) := by
  rw [hello] at hhello
  split_ifs at hhello with hknown hfull
  · obtain rfl := Option.some.inj hhello
    exact Or.inl (state?_modify store id (fun _ => rfl) fun _ => rfl)
  · obtain rfl := Option.some.inj hhello
    rw [Option.not_isSome_iff_eq_none] at hknown
    have hnone : store.state? id = none := by rw [state?, hknown, Option.map_none]
    refine Or.inr ⟨hnone, ?_⟩
    funext player
    rw [state?, get?, List.find?_append, Option.map_or]
    by_cases hplayer : player = id
    · subst hplayer
      rw [Function.update_self]
      rw [get?] at hknown
      simp [hknown]
    · rw [Function.update_of_ne hplayer, state?, get?]
      simp [Ne.symm hplayer]

theorem nodup_players_setState (id : PlayerId) (state : PlayerState)
    (hstore : store.players.Nodup) : (store.setState id state).players.Nodup := by
  rwa [players_setState]

theorem nodup_players_hello (hstore : store.players.Nodup) {name : String} {address : Endpoint}
    (hhello : store.hello id name address now = some next) : next.players.Nodup := by
  rw [hello] at hhello
  split_ifs at hhello with hknown hfull
  · obtain rfl := Option.some.inj hhello
    rwa [players_modify]
    intro session
    rfl
  · obtain rfl := Option.some.inj hhello
    rw [get?_isSome_iff] at hknown
    rw [players, List.map_append, List.map_singleton, List.nodup_append]
    refine ⟨hstore, List.nodup_singleton id, ?_⟩
    rintro player hplayer other hother rfl
    have hsame : player = id := List.mem_singleton.mp hother
    exact hknown (hsame ▸ hplayer)

end Sessions

namespace Matchmaker

variable {matchmaker : Matchmaker}

/-- A search starts for a player who has no place, and otherwise nothing changes. -/
theorem enter_cases (matchmaker : Matchmaker) (player : PlayerId) (criteria : Criteria)
    (servers : List PreferredServer) (now : Nat) :
    (∃ error, matchmaker.enter player criteria servers now =
      (matchmaker, false, [.notify player (.failure error)])) ∨
    player ∉ matchmaker.roll ∧ matchmaker.enter player criteria servers now =
      ((matchmaker.addSearcher (.enter player criteria servers now)).registerAll servers now,
        true, []) := by
  rw [enter]
  split_ifs with hqueued hsearching
  · exact Or.inl ⟨_, rfl⟩
  · exact Or.inl ⟨_, rfl⟩
  · refine Or.inr ⟨?_, rfl⟩
    rw [roll, List.mem_append, not_or]
    exact ⟨mt isSearching_iff.mpr hsearching, mt Registry.isQueued_iff.mpr hqueued⟩

theorem updatePreferences_effects (matchmaker : Matchmaker) (player : PlayerId)
    (criteria : Criteria) (servers : List PreferredServer) (now : Nat) :
    (matchmaker.updatePreferences player criteria servers now).2.2.filterMap Effect.admission? =
      [] := by
  rw [updatePreferences]
  split_ifs <;> rfl

end Matchmaker

namespace Daemon

variable {daemon : Daemon} {now : Nat}

/-- What handling a message makes of the matchmaker and of the states of players, and which changes
of queues it sets under way. -/
inductive Handling (matchmaker : Matchmaker) (states : PlayerId → Option PlayerState) (now : Nat) :
    Mail → Matchmaker → (PlayerId → Option PlayerState) → List AdmissionEvent → Prop where
  /-- Nothing that is of account here. -/
  | nothing (packet : Packet) (sender : Endpoint) :
      Handling matchmaker states now (.packet packet sender) matchmaker states []
  | greeting (packet : Packet) (sender : Endpoint) {player : PlayerId}
      (hnew : states player = none) :
      Handling matchmaker states now (.packet packet sender) matchmaker
        (Function.update states player (some .idle)) []
  | entry (packet : Packet) (sender : Endpoint) {player : PlayerId} (criteria : Criteria)
      (servers : List PreferredServer) (hsession : (states player).isSome)
      (hout : player ∉ matchmaker.roll) :
      Handling matchmaker states now (.packet packet sender)
        ((matchmaker.addSearcher (.enter player criteria servers now)).registerAll servers
          now)
        (Function.update states player (some .matchmaking)) []
  | preferences (packet : Packet) (sender : Endpoint) (player : PlayerId) (criteria : Criteria)
      (servers : List PreferredServer) :
      Handling matchmaker states now (.packet packet sender)
        (matchmaker.updatePreferences player criteria servers now).1
        states []
  | report (packet : Packet) (sender : Endpoint) {address : Endpoint} {player : PlayerId}
      {result : JoinResult} {next : Matchmaker} {effects : List Effect}
      (hreport : matchmaker.acknowledge address player result now = .ok (next, effects)) :
      Handling matchmaker states now (.packet packet sender) next states
        (effects.filterMap Effect.admission?)
  /-- A player leaves the search. -/
  | stop (packet : Packet) (sender : Endpoint) {player : PlayerId}
      (hsession : (states player).isSome)
      (hsearching : matchmaker.isSearching player) :
      Handling matchmaker states now (.packet packet sender) (matchmaker.removeSearcher player)
        (Function.update states player (some .idle)) []
  /-- A player leaves a queue. -/
  | departure (packet : Packet) (sender : Endpoint) {address : Endpoint} {player : PlayerId}
      {reason : DequeueReason} {next : Matchmaker} {effects : List Effect}
      (hdequeue : matchmaker.dequeue? address player reason now = some (next, effects)) :
      Handling matchmaker states now (.packet packet sender) next states
        (effects.filterMap Effect.admission?)
  | goodbye (packet : Packet) (sender : Endpoint) (player : PlayerId)
      (thoughtAt : Option Endpoint) (reason : DequeueReason) :
      Handling matchmaker states now (.packet packet sender)
        (matchmaker.withdraw player thoughtAt reason now).1
        (Function.update states player none)
        ((matchmaker.withdraw player thoughtAt reason now).2.2.filterMap Effect.admission?)
  | ending (session : Session) (thoughtAt : Option Endpoint) (reason : DequeueReason) :
      Handling matchmaker states now (.sessionTimeout session)
        (matchmaker.withdraw session.id thoughtAt reason now).1 states
        ((matchmaker.withdraw session.id thoughtAt reason now).2.2.filterMap
          Effect.admission?)
  /-- A change of a queue is heard of; who joined may be counted as one of the server's. -/
  | hearing (event : AdmissionEvent) {registry : Registry}
      (hregistry : registry = matchmaker.registry ∨
        registry = matchmaker.registry.trackJoin event.event.player event.server) :
      Handling matchmaker states now (.admission event) { matchmaker with registry }
        (Function.update states event.event.player
          ((states event.event.player).map fun _ => stateAfter event)) []

/-- A daemon after a message has been handled. -/
structure Handles (daemon : Daemon) (now : Nat) (mail : Mail) (next : Daemon) : Prop where
  mailbox_eq : next.mailbox = daemon.mailbox
  /-- No player comes to have two sessions. -/
  nodup_players : daemon.sessions.players.Nodup → next.sessions.players.Nodup
  handling : ∃ events, next.admissions = daemon.admissions ++ events ∧
    Handling daemon.matchmaker daemon.sessions.state? now mail next.matchmaker
      next.sessions.state? events

/-- A packet that makes the daemon do no more than send something, if that. -/
theorem handles_send (daemon : Daemon) (packet : Packet) (sender : Endpoint) (now : Nat)
    (outbound : List Outbound) :
    daemon.Handles now (.packet packet sender) { daemon with outbound } :=
  ⟨rfl, id, [], (List.append_nil _).symm, .nothing packet sender⟩

/-- Saying hello leaves the matchmaker alone and lets at most one session begin. -/
theorem handles_hello (daemon : Daemon) (version : UInt32) (player : PlayerId) (name : String)
    (packet : Packet) (sender : Endpoint) (now : Nat) :
    daemon.Handles now (.packet packet sender) (daemon.hello version player name sender now) := by
  rw [hello]
  split_ifs
  · exact handles_send daemon packet sender now _
  · cases hhello : daemon.sessions.hello player name sender now with
    | none => exact handles_send daemon packet sender now _
    | some sessions =>
        have hnodup (hplayers : daemon.sessions.players.Nodup) : sessions.players.Nodup :=
          Sessions.nodup_players_hello hplayers hhello
        refine ⟨rfl, hnodup, [], (List.append_nil _).symm, ?_⟩
        change Handling _ _ now _ daemon.matchmaker sessions.state? []
        rcases Sessions.state?_hello hhello with hsame | ⟨hnew, hstate⟩
        · rw [hsame]
          exact .nothing packet sender
        · rw [hstate]
          exact .greeting packet sender hnew

/-- A change of the matchmaker whose effects set the given changes of queues under way. -/
theorem handles_become {mail : Mail} {matchmaker : Matchmaker} {effects : List Effect}
    (hhandling : Handling daemon.matchmaker daemon.sessions.state? now mail matchmaker
      daemon.sessions.state?
      (effects.filterMap Effect.admission?)) :
    daemon.Handles now mail (daemon.become matchmaker effects) := by
  refine ⟨mailbox_become _ _ _, ?_, _, admissions_become _ _ _, ?_⟩
  · rw [sessions_become]
    exact id
  · rw [matchmaker_become, sessions_become]
    exact hhandling

/-- A change of the matchmaker that sets nothing under way, and a new state for a player with a
session. -/
theorem handles_setState {player : PlayerId} (hplayer : player ∈ daemon.sessions.players)
    {mail : Mail} {matchmaker : Matchmaker} {state : PlayerState}
    (hhandling : Handling daemon.matchmaker daemon.sessions.state? now mail matchmaker
      (Function.update daemon.sessions.state? player (some state)) []) :
    daemon.Handles now mail ((daemon.become matchmaker []).setState player state) := by
  refine ⟨rfl, Sessions.nodup_players_setState player state, [], (List.append_nil _).symm, ?_⟩
  have hsession := Sessions.state?_isSome_iff.mpr hplayer
  obtain ⟨before, hbefore⟩ := Option.isSome_iff_exists.mp hsession
  change Handling _ _ now _ _ (daemon.sessions.setState player state).state? []
  rwa [Sessions.state?_setState, hbefore]

/-! ## What a request comes to -/

section Requests

variable (daemon : Daemon) (player : PlayerId) (sender : Endpoint) (now : Nat)

theorem handleRequest_enterMatchmaking (criteria : Criteria) (servers : List PreferredServer) :
    daemon.handleRequest player (.enterMatchmaking criteria servers) sender now =
      let (matchmaker, hasEntered, effects) := daemon.matchmaker.enter player criteria servers now
      if hasEntered then (daemon.become matchmaker effects).setState player .matchmaking
      else daemon.become matchmaker effects :=
  rfl

theorem handleRequest_leaveMatchmaking :
    daemon.handleRequest player .leaveMatchmaking sender now =
      match daemon.withdraw player (daemon.stateOf player) .userLeave now with
      | (daemon, some .search) => daemon.setState player .idle
      | (daemon, some (.queue _)) => daemon
      | (daemon, none) => daemon.sendError sender .notSearching :=
  rfl

theorem handleRequest_joinAck (server : Endpoint) (result : JoinResult) :
    daemon.handleRequest player (.joinAck server result) sender now =
      match daemon.matchmaker.acknowledge server player result now with
      | .ok (matchmaker, effects) => daemon.become matchmaker effects
      | .error _ => daemon :=
  rfl

theorem handleRequest_disconnect :
    daemon.handleRequest player .disconnect sender now =
      let withdrawn := (daemon.withdraw player (daemon.stateOf player) .disconnect now).1
      { withdrawn with sessions := withdrawn.sessions.remove player } :=
  rfl

end Requests

/-- Entering starts a search if the player is in no other place, and is refused otherwise. -/
theorem handles_enter {player : PlayerId} (hplayer : player ∈ daemon.sessions.players)
    (criteria : Criteria) (servers : List PreferredServer) (packet : Packet) (sender : Endpoint)
    (now : Nat) :
    daemon.Handles now (.packet packet sender)
      (daemon.handleRequest player (.enterMatchmaking criteria servers) sender now) := by
  rw [handleRequest_enterMatchmaking]
  rcases daemon.matchmaker.enter_cases player criteria servers now with
    ⟨error, hrefused⟩ | ⟨hout, hentered⟩
  · rw [hrefused]
    exact handles_become (.nothing packet sender)
  · rw [hentered]
    have hsession := Sessions.state?_isSome_iff.mpr hplayer
    exact handles_setState hplayer (.entry packet sender criteria servers hsession hout)

theorem handles_leave {player : PlayerId} (hplayer : player ∈ daemon.sessions.players)
    (packet : Packet) (sender : Endpoint) (now : Nat) :
    daemon.Handles now (.packet packet sender)
      (daemon.handleRequest player .leaveMatchmaking sender now) := by
  simp only [handleRequest_leaveMatchmaking, withdraw]
  rcases daemon.matchmaker.withdraw_cases player (daemon.stateOf player).queuedServer? .userLeave
    now with ⟨hsearching, hsearch⟩ | ⟨address, next, effects, hdequeue, hqueue⟩ | hnowhere
  · rw [hsearch]
    have hsession := Sessions.state?_isSome_iff.mpr hplayer
    exact handles_setState hplayer (.stop packet sender hsession hsearching)
  · rw [hqueue]
    exact handles_become (.departure packet sender hdequeue)
  · rw [hnowhere]
    exact handles_send daemon packet sender now _

theorem handles_disconnect (daemon : Daemon) (player : PlayerId) (packet : Packet)
    (sender : Endpoint) (now : Nat) :
    daemon.Handles now (.packet packet sender)
      (daemon.handleRequest player .disconnect sender now) := by
  refine ⟨mailbox_become _ _ _, ?_, _, admissions_become _ _ _, ?_⟩
  · intro hnodup
    simp only [handleRequest_disconnect, withdraw, sessions_become]
    exact hnodup.sublist (List.filter_sublist.map _)
  simp only [handleRequest_disconnect, withdraw, matchmaker_become, sessions_become,
    Sessions.state?_remove]
  exact .goodbye packet sender player _ .disconnect

/-- Each request of a player who has a session is one of the above, or touches nothing. -/
theorem handles_request {player : PlayerId} (hplayer : player ∈ daemon.sessions.players)
    (request packet : Packet) (sender : Endpoint) (now : Nat) :
    daemon.Handles now (.packet packet sender)
      (daemon.handleRequest player request sender now) := by
  cases request with
  | enterMatchmaking criteria servers =>
      exact handles_enter hplayer criteria servers packet sender now
  | updatePreferences criteria servers =>
      apply handles_become
      have hsilent := daemon.matchmaker.updatePreferences_effects player criteria servers now
      have hhandling : Handling daemon.matchmaker daemon.sessions.state? now _ _ _ _ :=
        .preferences packet sender player criteria servers
      rwa [← hsilent] at hhandling
  | leaveMatchmaking => exact handles_leave hplayer packet sender now
  | joinAck server result =>
      rw [handleRequest_joinAck]
      cases hreport : daemon.matchmaker.acknowledge server player result now with
      | error error => exact handles_send daemon packet sender now _
      | ok outcome => exact handles_become (.report packet sender hreport)
  | disconnect => exact handles_disconnect daemon player packet sender now
  | hello | heartbeat | welcome | rejected | event =>
      exact handles_send daemon packet sender now _

/-- Strangers are told that they have no session, whatever they send but a hello. -/
theorem handlePacket_of_unknown {packet : Packet} {sender : Endpoint} {choice : Nat}
    (hpacket : ∀ version player name, packet ≠ .hello version player name)
    (hunknown : daemon.sessions.findByAddress? sender choice = none) :
    daemon.handlePacket packet sender choice now = daemon.sendError sender .unknownSession := by
  rw [handlePacket.eq_def]
  split
  case h_1 => exact absurd rfl (hpacket _ _ _)
  case h_2 => rw [hunknown]

theorem handlePacket_of_known {packet : Packet} {sender : Endpoint} {choice : Nat}
    {player : PlayerId} (hpacket : ∀ version player name, packet ≠ .hello version player name)
    (hknown : daemon.sessions.findByAddress? sender choice = some player) :
    daemon.handlePacket packet sender choice now =
      { daemon with sessions := daemon.sessions.touch player now }.handleRequest player packet
        sender now := by
  rw [handlePacket.eq_def]
  split
  case h_1 => exact absurd rfl (hpacket _ _ _)
  case h_2 => rw [hknown]

/-- A packet from anybody is handled like one of the known requests, or answered with an error. -/
theorem handles_packet (daemon : Daemon) (packet : Packet) (sender : Endpoint)
    (choice now : Nat) :
    daemon.Handles now (.packet packet sender) (daemon.handlePacket packet sender choice now) := by
  by_cases hpacket : ∀ version player name, packet ≠ .hello version player name
  case neg =>
    push Not at hpacket
    obtain ⟨version, player, name, rfl⟩ := hpacket
    exact handles_hello daemon version player name _ sender now
  case pos =>
    cases hplayer : daemon.sessions.findByAddress? sender choice with
    | none =>
        rw [handlePacket_of_unknown hpacket hplayer]
        exact handles_send daemon packet sender now _
    | some player =>
        rw [handlePacket_of_known hpacket hplayer]
        let touched : Daemon := { daemon with sessions := daemon.sessions.touch player now }
        have hknown : player ∈ touched.sessions.players := by
          rw [Sessions.players_touch]
          exact Sessions.mem_players_of_findByAddress? hplayer
        obtain ⟨hmailbox, hnodup, events, hadmissions, hhandling⟩ :=
          handles_request hknown packet packet sender now
        rw [Sessions.players_touch] at hnodup
        rw [Sessions.state?_touch] at hhandling
        exact ⟨hmailbox, hnodup, events, hadmissions, hhandling⟩

theorem handles_admission (daemon : Daemon) (event : AdmissionEvent) (now : Nat) :
    daemon.Handles now (.admission event) (daemon.handleAdmission event) := by
  refine ⟨rfl, Sessions.nodup_players_setState event.event.player _, [],
    (List.append_nil _).symm, ?_⟩
  change Handling _ _ now _ _ (daemon.sessions.setState event.event.player _).state? []
  rw [Sessions.state?_setState]
  have hregistry : ∃ registry, (registry = daemon.matchmaker.registry ∨
      registry = daemon.matchmaker.registry.trackJoin event.event.player event.server) ∧
      (daemon.handleAdmission event).matchmaker = { daemon.matchmaker with registry } := by
    rw [handleAdmission]
    split
    · exact ⟨_, Or.inr rfl, rfl⟩
    · exact ⟨_, Or.inl rfl, rfl⟩
  obtain ⟨registry, hcases, hmatchmaker⟩ := hregistry
  rw [hmatchmaker]
  exact .hearing event hcases

/-- Every message is handled in one of these ways. -/
theorem handles (daemon : Daemon) (mail : Mail) (choice now : Nat) :
    daemon.Handles now mail (daemon.handle mail choice now) := by
  cases mail with
  | packet packet sender => exact handles_packet daemon packet sender choice now
  | sessionTimeout session => exact handles_become (.ending session _ .disconnect)
  | admission event => exact handles_admission daemon event now

end Daemon

end Muster
