import Muster.Daemon.Basic
import Muster.Proofs.Control.Exactness
import Muster.Proofs.Matchmaker.Handover

/-!
# Runs of the daemon

The tasks of the daemon take its steps in any order and at any times: datagrams arrive from any
addresses, changes of queues are forwarded, messages are taken out of the mailbox one at a time,
silent players are swept away, ticks begin and end, and processors look after queues.  The second
half of a tick works on any snapshot taken before, with views of any servers, and a packet may be
ascribed to any of the players at the address from which it came.

Along with the daemon goes a record of what was under way when each player last started to search.
-/

namespace Muster

namespace Sessions

variable {store next : Sessions} {id player : PlayerId}

def players (store : Sessions) : List PlayerId :=
  store.sessions.map (·.id)

theorem get?_isSome_iff : (store.get? player).isSome ↔ player ∈ store.players := by
  simp [get?, players]

theorem players_modify (store : Sessions) (id : PlayerId) {change : Session → Session}
    (hchange : ∀ session, (change session).id = session.id) :
    (store.modify id change).players = store.players := by
  rw [players, modify, List.map_map, players]
  apply List.map_congr_left
  intro session _
  rw [Function.comp_apply]
  split_ifs
  · exact hchange session
  · rfl

@[simp]
theorem players_touch (store : Sessions) (id : PlayerId) (now : Nat) :
    (store.touch id now).players = store.players :=
  players_modify store id fun _ => rfl

@[simp]
theorem players_setState (store : Sessions) (id : PlayerId) (state : PlayerState) :
    (store.setState id state).players = store.players :=
  players_modify store id fun _ => rfl

/-- The player who sends from an address has a session. -/
theorem mem_players_of_findByAddress? {address : Endpoint} {choice : Nat}
    (hfind : store.findByAddress? address choice = some player) : player ∈ store.players := by
  obtain ⟨session, hsession, rfl⟩ := Option.map_eq_some_iff.mp hfind
  exact List.mem_map_of_mem (List.mem_of_mem_filter (List.mem_of_getElem? hsession))

end Sessions

namespace Daemon

variable {daemon : Daemon} {config : DaemonConfig}

/-! ## What a change of the matchmaker leaves alone -/

@[simp]
theorem sessions_applyEffect (daemon : Daemon) (effect : Effect) :
    (daemon.applyEffect effect).sessions = daemon.sessions := by
  cases effect with
  | admission event => rfl
  | notify player event =>
      rw [applyEffect, notify]
      split <;> rfl

@[simp]
theorem mailbox_applyEffect (daemon : Daemon) (effect : Effect) :
    (daemon.applyEffect effect).mailbox = daemon.mailbox := by
  cases effect with
  | admission event => rfl
  | notify player event =>
      rw [applyEffect, notify]
      split <;> rfl

@[simp]
theorem matchmaker_applyEffect (daemon : Daemon) (effect : Effect) :
    (daemon.applyEffect effect).matchmaker = daemon.matchmaker := by
  cases effect with
  | admission event => rfl
  | notify player event =>
      rw [applyEffect, notify]
      split <;> rfl

theorem admissions_applyEffect (daemon : Daemon) (effect : Effect) :
    (daemon.applyEffect effect).admissions = daemon.admissions ++ effect.admission?.toList := by
  cases effect with
  | admission event => rfl
  | notify player event =>
      rw [applyEffect, notify, Effect.admission?, Option.toList_none, List.append_nil]
      split <;> rfl

/-- What is kept by every effect is kept by all of them. -/
theorem keeps_become {α : Type} {part : Daemon → α}
    (hpart : ∀ daemon effect, part (applyEffect daemon effect) = part daemon)
    (daemon : Daemon) (matchmaker : Matchmaker) (effects : List Effect) :
    part (daemon.become matchmaker effects) = part { daemon with matchmaker } :=
  List.foldlRecOn (motive := fun other => part other = part { daemon with matchmaker }) effects _
    rfl fun other hother effect _ => (hpart other effect).trans hother

@[simp]
theorem sessions_become (daemon : Daemon) (matchmaker : Matchmaker) (effects : List Effect) :
    (daemon.become matchmaker effects).sessions = daemon.sessions :=
  keeps_become sessions_applyEffect daemon matchmaker effects

@[simp]
theorem mailbox_become (daemon : Daemon) (matchmaker : Matchmaker) (effects : List Effect) :
    (daemon.become matchmaker effects).mailbox = daemon.mailbox :=
  keeps_become mailbox_applyEffect daemon matchmaker effects

@[simp]
theorem matchmaker_become (daemon : Daemon) (matchmaker : Matchmaker) (effects : List Effect) :
    (daemon.become matchmaker effects).matchmaker = matchmaker :=
  keeps_become matchmaker_applyEffect daemon matchmaker effects

@[simp]
theorem admissions_become (daemon : Daemon) (matchmaker : Matchmaker) (effects : List Effect) :
    (daemon.become matchmaker effects).admissions =
      daemon.admissions ++ effects.filterMap Effect.admission? := by
  rw [become]
  generalize hstart : ({ daemon with matchmaker } : Daemon) = start
  have hadmissions : daemon.admissions = start.admissions := by rw [← hstart]
  rw [hadmissions]
  clear hstart hadmissions
  induction effects generalizing start with
  | nil => rw [List.foldl_nil, List.filterMap_nil, List.append_nil]
  | cons effect rest ih =>
      rw [List.foldl_cons, ih, admissions_applyEffect, List.append_assoc]
      cases hadmission : effect.admission? with
      | none => rw [List.filterMap_cons_none hadmission]; rfl
      | some event => rw [List.filterMap_cons_some hadmission]; rfl

/-! ## Arrivals -/

/-- A packet that fits in a datagram arrives as it was sent. -/
theorem receive_packet (daemon : Daemon) {packet : Packet} (hpacket : packet.IsSendable)
    (hfits : (Encoding.packet packet).length ≤ maxPacketSize) (sender : Endpoint) :
    daemon.receive (Encoding.packet packet) sender = daemon.post (.packet packet sender) := by
  have hread : Packet.ofBytes? (Encoding.packet packet) = .ok packet :=
    Packet.ofBytes?_eq_ok_iff.mpr (Decoding.isExact_packet.isPrefix_iff.mpr
      ⟨hpacket, List.prefix_refl _⟩)
  rw [receive, List.take_of_length_le hfits, hread]

/-! ## Runs -/

/-- All messages that have not been taken out of the mailbox, those that have not come into it
among them. -/
def underWay (daemon : Daemon) : List Mail :=
  daemon.mailbox ++ daemon.admissions.map .admission

/-- A daemon in the course of a run. -/
structure World where
  daemon : Daemon
  /-- The pool as ticks found it when they began. -/
  snapshots : List (List Searcher)
  /-- What was under way when a player last started to search. -/
  amid : PlayerId → List Mail

namespace World

variable {world other : World}

def start (config : DaemonConfig) : World :=
  ⟨.start config, [], fun _ => []⟩

/-- The world after a step of the daemon.  Who searches now and did not before has just started. -/
def after (world : World) (daemon : Daemon) : World where
  daemon
  snapshots := world.snapshots
  amid player :=
    if daemon.matchmaker.isSearching player && !world.daemon.matchmaker.isSearching player then
      daemon.underWay
    else world.amid player

def afterMatchmaker (world : World) (matchmaker : Matchmaker) : World :=
  world.after { world.daemon with matchmaker }

/-- One step of a run, at any time and with any arguments. -/
inductive Step : World → World → Prop where
  | receive {world : World} (datagram : List UInt8) (sender : Endpoint) :
      Step world (world.after (world.daemon.receive datagram sender))
  | forward {world : World} : Step world (world.after world.daemon.forward)
  | handleNext {world : World} (choice now : Nat) :
      Step world (world.after (world.daemon.handleNext choice now))
  | sweep {world : World} (now : Nat) : Step world (world.after (world.daemon.sweep now))
  | beginTick {world : World} (now : Nat) :
      Step world { world.afterMatchmaker { world.daemon.matchmaker with
          registry := world.daemon.matchmaker.registry.getOrCreateAll
            (Matchmaker.namedServers world.daemon.matchmaker.pool) now } with
        snapshots := world.daemon.matchmaker.pool :: world.snapshots }
  | finishTick {world : World} {snapshot : List Searcher} (hsnapshot : snapshot ∈ world.snapshots)
      (views : List ServerView) (now : Nat) :
      Step world (world.after (world.daemon.finishTick snapshot views now))
  | process {world : World} (processor : Processor) (now : Nat) :
      Step world (world.after (world.daemon.become
        (world.daemon.matchmaker.runProcessor processor now).1
        (world.daemon.matchmaker.runProcessor processor now).2))
  | pruneIdle {world : World} (now : Nat) :
      Step world (world.afterMatchmaker (world.daemon.matchmaker.pruneIdle now))
  | register {world : World} (mention : Endpoint) (nameHint : String) (now : Nat) :
      Step world (world.afterMatchmaker (world.daemon.matchmaker.register mention nameHint now))
  | store {world : World} (kind : ProbeKind) (address : Endpoint) (report : kind.Report)
      (now : Nat) :
      Step world (world.afterMatchmaker { world.daemon.matchmaker with
        registry := world.daemon.matchmaker.registry.store kind address report now })
  | shutdown {world : World} :
      Step world (world.afterMatchmaker world.daemon.matchmaker.shutdown)
  | takeOutbound {world : World} :
      Step world (world.after { world.daemon with outbound := [] })

inductive Reachable (config : DaemonConfig) : World → Prop where
  | start : Reachable config (start config)
  | step {world other : World} (hreach : Reachable config world) (hstep : Step world other) :
      Reachable config other

theorem Reachable.arrival {config : DaemonConfig} (hreach : Reachable config world)
    (packet : Packet) (sender : Endpoint) (hpacket : packet.IsSendable)
    (hfits : (Encoding.packet packet).length ≤ maxPacketSize) :
    Reachable config (world.after (world.daemon.post (.packet packet sender))) := by
  rw [← receive_packet world.daemon hpacket hfits]
  exact hreach.step (.receive _ sender)

end World

end Daemon

end Muster
