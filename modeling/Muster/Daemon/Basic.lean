import Muster.Control.Decoding
import Muster.Daemon.Config
import Muster.Lookup.ServerList
import Muster.Matchmaker.Processor
import Muster.Matchmaker.Tick
import Muster.Session.Sessions

/-!
# The daemon

Players talk to the daemon in packets.  Packets that arrive, sessions that time out and changes of
queues come into one mailbox, from which the daemon takes one message after the other.  Changes of
queues travel there through a channel of their own, in order.  The functions below are the single
steps of which a run of the daemon consists.
-/

namespace Muster

/-- A message in the mailbox. -/
inductive Mail where
  | packet (packet : Packet) (sender : Endpoint)
  /-- The session has been ended because its player was silent. -/
  | sessionTimeout (session : Session)
  | admission (event : AdmissionEvent)
  deriving DecidableEq, Repr

/-- A packet to be sent. -/
structure Outbound where
  target : Endpoint
  packet : Packet
  deriving DecidableEq, Repr

/-- The state of the daemon. -/
structure Daemon where
  config : DaemonConfig
  sessions : Sessions
  matchmaker : Matchmaker
  mailbox : List Mail
  /-- Changes of queues on their way into the mailbox. -/
  admissions : List AdmissionEvent
  /-- Packets on their way out. -/
  outbound : List Outbound
  deriving DecidableEq, Repr

namespace Daemon

/-- A daemon that knows its listed servers and nobody else. -/
def start (config : DaemonConfig) : Daemon :=
  let resolver := Resolver.empty config.resolver
  let list := ServerList.ofTexts config.servers ServerList.defaultLifetime
    config.query.resolveConcurrency
  let (_, servers) := list.get
    (fun server => (resolver.resolve Resolver.ownNames server.host server.port 0).2.1) .immediate 0
  let matchmaker := Matchmaker.empty config.queue
  { config
    sessions := .empty config.maxSessions
    matchmaker :=
      { matchmaker with registry := matchmaker.registry.getOrCreateAll servers 0 }
    mailbox := []
    admissions := []
    outbound := [] }

/-! ## Sending and posting -/

def send (daemon : Daemon) (target : Endpoint) (packet : Packet) : Daemon :=
  { daemon with outbound := daemon.outbound ++ [⟨target, packet⟩] }

/-- Tells the one at an address what is wrong. -/
def sendError (daemon : Daemon) (target : Endpoint) (error : MatchmakingError) : Daemon :=
  daemon.send target (.event (.failure error))

/-- Tells a player something; a player without a session does not hear of it. -/
def notify (daemon : Daemon) (player : PlayerId) (event : ClientEvent) : Daemon :=
  match daemon.sessions.outbound? player event with
  | some (target, packet) => daemon.send target packet
  | none => daemon

/-- Lets one effect of the matchmaker take place. -/
def applyEffect (daemon : Daemon) : Effect → Daemon
  | .notify player event => daemon.notify player event
  | .admission event => { daemon with admissions := daemon.admissions ++ [event] }

/-- Goes on with a changed matchmaker and lets the effects of the change take place. -/
def become (daemon : Daemon) (matchmaker : Matchmaker) (effects : List Effect) : Daemon :=
  effects.foldl applyEffect { daemon with matchmaker }

def post (daemon : Daemon) (mail : Mail) : Daemon :=
  { daemon with mailbox := daemon.mailbox ++ [mail] }

/-- A datagram arrives.  One that is too long is cut, and one that holds no packet is dropped. -/
def receive (daemon : Daemon) (datagram : List UInt8) (sender : Endpoint) : Daemon :=
  match Packet.ofBytes? (datagram.take maxPacketSize) with
  | .ok packet => daemon.post (.packet packet sender)
  | .error _ => daemon

/-- The first change of a queue comes into the mailbox. -/
def forward (daemon : Daemon) : Daemon :=
  match daemon.admissions with
  | [] => daemon
  | event :: rest => { daemon with admissions := rest }.post (.admission event)

/-! ## Packets -/

/-- The reason for which a player with another version is refused. -/
def versionMismatch : String := "Protocol version mismatch"

/-- The reason for which a player is refused when there are too many. -/
def serverFull : String := "Server full"

/-- A player says hello. -/
def hello (daemon : Daemon) (version : UInt32) (player : PlayerId) (name : String)
    (sender : Endpoint) (now : Nat) : Daemon :=
  if version ≠ protocolVersion then daemon.send sender (.rejected versionMismatch)
  else
    match daemon.sessions.hello player name sender now with
    | some sessions => { daemon with sessions }.send sender (.welcome player)
    | none => daemon.send sender (.rejected serverFull)

def stateOf (daemon : Daemon) (player : PlayerId) : PlayerState :=
  match daemon.sessions.get? player with
  | some session => session.state
  | none => .idle

def setState (daemon : Daemon) (player : PlayerId) (state : PlayerState) : Daemon :=
  { daemon with sessions := daemon.sessions.setState player state }

/-- Takes a player who stood in the given state out of the search or a queue. -/
def withdraw (daemon : Daemon) (player : PlayerId) (state : PlayerState) (reason : DequeueReason)
    (now : Nat) : Daemon × Option Withdrawal :=
  let (matchmaker, withdrawal, effects) :=
    daemon.matchmaker.withdraw player state.queuedServer? reason now
  (daemon.become matchmaker effects, withdrawal)

/-- A player with a session sends a packet.  A player who leaves a queue stands elsewhere only when
the change of the queue is heard of. -/
def handleRequest (daemon : Daemon) (player : PlayerId) (packet : Packet) (sender : Endpoint)
    (now : Nat) : Daemon :=
  match packet with
  | .enterMatchmaking criteria servers =>
    let (matchmaker, hasEntered, effects) :=
      daemon.matchmaker.enter player criteria servers now
    let daemon := daemon.become matchmaker effects
    if hasEntered then daemon.setState player .matchmaking else daemon
  | .updatePreferences criteria servers =>
    let (matchmaker, _, effects) :=
      daemon.matchmaker.updatePreferences player criteria servers now
    daemon.become matchmaker effects
  | .leaveMatchmaking =>
    match daemon.withdraw player (daemon.stateOf player) .userLeave now with
    | (daemon, some .search) => daemon.setState player .idle
    | (daemon, some (.queue _)) => daemon
    | (daemon, none) => daemon.sendError sender .notSearching
  | .joinAck server result =>
    match daemon.matchmaker.acknowledge server player result now with
    | .ok (matchmaker, effects) => daemon.become matchmaker effects
    | .error _ => daemon
  | .heartbeat timestamp => daemon.send sender (.heartbeat timestamp)
  | .disconnect =>
    let (daemon, _) := daemon.withdraw player (daemon.stateOf player) .disconnect now
    { daemon with sessions := daemon.sessions.remove player }
  | _ => daemon

/-- Takes a packet out of the mailbox.  Only a greeting is taken from those without a session.
`choice` says to whom of several players at one address the packet is ascribed. -/
def handlePacket (daemon : Daemon) (packet : Packet) (sender : Endpoint) (choice now : Nat) :
    Daemon :=
  match packet with
  | .hello version player name => daemon.hello version player name sender now
  | packet =>
    match daemon.sessions.findByAddress? sender choice with
    | none => daemon.sendError sender .unknownSession
    | some player =>
      { daemon with sessions := daemon.sessions.touch player now }.handleRequest player packet
        sender now

/-! ## Other messages -/

/-- Where a change of a queue leaves its player. -/
def stateAfter (event : AdmissionEvent) : PlayerState :=
  match event.event with
  | .position .. => .queued event.server
  | .join .. => .joining event.server
  | .dequeued _ .joined => .joined event.server
  | .dequeued .. => .idle

/-- A change of a queue is heard of.  A player who joined is from then on one of the server's. -/
def handleAdmission (daemon : Daemon) (event : AdmissionEvent) : Daemon :=
  let player := event.event.player
  let matchmaker := daemon.matchmaker
  let matchmaker :=
    match event.event with
    | .dequeued _ .joined =>
      { matchmaker with registry := matchmaker.registry.trackJoin player event.server }
    | _ => matchmaker
  { daemon with matchmaker }.setState player (stateAfter event)

/-- Takes one message out of the mailbox. -/
def handle (daemon : Daemon) (mail : Mail) (choice now : Nat) : Daemon :=
  match mail with
  | .packet packet sender => daemon.handlePacket packet sender choice now
  | .sessionTimeout session =>
    (daemon.withdraw session.id session.state .disconnect now).1
  | .admission event => daemon.handleAdmission event

/-- Takes the first message out of the mailbox. -/
def handleNext (daemon : Daemon) (choice now : Nat) : Daemon :=
  match daemon.mailbox with
  | [] => daemon
  | mail :: rest => { daemon with mailbox := rest }.handle mail choice now

/-! ## Background work -/

/-- Ends the sessions of silent players and posts that they have ended; forgets idle servers. -/
def sweep (daemon : Daemon) (now : Nat) : Daemon :=
  let (sessions, ended) := daemon.sessions.sweep daemon.config.sessionTimeout now
  { daemon with
    sessions
    matchmaker := daemon.matchmaker.pruneIdle now
    mailbox := daemon.mailbox ++ ended.map .sessionTimeout }

/-- The passes of all processors that are due. -/
def runProcessors (daemon : Daemon) (now : Nat) : Daemon :=
  let (matchmaker, effects) := daemon.matchmaker.runDue now
  daemon.become matchmaker effects

def finishTick (daemon : Daemon) (snapshot : List Searcher) (views : List ServerView)
    (now : Nat) : Daemon :=
  let (matchmaker, _, effects) := daemon.matchmaker.finishTick snapshot views now
  daemon.become matchmaker effects

end Daemon

end Muster
