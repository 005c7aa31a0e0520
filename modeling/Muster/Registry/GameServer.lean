import Muster.Admission.Queue
import Muster.Query.Report
import Muster.Registry.PlayerSet

/-!
# Known game servers

What is known about a game server: its latest reports with the times at which they were stored, the
players on it, the queue of those who are to join it, and the slots that are kept for privileged
players.  A report is replaced as a whole.
-/

namespace Muster

/-- A report and the time at which it was stored. -/
structure Stamped (α : Type) where
  value : α
  storedAt : Nat
  deriving DecidableEq, Repr

/-- The report is at most so old. -/
def Stamped.isFresh {α : Type} (stamped : Stamped α) (maxAge now : Nat) : Bool :=
  now - stamped.storedAt ≤ maxAge

/-- A game server as the registry knows it. -/
structure GameServer where
  /-- Servers that were registered at different times are told apart, even at one address. -/
  serial : Nat
  address : Endpoint
  /-- The name to show as long as the server has not reported one. -/
  nameHint : String
  info : Option (Stamped ServerInfo)
  status : Option (Stamped Scoreboard)
  /-- Players who joined the server. -/
  knownPlayers : PlayerSet
  queue : Queue
  privilegedSlots : Count
  deriving DecidableEq, Repr

namespace GameServer

/-- A server of which nothing is known but its address. -/
def register (serial : Nat) (address : Endpoint) (nameHint : String) (config : QueueConfig)
    (now : Nat) : GameServer :=
  ⟨serial, address, nameHint, none, none, .empty, .empty config now, 0⟩

/-- The host name of the latest info, or else the name with which the server was registered. -/
def displayName (server : GameServer) : String :=
  match server.info with
  | some info => if info.value.hostname = "" then server.nameHint else info.value.hostname
  | none => server.nameHint

def latest? (server : GameServer) : (kind : ProbeKind) → Option (Stamped kind.Report)
  | .info => server.info
  | .status => server.status

def store (server : GameServer) (now : Nat) : (kind : ProbeKind) → kind.Report → GameServer
  | .info, report => { server with info := some ⟨report, now⟩ }
  | .status, report => { server with status := some ⟨report, now⟩ }

/-- The latest report, if it is at most so old; none at all is recent enough without an age. -/
def cached? (server : GameServer) (kind : ProbeKind) (maxAge : Option Nat) (now : Nat) :
    Option kind.Report :=
  maxAge.bind fun maxAge =>
    ((server.latest? kind).filter fun stamped => stamped.isFresh maxAge now).map (·.value)

/-! ## Slots -/

/-- Players who are joining. -/
def joiningCount (server : GameServer) : Count :=
  server.queue.joiningCount.toUInt32

/-- Players in the queue, whether they wait or join. -/
def queuedCount (server : GameServer) : Count :=
  server.queue.length.toUInt32

/-- Slots that are not open to those in search of a match; none where they are more than a count
holds. -/
def reservedSlots? (server : GameServer) : Option Count :=
  Count.sum? server.queuedCount server.privilegedSlots

/-- More slots are reserved than a count holds.  This takes privileged slots that were set while the
capacity of the server was unknown. -/
def isOverbooked (server : GameServer) : Bool :=
  server.reservedSlots?.isNone

/-- Keeps slots for privileged players, no more than the joining players leave of the capacity. -/
def reserve (server : GameServer) (slots : Count) : GameServer :=
  { server with
    privilegedSlots :=
      match server.info with
      | some info => min slots (Count.minus info.value.maxClients server.joiningCount)
      | none => slots }

/-- Players who may join at once; unknown without an info. -/
def joinableSlots? (server : GameServer) : Option Count :=
  server.info.map fun info => Count.minus info.value.freeSlots server.privilegedSlots

/-- Slots that are open to those in search of a match: the free ones without those that are
reserved, and no slots where nothing is known of the server.  An overbooked server has no answer. -/
def availableSlots? (server : GameServer) : Option Count :=
  server.reservedSlots?.map fun reserved =>
    match server.info with
    | some info => Count.minus info.value.freeSlots reserved
    | none => 0

/-! ## Players -/

def hasPlayer (server : GameServer) (player : PlayerId) : Bool :=
  player ∈ server.knownPlayers

/-- Adds a player, whatever the capacity. -/
def addPlayer (server : GameServer) (player : PlayerId) : GameServer :=
  { server with knownPlayers := server.knownPlayers.insert player }

def removePlayer (server : GameServer) (player : PlayerId) : GameServer :=
  { server with knownPlayers := server.knownPlayers.erase player }

/-- There are as many known players as the latest info allows. -/
def isFull (server : GameServer) : Bool :=
  server.info.any fun info => info.value.maxClients.toNat ≤ server.knownPlayers.size

/-- Adds a player, unless the server is full.  A player who is on it already stays. -/
def seat? (server : GameServer) (player : PlayerId) : Option GameServer :=
  if server.hasPlayer player then some server
  else if server.isFull then none
  else some (server.addPlayer player)

/-- Moves a player from one server to another, or to a server from nowhere.  The player leaves the
one first, and returns to it where the other one refuses.  Returns both servers, and whether the
player is on the other one. -/
def move (player : PlayerId) (source : Option GameServer) (destination : GameServer) :
    Option GameServer × GameServer × Bool :=
  match source with
  | none =>
    match destination.seat? player with
    | some seated => (none, seated, true)
    | none => (none, destination, false)
  | some source =>
    if source.address = destination.address then
      (some source, destination, destination.hasPlayer player)
    else
      let left := source.removePlayer player
      match destination.seat? player with
      | some seated => (some left, seated, true)
      | none =>
        (some (if source.hasPlayer player then left.addPlayer player else left), destination, false)

end GameServer

end Muster
