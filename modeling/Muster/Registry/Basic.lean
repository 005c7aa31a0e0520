import Muster.Registry.GameServer

/-!
# The registry

All known game servers, one for each address.  A server is registered when it is first mentioned,
by its address and port alone: where a mention names a zone, the zone is dropped, and no server is
known by an endpoint with a zone.  Servers whose queues are idle are forgotten where that is
configured.
-/

namespace Muster

/-- The known servers, in the order of registration. -/
structure Registry where
  servers : List GameServer
  queueConfig : QueueConfig
  nextSerial : Nat
  deriving DecidableEq, Repr

namespace Registry

def empty (queueConfig : QueueConfig) : Registry :=
  ⟨[], queueConfig, 0⟩

def size (registry : Registry) : Nat :=
  registry.servers.length

def get? (registry : Registry) (address : Endpoint) : Option GameServer :=
  registry.servers.find? fun server => server.address == address

def modify (registry : Registry) (address : Endpoint) (change : GameServer → GameServer) :
    Registry :=
  { registry with
    servers := registry.servers.map fun server =>
      if server.address = address then change server else server }

/-- Registers a server, unless its address is known. -/
def getOrCreate (registry : Registry) (mention : Endpoint) (nameHint : String) (now : Nat) :
    Registry :=
  let address := mention.withoutZone
  if (registry.get? address).isSome then registry
  else
    { registry with
      servers := registry.servers ++
        [.register registry.nextSerial address nameHint registry.queueConfig now]
      nextSerial := registry.nextSerial + 1 }

def getOrCreateAll (registry : Registry) (mentions : List Endpoint) (now : Nat) : Registry :=
  mentions.foldl (fun registry mention => registry.getOrCreate mention "" now) registry

/-- The server in whose queue the player is. -/
def queueOf? (registry : Registry) (player : PlayerId) : Option GameServer :=
  registry.servers.find? fun server => server.queue.contains player

def isQueued (registry : Registry) (player : PlayerId) : Bool :=
  (registry.queueOf? player).isSome

/-- Some server is overbooked. -/
def isOverbooked (registry : Registry) : Bool :=
  registry.servers.any (·.isOverbooked)

/-- Forgets the servers whose queues are idle, where that is configured. -/
def pruneIdle (registry : Registry) (now : Nat) : Registry :=
  if registry.queueConfig.pruneIdleServers then
    { registry with servers := registry.servers.filter fun server => !server.queue.isIdle now }
  else registry

/-! ## Players on servers -/

/-- The server on which the player is, other than the one at the given address. -/
def otherServerOf? (registry : Registry) (player : PlayerId) (address : Endpoint) :
    Option Endpoint :=
  (registry.servers.find? fun server =>
    server.address != address && server.hasPlayer player).map (·.address)

/-- Keeps what has become of a server. -/
def put (registry : Registry) (server : GameServer) : Registry :=
  registry.modify server.address fun _ => server

/-- Moves a player from one server to another, or to a server from nowhere.  Returns whether the
player is on the destination. -/
def movePlayer (registry : Registry) (player : PlayerId) (source : Option Endpoint)
    (destination : Endpoint) : Registry × Bool :=
  match registry.get? destination with
  | none => (registry, false)
  | some server =>
    let (left, seated, isSeated) := GameServer.move player (source.bind registry.get?) server
    ((left.elim registry registry.put).put seated, isSeated)

/-- A player joined a server and so left the one before. -/
def trackJoin (registry : Registry) (player : PlayerId) (address : Endpoint) : Registry :=
  (registry.movePlayer player (registry.otherServerOf? player address) address).1

end Registry

end Muster
