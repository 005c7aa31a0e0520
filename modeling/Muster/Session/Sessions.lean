import Muster.Control.Packet

/-!
# Sessions

The players who talk to the daemon, each under a number, with the address to which events are sent
and the place where the player stands.  There are at most as many sessions as the capacity allows.
-/

namespace Muster

/-- Where a player stands. -/
inductive PlayerState where
  | idle
  | matchmaking
  /-- Waits in the queue of the server. -/
  | queued (server : Endpoint)
  /-- Was told to join the server and has not reported yet. -/
  | joining (server : Endpoint)
  | joined (server : Endpoint)
  deriving DecidableEq, Repr

/-- The server in whose queue the player is. -/
def PlayerState.queuedServer? : PlayerState → Option Endpoint
  | .queued server => some server
  | .joining server => some server
  | _ => none

/-- A player who is connected. -/
structure Session where
  id : PlayerId
  name : String
  address : Endpoint
  /-- The time of the last packet, in milliseconds. -/
  lastSeen : Nat
  state : PlayerState
  deriving DecidableEq, Repr

namespace Session

/-- The player has been silent for longer than the timeout. -/
def isTimedOut (session : Session) (timeout now : Nat) : Bool :=
  timeout < now - session.lastSeen

end Session

/-- All sessions, the oldest first. -/
structure Sessions where
  capacity : Nat
  sessions : List Session
  deriving DecidableEq, Repr

namespace Sessions

def empty (capacity : Nat) : Sessions :=
  ⟨capacity, []⟩

def size (store : Sessions) : Nat :=
  store.sessions.length

def isEmpty (store : Sessions) : Bool :=
  store.sessions.isEmpty

def get? (store : Sessions) (id : PlayerId) : Option Session :=
  store.sessions.find? fun session => session.id == id

def modify (store : Sessions) (id : PlayerId) (change : Session → Session) : Sessions :=
  { store with
    sessions := store.sessions.map fun session =>
      if session.id = id then change session else session }

/-- A player says hello.  A known player keeps the state and moves to the new address; a new one is
refused when the capacity is reached. -/
def hello (store : Sessions) (id : PlayerId) (name : String) (address : Endpoint) (now : Nat) :
    Option Sessions :=
  if (store.get? id).isSome then
    some (store.modify id fun session => { session with name, address, lastSeen := now })
  else if store.capacity ≤ store.size then none
  else some { store with sessions := store.sessions ++ [⟨id, name, address, now, .idle⟩] }

/-- The sessions of those who send from an address. -/
def sendingFrom (store : Sessions) (address : Endpoint) : List Session :=
  store.sessions.filter fun session => session.address == address

/-- A player who sends from an address.  Where several do, any of them may be found; `choice` says
which. -/
def findByAddress? (store : Sessions) (address : Endpoint) (choice : Nat) : Option PlayerId :=
  let there := store.sendingFrom address
  there[choice % there.length]?.map (·.id)

def addressOf? (store : Sessions) (id : PlayerId) : Option Endpoint :=
  (store.get? id).map (·.address)

def touch (store : Sessions) (id : PlayerId) (now : Nat) : Sessions :=
  store.modify id fun session => { session with lastSeen := now }

def setState (store : Sessions) (id : PlayerId) (state : PlayerState) : Sessions :=
  store.modify id fun session => { session with state }

def remove (store : Sessions) (id : PlayerId) : Sessions :=
  { store with sessions := store.sessions.filter fun session => session.id != id }

/-- Ends the sessions of players who have been silent for longer than the timeout, and returns
them. -/
def sweep (store : Sessions) (timeout now : Nat) : Sessions × List Session :=
  ({ store with sessions := store.sessions.filter fun session => !session.isTimedOut timeout now },
    store.sessions.filter fun session => session.isTimedOut timeout now)

/-- The packet that carries an event to a player, and where it goes.  Events for players without a
session are dropped. -/
def outbound? (store : Sessions) (player : PlayerId) (event : ClientEvent) :
    Option (Endpoint × Packet) :=
  (store.addressOf? player).map fun address => (address, .event event)

end Sessions

end Muster
