import Muster.Client.AckPolicy
import Muster.Control.Decoding
import Muster.Net.EndpointText
import Muster.Query.Network

/-!
# A player's side of a session

A player greets the matchmaker and waits to be accepted.  A player who goes on to search asks for a
match, sends heartbeats, answers each instruction to join, and is done when the stay in a queue
ends.  Packets that do not matter at the moment are ignored.
-/

namespace Muster

/-- How a search ended. -/
inductive ClientOutcome where
  | joined (server : Endpoint)
  | dequeued (reason : DequeueReason)
  | interrupted
  deriving DecidableEq, Repr

/-- Why a player cannot go on. -/
inductive ClientError where
  /-- The text does not write the address of a matchmaker. -/
  | invalidAddress
  | sendFailed (fault : SendFault)
  /-- Something that is no packet came in place of an answer. -/
  | malformed (error : DecodeError)
  | noAnswer
  | rejected (reason : String)
  deriving DecidableEq, Repr

def ClientError.message : ClientError → String
  | invalidAddress => "invalid socket address syntax"
  | sendFailed fault => fault.message
  | malformed error => error.message
  | noAnswer => "matchmaker did not answer"
  | rejected reason => "rejected by matchmaker: " ++ reason

/-- What a player wants from a connection. -/
inductive ClientGoal where
  | connect
  | search (criteria : Criteria) (servers : List PreferredServer)
  deriving DecidableEq, Repr

/-- What a player is doing. -/
inductive ClientPhase where
  | idle
  /-- Waits for an answer to the greeting. -/
  | connecting (deadline : Nat) (goal : ClientGoal)
  /-- Has connected and wants nothing more. -/
  | connected
  | searching (nextHeartbeat : Nat)
  | ended (outcome : ClientOutcome)
  | failed (error : ClientError)
  deriving DecidableEq, Repr

/-- A player's side of a session. -/
structure Client where
  matchmaker : Endpoint
  player : PlayerId
  name : String
  ack : AckPolicy
  isConnected : Bool
  /-- The round trip of the last heartbeat that was answered, in milliseconds. -/
  ping : Nat
  phase : ClientPhase
  /-- Packets sent so far. -/
  sent : List Packet
  deriving DecidableEq, Repr

namespace Client

/-- The time between two heartbeats, in milliseconds. -/
def heartbeatInterval : Nat := 2000

/-- The time for an answer to the greeting of a player who searches, in milliseconds. -/
def searchWait : Nat := 5000

/-- A player of the matchmaker at an address. -/
def create (matchmaker : Endpoint) (player : PlayerId) (name : String) (ack : AckPolicy) : Client :=
  ⟨matchmaker, player, name, ack, false, 0, .idle, []⟩

/-- A player of the matchmaker whose address a text writes. -/
def ofText (matchmaker : String) (player : PlayerId) (name : String) (ack : AckPolicy) :
    Except ClientError Client :=
  match Endpoint.ofText? matchmaker with
  | some endpoint => .ok (create endpoint player name ack)
  | none => .error .invalidAddress

def send (client : Client) (network : Network) (packet : Packet) : Except ClientError Client :=
  match network.sendFault? client.matchmaker with
  | some fault => .error (.sendFailed fault)
  | none => .ok { client with sent := client.sent ++ [packet] }

/-- Sends a packet whose loss does not matter. -/
def trySend (client : Client) (network : Network) (packet : Packet) : Client :=
  match client.send network packet with
  | .ok client => client
  | .error _ => client

/-- Goes on with what a step leads to, or fails. -/
def orFail (client : Client) : Except ClientError Client → Client
  | .ok next => next
  | .error error => { client with phase := .failed error }

/-- Asks for a match and sends the first heartbeat. -/
def enter (client : Client) (network : Network) (criteria : Criteria)
    (servers : List PreferredServer) : Except ClientError Client := do
  let client ← client.send network (.enterMatchmaking criteria servers)
  let client := client.trySend network (.heartbeat network.wallClock.toUInt64)
  return { client with phase := .searching (network.now + heartbeatInterval) }

def pursue (client : Client) (network : Network) : ClientGoal → Except ClientError Client
  | .connect => .ok { client with phase := .connected }
  | .search criteria servers => client.enter network criteria servers

def greet (client : Client) (network : Network) (wait : Nat) (goal : ClientGoal) :
    Except ClientError Client := do
  let client ← client.send network (.hello protocolVersion client.player client.name)
  return { client with phase := .connecting (network.now + wait) goal }

def connect (client : Client) (network : Network) (wait : Nat) : Client :=
  client.orFail (client.greet network wait .connect)

/-- Searches for a match, over a new connection if there is none. -/
def search (client : Client) (network : Network) (criteria : Criteria)
    (servers : List PreferredServer) : Client :=
  client.orFail
    (if client.isConnected then client.enter network criteria servers
    else client.greet network searchWait (.search criteria servers))

/-- Takes leave of the matchmaker, where there is a connection. -/
def disconnect (client : Client) (network : Network) : Except ClientError Client := do
  if client.isConnected then
    let client ← client.send network .disconnect
    return { client with isConnected := false }
  else return client

def finish (client : Client) (network : Network) (outcome : ClientOutcome) : Client :=
  client.orFail
    ((client.disconnect network).map fun client => { client with phase := .ended outcome })

def hearEvent (client : Client) (network : Network) : ClientEvent → Client
  | .joinServer server _ _ =>
    match client.ack.result? with
    | some result => client.trySend network (.joinAck server result)
    | none => client
  | .dequeued server .joined => client.finish network (.joined server)
  | .dequeued _ reason => client.finish network (.dequeued reason)
  | _ => client

def hear (client : Client) (network : Network) : Packet → Client
  | .event event => client.hearEvent network event
  | .heartbeat timestamp => { client with ping := network.wallClock - timestamp.toNat }
  | .rejected _ => { client with isConnected := false }.finish network .interrupted
  | _ => client

/-- Hears a packet while waiting for an answer to the greeting. -/
def hearAnswer (client : Client) (network : Network) (goal : ClientGoal) : Packet → Client
  | .welcome _ =>
    let client := { client with isConnected := true }
    client.orFail (client.pursue network goal)
  | .rejected reason => { client with phase := .failed (.rejected reason) }
  | _ => client

/-- A datagram of the matchmaker arrives.  One that is too long is cut. -/
def receive (client : Client) (network : Network) (datagram : List UInt8) : Client :=
  match client.phase, Packet.ofBytes? (datagram.take maxPacketSize) with
  | .connecting _ goal, .ok packet => client.hearAnswer network goal packet
  | .connecting _ _, .error error => { client with phase := .failed (.malformed error) }
  | .searching _, .ok packet => client.hear network packet
  | _, _ => client

def sendHeartbeats (client : Client) (network : Network) : Nat → Client
  | 0 => client
  | count + 1 =>
    (client.trySend network (.heartbeat network.wallClock.toUInt64)).sendHeartbeats network count

/-- The network has come to another time: the wait for an answer ends, or heartbeats are due, the
ones that were missed among them. -/
def wake (client : Client) (network : Network) : Client :=
  match client.phase with
  | .connecting deadline _ =>
    if deadline ≤ network.now then { client with phase := .failed .noAnswer } else client
  | .searching nextHeartbeat =>
    if network.now < nextHeartbeat then client
    else
      let count := (network.now - nextHeartbeat) / heartbeatInterval + 1
      { client.sendHeartbeats network count with
        phase := .searching (nextHeartbeat + count * heartbeatInterval) }
  | _ => client

/-- Asks for a match on no server, leaves the search and takes leave. -/
def tryOut (client : Client) (network : Network) (criteria : Criteria) :
    Except ClientError Client := do
  let client ← client.send network (.enterMatchmaking criteria [])
  let client ← client.send network .leaveMatchmaking
  client.disconnect network

end Client

end Muster
