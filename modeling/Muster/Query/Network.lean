import Muster.Probe.Snapshot

/-!
# A network of game servers

Game servers that answer query datagrams, and the clock that all parties share.  Datagrams are
never lost or reordered and take no time; a server may take time before it answers.  Answers come
one after the other: the time that one takes passes after the one before it has come.  From a socket
of the short family nothing can be sent to an address of the long one.  Nothing can be sent to port
zero, and nothing at all where the network is down.
-/

namespace Muster

/-- How a game server answers. -/
inductive HostBehavior where
  /-- Reports a snapshot, unless it is silent. -/
  | responder (snapshot : Snapshot) (isSilent : Bool)
  /-- Sends fixed datagrams, where it has any. -/
  | fixed (info status : Option (List UInt8))

/-- A game server. -/
structure GameHost where
  address : Endpoint
  behavior : HostBehavior
  /-- The time that an answer takes once those before it have come, in milliseconds. -/
  delay : Nat
  /-- Datagrams seen so far; a responder counts those that ask it something. -/
  probes : Nat

/-- An answer on its way. -/
structure Reply where
  sender : Endpoint
  datagram : List UInt8
  delay : Nat

/-- The family of addresses for which a socket was opened. -/
inductive SocketFamily where
  | short
  /-- Such a socket also sends to addresses of the short family. -/
  | long
  deriving DecidableEq, Repr

/-- The game servers, the clock and the state of the network. -/
structure Network where
  hosts : List GameHost
  /-- The present time, in milliseconds. -/
  now : Nat
  /-- The family of the socket through which datagrams are sent and heard. -/
  socket : SocketFamily
  /-- Datagrams can be sent. -/
  isUp : Bool

/-- Why a datagram cannot be sent. -/
inductive SendFault where
  /-- The address is of the long family, and the socket is not. -/
  | unsupportedFamily
  | invalidPort
  /-- The network is down. -/
  | unreachable
  deriving DecidableEq, Repr

def SendFault.message : SendFault → String
  | unsupportedFamily => "Address family not supported by protocol (os error 97)"
  | invalidPort => "Invalid argument (os error 22)"
  | unreachable => "Network is unreachable (os error 101)"

namespace HostBehavior

/-- One byte string stands somewhere in another. -/
def occursIn (pattern : List UInt8) : List UInt8 → Bool
  | [] => pattern.isEmpty
  | byte :: rest => pattern.isPrefixOf (byte :: rest) || occursIn pattern rest

def asked? (datagram : List UInt8) : Option ProbeKind :=
  match Message.decode datagram with
  | .error _ => none
  | .ok message =>
    if message.key = ProbeKind.info.requestCommand then some .info
    else if message.key = ProbeKind.status.requestCommand then some .status
    else none

def answer? (datagram : List UInt8) : HostBehavior → Option (List UInt8)
  | responder snapshot isSilent =>
    if isSilent then none
    else ((asked? datagram).bind fun kind => snapshot.reply? kind).map Message.encode
  | fixed info status =>
    if occursIn (Text.Utf8.encode ProbeKind.status.requestCommand.toList) datagram then status
    else info

/-- The datagram counts as a probe. -/
def counts (datagram : List UInt8) : HostBehavior → Bool
  | responder _ _ => (asked? datagram).isSome
  | fixed _ _ => true

/-- The datagram of a report with the given body. -/
def report (kind : ProbeKind) (body : String) : List UInt8 :=
  Message.encode ⟨kind.replyCommand, body, '\n'⟩

end HostBehavior

namespace Network

/-- The time zero of a network as players tell it, in milliseconds since the beginning of 1970. -/
def epoch : Nat := 1700000000000

/-- The present time as players tell it. -/
def wallClock (network : Network) : Nat :=
  epoch + network.now

/-- A network at time zero, with a socket of the family that is used unless another is asked
for. -/
def start (hosts : List GameHost) (isUp : Bool) : Network :=
  ⟨hosts, 0, .short, isUp⟩

/-- The socket can name the address. -/
def supports (network : Network) (ip : Ip) : Bool :=
  network.socket == .long || !ip.isV6

/-- What keeps a datagram for the endpoint from being sent, if anything does. -/
def sendFault? (network : Network) (target : Endpoint) : Option SendFault :=
  if !network.supports target.ip then some .unsupportedFamily
  else if target.port = 0 then some .invalidPort
  else if network.isUp then none
  else some .unreachable

/-- A datagram for the endpoint can be sent. -/
def canSend (network : Network) (target : Endpoint) : Bool :=
  (network.sendFault? target).isNone

def hasHost (network : Network) (address : Endpoint) : Bool :=
  network.hosts.any fun host => host.address == address

def advance (network : Network) (milliseconds : Nat) : Network :=
  { network with now := network.now + milliseconds }

/-- The endpoint as the socket shows it: a socket of the long family shows long addresses alone. -/
def shown (network : Network) (endpoint : Endpoint) : Endpoint :=
  match network.socket with
  | .short => endpoint
  | .long => { endpoint with ip := endpoint.ip.mapped }

/-- Sends a datagram that can be sent.  Returns the answer, where one is under way. -/
def deliver (network : Network) (target : Endpoint) (datagram : List UInt8) :
    Network × Option Reply :=
  ({ network with
    hosts := network.hosts.map fun host =>
      if host.address = target && host.behavior.counts datagram then
        { host with probes := host.probes + 1 }
      else host },
    (network.hosts.find? fun host => host.address == target).bind fun host =>
      (host.behavior.answer? datagram).map fun answer =>
        ⟨network.shown target, answer, host.delay⟩)

/-- Puts a game server in the place of the one with its address, or beside the others. -/
def putHost (network : Network) (host : GameHost) : Network :=
  if network.hasHost host.address then
    { network with
      hosts := network.hosts.map fun other =>
        if other.address = host.address then { host with probes := other.probes } else other }
  else { network with hosts := network.hosts ++ [host] }

end Network

end Muster
