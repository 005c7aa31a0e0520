import Muster.Exchange.Dispatcher
import Muster.Query.Network

/-!
# Sockets

Where messages leave and arrive.  Datagrams that hold no message are dropped.  A socket that has
been closed sends nothing, and nothing that arrives there reaches a handler.
-/

namespace Muster

/-- A socket and the handlers of what arrives there. -/
structure Socket where
  dispatcher : Dispatcher
  isOpen : Bool
  deriving DecidableEq, Repr

namespace Socket

def opened : Socket :=
  ⟨.empty, true⟩

/-- Closes the socket and drops its handlers. -/
def close (socket : Socket) : Socket :=
  { dispatcher := socket.dispatcher.clear, isOpen := false }

/-- Sends a message; returns the size of the datagram. -/
def send (socket : Socket) (network : Network) (target : Endpoint) (message : Message) :
    Except ExchangeError Nat :=
  if !socket.isOpen then .error .shutdown
  else if network.canSend target then .ok message.encode.length
  else .error (.sendFailed target)

/-- Sends a message made of these parts.  Parts that make no message are reported first. -/
def sendParts (socket : Socket) (network : Network) (target : Endpoint) (command data : String)
    (separator : Char) : Except ExchangeError Nat :=
  match Message.ofParts command data separator with
  | .error error => .error (.invalid error)
  | .ok message => socket.send network target message

/-- A datagram arrives; returns the calls of handlers in their order. -/
def receive (socket : Socket) (datagram : List UInt8) : Socket × List HandlerCall :=
  match Message.decode datagram with
  | .error _ => (socket, [])
  | .ok message =>
    if socket.isOpen then
      let (dispatcher, calls) := socket.dispatcher.dispatch message
      ({ socket with dispatcher }, calls)
    else (socket, [])

end Socket

end Muster
