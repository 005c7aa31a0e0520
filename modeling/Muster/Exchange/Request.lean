import Muster.Net.EndpointText
import Muster.Probe.Message

/-!
# Requests

A message sent to an endpoint, together with the response that is awaited.  A request is resolved
at most once: by a response, by being given up, by running out of time, or by a failure.
-/

namespace Muster

/-- A message that arrived. -/
structure Inbound where
  sender : Endpoint
  message : Message
  /-- The time of arrival, in milliseconds. -/
  receivedAt : Nat
  deriving DecidableEq, Repr

/-- Why a request has no response. -/
inductive ExchangeError where
  | unresolved (host : String) (port : UInt16)
  | sendFailed (endpoint : Endpoint)
  | timeout
  | canceled
  | shutdown
  | invalid (error : ProtocolError)
  deriving DecidableEq, Repr

def ExchangeError.message : ExchangeError → String
  | unresolved host port => "could not resolve " ++ host ++ ":" ++ toString port.toNat
  | sendFailed endpoint => "failed to send to " ++ endpoint.text
  | timeout => "request timed out"
  | canceled => "request canceled"
  | shutdown => "transport is shut down"
  | invalid error => error.message

abbrev Outcome := Except ExchangeError Inbound

/-- How far a request has come. -/
inductive RequestState where
  | created
  | waiting
  | completed
  | canceled
  | failed
  deriving DecidableEq, Repr

def RequestState.isFinal : RequestState → Bool
  | created | waiting => false
  | completed | canceled | failed => true

/-- Who is told how a request ended. -/
inductive Recipient where
  /-- The one who made it. -/
  | caller
  /-- A batch, which hears of its requests in the order in which they end. -/
  | batch
  deriving DecidableEq, Repr

/-- Requests are told apart by a number. -/
abbrev RequestId := Nat

/-- A request. -/
structure Request where
  id : RequestId
  endpoint : Endpoint
  message : Message
  /-- The lookup name of the response. -/
  responseCommand : String
  createdAt : Nat
  /-- The time for the response once the request is active, in milliseconds. -/
  timeout : Nat
  recipient : Recipient
  state : RequestState
  sentAt : Option Nat
  /-- When the request runs out of time; set while it waits. -/
  deadline : Option Nat
  /-- How many requests began to wait before this one; it counts once the request waits. -/
  turn : Nat
  /-- The one who made the request has not let go of it. -/
  isHeld : Bool
  deriving DecidableEq, Repr

namespace Request

/-- A response is looked up by the endpoint it comes from and its command. -/
abbrev Key := Endpoint × String

def key (request : Request) : Key :=
  (request.endpoint, request.responseCommand)

/-- Takes the time of sending, unless one is known. -/
def markSent (request : Request) (now : Nat) : Request :=
  { request with sentAt := some (request.sentAt.getD now) }

/-- Begins to wait for the response, as the next in turn. -/
def activate (request : Request) (turn now : Nat) : Request :=
  { request.markSent now with
    state := .waiting, deadline := some (now + request.timeout), turn }

def finish (request : Request) (state : RequestState) : Request :=
  { request with state, deadline := none }

/-- The request has run out of time. -/
def isDue (request : Request) (now : Nat) : Bool :=
  request.deadline.any (· ≤ now)

/-- One request runs out of time no later than another.  Of two with the same deadline the one that
began to wait first comes first. -/
def expiresBefore (left right : Request) : Bool :=
  let first := left.deadline.getD 0
  let second := right.deadline.getD 0
  first < second || (first == second && left.turn ≤ right.turn)

end Request

end Muster
