import Muster.Exchange.Pending
import Muster.Order

/-!
# Exchanges

All requests that somebody still knows of, the index of those that await a response, and what has
been delivered.  Outcomes are delivered to the one who made the request or to the batch it belongs
to, each at most once.  A request that nobody holds and that is not indexed is dropped; the one who
waits for it hears that it was given up.
-/

namespace Muster

/-- An outcome on its way to the one who waits for it. -/
structure Delivery where
  request : RequestId
  recipient : Recipient
  outcome : Outcome

/-- The requests and their index. -/
structure Exchange where
  requests : List Request
  pending : Pending
  /-- Everything delivered so far, in order. -/
  delivered : List Delivery
  nextId : RequestId
  /-- How many requests have begun to wait. -/
  nextTurn : Nat

namespace Exchange

def empty : Exchange :=
  ⟨[], .empty, [], 0, 0⟩

def get? (exchange : Exchange) (id : RequestId) : Option Request :=
  exchange.requests.find? fun request => request.id == id

def modify (exchange : Exchange) (id : RequestId) (change : Request → Request) : Exchange :=
  { exchange with
    requests := exchange.requests.map fun request =>
      if request.id = id then change request else request }

/-- Makes a request; its identifier is `nextId`. -/
def create (exchange : Exchange) (endpoint : Endpoint) (message : Message)
    (responseCommand : String) (timeout : Nat) (recipient : Recipient) (now : Nat) : Exchange :=
  { exchange with
    requests := exchange.requests ++ [{
      id := exchange.nextId
      endpoint
      message
      responseCommand := Message.lookupName responseCommand
      createdAt := now
      timeout
      recipient
      state := .created
      sentAt := none
      deadline := none
      turn := 0
      isHeld := true }]
    nextId := exchange.nextId + 1 }

/-- Takes the time of sending. -/
def markSent (exchange : Exchange) (id : RequestId) (now : Nat) : Exchange :=
  exchange.modify id fun request => request.markSent now

/-- A request begins to wait for its response, unless it does already or is resolved.  Returns
whether it does. -/
def activate (exchange : Exchange) (id : RequestId) (now : Nat) : Exchange × Bool :=
  match exchange.get? id with
  | none => (exchange, false)
  | some request =>
    if request.state = .created then
      ({ exchange.modify id (fun request => request.activate exchange.nextTurn now) with
        nextTurn := exchange.nextTurn + 1 }, true)
    else (exchange, false)

/-- Resolves a request into a state and delivers the outcome, unless the request is resolved
already.  Returns whether it was not. -/
def resolve (exchange : Exchange) (id : RequestId) (state : RequestState) (outcome : Outcome) :
    Exchange × Bool :=
  match exchange.get? id with
  | none => (exchange, false)
  | some request =>
    if request.state.isFinal then (exchange, false)
    else
      ({ exchange.modify id (fun request => request.finish state) with
        delivered := exchange.delivered ++ [⟨id, request.recipient, outcome⟩] }, true)

def complete (exchange : Exchange) (id : RequestId) (inbound : Inbound) : Exchange × Bool :=
  exchange.resolve id .completed (.ok inbound)

def cancel (exchange : Exchange) (id : RequestId) : Exchange × Bool :=
  exchange.resolve id .canceled (.error .canceled)

def fail (exchange : Exchange) (id : RequestId) (error : ExchangeError) : Exchange × Bool :=
  exchange.resolve id .failed (.error error)

/-- A request has run out of time. -/
def expireOne (exchange : Exchange) (id : RequestId) : Exchange :=
  (exchange.resolve id .canceled (.error .timeout)).1

/-- Somebody still knows of the request. -/
def isReachable (exchange : Exchange) (request : Request) : Bool :=
  request.isHeld || exchange.pending.contains request.id

/-- What is delivered when a request is dropped. -/
def farewell? (request : Request) : Option Delivery :=
  if request.state.isFinal then none
  else
    match request.recipient with
    | .caller => some ⟨request.id, .caller, .error .canceled⟩
    | .batch => none

/-- Drops the requests that nobody knows of. -/
def collect (exchange : Exchange) : Exchange :=
  { exchange with
    requests := exchange.requests.filter exchange.isReachable
    delivered := exchange.delivered ++
      (exchange.requests.filter fun request => !exchange.isReachable request).filterMap
        farewell? }

/-- The one who made the request lets go of it. -/
def release (exchange : Exchange) (id : RequestId) : Exchange :=
  (exchange.modify id fun request => { request with isHeld := false }).collect

def hasMessage (exchange : Exchange) (message : Message) (id : RequestId) : Bool :=
  (exchange.get? id).any fun request => request.message == message

def isSent (exchange : Exchange) (id : RequestId) : Bool :=
  (exchange.get? id).any fun request => request.sentAt.isSome

def cancelAll (exchange : Exchange) (ids : List RequestId) : Exchange :=
  ids.foldl (fun exchange id => (exchange.cancel id).1) exchange

/-- Indexes a request.  Requests with the same key and the same message, the request itself among
them, lose their place in the index and are given up; returns how many. -/
def insert (exchange : Exchange) (id : RequestId) : Exchange × Nat :=
  match exchange.get? id with
  | none => (exchange, 0)
  | some request =>
    let present := exchange.pending.get request.key
    let displaced := present.filter (exchange.hasMessage request.message)
    let kept := present.filter fun other => !exchange.hasMessage request.message other
    let indexed := { exchange with pending := exchange.pending.set request.key (kept ++ [id]) }
    ((indexed.cancelAll displaced).collect, displaced.length)

/-- Resolves several requests by one response; returns how many were not resolved before. -/
def completeAll (exchange : Exchange) (inbound : Inbound) : List RequestId → Exchange × Nat
  | [] => (exchange, 0)
  | id :: rest =>
    let (exchange, isFirst) := exchange.complete id inbound
    let (exchange, count) := exchange.completeAll inbound rest
    (exchange, (if isFirst then 1 else 0) + count)

/-- Hands a message that arrived to all requests that were sent to its sender and await its
command; they lose their place in the index.  Requests that have not been sent yet stay: the message
answers an earlier one.  Returns how many requests it resolved. -/
def dispatch (exchange : Exchange) (inbound : Inbound) : Exchange × Nat :=
  let key := (inbound.sender, inbound.message.key)
  let present := exchange.pending.get key
  let unsent := present.filter fun id => !exchange.isSent id
  let (completed, count) :=
    { exchange with pending := exchange.pending.set key unsent }.completeAll inbound
      (present.filter exchange.isSent)
  (completed.collect, count)

/-- Takes a request out of the index. -/
def remove (exchange : Exchange) (id : RequestId) : Exchange :=
  match exchange.get? id with
  | none => exchange
  | some request =>
    let kept := (exchange.pending.get request.key).filter (· != id)
    { exchange with pending := exchange.pending.set request.key kept }.collect

/-- The requests that have run out of time, in the order in which they did. -/
def due (exchange : Exchange) (now : Nat) : List Request :=
  Order.arrange Request.expiresBefore
    (exchange.requests.filter fun request => request.isDue now)

/-- Lets the time come to `now`: requests run out of time. -/
def expire (exchange : Exchange) (now : Nat) : Exchange :=
  (exchange.due now).foldl (fun exchange request => exchange.expireOne request.id) exchange

end Exchange

end Muster
