import Muster.Query.Batch
import Muster.Query.Lookups

/-!
# The query service

Asks game servers, one at a time or in batches, over the network that it is on.  Only this service
lets time pass while it waits: an answer takes the time that its server needs, and where no answer
is under way the service waits until its requests run out of time.

Times are numbers without a bound.  The clock is assumed to tell every time that is reckoned with:
no timeout is so long that the time at which it is over cannot be told.
-/

namespace Muster

/-- The limits of the query service; times are in milliseconds. -/
structure QueryConfig where
  /-- The time for an answer once a request has been sent. -/
  requestTimeout : Nat := 10000
  /-- Lookups of one batch at the same time. -/
  resolveConcurrency : Nat := 40
  /-- The time between two requests. -/
  sendInterval : Nat := 1
  deriving DecidableEq, Repr

/-- The query service and the network it is on. -/
structure QueryService where
  config : QueryConfig
  exchange : Exchange
  network : Network
  /-- Where the name of a server leads. -/
  resolve : HostPort → Resolution
  /-- Lookups so far. -/
  lookups : Nat
  /-- The service can still send and hear. -/
  isOpen : Bool
  /-- Answers on their way, the first to arrive first. -/
  arriving : List Reply

/-- How long one who asks is prepared to wait. -/
inductive Patience where
  /-- Until the time for an answer is over. -/
  | untilTimeout
  /-- Until all answers that are under way have arrived. -/
  | untilSettled
  /-- Not at all. -/
  | none
  deriving DecidableEq, Repr

namespace QueryService

/-- A service that has not asked anything yet. -/
def start (config : QueryConfig) (network : Network) (resolve : HostPort → Resolution) :
    QueryService :=
  ⟨config, .empty, network, resolve, 0, true, []⟩

def now (service : QueryService) : Nat :=
  service.network.now

/-- Requests that await an answer. -/
def outstanding (service : QueryService) : Nat :=
  service.exchange.pending.size

/-- Lets time pass; requests run out of time. -/
def advance (service : QueryService) (milliseconds : Nat) : QueryService :=
  let network := service.network.advance milliseconds
  { service with network, exchange := service.exchange.expire network.now }

/-- The service ends; it neither sends nor hears any more. -/
def shutdown (service : QueryService) : QueryService :=
  { service with isOpen := false }

/-- Whether a datagram for the endpoint can be sent. -/
def canSend (service : QueryService) (target : Endpoint) : Bool :=
  service.isOpen && service.network.canSend target

/-- Sends a datagram if it can be sent; the answer comes under way. -/
def transmit (service : QueryService) (target : Endpoint) (message : Message) : QueryService :=
  if service.canSend target then
    let (network, reply) := service.network.deliver target message.encode
    { service with network, arriving := service.arriving ++ reply.toList }
  else service

/-- A command that the service listens for. -/
def listensFor (message : Message) : Bool :=
  message.key == ProbeKind.info.responseCommand || message.key == ProbeKind.status.responseCommand

/-- An answer arrives, its delay after the one before it. -/
def receive (service : QueryService) (reply : Reply) : QueryService :=
  let service := service.advance reply.delay
  match Message.decode reply.datagram with
  | .error _ => service
  | .ok message =>
    if service.isOpen && listensFor message then
      { service with
        exchange := (service.exchange.dispatch ⟨reply.sender, message, service.now⟩).1 }
    else service

/-- Waits for all answers that are under way. -/
def settle (service : QueryService) : QueryService :=
  service.arriving.foldl receive { service with arriving := [] }

/-! ## Single requests -/

def sendError (service : QueryService) (target : Endpoint) : ExchangeError :=
  if service.isOpen then .sendFailed target else .shutdown

def outcomeOf? (service : QueryService) (id : RequestId) : Option Outcome :=
  (service.exchange.delivered.find? fun delivery => delivery.request == id).map (·.outcome)

/-- Takes a request out of the index and lets go of it. -/
def retire (service : QueryService) (id : RequestId) : QueryService :=
  { service with exchange := (service.exchange.remove id).release id }

/-- Waits for the outcome of a request that has been sent. -/
def await (service : QueryService) (id : RequestId) (timeout : Nat) (patience : Patience) :
    QueryService × Outcome :=
  let service := if patience = .none then service else service.settle
  match service.outcomeOf? id with
  | some outcome => (service, outcome)
  | none =>
    if patience = .untilTimeout then
      let service := service.advance timeout
      (service, (service.outcomeOf? id).getD (.error .timeout))
    else
      ({ service with exchange := (service.exchange.cancel id).1 }, .error .canceled)

/-- Sends a message and waits for the answer to it.  Returns the outcome, and the round trip. -/
def roundTrip (service : QueryService) (target : Endpoint) (message : Message)
    (responseCommand : String) (timeout : Nat) (patience : Patience) :
    QueryService × Outcome × UInt32 :=
  let id := service.exchange.nextId
  let created :=
    service.exchange.create target message responseCommand timeout .caller service.now
  let placed := (created.insert id).1.markSent id service.now
  if service.canSend target then
    let sent :=
      { service with exchange := (placed.activate id service.now).1 }.transmit target message
    let (service, outcome) := sent.await id timeout patience
    let ping :=
      match service.exchange.get? id, outcome with
      | some request, .ok inbound => request.ping inbound
      | _, _ => maxPing
    ((service.retire id).settle, outcome, ping)
  else
    ({ service with exchange := (placed.fail id (.sendFailed target)).1 }.retire id,
      .error (service.sendError target), maxPing)

/-- Asks one server.  There is no report if its name leads nowhere, if no answer comes, or if the
answer cannot be used. -/
def probe (service : QueryService) (kind : ProbeKind) (server : HostPort) (patience : Patience) :
    QueryService × Option kind.Report :=
  let asked := { service with lookups := service.lookups + 1 }
  match Lookups.endpoint? service.resolve server with
  | none => (asked, none)
  | some endpoint =>
    let (service, outcome, ping) := asked.roundTrip endpoint kind.request kind.responseCommand
      service.config.requestTimeout patience
    match outcome with
    | .ok inbound => (service, kind.report? endpoint inbound.message.data ping)
    | .error _ => (service, none)

/-! ## Batches -/

/-- The time for the answer to a request of a batch. -/
def batchRequestTimeout (service : QueryService) (timeout : Nat) : Nat :=
  min service.config.requestTimeout timeout

/-- Sends the requests of a batch, as many as the given number. -/
def sendUpTo {kind : ProbeKind} : Nat → QueryService → Batch kind → QueryService × Batch kind
  | 0, service, batch => (service, batch)
  | limit + 1, service, batch =>
    match batch.waiting with
    | [] => (service, batch)
    | target :: _ =>
      let (batch, exchange) := batch.place service.exchange
      let (batch, exchange) :=
        batch.launch exchange (service.canSend target.endpoint) service.now
      sendUpTo limit ({ service with exchange }.transmit target.endpoint kind.request) batch

/-- Looks up the servers of a batch and sends its requests.  The batch has no requests if one of the
lookups never ends.  The time at which the requests run out of time is assumed to be one that the
clock can tell. -/
def openBatch (service : QueryService) (kind : ProbeKind) (servers : List HostPort)
    (timeout : Nat) : QueryService × Batch kind :=
  let batch := Batch.start kind servers
  let distinct := Lookups.distinct servers
  let started :=
    Lookups.started service.resolve (max service.config.resolveConcurrency 1) distinct
  let service := { service with lookups := service.lookups + started.length }
  if Lookups.complete service.resolve distinct then
    let (batch, exchange) := batch.resolved service.exchange
      (servers.map (Lookups.endpoint? service.resolve)) (service.batchRequestTimeout timeout)
      service.now
    sendUpTo batch.targets.length { service with exchange } batch
  else (service, batch)

/-- The batch takes the outcomes that are there. -/
def collectBatch {kind : ProbeKind} (service : QueryService) (batch : Batch kind) :
    QueryService × Batch kind :=
  let (batch, exchange) := batch.collectAll service.exchange service.now
  ({ service with exchange }, batch)

/-- Waits for all answers that are under way; after each of them something is done. -/
def settleWith {State : Type} (after : QueryService → State → QueryService × State)
    (service : QueryService) (state : State) : QueryService × State :=
  service.arriving.foldl
    (fun (service, state) reply => after (service.receive reply) state)
    (after { service with arriving := [] } state)

/-- The time for which a batch still has to wait. -/
def remainingTime {kind : ProbeKind} (service : QueryService) (batch : Batch kind)
    (timeout : Nat) : Nat :=
  if !Lookups.complete service.resolve batch.servers then timeout
  else if batch.collected.length = batch.targets.length then 0
  else service.batchRequestTimeout timeout

/-- Takes the last outcomes of a batch and closes it.  Returns the results in the order in which
they came. -/
def closeBatch {kind : ProbeKind} (service : QueryService) (batch : Batch kind) :
    QueryService × List (ProbeResult kind) :=
  let (service, batch) := service.collectBatch batch
  let (batch, exchange) := batch.close service.exchange service.now
  ({ service with exchange := batch.release exchange }, batch.results)

/-- Asks many servers.  Returns the results in the order in which they came. -/
def probeMany (service : QueryService) (kind : ProbeKind) (servers : List HostPort)
    (timeout : Nat) (patience : Patience) : QueryService × List (ProbeResult kind) :=
  let (service, batch) := service.openBatch kind servers timeout
  let (service, batch) := service.settleWith collectBatch batch
  let service :=
    if patience = .untilTimeout then service.advance (service.remainingTime batch timeout)
    else service
  service.closeBatch batch

/-- Two batches take the outcomes that are there. -/
def collectBoth {first second : ProbeKind} (service : QueryService)
    (batches : Batch first × Batch second) : QueryService × Batch first × Batch second :=
  let (service, one) := service.collectBatch batches.1
  let (service, other) := service.collectBatch batches.2
  (service, one, other)

/-- Asks many servers for both reports at the same time. -/
def probeBoth (service : QueryService) (servers : List HostPort) (timeout : Nat) :
    QueryService × List (ProbeResult .info) × List (ProbeResult .status) :=
  let (service, infos) := service.openBatch .info servers timeout
  let (service, statuses) := service.openBatch .status servers timeout
  let (service, infos, statuses) := service.settleWith collectBoth (infos, statuses)
  let service := service.advance
    (max (service.remainingTime infos timeout) (service.remainingTime statuses timeout))
  let (service, infos) := service.closeBatch infos
  let (service, statuses) := service.closeBatch statuses
  (service, infos, statuses)

end QueryService

end Muster
