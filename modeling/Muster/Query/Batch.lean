import Muster.Exchange.Basic
import Muster.Net.HostPort
import Muster.Query.Report

/-!
# Batches of probes

A batch asks many servers for the same thing.  Every input has exactly one result.  Inputs whose
names lead to one endpoint share one request, and an input whose name leads nowhere has none.
Requests are sent in the order of the inputs, results come in the order of the answers, and the
batch can be closed at any time; what is still open then has no report.
-/

namespace Muster

/-- What became of one input of a batch. -/
structure ProbeResult (kind : ProbeKind) where
  /-- The place of the server among the inputs. -/
  index : Nat
  server : HostPort
  endpoint : Option Endpoint
  report : Option kind.Report
  /-- The time at which this became known. -/
  time : Nat

/-- A request of a batch. -/
structure BatchTarget where
  request : RequestId
  endpoint : Endpoint
  deriving DecidableEq, Repr

/-- A batch on its way. -/
structure Batch (kind : ProbeKind) where
  servers : List HostPort
  /-- The endpoints of the inputs, so far as they are known. -/
  endpoints : List (Option Endpoint)
  /-- The requests, in the order in which they are sent. -/
  targets : List BatchTarget
  /-- Requests that have not been indexed yet. -/
  waiting : List BatchTarget
  /-- The request that is indexed and about to be sent. -/
  placed : Option BatchTarget
  /-- Requests whose outcome has been taken. -/
  collected : List RequestId
  /-- The results so far, in their order. -/
  results : List (ProbeResult kind)

namespace Batch

variable {kind : ProbeKind}

/-- A batch of which nothing is known but its inputs. -/
def start (kind : ProbeKind) (servers : List HostPort) : Batch kind :=
  ⟨servers, servers.map fun _ => none, [], [], none, [], []⟩

def hasResult (batch : Batch kind) (index : Nat) : Bool :=
  batch.results.any fun result => result.index == index

/-- Gives an input its result, unless it has one. -/
def emit (batch : Batch kind) (now : Nat) (report : Option kind.Report) (index : Nat) :
    Batch kind :=
  match batch.servers[index]? with
  | none => batch
  | some server =>
    if batch.hasResult index then batch
    else
      { batch with
        results := batch.results ++
          [⟨index, server, (batch.endpoints[index]?).join, report, now⟩] }

def emitAll (batch : Batch kind) (now : Nat) (report : Option kind.Report) (indices : List Nat) :
    Batch kind :=
  indices.foldl (fun batch index => batch.emit now report index) batch

/-- The inputs with the given endpoint, or without one. -/
def indicesOf (batch : Batch kind) (endpoint : Option Endpoint) : List Nat :=
  (List.range batch.endpoints.length).filter fun index => batch.endpoints[index]? == some endpoint

def isTarget (batch : Batch kind) (id : RequestId) : Bool :=
  batch.targets.any fun target => target.request == id

def createAll (kind : ProbeKind) (timeout now : Nat) :
    List Endpoint → Exchange → Exchange × List BatchTarget
  | [], exchange => (exchange, [])
  | endpoint :: rest, exchange =>
    let created :=
      exchange.create endpoint kind.request kind.responseCommand timeout .batch now
    let (created, targets) := createAll kind timeout now rest created
    (created, ⟨exchange.nextId, endpoint⟩ :: targets)

/-- The names of the inputs lead to these endpoints.  Makes one request for each endpoint and gives
the inputs without one their results. -/
def resolved (batch : Batch kind) (exchange : Exchange) (endpoints : List (Option Endpoint))
    (timeout now : Nat) : Batch kind × Exchange :=
  let (exchange, targets) :=
    createAll kind timeout now (endpoints.filterMap id).eraseDups exchange
  let batch := { batch with endpoints, targets, waiting := targets }
  (batch.emitAll now none (batch.indicesOf none), exchange)

def place (batch : Batch kind) (exchange : Exchange) : Batch kind × Exchange :=
  match batch.placed, batch.waiting with
  | none, target :: rest =>
    ({ batch with placed := some target, waiting := rest }, (exchange.insert target.request).1)
  | _, _ => (batch, exchange)

/-- Sends the request that is indexed; `isSent` says whether its datagram could be sent. -/
def launch (batch : Batch kind) (exchange : Exchange) (isSent : Bool) (now : Nat) :
    Batch kind × Exchange :=
  match batch.placed with
  | none => (batch, exchange)
  | some target =>
    let exchange := exchange.markSent target.request now
    ({ batch with placed := none },
      if isSent then (exchange.activate target.request now).1
      else (exchange.fail target.request (.sendFailed target.endpoint)).1)

/-- The next outcome that has been delivered and not been taken. -/
def nextDelivery? (batch : Batch kind) (exchange : Exchange) : Option Delivery :=
  exchange.delivered.find? fun delivery =>
    batch.isTarget delivery.request && !batch.collected.contains delivery.request

/-- Takes an outcome: the request leaves the index and its inputs have their results. -/
def collect (batch : Batch kind) (exchange : Exchange) (delivery : Delivery) (now : Nat) :
    Batch kind × Exchange :=
  let batch := { batch with collected := batch.collected ++ [delivery.request] }
  match batch.targets.find? fun target => target.request == delivery.request with
  | none => (batch, exchange)
  | some target =>
    let report := (exchange.get? target.request).bind fun request =>
      request.report? kind delivery.outcome
    (batch.emitAll now report (batch.indicesOf (some target.endpoint)),
      exchange.remove target.request)

/-- Takes as many outcomes as there are, but no more than the given number. -/
def collectUpTo (now : Nat) : Nat → Batch kind → Exchange → Batch kind × Exchange
  | 0, batch, exchange => (batch, exchange)
  | limit + 1, batch, exchange =>
    match batch.nextDelivery? exchange with
    | none => (batch, exchange)
    | some delivery =>
      let (batch, exchange) := batch.collect exchange delivery now
      collectUpTo now limit batch exchange

/-- Takes all outcomes; there is at most one for each request. -/
def collectAll (batch : Batch kind) (exchange : Exchange) (now : Nat) : Batch kind × Exchange :=
  collectUpTo now batch.targets.length batch exchange

def requests (batch : Batch kind) : List RequestId :=
  batch.targets.map (·.request)

/-- Closes the batch: its own requests are given up and leave the index, and the inputs without a
result have none. -/
def close (batch : Batch kind) (exchange : Exchange) (now : Nat) : Batch kind × Exchange :=
  ({ batch with waiting := [], placed := none }.emitAll now none
      (List.range batch.servers.length),
    batch.requests.foldl (fun exchange id => (exchange.cancel id).1.remove id) exchange)

def release (batch : Batch kind) (exchange : Exchange) : Exchange :=
  batch.requests.foldl Exchange.release exchange

/-- The results in the order of the inputs. -/
def sorted (results : List (ProbeResult kind)) : List (ProbeResult kind) :=
  Order.arrange (fun left right => left.index ≤ right.index) results

end Batch

end Muster
