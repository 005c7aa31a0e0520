import Muster.Matchmaker.Processor
import Muster.Proofs.Admission.Operations
import Muster.Proofs.Matchmaker.Roll

/-!
# Calls of the matchmaker

What the matchmaker is asked to do with the queues of servers, call after call, in whatever order
the callers and the processors of queues come in.  A call makes known a server, or something of a
server, or it is one operation on one queue; what becomes of the processors depends on the
operation.
-/

namespace Muster.Matchmaker

variable {matchmaker next : Matchmaker} {server changed : GameServer} {config : QueueConfig}
  {now : Nat}

/-- What the matchmaker is asked to do with the queues of servers, what it learns of servers, and
the passes of processors. -/
inductive Call where
  | register (mention : Endpoint) (nameHint : String)
  | store (kind : ProbeKind) (address : Endpoint) (report : kind.Report)
  | reserve (address : Endpoint) (slots : Count)
  | enqueue (address : Endpoint) (player : PlayerId)
  | acknowledge (address : Endpoint) (player : PlayerId) (result : JoinResult)
  | dequeue (address : Endpoint) (player : PlayerId) (reason : DequeueReason)
  | pass (processor : Processor)

/-- The matchmaker after a call.  A call that is refused and a pass of a processor that does not run
change nothing. -/
def take (matchmaker : Matchmaker) (now : Nat) : Call → Matchmaker
  | .register mention nameHint => matchmaker.register mention nameHint now
  | .store kind address report =>
    { matchmaker with registry := matchmaker.registry.store kind address report now }
  | .reserve address slots =>
    { matchmaker with registry := matchmaker.registry.modify address (·.reserve slots) }
  | .enqueue address player =>
    match matchmaker.enqueue address player now with
    | .ok (next, _) => next
    | .error _ => matchmaker
  | .acknowledge address player result =>
    match matchmaker.acknowledge address player result now with
    | .ok (next, _) => next
    | .error _ => matchmaker
  | .dequeue address player reason =>
    match matchmaker.dequeue? address player reason now with
    | some (next, _) => next
    | none => matchmaker
  | .pass processor =>
    if processor ∈ matchmaker.processors then (matchmaker.runProcessor processor now).1
    else matchmaker

def takeAll (matchmaker : Matchmaker) (calls : List (Nat × Call)) : Matchmaker :=
  calls.foldl (fun matchmaker call => matchmaker.take call.1 call.2) matchmaker

def run (config : QueueConfig) (calls : List (Nat × Call)) : Matchmaker :=
  (empty config).takeAll calls

/-- No call is made before an earlier one. -/
def IsTimely (calls : List (Nat × Call)) : Prop :=
  calls.Pairwise fun earlier later => earlier.1 ≤ later.1

/-- The serials of the servers whose queues have processors, once for each processor. -/
def staffed (matchmaker : Matchmaker) : List Nat :=
  matchmaker.processors.map (·.server)

def serials (matchmaker : Matchmaker) : List Nat :=
  matchmaker.registry.servers.map (·.serial)

/-- How many processors look after the queue of a server. -/
def liveProcessors (matchmaker : Matchmaker) (server : GameServer) : Nat :=
  matchmaker.staffed.count server.serial

theorem takeAll_concat (matchmaker : Matchmaker) (calls : List (Nat × Call)) (now : Nat)
    (call : Call) :
    matchmaker.takeAll (calls ++ [(now, call)]) = (matchmaker.takeAll calls).take now call :=
  List.foldl_append

/-! ## One operation -/

/-- A call that works on one queue: the server in question, the operation, and the processors
afterwards. -/
inductive Works (matchmaker : Matchmaker) (now : Nat) : Call → GameServer →
    GameServer.Operation → List Processor → Prop where
  | enqueue {server changed : GameServer} {player : PlayerId} {events : List QueueEvent}
      (henqueue : server.enqueue player now = .ok (changed, events)) :
      Works matchmaker now (.enqueue server.address player) server (.enqueue player)
        (matchmaker.startProcessor server now).processors
  | acknowledge (server : GameServer) (player : PlayerId) (result : JoinResult) :
      Works matchmaker now (.acknowledge server.address player result) server
        (.acknowledge player result) matchmaker.processors
  | dequeue (server : GameServer) (player : PlayerId) (reason : DequeueReason) :
      Works matchmaker now (.dequeue server.address player reason) server
        (.remove player reason) matchmaker.processors
  | rest {processor : Processor} {server : GameServer} (hlive : processor ∈ matchmaker.processors)
      (hserial : server.serial = processor.server)
      (hidle : (server.operate now .process).1.queue.isIdle now) :
      Works matchmaker now (.pass processor) server .process
        (matchmaker.processors.filter fun other => other.server != processor.server)
  | goOn {processor : Processor} {server : GameServer} (hlive : processor ∈ matchmaker.processors)
      (hserial : server.serial = processor.server)
      (hbusy : ¬ (server.operate now .process).1.queue.isIdle now) :
      Works matchmaker now (.pass processor) server .process
        ((matchmaker.processors.filter fun other => other.server != processor.server) ++
          [{ processor with
            dueAt := processor.nextDue matchmaker.registry.queueConfig.processInterval now }])

/-- What a call makes of the servers and the processors. -/
inductive Takes (matchmaker : Matchmaker) (now : Nat) (call : Call) : Matchmaker → Prop where
  | nothing : Takes matchmaker now call matchmaker
  | registers (mention : Endpoint) (nameHint : String) :
      Takes matchmaker now call (matchmaker.register mention nameHint now)
  | learns (address : Endpoint) {change : GameServer → GameServer}
      (haddress : ∀ server, (change server).address = server.address)
      (hserial : ∀ server, (change server).serial = server.serial)
      (hqueue : ∀ server, (change server).queue = server.queue) :
      Takes matchmaker now call
        { matchmaker with registry := matchmaker.registry.modify address change }
  | works {server : GameServer} {operation : GameServer.Operation} {processors : List Processor}
      (hserver : server ∈ matchmaker.registry.servers)
      (hworks : matchmaker.Works now call server operation processors) :
      Takes matchmaker now call { matchmaker with
        processors
        registry := matchmaker.registry.modify server.address
          fun _ => (server.operate now operation).1 }
  | abandons {processor : Processor} (hunknown : matchmaker.serverOf? processor = none) :
      Takes matchmaker now call { matchmaker with
        processors := matchmaker.processors.filter fun other => other.server != processor.server }

theorem takes_enqueue {address : Endpoint} {player : PlayerId} {effects : List Effect}
    (henqueue : matchmaker.enqueue address player now = .ok (next, effects)) :
    matchmaker.Takes now (.enqueue address player) next := by
  obtain ⟨server, changed, events, hget, hqueue, rfl, -⟩ := enqueue_eq_ok henqueue
  obtain ⟨hserver, rfl⟩ := Registry.mem_of_get? hget
  have haddress := (GameServer.requeued_enqueue hqueue).address_eq
  have hworks : matchmaker.Works now _ server _ _ := .enqueue hqueue
  have htakes := Takes.works hserver hworks
  simp only [GameServer.operate, hqueue] at htakes
  rw [replaceServer, haddress]
  exact htakes

theorem takes_acknowledge {address : Endpoint} {player : PlayerId} {result : JoinResult}
    {effects : List Effect}
    (hacknowledge : matchmaker.acknowledge address player result now = .ok (next, effects)) :
    matchmaker.Takes now (.acknowledge address player result) next := by
  obtain ⟨server, changed, events, hget, hqueue, hnext⟩ := acknowledge_eq_ok hacknowledge
  obtain ⟨hserver, rfl⟩ := Registry.mem_of_get? hget
  have haddress := (GameServer.requeued_acknowledge hqueue).address_eq
  have hworks : matchmaker.Works now _ server _ _ := .acknowledge server player result
  have htakes := Takes.works hserver hworks
  simp only [GameServer.operate, hqueue] at htakes
  rw [(Prod.mk.inj hnext).1, haddress]
  exact htakes

theorem takes_dequeue {address : Endpoint} {player : PlayerId} {reason : DequeueReason}
    {effects : List Effect}
    (hdequeue : matchmaker.dequeue? address player reason now = some (next, effects)) :
    matchmaker.Takes now (.dequeue address player reason) next := by
  obtain ⟨server, changed, events, hget, hqueue, hnext⟩ := dequeue?_eq_some hdequeue
  obtain ⟨hserver, rfl⟩ := Registry.mem_of_get? hget
  have haddress := (GameServer.requeued_dequeue? hqueue).address_eq
  have hworks : matchmaker.Works now _ server _ _ := .dequeue server player reason
  have htakes := Takes.works hserver hworks
  simp only [GameServer.operate, hqueue, Option.getD_some] at htakes
  rw [← (Prod.mk.inj hnext).1, haddress]
  exact htakes

/-- A processor passes over the queue that it looks after, and stops when that is idle. -/
theorem takes_pass {processor : Processor} (hlive : processor ∈ matchmaker.processors)
    (now : Nat) :
    matchmaker.Takes now (.pass processor) (matchmaker.runProcessor processor now).1 := by
  rw [runProcessor]
  cases hfound : matchmaker.serverOf? processor with
  | none => exact .abandons hfound
  | some server =>
      have hserver := List.mem_of_find?_eq_some hfound
      have hserial : server.serial = processor.server := by simpa using List.find?_some hfound
      by_cases hidle : (server.processInBackground now).2.2
      · simp only [hidle, if_true]
        exact .works hserver (.rest hlive hserial hidle)
      · simp only [hidle]
        exact .works hserver (.goOn hlive hserial hidle)

/-- A call has no other consequences than these. -/
theorem takes_take (matchmaker : Matchmaker) (now : Nat) (call : Call) :
    matchmaker.Takes now call (matchmaker.take now call) := by
  cases call with
  | register mention nameHint => exact .registers mention nameHint
  | store kind address report =>
      refine .learns address ?_ ?_ ?_ <;> intro server <;> cases kind <;> rfl
  | reserve address slots => exact .learns address (fun _ => rfl) (fun _ => rfl) (fun _ => rfl)
  | enqueue address player =>
      simp only [take]
      split
      next henqueue => exact takes_enqueue henqueue
      next => exact .nothing
  | acknowledge address player result =>
      simp only [take]
      split
      next hacknowledge => exact takes_acknowledge hacknowledge
      next => exact .nothing
  | dequeue address player reason =>
      simp only [take]
      split
      next hdequeue => exact takes_dequeue hdequeue
      next => exact .nothing
  | pass processor =>
      rw [take]
      split_ifs with hlive
      · exact takes_pass hlive now
      · exact .nothing

end Muster.Matchmaker
