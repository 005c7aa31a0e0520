import Muster.Exchange.Request
import Muster.Keyed

/-!
# Handlers

A dispatcher hands every message that arrives to the handlers of its command, in the order in which
they were registered.  Which handlers these are is settled when the message comes up: a handler that
is dropped by an earlier one still gets the message, and a handler that is added in the meantime
does not.  The one who registers a handler holds a subscription and drops the handler with it.
-/

namespace Muster

/-- What a handler does with the dispatcher, one thing after the other, when a message reaches
it. -/
inductive Reaction where
  | nothing
  /-- Drops the subscription with the label, and goes on. -/
  | drop (label : String) (next : Reaction)
  /-- Registers another handler with a reaction of its own, and goes on. -/
  | register (command label : String) (reaction next : Reaction)
  deriving DecidableEq, Repr

/-- A handler that is registered. -/
structure Handler where
  /-- Handlers are told apart by a number that grows with the time of registration. -/
  id : Nat
  /-- The label of the subscription that was made for it. -/
  label : String
  reaction : Reaction
  deriving DecidableEq, Repr

/-- What is held by the one who registered a handler. -/
structure Subscription where
  /-- Subscriptions are told apart by their labels. -/
  label : String
  /-- The lookup name of the command. -/
  command : String
  /-- The number of the handler. -/
  id : Nat
  deriving DecidableEq, Repr

/-- The handlers of each command, in the order of registration.  A command without handlers is not
listed. -/
structure HandlerTable where
  lists : List (String × List Handler)
  nextId : Nat
  deriving DecidableEq, Repr

/-- The handlers and the subscriptions to them that have not been dropped. -/
structure Dispatcher where
  table : HandlerTable
  subscriptions : List Subscription
  deriving DecidableEq, Repr

/-- A message that reached a handler. -/
structure HandlerCall where
  handler : Handler
  message : Message
  deriving DecidableEq, Repr

namespace HandlerTable

def empty : HandlerTable :=
  ⟨[], 0⟩

def get (table : HandlerTable) (command : String) : List Handler :=
  ((table.lists.find? fun entry => entry.1 == command).map (·.2)).getD []

/-- Puts a handler, which is numbered `nextId`, behind the others of its command. -/
def add (table : HandlerTable) (command label : String) (reaction : Reaction) : HandlerTable where
  lists :=
    let handler : Handler := ⟨table.nextId, label, reaction⟩
    Keyed.alter command (fun handlers => handlers.getD [] ++ [handler]) table.lists
  nextId := table.nextId + 1

/-- The list of a command without the handler with the given number, if it is the command's. -/
def strike (command : String) (id : Nat) (entry : String × List Handler) :
    String × List Handler :=
  if entry.1 = command then (entry.1, entry.2.filter fun handler => handler.id != id) else entry

/-- Removes the handler of a command with the given number; a command that is left without handlers
is not listed any more. -/
def remove (table : HandlerTable) (command : String) (id : Nat) : HandlerTable :=
  { table with
    lists := (table.lists.map (strike command id)).filter fun entry =>
      !(entry.1 == command && entry.2.isEmpty) }

end HandlerTable

namespace Dispatcher

def empty : Dispatcher :=
  ⟨.empty, []⟩

def hasLabel (dispatcher : Dispatcher) (label : String) : Bool :=
  dispatcher.subscriptions.any fun subscription => subscription.label == label

/-- Drops the subscription with the label, and its handler with it. -/
def drop (dispatcher : Dispatcher) (label : String) : Dispatcher :=
  match dispatcher.subscriptions.find? fun subscription => subscription.label == label with
  | none => dispatcher
  | some dropped =>
    ⟨dispatcher.table.remove dropped.command dropped.id,
      dispatcher.subscriptions.filter fun subscription => subscription.label != label⟩

/-- Registers a handler for a command, whose letters may be in either case.  The subscription that
had the label before is dropped once the handler is there. -/
def register (dispatcher : Dispatcher) (command label : String) (reaction : Reaction) :
    Dispatcher :=
  let name := Message.lookupName command
  let added := { dispatcher with table := dispatcher.table.add name label reaction }.drop label
  { added with
    subscriptions := added.subscriptions ++ [⟨label, name, dispatcher.table.nextId⟩] }

def react (dispatcher : Dispatcher) : Reaction → Dispatcher
  | .nothing => dispatcher
  | .drop label next => (dispatcher.drop label).react next
  | .register command label reaction next => (dispatcher.register command label reaction).react next

def handlersFor (dispatcher : Dispatcher) (message : Message) : List Handler :=
  dispatcher.table.get message.key

/-- Hands a message to its handlers; returns the calls in their order. -/
def dispatch (dispatcher : Dispatcher) (message : Message) : Dispatcher × List HandlerCall :=
  let reached := dispatcher.handlersFor message
  (reached.foldl (fun dispatcher handler => dispatcher.react handler.reaction) dispatcher,
    reached.map fun handler => ⟨handler, message⟩)

/-- Removes all handlers; those who hold subscriptions still do. -/
def clear (dispatcher : Dispatcher) : Dispatcher :=
  { dispatcher with table := { dispatcher.table with lists := [] } }

end Dispatcher

end Muster
