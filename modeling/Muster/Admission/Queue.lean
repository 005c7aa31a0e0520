import Muster.Control.Event
import Muster.Count

/-!
# Admission queues

Players matched to a server wait in its queue until a joining slot is free, are told to connect,
and must report the outcome of the attempt in time.  A failed or silent attempt is retried until the
attempts or the time for joining run out.  Entries keep the order of arrival.

Every operation takes the present time in milliseconds and returns the queue as it leaves it, also
where it refuses, and the events it causes.
-/

namespace Muster

/-- The limits of a queue; times are in milliseconds. -/
structure QueueConfig where
  /-- An empty queue is idle after this time. -/
  idleTimeout : Nat := 180000
  /-- The time a player may spend joining, over all attempts. -/
  totalJoinTime : Nat := 50000
  /-- The time a player has to report on one attempt. -/
  joinTimeout : Nat := 30000
  /-- A failed attempt that found the server full starts the count of attempts anew. -/
  resetAttemptsWhenFull : Bool := true
  maxJoinAttempts : UInt32 := 3
  maxQueueLength : Nat := 50
  /-- The time between two passes over a busy queue. -/
  processInterval : Nat := 1000
  /-- Servers whose queue is idle are forgotten. -/
  pruneIdleServers : Bool := false
  deriving DecidableEq, Repr

/-- What a queued player does. -/
inductive EntryState where
  | waiting
  | joining
  deriving DecidableEq, Repr

/-- A queued player. -/
structure Entry where
  player : PlayerId
  state : EntryState
  /-- Attempts so far. -/
  attempts : UInt32
  firstAttemptAt : Option Nat
  attemptStartedAt : Option Nat
  /-- The position the player was last told. -/
  reportedPosition : Option Nat
  deriving DecidableEq, Repr

/-- What a queue tells its players. -/
inductive QueueEvent where
  | position (player : PlayerId) (position queueLength : Nat)
  | join (player : PlayerId) (attempt : UInt32)
  | dequeued (player : PlayerId) (reason : DequeueReason)
  deriving DecidableEq, Repr

/-- Why a queue refuses an operation. -/
inductive QueueError where
  | queueFull
  | alreadyQueued
  | notQueued
  deriving DecidableEq, Repr

/-- The queue of one server. -/
structure Queue where
  config : QueueConfig
  entries : List Entry
  lastActivity : Nat
  /-- A background processor looks after the queue. -/
  processing : Bool
  deriving DecidableEq, Repr

namespace QueueError

def message : QueueError → String
  | queueFull => "admission queue is full"
  | alreadyQueued => "player is already queued"
  | notQueued => "player is not queued"

end QueueError

namespace QueueEvent

def player : QueueEvent → PlayerId
  | .position player _ _ => player
  | .join player _ => player
  | .dequeued player _ => player

/-- The event as the player hears of it. -/
def toClientEvent (server : Endpoint) (joinTimeout : Nat) : QueueEvent → ClientEvent
  | .position _ place length => .queuePosition server place.toUInt64 length.toUInt64
  | .join _ attempt => .joinServer server attempt joinTimeout.toUInt64
  | .dequeued _ reason => .dequeued server reason

end QueueEvent

namespace Entry

/-- A player who has just been queued. -/
def arrive (player : PlayerId) : Entry :=
  ⟨player, .waiting, 0, none, none, none⟩

def isWaiting (entry : Entry) : Bool :=
  entry.state == .waiting

def isJoining (entry : Entry) : Bool :=
  entry.state == .joining

/-- The time for joining has run out. -/
def isOverBudget (entry : Entry) (config : QueueConfig) (now : Nat) : Bool :=
  entry.firstAttemptAt.any fun first => config.totalJoinTime ≤ now - first

/-- The time for the present attempt has run out. -/
def isAttemptExpired (entry : Entry) (config : QueueConfig) (now : Nat) : Bool :=
  entry.isJoining && entry.attemptStartedAt.any fun started => config.joinTimeout ≤ now - started

/-- Ends an attempt that did not succeed: the entry waits for another one, or the reason why there
is none. -/
def retry (entry : Entry) (config : QueueConfig) (now : Nat) : Except DequeueReason Entry :=
  if config.maxJoinAttempts ≤ entry.attempts then .error .maxJoinAttemptsReached
  else if entry.isOverBudget config now then .error .joinTimeout
  else .ok { entry with state := .waiting, attemptStartedAt := none }

/-- What the passing of time makes of an entry, or the reason why it leaves. -/
def age (entry : Entry) (config : QueueConfig) (now : Nat) : Except DequeueReason Entry :=
  if entry.isOverBudget config now then .error .joinTimeout
  else if entry.isAttemptExpired config now then entry.retry config now
  else .ok entry

/-- Starts an attempt. -/
def promote (entry : Entry) (now : Nat) : Entry where
  player := entry.player
  state := .joining
  attempts := entry.attempts + 1
  firstAttemptAt := some (entry.firstAttemptAt.getD now)
  attemptStartedAt := some now
  reportedPosition := none

/-- Takes a failed attempt as one that does not count. -/
def forgive (entry : Entry) (config : QueueConfig) (serverFull : Bool) : Entry :=
  if serverFull && config.resetAttemptsWhenFull then { entry with attempts := 0 } else entry

end Entry

namespace Queue

def empty (config : QueueConfig) (now : Nat) : Queue :=
  ⟨config, [], now, false⟩

def length (queue : Queue) : Nat :=
  queue.entries.length

def isEmpty (queue : Queue) : Bool :=
  queue.entries.isEmpty

def find? (queue : Queue) (player : PlayerId) : Option Entry :=
  queue.entries.find? fun entry => entry.player == player

def contains (queue : Queue) (player : PlayerId) : Bool :=
  (queue.find? player).isSome

def joiningCount (queue : Queue) : Nat :=
  queue.entries.countP (·.isJoining)

def waitingCount (queue : Queue) : Nat :=
  queue.entries.countP (·.isWaiting)

/-- The position of a player among those who wait, counted from one. -/
def position? (queue : Queue) (player : PlayerId) : Option Nat :=
  ((queue.entries.filter (·.isWaiting)).findIdx? fun entry => entry.player == player).map (· + 1)

/-- The queue is empty and has not changed for the idle time. -/
def isIdle (queue : Queue) (now : Nat) : Bool :=
  queue.isEmpty && queue.config.idleTimeout ≤ now - queue.lastActivity

/-- Queues a player at the end.  A player who is queued already is refused before a lack of room
is. -/
def enqueue (queue : Queue) (player : PlayerId) (now : Nat) : Queue × Except QueueError Unit :=
  if queue.contains player then (queue, .error .alreadyQueued)
  else if queue.config.maxQueueLength ≤ queue.length then (queue, .error .queueFull)
  else
    ({ queue with entries := queue.entries ++ [Entry.arrive player], lastActivity := now }, .ok ())

def remove (queue : Queue) (player : PlayerId) (reason : DequeueReason) (now : Nat) :
    Option (Queue × QueueEvent) :=
  if queue.contains player then
    some ({ queue with
      entries := queue.entries.eraseP fun entry => entry.player == player
      lastActivity := now }, .dequeued player reason)
  else none

/-- Replaces the first entry of a player by what a step makes of it. -/
def settle (player : PlayerId) (step : Entry → Except DequeueReason Entry) :
    List Entry → List Entry × List QueueEvent
  | [] => ([], [])
  | entry :: rest =>
    if entry.player = player then
      match step entry with
      | .ok entry => (entry :: rest, [])
      | .error reason => (rest, [.dequeued player reason])
    else
      let (rest, events) := settle player step rest
      (entry :: rest, events)

/-- A failed attempt of a player who is joining. -/
def failAttempt (queue : Queue) (player : PlayerId) (serverFull : Bool) (now : Nat) :
    Queue × List QueueEvent :=
  let (entries, events) := settle player
    (fun entry => (entry.forgive queue.config serverFull).retry queue.config now) queue.entries
  ({ queue with entries, lastActivity := now }, events)

/-- Takes a player's report on an attempt.  The report of a failure from a player who is not
joining changes nothing. -/
def acknowledge (queue : Queue) (player : PlayerId) (result : JoinResult) (now : Nat) :
    Queue × Except QueueError (List QueueEvent) :=
  match queue.find? player with
  | none => (queue, .error .notQueued)
  | some entry =>
    let untouched := { queue with lastActivity := now }
    let leave (reason : DequeueReason) : Queue × List QueueEvent :=
      match queue.remove player reason now with
      | some (queue, event) => (queue, [event])
      | none => (untouched, [])
    let (queue, events) :=
      match result with
      | .joined => leave .joined
      | .rejected => leave .joinFailed
      | .failed serverFull =>
        if entry.isJoining then queue.failAttempt player serverFull now else (untouched, [])
    (queue, .ok events)

def ageAll (config : QueueConfig) (now : Nat) : List Entry → List Entry × List QueueEvent
  | [] => ([], [])
  | entry :: rest =>
    let (kept, events) := ageAll config now rest
    match entry.age config now with
    | .ok entry => (entry :: kept, events)
    | .error reason => (kept, .dequeued entry.player reason :: events)

/-- Starts attempts for the first waiting players, as far as there is room. -/
def promoteFirst (now : Nat) : Nat → List Entry → List Entry × List QueueEvent
  | _, [] => ([], [])
  | 0, entries => (entries, [])
  | room + 1, entry :: rest =>
    if entry.isWaiting then
      let (rest, events) := promoteFirst now room rest
      let promoted := entry.promote now
      (promoted :: rest, .join promoted.player promoted.attempts :: events)
    else
      let (rest, events) := promoteFirst now (room + 1) rest
      (entry :: rest, events)

/-- Tells the waiting players their positions, so far as they have changed. -/
def announce (queueLength : Nat) : Nat → List Entry → List Entry × List QueueEvent
  | _, [] => ([], [])
  | before, entry :: rest =>
    if entry.isWaiting then
      let position := before + 1
      let (rest, events) := announce queueLength position rest
      if entry.reportedPosition = some position then (entry :: rest, events)
      else
        ({ entry with reportedPosition := some position } :: rest,
          .position entry.player position queueLength :: events)
    else
      let (rest, events) := announce queueLength before rest
      (entry :: rest, events)

/-- A pass over the queue: attempts and times for joining expire, waiting players take the free
joining slots, and changes of position are announced.  `slots` is the number of players who may join
at once; where it is unknown, one may. -/
def process (queue : Queue) (now : Nat) (slots : Option Count) : Queue × List QueueEvent :=
  let (aged, departures) := ageAll queue.config now queue.entries
  let room := (slots.getD 1).toNat - aged.countP (·.isJoining)
  let (promoted, joins) := promoteFirst now room aged
  let (entries, positions) := announce promoted.length 0 promoted
  let events := departures ++ joins ++ positions
  ({ queue with
    entries
    lastActivity := if events.isEmpty then queue.lastActivity else now }, events)

end Queue

end Muster
