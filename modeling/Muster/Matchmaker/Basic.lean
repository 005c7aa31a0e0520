import Muster.Match.Evaluation
import Muster.Matchmaker.Effect
import Muster.Registry.Basic

/-!
# The matchmaker

The players in search of a match, the known servers with their queues, and the processors that look
after the queues.  Every operation is one step that nothing interrupts.  It takes the present time
in milliseconds and returns the effects it has.
-/

namespace Muster

/-- Looks after the queue of one server until the queue is idle. -/
structure Processor where
  /-- The serial of the server. -/
  server : Nat
  /-- The time of the next pass. -/
  dueAt : Nat
  deriving DecidableEq, Repr

/-- The search pool, the servers and the processors of their queues. -/
structure Matchmaker where
  /-- Players in search of a match, each once. -/
  pool : List Searcher
  registry : Registry
  /-- The processors, in the order of their last passes. -/
  processors : List Processor
  /-- Processors no longer run. -/
  isShutdown : Bool
  deriving DecidableEq, Repr

/-- Where a player was taken from. -/
inductive Withdrawal where
  | search
  | queue (server : Endpoint)
  deriving DecidableEq, Repr

namespace Matchmaker

/-- Nobody searches and no server is known. -/
def empty (queueConfig : QueueConfig) : Matchmaker :=
  ⟨[], .empty queueConfig, [], false⟩

/-- The time that players have to report on an attempt to join. -/
def joinTimeout (matchmaker : Matchmaker) : Nat :=
  matchmaker.registry.queueConfig.joinTimeout

def searcher? (matchmaker : Matchmaker) (player : PlayerId) : Option Searcher :=
  matchmaker.pool.find? fun searcher => searcher.id == player

def isSearching (matchmaker : Matchmaker) (player : PlayerId) : Bool :=
  (matchmaker.searcher? player).isSome

/-- Takes a player out of the pool. -/
def removeSearcher (matchmaker : Matchmaker) (player : PlayerId) : Matchmaker :=
  { matchmaker with pool := matchmaker.pool.filter fun searcher => searcher.id != player }

def addSearcher (matchmaker : Matchmaker) (searcher : Searcher) : Matchmaker :=
  let others := matchmaker.removeSearcher searcher.id
  { others with pool := others.pool ++ [searcher] }

/-- Changes the entry of a player in the pool. -/
def modifySearcher (matchmaker : Matchmaker) (player : PlayerId) (change : Searcher → Searcher) :
    Matchmaker :=
  { matchmaker with
    pool := matchmaker.pool.map fun searcher =>
      if searcher.id = player then change searcher else searcher }

/-- Registers a server, unless its address is known. -/
def register (matchmaker : Matchmaker) (mention : Endpoint) (nameHint : String) (now : Nat) :
    Matchmaker :=
  { matchmaker with registry := matchmaker.registry.getOrCreate mention nameHint now }

/-- Registers the servers that a player named. -/
def registerAll (matchmaker : Matchmaker) (servers : List PreferredServer) (now : Nat) :
    Matchmaker :=
  { matchmaker with
    registry := matchmaker.registry.getOrCreateAll (servers.map (·.address)) now }

/-- Forgets servers whose queues are idle, where that is configured. -/
def pruneIdle (matchmaker : Matchmaker) (now : Nat) : Matchmaker :=
  { matchmaker with registry := matchmaker.registry.pruneIdle now }

/-- Processors end. -/
def shutdown (matchmaker : Matchmaker) : Matchmaker :=
  { matchmaker with processors := [], isShutdown := true }

end Matchmaker

end Muster
