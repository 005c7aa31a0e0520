import Muster.Matchmaker.Admission

/-!
# Processors

A processor makes its first pass as soon as it is started and one pass after each interval from
then on.  A pass that is late moves the next one, unless it is late by no more than the tolerance;
then the next one keeps its time, and where that has come as well, it takes place at once.  The
processor ends with a pass that finds the queue idle.
-/

namespace Muster

namespace Processor

/-- How late a pass may be, in milliseconds, and still count as one in time. -/
def tolerance : Nat := 5

/-- The time of the pass after one that took place at the given time. -/
def nextDue (processor : Processor) (interval now : Nat) : Nat :=
  if now ≤ processor.dueAt + tolerance then processor.dueAt + interval else now + interval

end Processor

namespace Matchmaker

/-- The server that a processor looks after. -/
def serverOf? (matchmaker : Matchmaker) (processor : Processor) : Option GameServer :=
  matchmaker.registry.servers.find? fun server => server.serial == processor.server

/-- One pass of a processor.  It ends if its queue is idle or its server is forgotten; otherwise it
takes its place behind the others. -/
def runProcessor (matchmaker : Matchmaker) (processor : Processor) (now : Nat) :
    Matchmaker × List Effect :=
  let others := matchmaker.processors.filter fun other => other.server != processor.server
  match matchmaker.serverOf? processor with
  | none => ({ matchmaker with processors := others }, [])
  | some server =>
    let (changed, events, isIdle) := server.processInBackground now
    let interval := matchmaker.registry.queueConfig.processInterval
    let processors :=
      if isIdle then others
      else others ++ [{ processor with dueAt := processor.nextDue interval now }]
    { matchmaker with processors }.replaceServer changed events

/-- The processors whose pass is due, in the order of the times at which it was; of two with the
same time the one that made its last pass first comes first. -/
def dueProcessors (matchmaker : Matchmaker) (now : Nat) : List Processor :=
  Order.arrange (fun left right => left.dueAt ≤ right.dueAt)
    (matchmaker.processors.filter fun processor => processor.dueAt ≤ now)

/-- The passes of the processor of a server as long as they are due, at most so many. -/
def runPasses (server now : Nat) : Nat → Matchmaker → Matchmaker × List Effect
  | 0, matchmaker => (matchmaker, [])
  | limit + 1, matchmaker =>
    let isDue (processor : Processor) : Bool := processor.server == server && processor.dueAt ≤ now
    match matchmaker.processors.find? isDue with
    | none => (matchmaker, [])
    | some processor =>
      let (matchmaker, effects) := matchmaker.runProcessor processor now
      let (matchmaker, others) := runPasses server now limit matchmaker
      (matchmaker, effects ++ others)

/-- The passes of each of several processors.  A pass that is within the tolerance is followed by no
more passes than there are milliseconds in the tolerance. -/
def runProcessors (now : Nat) : List Processor → Matchmaker → Matchmaker × List Effect
  | [], matchmaker => (matchmaker, [])
  | processor :: rest, matchmaker =>
    let (matchmaker, effects) :=
      runPasses processor.server now (Processor.tolerance + 1) matchmaker
    let (matchmaker, others) := runProcessors now rest matchmaker
    (matchmaker, effects ++ others)

/-- The passes of each processor that is due. -/
def runDue (matchmaker : Matchmaker) (now : Nat) : Matchmaker × List Effect :=
  runProcessors now (matchmaker.dueProcessors now) matchmaker

end Matchmaker

end Muster
