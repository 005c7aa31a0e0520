import Muster.Daemon.Basic

/-!
# Runs of the daemon

The daemon on a network, with its timers.  At every point in time everything takes place that can;
then time passes, and the timers that are due by then act, each of them once.  The loop of ticks
waits for a player to enter, makes a tick, pauses, and goes on with the next tick if anybody still
searches.  A tick is open as long as one of the servers it asks has neither answered nor run out of
time.
-/

namespace Muster

/-- A tick that is open. -/
structure OpenTick where
  snapshot : List Searcher
  /-- The servers that were asked. -/
  addresses : List Endpoint
  infos : Batch .info
  statuses : Batch .status
  /-- The time at which the servers have run out of time. -/
  closesAt : Nat

/-- What the loop of ticks does. -/
inductive TickPhase where
  /-- Waits for a player to enter. -/
  | waiting
  | probing (tick : OpenTick)
  /-- Pauses until a point in time. -/
  | pausing (resumesAt : Nat)
  /-- Has ended at a server that was overbooked. -/
  | failed (overbooked : Matchmaker.Overbooked)

/-- The daemon, its query service and its timers. -/
structure DaemonRun where
  daemon : Daemon
  service : QueryService
  phase : TickPhase
  isRunning : Bool

namespace DaemonRun

/-- The time between two sweeps, in milliseconds. -/
def sweepInterval : Nat := 1000

/-- A daemon that has just started on a network. -/
def start (config : DaemonConfig) (network : Network) : DaemonRun :=
  ⟨.start config, .start config.query network Lookups.literal, .waiting, true⟩

def now (run : DaemonRun) : Nat :=
  run.service.now

/-- Takes all messages out of the mailbox.  Of several players at one address the oldest session
is taken. -/
def handleMailbox (run : DaemonRun) : DaemonRun :=
  { run with
    daemon := run.daemon.mailbox.foldl (fun daemon _ => daemon.handleNext 0 run.now) run.daemon }

/-- All changes of queues come into the mailbox. -/
def forwardAll (run : DaemonRun) : DaemonRun :=
  { run with daemon := run.daemon.admissions.foldl (fun daemon _ => daemon.forward) run.daemon }

/-- Handles everything that is under way.  Changes of queues cause no others, so the mailbox is
empty after it has been emptied twice. -/
def drain (run : DaemonRun) : DaemonRun :=
  run.handleMailbox.forwardAll.handleMailbox

def closeTick (run : DaemonRun) (tick : OpenTick) : DaemonRun :=
  let (service, infos) := run.service.closeBatch tick.infos
  let (service, statuses) := service.closeBatch tick.statuses
  let matchmaker := run.daemon.matchmaker
  let (registry, infos) := Registry.takeResults tick.addresses infos matchmaker.registry
  let (registry, statuses) := Registry.takeResults tick.addresses statuses registry
  let daemon := { run.daemon with matchmaker := { matchmaker with registry } }
  match Matchmaker.views registry statuses infos with
  | .error overbooked => { run with daemon, service, phase := .failed overbooked }
  | .ok views =>
    { run with
      daemon := daemon.finishTick tick.snapshot views service.now
      service
      phase := .pausing (service.now + daemon.config.ticks.interval) }

/-- Opens a tick: asks the servers that players named, and closes it at once if all of them have
answered. -/
def openTick (run : DaemonRun) : DaemonRun :=
  let matchmaker := run.daemon.matchmaker
  let timeout := run.daemon.config.ticks.probeTimeout
  let addresses := Matchmaker.namedServers matchmaker.pool
  let registry := matchmaker.registry.getOrCreateAll addresses run.now
  let servers := addresses.map HostPort.ofEndpoint
  let (service, infos) := run.service.openBatch .info servers timeout
  let (service, statuses) := service.openBatch .status servers timeout
  let (service, infos, statuses) := service.settleWith QueryService.collectBoth (infos, statuses)
  let wait := max (service.remainingTime infos timeout) (service.remainingTime statuses timeout)
  let tick := ⟨matchmaker.pool, addresses, infos, statuses, service.now + wait⟩
  let run :=
    { run with
      daemon := { run.daemon with matchmaker := { matchmaker with registry } }
      service
      phase := .probing tick }
  if wait = 0 then run.closeTick tick else run

/-- What the loop of ticks can do at the present time. -/
def stepTicks (run : DaemonRun) : DaemonRun :=
  match run.phase with
  | .waiting => if run.daemon.matchmaker.pool.isEmpty then run else run.openTick
  | .probing tick => if tick.closesAt ≤ run.now then run.closeTick tick else run
  | .pausing resumesAt =>
    if run.now < resumesAt then run
    else if run.daemon.matchmaker.pool.isEmpty then { run with phase := .waiting }
    else run.openTick
  | .failed _ => run

/-- The passes of the processors that are due. -/
def stepProcessors (run : DaemonRun) : DaemonRun :=
  { run with daemon := run.daemon.runProcessors run.now }

/-- Everything takes place that can at the present time. -/
def settle (run : DaemonRun) : DaemonRun :=
  if run.isRunning then run.drain.stepTicks.drain.stepProcessors.drain else run

def receive (run : DaemonRun) (datagram : List UInt8) (sender : Endpoint) : DaemonRun :=
  if run.isRunning then { run with daemon := run.daemon.receive datagram sender }.settle else run

/-- Time passes.  Sessions and idle servers are looked at if a multiple of the interval between
sweeps is reached or passed. -/
def advance (run : DaemonRun) (milliseconds : Nat) : DaemonRun :=
  let before := run.now
  let run := { run with service := run.service.advance milliseconds }
  if run.isRunning && before / sweepInterval < run.now / sweepInterval then
    { run with daemon := run.daemon.sweep run.now }.settle
  else run.settle

/-- The daemon ends. -/
def shutdown (run : DaemonRun) : DaemonRun :=
  { run with
    daemon := { run.daemon with matchmaker := run.daemon.matchmaker.shutdown }
    service := run.service.shutdown
    isRunning := false }

/-- Takes the packets that have been sent. -/
def takeOutbound (run : DaemonRun) : DaemonRun × List Outbound :=
  ({ run with daemon := { run.daemon with outbound := [] } }, run.daemon.outbound)

end DaemonRun

end Muster
