import Muster.Matchmaker.Search
import Muster.Registry.Refresh

/-!
# Ticks

A tick takes the players of the pool as they are, asks the servers they named for fresh reports,
and evaluates the two.  Then, in one step, it hands the groups over to the queues and reports to
those who are left.  Players may come, change their minds and leave while the servers are being
asked; only those who are still in the pool are handed over.
-/

namespace Muster

/-- The error that a player hears of when a queue refuses to take the player. -/
def QueueError.toMatchmakingError : QueueError → MatchmakingError
  | .queueFull => .queueFull
  | .alreadyQueued => .alreadyJoining
  | .notQueued => .notSearching

namespace Matchmaker

/-- The servers that players of a snapshot named, each once for every zone in which it was named. -/
def namedServers (snapshot : List Searcher) : List Endpoint :=
  (snapshot.flatMap Searcher.addresses).eraseDups.map Endpoint.withoutZone

/-- A server asked in a tick is overbooked: more of its slots are reserved than a count holds, so
that they cannot be added up and nothing comes of the tick. -/
structure Overbooked where
  server : Endpoint
  deriving DecidableEq, Repr

/-- The status of a server, if a report of it came with this tick. -/
def freshStatus? (statuses : List Refreshed) (server : GameServer) : Option Scoreboard :=
  if statuses.any fun status => status.responded && status.address == server.address then
    server.status.map (·.value)
  else none

/-- What a tick makes of a server that was asked for its info: a view, if it answered. -/
def view? (registry : Registry) (statuses : List Refreshed) (refreshed : Refreshed) :
    Except Overbooked (Option ServerView) :=
  match (registry.get? refreshed.address).filter fun _ => refreshed.responded with
  | none => .ok none
  | some server =>
    match server.info, server.reservedSlots? with
    | none, _ => .ok none
    | some _, none => .error ⟨server.address⟩
    | some info, some reserved =>
      .ok (some (.ofReports info.value (freshStatus? statuses server) reserved))

/-- The views of the servers that reported their info, in the order of their answers. -/
def views (registry : Registry) (statuses : List Refreshed) :
    (infos : List Refreshed) → Except Overbooked (List ServerView)
  | [] => .ok []
  | refreshed :: rest => do
    let view ← view? registry statuses refreshed
    let others ← views registry statuses rest
    return view.toList ++ others

/-! ## Handing over -/

/-- Hands one matched player over to the queue of a server.  A player whom the queue refuses goes
back to the pool. -/
def handOver (matchmaker : Matchmaker) (server : Endpoint) (group : List PlayerId)
    (searcher : Searcher) (now : Nat) : Matchmaker × List Effect :=
  let found := Effect.notify searcher.id (.matchFound server group)
  match matchmaker.enqueue server searcher.id now with
  | .ok (matchmaker, effects) => (matchmaker, found :: effects)
  | .error error =>
    (matchmaker.addSearcher searcher,
      [found, .notify searcher.id (.failure error.toMatchmakingError)])

/-- Hands the players of a group over, one after the other. -/
def handOverAll (server : Endpoint) (group : List PlayerId) (now : Nat) :
    List Searcher → Matchmaker → Matchmaker × List Effect
  | [], matchmaker => (matchmaker, [])
  | searcher :: rest, matchmaker =>
    let (matchmaker, effects) := matchmaker.handOver server group searcher now
    let (matchmaker, others) := handOverAll server group now rest matchmaker
    (matchmaker, effects ++ others)

/-- Commits one group.  Players who have left the pool are not part of it any more, and if its
server has been forgotten the group stays in the pool.  Returns the group as it was committed. -/
def commitGroup (matchmaker : Matchmaker) (candidate : Candidate) (now : Nat) :
    Matchmaker × Candidate × List Effect :=
  let present := candidate.players.filterMap matchmaker.searcher?
  let group := present.map (·.id)
  let committed := { candidate with players := group }
  if present.isEmpty || (matchmaker.registry.get? candidate.server).isNone then
    (matchmaker, committed, [])
  else
    let without := group.foldl removeSearcher matchmaker
    let (matchmaker, effects) := handOverAll candidate.server group now present without
    (matchmaker, committed, effects)

/-- Commits the groups of an evaluation in their order. -/
def commit (now : Nat) :
    List Candidate → Matchmaker → Matchmaker × List Candidate × List Effect
  | [], matchmaker => (matchmaker, [], [])
  | candidate :: rest, matchmaker =>
    let (matchmaker, committed, effects) := matchmaker.commitGroup candidate now
    let (matchmaker, candidates, others) := commit now rest matchmaker
    (matchmaker, committed :: candidates, effects ++ others)

/-! ## Reporting -/

/-- Counts the attempt of a player who is still in the pool and tells the player the hints.  The
count of attempts is a word: after the largest it begins anew. -/
def reportTo (matchmaker : Matchmaker) (evaluation : Evaluation) (player : PlayerId) :
    Matchmaker × List Effect :=
  match matchmaker.searcher? player with
  | none => (matchmaker, [])
  | some searcher =>
    let hints := evaluation.hintsFor player
    let attempts := searcher.attempts + 1
    (matchmaker.modifySearcher player fun searcher =>
      { searcher with attempts, possibleMatches := hints },
      [.notify player (.searchUpdate attempts hints)])

/-- Reports to the players of a snapshot. -/
def report (evaluation : Evaluation) :
    List PlayerId → Matchmaker → Matchmaker × List Effect
  | [], matchmaker => (matchmaker, [])
  | player :: rest, matchmaker =>
    let (matchmaker, effects) := matchmaker.reportTo evaluation player
    let (matchmaker, others) := report evaluation rest matchmaker
    (matchmaker, effects ++ others)

/-- The hints that the report leaves over: the others have been handed to those who hear of them. -/
def unreported (matchmaker : Matchmaker) (evaluation : Evaluation) (players : List PlayerId) :
    List Hint :=
  evaluation.hints.filter fun hint =>
    !(players.contains hint.player && matchmaker.isSearching hint.player)

/-- The second half of a tick: evaluates an earlier snapshot of the pool, commits and reports.
Returns the groups as they were committed, and the hints of which nobody heard. -/
def finishTick (matchmaker : Matchmaker) (snapshot : List Searcher) (views : List ServerView)
    (now : Nat) : Matchmaker × Evaluation × List Effect :=
  let players := snapshot.map (·.id)
  let evaluation := evaluate snapshot views now
  let (matchmaker, matched, effects) := commit now evaluation.matched matchmaker
  let hints := matchmaker.unreported evaluation players
  let (matchmaker, others) := report evaluation players matchmaker
  (matchmaker, { matched, hints }, effects ++ others)

/-- Registers the servers that players of the pool named and asks all of them for fresh reports.
Returns what is known of those that answered. -/
def probeNamed (matchmaker : Matchmaker) (service : QueryService) (probeTimeout : Nat) :
    Matchmaker × QueryService × Except Overbooked (List ServerView) :=
  let addresses := namedServers matchmaker.pool
  let registry := matchmaker.registry.getOrCreateAll addresses service.now
  let (registry, service, infos, statuses) :=
    registry.refreshBoth service addresses probeTimeout
  ({ matchmaker with registry }, service, views registry statuses infos)

/-- One tick without interruption.  Nothing is done where nobody searches.  A tick that meets an
overbooked server ends when the reports have come: no player is matched and none is told. -/
def tick (matchmaker : Matchmaker) (service : QueryService) (probeTimeout : Nat) :
    Matchmaker × QueryService × Except Overbooked (Evaluation × List Effect) :=
  if matchmaker.pool.isEmpty then (matchmaker, service, .ok (⟨[], []⟩, []))
  else
    let snapshot := matchmaker.pool
    let (matchmaker, service, seen) := matchmaker.probeNamed service probeTimeout
    match seen with
    | .error overbooked => (matchmaker, service, .error overbooked)
    | .ok views =>
      let (matchmaker, outcome) := matchmaker.finishTick snapshot views service.now
      (matchmaker, service, .ok outcome)

end Matchmaker

end Muster
