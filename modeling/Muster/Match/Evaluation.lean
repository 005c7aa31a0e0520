import Muster.Match.Group
import Muster.Match.Quality

/-!
# A matchmaking pass

A pass runs in rounds.  Each round ranks the servers by quality, builds the best group per server
from the eligible players, and commits the best of these groups.  Its players leave the pool and
take slots on their server.  The pass ends with the round that finds no group; the hints for the
players that are left come from that round.
-/

namespace Muster

/-- A group and the server it is to join. -/
structure Candidate where
  server : Endpoint
  hostname : String
  quality : Float
  players : List PlayerId

/-- A possible match for one player. -/
structure Hint where
  player : PlayerId
  possible : PossibleMatch
  deriving DecidableEq, Repr

/-- The outcome of a pass: the committed matches in order, and the hints. -/
structure Evaluation where
  matched : List Candidate
  hints : List Hint

namespace Evaluation

def hintsFor (evaluation : Evaluation) (player : PlayerId) : List PossibleMatch :=
  (evaluation.hints.filter fun hint => hint.player == player).map (·.possible)

/-- The match that a player is part of. -/
def matchOf? (evaluation : Evaluation) (player : PlayerId) : Option Candidate :=
  evaluation.matched.find? fun candidate => candidate.players.contains player

/-- The order in which players are considered: by the time of entry, then by number. -/
def waitedLonger (left right : Searcher) : Bool :=
  left.joinedAt < right.joinedAt || (left.joinedAt == right.joinedAt && left.id ≤ right.id)

/-- Servers in the order of their quality, the best first; equal ones keep their order. -/
def ranked (servers : List ServerView) : List ServerView :=
  Order.arrange (fun left right => Quality.rank right.quality ≤ Quality.rank left.quality) servers

/-- The players of the pool who named the server, in the order of how many players they want. -/
def interested (pool : List Searcher) (view : ServerView) : List Searcher :=
  Group.ordered (pool.filter fun player => player.prefers view.address)

/-- Players whom nothing keeps off the server. -/
def eligible (pool : List Searcher) (view : ServerView) : List Searcher :=
  (interested pool view).filter fun player => player.isEligible view

/-- Players whom something keeps off the server. -/
def blocked (pool : List Searcher) (view : ServerView) : List Searcher :=
  (interested pool view).filter fun player => !player.isEligible view

/-- The reason is that of a first attempt. -/
def isWaiting : Ineligibility → Bool
  | .waitingForPlayers .. => true
  | _ => false

/-- Blocked players whom only the rule for the first attempt keeps off the server.  They can still
form a lobby together, so they count towards each other's hints. -/
def waiting (pool : List Searcher) (view : ServerView) : List Searcher :=
  (blocked pool view).filter fun player => (player.ineligibility view).all isWaiting

def candidate? (pool : List Searcher) (now : Nat) (view : ServerView) : Option Candidate :=
  (Group.select? (eligible pool view) view view.availableSlots).map fun group => {
    server := view.address
    hostname := view.hostname
    quality := Quality.ofMatch view.quality view.address group now
    players := group.map (·.id) }

/-- The players with whom a blocked player could form a group, the player among them. -/
def hintPool (pool : List Searcher) (view : ServerView) (player : Searcher) : List Searcher :=
  Group.ordered
    ((eligible pool view ++ waiting pool view).filter (fun other => other.id != player.id) ++
      [player])

/-- The hint for a blocked player: the best group, if the player is part of it. -/
def hint? (pool : List Searcher) (now : Nat) (view : ServerView) (player : Searcher) :
    Option Hint :=
  match Group.select? (hintPool pool view player) view view.availableSlots with
  | none => none
  | some group =>
    if group.any fun other => other.id == player.id then
      some {
        player := player.id
        possible := {
          server := view.address
          hostname := view.hostname
          quality := ⟨(Quality.ofMatch view.quality view.address group now).toBits⟩
          players := group.map (·.id)
          blockedBy := player.ineligibility view } }
    else none

def serverHints (pool : List Searcher) (now : Nat) (view : ServerView) : List Hint :=
  (blocked pool view).filterMap (hint? pool now view)

/-- Servers with slots left. -/
def withSlots (servers : List ServerView) : List ServerView :=
  servers.filter fun view => view.availableSlots != 0

/-- The better of two candidates; the earlier one unless the later is truly better. -/
def better (best : Option Candidate) (next : Candidate) : Option Candidate :=
  match best with
  | none => some next
  | some candidate => if candidate.quality < next.quality then some next else some candidate

def best? (pool : List Searcher) (now : Nat) (servers : List ServerView) : Option Candidate :=
  ((withSlots servers).filterMap (candidate? pool now)).foldl better none

def roundHints (pool : List Searcher) (now : Nat) (servers : List ServerView) : List Hint :=
  (withSlots servers).flatMap (serverHints pool now)

/-- Reserves slots on the first server with the address. -/
def reserve (address : Endpoint) (count : Nat) : List ServerView → List ServerView
  | [] => []
  | view :: rest =>
    if view.address = address then
      { view with reservedSlots := view.reservedSlots + count.toUInt32 } :: rest
    else view :: reserve address count rest

/-- The players who are not part of a candidate. -/
def without (pool : List Searcher) (candidate : Candidate) : List Searcher :=
  pool.filter fun player => !candidate.players.contains player.id

/-- Runs rounds.  Each one that commits a group takes players out of the pool, so as many rounds as
there are players suffice. -/
def rounds (now : Nat) : Nat → List Searcher → List ServerView → Evaluation
  | 0, pool, servers => ⟨[], roundHints pool now (ranked servers)⟩
  | limit + 1, pool, servers =>
    match best? pool now (ranked servers) with
    | none => ⟨[], roundHints pool now (ranked servers)⟩
    | some best =>
      let rest := rounds now limit (without pool best)
        (reserve best.server best.players.length (ranked servers))
      ⟨best :: rest.matched, rest.hints⟩

end Evaluation

/-- Runs a pass over players and servers. -/
def evaluate (players : List Searcher) (servers : List ServerView) (now : Nat) : Evaluation :=
  Evaluation.rounds now players.length (Order.arrange Evaluation.waitedLonger players) servers

end Muster
