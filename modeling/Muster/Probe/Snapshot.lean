import Muster.Count
import Muster.Probe.Message
import Muster.Probe.Scoreboard

/-!
# Reported snapshots

The game server's side of the query protocol: the state a server reports, the bodies of its two
reports, and the replies that carry them.  A server whose players and bots together are more than a
count holds has no info to report.
-/

namespace Muster

/-- What a game server reports about itself. -/
structure Snapshot where
  hostname : String := "^2Fake ^7Server"
  map : String := "mp_crash"
  gameType : String := "war"
  maxClients : UInt32 := 18
  bots : UInt32 := 0
  players : List PlayerScore := []
  isPrivate : Bool := false
  deriving DecidableEq, Repr

namespace Snapshot

/-- Adds players numbered from one, all with the same score. -/
def withPlayers (snapshot : Snapshot) (count : Nat) (score : Int32) : Snapshot :=
  { snapshot with
    players := snapshot.players ++
      (List.range count).map fun index => ⟨score, 50, "player" ++ toString (index + 1)⟩ }

/-- Players and bots together, where a count holds them. -/
def clients? (snapshot : Snapshot) : Option Count :=
  Count.sum? snapshot.players.length.toUInt32 snapshot.bots

/-- Keys and values in the layout in which they alternate. -/
def render (fields : List (String × String)) : String :=
  String.join (fields.map fun (key, value) => "\\" ++ key ++ "\\" ++ value)

def infoBody? (snapshot : Snapshot) : Option String :=
  snapshot.clients?.map fun clients =>
    render [
      ("hostname", snapshot.hostname), ("mapname", snapshot.map),
      ("gametype", snapshot.gameType), ("clients", toString clients.toNat),
      ("bots", toString snapshot.bots.toNat),
      ("sv_maxclients", toString snapshot.maxClients.toNat),
      ("pswrd", if snapshot.isPrivate then "1" else "0"), ("dedicated", "1"), ("sv_running", "1")]

/-- The line of a player in the status report. -/
def playerLine (player : PlayerScore) : String :=
  toString player.score.toInt ++ " " ++ toString player.ping.toNat ++ " \"" ++ player.name ++
    "\"\n"

def statusBody (snapshot : Snapshot) : String :=
  render [
    ("sv_hostname", snapshot.hostname), ("mapname", snapshot.map),
    ("g_gametype", snapshot.gameType)] ++ "\n" ++
    String.join (snapshot.players.map playerLine)

/-- The body of the report that is asked for. -/
def body? (snapshot : Snapshot) : ProbeKind → Option String
  | .info => snapshot.infoBody?
  | .status => some snapshot.statusBody

def reply? (snapshot : Snapshot) (kind : ProbeKind) : Option Message :=
  (snapshot.body? kind).map fun body => ⟨kind.replyCommand, body, '\n'⟩

end Snapshot

end Muster
