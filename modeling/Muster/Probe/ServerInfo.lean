import Muster.Count
import Muster.Net.Endpoint
import Muster.Probe.Infostring
import Muster.Probe.ProtocolError
import Muster.Text.Numeral

/-!
# Server info

What a game server reports about itself when asked for its info.
-/

namespace Muster

/-- The slowest round trip that is told apart from slower ones, in milliseconds. -/
def maxPing : UInt32 := 999

/-- Limits a measured round trip to the range in which pings are shown. -/
def clampPing (milliseconds : Nat) : UInt32 :=
  if milliseconds ≤ maxPing.toNat then milliseconds.toUInt32 else maxPing

/-- The play mode of a server that names none. -/
def unknownPlayMode : String := "Unknown"

/-- An info report. -/
structure ServerInfo where
  address : Endpoint
  hostname : String
  map : String
  gameType : String
  modName : String
  playMode : String
  clients : Count
  bots : Count
  maxClients : Count
  ping : UInt32
  isPrivate : Bool
  deriving DecidableEq, Repr

namespace ServerInfo

/-- A field that holds a number; anything else counts as zero. -/
def count (fields : Infostring) (key : String) : Count :=
  ((fields.get? key).bind fun value => Text.Numeral.uint32? (Text.trim value.toList)).getD 0

def flag (fields : Infostring) (keys : List String) : Bool :=
  keys.any fun key => (fields.get? key).any fun value => Text.trim value.toList == ['1']

/-- Reads an info report.  Only a dedicated server that runs a map is accepted; any other field may
be missing. -/
def ofReport (address : Endpoint) (body : String) (ping : UInt32) :
    Except ProtocolError ServerInfo :=
  let fields := Infostring.ofText body
  if fields.get? "dedicated" ≠ some "1" then .error (.invalidInfo .notDedicated)
  else if fields.get? "sv_running" ≠ some "1" then .error (.invalidInfo .notRunning)
  else
    .ok {
      address
      hostname := fields.textOf ["hostname", "sv_hostname"]
      map := fields.textOf ["mapname"]
      gameType := fields.textOf ["gametype", "g_gametype"]
      modName := fields.textOf ["fs_game", "game"]
      playMode := ((fields.get? "playmode").filter (· ≠ "")).getD unknownPlayMode
      clients := count fields "clients"
      bots := count fields "bots"
      maxClients := count fields "sv_maxclients"
      ping := if ping ≤ maxPing then ping else maxPing
      isPrivate := flag fields ["pswrd", "needpass", "g_needpass"] }

/-- Clients that are no bots. -/
def realPlayers (info : ServerInfo) : Count :=
  Count.minus info.clients info.bots

/-- Slots that no client has taken. -/
def freeSlots (info : ServerInfo) : Count :=
  Count.minus info.maxClients info.clients

end ServerInfo

end Muster
